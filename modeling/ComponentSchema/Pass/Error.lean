import ComponentSchema.Compiler.Basic
import ComponentSchema.Graph.Source
import ComponentSchema.Graph.Validation
import ComponentSchema.Ledger.Store
import ComponentSchema.Pass.Stage
import ComponentSchema.Schema.Emission

/-!
What can end a pass.  Every error belongs to one stage.
-/

namespace ComponentSchema

/-- Why a pass failed. -/
inductive PassError where
  | settings (error : SettingsError)
  | load (error : StoreError)
  | source (error : SourceError)
  | validation (findings : Findings GraphFault)
  | emission (error : EmissionError)
  | compilation (error : CompileError)
  | missingDescriptor (path : Path) (reason : IoError)
  | persist (error : StoreError)

namespace PassError

def stage : PassError → Stage
  | .settings _ => .idle
  | .load _ => .loading
  | .source _ => .discovering
  | .validation _ => .validating
  | .emission _ => .emitting
  | .compilation _ => .compiling
  | .missingDescriptor _ _ => .persisting
  | .persist _ => .persisting

def message : PassError → String
  | .settings error => error.message
  | .load error => "failed to load schema database: " ++ error.message
  | .source error => error.message
  | .validation findings =>
    "type graph validation failed:\n" ++ findings.render GraphFault.message
  | .emission error => error.message
  | .compilation error => error.message
  | .missingDescriptor path reason =>
    s!"compiled schema descriptor '{path}' is missing: " ++ reason.message
  | .persist error => "failed to persist schema database: " ++ error.message

end PassError

end ComponentSchema
