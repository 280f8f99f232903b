import ComponentSchema.Files.Failure
import ComponentSchema.Settings
import ComponentSchema.Text.Words

/-!
The command line of the schema compiler, and the directory it writes into.
-/

namespace ComponentSchema

namespace CompilerSettings

def descriptor (settings : CompilerSettings) : Path := settings.outputDir.join "schema.descriptor"

def bundle (settings : CompilerSettings) : Path := settings.outputDir.join "schema.sb"

/-- Where the compiler puts the bundle in readable form. -/
def bundleJson (settings : CompilerSettings) : Path := settings.outputDir.join "schema.json"

/-- Where the compiler puts syntax trees, if it is asked for any. -/
def astDir (settings : CompilerSettings) : Path := settings.outputDir.join "ast"

/-- The words of the additional arguments, without the quotes around all of them. -/
def passthrough (settings : CompilerSettings) : List String :=
  match settings.additionalArgs with
  | none => []
  | some text =>
    let inner := Words.trim (· == '"') (Words.trim Words.isSpace text.toList)
    (Words.split (Words.trim Words.isSpace inner)).map String.ofList

/-- The arguments that make the compiler write syntax trees. -/
def astSwitches : List String := ["ast_proto_out", "ast_json_out"]

/-- Whether the additional arguments ask for syntax trees. -/
def wantsAst (settings : CompilerSettings) : Bool :=
  settings.additionalArgs.any fun text =>
    astSwitches.any fun switch => Words.occurs switch.toList text.toList

/-- All arguments, in order. -/
def args (settings : CompilerSettings) : List String :=
  settings.schemaPaths.map ("--schema_path=" ++ ·) ++
    ["--descriptor_set_out=" ++ settings.descriptor, "--bundle_out=" ++ settings.bundle,
      "--bundle_json_out=" ++ settings.bundleJson, "--load_all_schema_on_schema_path"] ++
    settings.passthrough

def commandLine (settings : CompilerSettings) : String :=
  " ".intercalate (settings.exe :: settings.args)

/-- Empties the output directory, so that what an earlier call left cannot be taken for the result
of this one, and makes the directories the compiler expects. -/
def prepareOutput (settings : CompilerSettings) : FileTask Unit := do
  FileTask.freshDirectory settings.outputDir "clear compiled schema directory"
    "create compiled schema directory"
  if settings.wantsAst then
    (FileAction.createDirectories settings.astDir).reporting "create AST directory" settings.astDir

end CompilerSettings

end ComponentSchema
