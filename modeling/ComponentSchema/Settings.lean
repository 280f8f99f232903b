import ComponentSchema.Files.FileSystem
import ComponentSchema.Toml.Parser

/-!
Settings of a project.  Everything has a default, so an empty file is a valid one.  Paths are
written relative to the file they stand in and are resolved once, when it is read.
-/

namespace ComponentSchema

/-- Where schema files and the ledger are kept, and how emission goes about its work. -/
structure GeneratorSettings where
  schemaDir : Path := "spatial/schema/unreal/generated"
  database : Path := "spatial/schema_database.json"
  batchSize : Nat := 100
  slots : UInt32 := 3
  neverCookDirs : List String := []
deriving DecidableEq, Repr, Inhabited

/-- How the schema compiler is called. -/
structure CompilerSettings where
  exe : Path := "schema_compiler"
  schemaPaths : List Path :=
    ["spatial/schema", "spatial/build/dependencies/schema/standard_library"]
  outputDir : Path := "spatial/build/assembly/schema"
  additionalArgs : Option String := none
deriving DecidableEq, Repr, Inhabited

/-- All settings. -/
structure Settings where
  generator : GeneratorSettings := {}
  compiler : CompilerSettings := {}
deriving DecidableEq, Repr, Inhabited

/-- What can be wrong with settings that were read. -/
inductive SettingsFault where
  | emptyBatch
  | noSchemaPath
deriving DecidableEq, Repr

def SettingsFault.message : SettingsFault → String
  | .emptyBatch => "invalid config: generator.batch_size must be greater than zero"
  | .noSchemaPath => "invalid config: compiler.schema_paths must name at least one directory"

/-- Why there are no settings to work with. -/
inductive SettingsError where
  | unreadable (path : Path) (reason : IoError)
  | malformed
  | invalid (fault : SettingsFault)
deriving DecidableEq, Repr

def SettingsError.message : SettingsError → String
  | .unreadable path reason => s!"failed to read config '{path}': " ++ reason.message
  | .malformed => "failed to parse config"
  | .invalid fault => fault.message

namespace Toml

def asString? : Toml → Option String
  | .string text => some text
  | _ => none

/-- An integer from zero up to below a bound. -/
def asNumberBelow? (bound : Nat) : Toml → Option Nat
  | .integer (.ofNat value) => if value < bound then some value else none
  | _ => none

def asItems? : Toml → Option (List Toml)
  | .array items => some items
  | .tables elements => some (elements.map (.table .headed))
  | _ => none

/-- The texts of an array of strings. -/
def asStrings? (value : Toml) : Option (List String) := do (← value.asItems?).mapM asString?

/-- The fields of a record by their names, each there or missing.  A table may hold no others; an
array gives them in order, may end early, and may go on behind the last. -/
def fields? (names : List String) : Toml → Option (List (Option Toml))
  | .table _ members =>
    if members.all fun member => names.contains member.1 then
      some (names.map (member? members))
    else none
  | value => value.asItems?.map fun items =>
      names.mapIdx fun index _ => items[index]?

/-- A field that has a default where it is missing. -/
def defaulted {α : Type} (default : α) (decode : Toml → Option α) : Option Toml → Option α
  | none => some default
  | some value => decode value

end Toml

open Toml in
def GeneratorSettings.ofToml? (value : Toml) : Option GeneratorSettings := do
  let usual : GeneratorSettings := {}
  match ← fields? ["schema_dir", "database", "batch_size", "dynamic_subobject_slots",
      "never_cook_dirs"] value with
  | [schemaDir, database, batchSize, slots, neverCookDirs] =>
    pure { schemaDir := ← defaulted usual.schemaDir asString? schemaDir,
           database := ← defaulted usual.database asString? database,
           batchSize := ← defaulted usual.batchSize (asNumberBelow? UInt64.size) batchSize,
           slots := ← defaulted usual.slots
             (fun value => (value.asNumberBelow? UInt32.size).map Nat.toUInt32) slots,
           neverCookDirs := ← defaulted usual.neverCookDirs asStrings? neverCookDirs }
  | _ => none

open Toml in
def CompilerSettings.ofToml? (value : Toml) : Option CompilerSettings := do
  let usual : CompilerSettings := {}
  match ← fields? ["exe", "schema_paths", "output_dir", "additional_args"] value with
  | [exe, schemaPaths, outputDir, additionalArgs] =>
    pure { exe := ← defaulted usual.exe asString? exe,
           schemaPaths := ← defaulted usual.schemaPaths asStrings? schemaPaths,
           outputDir := ← defaulted usual.outputDir asString? outputDir,
           additionalArgs := ← defaulted none (fun value => value.asString?.map some)
             additionalArgs }
  | _ => none

def Path.resolvedAt (base path : Path) : Path := if path.isAbsolute then path else base.join path

/-- The settings of the generator with paths as seen from a base. -/
def GeneratorSettings.resolvedAt (base : Path) (settings : GeneratorSettings) :
    GeneratorSettings :=
  { settings with
    schemaDir := base.resolvedAt settings.schemaDir
    database := base.resolvedAt settings.database }

/-- The settings of the compiler with paths as seen from a base.  A bare executable name stays one,
so that it is looked for among the installed programs. -/
def CompilerSettings.resolvedAt (base : Path) (settings : CompilerSettings) : CompilerSettings :=
  { settings with
    schemaPaths := settings.schemaPaths.map base.resolvedAt
    outputDir := base.resolvedAt settings.outputDir
    exe :=
      if settings.exe.components.length > 1 then base.resolvedAt settings.exe else settings.exe }

namespace Settings

open Toml in
def ofToml? (value : Toml) : Option Settings := do
  match ← fields? ["generator", "compiler"] value with
  | [generator, compiler] =>
    pure { generator := ← defaulted {} GeneratorSettings.ofToml? generator,
           compiler := ← defaulted {} CompilerSettings.ofToml? compiler }
  | _ => none

def resolvedAt (base : Path) (settings : Settings) : Settings :=
  ⟨settings.generator.resolvedAt base, settings.compiler.resolvedAt base⟩

/-- What a project without a file works with. -/
def defaultsAt (base : Path) : Settings := ({} : Settings).resolvedAt base

def fault? (settings : Settings) : Option SettingsFault :=
  if settings.generator.batchSize = 0 then some .emptyBatch
  else if settings.compiler.schemaPaths.isEmpty then some .noSchemaPath
  else none

/-- Settings pass exactly if they have no fault. -/
def validate (settings : Settings) : Except SettingsError Unit :=
  match settings.fault? with
  | some fault => .error (.invalid fault)
  | none => .ok ()

/-- The settings that a text holds, with paths as seen from a base. -/
def ofText (text : String) (base : Path) : Except SettingsError Settings :=
  match (Toml.parse? text).bind fun members => ofToml? (.table .headed members) with
  | none => .error .malformed
  | some written =>
    let settings := written.resolvedAt base
    settings.validate.map fun _ => settings

/-- Reads a file of settings; its paths are seen from the directory it stands in. -/
def load (files : FileSystem) (path : Path) : Except SettingsError Settings :=
  match files.readText path with
  | .error reason => .error (.unreadable path reason)
  | .ok text => ofText text (path.parent?.getD "")

end Settings

end ComponentSchema
