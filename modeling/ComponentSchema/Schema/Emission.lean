import ComponentSchema.Files.Failure
import ComponentSchema.Schema.ClassFile
import ComponentSchema.Schema.WorldFiles

/-!
Emission: writing schema files below one directory, with ids from one numbering.  Ids are looked up
before they are handed out, so emitting the same graph again gives the same files.
-/

namespace ComponentSchema

/-- Why emission stopped. -/
inductive EmissionError where
  | file (failure : FileFailure)
  | notAClass (path : String)
  | ids (exhausted : IdsExhausted)
deriving DecidableEq, Repr

def EmissionError.message : EmissionError → String
  | .file failure => failure.message
  | .notAClass path => s!"'{path}' is not a class and cannot be emitted"
  | .ids exhausted => exhausted.message

/-- What emission works on. -/
structure Workshop where
  numbering : Numbering
  files : FileSystem
deriving DecidableEq

/-- Work of emission.  Ids that were handed out and files that were written stay, even when a later
step fails. -/
abbrev Emission (α : Type) := ExceptT EmissionError (StateM Workshop) α

namespace Emission

/-- Does work that asks for ids. -/
def number {α : Type} (work : Numbered α) : Emission α := fun workshop =>
  match work workshop.numbering with
  | (.ok value, numbering) => (.ok value, { workshop with numbering })
  | (.error exhausted, numbering) => (.error (.ids exhausted), { workshop with numbering })

def file {α : Type} (work : FileTask α) : Emission α := fun workshop =>
  match work workshop.files with
  | (.ok value, files) => (.ok value, { workshop with files })
  | (.error failure, files) => (.error (.file failure), { workshop with files })

end Emission

/-- Where schema files go, and how many slots a subobject class has. -/
structure Emitter where
  schemaDir : Path
  slots : UInt32
deriving DecidableEq, Repr

namespace Emitter

/-- The path of a place in the schema tree. -/
def pathOf (emitter : Emitter) (location : List String) : Path :=
  location.foldl Path.join emitter.schemaDir

/-- Empties the schema tree, so that files of vanished classes do not linger. -/
def prepare (emitter : Emitter) : FileTask Unit :=
  FileTask.freshDirectory emitter.schemaDir "clear schema directory" "create schema directory"

/-- Writes a schema file at a place in the tree, and answers with its path. -/
def writeFile (emitter : Emitter) (location : List String) (file : SchemaFile) (action : String) :
    Emission Path := do
  let path := emitter.pathOf location
  Emission.file ((FileAction.writeWithParents path file.render.toUTF8).reporting action path)
  pure path

/-- Emits the file of a class under its schema name, and answers with its path. -/
def emitClass (emitter : Emitter) (node : Node) (schemaName : String) : Emission Path := do
  match node.classKind? with
  | none => throw (.notAClass node.path)
  | some kind =>
    let file ← Emission.number (ClassFile.build kind emitter.slots.toNat schemaName node)
    emitter.writeFile (ClassFile.location kind schemaName) file "write schema"

/-- Emits the file of the levels, and answers with the number of its components. -/
def emitLevels (emitter : Emitter) (levels : List Level) : Emission Nat := do
  let file ← Emission.number (LevelFile.build levels)
  let _ ← emitter.writeFile LevelFile.location file "write sublevel schema"
  pure file.declarations.length

/-- Emits the file of the cull distances, and answers with the number of its components. -/
def emitDistances (emitter : Emitter) (distances : SortedSet UInt64) : Emission Nat := do
  let file ← Emission.number (DistanceFile.build distances)
  let _ ← emitter.writeFile DistanceFile.location file "write distance schema"
  pure file.declarations.length

end Emitter

end ComponentSchema
