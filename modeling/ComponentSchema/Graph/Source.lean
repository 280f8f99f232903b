import ComponentSchema.Files.FileSystem
import ComponentSchema.Graph.Manifest

/-!
Where a pass gets its type graph from.
-/

namespace ComponentSchema

/-- Why there is no type graph. -/
inductive SourceError where
  | unreadable (path : Path) (reason : IoError)
  | malformed (path : Path)
  /-- The host's own report. -/
  | host (report : String)
deriving DecidableEq, Repr

def SourceError.message : SourceError → String
  | .unreadable path reason => s!"failed to read type manifest '{path}': " ++ reason.message
  | .malformed path => s!"failed to parse type manifest '{path}'"
  | .host report => "type source failed: " ++ report

/-- What a host answers: the classes that are loaded, the levels, and the class that a path seen
elsewhere stands for. -/
structure TypeSource where
  classes : Except SourceError (List Node)
  levels : Except SourceError (List Level)
  resolve? : String → Option Node

namespace Manifest

/-- A manifest as a source, which always answers. -/
def source (manifest : Manifest) : TypeSource :=
  -- the places are worked out once, and not again for every path
  let places := manifest.places
  { classes := .ok manifest.classes
    levels := .ok manifest.levels
    resolve? := manifest.nodeAt? places }

def load (files : FileSystem) (path : Path) : Except SourceError Manifest :=
  match files.readText path with
  | .error reason => .error (.unreadable path reason)
  | .ok text =>
    match ofText? text with
    | none => .error (.malformed path)
    | some manifest => .ok manifest

end Manifest

end ComponentSchema
