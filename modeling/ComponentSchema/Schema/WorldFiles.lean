import ComponentSchema.Ledger.Numbering
import ComponentSchema.Schema.File

/-!
The two schema files that belong to no class: the components of streaming levels, and those of cull
distances.
-/

namespace ComponentSchema

namespace LevelFile

/-- The levels by the component name they ask for: paths under names, all in ascending order. -/
def groups (levels : List Level) : SortedMap String (SortedSet String) :=
  levels.foldl
    (fun groups level => groups.update level.componentName ∅ (·.insert level.path ())) ∅

def component (name path : String) (id : ComponentId) : Declaration :=
  { kind := .component, name, statements := [.id id], remark := some path }

/-- The names of the levels that ask for one name, with their paths: a name that only one level
asks for is its own, and others are told apart by the place of their path. -/
def groupNames (name : String) (paths : List String) : List (String × String) :=
  if paths.length > 1 then
    paths.mapIdx fun index path => (name ++ "Ind" ++ toString index, path)
  else paths.map fun path => (name, path)

/-- Every level path with the name of its component, in emission order. -/
def names (levels : List Level) : List (String × String) :=
  (groups levels).entries.flatMap fun group => groupNames group.1 group.2.keys

def build (levels : List Level) : Numbered SchemaFile := do
  let declarations ← (names levels).mapM fun (name, path) => do
    pure (component name path (← Numbered.level path))
  pure { package := "unreal.sublevels", declarations }

/-- Where the file stands in the schema tree. -/
def location : List String := ["Sublevels/sublevels.schema"]

end LevelFile

namespace DistanceFile

def component (distance : UInt64) (id : ComponentId) : Declaration :=
  let digits := toString distance.toNat
  { kind := .component, name := "NetCullDistanceSquared" ++ digits, statements := [.id id],
    remark := some ("distance " ++ digits) }

/-- The schema file of all cull distances on record, once those of a pass are among them. -/
def build (distances : SortedSet UInt64) : Numbered SchemaFile := do
  let _ ← distances.keys.mapM Numbered.distance
  let numbering ← get
  pure { package := "unreal.ncdcomponents",
         declarations := numbering.ledger.distances.entries.map fun entry =>
           component entry.1 entry.2 }

/-- Where the file stands in the schema tree. -/
def location : List String := ["NetCullDistance/ncdcomponents.schema"]

end DistanceFile

end ComponentSchema
