import ComponentSchema.Graph.Node

/-!
Which classes get a schema.  Everything else is left out of a pass and keeps what the ledger holds
for it.
-/

namespace ComponentSchema

/-- Why a node gets no schema. -/
inductive SkipReason where
  | notAClass
  | editorOnly
  | notSpatialType
  | layoutChanging
  | transient
  | neverCooked (directory : String)
deriving DecidableEq, Repr

def SkipReason.message : SkipReason → String
  | .notAClass => "not a class"
  | .editorOnly => "editor-only"
  | .notSpatialType => "not a spatial type"
  | .layoutChanging => "layout-changing"
  | .transient => "transient generated class"
  | .neverCooked directory => "under never-cook directory " ++ directory

namespace Support

/-- What the names of the host's transient generated classes begin with. -/
def transientBeginnings : List String :=
  ["SKEL_", "REINST_", "TRASHCLASS_", "HOTRELOADED_", "PROTO_BP_", "PLACEHOLDER-CLASS_",
    "ORPHANED_DATA_ONLY_"]

def beginsWith (text beginning : String) : Bool := beginning.toList.isPrefixOf text.toList

/-- Why a node gets no schema, if it gets none.  Flags count before names, and names before the
directories that never ship. -/
def skipReason? (neverCookDirs : List String) (node : Node) : Option SkipReason :=
  match node.classFlags? with
  | none => some .notAClass
  | some flags =>
    if flags.editorOnly then some .editorOnly
    else if !flags.spatialType then some .notSpatialType
    else if flags.layoutChanging then some .layoutChanging
    else if transientBeginnings.any (beginsWith node.name) then some .transient
    else (neverCookDirs.find? (beginsWith node.path)).map .neverCooked

end Support

end ComponentSchema
