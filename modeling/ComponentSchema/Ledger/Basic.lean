import ComponentSchema.Category
import ComponentSchema.SortedMap
import ComponentSchema.Ledger.ComponentId

/-!
The ledger: the one record of every name and every id ever handed out.  Entries are never removed,
so what has vanished from the graph keeps its name and its ids.
-/

namespace ComponentSchema

/-- The schema identity of a class path. -/
structure ClassRecord where
  schemaName : String
  kind : ClassKind
deriving DecidableEq, Repr, Inhabited

/-- The ids of components, split by category; each part is keyed by the owning path. -/
structure Partitions where
  state : SortedMap String ComponentId := ∅
  ownerRestricted : SortedMap String ComponentId := ∅
  transferable : SortedMap String ComponentId := ∅
deriving DecidableEq, Inhabited

namespace Partitions

def get (partitions : Partitions) : Category → SortedMap String ComponentId
  | .state => partitions.state
  | .ownerRestricted => partitions.ownerRestricted
  | .transferable => partitions.transferable

def set (partitions : Partitions) (category : Category) (ids : SortedMap String ComponentId) :
    Partitions :=
  match category with
  | .state => { partitions with state := ids }
  | .ownerRestricted => { partitions with ownerRestricted := ids }
  | .transferable => { partitions with transferable := ids }

/-- Every assignment, category by category and path by path. -/
def entries (partitions : Partitions) : List (Category × String × ComponentId) :=
  Category.all.flatMap fun category =>
    (partitions.get category).entries.map fun entry => (category, entry.1, entry.2)

def size (partitions : Partitions) : Nat :=
  partitions.state.size + partitions.ownerRestricted.size + partitions.transferable.size

/-- The ids of one category in ascending order, each once. -/
def ids (partitions : Partitions) (category : Category) : List ComponentId :=
  (SortedSet.ofList (partitions.get category).values).keys

end Partitions

/-- All names and ids on record. -/
structure Ledger where
  formatVersion : UInt32
  /-- The watermark: the next unused id. -/
  nextId : ComponentId
  classes : SortedMap String ClassRecord := ∅
  components : Partitions := {}
  levels : SortedMap String ComponentId := ∅
  distances : SortedMap UInt64 ComponentId := ∅
  /-- The owner of each id, for those who read the ledger while a game runs. -/
  index : SortedMap ComponentId String := ∅
  descriptorHash : Option UInt64 := none
deriving DecidableEq, Inhabited

namespace Ledger

/-- The format version written into every saved ledger. -/
def currentFormat : UInt32 := 2

/-- A ledger without entries, its watermark at the baseline. -/
def fresh : Ledger := { formatVersion := currentFormat, nextId := .baseline }

/-- Classes on record while no id was ever issued: such a ledger comes from tooling that numbered
anew on every run, and cannot promise that ids were never reused. -/
def isStale (ledger : Ledger) : Bool := !ledger.classes.isEmpty && ledger.nextId == .baseline

def supply (ledger : Ledger) : IdSupply := { next := ledger.nextId }

def identity? (ledger : Ledger) (path : String) : Option ClassRecord := ledger.classes.find? path

/-- Records the identity of a class path; an identity on record is never replaced. -/
def recordIdentity (ledger : Ledger) (path schemaName : String) (kind : ClassKind) : Ledger :=
  { ledger with classes := ledger.classes.insertIfNew path ⟨schemaName, kind⟩ }

def component? (ledger : Ledger) (category : Category) (path : String) : Option ComponentId :=
  (ledger.components.get category).find? path

/-- What the bucket of a cull distance is called as an owner. -/
def distanceOwner (distance : UInt64) : String := "distance:" ++ toString distance.toNat

/-- Every id on record with its owner: components by category, then levels, then distances. -/
def owners (ledger : Ledger) : List (ComponentId × String) :=
  ledger.components.entries.map (fun entry => (entry.2.2, entry.2.1)) ++
    ledger.levels.entries.map (fun entry => (entry.2, entry.1)) ++
    ledger.distances.entries.map (fun entry => (entry.2, distanceOwner entry.1))

/-- Makes the index anew from the assignments. -/
def rebuildIndex (ledger : Ledger) : Ledger :=
  { ledger with index := SortedMap.ofList ledger.owners }

end Ledger

end ComponentSchema
