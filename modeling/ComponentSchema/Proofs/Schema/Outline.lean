import ComponentSchema.Proofs.Graph.Descent
import ComponentSchema.Proofs.Ledger.Issuing
import ComponentSchema.Schema.ClassFile
import ComponentSchema.Schema.WorldFiles

/-!
Components before they have ids.  The components of a class follow from its tree alone: the static
subobjects are listed depth first with the names that lead to them, and each node of that list has its
categories.  Making a schema file is giving the outlines their ids in that order.
-/

namespace ComponentSchema

open Numbered

namespace Node

/-- The keys of the components of a node, under the path that owns them. -/
def ownKeys (node : Node) (owner : String) : List IdKey :=
  node.categories.map fun category => .component category owner

/-- The keys of all components of a class.  A root class has its own and those of its static subobjects,
depth first, and a subobject class those of each slot, and then those of its static subobjects. -/
def keys (slots : Nat) (node : Node) : List IdKey :=
  match node.classKind? with
  | none => []
  | some .root => (node.descent []).flatMap fun place => place.2.ownKeys place.2.path
  | some .subobject =>
    ((List.range' 1 slots).flatMap fun slot => node.ownKeys (ClassFile.slotPath node.path slot)) ++
      (descentAll [] node.children).flatMap fun place => place.2.ownKeys place.2.path

end Node

/-- A component that lacks its id only. -/
structure Outline where
  key : IdKey
  name : String
  body : List Statement := []
  remark : Option String := none

namespace Outline

def declared (outline : Outline) (id : ComponentId) : Declaration where
  kind := .component
  name := outline.name
  statements := .id id :: outline.body
  remark := outline.remark

def number (outline : Outline) : Numbered Declaration := do
  pure (outline.declared (← Numbered.request fun numbering => numbering.ask outline.key))

/-- The component under the id that is on record. -/
def filled (outline : Outline) (ledger : Ledger) : Declaration :=
  outline.declared (ledger.idOf outline.key)

theorem number_asks (outline : Outline) :
    Asks [outline.key] (fun later => outline.filled later) outline.number :=
  (request_asks outline.key).map outline.declared

theorem mapM_number_asks (outlines : List Outline) :
    Asks (outlines.map key) (fun later => outlines.map fun outline => outline.filled later)
      (outlines.mapM number) :=
  .mapM number_asks outlines

end Outline

namespace ClassFile

def ownOutlines (name : String) (node : Node) : List Outline :=
  node.categories.map fun category =>
    { key := .component category node.path
      name := name ++ category.suffix
      body := Field.members (node.fields category)
      remark := some node.path }

/-- The components of the nodes of a descent; their names continue the name of the class. -/
def descentOutlines (schemaName : String) (places : List (List String × Node)) : List Outline :=
  places.flatMap fun place => ownOutlines (schemaName ++ String.join place.1) place.2

def slotOutlines (schemaName : String) (node : Node) (slot : Nat) : List Outline :=
  node.categories.map fun category =>
    { key := .component category (slotPath node.path slot)
      name := schemaName ++ "Dynamic" ++ toString slot ++ category.suffix
      body := [.member (dataTypeName schemaName category) "data" 1] }

/-- The data types of a class, which only subobject classes have. -/
def types (kind : ClassKind) (schemaName : String) (node : Node) : List Declaration :=
  match kind with
  | .root => []
  | .subobject => node.categories.map (dataType schemaName node)

/-- The components of a class, in emission order. -/
def outlines (kind : ClassKind) (slots : Nat) (schemaName : String) (node : Node) : List Outline :=
  match kind with
  | .root => descentOutlines schemaName (node.descent [])
  | .subobject =>
    ((List.range' 1 slots).flatMap (slotOutlines schemaName node)) ++
      descentOutlines schemaName (Node.descentAll [] node.children)

/-- The file of a class under the ids that are on record. -/
def filled (ledger : Ledger) (kind : ClassKind) (slots : Nat) (schemaName : String) (node : Node) :
    SchemaFile where
  package := package schemaName
  declarations := types kind schemaName node ++
    (outlines kind slots schemaName node).map fun outline => outline.filled ledger

theorem ownComponents_eq (name : String) (node : Node) :
    ownComponents name node = (ownOutlines name node).mapM Outline.number := by
  unfold ownOutlines
  rw [List.mapM_map]
  rfl

mutual

/-- The components of a tree are those of its descent. -/
theorem treeComponents_eq (schemaName : String) (chain : List String) (node : Node) :
    treeComponents (schemaName ++ String.join chain) node =
      (descentOutlines schemaName (node.descent chain)).mapM Outline.number := by
  obtain ⟨path, raw, kind, children⟩ := node
  unfold treeComponents Node.descent descentOutlines
  rw [List.flatMap_cons, List.mapM_append, ownComponents_eq,
    subobjectComponents_eq schemaName chain children]
  rfl

theorem subobjectComponents_eq (schemaName : String) (chain : List String) (children : List Node) :
    subobjectComponents (schemaName ++ String.join chain) children =
      (descentOutlines schemaName (Node.descentAll chain children)).mapM Outline.number := by
  cases children with
  | nil =>
    unfold subobjectComponents Node.descentAll
    rfl
  | cons child rest =>
    have longer : schemaName ++ String.join chain ++ child.componentName =
        schemaName ++ String.join (chain ++ [child.componentName]) := by
      simp [String.append_assoc]
    have first := treeComponents_eq schemaName (chain ++ [child.componentName]) child
    have others := subobjectComponents_eq schemaName chain rest
    unfold subobjectComponents Node.descentAll
    unfold descentOutlines at first others ⊢
    rw [List.flatMap_append, List.mapM_append, others, longer, first]
    split
    · rfl
    · rfl

end

theorem slotComponents_eq (schemaName : String) (node : Node) (slot : Nat) :
    slotComponents schemaName node slot =
      (slotOutlines schemaName node slot).mapM Outline.number := by
  unfold slotOutlines
  rw [List.mapM_map]
  rfl

theorem slotComponentsFrom_eq (schemaName : String) (node : Node) (count slot : Nat) :
    slotComponentsFrom schemaName node count slot =
      ((List.range' slot count).flatMap (slotOutlines schemaName node)).mapM Outline.number := by
  induction count generalizing slot with
  | zero => rfl
  | succ count ih =>
    unfold slotComponentsFrom
    rw [List.range'_succ, List.flatMap_cons, List.mapM_append, slotComponents_eq, ih]

/-- A class without categories needs no slot. -/
theorem allSlotComponents_eq (schemaName : String) (node : Node) (slots : Nat) :
    allSlotComponents schemaName node slots =
      ((List.range' 1 slots).flatMap (slotOutlines schemaName node)).mapM Outline.number := by
  unfold allSlotComponents
  split
  next none =>
    have nothing : (List.range' 1 slots).flatMap (slotOutlines schemaName node) = [] := by
      rw [List.flatMap_eq_nil_iff]
      intro slot _
      rw [slotOutlines, List.isEmpty_iff.1 none, List.map_nil]
    rw [nothing, List.mapM_nil]
  next => exact slotComponentsFrom_eq schemaName node slots 1

theorem declarations_eq (kind : ClassKind) (slots : Nat) (schemaName : String) (node : Node) :
    declarations kind slots schemaName node = (do
      let components ← (outlines kind slots schemaName node).mapM Outline.number
      pure (types kind schemaName node ++ components)) := by
  have whole : schemaName = schemaName ++ String.join [] := by simp
  cases kind with
  | root =>
    unfold declarations outlines types
    rw [← treeComponents_eq, ← whole]
    simp
  | subobject =>
    unfold declarations outlines types
    rw [allSlotComponents_eq, List.mapM_append, ← subobjectComponents_eq, ← whole]
    simp [List.append_assoc]

theorem keys_outlines {kind : ClassKind} {node : Node} (isClass : node.classKind? = some kind)
    (slots : Nat) (schemaName : String) :
    (outlines kind slots schemaName node).map Outline.key = node.keys slots := by
  have descended (places : List (List String × Node)) :
      (descentOutlines schemaName places).map Outline.key =
        places.flatMap fun place => place.2.ownKeys place.2.path := by
    unfold descentOutlines ownOutlines Node.ownKeys
    simp only [List.map_flatMap, List.map_map]
    rfl
  unfold Node.keys outlines
  rw [isClass]
  cases kind with
  | root => exact descended _
  | subobject =>
    dsimp only
    rw [List.map_append, descended]
    unfold slotOutlines Node.ownKeys
    simp only [List.map_flatMap, List.map_map]
    rfl

/-- The file of a class has the ids that its keys have in the end. -/
theorem build_asks {kind : ClassKind} {node : Node} (isClass : node.classKind? = some kind)
    (slots : Nat) (schemaName : String) :
    Asks (node.keys slots) (fun later => filled later kind slots schemaName node)
      (build kind slots schemaName node) := by
  have components := Outline.mapM_number_asks (outlines kind slots schemaName node)
  rw [keys_outlines isClass] at components
  unfold build
  rw [declarations_eq]
  exact (components.map _).map _

end ClassFile

namespace LevelFile

def outlines (levels : List Level) : List Outline :=
  (names levels).map fun named =>
    { key := .level named.2, name := named.1, remark := some named.2 }

def filled (ledger : Ledger) (levels : List Level) : SchemaFile where
  package := "unreal.sublevels"
  declarations := (outlines levels).map fun outline => outline.filled ledger

theorem build_asks (levels : List Level) :
    Asks ((outlines levels).map Outline.key) (fun later => filled later levels) (build levels) := by
  have whole : build levels = (do
      let declarations ← (outlines levels).mapM Outline.number
      pure { package := "unreal.sublevels", declarations }) := by
    unfold outlines
    rw [List.mapM_map]
    rfl
  rw [whole]
  exact (Outline.mapM_number_asks (outlines levels)).map _

end LevelFile

namespace DistanceFile

/-- The file of the cull distances on record. -/
def filled (ledger : Ledger) : SchemaFile where
  package := "unreal.ncdcomponents"
  declarations := ledger.distances.entries.map fun entry => component entry.1 entry.2

/-- The file lists all distances on record, so it is known only where it was made. -/
theorem issues_build {distances : SortedSet UInt64} {before after : Numbering} {file : SchemaFile}
    (run : build distances before = (.ok file, after)) :
    before.Issues (distances.keys.map .distance) after ∧ file = filled after.ledger := by
  obtain ⟨ids, between, asked, rest⟩ := Task.bind_eq_ok.1 run
  cases rest
  have requests := Asks.mapM (fun distance => request_asks (.distance distance)) distances.keys
  exact ⟨(requests _ _ _ asked).1, rfl⟩

end DistanceFile

end ComponentSchema
