import ComponentSchema.NameRegistry
import ComponentSchema.Schema.Emission

/-!
Drafting: naming the classes of a pass and emitting their files, one after the other.
-/

namespace ComponentSchema

/-- What is kept from class to class: the names in use, and the cull distances seen. -/
structure Draft where
  registry : NameRegistry
  distances : SortedSet UInt64 := ∅
deriving Inhabited

namespace Draft

/-- The draft after another class: its name is on record, and so is its cull distance. -/
def add (draft : Draft) (node : Node) : Draft :=
  { registry := (draft.registry.resolve node.path node.name).2
    distances :=
      match node.cullDistance? with
      | some distance => draft.distances.insert distance ()
      | none => draft.distances }

/-- The name that the next class gets. -/
def nameOf (draft : Draft) (node : Node) : String :=
  (draft.registry.resolve node.path node.name).1

/-- Names a class, records its identity and emits its file. -/
def emitNext (emitter : Emitter) (draft : Draft) (node : Node) : Emission Draft := do
  match node.classKind? with
  | none => throw (.notAClass node.path)
  | some kind =>
    let name := draft.nameOf node
    Emission.number (modify fun numbering => numbering.recordIdentity node.path name kind)
    let _ ← emitter.emitClass node name
    pure (draft.add node)

/-- Emits classes in order. -/
def emitAll (emitter : Emitter) (draft : Draft) (nodes : List Node) : Emission Draft :=
  nodes.foldlM (emitNext emitter) draft

end Draft

/-- Items in batches of a given size; the last may be smaller. -/
def batches {α : Type} (size : Nat) (items : List α) : List (List α) :=
  if items.isEmpty ∨ size = 0 then []
  else items.take size :: batches size (items.drop size)
termination_by items.length
decreasing_by
  rename_i going
  have : items.length ≠ 0 := fun none => going (.inl (by simpa using none))
  have : size ≠ 0 := fun none => going (.inr none)
  simp only [List.length_drop]
  omega

end ComponentSchema
