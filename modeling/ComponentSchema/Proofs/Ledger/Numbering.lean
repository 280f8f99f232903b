import ComponentSchema.Ledger.Numbering
import ComponentSchema.Proofs.Ledger.Keys
import ComponentSchema.Proofs.Task

/-!
Asking for ids.  A request is for one key: a key that has an id gets it and nothing changes, and a
new key gets the next id of the supply.  Whatever work asks for ids therefore only adds to the
ledger, and what it adds lies between the supply before and the supply after.
-/

namespace ComponentSchema

/-- Short of the end of the id space, the following id is the next number. -/
theorem ComponentId.toNat_next {id : ComponentId} (left : id ≠ .last) :
    id.next.number.toNat = id.number.toNat + 1 := by
  have below : id.number.toNat ≠ 4294967295 := by
    intro same
    apply left
    cases id
    exact congrArg ComponentId.mk (UInt32.toNat_inj.1 same)
  have bound := id.number.toNat_lt
  simp only [ComponentId.next, UInt32.toNat_add, UInt32.toNat_one]
  omega

namespace Numbering

/-- The id of a key, whichever map it stands in. -/
def ask (numbering : Numbering) : IdKey → Except IdsExhausted (ComponentId × Numbering)
  | .component category path => numbering.assignComponent category path
  | .level path => numbering.assignLevel path
  | .distance squared => numbering.assignDistance squared

/-- A numbering after a new key got the next id. -/
structure Adds (before after : Numbering) (key : IdKey) : Prop where
  fresh : before.ledger.idOf? key = none
  left : before.supply.next ≠ .last
  supply : after.supply = ⟨before.supply.next.next, before.supply.issued + 1⟩
  ids : ∀ other, after.ledger.idOf? other =
    if other = key then some before.supply.next else before.ledger.idOf? other
  classes : after.ledger.classes = before.ledger.classes

@[simp]
theorem idOf?_settle (numbering : Numbering) (key : IdKey) :
    numbering.settle.idOf? key = numbering.ledger.idOf? key := by
  cases key <;> rfl

/-- A key that has an id gets it, and any other key asks the supply. -/
theorem ask_eq (numbering : Numbering) (key : IdKey) :
    numbering.ask key =
      match numbering.ledger.idOf? key with
      | some id => .ok (id, numbering)
      | none => numbering.supply.take.map fun taken =>
          (taken.1, ⟨numbering.ledger.withId key taken.1, taken.2⟩) := by
  obtain ⟨ledger, supply⟩ := numbering
  cases key with
  | component category path =>
    simp only [ask, assignComponent, assign, Ledger.idOf?, Ledger.component?]
    cases (ledger.components.get category).find? path with
    | some id => simp only [Except.map, Partitions.set_get]
    | none => cases supply.take <;> rfl
  | level path =>
    simp only [ask, assignLevel, assign, Ledger.idOf?]
    cases ledger.levels.find? path with
    | some id => rfl
    | none => cases supply.take <;> rfl
  | distance squared =>
    simp only [ask, assignDistance, assign, Ledger.idOf?]
    cases ledger.distances.find? squared with
    | some id => rfl
    | none => cases supply.take <;> rfl

/-- A key that has an id gets it, and nothing changes. -/
theorem ask_known {numbering : Numbering} {key : IdKey} {id : ComponentId}
    (known : numbering.ledger.idOf? key = some id) : numbering.ask key = .ok (id, numbering) := by
  rw [ask_eq, known]

/-- At the end of the id space a new key gets nothing. -/
theorem ask_exhausted {numbering : Numbering} {key : IdKey}
    (fresh : numbering.ledger.idOf? key = none) (ended : numbering.supply.next = .last) :
    numbering.ask key = .error ⟨numbering.supply.next⟩ := by
  have refused : numbering.supply.take = .error ⟨numbering.supply.next⟩ := if_pos ended
  rw [ask_eq, fresh, refused]
  rfl

/-- The numbering after a key got the next id. -/
def adding (numbering : Numbering) (key : IdKey) : Numbering :=
  ⟨numbering.ledger.withId key numbering.supply.next,
    ⟨numbering.supply.next.next, numbering.supply.issued + 1⟩⟩

theorem ask_adding {numbering : Numbering} {key : IdKey}
    (fresh : numbering.ledger.idOf? key = none) (left : numbering.supply.next ≠ .last) :
    numbering.ask key = .ok (numbering.supply.next, numbering.adding key) := by
  have taken : numbering.supply.take = .ok (numbering.supply.next,
    ⟨numbering.supply.next.next, numbering.supply.issued + 1⟩) := if_neg left
  rw [ask_eq, fresh, taken]
  rfl

theorem adds_adding {numbering : Numbering} {key : IdKey}
    (fresh : numbering.ledger.idOf? key = none) (left : numbering.supply.next ≠ .last) :
    numbering.Adds (numbering.adding key) key where
  fresh := fresh
  left := left
  supply := rfl
  ids := numbering.ledger.idOf?_withId key numbering.supply.next
  classes := numbering.ledger.classes_withId key numbering.supply.next

/-- A new key gets the next id of the supply, as long as one is left. -/
theorem ask_new {numbering : Numbering} {key : IdKey}
    (fresh : numbering.ledger.idOf? key = none) :
    (numbering.supply.next = .last ∧ numbering.ask key = .error ⟨numbering.supply.next⟩) ∨
      ∃ after, numbering.ask key = .ok (numbering.supply.next, after) ∧
        numbering.Adds after key := by
  by_cases ended : numbering.supply.next = .last
  · exact .inl ⟨ended, ask_exhausted fresh ended⟩
  · exact .inr ⟨_, ask_adding fresh ended, adds_adding fresh ended⟩

/-- A later numbering has everything an earlier one has, and what it has beyond that came out of the
supply in between. -/
structure Extends (before after : Numbering) : Prop where
  ids : before.ledger.KeepsIds after.ledger
  names : before.ledger.KeepsNames after.ledger
  supply : before.supply.next.number.toNat ≤ after.supply.next.number.toNat
  added : ∀ key id, after.ledger.idOf? key = some id → before.ledger.idOf? key = none →
    before.supply.next.number.toNat ≤ id.number.toNat ∧
      id.number.toNat < after.supply.next.number.toNat

instance : Std.Refl Extends where
  refl numbering := by
    refine ⟨.refl _, .refl _, Nat.le_refl _, ?_⟩
    intro key id stored absent
    rw [absent] at stored
    cases stored

instance : IsTrans Numbering Extends where
  trans first second third earlier later := by
    refine ⟨earlier.ids.trans later.ids, earlier.names.trans later.names,
      Nat.le_trans earlier.supply later.supply, ?_⟩
    intro key id stored absent
    have low := earlier.supply
    have high := later.supply
    cases between : second.ledger.idOf? key with
    | none =>
      have range := later.added key id stored between
      omega
    | some old =>
      have same : old = id := Option.some.inj ((later.ids key old between).symm.trans stored)
      have range := earlier.added key id (same ▸ between) absent
      omega

theorem Adds.extends {before after : Numbering} {key : IdKey} (adds : before.Adds after key) :
    before.Extends after := by
  have following := ComponentId.toNat_next adds.left
  have names : before.ledger.identity? = after.ledger.identity? := by
    funext path
    simp only [Ledger.identity?, adds.classes]
  refine ⟨?_, fun path record stored => names ▸ stored, ?_, ?_⟩
  · intro other id stored
    rw [adds.ids, if_neg]
    · exact stored
    · intro same
      rw [same, adds.fresh] at stored
      cases stored
  · simp only [adds.supply]
    omega
  · intro other id stored absent
    rw [adds.ids] at stored
    split at stored
    · cases stored
      simp only [adds.supply]
      omega
    · rw [absent] at stored
      cases stored

end Numbering

/-- No class is put on record. -/
def Numbering.KeepsClasses (before after : Numbering) : Prop :=
  after.ledger.classes = before.ledger.classes

instance : Std.Refl Numbering.KeepsClasses where
  refl _ := rfl

instance : IsTrans Numbering Numbering.KeepsClasses where
  trans _ _ _ earlier later := later.trans earlier

namespace Numbered

variable {α β : Type}

/-- Work that asks for ids adds to the ledger only, and done again where every id it led to is known
it has the same result and adds nothing. -/
structure Steady (work : Numbered α) : Prop where
  extends_ : Task.Keeps Numbering.Extends work
  classes : Task.Keeps Numbering.KeepsClasses work
  replays : ∀ {before after : Numbering} {value : α}, work before = (.ok value, after) →
    ∀ {other : Numbering}, after.ledger.KeepsIds other.ledger → work other = (.ok value, other)

namespace Steady

theorem pure (value : α) : Steady (pure value) where
  extends_ := .pure value
  classes := .pure value
  replays := by
    intro before after result run other known
    cases run
    rfl

theorem bind {work : Numbered α} {next : α → Numbered β} (first : Steady work)
    (second : ∀ value, Steady (next value)) : Steady (work >>= next) where
  extends_ := first.extends_.bind fun value => (second value).extends_
  classes := first.classes.bind fun value => (second value).classes
  replays := by
    intro before after result run other known
    obtain ⟨value, between, run, rest⟩ := Task.bind_eq_ok.1 run
    have later := ((second value).extends_.of_eq rest).ids
    refine Task.bind_eq_ok.2 ⟨value, other, first.replays run (later.trans known), ?_⟩
    exact (second value).replays rest known

theorem ite {condition : Prop} [Decidable condition] {work other : Numbered α}
    (first : Steady work) (second : Steady other) : Steady (if condition then work else other) := by
  split
  · exact first
  · exact second

theorem mapM {work : α → Numbered β} {items : List α} (each : ∀ item, Steady (work item)) :
    Steady (items.mapM work) := by
  induction items with
  | nil => exact pure []
  | cons first rest ih =>
    rw [List.mapM_cons]
    exact (each first).bind fun value => ih.bind fun values => pure _

end Steady

theorem keeps_request_ask {relation : Numbering → Numbering → Prop} [Std.Refl relation] {key : IdKey}
    (adds : ∀ before after, before.Adds after key → relation before after) :
    Task.Keeps relation (request fun numbering => numbering.ask key) := by
  intro numbering
  simp only [request]
  cases known : numbering.ledger.idOf? key with
  | some id =>
    rw [Numbering.ask_known known]
    exact Std.Refl.refl numbering
  | none =>
    rcases Numbering.ask_new known with ⟨-, refused⟩ | ⟨after, given, step⟩
    · rw [refused]
      exact Std.Refl.refl numbering
    · rw [given]
      exact adds numbering after step

/-- A request by its key is steady, whichever map the key stands in. -/
theorem request_ask (key : IdKey) : Steady (request fun numbering => numbering.ask key) where
  extends_ := keeps_request_ask fun _ _ adds => adds.extends
  classes := keeps_request_ask fun _ _ adds => adds.classes
  replays := by
    intro before after id run other known
    have stored : after.ledger.idOf? key = some id := by
      simp only [request] at run
      cases answer : before.ledger.idOf? key with
      | some old =>
        rw [Numbering.ask_known answer] at run
        cases run
        exact answer
      | none =>
        rcases Numbering.ask_new answer with ⟨-, refused⟩ | ⟨later, given, adds⟩
        · rw [refused] at run
          cases run
        · rw [given] at run
          cases run
          rw [adds.ids, if_pos rfl]
    simp only [request, Numbering.ask_known (known key id stored)]

theorem component_steady (category : Category) (path : String) : Steady (component category path) :=
  request_ask (.component category path)

theorem level_steady (path : String) : Steady (level path) := request_ask (.level path)

theorem distance_steady (squared : UInt64) : Steady (distance squared) :=
  request_ask (.distance squared)

end Numbered

end ComponentSchema
