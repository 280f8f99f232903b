import ComponentSchema.Proofs.Ledger.Integrity
import ComponentSchema.Proofs.Ledger.Numbering

/-!
Any series of calls on a ledger and the supply made from it.  Whatever is called in between, a key that
has an id gets it again, a new key gets the next id, and at the end of the id space every new key is
refused and nothing changes.  So at every point no two keys share an id, all ids lie below the supply,
and the supply has moved on by one for every key that was added.
-/

namespace ComponentSchema

namespace Numbered

/-- Asks for the id of a key, in the map that the key stands in. -/
def asking : IdKey → Numbered ComponentId
  | .component category path => component category path
  | .level path => level path
  | .distance squared => distance squared

theorem asking_eq_request (key : IdKey) :
    asking key = request fun numbering => numbering.ask key := by
  cases key <;> rfl

/-- Takes the next id out of the supply. -/
def draw : Numbered ComponentId := fun numbering =>
  match numbering.supply.take with
  | .ok (id, supply) => (.ok id, { numbering with supply })
  | .error exhausted => (.error exhausted, numbering)

def give (key : IdKey) (id : ComponentId) : Numbered Unit :=
  modify fun numbering => { numbering with ledger := numbering.ledger.withId key id }

theorem asking_known {numbering : Numbering} {key : IdKey} {id : ComponentId}
    (known : numbering.ledger.idOf? key = some id) : asking key numbering = (.ok id, numbering) := by
  simp only [asking_eq_request, request, Numbering.ask_known known]

theorem asking_new {numbering : Numbering} {key : IdKey}
    (fresh : numbering.ledger.idOf? key = none) (left : numbering.supply.next ≠ .last) :
    asking key numbering = (.ok numbering.supply.next, numbering.adding key) := by
  simp only [asking_eq_request, request, Numbering.ask_adding fresh left]

theorem asking_exhausted {numbering : Numbering} {key : IdKey}
    (fresh : numbering.ledger.idOf? key = none) (ended : numbering.supply.next = .last) :
    asking key numbering = (.error ⟨.last⟩, numbering) := by
  simp only [asking_eq_request, request, Numbering.ask_exhausted fresh ended, ended]

/-- Looks a key up, and takes an id and stores it where there is none, one step after the other. -/
def askingInSteps (key : IdKey) : Numbered ComponentId := do
  match (← get).ledger.idOf? key with
  | some id => pure id
  | none =>
    let id ← draw
    give key id
    pure id

/-- A request that is refused has nothing to take back, since the supply is asked before the map is
touched. -/
theorem asking_eq_askingInSteps (key : IdKey) : asking key = askingInSteps key := by
  funext numbering
  rw [asking_eq_request]
  unfold request askingInSteps draw give
  rw [Task.bind_apply, Task.get_apply]
  dsimp only
  rw [Numbering.ask_eq]
  cases numbering.ledger.idOf? key with
  | some id => rfl
  | none =>
    dsimp only
    rw [Task.bind_apply]
    cases numbering.supply.take <;> rfl

end Numbered

/-- A call for the id of a key, or one that puts a class on record. -/
inductive Call where
  | ask (key : IdKey)
  | record (path schemaName : String) (kind : ClassKind)
deriving DecidableEq, Repr

/-- Makes a call; one that puts a class on record has no answer. -/
def Call.make : Call → Numbered (Option ComponentId)
  | .ask key => some <$> Numbered.asking key
  | .record path schemaName kind => do
    modify fun numbering => numbering.recordIdentity path schemaName kind
    pure none

theorem Call.make_ask (key : IdKey) (numbering : Numbering) :
    (Call.ask key).make numbering =
      ((Numbered.asking key numbering).1.map some, (Numbered.asking key numbering).2) :=
  Task.map_apply ..

namespace Ledger

/-- The keys that have an id in a later ledger and had none in an earlier one. -/
def addedKeys (earlier later : Ledger) : List IdKey :=
  (later.assignments.map Prod.fst).filter fun key => (earlier.idOf? key).isNone

theorem addedKeys_self (ledger : Ledger) : ledger.addedKeys ledger = [] := by
  unfold addedKeys
  rw [List.filter_eq_nil_iff]
  intro key listed
  obtain ⟨⟨_, id⟩, assigned, rfl⟩ := List.mem_map.1 listed
  rw [mem_assignments.1 assigned]
  exact Bool.false_ne_true

/-- A key that is new to both ledgers is one more. -/
theorem length_addedKeys_withId {earlier later : Ledger} {key : IdKey} (kept : earlier.KeepsIds later)
    (fresh : later.idOf? key = none) (id : ComponentId) :
    (earlier.addedKeys (later.withId key id)).length = (earlier.addedKeys later).length + 1 := by
  have absent : earlier.idOf? key = none := by
    cases known : earlier.idOf? key with
    | none => rfl
    | some old => exact absurd (kept key old known) (by rw [fresh]; exact nofun)
  have perm := ((assignments_withId_perm fresh id).map Prod.fst).filter fun key =>
    (earlier.idOf? key).isNone
  rw [List.map_cons, List.filter_cons_of_pos (by rw [absent]; rfl)] at perm
  exact perm.length_eq

/-- What the check of ids by themselves establishes. -/
theorem below_distinct_of_idFaults {ledger : Ledger}
    (faultless : idFaults ledger.nextId ∅ ledger.owners = []) :
    (∀ key id, ledger.idOf? key = some id → id.number.toNat < ledger.nextId.number.toNat) ∧
      ∀ key other id, ledger.idOf? key = some id → ledger.idOf? other = some id → key = other := by
  have counted := length_idFaults ledger.nextId ledger.owners
  rw [faultless, List.length_nil, eq_comm, count_eq_zero_iff, owners_eq_assignments,
    List.map_map] at counted
  obtain ⟨ranges, distinct⟩ := counted
  constructor
  · intro key id stored
    have range := ranges (id, key.owner) (List.mem_map.2 ⟨(key, id), mem_assignments.2 stored, rfl⟩)
    rw [decide_eq_false_iff_not, not_isOutOfRange_iff] at range
    exact UInt32.lt_iff_toNat_lt.1 range.2
  · intro key other id stored again
    have same := List.inj_on_of_nodup_map distinct (mem_assignments.2 stored)
      (mem_assignments.2 again) rfl
    exact congrArg Prod.fst same

end Ledger

namespace Numbering

/-- The numbering after a series of calls; a call that is refused does not end the series. -/
def after (numbering : Numbering) (calls : List Call) : Numbering :=
  calls.foldl (fun numbering call => (call.make numbering).2) numbering

/-- All that a call can do: nothing, add a key, or put a class on record. -/
theorem make_cases (numbering : Numbering) (call : Call) :
    (call.make numbering).2 = numbering ∨
      (∃ key, numbering.ledger.idOf? key = none ∧ numbering.supply.next ≠ .last ∧
        (call.make numbering).2 = numbering.adding key) ∨
      ∃ path schemaName kind,
        (call.make numbering).2 = numbering.recordIdentity path schemaName kind := by
  cases call with
  | record path schemaName kind => exact .inr (.inr ⟨path, schemaName, kind, rfl⟩)
  | ask key =>
    rw [Call.make_ask]
    cases known : numbering.ledger.idOf? key with
    | some id =>
      rw [Numbered.asking_known known]
      exact .inl rfl
    | none =>
      by_cases ended : numbering.supply.next = .last
      · rw [Numbered.asking_exhausted known ended]
        exact .inl rfl
      · rw [Numbered.asking_new known ended]
        exact .inr (.inl ⟨key, known, ended, rfl⟩)

/-- What is true of a numbering that goes on from a ledger, at every point. -/
structure GoesOn (ledger : Ledger) (numbering : Numbering) : Prop where
  kept : ledger.KeepsIds numbering.ledger
  below : ∀ key id, numbering.ledger.idOf? key = some id →
    id.number.toNat < numbering.supply.next.number.toNat
  distinct : ∀ key other id, numbering.ledger.idOf? key = some id →
    numbering.ledger.idOf? other = some id → key = other
  issued : numbering.supply.issued = (ledger.addedKeys numbering.ledger).length
  next : numbering.supply.next.number.toNat = ledger.nextId.number.toNat + numbering.supply.issued

/-- How a numbering answers a call for the id of a key: with the id that the key has, or else with the
next id of the supply, which the key has from then on, or with a refusal.  Nothing is taken back for it. -/
structure Answers (numbering : Numbering) (key : IdKey) : Prop where
  known : ∀ id, numbering.ledger.idOf? key = some id →
    Numbered.asking key numbering = (.ok id, numbering)
  new : numbering.ledger.idOf? key = none → numbering.supply.next ≠ .last →
    Numbered.asking key numbering = (.ok numbering.supply.next,
      ⟨numbering.ledger.withId key numbering.supply.next,
        ⟨numbering.supply.next.next, numbering.supply.issued + 1⟩⟩)
  exhausted : numbering.ledger.idOf? key = none → numbering.supply.next = .last →
    Numbered.asking key numbering = (.error ⟨.last⟩, numbering)
  inSteps : Numbered.asking key numbering = Numbered.askingInSteps key numbering

theorem answers (numbering : Numbering) (key : IdKey) : numbering.Answers key where
  known _ := Numbered.asking_known
  new := Numbered.asking_new
  exhausted := Numbered.asking_exhausted
  inSteps := by rw [Numbered.asking_eq_askingInSteps]

/-- Only a new key at the end of the id space is refused. -/
theorem eq_of_asking_eq_error {numbering after : Numbering} {key : IdKey} {exhausted : IdsExhausted}
    (refused : Numbered.asking key numbering = (.error exhausted, after)) :
    numbering.ledger.idOf? key = none ∧ numbering.supply.next = .last ∧ exhausted = ⟨.last⟩ ∧
      after = numbering := by
  cases known : numbering.ledger.idOf? key with
  | some id =>
    rw [Numbered.asking_known known] at refused
    cases refused
  | none =>
    by_cases ended : numbering.supply.next = .last
    · rw [Numbered.asking_exhausted known ended] at refused
      cases refused
      exact ⟨rfl, ended, rfl, rfl⟩
    · rw [Numbered.asking_new known ended] at refused
      cases refused

namespace GoesOn

variable {ledger : Ledger} {numbering : Numbering}

theorem ofLedger (faultless : Ledger.idFaults ledger.nextId ∅ ledger.owners = []) :
    GoesOn ledger (.ofLedger ledger) where
  kept := .refl ledger
  below := (Ledger.below_distinct_of_idFaults faultless).1
  distinct := (Ledger.below_distinct_of_idFaults faultless).2
  issued := by rw [Numbering.ofLedger, Ledger.addedKeys_self]; rfl
  next := rfl

theorem adding (goesOn : GoesOn ledger numbering) {key : IdKey}
    (fresh : numbering.ledger.idOf? key = none) (left : numbering.supply.next ≠ .last) :
    GoesOn ledger (numbering.adding key) := by
  have moved := ComponentId.toNat_next left
  have adds := adds_adding fresh left
  -- the new id is the only one that does not lie below the old supply
  have apart (other : IdKey) (stored : numbering.ledger.idOf? other = some numbering.supply.next) :
      False := Nat.lt_irrefl _ (goesOn.below other _ stored)
  refine ⟨goesOn.kept.trans adds.extends.ids, ?_, ?_, ?_, ?_⟩
  · intro other id stored
    rw [adds.ids] at stored
    rw [adds.supply, moved]
    split at stored
    · cases stored
      exact Nat.lt_succ_self _
    · exact Nat.lt_succ_of_lt (goesOn.below other id stored)
  · intro first second id stored again
    rw [adds.ids] at stored again
    split at stored
    next isNew =>
      cases stored
      split at again
      next isNew' => exact isNew.trans isNew'.symm
      next => exact (apart second again).elim
    next =>
      split at again
      next =>
        cases again
        exact (apart first stored).elim
      next => exact goesOn.distinct first second id stored again
  · rw [adds.supply, Numbering.adding, Ledger.length_addedKeys_withId goesOn.kept fresh, goesOn.issued]
  · rw [adds.supply, moved, goesOn.next, Nat.add_assoc]

theorem recordIdentity (goesOn : GoesOn ledger numbering) (path schemaName : String)
    (kind : ClassKind) : GoesOn ledger (numbering.recordIdentity path schemaName kind) where
  kept key id stored := (Ledger.idOf?_recordIdentity ..).trans (goesOn.kept key id stored)
  below key id stored := goesOn.below key id ((Ledger.idOf?_recordIdentity ..).symm.trans stored)
  distinct key other id stored again := goesOn.distinct key other id
    ((Ledger.idOf?_recordIdentity ..).symm.trans stored)
    ((Ledger.idOf?_recordIdentity ..).symm.trans again)
  issued := goesOn.issued
  next := goesOn.next

/-- One call leaves it at that, however it ends. -/
theorem make (goesOn : GoesOn ledger numbering) (call : Call) :
    GoesOn ledger (call.make numbering).2 := by
  rcases numbering.make_cases call with same | ⟨key, fresh, left, added⟩ |
    ⟨path, schemaName, kind, recorded⟩
  · rw [same]
    exact goesOn
  · rw [added]
    exact goesOn.adding fresh left
  · rw [recorded]
    exact goesOn.recordIdentity path schemaName kind

theorem after (goesOn : GoesOn ledger numbering) (calls : List Call) :
    GoesOn ledger (numbering.after calls) := by
  -- later calls go on from what the first one leaves, so the numbering varies
  induction calls generalizing numbering with
  | nil => exact goesOn
  | cons call rest ih => exact ih (goesOn.make call)

/-- No answer is the end of the id space. -/
theorem ne_last (goesOn : GoesOn ledger numbering) {key : IdKey} {id : ComponentId}
    {later : Numbering} (answered : Numbered.asking key numbering = (.ok id, later)) : id ≠ .last := by
  cases known : numbering.ledger.idOf? key with
  | some old =>
    rw [Numbered.asking_known known] at answered
    cases answered
    rintro rfl
    have low := goesOn.below key _ known
    have high := numbering.supply.next.number.toNat_lt
    have top : ComponentId.last.number.toNat = 4294967295 := rfl
    omega
  | none =>
    by_cases ended : numbering.supply.next = .last
    · rw [Numbered.asking_exhausted known ended] at answered
      cases answered
    · rw [Numbered.asking_new known ended] at answered
      cases answered
      exact ended

end GoesOn

theorem next_make_of_eq_last {numbering : Numbering} (ended : numbering.supply.next = .last)
    (call : Call) : (call.make numbering).2.supply.next = .last := by
  rcases numbering.make_cases call with same | ⟨key, -, left, -⟩ | ⟨path, schemaName, kind, recorded⟩
  · rw [same, ended]
  · exact absurd ended left
  · rw [recorded]
    exact ended

/-- Once the supply is used up it stays so. -/
theorem next_after_of_eq_last {numbering : Numbering} (ended : numbering.supply.next = .last)
    (calls : List Call) : (numbering.after calls).supply.next = .last := by
  induction calls generalizing numbering with
  | nil => exact ended
  | cons call rest ih => exact ih (next_make_of_eq_last ended call)

theorem keepsIds_make (numbering : Numbering) (call : Call) :
    numbering.ledger.KeepsIds (call.make numbering).2.ledger := by
  rcases numbering.make_cases call with same | ⟨key, fresh, left, added⟩ |
    ⟨path, schemaName, kind, recorded⟩
  · rw [same]
    exact .refl _
  · rw [added]
    exact (adds_adding fresh left).extends.ids
  · rw [recorded]
    exact fun key id stored => (Ledger.idOf?_recordIdentity ..).trans stored

/-- An id that was assigned once stays with its key. -/
theorem keepsIds_after (numbering : Numbering) (calls : List Call) :
    numbering.ledger.KeepsIds (numbering.after calls).ledger := by
  induction calls generalizing numbering with
  | nil => exact .refl _
  | cons call rest ih => exact (numbering.keepsIds_make call).trans (ih _)

/-- Whatever calls were made on a ledger whose ids are in order: the ids are still in order and below the
supply, which has moved on by one for each key that was added; a key gets its id or the next one; the end
of the id space is never given out; and once a call is refused, nothing has changed and every new key is
refused from then on. -/
theorem assigns_of_calls {ledger : Ledger}
    (faultless : Ledger.idFaults ledger.nextId ∅ ledger.owners = []) (calls : List Call) :
    let now := (Numbering.ofLedger ledger).after calls
    GoesOn ledger now ∧ now.supply.issued < UInt32.size ∧
      (∀ key, now.Answers key) ∧
      (∀ more, now.ledger.KeepsIds (now.after more).ledger) ∧
      (∀ key id later, Numbered.asking key now = (.ok id, later) → id ≠ .last) ∧
      ∀ key exhausted later, Numbered.asking key now = (.error exhausted, later) →
        later = now ∧ ∀ more other, (now.after more).ledger.idOf? other = none →
          Numbered.asking other (now.after more) = (.error exhausted, now.after more) := by
  intro now
  have goesOn : GoesOn ledger now := (GoesOn.ofLedger faultless).after calls
  refine ⟨goesOn, ?_, now.answers, now.keepsIds_after, fun key id later => goesOn.ne_last, ?_⟩
  · have moved := goesOn.next
    have high := now.supply.next.number.toNat_lt
    rw [UInt32.size]
    omega
  · intro key exhausted later refused
    obtain ⟨-, ended, rfl, rfl⟩ := eq_of_asking_eq_error refused
    refine ⟨rfl, fun more other fresh => ?_⟩
    exact Numbered.asking_exhausted fresh (next_after_of_eq_last ended more)

def scarce : Ledger :=
  { Ledger.fresh with nextId := ⟨4294967294⟩, levels := .ofList [("/Maps/Lobby", ⟨4294967293⟩)] }

/-- Calls that use the id up and then ask for another one. -/
def scarceCalls : List Call :=
  [.ask (.component .state "/A.Door"), .record "/A.Door" "Door" .root, .ask (.distance 900)]

theorem assigns_of_calls_scarce :
    Ledger.idFaults scarce.nextId ∅ scarce.owners = [] ∧
      let now := (Numbering.ofLedger scarce).after scarceCalls
      GoesOn scarce now ∧ now.supply.issued < UInt32.size ∧
        (∀ key, now.Answers key) ∧
        (∀ more, now.ledger.KeepsIds (now.after more).ledger) ∧
        (∀ key id later, Numbered.asking key now = (.ok id, later) → id ≠ .last) ∧
        ∀ key exhausted later, Numbered.asking key now = (.error exhausted, later) →
          later = now ∧ ∀ more other, (now.after more).ledger.idOf? other = none →
            Numbered.asking other (now.after more) = (.error exhausted, now.after more) :=
  ⟨by decide +kernel, assigns_of_calls (by decide +kernel) scarceCalls⟩

/-- The last id goes to the first new key, and the next new key is refused. -/
example :
    let now := (Numbering.ofLedger scarce).after scarceCalls
    now.supply = ⟨.last, 1⟩ ∧
      (Numbered.asking (.component .state "/A.Door") now).1.toOption = some ⟨4294967294⟩ ∧
      (Numbered.asking (.distance 900) now).1.toOption = none := by
  decide +kernel

end Numbering

end ComponentSchema
