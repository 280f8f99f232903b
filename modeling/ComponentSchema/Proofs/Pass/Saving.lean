import ComponentSchema.Proofs.Ledger.Integrity
import ComponentSchema.Proofs.Ledger.Store
import ComponentSchema.Proofs.Pass.Endings
import ComponentSchema.Proofs.Schema.Emission

/-!
The ledger that a pass saves.  It extends the ledger that the pass started from, it is sound, and its
file holds it when the pass is over.
-/

namespace ComponentSchema

namespace Plan

def sealed (course : Course) : Ledger := sealLedger course.numbering course.hash

theorem idOf?_sealed (course : Course) (key : IdKey) :
    (sealed course).idOf? key = course.numbering.ledger.idOf? key := by
  cases key <;> rfl

/-- A pass that succeeds saves the ledger of its course, and the file of the ledger holds it. -/
theorem course_of_run {plan : Plan} {reset : Bool} {before after : Generator} {report : Report}
    (run : plan.run reset before = (.ok report, after)) :
    ∃ course, plan.ReachesSaving reset before.queue before.files course ∧
      plan.store.save (sealed course) (plan.compilation course).files = (.ok (), after.files) ∧
      report = Plan.report course ∧
      after.files.read plan.store.path = .ok (LedgerStore.bytesOf (sealed course)) := by
  rcases ends_of_run run with _ | _ | _ | _ | _ | _ | _ | _ | _ | _ | ⟨reaches, saved⟩
  exact ⟨_, reaches, saved, rfl, LedgerStore.read_of_save saved⟩

variable {plan : Plan} {reset : Bool} {queue : Option CandidateQueue} {files : FileSystem}
  {course : Course}

theorem ReachesCompiling.extends_ (reaches : plan.ReachesCompiling reset queue files course) :
    (Numbering.ofLedger course.outcome.ledger).Extends course.numbering :=
  (plan.emitter.allows_extends.emission course.outcome.ledger course.discovery.classes
    course.levels).of_eq reaches.emits

/-- The saved ledger has every id of the ledger that the pass started from, a watermark that is no
lower, and between both watermarks all ids that are new. -/
theorem ReachesCompiling.ids (reaches : plan.ReachesCompiling reset queue files course) :
    course.outcome.ledger.KeepsIds (sealed course) ∧
      course.outcome.ledger.nextId.number.toNat ≤ (sealed course).nextId.number.toNat ∧
      ∀ key id, (sealed course).idOf? key = some id →
        course.outcome.ledger.idOf? key = none →
          course.outcome.ledger.nextId.number.toNat ≤ id.number.toNat := by
  have step := reaches.extends_
  refine ⟨?_, step.supply, ?_⟩
  · intro key id stored
    rw [idOf?_sealed]
    exact step.ids key id stored
  · intro key id stored absent
    rw [idOf?_sealed] at stored
    exact (step.added key id stored absent).1

theorem ReachesCompiling.names (reaches : plan.ReachesCompiling reset queue files course) :
    course.outcome.ledger.KeepsNames (sealed course) := reaches.extends_.names

theorem ReachesSaving.isSound (reaches : plan.ReachesSaving reset queue files course) :
    (sealed course).IsSound := Ledger.isSound_of_checkIntegrity reaches.sound

/-- What loading the saved ledger leads to, wherever its file is found untouched. -/
theorem ReachesSaving.load (reaches : plan.ReachesSaving reset queue files course)
    {later : FileSystem}
    (found : later.read plan.store.path = .ok (LedgerStore.bytesOf (sealed course)))
    (writable : plan.store.isReadOnly later = false) :
    plan.store.load later =
      .ok (if (sealed course).isStale then .reset .stale else .loaded (sealed course)) := by
  rw [LedgerStore.load_of_read found writable]
  split
  · rfl
  · have sound : (sealed course).checkIntegrity = .ok () := reaches.sound
    rw [sound]

/-- A pass starts afresh, or from a sound ledger that is built on. -/
theorem readLedger_eq_ok {outcome : LoadOutcome}
    (loaded : plan.readLedger reset files = .ok outcome) :
    (∃ reason, outcome = .reset reason) ∨
      ∃ ledger, outcome = .loaded ledger ∧ ledger.isStale = false ∧ ledger.IsSound := by
  cases reset with
  | true =>
    unfold readLedger at loaded
    rw [if_pos rfl] at loaded
    split at loaded
    · cases loaded
    · cases loaded
      exact .inl ⟨.requested, rfl⟩
  | false =>
    rcases LedgerStore.load_eq_ok loaded with fresh | ⟨ledger, rfl, standing, checked⟩
    · exact .inl fresh
    · exact .inr ⟨ledger, rfl, standing, Ledger.isSound_of_checkIntegrity checked⟩

/-- No pass starts from a ledger that hands an id out twice. -/
theorem isSound_of_readLedger {outcome : LoadOutcome}
    (loaded : plan.readLedger reset files = .ok outcome) : outcome.ledger.IsSound := by
  rcases readLedger_eq_ok loaded with ⟨reason, rfl⟩ | ⟨ledger, rfl, -, sound⟩
  · exact Ledger.isSound_fresh
  · exact sound

/-- No pass starts from a ledger that would be discarded. -/
theorem isStale_of_readLedger {outcome : LoadOutcome}
    (loaded : plan.readLedger reset files = .ok outcome) : outcome.ledger.isStale = false := by
  rcases readLedger_eq_ok loaded with ⟨reason, rfl⟩ | ⟨ledger, rfl, standing, -⟩
  · rfl
  · exact standing

theorem readLedger_of_absent (absent : plan.store.isPresent files = false) :
    plan.readLedger false files = .ok (.reset .missing) := by
  rw [readLedger, if_neg Bool.false_ne_true, LedgerStore.load, absent]
  rfl

/-- A ledger is loaded only where it could be replaced later. -/
theorem isReadOnly_of_readLedger {bytes : ByteArray} {outcome : LoadOutcome}
    (found : files.read plan.store.path = .ok bytes)
    (loaded : plan.readLedger false files = .ok outcome) : plan.store.isReadOnly files = false := by
  have load : plan.store.load files = .ok outcome := loaded
  cases readOnly : plan.store.isReadOnly files with
  | true =>
    simp only [LedgerStore.load, LedgerStore.isPresent_of_read found, readOnly] at load
    cases load
  | false => rfl

/-- What a pass starts from where the last one left a ledger. -/
theorem outcome_of_read {ledger : Ledger} {outcome : LoadOutcome}
    (found : files.read plan.store.path = .ok (LedgerStore.bytesOf ledger))
    (loaded : plan.readLedger false files = .ok outcome) :
    (ledger.isStale = true ∧ outcome = .reset .stale) ∨
      (ledger.isStale = false ∧ ledger.IsSound ∧ outcome = .loaded ledger) := by
  have load : plan.store.load files = .ok outcome := loaded
  rw [LedgerStore.load_of_read found (isReadOnly_of_readLedger found loaded)] at load
  cases stale : ledger.isStale with
  | true =>
    rw [stale] at load
    cases load
    exact .inl ⟨rfl, rfl⟩
  | false =>
    rw [stale] at load
    cases checked : ledger.checkIntegrity with
    | error findings =>
      rw [checked] at load
      cases load
    | ok _ =>
      rw [checked] at load
      cases load
      exact .inr ⟨rfl, Ledger.isSound_of_checkIntegrity checked, rfl⟩

end Plan

end ComponentSchema
