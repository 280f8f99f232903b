import ComponentSchema.Proofs.Distinctness
import ComponentSchema.Proofs.History

/-!
The ids that are kept for hand-written components.  No new id is one of them, since they lie below every
watermark.  An id on record is taken as it is, and the ledger was only checked for ids that reach the
watermark, so a pass prints a reserved id exactly if one was on record for a component of its tree.
-/

namespace ComponentSchema

/-- An id is kept for hand-written components. -/
def ComponentId.IsReserved (id : ComponentId) : Prop := id.number < baseline.number

instance (id : ComponentId) : Decidable id.IsReserved :=
  inferInstanceAs (Decidable (id.number < ComponentId.baseline.number))

namespace Plan

def printedIds (plan : Plan) (course : Course) : List ComponentId :=
  (plan.schemaFiles course).flatMap fun entry => entry.2.componentIds

variable {plan : Plan} {reset : Bool} {queue : Option CandidateQueue} {files : FileSystem}
  {course : Course}

/-- What is printed are the ids of the components of the tree, as they are on record in the end. -/
theorem ReachesCompiling.mem_printedIds_iff (reaches : plan.ReachesCompiling reset queue files course)
    {id : ComponentId} : id ∈ plan.printedIds course ↔
      ∃ key ∈ plan.componentKeys course, (sealed course).idOf? key = some id := by
  unfold printedIds
  rw [reaches.componentIds, List.mem_map]
  constructor
  · rintro ⟨key, listed, rfl⟩
    obtain ⟨id, stored⟩ := reaches.exists_idOf? listed
    exact ⟨key, listed, by rw [idOf?_sealed, Ledger.idOf_of_idOf? stored, stored]⟩
  · rintro ⟨key, listed, stored⟩
    rw [idOf?_sealed] at stored
    exact ⟨key, listed, Ledger.idOf_of_idOf? stored⟩

/-- A new id is not reserved, so a reserved one was on record before. -/
theorem ReachesCompiling.idOf?_of_isReserved (reaches : plan.ReachesCompiling reset queue files course)
    {key : IdKey} {id : ComponentId} (stored : (sealed course).idOf? key = some id)
    (reserved : id.IsReserved) : course.outcome.ledger.idOf? key = some id := by
  obtain ⟨kept, -, new⟩ := reaches.ids
  cases known : course.outcome.ledger.idOf? key with
  | some old => exact (kept key old known).symm.trans stored
  | none =>
    have watermark := UInt32.le_iff_toNat_le.1 (isSound_of_readLedger reaches.loaded).baseline_le
    have high := watermark.trans (new key id stored known)
    exact absurd (UInt32.lt_iff_toNat_lt.1 reserved) (Nat.not_lt.2 high)

theorem ReachesCompiling.not_isReserved_iff (reaches : plan.ReachesCompiling reset queue files course) :
    (∀ id ∈ plan.printedIds course, ¬id.IsReserved) ↔
      ∀ key ∈ plan.componentKeys course, ∀ id, course.outcome.ledger.idOf? key = some id →
        ¬id.IsReserved := by
  constructor
  · intro printed key listed id known
    exact printed id (reaches.mem_printedIds_iff.2 ⟨key, listed, reaches.ids.1 key id known⟩)
  · intro recorded id member reserved
    obtain ⟨key, listed, stored⟩ := reaches.mem_printedIds_iff.1 member
    exact recorded key listed id (reaches.idOf?_of_isReserved stored reserved) reserved

/-- Whatever the passes before it were, a pass prints no reserved id if they began without a ledger. -/
theorem ReachesCompiling.not_isReserved_of_history {resets : Bool} {saved : List (Option ByteArray)}
    (history : History resets HasNone saved) (finds : plan.Finds files HasNone saved)
    (reaches : plan.ReachesCompiling reset queue files course) :
    ∀ id ∈ plan.printedIds course, ¬id.IsReserved := by
  obtain ⟨ledgers, rfl, each, -⟩ := history.issued
  have issued := isIssued_of_finds each finds reaches.loaded
  refine reaches.not_isReserved_iff.2 fun key _ id known reserved => ?_
  exact absurd (UInt32.lt_iff_toNat_lt.1 reserved) (Nat.not_lt.2 (issued.range key id known).1)

/-- A pass that succeeds prints valid ids below the watermark that it saves.  None of them is reserved
exactly if no component of its tree was on record with a reserved id in the ledger it started from. -/
theorem printedIds_of_run {before after : Generator} {report : Report}
    (run : plan.run reset before = (.ok report, after)) :
    ∃ course, plan.ReachesSaving reset before.queue before.files course ∧
      plan.kept after.files = some (LedgerStore.bytesOf (sealed course)) ∧
      course.prepared.Takes ((plan.schemaFiles course).map plan.emitter.writeOf) course.written ∧
      (∀ id ∈ plan.printedIds course,
        id.isValid = true ∧ id.number < (sealed course).nextId.number) ∧
      ((∀ id ∈ plan.printedIds course, ¬id.IsReserved) ↔
        ∀ key ∈ plan.componentKeys course, ∀ id, course.outcome.ledger.idOf? key = some id →
          ¬id.IsReserved) := by
  obtain ⟨course, reaches, -, -, found⟩ := course_of_run run
  refine ⟨course, reaches, kept_eq_some_iff.2 found, reaches.issues_takes.2, fun id member => ?_,
    reaches.not_isReserved_iff⟩
  obtain ⟨key, -, stored⟩ := reaches.mem_printedIds_iff.1 member
  exact ⟨reaches.isSound.valid key id stored, reaches.isSound.below key id stored⟩

/-- A ledger that passes the integrity check, although the id of the door is reserved. -/
def reserving : Ledger :=
  { Ledger.fresh with
    nextId := ⟨10050⟩
    classes := .ofList [("/A.Door", ⟨"Door", .root⟩)]
    components := { Ledger.fresh.components with state := .ofList [("/A.Door", ⟨5⟩)] } }

/-- A pass on that ledger prints the reserved id, and a new one for the lamp. -/
theorem printedIds_of_run_reserving :
    let crowd := site [.gate, .lamp] []
    ∃ report after, crowd.run false { files := holding reserving } = (.ok report, after) ∧
      ∃ course, crowd.ReachesSaving false none (holding reserving) course ∧
        crowd.kept after.files = some (LedgerStore.bytesOf (sealed course)) ∧
        course.prepared.Takes ((crowd.schemaFiles course).map crowd.emitter.writeOf) course.written ∧
        (∀ id ∈ crowd.printedIds course,
          id.isValid = true ∧ id.number < (sealed course).nextId.number) ∧
        ((∀ id ∈ crowd.printedIds course, ¬id.IsReserved) ↔
          ∀ key ∈ crowd.componentKeys course, ∀ id, course.outcome.ledger.idOf? key = some id →
            ¬id.IsReserved) ∧
        ¬∀ id ∈ crowd.printedIds course, ¬id.IsReserved := by
  intro crowd
  have orderly : AreOrderly [.gate, .lamp] [] := by decide +kernel
  have standing : reserving.isStale = false := by decide +kernel
  have sound : reserving.checkIntegrity.isOk = true := by decide +kernel
  obtain ⟨saved, after, saves⟩ :=
    exists_saves_holding orderly standing sound (by decide +kernel)
  obtain ⟨report, run⟩ := saves.run
  obtain ⟨course, reaches, kept, written, printed, iff⟩ := printedIds_of_run run
  refine ⟨report, after, run, course, reaches, kept, written, printed, iff, fun spared => ?_⟩
  have start : course.outcome = .loaded reserving :=
    Except.ok.inj (reaches.loaded.symm.trans (readLedger_holding standing sound))
  have listed : .component .state "/A.Door" ∈ crowd.componentKeys course := by
    apply List.mem_append_left
    rw [(classes_of_site orderly reaches.toReachesEmitting).1]
    decide +kernel
  have recorded : course.outcome.ledger.idOf? (.component .state "/A.Door") = some ⟨5⟩ := by
    rw [start]
    decide +kernel
  exact iff.1 spared _ listed _ recorded (by decide)

end Plan

end ComponentSchema
