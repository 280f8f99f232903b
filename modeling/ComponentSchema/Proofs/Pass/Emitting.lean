import ComponentSchema.Pass.Run
import ComponentSchema.Proofs.Task

/-!
The emitting stage.  Batches only decide where events are told: what the stage does to files and ids
is one emission over all classes, followed by the levels and the cull distances.
-/

namespace ComponentSchema

/-- Batches hold the items in order. -/
theorem flatten_batches {α : Type} {size : Nat} (positive : size ≠ 0) (items : List α) :
    (batches size items).flatten = items := by
  induction items using batches.induct size with
  | case1 items none =>
    rw [batches, if_pos none]
    rcases none with empty | zero
    · exact (List.isEmpty_iff.1 empty).symm
    · exact absurd zero positive
  | case2 items some_ ih =>
    rw [batches, if_neg some_, List.flatten_cons, ih, List.take_append_drop]

namespace PassTask

theorem enter_apply (next : Stage) (generator : Generator) :
    enter next generator = (.ok (), { generator with
      stage := next
      log := generator.log ++
        [⟨.debug, "pass state", [("from", generator.stage.name), ("to", next.name)]⟩] }) := rfl

theorem tell_apply (events : List Event) (generator : Generator) :
    tell events generator = (.ok (), { generator with log := generator.log ++ events }) := rfl

end PassTask

namespace Plan

/-- All that the emitting stage emits, on fresh ground. -/
def emission (plan : Plan) (ledger : Ledger) (classes : List Node) (levels : List Level) :
    Emission (Draft × Nat × Nat) := do
  let draft ← Draft.emitAll plan.emitter { registry := .ofLedger ledger } classes
  let levelComponents ← plan.emitter.emitLevels levels
  let distanceComponents ← plan.emitter.emitDistances draft.distances
  pure (draft, levelComponents, distanceComponents)

/-- What a step of the emitting stage leads to, given what its emission led to. -/
def afterEmission {α β : Type} (generator : Generator) (log : List Event)
    (result : α → Numbering → β) :
    Except EmissionError α × Workshop → Except PassError β × Generator
  | (.ok value, workshop) =>
    (.ok (result value workshop.numbering), { generator with files := workshop.files, log })
  | (.error error, workshop) =>
    (.error (.emission error), { generator with files := workshop.files, log })

theorem emit_step {α : Type} (numbering : Numbering) (work : Emission α) (generator : Generator) :
    PassTask.emit numbering work generator =
      afterEmission generator generator.log Prod.mk (work ⟨numbering, generator.files⟩) := by
  unfold PassTask.emit
  rcases work ⟨numbering, generator.files⟩ with ⟨_ | _, _⟩ <;> rfl

theorem emitBatch_apply (plan : Plan) (progress : Draft × Numbering) (batch : Nat × List Node)
    (generator : Generator) :
    ∃ log, plan.emitBatch progress batch generator =
      afterEmission generator log Prod.mk
        (progress.1.emitAll plan.emitter batch.2 ⟨progress.2, generator.files⟩) := by
  unfold emitBatch
  rw [Task.bind_apply, emit_step]
  rcases progress.1.emitAll plan.emitter batch.2 ⟨progress.2, generator.files⟩ with ⟨_ | _, _⟩
  · exact ⟨_, rfl⟩
  · exact ⟨_, rfl⟩

theorem emitBatches_apply (plan : Plan) (batched : List (Nat × List Node))
    (progress : Draft × Numbering) (generator : Generator) :
    ∃ log, batched.foldlM plan.emitBatch progress generator =
      afterEmission generator log Prod.mk
        (progress.1.emitAll plan.emitter (batched.flatMap Prod.snd)
          ⟨progress.2, generator.files⟩) := by
  induction batched generalizing progress generator with
  | nil => exact ⟨generator.log, rfl⟩
  | cons batch rest ih =>
    obtain ⟨log, first⟩ := plan.emitBatch_apply progress batch generator
    rw [List.foldlM_cons, Task.bind_apply, first, List.flatMap_cons]
    unfold Draft.emitAll at ih ⊢
    rw [List.foldlM_append, Task.bind_apply]
    rcases batch.2.foldlM (Draft.emitNext plan.emitter) progress.1 ⟨progress.2, generator.files⟩ with
      ⟨error | draft, workshop⟩
    · exact ⟨log, rfl⟩
    · obtain ⟨later, others⟩ := ih (draft, workshop.numbering)
        { generator with files := workshop.files, log }
      refine ⟨later, ?_⟩
      simp only [afterEmission]
      rw [others]
      rcases (rest.flatMap Prod.snd).foldlM (Draft.emitNext plan.emitter) draft workshop with
        ⟨_ | _, _⟩ <;> rfl

/-- What the emitting stage answers with. -/
def emittedOf (made : Draft × Nat × Nat) (numbering : Numbering) : Emitted :=
  { numbering, clashes := made.1.registry.clashes, levelComponents := made.2.1,
    distanceComponents := made.2.2 }

/-- The emitting stage prepares the schema tree and then does one emission. -/
theorem emit_apply (plan : Plan) (positive : plan.settings.generator.batchSize ≠ 0)
    (ledger : Ledger) (classes : List Node) (levels : List Level) (generator : Generator) :
    ∃ log, plan.emit ledger classes levels generator =
      match plan.emitter.prepare generator.files with
      | (.error failure, files) =>
        (.error (.emission (.file failure)), { generator with stage := .emitting, files, log })
      | (.ok (), prepared) =>
        afterEmission { generator with stage := .emitting } log emittedOf
          (plan.emission ledger classes levels ⟨.ofLedger ledger, prepared⟩) := by
  unfold emit
  rw [Task.bind_apply, PassTask.enter_apply]
  dsimp only
  rw [Task.bind_apply]
  unfold PassTask.onFiles
  dsimp only
  rcases plan.emitter.prepare generator.files with ⟨failure | _, prepared⟩
  · exact ⟨_, rfl⟩
  · have whole : (((List.range (batches plan.settings.generator.batchSize classes).length).zip
        (batches plan.settings.generator.batchSize classes)).flatMap Prod.snd) = classes := by
      rw [List.flatMap_def, List.map_snd_zip (by simp), flatten_batches positive]
    obtain ⟨log, batched⟩ := plan.emitBatches_apply
      ((List.range (batches plan.settings.generator.batchSize classes).length).zip
        (batches plan.settings.generator.batchSize classes))
      ({ registry := .ofLedger ledger }, .ofLedger ledger)
      { generator with
        stage := .emitting
        files := prepared
        log := generator.log ++ [⟨.debug, "pass state",
          [("from", generator.stage.name), ("to", Stage.emitting.name)]⟩] }
    simp only [Except.mapError]
    rw [Task.bind_apply, batched, whole]
    unfold emission
    rw [Task.bind_apply]
    dsimp only
    rcases Draft.emitAll plan.emitter { registry := .ofLedger ledger } classes
      ⟨.ofLedger ledger, prepared⟩ with ⟨error | draft, workshop⟩
    · exact ⟨_, rfl⟩
    · simp only [afterEmission]
      rw [Task.bind_apply, PassTask.tell_apply]
      dsimp only
      rw [Task.bind_apply, emit_step, Task.bind_apply]
      dsimp only
      rcases plan.emitter.emitLevels levels workshop with ⟨error | levelCount, workshop⟩
      · exact ⟨_, rfl⟩
      · simp only [afterEmission]
        rw [Task.bind_apply, emit_step, Task.bind_apply]
        dsimp only
        rcases plan.emitter.emitDistances draft.distances workshop with ⟨error | count, workshop⟩
        · exact ⟨_, rfl⟩
        · exact ⟨_, rfl⟩

end Plan

end ComponentSchema
