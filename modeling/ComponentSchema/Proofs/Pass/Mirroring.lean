import ComponentSchema.Proofs.Pass.Endings

/-!
Two passes side by side.  Generators that have the same files and hear of the same candidates differ in
what was told and in nothing that a pass looks at, so stage by stage two passes from them come to the same
results, or both fail.
-/

namespace ComponentSchema

/-- Both of two attempts succeed, with values that a relation allows, or both fail. -/
inductive Agree {ε α β : Type} (same : α → β → Prop) : Except ε α → Except ε β → Prop
  | ok {value : α} {other : β} (alike : same value other) : Agree same (.ok value) (.ok other)
  | error (error other : ε) : Agree same (.error error) (.error other)

namespace Agree

variable {ε α : Type}

theorem refl (result : Except ε α) : Agree Eq result result := by
  cases result with
  | error error => exact .error error error
  | ok value => exact .ok rfl

theorem toOption_eq {first second : Except ε α} (agree : Agree Eq first second) :
    first.toOption = second.toOption := by
  cases agree with
  | error error other => rfl
  | ok alike => exact congrArg some alike

end Agree

/-- The candidates that wait when a generator starts a pass. -/
def Generator.waiting (generator : Generator) : List String :=
  generator.queue.elim [] CandidateQueue.waiting

/-- Two generators look the same to a pass. -/
structure Generator.Matches (first second : Generator) : Prop where
  files : first.files = second.files
  waiting : first.waiting = second.waiting

namespace PassTask

variable {α β γ δ : Type} {same : α → β → Prop} {after : γ → δ → Prop}

/-- Two pieces of work mirror each other: from generators that match they lead to generators that match,
with values that a relation allows, or both fail. -/
def Mirrors (same : α → β → Prop) (first : PassTask α) (second : PassTask β) : Prop :=
  ∀ generator partner : Generator, generator.Matches partner →
    Agree same (first generator).1 (second partner).1 ∧
      (first generator).2.Matches (second partner).2

namespace Mirrors

theorem pure {value : α} {other : β} (alike : same value other) :
    Mirrors same (pure value) (pure other) :=
  fun _ _ matching => ⟨.ok alike, matching⟩

theorem bind {first : PassTask α} {second : PassTask β} {next : α → PassTask γ}
    {next' : β → PassTask δ} (start : Mirrors same first second)
    (onward : ∀ value other, same value other → Mirrors after (next value) (next' other)) :
    Mirrors after (first >>= next) (second >>= next') := by
  intro generator partner matching
  obtain ⟨agree, still⟩ := start generator partner matching
  rw [Task.bind_apply, Task.bind_apply]
  rcases run : first generator with ⟨result, between⟩
  rcases run' : second partner with ⟨result', between'⟩
  rw [run, run'] at agree still
  cases agree with
  | error error other => exact ⟨.error error other, still⟩
  | @ok value other alike => exact onward value other alike between between' still

theorem get : Mirrors Generator.Matches get get := fun _ _ matching => ⟨.ok matching, matching⟩

theorem modify {change change' : Generator → Generator}
    (changes : ∀ generator partner, generator.Matches partner →
      (change generator).Matches (change' partner)) :
    Mirrors (fun _ _ => True) (modify change) (modify change') :=
  fun generator partner matching => ⟨.ok trivial, changes generator partner matching⟩

theorem tell (events events' : List Event) :
    Mirrors (fun _ _ => True) (PassTask.tell events) (PassTask.tell events') :=
  .modify fun _ _ matching => ⟨matching.files, matching.waiting⟩

theorem enter (stage : Stage) :
    Mirrors (fun _ _ => True) (PassTask.enter stage) (PassTask.enter stage) :=
  bind get fun _ _ _ => bind (tell _ _) fun _ _ _ =>
    .modify fun _ _ matching => ⟨matching.files, matching.waiting⟩

theorem ofExcept {ε : Type} {result : Except ε α} {other : Except ε β} (agree : Agree same result other)
    (wrap : ε → PassError) :
    Mirrors same (PassTask.ofExcept wrap result) (PassTask.ofExcept wrap other) := by
  intro generator partner matching
  cases agree with
  | error error other => exact ⟨.error (wrap error) (wrap other), matching⟩
  | ok alike => exact ⟨.ok alike, matching⟩

theorem onFiles {ε : Type} (wrap : ε → PassError) (work : ExceptT ε (StateM FileSystem) α) :
    Mirrors Eq (PassTask.onFiles wrap work) (PassTask.onFiles wrap work) := by
  intro generator partner matching
  unfold PassTask.onFiles
  rw [matching.files]
  exact ⟨.refl _, rfl, matching.waiting⟩

/-- Emission depends on the files only. -/
theorem emit (numbering : Numbering) (work : Emission α) :
    Mirrors Eq (PassTask.emit numbering work) (PassTask.emit numbering work) := by
  intro generator partner matching
  unfold PassTask.emit
  rw [matching.files]
  exact ⟨.refl _, rfl, matching.waiting⟩

end Mirrors

end PassTask

namespace Plan

open PassTask

/-- Two plans keep their files in the same places and call the same compiler in the same way. -/
structure Parallels (plan other : Plan) : Prop where
  database : plan.store = other.store
  emitter : plan.emitter = other.emitter
  compiler : plan.compiler = other.compiler
  calls : plan.settings.compiler = other.settings.compiler

variable {plan other : Plan}

theorem load_mirrors (parallels : plan.Parallels other) (reset : Bool) :
    Mirrors Eq (plan.load reset) (other.load reset) := by
  refine .bind (.enter .loading) fun _ _ _ => .bind .get fun generator partner matching => ?_
  have read : plan.readLedger reset generator.files = other.readLedger reset partner.files := by
    unfold readLedger
    rw [parallels.database, matching.files]
  rw [read]
  refine .bind (.ofExcept (.refl _) _) fun outcome _ same => ?_
  subst same
  exact .bind (.tell _ _) fun _ _ _ => .pure rfl

theorem waiting_drained (queue : Option CandidateQueue) :
    (queue.map CandidateQueue.drained).elim [] CandidateQueue.waiting = [] := by
  cases queue with
  | none => rfl
  | some queue => cases queue <;> rfl

theorem drain_mirrors : Mirrors Eq drain drain := by
  refine .bind .get fun generator partner matching => .bind (.modify ?_) fun _ _ _ => ?_
  · intro _ _ still
    refine ⟨still.files, ?_⟩
    exact (waiting_drained generator.queue).trans (waiting_drained partner.queue).symm
  · exact .pure matching.waiting

theorem compile_mirrors (parallels : plan.Parallels other) :
    Mirrors Eq plan.compile other.compile := by
  refine .bind (.enter .compiling) fun _ _ _ => .bind .get fun generator partner matching => ?_
  rw [matching.files, parallels.compiler, parallels.calls]
  refine .bind (.modify fun _ _ matching => ⟨rfl, matching.waiting⟩) fun _ _ _ => ?_
  refine .bind (.tell _ _) fun _ _ _ => .bind (.ofExcept (.refl _) _) fun _ _ _ => ?_
  exact .pure rfl

theorem persist_mirrors (parallels : plan.Parallels other) (numbering : Numbering) :
    Mirrors Eq (plan.persist numbering) (other.persist numbering) := by
  have hashing : Mirrors Eq plan.hashDescriptor other.hashDescriptor := by
    unfold hashDescriptor
    rw [parallels.calls]
    refine .bind .get fun generator partner matching => ?_
    rw [matching.files]
    refine .bind (.ofExcept (.refl _) _) fun bytes _ same => ?_
    subst same
    exact .bind (.tell _ _) fun _ _ _ => .pure rfl
  unfold persist
  rw [parallels.database]
  refine .bind (.enter .persisting) fun _ _ _ => .bind hashing fun hash _ same => ?_
  subst same
  refine .bind (.ofExcept (.refl _) _) fun _ _ _ => ?_
  exact .bind (.onFiles _ _) fun _ _ _ => .pure rfl

/-- The emitting stage does the same in batches of any size. -/
theorem emit_mirrors (parallels : plan.Parallels other)
    (positive : plan.settings.generator.batchSize ≠ 0)
    (positive' : other.settings.generator.batchSize ≠ 0) (ledger : Ledger) (classes : List Node)
    (levels : List Level) :
    Mirrors Eq (plan.emit ledger classes levels) (other.emit ledger classes levels) := by
  intro generator partner matching
  obtain ⟨log, emits⟩ := plan.emit_apply positive ledger classes levels generator
  obtain ⟨log', emits'⟩ := other.emit_apply positive' ledger classes levels partner
  have same : plan.emission ledger classes levels = other.emission ledger classes levels := by
    unfold emission
    rw [parallels.emitter]
  rw [emits, emits', parallels.emitter, same, matching.files]
  rcases other.emitter.prepare partner.files with ⟨failure | _, prepared⟩
  · exact ⟨.error _ _, rfl, matching.waiting⟩
  · dsimp only
    rcases other.emission ledger classes levels ⟨.ofLedger ledger, prepared⟩ with
      ⟨error | made, workshop⟩
    · exact ⟨.error _ _, rfl, matching.waiting⟩
    · exact ⟨.ok rfl, rfl, matching.waiting⟩

end Plan

end ComponentSchema
