import ComponentSchema.Proofs.History
import ComponentSchema.Proofs.Schema.Writing

/-!
The stages as a machine.  A generator changes its stage only to one that may follow, and what it does to
the queue and to files depends on the stage it stands in: it takes candidates while discovering, writes
the schema tree while emitting, runs the compiler while compiling, and saves the ledger while persisting.
An error names the stage that the pass stood in when it failed, and so a pass that fails before the
emitting stage leaves all files alone.
-/

namespace ComponentSchema

def Event.IsStageChange (event : Event) : Prop := event.message = "pass state"

theorem Event.not_isStageChange {severity : Severity} {message : String}
    {details : List (String × String)} (differs : message.toList.head? ≠ some 'p') :
    ¬IsStageChange ⟨severity, message, details⟩ := by
  rintro (rfl : message = "pass state")
  exact differs rfl

namespace Plan

/-- One step of a generator.  Only entering a stage tells of it, unless the compiler makes it up. -/
inductive Step (plan : Plan) : Generator → Generator → Prop
  | enter {generator : Generator} {next : Stage}
    (allowed : generator.stage.canEnter next = true) :
    Step plan generator (PassTask.enter next generator).2
  | tell {generator : Generator} {events : List Event}
    (others : ∀ event ∈ events, ¬event.IsStageChange) :
    Step plan generator (PassTask.tell events generator).2
  | drain {generator : Generator} (stands : generator.stage = .discovering) :
    Step plan generator (drain generator).2
  | prepare {generator : Generator} (stands : generator.stage = .emitting) :
    Step plan generator { generator with files := (plan.emitter.prepare generator.files).2 }
  | write {generator : Generator} {files : FileSystem} (stands : generator.stage = .emitting)
    (writes : plan.emitter.WritesOne (fun _ _ => True) generator.files files) :
    Step plan generator { generator with files }
  | compile {generator : Generator} (stands : generator.stage = .compiling) :
    Step plan generator { generator with
      files := (plan.compiler plan.settings.compiler generator.files).files
      log := generator.log ++ (plan.compiler plan.settings.compiler generator.files).events }
  | save {generator : Generator} (stands : generator.stage = .persisting) (ledger : Ledger) :
    Step plan generator { generator with files := (plan.store.save ledger generator.files).2 }

/-- Any number of steps. -/
abbrev Path (plan : Plan) : Generator → Generator → Prop := Relation.ReflTransGen plan.Step

/-- The stage in which work ends: the one it leads to, or the one that its error names. -/
def standing {α : Type} (goal : Stage) : Except PassError α → Stage
  | .ok _ => goal
  | .error error => error.stage

/-- Started in one stage, the work walks by steps, and when it is over the generator stands in the
stage that the work leads to, or in the one that its error names. -/
def Walks {α : Type} (plan : Plan) (start goal : Stage) (work : PassTask α) : Prop :=
  ∀ generator : Generator, generator.stage = start →
    plan.Path generator (work generator).2 ∧
      (work generator).2.stage = standing goal (work generator).1

namespace Walks

variable {plan : Plan} {α β : Type} {start middle goal stage : Stage}

theorem path_of_eq {work : PassTask α} (walks : plan.Walks start goal work)
    {before after : Generator} {result : Except PassError α} (stands : before.stage = start)
    (run : work before = (result, after)) : plan.Path before after := by
  have path := (walks before stands).1
  rwa [run] at path

theorem pure (value : α) : plan.Walks stage stage (pure value) := fun _ stands => ⟨.refl, stands⟩

theorem bind {work : PassTask α} {next : α → PassTask β} (first : plan.Walks start middle work)
    (second : ∀ value, plan.Walks middle goal (next value)) :
    plan.Walks start goal (work >>= next) := by
  intro generator stands
  obtain ⟨path, there⟩ := first generator stands
  rw [Task.bind_apply]
  rcases ended : work generator with ⟨error | value, between⟩
  · rw [ended] at path there
    exact ⟨path, there⟩
  · rw [ended] at path there
    obtain ⟨later, last⟩ := second value between there
    exact ⟨path.trans later, last⟩

/-- What comes after looking at the generator may depend on what is seen. -/
theorem get_bind {next : Generator → PassTask β}
    (second : ∀ generator, plan.Walks start goal (next generator)) :
    plan.Walks start goal (get >>= next) := fun generator stands => second generator generator stands

theorem ofExcept {ε : Type} (wrap : ε → PassError) (names : ∀ error, (wrap error).stage = stage)
    (result : Except ε α) : plan.Walks stage stage (PassTask.ofExcept wrap result) := by
  intro generator stands
  cases result with
  | ok value => exact ⟨.refl, stands⟩
  | error error => exact ⟨.refl, stands.trans (names error).symm⟩

theorem enter (allowed : start.canEnter goal = true) :
    plan.Walks start goal (PassTask.enter goal) := by
  intro generator stands
  exact ⟨.single (.enter (stands ▸ allowed)), rfl⟩

theorem tell {events : List Event} (others : ∀ event ∈ events, ¬event.IsStageChange) :
    plan.Walks stage stage (PassTask.tell events) :=
  fun _ stands => ⟨.single (.tell others), stands⟩

theorem tellOne {severity : Severity} {message : String} {details : List (String × String)}
    (differs : message.toList.head? ≠ some 'p') :
    plan.Walks stage stage (PassTask.tell [⟨severity, message, details⟩]) := by
  refine tell fun event member => ?_
  rw [List.mem_singleton.1 member]
  exact Event.not_isStageChange differs

/-- Work on files walks if it changes them by steps only. -/
theorem onFiles {ε : Type} (wrap : ε → PassError) {work : ExceptT ε (StateM FileSystem) α}
    (names : ∀ error, (wrap error).stage = stage)
    (steps : ∀ generator : Generator, generator.stage = stage →
      plan.Step generator { generator with files := (work generator.files).2 }) :
    plan.Walks stage stage (PassTask.onFiles wrap work) := by
  intro generator stands
  refine ⟨.single (steps generator stands), ?_⟩
  unfold PassTask.onFiles
  rcases work generator.files with ⟨error | value, after⟩
  · exact stands.trans (names error).symm
  · exact stands

theorem path_of_writes {before after : FileSystem} (generator : Generator)
    (stands : generator.stage = .emitting) (writes : plan.emitter.WritesAny before after) :
    plan.Path { generator with files := before } { generator with files := after } := by
  induction writes with
  | refl => exact .refl
  | tail _ step path => exact path.tail (.write stands step)

/-- Emission walks, for all it does to files is write schema files. -/
theorem emit {work : Emission α} (numbering : Numbering)
    (writes : Task.Keeps (Workshop.OnFiles plan.emitter.WritesAny) work) :
    plan.Walks .emitting .emitting (PassTask.emit numbering work) := by
  intro generator stands
  refine ⟨path_of_writes generator stands (writes ⟨numbering, generator.files⟩), ?_⟩
  unfold PassTask.emit
  rcases work ⟨numbering, generator.files⟩ with ⟨error | value, after⟩
  · exact stands
  · exact stands

theorem foldlM {work : β → α → PassTask β} (each : ∀ value item,
    plan.Walks stage stage (work value item)) (items : List α) (first : β) :
    plan.Walks stage stage (items.foldlM work first) := by
  induction items generalizing first with
  | nil => exact .pure first
  | cons item rest ih =>
    rw [List.foldlM_cons]
    exact (each first item).bind ih

end Walks

section

variable (plan : Plan)

theorem walks_load (reset : Bool) : plan.Walks .idle .loading (plan.load reset) := by
  refine (Walks.enter rfl).bind fun _ => .get_bind fun generator => ?_
  refine (Walks.ofExcept .load (fun _ => rfl) _).bind fun outcome => ?_
  refine Walks.bind ?_ fun _ => .pure outcome
  cases outcome with
  | loaded ledger => exact .tellOne (by decide)
  | reset reason => exact .tellOne (by decide)

theorem walks_drain : plan.Walks .discovering .discovering drain :=
  fun _ stands => ⟨.single (.drain stands), stands⟩

theorem not_isStageChange_discover (neverCookDirs : List String) (resolve? : String → Option Node)
    (loaded : List Node) (paths : List String) :
    ∀ event ∈ (Candidates.discover neverCookDirs resolve? loaded paths).events,
      ¬event.IsStageChange := by
  intro event member
  simp only [Candidates.discover, Candidates.missing, List.mem_append, List.mem_map,
    List.mem_filterMap, List.mem_singleton] at member
  rcases member with (⟨path, -, rfl⟩ | ⟨node, -, skipped⟩) | rfl
  · exact Event.not_isStageChange (by decide)
  · obtain ⟨reason, -, rfl⟩ := Option.map_eq_some_iff.1 skipped
    exact Event.not_isStageChange (by decide)
  · exact Event.not_isStageChange (by decide)

theorem walks_discover : plan.Walks .loading .discovering plan.discover := by
  refine (Walks.enter rfl).bind fun _ => ?_
  refine (Walks.ofExcept .source (fun _ => rfl) _).bind fun loaded => ?_
  refine plan.walks_drain.bind fun paths => ?_
  refine (Walks.tell (not_isStageChange_discover _ _ loaded paths)).bind fun _ => ?_
  exact (Walks.ofExcept .source (fun _ => rfl) _).bind fun levels => .pure _

theorem walks_validate (classes : List Node) (levels : List Level) :
    plan.Walks .discovering .validating (validate classes levels) := by
  refine (Walks.enter rfl).bind fun _ => ?_
  refine Walks.bind (.tell fun event member => ?_) fun _ =>
    .ofExcept .validation (fun _ => rfl) _
  obtain ⟨rename, -, rfl⟩ := List.mem_map.1 member
  exact Event.not_isStageChange (by simp [String.toList_append])

theorem walks_emitBatch (progress : Draft × Numbering) (batch : Nat × List Node) :
    plan.Walks .emitting .emitting (plan.emitBatch progress batch) := by
  refine (Walks.emit progress.2 ?_).bind fun after => ?_
  · exact plan.emitter.allows_writesAny.emitAll progress.1 batch.2
  · exact Walks.bind (.tellOne (by decide)) fun _ => .pure after

theorem walks_emit (ledger : Ledger) (classes : List Node) (levels : List Level) :
    plan.Walks .validating .emitting (plan.emit ledger classes levels) := by
  have allows := plan.emitter.allows_writesAny
  refine (Walks.enter rfl).bind fun _ => ?_
  refine (Walks.onFiles (.emission ∘ .file) (fun _ => rfl) fun generator stands =>
    .prepare stands).bind fun _ => ?_
  refine (Walks.foldlM plan.walks_emitBatch _ _).bind fun (draft, numbering) => ?_
  refine Walks.bind (.tell fun event member => ?_) fun _ => ?_
  · obtain ⟨clash, -, rfl⟩ := List.mem_map.1 member
    exact Event.not_isStageChange (by simp [String.toList_append])
  · refine (Walks.emit numbering (allows.emitLevels levels)).bind fun (count, numbering) => ?_
    exact (Walks.emit numbering (allows.emitDistances draft.distances)).bind fun _ => .pure _

theorem walks_compile : plan.Walks .emitting .compiling plan.compile := by
  refine (Walks.enter rfl).bind fun _ => ?_
  intro generator stands
  have path := Relation.ReflTransGen.single (@Step.compile plan generator stands)
  simp only [Task.bind_apply, Task.get_apply, Task.modify_apply, PassTask.tell_apply]
  cases (plan.compiler plan.settings.compiler generator.files).result with
  | error error => exact ⟨path, stands⟩
  | ok output => exact ⟨path, stands⟩

theorem walks_persist (numbering : Numbering) :
    plan.Walks .compiling .persisting (plan.persist numbering) := by
  have hashes : plan.Walks .persisting .persisting plan.hashDescriptor := by
    refine .get_bind fun generator => ?_
    refine (Walks.ofExcept (.missingDescriptor plan.settings.compiler.descriptor)
      (fun _ => rfl) _).bind fun bytes => ?_
    exact Walks.bind (.tellOne (by simp [String.toList_append])) fun _ => .pure _
  refine (Walks.enter rfl).bind fun _ => hashes.bind fun hash => ?_
  refine (Walks.ofExcept (fun findings => .persist (.corrupt plan.store.path findings))
    (fun _ => rfl) _).bind fun _ => ?_
  exact (Walks.onFiles .persist (fun _ => rfl) fun generator stands => .save stands _).bind
    fun _ => .pure _

/-- The second half of a pass walks from the discovering stage to the persisting one. -/
theorem walks_rest (ledger : Ledger) (classes : List Node) (levels : List Level)
    (answer : Emitted → UInt64 × Ledger → Report) :
    plan.Walks .discovering .persisting (do
      validate classes levels
      let emitted ← plan.emit ledger classes levels
      plan.compile
      let saved ← plan.persist emitted.numbering
      pure (answer emitted saved)) := by
  refine (plan.walks_validate classes levels).bind fun _ => ?_
  refine (plan.walks_emit ledger classes levels).bind fun emitted => ?_
  refine plan.walks_compile.bind fun _ => ?_
  exact (plan.walks_persist emitted.numbering).bind fun saved => .pure _

/-- A pass walks from the idle stage to the persisting one, or to the one that its error names. -/
theorem walks_pass (reset : Bool) : plan.Walks .idle .persisting (plan.pass reset) := by
  refine (Walks.ofExcept .settings (fun _ => rfl) _).bind fun _ => ?_
  refine (plan.walks_load reset).bind fun outcome => ?_
  exact plan.walks_discover.bind fun (discovery, levels) =>
    plan.walks_rest outcome.ledger discovery.classes levels _

end

theorem run_apply (plan : Plan) (reset : Bool) (before : Generator) :
    plan.run reset before = finish (plan.pass reset { before with stage := .idle }).1
      (plan.pass reset { before with stage := .idle }).2 := rfl

theorem fst_run (plan : Plan) (reset : Bool) (before : Generator) :
    (plan.run reset before).1 = (plan.pass reset { before with stage := .idle }).1 := by
  rw [run_apply]
  cases (plan.pass reset { before with stage := .idle }).1 <;> rfl

theorem files_run (plan : Plan) (reset : Bool) (before : Generator) :
    (plan.run reset before).2.files =
      (plan.pass reset { before with stage := .idle }).2.files := by
  rw [run_apply]
  cases (plan.pass reset { before with stage := .idle }).1 <;> rfl

theorem stage_finish (result : Except PassError Report) (last : Generator) :
    (finish result last).2.stage = if result.isOk then .done else .failed := by
  cases result <;> rfl

/-- The end of a pass is a stage that may follow the one it stands in. -/
theorem path_finish {plan : Plan} {result : Except PassError Report} {last : Generator}
    (stands : last.stage = standing .persisting result) : plan.Path last (finish result last).2 := by
  cases result with
  | ok report =>
    have allowed : last.stage.canEnter .done = true := by
      rw [stands]
      rfl
    refine (Relation.ReflTransGen.single (.enter allowed)).tail (.tell fun event member => ?_)
    rw [List.mem_singleton.1 member]
    exact Event.not_isStageChange (by decide)
  | error error =>
    have allowed : last.stage.canEnter .failed = true := by
      rw [stands]
      cases error <;> rfl
    refine (Relation.ReflTransGen.single (.enter allowed)).tail (.tell fun event member => ?_)
    rw [List.mem_singleton.1 member]
    exact Event.not_isStageChange (by decide)

/-- Whatever stage the last pass left it in, a generator that runs goes back to the idle stage and from
there walks by steps.  It stands in the persisting stage when all work is done, and in the stage of
the error when that fails; then it walks on to the end of the pass, which tells success from failure. -/
theorem walks_run (plan : Plan) (reset : Bool) (before : Generator) :
    ∃ last, plan.pass reset { before with stage := .idle } = ((plan.run reset before).1, last) ∧
      plan.Path { before with stage := .idle } last ∧
      last.stage = standing .persisting (plan.run reset before).1 ∧
      plan.Path last (plan.run reset before).2 ∧
      ((plan.run reset before).2.stage = .done ↔ (plan.run reset before).1.isOk = true) ∧
      ((plan.run reset before).2.stage = .failed ↔ (plan.run reset before).1.isOk = false) := by
  obtain ⟨path, stands⟩ := plan.walks_pass reset { before with stage := .idle } rfl
  rw [fst_run, run_apply, stage_finish]
  refine ⟨_, rfl, path, stands, path_finish stands, ?_, ?_⟩
  · split
    next ok => exact iff_of_true rfl ok
    next failed => exact iff_of_false Stage.noConfusion failed
  · split
    next ok => exact iff_of_false Stage.noConfusion (by rw [ok]; exact Bool.noConfusion)
    next failed => exact iff_of_true rfl (Bool.eq_false_of_not_eq_true failed)

end Plan

/-- The stages in which a pass only looks at files. -/
def Stage.early : List Stage := [.idle, .loading, .discovering, .validating]

theorem Stage.mem_early_of_canEnter {stage next : Stage} (allowed : stage.canEnter next = true)
    (early : next ∈ Stage.early) : stage ∈ Stage.early := by
  revert allowed early
  cases stage <;> cases next <;> decide

namespace Plan

variable {plan : Plan}

/-- A step that ends in an early stage started in one, and left all files alone. -/
theorem Step.files_eq {before after : Generator} (step : plan.Step before after)
    (early : after.stage ∈ Stage.early) :
    before.stage ∈ Stage.early ∧ after.files = before.files := by
  cases step with
  | enter allowed => exact ⟨Stage.mem_early_of_canEnter allowed early, rfl⟩
  | tell _ => exact ⟨early, rfl⟩
  | drain _ => exact ⟨early, rfl⟩
  | prepare stands | write stands _ | compile stands | save stands _ =>
    have late : before.stage ∈ Stage.early := early
    rw [stands] at late
    exact absurd late (by decide)

theorem Path.files_eq {before after : Generator} (path : plan.Path before after)
    (early : after.stage ∈ Stage.early) : after.files = before.files := by
  induction path with
  | refl => rfl
  | tail _ step ih =>
    obtain ⟨still, same⟩ := step.files_eq early
    rw [same, ih still]

/-- A ledger that must not be changed is seen before any other work is done. -/
theorem run_of_isReadOnly (reset : Bool) {before : Generator}
    (kept : plan.store.isPresent before.files = true)
    (locked : plan.store.isReadOnly before.files = true) :
    (∃ error, plan.settings.validate = .error error ∧
        (plan.run reset before).1 = .error (.settings error)) ∨
      (plan.run reset before).1 = .error (.load (.readOnly plan.store.path)) := by
  have refused : plan.readLedger reset before.files = .error (.readOnly plan.store.path) := by
    unfold readLedger LedgerStore.load
    rw [kept, locked]
    cases reset <;> rfl
  rw [fst_run]
  unfold pass
  rw [Task.bind_apply]
  cases valid : plan.settings.validate with
  | error error => exact .inl ⟨error, rfl, rfl⟩
  | ok _ =>
    obtain ⟨opened, loads, -, -⟩ := plan.load_apply reset { before with stage := .idle }
    right
    simp only [PassTask.ofExcept, Task.pure_apply]
    rw [Task.bind_apply, loads, refused]
    rfl

/-- A pass that fails before the emitting stage leaves the whole file system as it was.  Where the
ledger's file is there and must not be changed, every pass fails so, with or without a reset. -/
theorem files_eq_of_run (plan : Plan) (reset : Bool) (before : Generator) :
    (∀ error after, plan.run reset before = (.error error, after) →
      error.stage ∈ Stage.early → after.files = before.files) ∧
    (plan.store.isPresent before.files = true → plan.store.isReadOnly before.files = true →
      ∃ error after, plan.run reset before = (.error error, after) ∧
        error.stage ∈ Stage.early ∧ after.files = before.files) := by
  have unchanged (error : PassError) (after : Generator)
      (run : plan.run reset before = (.error error, after)) (early : error.stage ∈ Stage.early) :
      after.files = before.files := by
    obtain ⟨path, stands⟩ := plan.walks_pass reset { before with stage := .idle } rfl
    have same := plan.files_run reset before
    rw [run] at same
    rw [← fst_run, run] at stands
    exact same.trans (path.files_eq (stands ▸ early))
  refine ⟨unchanged, fun kept locked => ?_⟩
  obtain ⟨error, fails, early⟩ : ∃ error, (plan.run reset before).1 = .error error ∧
      error.stage ∈ Stage.early := by
    rcases run_of_isReadOnly reset kept locked with ⟨error, -, fails⟩ | fails
    · exact ⟨_, fails, by simp [Stage.early, PassError.stage]⟩
    · exact ⟨_, fails, by simp [Stage.early, PassError.stage]⟩
  have run : plan.run reset before = (.error error, (plan.run reset before).2) :=
    Prod.ext fails rfl
  exact ⟨error, _, run, early, unchanged error _ run early⟩

/-- The small project with a class that has no name. -/
def nameless : Plan :=
  { small with
    source := { small.source with classes := .ok [.rootClass "/A.Door" ""] } }

theorem files_eq_of_run_nameless_small :
    (∃ error after, nameless.run true { stage := .failed } = (.error error, after) ∧
      error.stage = .validating ∧ after.files = ∅) ∧
    let locked := (∅ : FileSystem).put ["d"] { content := .file .empty, mode := .readOnly }
    ∃ error after, small.run true { files := locked } = (.error error, after) ∧
      error.stage ∈ Stage.early ∧ after.files = locked := by
  constructor
  · have ends : standing .done (nameless.run true { stage := .failed }).1 = .validating := by
      decide +kernel
    rcases run : nameless.run true { stage := .failed } with ⟨error | report, after⟩
    · rw [run] at ends
      have stands : error.stage = .validating := ends
      have early : error.stage ∈ Stage.early := by simp [stands, Stage.early]
      exact ⟨error, after, rfl, stands, (files_eq_of_run _ _ _).1 error after run early⟩
    · rw [run] at ends
      cases ends
  · exact (files_eq_of_run small true _).2 (by decide +kernel) (by decide +kernel)

end Plan

end ComponentSchema
