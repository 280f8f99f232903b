import ComponentSchema.Proofs.Pass.Saving

/-!
A pass by its stages.  Once its classes are discovered and valid, all that a pass leads to is worked out
from the ledger it starts from, from the classes and levels, and from the files.  Before that it makes
checks and touches no file, so how a pass ends is worked out from its settings, its source and the files.
-/

namespace ComponentSchema

namespace Plan

/-- What a pass leads to once its classes are valid: its course, with the files after it. -/
def staged (plan : Plan) (outcome : LoadOutcome) (discovery : Discovery) (levels : List Level)
    (files : FileSystem) : Except PassError Course × FileSystem :=
  match plan.emitter.prepare files with
  | (.error failure, after) => (.error (.emission (.file failure)), after)
  | (.ok (), prepared) =>
    match plan.emission outcome.ledger discovery.classes levels
      ⟨.ofLedger outcome.ledger, prepared⟩ with
    | (.error error, workshop) => (.error (.emission error), workshop.files)
    | (.ok made, ⟨numbering, written⟩) =>
      let compiled := plan.compiler plan.settings.compiler written
      match compiled.result with
      | .error error => (.error (.compilation error), compiled.files)
      | .ok _ =>
        match plan.persisted numbering compiled.files with
        | (.error error, after) => (.error error, after)
        | (.ok (hash, _), after) =>
          (.ok { outcome, discovery, levels, prepared, made, numbering, written, hash }, after)

variable {plan : Plan} {reset : Bool} {queue : Option CandidateQueue} {files after : FileSystem}
  {outcome : LoadOutcome} {discovery : Discovery} {levels : List Level}

/-- Once the schema tree is complete, the stages are its compilation and what persisting makes of that. -/
theorem ReachesCompiling.staged_eq {course : Course}
    (reaches : plan.ReachesCompiling reset queue files course) :
    plan.staged course.outcome course.discovery course.levels files =
      match (plan.compilation course).result with
      | .error error => (.error (.compilation error), (plan.compilation course).files)
      | .ok _ =>
        match plan.persisted course.numbering (plan.compilation course).files with
        | (.error error, after) => (.error error, after)
        | (.ok (hash, _), after) => (.ok { course with hash }, after) := by
  unfold staged
  rw [reaches.prepares]
  dsimp only
  rw [reaches.emits]
  rfl

theorem Ends.staged_eq {result : Except PassError Report}
    (ends : plan.Ends reset queue files result after) (valid : plan.settings.validate = .ok ())
    (loaded : plan.readLedger reset files = .ok outcome)
    (discovered : plan.discovered queue = .ok (discovery, levels))
    (validated : Validation.check discovery.classes levels = .ok ()) :
    (∃ error, result = .error error ∧
      plan.staged outcome discovery levels files = (.error error, after)) ∨
    ∃ course, result = .ok (report course) ∧
      plan.staged outcome discovery levels files = (.ok course, after) ∧
      after.read plan.store.path = .ok (LedgerStore.bytesOf (sealed course)) := by
  have settled {course : Course} (reaches : plan.ReachesEmitting reset queue files course) :
      course.outcome = outcome ∧ course.discovery = discovery ∧ course.levels = levels :=
    ⟨Except.ok.inj (reaches.loaded.symm.trans loaded), reaches.discovery_levels discovered⟩
  cases ends with
  | settings invalid => cases valid.symm.trans invalid
  | load _ refused => cases loaded.symm.trans refused
  | source _ failed => cases discovered.symm.trans failed
  | validation _ found rejected =>
    have same := found.symm.trans discovered
    rw [Except.ok.injEq, Prod.mk.injEq] at same
    rw [same.1, same.2, validated] at rejected
    cases rejected
  | preparation _ failed => exact .inl ⟨_, rfl, by rw [staged, failed]⟩
  | emission reaches prepares failed =>
    obtain ⟨rfl, rfl, rfl⟩ := settled reaches
    exact .inl ⟨_, rfl, by simp only [staged, prepares, failed]⟩
  | compilation reaches failed =>
    obtain ⟨rfl, rfl, rfl⟩ := settled reaches.toReachesEmitting
    exact .inl ⟨_, rfl, by rw [reaches.staged_eq, failed]⟩
  | descriptor reaches missing =>
    obtain ⟨rfl, rfl, rfl⟩ := settled reaches.toReachesEmitting
    obtain ⟨output, compiles⟩ := reaches.compiles
    refine .inl ⟨_, rfl, ?_⟩
    rw [reaches.staged_eq, compiles]
    simp only [persisted, missing]
  | corrupt reaches described unsound =>
    obtain ⟨rfl, rfl, rfl⟩ := settled reaches.toReachesEmitting
    obtain ⟨output, compiles⟩ := reaches.compiles
    refine .inl ⟨_, rfl, ?_⟩
    rw [reaches.staged_eq, compiles]
    simp only [persisted, described, unsound]
  | save reaches failed =>
    obtain ⟨rfl, rfl, rfl⟩ := settled reaches.toReachesEmitting
    obtain ⟨output, compiles⟩ := reaches.compiles
    obtain ⟨bytes, described, hashed⟩ := reaches.described
    refine .inl ⟨_, rfl, ?_⟩
    rw [reaches.staged_eq, compiles]
    simp only [persisted, described, ← hashed, reaches.sound, failed]
  | @done course _ reaches saved =>
    obtain ⟨rfl, rfl, rfl⟩ := settled reaches.toReachesEmitting
    obtain ⟨output, compiles⟩ := reaches.compiles
    obtain ⟨bytes, described, hashed⟩ := reaches.described
    refine .inr ⟨course, rfl, ?_, LedgerStore.read_of_save saved⟩
    rw [reaches.staged_eq, compiles]
    simp only [persisted, described, ← hashed, reaches.sound, saved]

/-- Once its classes are valid, a pass succeeds if its stages do, and saves the ledger of their course. -/
theorem run_of_staged {before : Generator} {course : Course}
    (valid : plan.settings.validate = .ok ())
    (loaded : plan.readLedger reset before.files = .ok outcome)
    (discovered : plan.discovered before.queue = .ok (discovery, levels))
    (validated : Validation.check discovery.classes levels = .ok ())
    (succeeds : plan.staged outcome discovery levels before.files = (.ok course, files)) :
    ∃ after, plan.run reset before = (.ok (report course), after) ∧ after.files = files ∧
      files.read plan.store.path = .ok (LedgerStore.bytesOf (sealed course)) := by
  rcases run : plan.run reset before with ⟨result, after⟩
  have ends := ends_of_run run
  rcases ends.staged_eq valid loaded discovered validated with
    ⟨error, rfl, failed⟩ | ⟨other, rfl, ended, found⟩
  · cases failed.symm.trans succeeds
  · cases ended.symm.trans succeeds
    exact ⟨after, rfl, rfl, found⟩

/-- The ledger that the stages of a pass save, if they succeed, with the files after them. -/
def saves (plan : Plan) (outcome : LoadOutcome) (discovery : Discovery) (levels : List Level)
    (files : FileSystem) : Option Ledger × FileSystem :=
  (plan.staged outcome discovery levels files).map (fun ended => ended.toOption.map sealed) id

/-- A pass saved a ledger. -/
structure Saves (plan : Plan) (before : Generator) (outcome : LoadOutcome) (ledger : Ledger)
    (after : Generator) : Prop where
  run : ∃ report, plan.run false before = (.ok report, after)
  reaches : ∃ course, plan.ReachesSaving false before.queue before.files course ∧
    course.outcome = outcome ∧ sealed course = ledger
  found : after.files.read plan.store.path = .ok (LedgerStore.bytesOf ledger)

/-- Once its classes are valid, a pass saves what its stages save. -/
theorem exists_saves (before : Generator) {ledger : Ledger}
    (valid : plan.settings.validate = .ok ())
    (loaded : plan.readLedger false before.files = .ok outcome)
    (discovered : plan.discovered before.queue = .ok (discovery, levels))
    (validated : (Validation.check discovery.classes levels).isOk = true)
    (leads : (plan.saves outcome discovery levels before.files).1 = some ledger) :
    ∃ after, plan.Saves before outcome ledger after ∧
      after.files = (plan.saves outcome discovery levels before.files).2 := by
  unfold saves at leads ⊢
  rcases ended : plan.staged outcome discovery levels before.files with ⟨error | course, files⟩
  · rw [ended] at leads
    cases leads
  · rw [ended] at leads
    have same : sealed course = ledger := Option.some.inj leads
    obtain ⟨after, run, left, found⟩ :=
      run_of_staged valid loaded discovered (Task.eq_ok_of_isOk validated) ended
    obtain ⟨other, reaches, -, -, found'⟩ := course_of_run run
    have decoded : sealed other = sealed course := by
      rw [left, found] at found'
      exact Ledger.eq_of_bytesOf (Except.ok.inj found').symm
    have start : other.outcome = outcome := Except.ok.inj (reaches.loaded.symm.trans loaded)
    subst same
    rw [← left] at found
    exact ⟨after, ⟨⟨_, run⟩, ⟨other, reaches, start, decoded⟩, found⟩, left⟩

variable {next : Plan} {before saved : Generator} {ledger : Ledger}

/-- A ledger that would be discarded is: the next pass starts afresh. -/
theorem Saves.discards (saves : plan.Saves before outcome ledger saved)
    (same : next.store.path = plan.store.path)
    (writable : next.store.isReadOnly saved.files = false) (stale : ledger.isStale = true) :
    next.readLedger false saved.files = .ok (.reset .stale) := by
  have found := saves.found
  rw [← same] at found
  rw [readLedger, if_neg Bool.false_ne_true, LedgerStore.load_of_read found writable, if_pos stale]

/-- Otherwise the next pass starts from what was saved. -/
theorem Saves.loads (saves : plan.Saves before outcome ledger saved)
    (same : next.store.path = plan.store.path)
    (writable : next.store.isReadOnly saved.files = false) (standing : ledger.isStale = false) :
    next.readLedger false saved.files = .ok (.loaded ledger) := by
  obtain ⟨course, reaches, -, rfl⟩ := saves.reaches
  have sound : (sealed course).checkIntegrity = .ok () := reaches.sound
  have found := saves.found
  rw [← same] at found
  rw [readLedger, if_neg Bool.false_ne_true, LedgerStore.load_of_read found writable, standing,
    if_neg Bool.false_ne_true, sound]

/-- What a pass leads to, with the files after it: the checks it makes before it touches a file, and then
its stages. -/
def ending (plan : Plan) (reset : Bool) (queue : Option CandidateQueue) (files : FileSystem) :
    Except PassError Report × FileSystem :=
  match plan.settings.validate with
  | .error error => (.error (.settings error), files)
  | .ok () =>
    match plan.readLedger reset files with
    | .error error => (.error (.load error), files)
    | .ok outcome =>
      match plan.discovered queue with
      | .error error => (.error (.source error), files)
      | .ok (discovery, levels) =>
        match Validation.check discovery.classes levels with
        | .error findings => (.error (.validation findings), files)
        | .ok () => (plan.staged outcome discovery levels files).map (Except.map report) id

theorem ReachesEmitting.ending_eq {course : Course} {result : Except PassError Report}
    (reaches : plan.ReachesEmitting reset queue files course)
    (ends : plan.Ends reset queue files result after) :
    plan.ending reset queue files = (result, after) := by
  unfold ending
  rw [reaches.valid, reaches.loaded, reaches.discovered]
  simp only [reaches.validated]
  rcases ends.staged_eq reaches.valid reaches.loaded reaches.discovered reaches.validated with
    ⟨error, rfl, staged⟩ | ⟨course, rfl, staged, -⟩
  · rw [staged]
    rfl
  · rw [staged]
    rfl

theorem run_of_invalid {error : SettingsError} (invalid : plan.settings.validate = .error error)
    (before : Generator) : (plan.run reset before).1 = .error (.settings error) := by
  unfold run pass
  rw [Task.bind_apply, invalid]
  rfl

theorem run_of_refused {error : StoreError} {before : Generator}
    (valid : plan.settings.validate = .ok ())
    (refused : plan.readLedger reset before.files = .error error) :
    (plan.run reset before).1 = .error (.load error) := by
  obtain ⟨opened, loads, -⟩ := plan.load_apply reset { before with stage := .idle }
  unfold run pass
  rw [Task.bind_apply, valid]
  simp only [PassTask.ofExcept, Task.pure_apply]
  rw [Task.bind_apply, loads, refused]
  rfl

theorem ending_eq_of_run {before after : Generator} {result : Except PassError Report}
    (run : plan.run reset before = (result, after)) :
    plan.ending reset before.queue before.files = (result, after.files) := by
  have ends := ends_of_run run
  have ended := congrArg Prod.fst run
  generalize after.files = left at ends ⊢
  cases valid : plan.settings.validate with
  | error error =>
    obtain rfl : result = _ := ended.symm.trans (run_of_invalid valid before)
    cases ends
    simp only [ending, valid]
  | ok _ =>
    cases loaded : plan.readLedger reset before.files with
    | error error =>
      obtain rfl : result = _ := ended.symm.trans (run_of_refused valid loaded)
      cases ends
      simp only [ending, valid, loaded]
    | ok outcome =>
      have same {course : Course}
          (reaches : plan.ReachesEmitting reset before.queue before.files course) :=
        reaches.ending_eq ends
      cases ends with
      | settings invalid => cases valid.symm.trans invalid
      | load _ refused => cases loaded.symm.trans refused
      | source _ failed => simp only [ending, valid, loaded, failed]
      | validation _ found rejected => simp only [ending, valid, loaded, found, rejected]
      | preparation reaches _ => exact same reaches
      | emission reaches _ _ => exact same reaches
      | compilation reaches _ => exact same reaches.toReachesEmitting
      | descriptor reaches _ => exact same reaches.toReachesEmitting
      | corrupt reaches _ _ => exact same reaches.toReachesEmitting
      | save reaches _ => exact same reaches.toReachesEmitting
      | done reaches _ => exact same reaches.toReachesEmitting

end Plan

end ComponentSchema
