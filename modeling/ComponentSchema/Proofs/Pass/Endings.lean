import ComponentSchema.Proofs.Pass.Emitting

/-!
How a pass can end.  A pass walks its stages in order, and each of them either stops it with an error
of its own or hands on what the later ones work with.  All that is said of whole passes is said case
by case of their endings.
-/

namespace ComponentSchema

/-- What a pass works out on its way. -/
structure Course where
  outcome : LoadOutcome
  discovery : Discovery
  levels : List Level
  /-- The files once the schema tree is empty. -/
  prepared : FileSystem
  made : Draft × Nat × Nat
  numbering : Numbering
  /-- The files once the schema tree is complete. -/
  written : FileSystem
  hash : UInt64

/-- The course of a pass that has emitted nothing yet. -/
def Course.starting (outcome : LoadOutcome) (discovery : Discovery) (levels : List Level)
    (prepared : FileSystem) : Course where
  outcome := outcome
  discovery := discovery
  levels := levels
  prepared := prepared
  made := default
  numbering := .ofLedger outcome.ledger
  written := prepared
  hash := 0

namespace Plan

def discovered (plan : Plan) (queue : Option CandidateQueue) :
    Except SourceError (Discovery × List Level) := do
  let loaded ← plan.source.classes
  let levels ← plan.source.levels
  pure (Candidates.discover plan.settings.generator.neverCookDirs plan.source.resolve? loaded
    (queue.elim [] CandidateQueue.waiting), Candidates.levels levels)

/-- What compiling a schema tree leads to. -/
def compilation (plan : Plan) (course : Course) : Compilation :=
  plan.compiler plan.settings.compiler course.written

section

variable (plan : Plan) (reset : Bool) (queue : Option CandidateQueue) (files : FileSystem)

/-- The pass gets as far as the emitting stage. -/
structure ReachesEmitting (course : Course) : Prop where
  valid : plan.settings.validate = .ok ()
  loaded : plan.readLedger reset files = .ok course.outcome
  discovered : plan.discovered queue = .ok (course.discovery, course.levels)
  validated : Validation.check course.discovery.classes course.levels = .ok ()

/-- The pass gets as far as the compiling stage. -/
structure ReachesCompiling (course : Course) : Prop
    extends ReachesEmitting plan reset queue files course where
  prepares : plan.emitter.prepare files = (.ok (), course.prepared)
  emits : plan.emission course.outcome.ledger course.discovery.classes course.levels
    ⟨.ofLedger course.outcome.ledger, course.prepared⟩ =
      (.ok course.made, ⟨course.numbering, course.written⟩)

/-- The pass gets as far as the persisting stage. -/
structure ReachesPersisting (course : Course) : Prop
    extends ReachesCompiling plan reset queue files course where
  compiles : ∃ output, (plan.compilation course).result = .ok output

/-- The pass gets as far as a ledger to be saved. -/
structure ReachesSaving (course : Course) : Prop
    extends ReachesPersisting plan reset queue files course where
  described : ∃ bytes,
    (plan.compilation course).files.read plan.settings.compiler.descriptor = .ok bytes ∧
      course.hash = contentHash bytes
  sound : (sealLedger course.numbering course.hash).checkIntegrity = .ok ()

def report (course : Course) : Report where
  classes := course.discovery.classes.length
  skipped := course.discovery.skipped
  levelComponents := course.made.2.1
  distanceComponents := course.made.2.2
  newIds := course.numbering.supply.issued
  clashes := course.made.1.registry.clashes
  descriptorHash := course.hash
  nextId := (sealLedger course.numbering course.hash).nextId
  reset? := course.outcome.reset?

/-- How a pass ends, and with which files. -/
inductive Ends : Except PassError Report → FileSystem → Prop
  | settings {error : SettingsError} (invalid : plan.settings.validate = .error error) :
    Ends (.error (.settings error)) files
  | load {error : StoreError} (valid : plan.settings.validate = .ok ())
    (refused : plan.readLedger reset files = .error error) :
    Ends (.error (.load error)) files
  | source {error : SourceError} (valid : plan.settings.validate = .ok ())
    (failed : plan.discovered queue = .error error) :
    Ends (.error (.source error)) files
  | validation {findings : Findings GraphFault} {discovery : Discovery} {levels : List Level}
    (valid : plan.settings.validate = .ok ())
    (discovered : plan.discovered queue = .ok (discovery, levels))
    (rejected : Validation.check discovery.classes levels = .error findings) :
    Ends (.error (.validation findings)) files
  | preparation {course : Course} {failure : FileFailure} {after : FileSystem}
    (reaches : plan.ReachesEmitting reset queue files course)
    (failed : plan.emitter.prepare files = (.error failure, after)) :
    Ends (.error (.emission (.file failure))) after
  | emission {course : Course} {error : EmissionError} {workshop : Workshop}
    (reaches : plan.ReachesEmitting reset queue files course)
    (prepares : plan.emitter.prepare files = (.ok (), course.prepared))
    (failed : plan.emission course.outcome.ledger course.discovery.classes course.levels
      ⟨.ofLedger course.outcome.ledger, course.prepared⟩ = (.error error, workshop)) :
    Ends (.error (.emission error)) workshop.files
  | compilation {course : Course} {error : CompileError}
    (reaches : plan.ReachesCompiling reset queue files course)
    (failed : (plan.compilation course).result = .error error) :
    Ends (.error (.compilation error)) (plan.compilation course).files
  | descriptor {course : Course} {reason : IoError}
    (reaches : plan.ReachesPersisting reset queue files course)
    (missing : (plan.compilation course).files.read plan.settings.compiler.descriptor =
      .error reason) :
    Ends (.error (.missingDescriptor plan.settings.compiler.descriptor reason))
      (plan.compilation course).files
  | corrupt {course : Course} {findings : Findings LedgerFault} {bytes : ByteArray}
    (reaches : plan.ReachesPersisting reset queue files course)
    (described : (plan.compilation course).files.read plan.settings.compiler.descriptor =
      .ok bytes)
    (unsound : (sealLedger course.numbering (contentHash bytes)).checkIntegrity =
      .error findings) :
    Ends (.error (.persist (.corrupt plan.store.path findings))) (plan.compilation course).files
  | save {course : Course} {error : StoreError} {after : FileSystem}
    (reaches : plan.ReachesSaving reset queue files course)
    (failed : plan.store.save (sealLedger course.numbering course.hash)
      (plan.compilation course).files = (.error error, after)) :
    Ends (.error (.persist error)) after
  | done {course : Course} {after : FileSystem}
    (reaches : plan.ReachesSaving reset queue files course)
    (saved : plan.store.save (sealLedger course.numbering course.hash)
      (plan.compilation course).files = (.ok (), after)) :
    Ends (.ok (report course)) after

end

section

variable {plan : Plan} {reset : Bool} {queue : Option CandidateQueue} {files : FileSystem}
  {course other : Course}

theorem ReachesEmitting.discovery_levels {discovery : Discovery} {levels : List Level}
    (reaches : plan.ReachesEmitting reset queue files course)
    (discovered : plan.discovered queue = .ok (discovery, levels)) :
    course.discovery = discovery ∧ course.levels = levels := by
  have found := reaches.discovered.symm.trans discovered
  rwa [Except.ok.injEq, Prod.mk.injEq] at found

/-- A pass that gets as far as emitting was not stopped by what is wrong with its classes. -/
theorem ReachesEmitting.not_rejected {discovery : Discovery} {levels : List Level}
    {findings : Findings GraphFault} (reaches : plan.ReachesEmitting reset queue files course)
    (discovered : plan.discovered queue = .ok (discovery, levels)) :
    Validation.check discovery.classes levels ≠ .error findings := by
  obtain ⟨rfl, rfl⟩ := reaches.discovery_levels discovered
  rw [reaches.validated]
  exact nofun

/-- What a pass works out before it emits is settled by what it starts with. -/
theorem ReachesEmitting.unique (reaches : plan.ReachesEmitting reset queue files course)
    (again : plan.ReachesEmitting reset queue files other) :
    course.outcome = other.outcome ∧ course.discovery = other.discovery ∧
      course.levels = other.levels := by
  have loaded := reaches.loaded.symm.trans again.loaded
  exact ⟨Except.ok.inj loaded, reaches.discovery_levels again.discovered⟩

/-- So is what it emits. -/
theorem ReachesCompiling.unique (reaches : plan.ReachesCompiling reset queue files course)
    (again : plan.ReachesCompiling reset queue files other) :
    course.prepared = other.prepared ∧ course.made = other.made ∧
      course.numbering = other.numbering ∧ course.written = other.written := by
  obtain ⟨outcome, discovery, levels⟩ := reaches.toReachesEmitting.unique again.toReachesEmitting
  have prepared := congrArg Prod.snd (reaches.prepares.symm.trans again.prepares)
  have emits := again.emits
  rw [← outcome, ← discovery, ← levels, ← show _ = other.prepared from prepared,
    reaches.emits] at emits
  rw [Prod.mk.injEq, Except.ok.injEq, Workshop.mk.injEq] at emits
  exact ⟨prepared, emits⟩

theorem compilation_congr (same : course.written = other.written) :
    plan.compilation course = plan.compilation other := by
  unfold compilation
  rw [same]

end

theorem load_apply (plan : Plan) (reset : Bool) (generator : Generator) :
    ∃ after, plan.load reset generator =
        ((plan.readLedger reset generator.files).mapError .load, after) ∧
      after.files = generator.files ∧ after.queue = generator.queue := by
  unfold load
  rw [Task.bind_apply, PassTask.enter_apply]
  simp only [Task.bind_apply, Task.get_apply]
  cases plan.readLedger reset generator.files with
  | error error => exact ⟨_, rfl, rfl, rfl⟩
  | ok outcome => exact ⟨_, rfl, rfl, rfl⟩

theorem discover_apply (plan : Plan) (generator : Generator) :
    ∃ after, plan.discover generator =
        ((plan.discovered generator.queue).mapError .source, after) ∧
      after.files = generator.files ∧
      ∀ found, plan.discovered generator.queue = .ok found →
        after.queue = generator.queue.map CandidateQueue.drained := by
  unfold discover drain discovered
  rw [Task.bind_apply, PassTask.enter_apply]
  dsimp only
  rw [Task.bind_apply]
  cases plan.source.classes with
  | error error => exact ⟨_, rfl, rfl, nofun⟩
  | ok loaded =>
    cases plan.source.levels with
    | error error => exact ⟨_, rfl, rfl, nofun⟩
    | ok levels => exact ⟨_, rfl, rfl, fun _ _ => rfl⟩

theorem validate_apply (classes : List Node) (levels : List Level) (generator : Generator) :
    ∃ after, validate classes levels generator =
        ((Validation.check classes levels).mapError .validation, after) ∧
      after.files = generator.files := by
  unfold validate
  rw [Task.bind_apply, PassTask.enter_apply]
  dsimp only
  rw [Task.bind_apply, PassTask.tell_apply]
  cases Validation.check classes levels with
  | error findings => exact ⟨_, rfl, rfl⟩
  | ok _ => exact ⟨_, rfl, rfl⟩

theorem compile_apply (plan : Plan) (generator : Generator) :
    ∃ after, plan.compile generator =
        ((((plan.compiler plan.settings.compiler generator.files).result).map
          fun _ => ()).mapError .compilation, after) ∧
      after.files = (plan.compiler plan.settings.compiler generator.files).files := by
  unfold compile
  rw [Task.bind_apply, PassTask.enter_apply]
  simp only [Task.bind_apply, Task.get_apply, Task.modify_apply, PassTask.tell_apply]
  cases (plan.compiler plan.settings.compiler generator.files).result with
  | error error => exact ⟨_, rfl, rfl⟩
  | ok output => exact ⟨_, rfl, rfl⟩

def persisted (plan : Plan) (numbering : Numbering) (files : FileSystem) :
    Except PassError (UInt64 × Ledger) × FileSystem :=
  match files.read plan.settings.compiler.descriptor with
  | .error reason => (.error (.missingDescriptor plan.settings.compiler.descriptor reason), files)
  | .ok bytes =>
    let ledger := sealLedger numbering (contentHash bytes)
    match ledger.checkIntegrity with
    | .error findings => (.error (.persist (.corrupt plan.store.path findings)), files)
    | .ok () =>
      match plan.store.save ledger files with
      | (.error error, after) => (.error (.persist error), after)
      | (.ok (), after) => (.ok (contentHash bytes, ledger), after)

theorem persist_apply (plan : Plan) (numbering : Numbering) (generator : Generator) :
    ∃ after, plan.persist numbering generator =
        ((plan.persisted numbering generator.files).1, after) ∧
      after.files = (plan.persisted numbering generator.files).2 := by
  unfold persisted
  unfold persist hashDescriptor
  rw [Task.bind_apply, PassTask.enter_apply]
  simp only [Task.bind_apply, Task.get_apply]
  cases generator.files.read plan.settings.compiler.descriptor with
  | error reason => exact ⟨_, rfl, rfl⟩
  | ok bytes =>
    simp only [PassTask.ofExcept, Task.pure_apply, PassTask.tell_apply]
    cases (sealLedger numbering (contentHash bytes)).checkIntegrity with
    | error findings => exact ⟨_, rfl, rfl⟩
    | ok _ =>
      simp only [Task.pure_apply, PassTask.onFiles]
      rcases plan.store.save (sealLedger numbering (contentHash bytes)) generator.files with
        ⟨_ | _, _⟩
      · exact ⟨_, rfl, rfl⟩
      · exact ⟨_, rfl, rfl⟩

theorem batchSize_ne_zero {settings : Settings} (valid : settings.validate = .ok ()) :
    settings.generator.batchSize ≠ 0 := by
  intro zero
  simp only [Settings.validate, Settings.fault?, zero, if_true] at valid
  cases valid

/-- What a pass does once its schema tree is complete. -/
def closing (plan : Plan) (outcome : LoadOutcome) (discovery : Discovery) (emitted : Emitted) :
    PassTask Report := do
  plan.compile
  let (descriptorHash, ledger) ← plan.persist emitted.numbering
  pure {
    classes := discovery.classes.length
    skipped := discovery.skipped
    levelComponents := emitted.levelComponents
    distanceComponents := emitted.distanceComponents
    newIds := emitted.numbering.supply.issued
    clashes := emitted.clashes
    descriptorHash
    nextId := ledger.nextId
    reset? := outcome.reset? }

section

variable {plan : Plan} {reset : Bool} {queue : Option CandidateQueue} {files : FileSystem}
  {course : Course}

/-- Persisting only reads what compiling left, until there is a ledger to save. -/
theorem ends_of_persisted
    (reaches : ∀ hash, plan.ReachesPersisting reset queue files { course with hash }) :
    plan.Ends reset queue files
      ((plan.persisted course.numbering (plan.compilation course).files).1.map fun saved =>
        { report course with descriptorHash := saved.1, nextId := saved.2.nextId })
      (plan.persisted course.numbering (plan.compilation course).files).2 := by
  have persisting := reaches 0  -- no hash is known until there is a ledger, so any will do
  unfold persisted
  cases described : (plan.compilation course).files.read plan.settings.compiler.descriptor with
  | error reason =>
    have ends := Ends.descriptor persisting described
    exact ends
  | ok bytes =>
    dsimp only
    cases sound : (sealLedger course.numbering (contentHash bytes)).checkIntegrity with
    | error findings =>
      have ends := Ends.corrupt persisting described sound
      exact ends
    | ok _ =>
      have saving := ReachesSaving.mk (reaches (contentHash bytes)) ⟨bytes, described, rfl⟩ sound
      dsimp only
      rcases saved : plan.store.save (sealLedger course.numbering (contentHash bytes))
        (plan.compilation course).files with ⟨error | _, final⟩
      · exact .save saving saved
      · exact .done saving saved

/-- A complete schema tree is compiled, and what comes of it is persisted. -/
theorem ends_of_closing (course : Course)
    (reaches : ∀ hash, plan.ReachesCompiling reset queue files { course with hash })
    {generator after : Generator} {result : Except PassError Report}
    (written : generator.files = course.written)
    (passed : plan.closing course.outcome course.discovery (emittedOf course.made course.numbering)
      generator = (result, after)) :
    plan.Ends reset queue files result after.files := by
  obtain ⟨compiled, compiles, left⟩ := plan.compile_apply generator
  unfold closing at passed
  rw [written] at compiles left
  rw [Task.bind_apply, compiles] at passed
  cases ended : (plan.compiler plan.settings.compiler course.written).result with
  | error error =>
    rw [ended] at passed
    cases passed
    rw [left]
    have ends := Ends.compilation (reaches 0) ended
    exact ends
  | ok output =>
    rw [ended] at passed
    obtain ⟨kept, persists, last⟩ := plan.persist_apply course.numbering compiled
    have ends := ends_of_persisted fun hash => ReachesPersisting.mk (reaches hash) ⟨output, ended⟩
    simp only [Except.map, Except.mapError] at passed
    rw [Task.bind_apply, emittedOf, persists] at passed
    rw [left] at passed last
    rw [show plan.compiler plan.settings.compiler course.written = plan.compilation course from rfl]
      at passed last
    rw [← last] at ends
    cases saved : (plan.persisted course.numbering (plan.compilation course).files).1 with
    | error error =>
      rw [saved] at passed ends
      cases passed
      exact ends
    | ok value =>
      rw [saved] at passed ends
      cases passed
      exact ends

end

/-- The second half of a pass, from the emitting stage on. -/
theorem ends_of_emitting {plan : Plan} {reset : Bool} {before generator after : Generator}
    {outcome : LoadOutcome} {discovery : Discovery} {levels : List Level}
    {result : Except PassError Report} (valid : plan.settings.validate = .ok ())
    (loaded : plan.readLedger reset before.files = .ok outcome)
    (discovered : plan.discovered before.queue = .ok (discovery, levels))
    (validated : Validation.check discovery.classes levels = .ok ())
    (files : generator.files = before.files)
    (passed : (do
      let emitted ← plan.emit outcome.ledger discovery.classes levels
      plan.closing outcome discovery emitted) generator = (result, after)) :
    plan.Ends reset before.queue before.files result after.files := by
  obtain ⟨log, emits⟩ := plan.emit_apply (batchSize_ne_zero valid) outcome.ledger
    discovery.classes levels generator
  rw [Task.bind_apply, emits, files] at passed
  rcases prepares : plan.emitter.prepare before.files with ⟨failure | _, prepared⟩
  · rw [prepares] at passed
    cases passed
    have reaches : plan.ReachesEmitting reset before.queue before.files
        (.starting outcome discovery levels prepared) := ⟨valid, loaded, discovered, validated⟩
    exact .preparation reaches prepares
  · rw [prepares] at passed
    dsimp only at passed
    rcases emitted : plan.emission outcome.ledger discovery.classes levels
      ⟨.ofLedger outcome.ledger, prepared⟩ with ⟨error | made, workshop⟩
    · rw [emitted] at passed
      cases passed
      have reaches : plan.ReachesEmitting reset before.queue before.files
          (.starting outcome discovery levels prepared) := ⟨valid, loaded, discovered, validated⟩
      exact .emission reaches prepares emitted
    · rw [emitted] at passed
      have reaches (hash : UInt64) : plan.ReachesCompiling reset before.queue before.files
          { outcome, discovery, levels, prepared, made, numbering := workshop.numbering,
            written := workshop.files, hash } :=
        ⟨⟨valid, loaded, discovered, validated⟩, prepares, emitted⟩
      exact ends_of_closing
        { outcome, discovery, levels, prepared, made, numbering := workshop.numbering,
          written := workshop.files, hash := 0 } reaches rfl passed

/-- Every pass ends in one of the ways there are. -/
theorem ends_of_pass {plan : Plan} {reset : Bool} {before after : Generator}
    {result : Except PassError Report} (passed : plan.pass reset before = (result, after)) :
    plan.Ends reset before.queue before.files result after.files := by
  unfold pass at passed
  rw [Task.bind_apply] at passed
  cases valid : plan.settings.validate with
  | error error =>
    rw [valid] at passed
    cases passed
    exact .settings valid
  | ok _ =>
    rw [valid] at passed
    obtain ⟨opened, loads, sameFiles, sameQueue⟩ := plan.load_apply reset before
    simp only [PassTask.ofExcept, Task.pure_apply] at passed
    rw [Task.bind_apply, loads] at passed
    cases loaded : plan.readLedger reset before.files with
    | error error =>
      rw [loaded] at passed
      cases passed
      rw [sameFiles]
      exact .load valid loaded
    | ok outcome =>
      rw [loaded] at passed
      simp only [Except.mapError] at passed
      obtain ⟨told, discovers, files, -⟩ := plan.discover_apply opened
      rw [Task.bind_apply, discovers, sameQueue] at passed
      cases discovered : plan.discovered before.queue with
      | error error =>
        rw [discovered] at passed
        cases passed
        rw [files, sameFiles]
        exact .source valid discovered
      | ok found =>
        obtain ⟨discovery, levels⟩ := found
        rw [discovered] at passed
        simp only [Except.mapError] at passed
        obtain ⟨checked, validates, unchanged⟩ := validate_apply discovery.classes levels told
        rw [Task.bind_apply, validates] at passed
        cases validated : Validation.check discovery.classes levels with
        | error findings =>
          rw [validated] at passed
          cases passed
          rw [unchanged, files, sameFiles]
          exact .validation valid discovered validated
        | ok _ =>
          rw [validated] at passed
          exact ends_of_emitting valid loaded discovered validated
            (unchanged.trans (files.trans sameFiles)) passed

/-- The last step of a pass changes no files. -/
theorem ends_of_run {plan : Plan} {reset : Bool} {before after : Generator}
    {result : Except PassError Report} (run : plan.run reset before = (result, after)) :
    plan.Ends reset before.queue before.files result after.files := by
  unfold Plan.run at run
  rcases passed : plan.pass reset { before with stage := .idle } with ⟨ended, last⟩
  have ends := ends_of_pass passed
  rw [passed] at run
  cases ended with
  | error error =>
    cases run
    exact ends
  | ok report =>
    cases run
    exact ends

end Plan

end ComponentSchema
