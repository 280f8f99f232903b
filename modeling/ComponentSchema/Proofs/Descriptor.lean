import ComponentSchema.Proofs.Loss
import ComponentSchema.Proofs.Pass.Staging
import ComponentSchema.Proofs.Repetition

/-!
Which descriptor a pass takes the hash of.  The output directory is emptied before the program is started,
so a descriptor that is there afterwards is the program's own.  There is one way around that: an output
directory with a path through a directory that is missing is not found, and what is in it stays.
-/

namespace ComponentSchema

namespace CompilerSettings

variable {settings : CompilerSettings} {files ready : FileSystem}

theorem location_descriptor (settings : CompilerSettings) :
    Path.location settings.descriptor = Path.location settings.outputDir ++ ["schema.descriptor"] :=
  Path.location_join_name settings.outputDir (by decide) (by decide)

theorem isAbove_descriptor (settings : CompilerSettings) :
    (Path.location settings.outputDir).IsAbove (Path.location settings.descriptor) := by
  rw [location_descriptor]
  exact Location.isAbove_append _ (List.cons_ne_nil _ _)

/-- A program is started without an old descriptor, unless the output directory was not found. -/
theorem fileAt?_prepareOutput (prepares : settings.prepareOutput files = (.ok (), ready)) :
    ready.fileAt? (Path.location settings.descriptor) =
      if files.pathExists settings.outputDir then none
      else files.fileAt? (Path.location settings.descriptor) := by
  obtain ⟨_, cleared, made, -⟩ := Task.bind_eq_ok.1 prepares
  have same : cleared.KeepsFile (Path.location settings.descriptor) ready := by
    have kept := settings.keeps_prepareOutput
      (@FileAction.keepsFile_createDirectories (Path.location settings.descriptor)) files
    rwa [prepares, made] at kept
  rw [← FileTask.fileAt?_freshDirectory_eq_ok settings.isAbove_descriptor made]
  exact same

end CompilerSettings

namespace Compiler

variable {launcher : Launcher} {settings : CompilerSettings} {files ready left : FileSystem}
  {ended : ProgramEnd}

/-- A compilation is what becomes of the program that it starts on files that are ready. -/
theorem process_eq (prepares : settings.prepareOutput files = (.ok (), ready))
    (launched : launcher settings.exe settings.args ready = .ok (ended, left)) :
    (process launcher settings files).result = (ofEnd ended left).result ∧
      (process launcher settings files).files = left := by
  unfold process
  simp only [prepares, launch, launched]
  exact ⟨trivial, files_ofEnd ended left⟩

theorem ofEnd_eq_ok {output : CompileOutput} (accepted : (ofEnd ended left).result = .ok output) :
    ended.code = some 0 := by
  by_contra failed
  unfold ofEnd at accepted
  rw [if_neg failed] at accepted
  cases accepted

theorem ofEnd_of_code (zero : ended.code = some 0) (left : FileSystem) :
    ∃ output, (ofEnd ended left).result = .ok output := by
  unfold ofEnd
  rw [if_pos zero]
  exact ⟨_, rfl⟩

/-- A compilation that succeeds has run its program to a good end. -/
theorem process_eq_ok {output : CompileOutput}
    (compiles : (process launcher settings files).result = .ok output) :
    ∃ ready ended left, settings.prepareOutput files = (.ok (), ready) ∧
      launcher settings.exe settings.args ready = .ok (ended, left) ∧ ended.code = some 0 ∧
        (process launcher settings files).files = left := by
  rcases prepares : settings.prepareOutput files with ⟨failure | _, ready⟩
  · simp only [process, prepares] at compiles
    cases compiles
  · rcases launched : launcher settings.exe settings.args ready with reason | ⟨ended, left⟩
    · simp only [process, prepares, launch, launched] at compiles
      cases compiles
    · obtain ⟨same, files⟩ := process_eq prepares launched
      rw [same] at compiles
      exact ⟨ready, ended, left, rfl, launched, ofEnd_eq_ok compiles, files⟩

end Compiler

namespace Plan

def descriptorPlace (plan : Plan) : Location := Path.location plan.settings.compiler.descriptor

/-- An old descriptor is overlooked: it stands at the place of the new one, in an output directory that is
not found. -/
def OverlooksDescriptor (plan : Plan) (files : FileSystem) : Prop :=
  files.pathExists plan.settings.compiler.outputDir = false ∧
    files.fileAt? plan.descriptorPlace ≠ none

/-- A pass runs a program to a good end: on files that are ready for it, and with files that it leaves. -/
structure Compiles (plan : Plan) (launcher : Launcher) (course : Course) (ready left : FileSystem) :
    Prop where
  prepares : plan.settings.compiler.prepareOutput course.written = (.ok (), ready)
  launches : ∃ ended, ended.code = some 0 ∧
    launcher plan.settings.compiler.exe plan.settings.compiler.args ready = .ok (ended, left)

/-- A pass saves the hash of the descriptor in the files that its program left.  What the program found at
that place is an old descriptor that was overlooked, and otherwise nothing. -/
structure HashesOutput (plan : Plan) (launcher : Launcher) (course : Course)
    (files ready left after : FileSystem) (hash : UInt64) : Prop where
  compiles : plan.Compiles launcher course ready left
  begins : ready.fileAt? plan.descriptorPlace = none ↔ ¬plan.OverlooksDescriptor course.written
  old : files.KeepsOrLoses plan.descriptorPlace ready
  hashed : ∃ bytes, left.read plan.settings.compiler.descriptor = .ok bytes ∧ hash = contentHash bytes
  stored : ∃ ledger, (plan.kept after).bind Ledger.ofBytes? = some ledger ∧
    ledger.descriptorHash = some hash

variable {plan : Plan} {reset : Bool} {queue : Option CandidateQueue} {files ready left : FileSystem}
  {course : Course} {launcher : Launcher}

theorem getLast?_descriptorPlace (plan : Plan) (name : String) :
    plan.descriptorPlace.getLast? ≠ some (name ++ SchemaFile.ending) := by
  intro named
  unfold descriptorPlace at named
  rw [CompilerSettings.location_descriptor, List.getLast?_concat, Option.some.injEq] at named
  have ends := congrArg (fun text => text.toList.reverse.take 7) named
  simp [SchemaFile.ending] at ends

/-- No stage before compiling puts a file at the place of the descriptor. -/
theorem ReachesCompiling.keepsOrLoses_descriptor
    (reaches : plan.ReachesCompiling reset queue files course) :
    files.KeepsOrLoses plan.descriptorPlace course.written := by
  have prepared : files.KeepsOrLoses plan.descriptorPlace course.prepared :=
    (FileTask.keepsOrLoses_freshDirectory _ _ _).of_eq reaches.prepares
  have emitted := keepsFile_emission plan.getLast?_descriptorPlace plan course.outcome.ledger
    course.discovery.classes course.levels ⟨.ofLedger course.outcome.ledger, course.prepared⟩
  rw [reaches.emits] at emitted
  exact trans_of (FileSystem.KeepsOrLoses plan.descriptorPlace) prepared (.inr emitted)

theorem Compiles.fileAt?_ready (compiles : plan.Compiles launcher course ready left) :
    ready.fileAt? plan.descriptorPlace =
      if course.written.pathExists plan.settings.compiler.outputDir then none
      else course.written.fileAt? plan.descriptorPlace :=
  CompilerSettings.fileAt?_prepareOutput compiles.prepares

/-- The program starts without a descriptor, unless an old one was overlooked. -/
theorem Compiles.free_iff (compiles : plan.Compiles launcher course ready left) :
    ready.fileAt? plan.descriptorPlace = none ↔ ¬plan.OverlooksDescriptor course.written := by
  rw [compiles.fileAt?_ready, OverlooksDescriptor]
  cases course.written.pathExists plan.settings.compiler.outputDir with
  | true => simp
  | false => simp

theorem ReachesPersisting.compiles_process (process : plan.compiler = .process launcher)
    (reaches : plan.ReachesPersisting reset queue files course) :
    ∃ ready, plan.Compiles launcher course ready (plan.compilation course).files := by
  obtain ⟨output, compiled⟩ := reaches.compiles
  unfold compilation at compiled ⊢
  rw [process] at compiled ⊢
  obtain ⟨ready, ended, left, prepares, launched, zero, same⟩ := Compiler.process_eq_ok compiled
  exact ⟨ready, prepares, ended, zero, same ▸ launched⟩

/-- A pass whose program leaves no descriptor where there was none stops there. -/
theorem ReachesCompiling.staged_of_missing (process : plan.compiler = .process launcher)
    (reaches : plan.ReachesCompiling reset queue files course)
    (compiles : plan.Compiles launcher course ready left)
    (missing : left.fileAt? plan.descriptorPlace = none) :
    ∃ reason, plan.staged course.outcome course.discovery course.levels files =
      (.error (.missingDescriptor plan.settings.compiler.descriptor reason), left) := by
  obtain ⟨prepares, ended, zero, launched⟩ := compiles
  obtain ⟨result, same⟩ := Compiler.process_eq prepares launched
  obtain ⟨output, accepted⟩ := Compiler.ofEnd_of_code zero left
  cases described : left.read plan.settings.compiler.descriptor with
  | ok bytes =>
    have stored := (FileSystem.read_eq_ok_iff.1 described).2
    rw [← descriptorPlace, missing] at stored
    cases stored
  | error reason =>
    refine ⟨reason, ?_⟩
    unfold staged
    simp only [reaches.prepares, reaches.emits, process, result, accepted, same, persisted, described]

/-- The hash that a pass saves is that of the descriptor that its program left, and where no old one was
overlooked the program put it there.  If the program ends well and puts none there, the pass fails with the
files as the program left them. -/
theorem descriptorHash_of_run (process : plan.compiler = .process launcher) (reset : Bool)
    (before : Generator) :
    (∀ report after, plan.run reset before = (.ok report, after) →
      ∃ course ready left, plan.ReachesSaving reset before.queue before.files course ∧
        plan.HashesOutput launcher course before.files ready left after.files report.descriptorHash) ∧
    ∀ course ready left, plan.ReachesCompiling reset before.queue before.files course →
      plan.Compiles launcher course ready left →
      left.fileAt? plan.descriptorPlace = ready.fileAt? plan.descriptorPlace →
      ¬plan.OverlooksDescriptor course.written →
        ∃ reason after, plan.run reset before =
            (.error (.missingDescriptor plan.settings.compiler.descriptor reason), after) ∧
          after.files = left := by
  refine ⟨fun report after run => ?_, fun course ready left reaches compiles untouched noticed => ?_⟩
  · obtain ⟨course, reaches, -, rfl, found⟩ := course_of_run run
    obtain ⟨ready, compiles⟩ := reaches.toReachesPersisting.compiles_process process
    refine ⟨course, ready, _, reaches, compiles, compiles.free_iff, ?_, reaches.described,
      sealed course, ?_, rfl⟩
    · have written := reaches.keepsOrLoses_descriptor
      unfold FileSystem.KeepsOrLoses at written ⊢
      rw [compiles.fileAt?_ready]
      split
      · exact .inl rfl
      · exact written
    · rw [kept_eq_some_iff.2 found, Option.bind_some, Ledger.ofBytes?_bytesOf]
  · have missing := untouched.trans (compiles.free_iff.2 noticed)
    obtain ⟨reason, staged⟩ := reaches.staged_of_missing process compiles missing
    rcases run : plan.run reset before with ⟨result, after⟩
    -- a pass that comes as far as this ends as its stages do, and they stop at the missing file
    rcases (ends_of_run run).staged_eq reaches.valid reaches.loaded reaches.discovered
      reaches.validated with ⟨error, rfl, same⟩ | ⟨_, rfl, same, -⟩
    · cases same.symm.trans staged
      exact ⟨reason, after, rfl, rfl⟩
    · cases same.symm.trans staged

/-- A program that ends well and does nothing. -/
def idling : Launcher := fun _ _ files => .ok (⟨some 0, .empty, .empty⟩, files)

theorem ReachesSaving.written_furnishing {course : Course}
    (reaches : furnishing.ReachesSaving false none outdated course) :
    course.written = (furnishing.emission .fresh [.gate, .tool] [.front]
      ⟨.ofLedger .fresh, (furnishing.emitter.prepare outdated).2⟩).2.files := by
  have start : furnishing.readLedger false outdated = .ok (.reset .missing) :=
    readLedger_of_absent finds_outdated
  have outcome := Except.ok.inj (reaches.loaded.symm.trans start)
  obtain ⟨discovery, levels⟩ := reaches.discovery_levels discovered_furnishing
  have emits := reaches.emits
  rw [outcome, discovery, levels] at emits
  rw [reaches.prepares]
  exact (congrArg (fun ended => ended.2.files) emits).symm

/-- The same project, compiled by that program. -/
def neglected : Plan := { furnishing with compiler := .process idling }

/-- The old descriptor is gone when the program starts, and a program that makes none is found out. -/
theorem descriptorHash_of_run_furnishing :
    ∃ report after course ready left,
      furnishing.run false { files := outdated } = (.ok report, after) ∧
      furnishing.ReachesSaving false none outdated course ∧
      furnishing.HashesOutput describing course outdated ready left after.files
        report.descriptorHash ∧
      outdated.fileAt? furnishing.descriptorPlace = some "old".toUTF8 ∧
      ready.fileAt? furnishing.descriptorPlace = none ∧
      ∃ reason after, neglected.run false { files := outdated } =
          (.error (.missingDescriptor neglected.settings.compiler.descriptor reason), after) ∧
        after.files = ready := by
  obtain ⟨after, -, saved, -⟩ := exists_saves_furnishing
  obtain ⟨report, run⟩ := saved.run
  obtain ⟨course, ready, left, reaches, hashes⟩ :=
    (descriptorHash_of_run (rfl : furnishing.compiler = .process describing) false
      { files := outdated }).1 report after run
  have found : course.written.pathExists furnishing.settings.compiler.outputDir = true := by
    rw [reaches.written_furnishing]
    decide +kernel
  have free : ready.fileAt? furnishing.descriptorPlace = none := by
    rw [hashes.compiles.fileAt?_ready, if_pos found]
  have again : neglected.ReachesCompiling false none outdated course :=
    ⟨⟨reaches.valid, reaches.loaded, reaches.discovered, reaches.validated⟩, reaches.prepares,
      reaches.emits⟩
  refine ⟨report, after, course, ready, left, run, reaches, hashes, by decide +kernel, free, ?_⟩
  exact (descriptorHash_of_run (rfl : neglected.compiler = .process idling) false
    { files := outdated }).2 course ready ready again ⟨hashes.compiles.prepares, _, rfl, rfl⟩ rfl
      (hashes.begins.1 free)

/-- An old descriptor is hashed where the path of the output directory leads through a directory that is
missing. -/
example :
    let output : CompilerSettings := { small.settings.compiler with outputDir := "t/../o" }
    let plan : Plan := { small with
      settings := { small.settings with compiler := output }, compiler := .process idling }
    (plan.run false { files := outdated }).1.isOk = true := by
  decide +kernel

end Plan

end ComponentSchema
