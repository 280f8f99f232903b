import ComponentSchema.Proofs.Pass.Tree

/-!
Passes that are run again.  A pass that succeeded and is run again on what it left issues no id and
saves the same ledger, and it changes no schema file unless there were some it had not found before.
-/

namespace ComponentSchema

/-- Compilations that ended because of files, or because nothing could be started. -/
def CompileError.IsFileWork : CompileError → Prop
  | .file _ | .notStarted _ _ => True
  | .failed _ _ => False

/-- Passes that ended because of files. -/
def PassError.IsFileWork : PassError → Prop
  | .load (.readOnly _) | .load (.file _) | .emission (.file _) | .missingDescriptor _ _ => True
  | .persist (.readOnly _) | .persist (.file _) => True
  | .compilation error => error.IsFileWork
  | _ => False

namespace Plan

/-- The compiler makes the same descriptor of the same schema tree, and does not reject a tree that it
accepted. -/
def IsRepeatable (plan : Plan) : Prop :=
  ∀ files other output bytes,
    (∀ place, plan.tree.IsAbove place → other.fileAt? place = files.fileAt? place) →
    (plan.compiler plan.settings.compiler files).result = .ok output →
    (plan.compiler plan.settings.compiler files).files.read plan.settings.compiler.descriptor =
      .ok bytes →
    (∀ error, (plan.compiler plan.settings.compiler other).result = .error error →
        error.IsFileWork) ∧
      ∀ output' bytes', (plan.compiler plan.settings.compiler other).result = .ok output' →
        (plan.compiler plan.settings.compiler other).files.read plan.settings.compiler.descriptor =
          .ok bytes' → bytes' = bytes

variable {plan : Plan} {reset resets : Bool} {queue : Option CandidateQueue} {files after final : FileSystem}
  {course other : Course} {result : Except PassError Report}

/-- How a second pass ends if files do not stop it: it emits as before, and its compilation fails, or
it comes to a ledger, which is inconsistent or is saved. -/
inductive EndsAgain (plan : Plan) (reset : Bool) (queue : Option CandidateQueue)
    (files : FileSystem) (course : Course) : Except PassError Report → FileSystem → Prop
  | rejected {error : CompileError} (failed : (plan.compilation course).result = .error error) :
    EndsAgain plan reset queue files course (.error (.compilation error)) (plan.compilation course).files
  | corrupt {findings : Findings LedgerFault} {output : CompileOutput} {bytes : ByteArray}
    (compiled : (plan.compilation course).result = .ok output)
    (described : (plan.compilation course).files.read plan.settings.compiler.descriptor =
      .ok bytes)
    (unsound : (sealLedger course.numbering (contentHash bytes)).checkIntegrity =
      .error findings) :
    EndsAgain plan reset queue files course (.error (.persist (.corrupt plan.store.path findings)))
      (plan.compilation course).files
  | done {final : FileSystem} (reaches : plan.ReachesSaving reset queue files course)
    (saved : plan.store.save (sealed course) (plan.compilation course).files = (.ok (), final)) :
    EndsAgain plan reset queue files course (.ok (report course)) final

/-- A pass on what a pass left gets as far as compiling, unless files stop it. -/
theorem Ends.again (reaches : plan.ReachesSaving reset queue files course)
    (found : after.read plan.store.path = .ok (LedgerStore.bytesOf (sealed course)))
    (emits : ∀ outcome, plan.readLedger false after = .ok outcome → plan.EmitsAgain course outcome)
    (ends : plan.Ends false queue after result final)
    (works : ∀ error, result = .error error → ¬error.IsFileWork) :
    ∃ other, plan.ReachesCompiling false queue after other ∧
      other.discovery = course.discovery ∧ other.levels = course.levels ∧
        EndsAgain plan false queue after other result final := by
  have same {other : Course} (again : plan.ReachesEmitting false queue after other) :
      other.discovery = course.discovery ∧ other.levels = course.levels :=
    again.discovery_levels reaches.discovered
  cases ends with
  | settings invalid => cases reaches.valid.symm.trans invalid
  | @load error _ refused =>
    exfalso
    cases readOnly : plan.store.isReadOnly after with
    | true =>
      have load : plan.store.load after = .error error := refused
      simp only [LedgerStore.load, LedgerStore.isPresent_of_read found, readOnly] at load
      cases load
      exact works _ rfl trivial
    | false =>
      have loaded := reaches.load found readOnly
      rw [show plan.store.load after = .error error from refused] at loaded
      cases loaded
  | source _ failed => cases reaches.discovered.symm.trans failed
  | validation _ discovered rejected =>
    exact absurd rejected (reaches.not_rejected discovered)
  | preparation _ _ => exact absurd trivial (works _ rfl)
  | @emission other error workshop again prepares failed =>
    obtain ⟨discovery, levels⟩ := same again
    obtain ⟨writes, made, numbering, -, performs, -⟩ := emits other.outcome again.loaded
    rw [discovery, levels] at failed
    obtain ⟨failure, rfl⟩ := performs.of_eq_error failed
    exact absurd trivial (works _ rfl)
  | compilation again failed =>
    exact ⟨_, again, (same again.toReachesEmitting).1, (same again.toReachesEmitting).2,
      .rejected failed⟩
  | descriptor _ _ => exact absurd trivial (works _ rfl)
  | corrupt again described unsound =>
    obtain ⟨output, compiled⟩ := again.compiles
    exact ⟨_, again.toReachesCompiling, (same again.toReachesEmitting).1,
      (same again.toReachesEmitting).2, .corrupt compiled described unsound⟩
  | save _ failed =>
    rcases LedgerStore.error_of_save failed with rfl | ⟨failure, rfl⟩
    · exact absurd trivial (works _ rfl)
    · exact absurd trivial (works _ rfl)
  | done again saved =>
    exact ⟨_, again.toReachesCompiling, (same again.toReachesEmitting).1,
      (same again.toReachesEmitting).2, .done again saved⟩

/-- What the second pass emits is what the first one did. -/
theorem ReachesCompiling.performs_again (again : plan.ReachesCompiling false queue after other)
    (discovery : other.discovery = course.discovery) (levels : other.levels = course.levels)
    (emits : plan.EmitsAgain course other.outcome) :
    ∃ writes,
      Emission.Performs (plan.emission course.outcome.ledger course.discovery.classes course.levels)
          (.ofLedger course.outcome.ledger) course.made course.numbering writes ∧
        Emission.Performs (plan.emission other.outcome.ledger other.discovery.classes other.levels)
          (.ofLedger other.outcome.ledger) other.made other.numbering writes ∧
        other.numbering.supply.issued = 0 ∧
        ∀ hash, sealLedger other.numbering hash = sealLedger course.numbering hash := by
  obtain ⟨writes, made, numbering, performs, performs', issued, seals⟩ := emits
  have run := again.emits
  rw [← discovery, ← levels] at performs'
  obtain ⟨rfl, rfl, -⟩ := performs'.of_eq_ok run
  exact ⟨writes, performs, performs', issued, seals⟩

/-- What is done after emission spares the schema tree. -/
theorem EndsAgain.spares (ends : EndsAgain plan reset queue files course result final)
    (ledger : plan.tree.AreApart plan.place)
    (spares : ∀ place, plan.tree.IsAbove place → ∀ files : FileSystem,
      files.Spares place (plan.compiler plan.settings.compiler files).files)
    {place : Location} (above : plan.tree.IsAbove place) : course.written.Spares place final := by
  cases ends with
  | rejected failed => exact spares place above course.written
  | corrupt compiled described unsound => exact spares place above course.written
  | done reaches saved =>
    exact trans_of (FileSystem.Spares place) (spares place above course.written)
      (spares_save_of_apart ledger above saved)

/-- A second pass that finds the tree as the first one left it compiles it to the same descriptor and
saves the same ledger. -/
theorem EndsAgain.fixed (ends : EndsAgain plan false queue after other result final)
    (reaches : plan.ReachesSaving reset queue files course) (repeatable : plan.IsRepeatable)
    (same : ∀ place, plan.tree.IsAbove place →
      other.written.fileAt? place = course.written.fileAt? place)
    (issued : other.numbering.supply.issued = 0)
    (seals : ∀ hash, sealLedger other.numbering hash = sealLedger course.numbering hash)
    (works : ∀ error, result = .error error → ¬error.IsFileWork) :
    ∃ report, result = .ok report ∧ report.newIds = 0 ∧
      plan.kept final = some (LedgerStore.bytesOf (sealed course)) := by
  obtain ⟨output, compiled⟩ := reaches.compiles
  obtain ⟨bytes, described, hashed⟩ := reaches.described
  obtain ⟨accepts, describes⟩ :=
    repeatable course.written other.written output bytes same compiled described
  cases ends with
  | rejected failed => exact absurd (accepts _ failed) (works _ rfl)
  | corrupt compiled described unsound =>
    rw [describes _ _ compiled described, ← hashed, seals, reaches.sound] at unsound
    cases unsound
  | done again saved =>
    obtain ⟨output', compiled'⟩ := again.compiles
    obtain ⟨bytes', described', hashed'⟩ := again.described
    have equal : sealed other = sealed course := by
      unfold sealed
      rw [hashed', describes _ _ compiled' described', ← hashed, seals]
    refine ⟨report other, rfl, issued, kept_eq_some_iff.2 ?_⟩
    rw [← equal]
    exact LedgerStore.read_of_save saved

/-- A pass that succeeds and is run again on what it left succeeds again, if no file work fails.  It
issues no id and leaves the file of the ledger as it is, and so it leaves every schema file, exactly if
the first pass had found all that was left over in the schema tree. -/
theorem run_again {launcher : Launcher} {saved : List (Option ByteArray)}
    {before after final : Generator} {report : Report} (process : plan.compiler = .process launcher)
    (output : plan.tree.AreApart plan.settings.compiler.outputDir.location)
    (ledger : plan.tree.AreApart plan.place)
    (careful : ∀ place, plan.tree.IsAbove place → ∀ exe args files ended after,
      launcher exe args files = .ok (ended, after) → files.Spares place after)
    (repeatable : plan.IsRepeatable) (history : History resets HasNone saved)
    (finds : plan.Finds before.files HasNone saved) (tree : before.files.IsTree)
    (run : plan.run reset before = (.ok report, after))
    (again : plan.run false { after with queue := before.queue } = (result, final))
    (works : ∀ error, result = .error error → ¬error.IsFileWork) :
    ((∀ place, plan.tree.IsAbove place →
        final.files.fileAt? place = after.files.fileAt? place) ↔
      ¬plan.Lingers before.files final.files) ∧
    (¬plan.Lingers before.files final.files →
      ∃ report, result = .ok report ∧ report.newIds = 0 ∧
        plan.kept final.files = plan.kept after.files) := by
  have spares (place : Location) (above : plan.tree.IsAbove place) (files : FileSystem) :=
    spares_compilation_of_apart process output (careful place above) above files
  obtain ⟨course, reaches, stored, -, found⟩ := course_of_run run
  obtain ⟨ledgers, rfl, each, -⟩ := history.issued
  have issued := isIssued_of_finds each finds reaches.loaded
  have emits (outcome : LoadOutcome) (loaded : plan.readLedger false after.files = .ok outcome) :
      plan.EmitsAgain course outcome := by
    rcases outcome_of_read found loaded with ⟨stale, rfl⟩ | ⟨-, -, rfl⟩
    · exact reaches.emitsAgain_stale issued stale
    · exact reaches.emitsAgain_loaded
  obtain ⟨other, second, discovery, levels, ends⟩ := (ends_of_run again).again reaches found emits works
  obtain ⟨writes, performs, performs', issued, seals⟩ :=
    second.performs_again discovery levels (emits _ second.loaded)
  -- what each of the passes left, when it had emitted and in the end
  have first : EndsAgain plan reset before.queue before.files course _ after.files := .done reaches stored
  have written := reaches.leaves performs fun place _ => Std.Refl.refl course.written
  have left := reaches.leaves performs fun place => first.spares ledger spares
  have written' := second.leaves performs' fun place _ => Std.Refl.refl other.written
  have left' := second.leaves performs' fun place => ends.spares ledger spares
  refine ⟨⟨left.not_lingers tree left', fun kept place => left.same tree left left' kept⟩, ?_⟩
  intro kept
  rw [kept_eq_some_iff.2 found]
  refine ends.fixed reaches repeatable (fun place above => ?_) issued seals works
  refine written.same tree left written' (fun lingers => kept ?_) above
  obtain ⟨absent, place, above, standing, lost⟩ := lingers
  exact ⟨absent, place, above, standing, (ends.spares ledger spares above).absent lost⟩

/-- A program that makes an empty descriptor of every schema tree. -/
def describing : Launcher := fun _ _ files =>
  .ok (⟨some 0, .empty, .empty⟩, files.put ["o", "schema.descriptor"] { content := .file .empty })

/-- A project of classes and levels that is compiled by that program. -/
def described (classes : List Node) (levels : List Level) : Plan :=
  { site classes levels with compiler := .process describing }

theorem process_describing (files : FileSystem) :
    (∃ failure, (Compiler.process describing small.settings.compiler files).result =
        .error (.file failure)) ∨
      ∃ output ready, (Compiler.process describing small.settings.compiler files).result =
          .ok output ∧
        (Compiler.process describing small.settings.compiler files).files =
          FileSystem.put ready ["o", "schema.descriptor"] { content := .file .empty } := by
  unfold Compiler.process
  rcases CompilerSettings.prepareOutput small.settings.compiler files with ⟨failure | _, ready⟩
  · exact .inl ⟨failure, rfl⟩
  · exact .inr ⟨_, ready, rfl, rfl⟩

theorem eq_empty_of_describing {files : FileSystem} {output : CompileOutput} {bytes : ByteArray}
    (succeeded : (Compiler.process describing small.settings.compiler files).result = .ok output)
    (read : (Compiler.process describing small.settings.compiler files).files.read
      small.settings.compiler.descriptor = .ok bytes) : bytes = .empty := by
  rcases process_describing files with ⟨failure, failed⟩ | ⟨_, ready, -, same⟩
  · cases failed.symm.trans succeeded
  · have stored := (FileSystem.read_eq_ok_iff.1 read).2
    have location : Path.location small.settings.compiler.descriptor =
        ["o", "schema.descriptor"] := by with_unfolding_all rfl
    rw [same, location, FileSystem.fileAt?_put_file _ (by decide), if_pos rfl] at stored
    exact (Option.some.inj stored).symm

theorem isRepeatable_described (classes : List Node) (levels : List Level) :
    (described classes levels).IsRepeatable := by
  intro files other output bytes _ succeeded read
  constructor
  · intro error failed
    rcases process_describing other with ⟨failure, same⟩ | ⟨_, _, same, -⟩
    · cases same.symm.trans failed
      trivial
    · cases same.symm.trans failed
  · intro output' bytes' succeeded' read'
    rw [eq_empty_of_describing succeeded read, eq_empty_of_describing succeeded' read']

/-- A program that describes a schema tree leaves its files alone. -/
theorem spares_describing {plan : Plan} (schema : plan.tree = ["g"]) {place : Location}
    (above : plan.tree.IsAbove place) {exe : Path} {args : List String} {files : FileSystem}
    {ended : ProgramEnd} {after : FileSystem}
    (launched : describing exe args files = .ok (ended, after)) : files.Spares place after := by
  cases launched
  rw [schema] at above
  have descriptor : Location.AreApart ["g"] ["o", "schema.descriptor"] := ⟨by decide, by decide⟩
  exact FileSystem.spares_put_of_not_above (by decide) (descriptor.of_isAbove above) _

/-- The files of an older state of a project: the file of a class that vanished, and a descriptor. -/
def outdated : FileSystem :=
  ((((∅ : FileSystem).put ["g"] { content := .directory }).put ["g", "Old.schema"]
    { content := .file "old".toUTF8 }).put ["o"] { content := .directory }).put
      ["o", "schema.descriptor"] { content := .file "old".toUTF8 }

theorem isTree_outdated : outdated.IsTree := by
  have top (files : FileSystem) (name : List Char) : files.IsReachable (Path.step [] name) :=
    (FileSystem.isReachable_nil files).step rfl name
  have tree := FileSystem.isTree_empty.put ⟨top ∅ ['g'], rfl⟩ { content := .directory }
  have inner := (tree ["g"] _ rfl).step rfl "Old.schema".toList
  have tree' := tree.put ⟨inner, rfl⟩ { content := .file "old".toUTF8 }
  have tree'' := tree'.put ⟨top _ ['o'], rfl⟩ { content := .directory }
  have inner' := (tree'' ["o"] _ rfl).step rfl "schema.descriptor".toList
  exact tree''.put ⟨inner', rfl⟩ { content := .file "old".toUTF8 }

def furnishing : Plan := described [.gate, .tool] [.front]

theorem tree_furnishing : furnishing.tree = ["g"] := by with_unfolding_all rfl

theorem place_furnishing : furnishing.place = ["d"] := by with_unfolding_all rfl

theorem output_furnishing :
    furnishing.tree.AreApart furnishing.settings.compiler.outputDir.location := by
  have output : Path.location furnishing.settings.compiler.outputDir = ["o"] := by
    with_unfolding_all rfl
  rw [tree_furnishing, output]
  exact ⟨by decide, by decide⟩

theorem finds_outdated : furnishing.Finds outdated HasNone [] := by with_unfolding_all rfl

theorem discovered_furnishing :
    furnishing.discovered none = .ok (Candidates.ofListed [.gate, .tool], [.front]) :=
  discovered_site (by with_unfolding_all decide)

def furnished : Option Ledger × FileSystem :=
  furnishing.saves (.reset .missing) (Candidates.ofListed [.gate, .tool]) [.front] outdated

def furnishedAgain : Option Ledger × FileSystem :=
  furnishing.saves (.loaded .equipped) (Candidates.ofListed [.gate, .tool]) [.front] furnished.2

theorem furnished_again : furnished.1 = some .equipped ∧
    furnishing.store.isReadOnly furnished.2 = false ∧ furnishedAgain.1 = some .equipped := by
  decide +kernel

/-- Two passes, the second of which finds what the first one left. -/
theorem exists_saves_furnishing : ∃ first second : Generator,
    furnishing.Saves { files := outdated } (.reset .missing) .equipped first ∧
      furnishing.Saves { first with queue := none } (.loaded .equipped) .equipped second := by
  have valid : (Validation.check [.gate, .tool] [.front]).isOk = true := by with_unfolding_all rfl
  obtain ⟨furnishes, writable, again⟩ := furnished_again
  have start : furnishing.readLedger false outdated = .ok (.reset .missing) :=
    readLedger_of_absent finds_outdated
  obtain ⟨first, saved, left⟩ := exists_saves { files := outdated } rfl start
    discovered_furnishing valid furnishes
  have loads : furnishing.readLedger false first.files = .ok (.loaded .equipped) := by
    refine saved.loads rfl ?_ (by with_unfolding_all rfl)
    rw [left]
    exact writable
  have leads : (furnishing.saves (.loaded .equipped) (Candidates.ofListed [.gate, .tool]) [.front]
      first.files).1 = some .equipped := by
    rw [left]
    exact again
  obtain ⟨second, saved', -⟩ := exists_saves { first with queue := none } rfl loads
    discovered_furnishing valid leads
  exact ⟨first, second, saved, saved'⟩

theorem run_again_furnishing :
    ∃ report after result final, furnishing.run false { files := outdated } = (.ok report, after) ∧
      furnishing.run false { after with queue := none } = (result, final) ∧
      furnishing.kept after.files = Ledger.equipped.savedFile ∧
      ((∀ place, furnishing.tree.IsAbove place →
          final.files.fileAt? place = after.files.fileAt? place) ↔
        ¬furnishing.Lingers outdated final.files) ∧
      ¬furnishing.Lingers outdated final.files ∧
      ∃ report, result = .ok report ∧ report.newIds = 0 ∧
        furnishing.kept final.files = furnishing.kept after.files := by
  obtain ⟨first, second, saved, saved'⟩ := exists_saves_furnishing
  obtain ⟨report, run⟩ := saved.run
  obtain ⟨report', again⟩ := saved'.run
  have ledger : furnishing.tree.AreApart furnishing.place := by
    rw [tree_furnishing, place_furnishing]
    exact ⟨by decide, by decide⟩
  have standing : outdated.pathExists furnishing.emitter.schemaDir = true := by
    with_unfolding_all rfl
  -- the old tree is found and cleared, so nothing of it is left over
  have cleared : ¬furnishing.Lingers outdated second.files := by
    intro lingers
    cases standing.symm.trans lingers.1
  obtain ⟨iff, fixed⟩ := run_again (rfl : furnishing.compiler = .process describing)
    output_furnishing ledger
    (fun _ above _ _ _ _ _ launched => spares_describing tree_furnishing above launched)
    (isRepeatable_described _ _) (.start : History false HasNone []) finds_outdated isTree_outdated
    run again (fun error same => (by cases same))
  exact ⟨report, first, .ok report', second, run, again, kept_eq_some_iff.2 saved.found, iff, cleared,
    fixed cleared⟩

end Plan

end ComponentSchema
