import ComponentSchema.Proofs.History
import ComponentSchema.Proofs.Pass.Failing

/-!
What a pass that fails does to the ledger that is stored.  The ledger is replaced only when a pass
succeeds, but its file is lost if the schema tree or the output directory lies above it.
-/

namespace ComponentSchema

namespace Plan

section

variable (plan : Plan) (reset : Bool) (queue : Option CandidateQueue) (files : FileSystem)

/-- The pass empties the schema tree, with the place of the ledger's file in it. -/
structure EmptiesSchema : Prop where
  reached : ∃ course, plan.ReachesEmitting reset queue files course
  above : plan.emitter.schemaDir.location.IsAbove plan.place
  there : files.pathExists plan.emitter.schemaDir = true

/-- The pass empties the output directory, with the place of the ledger's file in it. -/
structure EmptiesOutput : Prop where
  reached : ∃ course, plan.ReachesCompiling reset queue files course ∧
    course.written.pathExists plan.settings.compiler.outputDir = true
  above : plan.settings.compiler.outputDir.location.IsAbove plan.place

/-- The pass emits a schema file at the place of the ledger's file. -/
def Overwrites : Prop :=
  ∃ course, plan.ReachesEmitting reset queue files course ∧
    plan.emitter.prepare files = (.ok (), course.prepared) ∧
      (plan.emission course.outcome.ledger course.discovery.classes course.levels
        ⟨.ofLedger course.outcome.ledger, course.prepared⟩).2.files.fileAt? plan.place ≠
          course.prepared.fileAt? plan.place

end

/-- The program that compiles leaves the file of the ledger alone. -/
def IsCareful (plan : Plan) (launcher : Launcher) : Prop :=
  ∀ exe args files ended after, launcher exe args files = .ok (ended, after) →
    files.Spares plan.place after

variable {plan : Plan} {reset : Bool} {queue : Option CandidateQueue} {files after : FileSystem}
  {error : PassError} {course : Course} {launcher : Launcher}

theorem keepsDirectories_emission (plan : Plan) (ledger : Ledger) (classes : List Node) (levels : List Level)
    (workshop : Workshop) :
    workshop.files.KeepsDirectories (plan.emission ledger classes levels workshop).2.files := by
  have allows : plan.emitter.Allows (Workshop.OnFiles FileSystem.KeepsDirectories) := by
    refine Emitter.allows_onFiles fun front name bytes => ?_
    exact FileAction.keeps_writeWithParents
      (fun _ _ mode open_ _ => FileSystem.keepsDirectories_put open_ _)
      (fun _ _ _ open_ => FileSystem.keepsDirectories_put open_ _)
  exact allows.emission ledger classes levels workshop

/-- Schema files are told by their names, so emission changes no file with another name. -/
theorem keepsFile_emission {place : Location}
    (named : ∀ name, place.getLast? ≠ some (name ++ SchemaFile.ending)) (plan : Plan) (ledger : Ledger)
    (classes : List Node) (levels : List Level) (workshop : Workshop) :
    workshop.files.KeepsFile place (plan.emission ledger classes levels workshop).2.files := by
  have allows : plan.emitter.Allows (Workshop.OnFiles (FileSystem.KeepsFile place)) := by
    refine Emitter.allows_onFiles fun front name bytes => ?_
    have elsewhere : (plan.emitter.pathOf (front ++ [name ++ SchemaFile.ending])).location ≠ place := by
      obtain ⟨text, ends⟩ := Path.getLast?_location_join (plan.emitter.pathOf front) name
        SchemaFile.ending (by decide) (by decide)
      intro same
      refine named text ?_
      rw [← same, Emitter.pathOf, List.foldl_append]
      exact ends
    exact FileAction.keeps_writeWithParents
      (fun _ _ mode open_ free => FileSystem.fileAt?_put_directory open_ free mode place)
      (fun _ _ _ open_ => FileSystem.fileAt?_put_of_ne open_ elsewhere _)
  exact allows.emission ledger classes levels workshop

/-- Only a ledger with the name of a schema file is ever overwritten. -/
theorem not_overwrites (named : ∀ name, plan.place.getLast? ≠ some (name ++ SchemaFile.ending)) :
    ¬plan.Overwrites reset queue files := by
  rintro ⟨course, -, -, differs⟩
  exact differs (keepsFile_emission named plan course.outcome.ledger course.discovery.classes
    course.levels _)

/-- Emission that overwrites nothing spares the ledger. -/
theorem spares_emission (kept : ¬plan.Overwrites reset queue files)
    (reaches : plan.ReachesEmitting reset queue files course)
    (prepares : plan.emitter.prepare files = (.ok (), course.prepared)) :
    course.prepared.Spares plan.place (plan.emission course.outcome.ledger
      course.discovery.classes course.levels
        ⟨.ofLedger course.outcome.ledger, course.prepared⟩).2.files := by
  refine FileSystem.spares_of_fileAt? ?_
    (plan.keepsDirectories_emission course.outcome.ledger course.discovery.classes course.levels
      ⟨.ofLedger course.outcome.ledger, course.prepared⟩)
  by_contra differs
  exact kept ⟨course, reaches, prepares, differs⟩

theorem spares_prepare (outside : ¬plan.EmptiesSchema reset queue files)
    (reaches : plan.ReachesEmitting reset queue files course) :
    files.Spares plan.place (plan.emitter.prepare files).2 := by
  unfold Emitter.prepare
  cases there : files.pathExists plan.emitter.schemaDir with
  | false => exact FileTask.spares_freshDirectory_of_absent there _ _
  | true =>
    refine FileTask.spares_freshDirectory (fun above => ?_) _ _ files
    exact outside ⟨⟨course, reaches⟩, above, there⟩

theorem unchanged_iff {α : Type} {before after : Option α} {lossy : Prop}
    (loses : lossy → after = none) (keeps : ¬lossy → after = before) :
    after = before ↔ before = none ∨ ¬lossy := by
  by_cases lost : lossy
  · rw [loses lost, or_iff_left (not_not_intro lost)]
    exact eq_comm
  · exact iff_of_true (keeps lost) (.inr lost)

/-- The output directory, once it is empty. -/
def outputCleared (plan : Plan) (files : FileSystem) : FileSystem :=
  (FileTask.freshDirectory plan.settings.compiler.outputDir "clear compiled schema directory"
    "create compiled schema directory" files).2

/-- All that a compilation can do to the ledger it does when it empties its output directory. -/
theorem spares_compiling (process : plan.compiler = .process launcher)
    (careful : plan.IsCareful launcher) (course : Course) :
    (plan.outputCleared course.written).Spares plan.place (plan.compilation course).files := by
  unfold compilation
  rw [process]
  exact Compiler.spares_process careful plan.settings.compiler course.written

theorem spares_compilation (process : plan.compiler = .process launcher)
    (careful : plan.IsCareful launcher) (outside : ¬plan.EmptiesOutput reset queue files)
    (reaches : plan.ReachesCompiling reset queue files course) :
    course.written.Spares plan.place (plan.compilation course).files := by
  refine trans_of (FileSystem.Spares plan.place) ?_ (spares_compiling process careful course)
  unfold outputCleared
  cases there : course.written.pathExists plan.settings.compiler.outputDir with
  | false => exact FileTask.spares_freshDirectory_of_absent there _ _
  | true =>
    refine FileTask.spares_freshDirectory (fun above => ?_) _ _ course.written
    exact outside ⟨⟨course, reaches, there⟩, above⟩

theorem keepsFree_compilation (process : plan.compiler = .process launcher)
    (careful : plan.IsCareful launcher) (course : Course) :
    course.written.KeepsFree plan.place (plan.compilation course).files :=
  trans_of (FileSystem.KeepsFree plan.place)
    (FileTask.keepsFree_freshDirectory plan.settings.compiler.outputDir _ _ course.written)
    (spares_compiling process careful course).absent

section

variable (process : plan.compiler = .process launcher) (careful : plan.IsCareful launcher)
  (kept : ¬plan.Overwrites reset queue files)
  (ends : plan.Ends reset queue files (.error error) after)

include process careful kept ends

/-- Once it is lost the ledger's file does not come back in a pass that fails. -/
theorem Ends.keepsFree (reaches : plan.ReachesEmitting reset queue files course) :
    (plan.emitter.prepare files).2.KeepsFree plan.place after := by
  refine ends.after_preparing reaches (fun course reaches prepares => ?_) (fun course _ => ?_)
    fun ledger files error after failed => ?_
  · exact (spares_emission kept reaches prepares).absent
  · exact keepsFree_compilation process careful course
  · exact (LedgerStore.spares_of_save_eq_error failed).absent

/-- A pass that fails and empties no directory above the ledger's file leaves that file alone. -/
theorem Ends.spares (schema : ¬plan.EmptiesSchema reset queue files)
    (output : ¬plan.EmptiesOutput reset queue files) : files.Spares plan.place after := by
  rcases ends.before_emitting with rfl | ⟨course, reaches⟩
  · exact Std.Refl.refl after
  · refine trans_of (FileSystem.Spares plan.place) (spares_prepare schema reaches) ?_
    refine ends.after_preparing reaches (fun course => spares_emission kept)
      (fun course => spares_compilation process careful output) ?_
    exact fun ledger files error after => LedgerStore.spares_of_save_eq_error

/-- A pass that fails and empties a directory above the ledger's file loses it. -/
theorem Ends.loses (tree : files.IsTree)
    (empties : plan.EmptiesSchema reset queue files ∨ plan.EmptiesOutput reset queue files) :
    after.fileAt? plan.place = none := by
  have gone {course : Course} (reaches : plan.ReachesEmitting reset queue files course)
      (free : (plan.emitter.prepare files).2.fileAt? plan.place = none) :
      after.fileAt? plan.place = none := ends.keepsFree process careful kept reaches free
  cases stored : files.fileAt? plan.place with
  | none =>
    have free : (plan.emitter.prepare files).2.fileAt? plan.place = none :=
      FileTask.keepsFree_freshDirectory plan.emitter.schemaDir _ _ files stored
    rcases empties with schema | output
    · obtain ⟨course, reaches⟩ := schema.reached
      exact gone reaches free
    · obtain ⟨course, reaches, -⟩ := output.reached
      exact gone reaches.toReachesEmitting free
  | some bytes =>
    have holds := tree.holds stored
    by_cases schema : plan.EmptiesSchema reset queue files
    · obtain ⟨course, reaches⟩ := schema.reached
      have directory := holds.reachable _ schema.above.1 schema.above.2
      exact gone reaches (FileTask.fileAt?_freshDirectory schema.above schema.there directory _ _)
    · -- the file is still there when the output directory is emptied
      have output := empties.resolve_left schema
      obtain ⟨course, reaches, there⟩ := output.reached
      have early := reaches.toReachesEmitting
      have prepared := spares_prepare schema early
      have emitted := spares_emission kept early reaches.prepares
      rw [reaches.prepares] at prepared
      rw [reaches.emits] at emitted
      have standing := emitted.keeps bytes (prepared.keeps bytes holds)
      have directory := standing.reachable _ output.above.1 output.above.2
      have cleared : (plan.outputCleared course.written).fileAt? plan.place = none :=
        FileTask.fileAt?_freshDirectory output.above there directory _ _
      have onward : (plan.compilation course).files.KeepsFree plan.place after :=
        ends.after_compiling reaches fun ledger files error after failed =>
          (LedgerStore.spares_of_save_eq_error failed).absent
      exact onward ((spares_compiling process careful course).absent cleared)

/-- What becomes of the ledger's file in a pass that fails, told by its place. -/
theorem Ends.fileAt?_iff (tree : files.IsTree) :
    after.fileAt? plan.place = files.fileAt? plan.place ↔
      files.fileAt? plan.place = none ∨
        ¬plan.EmptiesSchema reset queue files ∧ ¬plan.EmptiesOutput reset queue files := by
  rw [← not_or]
  refine unchanged_iff (ends.loses process careful kept tree) fun empties => ?_
  rw [not_or] at empties
  have spares := ends.spares process careful kept empties.1 empties.2
  cases stored : files.fileAt? plan.place with
  | none => exact spares.absent stored
  | some bytes => exact (spares.keeps bytes (tree.holds stored)).stored

/-- What becomes of it, told by its path, if that goes down only. -/
theorem Ends.kept_iff (tree : files.IsTree) (direct : plan.store.path.IsDirect) :
    plan.kept after = plan.kept files ↔
      plan.kept files = none ∨
        ¬plan.EmptiesSchema reset queue files ∧ ¬plan.EmptiesOutput reset queue files := by
  rw [← not_or]
  refine unchanged_iff (fun empties => ?_) fun empties => ?_
  · cases found : plan.kept after with
    | none => rfl
    | some bytes =>
      have stored := (FileSystem.read_eq_ok_iff.1 (kept_eq_some_iff.1 found)).2
      rw [← place, ends.loses process careful kept tree empties] at stored
      cases stored
  · rw [not_or] at empties
    have spares := ends.spares process careful kept empties.1 empties.2
    exact FileSystem.read_of_spares direct tree spares

end

/-- A pass that fails leaves the ledger's file as it was, unless it gets as far as emptying the schema
tree or the output directory and the file lies below that; then the file is lost.  A file of a schema
name in the schema tree is not told of, since it is overwritten. -/
theorem ledgerFile_of_failed_run {before after : Generator}
    (process : plan.compiler = .process launcher) (careful : plan.IsCareful launcher)
    (tree : before.files.IsTree) (kept : ¬plan.Overwrites reset before.queue before.files)
    (run : plan.run reset before = (.error error, after)) :
    (after.files.fileAt? plan.place = before.files.fileAt? plan.place ↔
      before.files.fileAt? plan.place = none ∨
        ¬plan.EmptiesSchema reset before.queue before.files ∧
          ¬plan.EmptiesOutput reset before.queue before.files) ∧
    (plan.store.path.IsDirect → (plan.kept after.files = plan.kept before.files ↔
      plan.kept before.files = none ∨
        ¬plan.EmptiesSchema reset before.queue before.files ∧
          ¬plan.EmptiesOutput reset before.queue before.files)) := by
  have ends := ends_of_run run
  exact ⟨ends.fileAt?_iff process careful kept tree, ends.kept_iff process careful kept tree⟩

/-- A project that keeps its ledger in the schema tree, and whose compiler cannot be started. -/
def nested : Plan where
  settings :=
    { generator := { schemaDir := "g", database := "g/d" }, compiler := { outputDir := "o" } }
  source := small.source
  compiler := .process fun _ _ _ => .error .notFound

/-- A start with a file at the place of that ledger. -/
def nestedStart : Generator where
  files := ((∅ : FileSystem).put ["g"] { content := .directory }).put ["g", "d"]
    { content := .file .empty }

theorem nested_fails : (nested.run false nestedStart).1.isOk = false := by decide +kernel

theorem isTree_nestedStart : nestedStart.files.IsTree := by
  have outer : (∅ : FileSystem).IsOpen ["g"] :=
    ⟨(FileSystem.isReachable_nil ∅).step rfl ['g'], rfl⟩
  have tree := FileSystem.isTree_empty.put outer { content := .directory }
  have inner : ((∅ : FileSystem).put ["g"] { content := .directory }).IsReachable ["g", "d"] :=
    (tree ["g"] _ rfl).step rfl ['d']
  exact tree.put ⟨inner, rfl⟩ { content := .file .empty }

theorem ledgerFile_of_failed_run_nested :
    ∃ error after, nested.run false nestedStart = (.error error, after) ∧
      (after.files.fileAt? nested.place = nestedStart.files.fileAt? nested.place ↔
        nestedStart.files.fileAt? nested.place = none ∨
          ¬nested.EmptiesSchema false none nestedStart.files ∧
            ¬nested.EmptiesOutput false none nestedStart.files) ∧
      (nested.kept after.files = nested.kept nestedStart.files ↔
        nested.kept nestedStart.files = none ∨
          ¬nested.EmptiesSchema false none nestedStart.files ∧
            ¬nested.EmptiesOutput false none nestedStart.files) := by
  have fails := nested_fails
  have direct : nested.store.path.IsDirect := Path.isDirect_of_notMem (by decide +kernel)
  rcases run : nested.run false nestedStart with ⟨error | report, after⟩
  · have kept : ¬nested.Overwrites false none nestedStart.files := by
      apply not_overwrites
      intro name named
      have ending := congrArg (fun text => text.toList.length) (Option.some.inj named)
      simp [SchemaFile.ending] at ending
    obtain ⟨stored, told⟩ := ledgerFile_of_failed_run
      (rfl : nested.compiler = .process fun _ _ _ => .error .notFound)
      (fun _ _ _ _ _ launched => (by cases launched)) isTree_nestedStart kept run
    exact ⟨error, after, rfl, stored, told direct⟩
  · rw [run] at fails
    cases fails

end Plan

end ComponentSchema
