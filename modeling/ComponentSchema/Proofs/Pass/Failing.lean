import ComponentSchema.Proofs.Files.Sparing
import ComponentSchema.Proofs.Ledger.Saving
import ComponentSchema.Proofs.Pass.Endings

/-!
Passes that fail.  All that such a pass does to the file of the ledger it does by emptying directories
above it, so the file is as before unless the schema tree or the output directory holds it.
-/

namespace ComponentSchema

theorem Compiler.files_ofEnd (ended : ProgramEnd) (files : FileSystem) :
    (ofEnd ended files).files = files := by
  unfold ofEnd
  dsimp only
  split <;> rfl

/-- A compilation that has prepared its output leaves the rest to the program it runs. -/
theorem Compiler.keeps_process {relation : FileSystem → FileSystem → Prop} [Std.Refl relation]
    {launcher : Launcher}
    (launches : ∀ exe args files ended after, launcher exe args files = .ok (ended, after) →
      relation files after) (settings : CompilerSettings) (files : FileSystem) :
    relation (settings.prepareOutput files).2 (Compiler.process launcher settings files).files := by
  unfold process
  rcases settings.prepareOutput files with ⟨failure | _, ready⟩
  · exact Std.Refl.refl ready
  · dsimp only
    unfold launch
    rcases launched : launcher settings.exe settings.args ready with reason | ⟨ended, after⟩
    · exact Std.Refl.refl ready
    · dsimp only
      rw [files_ofEnd]
      exact launches _ _ _ _ _ launched

/-- Preparing the output is making its directory fresh, and creating more of them. -/
theorem CompilerSettings.keeps_prepareOutput {relation : FileSystem → FileSystem → Prop}
    [Std.Refl relation] (creates : ∀ path, Task.Keeps relation (FileAction.createDirectories path))
    (settings : CompilerSettings) (files : FileSystem) :
    relation (FileTask.freshDirectory settings.outputDir "clear compiled schema directory"
      "create compiled schema directory" files).2 (settings.prepareOutput files).2 := by
  unfold prepareOutput
  rw [Task.bind_apply]
  rcases FileTask.freshDirectory settings.outputDir "clear compiled schema directory"
    "create compiled schema directory" files with ⟨failure | _, ready⟩
  · exact Std.Refl.refl ready
  · dsimp only
    split
    · exact FileAction.keeps_reporting (creates settings.astDir) _ _ ready
    · exact Std.Refl.refl ready

/-- Once its output directory is empty, a compilation spares what its program spares. -/
theorem Compiler.spares_process {launcher : Launcher} {place : Location}
    (careful : ∀ exe args files ended after, launcher exe args files = .ok (ended, after) →
      files.Spares place after) (settings : CompilerSettings) (files : FileSystem) :
    (FileTask.freshDirectory settings.outputDir "clear compiled schema directory"
      "create compiled schema directory" files).2.Spares place
        (Compiler.process launcher settings files).files :=
  trans_of (FileSystem.Spares place)
    (CompilerSettings.keeps_prepareOutput FileAction.spares_createDirectories settings files)
    (Compiler.keeps_process careful settings files)

namespace Plan

/-- The place of the ledger's file. -/
def place (plan : Plan) : Location := plan.store.path.location

variable {plan : Plan} {reset : Bool} {queue : Option CandidateQueue} {files after : FileSystem}
  {error : PassError} {course : Course}

section

variable {relation : FileSystem → FileSystem → Prop} [Std.Refl relation]

/-- A pass that fails did nothing to files before the emitting stage. -/
theorem Ends.before_emitting (ends : plan.Ends reset queue files (.error error) after) :
    after = files ∨ ∃ course, plan.ReachesEmitting reset queue files course := by
  cases ends with
  | settings _ | load _ _ | source _ _ | validation _ _ _ => exact .inl rfl
  | preparation reaches _ | emission reaches _ _ => exact .inr ⟨_, reaches⟩
  | compilation reaches _ => exact .inr ⟨_, reaches.toReachesEmitting⟩
  | descriptor reaches _ => exact .inr ⟨_, reaches.toReachesEmitting⟩
  | corrupt reaches _ _ => exact .inr ⟨_, reaches.toReachesEmitting⟩
  | save reaches _ => exact .inr ⟨_, reaches.toReachesEmitting⟩

/-- A pass that fails in the emitting stage or later fails to prepare the schema tree, or to emit, or
it stops with the files that compiling left, or it fails to save. -/
theorem Ends.from_emitting (ends : plan.Ends reset queue files (.error error) after)
    (reaches : plan.ReachesEmitting reset queue files course) :
    (∃ failure, plan.emitter.prepare files = (.error failure, after)) ∨
      (∃ course error workshop, plan.ReachesEmitting reset queue files course ∧
        plan.emitter.prepare files = (.ok (), course.prepared) ∧
          plan.emission course.outcome.ledger course.discovery.classes course.levels
            ⟨.ofLedger course.outcome.ledger, course.prepared⟩ = (.error error, workshop) ∧
              after = workshop.files) ∨
      ∃ course, plan.ReachesCompiling reset queue files course ∧
        (after = (plan.compilation course).files ∨ ∃ ledger error,
          plan.store.save ledger (plan.compilation course).files = (.error error, after)) := by
  cases ends with
  | settings invalid => cases reaches.valid.symm.trans invalid
  | load _ refused => cases reaches.loaded.symm.trans refused
  | source _ failed => cases reaches.discovered.symm.trans failed
  | validation _ discovered rejected =>
    exact absurd rejected (reaches.not_rejected discovered)
  | preparation _ failed => exact .inl ⟨_, failed⟩
  | emission again prepares failed =>
    exact .inr (.inl ⟨_, _, _, again, prepares, failed, rfl⟩)
  | compilation again _ => exact .inr (.inr ⟨_, again, .inl rfl⟩)
  | descriptor again _ => exact .inr (.inr ⟨_, again.toReachesCompiling, .inl rfl⟩)
  | corrupt again _ _ => exact .inr (.inr ⟨_, again.toReachesCompiling, .inl rfl⟩)
  | save again failed =>
    exact .inr (.inr ⟨_, again.toReachesCompiling, .inr ⟨_, _, failed⟩⟩)

/-- What a pass that fails does from the end of its compilation on. -/
theorem Ends.after_compiling (ends : plan.Ends reset queue files (.error error) after)
    (reaches : plan.ReachesCompiling reset queue files course)
    (saves : ∀ ledger files error after, plan.store.save ledger files = (.error error, after) →
      relation files after) :
    relation (plan.compilation course).files after := by
  rcases ends.from_emitting reaches.toReachesEmitting with
    ⟨failure, failed⟩ | ⟨other, _, _, again, prepares, failed, -⟩ | ⟨other, again, rest⟩
  · rw [reaches.prepares] at failed
    cases failed
  · obtain ⟨outcome, discovery, levels⟩ := reaches.toReachesEmitting.unique again
    have prepared : course.prepared = other.prepared :=
      congrArg Prod.snd (reaches.prepares.symm.trans prepares)
    rw [← outcome, ← discovery, ← levels, ← prepared, reaches.emits] at failed
    cases failed
  · rw [compilation_congr (reaches.unique again).2.2.2]
    rcases rest with rfl | ⟨ledger, error, failed⟩
    · exact Std.Refl.refl _
    · exact saves ledger _ error after failed

/-- What a pass that fails does once it has prepared the schema tree. -/
theorem Ends.after_preparing [IsTrans FileSystem relation]
    (ends : plan.Ends reset queue files (.error error) after)
    (reaches : plan.ReachesEmitting reset queue files course)
    (emits : ∀ course, plan.ReachesEmitting reset queue files course →
      plan.emitter.prepare files = (.ok (), course.prepared) →
        relation course.prepared (plan.emission course.outcome.ledger course.discovery.classes
          course.levels ⟨.ofLedger course.outcome.ledger, course.prepared⟩).2.files)
    (compiles : ∀ course, plan.ReachesCompiling reset queue files course →
      relation course.written (plan.compilation course).files)
    (saves : ∀ ledger files error after, plan.store.save ledger files = (.error error, after) →
      relation files after) :
    relation (plan.emitter.prepare files).2 after := by
  rcases ends.from_emitting reaches with
    ⟨failure, failed⟩ | ⟨other, _, _, again, prepares, failed, same⟩ | ⟨other, again, -⟩
  · rw [failed]
    exact Std.Refl.refl after
  · have emitted := emits other again prepares
    rw [failed] at emitted
    rw [prepares, same]
    exact emitted
  · have emitted := emits other again.toReachesEmitting again.prepares
    rw [again.emits] at emitted
    rw [again.prepares]
    exact trans_of relation emitted
      (trans_of relation (compiles other again) (ends.after_compiling again saves))

end

end Plan

end ComponentSchema
