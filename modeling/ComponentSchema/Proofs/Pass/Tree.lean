import ComponentSchema.Proofs.Pass.Failing
import ComponentSchema.Proofs.Pass.Repeating

/-!
What a pass leaves of the schema tree: the files it emitted, and of what was there before nothing if it
found the tree, but all of it if it did not.
-/

namespace ComponentSchema

/-- Neither of two locations is the other or lies below it. -/
structure Location.AreApart (first second : Location) : Prop where
  not_above : ¬first <+: second
  not_below : ¬second <+: first

/-- Below one of two locations that are apart nothing lies above or below the other. -/
theorem Location.AreApart.of_isAbove {first second place : Location} (apart : first.AreApart second)
    (above : first.IsAbove place) : ¬second <+: place := by
  intro higher
  rcases List.prefix_or_prefix_of_prefix above.1 higher with below | below
  · exact apart.not_above below
  · exact apart.not_below below

namespace Plan

def tree (plan : Plan) : Location := plan.emitter.schemaDir.location

/-- Files were left over in a schema tree that was not found, and are lost in the end. -/
def Lingers (plan : Plan) (files final : FileSystem) : Prop :=
  files.pathExists plan.emitter.schemaDir = false ∧
    ∃ place, plan.tree.IsAbove place ∧ files.fileAt? place ≠ none ∧ final.fileAt? place = none

/-- What becomes of the schema tree in a pass that makes some writes. -/
structure Leaves (plan : Plan) (writes : List Write) (files after : FileSystem) : Prop where
  written : ∀ place bytes, plan.tree.IsAbove place → lastWrite? writes place = some bytes →
    after.Holds place bytes
  cleared : files.pathExists plan.emitter.schemaDir = true →
    ∀ place, plan.tree.IsAbove place → lastWrite? writes place = none → after.fileAt? place = none
  spared : files.pathExists plan.emitter.schemaDir = false →
    ∀ place, plan.tree.IsAbove place → lastWrite? writes place = none → files.Spares place after

variable {plan : Plan} {reset : Bool} {queue : Option CandidateQueue} {files after : FileSystem}
  {course : Course} {writes : List Write}

theorem ReachesCompiling.takes (reaches : plan.ReachesCompiling reset queue files course)
    (performs : Emission.Performs
      (plan.emission course.outcome.ledger course.discovery.classes course.levels)
      (.ofLedger course.outcome.ledger) course.made course.numbering writes) :
    course.prepared.Takes writes course.written :=
  (performs.of_eq_ok reaches.emits).2.2

/-- What a pass leaves once it has emitted, as long as the schema tree is spared from then on. -/
theorem ReachesCompiling.leaves_of_takes (reaches : plan.ReachesCompiling reset queue files course)
    (takes : course.prepared.Takes writes course.written)
    (onward : ∀ place, plan.tree.IsAbove place → course.written.Spares place after) :
    plan.Leaves writes files after := by
  have prepares := reaches.prepares
  unfold Emitter.prepare at prepares
  refine ⟨fun place bytes above last => ?_, fun there place above none => ?_,
    fun absent place above none => ?_⟩
  · exact (onward place above).keeps bytes (takes.written place bytes last)
  · refine (onward place above).absent ((takes.spared place none).absent ?_)
    rw [FileTask.fileAt?_freshDirectory_eq_ok above prepares, there, if_pos rfl]
  · have spared : files.Spares place (FileTask.freshDirectory plan.emitter.schemaDir
        "clear schema directory" "create schema directory" files).2 :=
      FileTask.spares_freshDirectory_of_absent absent _ _
    rw [prepares] at spared
    exact trans_of (FileSystem.Spares place) spared
      (trans_of (FileSystem.Spares place) (takes.spared place none) (onward place above))

theorem ReachesCompiling.leaves (reaches : plan.ReachesCompiling reset queue files course)
    (performs : Emission.Performs
      (plan.emission course.outcome.ledger course.discovery.classes course.levels)
      (.ofLedger course.outcome.ledger) course.made course.numbering writes)
    (onward : ∀ place, plan.tree.IsAbove place → course.written.Spares place after) :
    plan.Leaves writes files after :=
  reaches.leaves_of_takes (reaches.takes performs) onward

/-- A second pass that makes the same writes leaves the same files, unless it is the first to find
files that lingered. -/
theorem Leaves.same {between final : FileSystem} (tree : files.IsTree)
    (first : plan.Leaves writes files between) (whole : plan.Leaves writes files after)
    (second : plan.Leaves writes after final) (kept : ¬plan.Lingers files final)
    {place : Location} (above : plan.tree.IsAbove place) :
    final.fileAt? place = between.fileAt? place := by
  cases last : lastWrite? writes place with
  | some bytes =>
    rw [(second.written place bytes above last).stored, (first.written place bytes above last).stored]
  | none =>
    have free (none : after.fileAt? place = none) : final.fileAt? place = .none := by
      cases there : after.pathExists plan.emitter.schemaDir with
      | true => exact second.cleared there place above last
      | false => exact (second.spared there place above last).absent none
    cases there : files.pathExists plan.emitter.schemaDir with
    | true =>
      rw [first.cleared there place above last]
      exact free (whole.cleared there place above last)
    | false =>
      have spared := first.spared there place above last
      have spared' := whole.spared there place above last
      cases stored : files.fileAt? place with
      | none =>
        rw [spared.absent stored]
        exact free (spared'.absent stored)
      | some bytes =>
        -- the second pass left the file where it was as well, or it would have lingered
        have holds := tree.holds stored
        rw [(spared.keeps bytes holds).stored]
        have standing : final.fileAt? place ≠ .none := by
          intro lost
          exact kept ⟨there, place, above, by rw [stored]; exact Option.some_ne_none bytes, lost⟩
        cases found : after.pathExists plan.emitter.schemaDir with
        | true => exact absurd (second.cleared found place above last) standing
        | false =>
          exact ((second.spared found place above last).keeps bytes (spared'.keeps bytes holds)).stored

/-- Files that lingered are lost in the second pass, so nothing lingered if it changes no file. -/
theorem Leaves.not_lingers {final : FileSystem} (tree : files.IsTree)
    (first : plan.Leaves writes files after) (second : plan.Leaves writes after final)
    (same : ∀ place, plan.tree.IsAbove place → final.fileAt? place = after.fileAt? place) :
    ¬plan.Lingers files final := by
  rintro ⟨absent, place, above, standing, lost⟩
  obtain ⟨bytes, stored⟩ := Option.ne_none_iff_exists'.1 standing
  cases last : lastWrite? writes place with
  | some other =>
    rw [(second.written place other above last).stored] at lost
    cases lost
  | none =>
    have holds := (first.spared absent place above last).keeps bytes (tree.holds stored)
    rw [same place above, holds.stored] at lost
    cases lost

/-- A compilation by a program spares what the program spares, if the output directory lies apart. -/
theorem spares_compilation_of_apart {launcher : Launcher} {place : Location}
    (process : plan.compiler = .process launcher)
    (apart : plan.tree.AreApart plan.settings.compiler.outputDir.location)
    (careful : ∀ exe args files ended after, launcher exe args files = .ok (ended, after) →
      files.Spares place after)
    (above : plan.tree.IsAbove place) (files : FileSystem) :
    files.Spares place (plan.compiler plan.settings.compiler files).files := by
  rw [process]
  have made := FileTask.spares_freshDirectory (fun higher => apart.of_isAbove above higher.1)
    "clear compiled schema directory" "create compiled schema directory" files
  exact trans_of (FileSystem.Spares place) made
    (Compiler.spares_process careful plan.settings.compiler files)

/-- So does saving the ledger, if that lies apart as well. -/
theorem spares_save_of_apart {ledger : Ledger} {place : Location} (apart : plan.tree.AreApart plan.place)
    (above : plan.tree.IsAbove place) (saved : plan.store.save ledger files = (.ok (), after)) :
    files.Spares place after := by
  refine LedgerStore.spares_of_save_eq_ok ?_ (apart.of_isAbove above) saved
  rintro rfl
  exact LedgerStore.not_isAbove_temporary apart.not_above above

end Plan

end ComponentSchema
