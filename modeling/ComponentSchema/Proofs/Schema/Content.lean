import ComponentSchema.Proofs.Schema.Outline
import ComponentSchema.Proofs.Schema.Replaying

/-!
What emission writes, as a function of the ledger in the end.  Each emitter asks for the ids of its keys
in order and writes its file under the ids these keys have, so what a run of them writes can be read off
the ledger that the run leads to.
-/

namespace ComponentSchema

open Numbered

/-- The write of a schema file at its location in the tree. -/
def Emitter.writeOf (emitter : Emitter) (entry : List String × SchemaFile) : Write :=
  ⟨emitter.pathOf entry.1, entry.2.render.toUTF8⟩

namespace Emission

variable {α β : Type}

/-- Work asks for the ids of some keys, makes writes that follow from the ids they have then, and so does
its answer. -/
def Emits (keys : List IdKey) (writes : Ledger → List Write) (answer : Ledger → α)
    (work : Emission α) : Prop :=
  ∀ (before after : Numbering) (files final : FileSystem) (value : α),
    work ⟨before, files⟩ = (.ok value, ⟨after, final⟩) →
      before.Issues keys after ∧ ∀ later : Ledger, after.ledger.KeepsIds later →
        value = answer later ∧ files.Takes (writes later) final

namespace Emits

variable {keys more : List IdKey} {writes : Ledger → List Write} {answer : Ledger → α}

theorem pure (value : α) : Emits [] (fun _ => []) (fun _ => value) (pure value) := by
  intro before after files final result run
  cases run
  exact ⟨.refl _, fun _ _ => ⟨rfl, .refl _⟩⟩

theorem bind {work : Emission α} {next : α → Emission β} {writes' : α → Ledger → List Write}
    {result : α → Ledger → β} (first : Emits keys writes answer work)
    (second : ∀ value, Emits more (writes' value) (result value) (next value)) :
    Emits (keys ++ more) (fun later => writes later ++ writes' (answer later) later)
      (fun later => result (answer later) later) (work >>= next) := by
  intro before after files final value run
  obtain ⟨middle, ⟨between, halfway⟩, run, rest⟩ := Task.bind_eq_ok.1 run
  obtain ⟨issues, answered⟩ := first _ _ _ _ _ run
  obtain ⟨onward, resulted⟩ := second middle _ _ _ _ _ rest
  refine ⟨issues.trans onward, fun later known => ?_⟩
  obtain ⟨same, took⟩ := answered later (onward.kept.trans known)
  obtain ⟨value, taken⟩ := resulted later known
  dsimp only
  rw [← same]
  exact ⟨value, took.trans taken⟩

theorem number {work : Numbered α} (asks : Asks keys answer work) :
    Emits keys (fun _ => []) answer (Emission.number work) := by
  intro before after files final value run
  obtain ⟨ended, rfl⟩ := number_eq_ok run
  obtain ⟨issues, answered⟩ := asks _ _ _ ended
  exact ⟨issues, fun later known => ⟨answered later known, .refl _⟩⟩

theorem writeFile (emitter : Emitter) (location : List String) (file : SchemaFile)
    (action : String) :
    Emits [] (fun _ => [emitter.writeOf (location, file)]) (fun _ => emitter.pathOf location)
      (emitter.writeFile location file action) := by
  intro before after files final value run
  obtain ⟨rfl, rfl, takes⟩ := (Performs.writeFile emitter location file action before).of_eq_ok run
  exact ⟨.refl _, fun _ _ => ⟨rfl, takes⟩⟩

end Emits

end Emission

namespace Emitter

open Emission

/-- The file of a class with its location, under the ids that are on record. -/
def classEntry (emitter : Emitter) (ledger : Ledger) (kind : ClassKind) (schemaName : String)
    (node : Node) : List String × SchemaFile :=
  (ClassFile.location kind schemaName,
    ClassFile.filled ledger kind emitter.slots.toNat schemaName node)

theorem emitClass_emits {node : Node} {kind : ClassKind} (isClass : node.classKind? = some kind)
    (emitter : Emitter) (schemaName : String) :
    Emits (node.keys emitter.slots.toNat)
      (fun later => [emitter.writeOf (emitter.classEntry later kind schemaName node)])
      (fun _ => emitter.pathOf (ClassFile.location kind schemaName))
      (emitter.emitClass node schemaName) := by
  have asks := ClassFile.build_asks isClass emitter.slots.toNat schemaName
  have whole := (Emits.number asks).bind fun file =>
    .writeFile emitter (ClassFile.location kind schemaName) file "write schema"
  rw [List.append_nil] at whole
  unfold emitClass
  rw [isClass]
  exact whole

theorem emitLevels_emits (emitter : Emitter) (levels : List Level) :
    Emits ((LevelFile.outlines levels).map Outline.key)
      (fun later => [emitter.writeOf (LevelFile.location, LevelFile.filled later levels)])
      (fun later => (LevelFile.filled later levels).declarations.length)
      (emitter.emitLevels levels) := by
  have whole := (Emits.number (LevelFile.build_asks levels)).bind fun file =>
    (Emits.writeFile emitter LevelFile.location file "write sublevel schema").bind fun _ =>
      .pure file.declarations.length
  simp only [List.append_nil] at whole
  exact whole

/-- The file of the cull distances follows from the distances on record when it is written. -/
theorem takes_emitDistances {emitter : Emitter} {distances : SortedSet UInt64}
    {before after : Numbering} {files final : FileSystem} {count : Nat}
    (run : emitter.emitDistances distances ⟨before, files⟩ = (.ok count, ⟨after, final⟩)) :
    before.Issues (distances.keys.map .distance) after ∧
      files.Takes [emitter.writeOf (DistanceFile.location, DistanceFile.filled after.ledger)]
        final := by
  obtain ⟨file, ⟨numbering, middle⟩, built, rest⟩ := Task.bind_eq_ok.1 run
  obtain ⟨ended, rfl⟩ := Emission.number_eq_ok built
  obtain ⟨issues, rfl⟩ := DistanceFile.issues_build ended
  -- writing the file leaves the numbering as it is
  have writing : Performs (do
      let _ ← emitter.writeFile DistanceFile.location (DistanceFile.filled numbering.ledger)
        "write distance schema"
      pure (DistanceFile.filled numbering.ledger).declarations.length) numbering _ numbering _ :=
    (Performs.writeFile emitter DistanceFile.location _ _ numbering).bind (.pure _ numbering)
  obtain ⟨-, rfl, takes⟩ := writing.of_eq_ok rest
  exact ⟨issues, takes⟩

end Emitter

end ComponentSchema
