import ComponentSchema.Proofs.Agreement
import ComponentSchema.Proofs.Pass.Filling
import ComponentSchema.Proofs.Schema.Declaring

/-!
Every schema file that a pass writes is well formed, even if the pass fails later.  Its names are words,
and its blocks list the fields of the groups of its class.  What validation has seen to is enough for
new names, and the names that were recorded in earlier passes were seen to then.
-/

namespace ComponentSchema

/-- All that is named in a schema file is named by words, and members by words without capitals. -/
structure SchemaFile.IsWorded (file : SchemaFile) : Prop where
  declarations : ∀ declaration ∈ file.declarations, IsWord declaration.name
  members : ∀ declaration ∈ file.declarations, ∀ type name number,
    .member type name number ∈ declaration.statements → IsLowerWord name

/-- A schema file stands where it belongs and has its declarations in its text, and it is what a class calls
for, or it belongs to no class and has components without fields. -/
inductive SchemaFile.Fits (slots : Nat) (classes : List Node) : List String → SchemaFile → Prop
  | ofClass {node : Node} {kind : ClassKind} {schemaName : String} {file : SchemaFile}
    (listed : node ∈ classes) (isClass : node.classKind? = some kind)
    (package : file.package = "unreal.generated." ++ foldCase schemaName)
    (segment : IsLowerWord (foldCase schemaName)) (worded : file.IsWorded)
    (declares : ∀ declaration ∈ file.declarations,
      ClassFile.Declares kind slots schemaName node declaration)
    (printed : file.IsPrinted) :
    Fits slots classes (ClassFile.location kind schemaName) file
  | ofWorld {location : List String} {file : SchemaFile}
    (place : (location, file.package) ∈ [(LevelFile.location, "unreal.sublevels"),
      (DistanceFile.location, "unreal.ncdcomponents")])
    (worded : file.IsWorded)
    (bare : ∀ declaration ∈ file.declarations, ∃ id, declaration.statements = [.id id])
    (printed : file.IsPrinted) :
    Fits slots classes location file

namespace SchemaFile

variable {slots : Nat} {classes : List Node}

theorem fits_classFile {ledger : Ledger} {node : Node} {kind : ClassKind} {schemaName : String}
    (listed : node ∈ classes) (isClass : node.classKind? = some kind)
    (faultless : Validation.nodeFaults none node = []) (word : IsWord schemaName) :
    Fits slots classes (ClassFile.location kind schemaName)
      (ClassFile.filled ledger kind slots schemaName node) := by
  have declares (declaration : Declaration)
      (member : declaration ∈ (ClassFile.filled ledger kind slots schemaName node).declarations) :
      ClassFile.Declares kind slots schemaName node declaration :=
    ClassFile.declares_of_mem_filled faultless member
  refine .ofClass listed isClass rfl word.foldCase ⟨?_, ?_⟩ declares
    (ClassFile.isPrinted_filled faultless ledger)
  · exact fun declaration member => (declares declaration member).isWord word
  · exact fun declaration member _ _ _ inside => (declares declaration member).isLowerWord inside

/-- A file whose components have no fields fits if their names are words. -/
theorem fits_of_bare {location : List String} {file : SchemaFile}
    (place : (location, file.package) ∈ [(LevelFile.location, "unreal.sublevels"),
      (DistanceFile.location, "unreal.ncdcomponents")])
    (each : ∀ declaration ∈ file.declarations, IsWord declaration.name ∧
      ∃ id, declaration.statements = [.id id]) : Fits slots classes location file := by
  have bare (declaration : Declaration) (member : declaration ∈ file.declarations) :
      ∃ id, declaration.statements = [.id id] := (each declaration member).2
  refine .ofWorld place ⟨fun declaration member => (each declaration member).1, ?_⟩ bare
    (isPrinted_of_bare bare)
  intro declaration member type name number inside
  obtain ⟨id, alone⟩ := bare declaration member
  rw [alone, List.mem_singleton] at inside
  cases inside

theorem fits_levelFile {ledger : Ledger} {levels : List Level}
    (words : ∀ level ∈ levels, IsWord level.componentName) :
    Fits slots classes LevelFile.location (LevelFile.filled ledger levels) := by
  refine fits_of_bare List.mem_cons_self fun declaration member => ?_
  obtain ⟨outline, drawn, rfl⟩ := List.mem_map.1 member
  obtain ⟨named, listed, rfl⟩ := List.mem_map.1 drawn
  exact ⟨LevelFile.isWord_of_mem_names words listed, _, rfl⟩

theorem fits_distanceFile (ledger : Ledger) :
    Fits slots classes DistanceFile.location (DistanceFile.filled ledger) := by
  refine fits_of_bare (List.mem_cons_of_mem _ List.mem_cons_self) fun declaration member => ?_
  obtain ⟨entry, -, rfl⟩ := List.mem_map.1 member
  exact ⟨DistanceFile.isWord_component entry.1 entry.2, _, rfl⟩

/-- What is made for a valid graph fits. -/
theorem fits_of_isMade {levels : List Level} {location : List String} {file : SchemaFile}
    (validated : Validation.check classes levels = .ok ())
    (made : IsMade slots classes levels location file) : Fits slots classes location file := by
  obtain ⟨⟨faultless, -⟩, usable, -⟩ := Validation.check_eq_ok_iff.1 validated
  cases made with
  | ofClass listed isClass word => exact fits_classFile listed isClass (faultless _ listed) word
  | ofLevels =>
    exact fits_levelFile fun level listed =>
      (nameFault_eq_none_iff.1 (usable level listed)).isWord_identifier
  | ofDistances => exact fits_distanceFile _

end SchemaFile

namespace Emitter

/-- The files that fit the classes are written, one after the other. -/
abbrev WritesFitting (emitter : Emitter) (classes : List Node) : FileSystem → FileSystem → Prop :=
  emitter.Writes (SchemaFile.Fits emitter.slots.toNat classes)

end Emitter

namespace Plan

/-- Whatever the passes before it were, all that a pass emits is well formed, and that as far as it gets:
every file that is written into the empty tree fits one of the classes, or the levels or distances. -/
theorem writesFitting_of_history {resets : Bool} {saved : List (Option ByteArray)}
    (history : History resets HasNone saved) {plan : Plan} {reset : Bool}
    {queue : Option CandidateQueue} {files : FileSystem} {course : Course}
    (finds : plan.Finds files HasNone saved)
    (reaches : plan.ReachesEmitting reset queue files course) (generator : Generator) :
    plan.emitter.WritesFitting course.discovery.classes
      (plan.emitter.prepare generator.files).2
      (plan.emit course.outcome.ledger course.discovery.classes course.levels generator).2.files :=
  Emitter.writes_mono (fun _ _ => SchemaFile.fits_of_isMade reaches.validated)
    (writesMade_of_history history finds reaches generator)

theorem writesFitting_of_history_workroom :
    ∃ saved after course, FreshHistory [saved] ∧ workroom.Finds after HasNone [saved] ∧
      workroom.ReachesEmitting false none after course ∧
      workroom.emitter.WritesFitting course.discovery.classes (workroom.emitter.prepare after).2
        (workroom.emit course.outcome.ledger course.discovery.classes course.levels
          { files := after }).2.files := by
  have succeeds : (workroom.run false {}).1.isOk = true := by decide +kernel
  have writable : workroom.store.isReadOnly (workroom.run false {}).2.files = false := by
    decide +kernel
  obtain ⟨report, after, run⟩ := Task.exists_of_isOk succeeds
  rw [run] at writable
  obtain ⟨course, reaches, -, -, found⟩ := course_of_run run
  have absent : workroom.store.isPresent ∅ = false := by decide +kernel
  have history : FreshHistory [workroom.kept after.files] :=
    @History.succeeded false HasNone workroom false {} after [] report .start id absent run
  have again : workroom.ReachesEmitting false none after.files
      (.starting _ course.discovery course.levels ∅) :=
    ⟨reaches.valid, reaches.load found writable, reaches.discovered, reaches.validated⟩
  exact ⟨_, after.files, _, history, rfl, again,
    writesFitting_of_history history rfl again { files := after.files }⟩

end Plan

end ComponentSchema
