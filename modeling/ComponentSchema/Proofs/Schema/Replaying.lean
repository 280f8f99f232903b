import ComponentSchema.Proofs.Files.Writing
import ComponentSchema.Proofs.Schema.Emission

/-!
Emission done again.  Once it has succeeded, emission from any ledger that has all of its ids makes the
same writes and issues nothing, whatever the files are by then; only the files can still stop it.
-/

namespace ComponentSchema

/-- Records the identities of classes one after the other. -/
def Numbering.recordAll (numbering : Numbering) (records : List (String × ClassRecord)) :
    Numbering :=
  records.foldl (fun numbering entry =>
    numbering.recordIdentity entry.1 entry.2.schemaName entry.2.kind) numbering

namespace Numbering

theorem recordAll_append (numbering : Numbering) (first second : List (String × ClassRecord)) :
    numbering.recordAll (first ++ second) = (numbering.recordAll first).recordAll second :=
  List.foldl_append

/-- Recording identities changes the records of classes and nothing else. -/
theorem recordAll_eq (numbering : Numbering) (records : List (String × ClassRecord)) :
    numbering.recordAll records =
      { numbering with
        ledger := { numbering.ledger with
          classes := records.foldl (fun classes entry => classes.insertIfNew entry.1 entry.2)
            numbering.ledger.classes } } := by
  induction records generalizing numbering with
  | nil => rfl
  | cons entry rest ih => exact ih _

theorem idOf?_recordAll (numbering : Numbering) (records : List (String × ClassRecord))
    (key : IdKey) : (numbering.recordAll records).ledger.idOf? key = numbering.ledger.idOf? key := by
  rw [recordAll_eq]
  cases key <;> rfl

/-- What is recorded depends on what was on record only. -/
theorem classes_recordAll_congr {first second : Numbering}
    (same : first.ledger.classes = second.ledger.classes) (records : List (String × ClassRecord)) :
    (first.recordAll records).ledger.classes = (second.recordAll records).ledger.classes := by
  rw [recordAll_eq, recordAll_eq, same]

/-- Identities on record are not recorded again. -/
theorem recordAll_of_identity? {numbering : Numbering} {records : List (String × ClassRecord)}
    (known : ∀ entry ∈ records, ∃ record, numbering.ledger.identity? entry.1 = some record) :
    numbering.recordAll records = numbering := by
  induction records with
  | nil => rfl
  | cons entry rest ih =>
    obtain ⟨record, stored⟩ := known entry List.mem_cons_self
    have same : numbering.recordIdentity entry.1 entry.2.schemaName entry.2.kind = numbering := by
      unfold recordIdentity
      rw [Ledger.recordIdentity_of_identity? stored]
    have first : numbering.recordAll (entry :: rest) =
        (numbering.recordIdentity entry.1 entry.2.schemaName entry.2.kind).recordAll rest := rfl
    rw [first, same]
    exact ih fun other member => known other (List.mem_cons_of_mem _ member)

theorem keepsNames_recordAll (numbering : Numbering) (records : List (String × ClassRecord)) :
    numbering.ledger.KeepsNames (numbering.recordAll records).ledger := by
  induction records generalizing numbering with
  | nil => exact .refl numbering.ledger
  | cons entry rest ih =>
    have first := numbering.ledger.keepsNames_recordIdentity entry.1 entry.2.schemaName entry.2.kind
    exact first.trans (ih (numbering.recordIdentity entry.1 entry.2.schemaName entry.2.kind))

/-- Whatever is recorded is on record then. -/
theorem identity?_recordAll {records : List (String × ClassRecord)} (numbering : Numbering)
    {entry : String × ClassRecord} (member : entry ∈ records) :
    ∃ record, (numbering.recordAll records).ledger.identity? entry.1 = some record := by
  induction records generalizing numbering with
  | nil => cases member
  | cons first rest ih =>
    rcases List.mem_cons.1 member with rfl | later
    · have stored := Ledger.identity?_recordIdentity numbering.ledger entry.1 entry.2.schemaName
        entry.2.kind entry.1
      rw [if_pos rfl] at stored
      exact ⟨_, keepsNames_recordAll _ rest _ _ stored⟩
    · exact ih _ later

/-- Whatever is not recorded stays as it was. -/
theorem identity?_recordAll_of_notMem {records : List (String × ClassRecord)}
    {path : String} (numbering : Numbering) (unlisted : path ∉ records.map Prod.fst) :
    (numbering.recordAll records).ledger.identity? path = numbering.ledger.identity? path := by
  induction records generalizing numbering with
  | nil => rfl
  | cons entry rest ih =>
    rw [List.map_cons, List.mem_cons, not_or] at unlisted
    have onward := ih (numbering.recordIdentity entry.1 entry.2.schemaName entry.2.kind) unlisted.2
    have first : (numbering.recordIdentity entry.1 entry.2.schemaName entry.2.kind).ledger.identity?
        path = numbering.ledger.identity? path := by
      unfold recordIdentity
      rw [Ledger.identity?_recordIdentity, if_neg unlisted.1]
    exact onward.trans first

end Numbering

namespace Emission

variable {α β : Type}

/-- Work leads from one numbering to another by some writes, and only the files can stop it. -/
def Performs (work : Emission α) (before : Numbering) (value : α) (after : Numbering)
    (writes : List Write) : Prop :=
  ∀ files,
    (∃ final, work ⟨before, files⟩ = (.ok value, ⟨after, final⟩) ∧ files.Takes writes final) ∨
      ∃ failure workshop, work ⟨before, files⟩ = (.error (.file failure), workshop)

namespace Performs

theorem pure (value : α) (numbering : Numbering) :
    Performs (pure value) numbering value numbering [] :=
  fun files => .inl ⟨files, rfl, .refl files⟩

theorem bind {work : Emission α} {next : α → Emission β} {before between after : Numbering}
    {value : α} {result : β} {earlier later : List Write}
    (first : Performs work before value between earlier)
    (second : Performs (next value) between result after later) :
    Performs (work >>= next) before result after (earlier ++ later) := by
  intro files
  rcases first files with ⟨middle, run, took⟩ | ⟨failure, workshop, failed⟩
  · rcases second middle with ⟨final, rest, taken⟩ | ⟨failure, workshop, failed⟩
    · exact .inl ⟨final, Task.bind_eq_ok.2 ⟨value, _, run, rest⟩, took.trans taken⟩
    · exact .inr ⟨failure, workshop, Task.bind_eq_error.2 (.inr ⟨value, _, run, failed⟩)⟩
  · exact .inr ⟨failure, workshop, Task.bind_eq_error.2 (.inl failed)⟩

theorem number {work : Numbered α} {before after : Numbering} {value : α}
    (run : work before = (.ok value, after)) :
    Performs (Emission.number work) before value after [] := by
  intro files
  refine .inl ⟨files, ?_, .refl files⟩
  unfold Emission.number
  rw [run]

theorem writeFile (emitter : Emitter) (location : List String) (file : SchemaFile)
    (action : String) (numbering : Numbering) :
    Performs (emitter.writeFile location file action) numbering (emitter.pathOf location) numbering
      [⟨emitter.pathOf location, file.render.toUTF8⟩] := by
  intro files
  unfold Emitter.writeFile
  rw [Task.bind_apply]
  unfold Emission.file
  dsimp only
  rcases wrote : (FileAction.writeWithParents (emitter.pathOf location)
    file.render.toUTF8).reporting action (emitter.pathOf location) files with ⟨failure | _, final⟩
  · exact .inr ⟨failure, _, rfl⟩
  · have took := FileAction.takes_writeWithParents (FileAction.reporting_eq_ok_iff.1 wrote)
    exact .inl ⟨final, rfl, took⟩

section

variable {work : Emission α} {before after numbering : Numbering} {value result : α}
  {writes : List Write} {files final : FileSystem}

/-- Where the work succeeds, it does so in this way. -/
theorem of_eq_ok (performs : Performs work before value after writes)
    (run : work ⟨before, files⟩ = (.ok result, ⟨numbering, final⟩)) :
    result = value ∧ numbering = after ∧ files.Takes writes final := by
  rcases performs files with ⟨last, same, takes⟩ | ⟨failure, workshop, failed⟩
  · rw [run] at same
    cases same
    exact ⟨rfl, rfl, takes⟩
  · rw [run] at failed
    cases failed

theorem of_eq_error (performs : Performs work before value after writes) {error : EmissionError}
    {workshop : Workshop} (run : work ⟨before, files⟩ = (.error error, workshop)) :
    ∃ failure, error = .file failure := by
  rcases performs files with ⟨last, same, -⟩ | ⟨failure, workshop, failed⟩
  · rw [run] at same
    cases same
  · rw [run] at failed
    cases failed
    exact ⟨failure, rfl⟩

end

end Performs

/-- Emission that puts some classes on record and can be done again: where every id it led to is known
it makes the same writes, and puts the same classes on record. -/
structure Steady (records : List (String × ClassRecord)) (work : Emission α) : Prop where
  extends_ : Task.Keeps Workshop.Extends work
  replays : ∀ {before after : Numbering} {files final : FileSystem} {value : α},
    work ⟨before, files⟩ = (.ok value, ⟨after, final⟩) →
      after.ledger.classes = (before.recordAll records).ledger.classes ∧
        ∃ writes, Performs work before value after writes ∧
          ∀ other : Numbering, after.ledger.KeepsIds other.ledger →
            Performs work other value (other.recordAll records) writes

namespace Steady

theorem pure (value : α) : Steady [] (pure value) where
  extends_ := .pure value
  replays := by
    intro before after files final result run
    cases run
    exact ⟨rfl, [], .pure value before, fun other _ => .pure value other⟩

theorem throw (records : List (String × ClassRecord)) (error : EmissionError) :
    Steady records (throw error : Emission α) where
  extends_ := .throw error
  replays := fun run => (by cases run)

theorem bind {earlier later : List (String × ClassRecord)} {work : Emission α}
    {next : α → Emission β} (first : Steady earlier work)
    (second : ∀ value, Steady later (next value)) : Steady (earlier ++ later) (work >>= next) where
  extends_ := first.extends_.bind fun value => (second value).extends_
  replays := by
    intro before after files final result run
    obtain ⟨value, ⟨between, middle⟩, run, rest⟩ := Task.bind_eq_ok.1 run
    obtain ⟨recorded, writes, performs, again⟩ := first.replays run
    obtain ⟨recorded', writes', performs', again'⟩ := (second value).replays rest
    have grown : between.ledger.KeepsIds after.ledger := ((second value).extends_.of_eq rest).ids
    refine ⟨?_, writes ++ writes', performs.bind performs', fun other known => ?_⟩
    · rw [recorded', Numbering.recordAll_append]
      exact Numbering.classes_recordAll_congr recorded later
    · rw [Numbering.recordAll_append]
      refine (again other (grown.trans known)).bind (again' _ fun key id stored => ?_)
      rw [Numbering.idOf?_recordAll]
      exact known key id stored

theorem number {work : Numbered α} (steady : Numbered.Steady work) :
    Steady [] (Emission.number work) where
  extends_ := Emission.keeps_number steady.extends_ fun _ _ _ step => step
  replays := by
    intro before after files final value run
    obtain ⟨ended, rfl⟩ := number_eq_ok run
    refine ⟨steady.classes.of_eq ended, [], .number ended, fun other known => ?_⟩
    exact .number (steady.replays ended known)

theorem record (path : String) (record : ClassRecord) :
    Steady [(path, record)] (Emission.number (modify fun numbering =>
      numbering.recordIdentity path record.schemaName record.kind)) where
  extends_ := Emission.keeps_number (Task.Keeps.modify fun numbering =>
    numbering.extends_recordIdentity path record.schemaName record.kind) fun _ _ _ step => step
  replays := by
    intro before after files final value run
    cases run
    exact ⟨rfl, [], .number rfl, fun other _ => .number rfl⟩

theorem writeFile (emitter : Emitter) (front : List String) (name : String) (file : SchemaFile)
    (action : String) :
    Steady [] (emitter.writeFile (front ++ [name ++ SchemaFile.ending]) file action) where
  extends_ := emitter.allows_extends.writes front name file action
  replays := by
    intro before after files final value run
    have performs := Performs.writeFile emitter (front ++ [name ++ SchemaFile.ending]) file action
    obtain ⟨rfl, rfl, -⟩ := (performs before).of_eq_ok run
    exact ⟨rfl, _, performs after, fun other _ => performs other⟩

end Steady

end Emission

namespace Emitter

open Emission

theorem emitClass_steady (emitter : Emitter) (node : Node) (schemaName : String) :
    Steady [] (emitter.emitClass node schemaName) := by
  unfold emitClass
  cases node.classKind? with
  | none => exact .throw [] _
  | some kind =>
    refine (Steady.number (ClassFile.build_steady ..)).bind fun file => ?_
    cases kind with
    | root => exact .writeFile emitter [] schemaName file "write schema"
    | subobject => exact .writeFile emitter ["Subobjects"] schemaName file "write schema"

theorem emitLevels_steady (emitter : Emitter) (levels : List Level) :
    Steady [] (emitter.emitLevels levels) := by
  refine (Steady.number (LevelFile.build_steady levels)).bind fun file => ?_
  refine (Steady.writeFile emitter [] "Sublevels/sublevels" file "write sublevel schema").bind
    fun _ => ?_
  exact .pure _

/-- The file of the cull distances is emitted again where the same distances are on record. -/
theorem emitDistances_replays {emitter : Emitter} {distances : SortedSet UInt64}
    {before after : Numbering} {files final : FileSystem} {count : Nat}
    (run : emitter.emitDistances distances ⟨before, files⟩ = (.ok count, ⟨after, final⟩)) :
    after.ledger.classes = before.ledger.classes ∧
      ∃ writes, Performs (emitter.emitDistances distances) before count after writes ∧
        ∀ other : Numbering, after.ledger.KeepsIds other.ledger →
          other.ledger.distances = after.ledger.distances →
            Performs (emitter.emitDistances distances) other count other writes := by
  obtain ⟨file, ⟨numbering, middle⟩, built, rest⟩ := Task.bind_eq_ok.1 run
  obtain ⟨building, -⟩ := Emission.number_eq_ok built
  have writing (other : Numbering) : Performs (do
      let _ ← emitter.writeFile DistanceFile.location file "write distance schema"
      pure file.declarations.length) other file.declarations.length other _ :=
    (Performs.writeFile emitter DistanceFile.location file "write distance schema" other).bind
      (.pure file.declarations.length other)
  obtain ⟨rfl, rfl, -⟩ := (writing numbering).of_eq_ok rest
  have requests := (DistanceFile.requests_steady distances).classes
  refine ⟨(DistanceFile.keeps_build requests).of_eq building, _,
    (Performs.number building).bind (writing after), fun other known distances => ?_⟩
  exact (Performs.number (DistanceFile.build_replays building known distances)).bind (writing other)

end Emitter

end ComponentSchema
