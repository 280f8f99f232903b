import ComponentSchema.Proofs.Pass.Content
import ComponentSchema.Proofs.Schema.Printing

/-!
The files of classes, each beside its class.  Such a file follows from the class and the ledger that
emission leads to: the schema name is the one that is on record there, and so are the ids.
-/

namespace ComponentSchema

namespace Draft

def filed (emitter : Emitter) (ledger : Ledger) (named : List (Node × String)) :
    List (Node × List String × SchemaFile) :=
  named.filterMap fun entry =>
    entry.1.classKind?.map fun kind => (entry.1, emitter.classEntry ledger kind entry.2 entry.1)

theorem snd_filed (emitter : Emitter) (ledger : Ledger) (named : List (Node × String)) :
    (filed emitter ledger named).map Prod.snd = entries emitter ledger named := by
  unfold filed entries
  simp only [List.map_filterMap, Option.map_map, Function.comp_def]

theorem fst_filed (emitter : Emitter) (ledger : Ledger) {named : List (Node × String)}
    (classes : ∀ entry ∈ named, entry.1.classKind?.isSome = true) :
    (filed emitter ledger named).map Prod.fst = named.map Prod.fst := by
  rw [List.map_eq_flatMap, List.map_eq_flatMap]
  exact flatMap_filterMap_classKind? classes fun _ _ _ => rfl

theorem of_mem_filed {emitter : Emitter} {ledger : Ledger} {named : List (Node × String)}
    {file : Node × List String × SchemaFile} (member : file ∈ filed emitter ledger named) :
    ∃ name kind, (file.1, name) ∈ named ∧ file.1.classKind? = some kind ∧
      file.2 = emitter.classEntry ledger kind name file.1 := by
  obtain ⟨entry, listed, made⟩ := List.mem_filterMap.1 member
  obtain ⟨kind, isClass, rfl⟩ := Option.map_eq_some_iff.1 made
  exact ⟨entry.2, kind, listed, isClass, rfl⟩

end Draft

/-- Classes with the files that emission writes for them, given the ledger it starts from and the one it
leads to. -/
def Emitter.classFiles (emitter : Emitter) (start final : Ledger) (classes : List Node) :
    List (Node × List String × SchemaFile) :=
  Draft.filed emitter final ((Draft.ofLedger start).named classes)

/-- The files that belong to no class: of the levels, and of the cull distances. -/
def worldFiles (final : Ledger) (levels : List Level) : List (List String × SchemaFile) :=
  [(LevelFile.location, LevelFile.filled final levels),
    (DistanceFile.location, DistanceFile.filled final)]

/-- The tree gets one file for each class and those of the world, and nothing else. -/
structure Emitter.WritesTree (emitter : Emitter) (start final : Ledger) (classes : List Node)
    (levels : List Level) (prepared written : FileSystem) : Prop where
  listed : (emitter.classFiles start final classes).map Prod.fst = classes
  takes : prepared.Takes (((emitter.classFiles start final classes).map Prod.snd ++
    worldFiles final levels).map emitter.writeOf) written

namespace Plan

def filesOf (plan : Plan) (course : Course) : List (Node × List String × SchemaFile) :=
  plan.emitter.classFiles course.outcome.ledger course.numbering.ledger course.discovery.classes

def WritesFiles (plan : Plan) (course : Course) : Prop :=
  plan.emitter.WritesTree course.outcome.ledger course.numbering.ledger course.discovery.classes
    course.levels course.prepared course.written

variable {plan : Plan} {ledger : Ledger} {classes : List Node} {levels : List Level}
  {files final : FileSystem} {made : Draft × Nat × Nat} {after : Numbering}

theorem writesTree_of_emission (run : plan.emission ledger classes levels
      ⟨.ofLedger ledger, files⟩ = (.ok made, ⟨after, final⟩)) :
    plan.emitter.WritesTree ledger after.ledger classes levels files final := by
  constructor
  · unfold Emitter.classFiles
    rw [Draft.fst_filed, Draft.fst_named]
    intro entry member
    apply isSome_classKind?_of_emission run
    rw [← (Draft.ofLedger ledger).fst_named classes]
    exact List.mem_map_of_mem member
  · unfold Emitter.classFiles
    rw [Draft.snd_filed]
    exact (emission_issues_takes run).2

/-- The file of a class is the one that its record and the ids on record call for. -/
theorem record_of_mem_classFiles (run : plan.emission ledger classes levels
      ⟨.ofLedger ledger, files⟩ = (.ok made, ⟨after, final⟩))
    {file : Node × List String × SchemaFile}
    (member : file ∈ plan.emitter.classFiles ledger after.ledger classes) :
    ∃ record kind, after.ledger.identity? file.1.path = some record ∧
      file.1.classKind? = some kind ∧
      file.2 = plan.emitter.classEntry after.ledger kind record.schemaName file.1 := by
  obtain ⟨name, kind, named, isClass, content⟩ := Draft.of_mem_filed member
  obtain ⟨record, stored, rfl⟩ := Draft.identity?_of_mem_named (.ofLedger ledger)
    (isSome_classKind?_of_emission run) (NameRegistry.agrees_ofLedger ledger) named
  exact ⟨record, kind, (identity?_of_emission run _).trans stored, isClass, content⟩

/-- Every file of a course has its declarations in its text. -/
theorem ReachesCompiling.isPrinted {reset : Bool} {queue : Option CandidateQueue} {files : FileSystem}
    {course : Course} (reaches : plan.ReachesCompiling reset queue files course) :
    ∀ entry ∈ (plan.filesOf course).map Prod.snd ++ worldFiles course.numbering.ledger course.levels,
      entry.2.IsPrinted := by
  have faultless := (Validation.check_eq_ok_iff.1 reaches.validated).1.1
  have listed := (writesTree_of_emission reaches.emits).listed
  rw [List.forall_mem_append, List.forall_mem_map]
  constructor
  · intro file member
    obtain ⟨name, kind, -, -, content⟩ := Draft.of_mem_filed member
    have inside : file.1 ∈ course.discovery.classes := by
      rw [← listed]
      exact List.mem_map_of_mem member
    rw [content]
    exact ClassFile.isPrinted_filled (faultless file.1 inside) _
  · intro entry member
    unfold worldFiles at member
    rcases List.mem_pair.1 member with rfl | rfl
    · exact LevelFile.isPrinted_filled _ _
    · exact DistanceFile.isPrinted_filled _

end Plan

end ComponentSchema
