import ComponentSchema.Proofs.Declarations
import ComponentSchema.Proofs.Schema.Reading

/-!
What the host's texts do to the schema files.  Names are made of letters and digits before they are
written, but paths and types are written as they are, and validation looks at neither.  The text of
a file tells its blocks exactly if none of them has a line break.
-/

namespace ComponentSchema

theorem Field.isOneLine_declaredType {field : Field} :
    IsOneLine field.declaredType ↔ IsOneLine field.type := by
  unfold declaredType
  split
  next =>
    rw [isOneLine_append, isOneLine_append]
    have before : IsOneLine "list<" := by decide
    have behind : IsOneLine ">" := by decide
    simp only [before, behind, true_and, and_true]
  next => rfl

theorem Field.types_members (fields : List Field) :
    (members fields).filterMap Statement.type? = fields.map declaredType := by
  unfold members
  rw [List.mapIdx_eq_zipIdx_map, List.filterMap_map]
  have each : Statement.type? ∘ (fun entry : Field × Nat =>
      Statement.member entry.1.declaredType entry.1.schemaName (entry.2 + 1)) =
        some ∘ (declaredType ∘ Prod.fst) := rfl
  rw [each, List.filterMap_eq_map, ← List.map_map, List.zipIdx_map_fst]

namespace Node

/-- What a file takes over from a node, for each category in which it has fields. -/
def texts (node : Node) : List String :=
  node.categories.flatMap fun category =>
    node.path :: (node.fields category).map Field.declaredType

/-- No path of a node with fields and no type of those fields has a line break. -/
def FitsLines (node : Node) : Prop :=
  ∀ category ∈ node.categories,
    IsOneLine node.path ∧ ∀ field ∈ node.fields category, IsOneLine field.type

theorem forall_texts_iff {node : Node} : (∀ raw ∈ node.texts, IsOneLine raw) ↔ node.FitsLines := by
  unfold texts FitsLines
  simp only [List.forall_mem_flatMap, List.forall_mem_cons, List.forall_mem_map,
    Field.isOneLine_declaredType]

end Node

namespace ClassFile

theorem rawTexts_types (schemaName : String) (node : Node) :
    (node.categories.map (dataType schemaName node)).flatMap Declaration.rawTexts = node.texts := by
  rw [List.flatMap_map]
  refine List.flatMap_congr fun category _ => ?_
  rw [Declaration.rawTexts, dataType, Field.types_members]
  rfl

theorem rawTexts_descent (ledger : Ledger) (schemaName : String)
    (places : List (List String × Node)) :
    ((descentOutlines schemaName places).map fun outline => outline.filled ledger).flatMap
        Declaration.rawTexts = places.flatMap fun place => place.2.texts := by
  unfold descentOutlines ownOutlines
  rw [List.flatMap_map, List.flatMap_assoc]
  refine List.flatMap_congr fun place _ => ?_
  rw [List.flatMap_map]
  refine List.flatMap_congr fun category _ => ?_
  rw [Declaration.rawTexts, Outline.filled, Outline.declared, List.filterMap_cons_none rfl,
    Field.types_members]
  rfl

/-- Slots take over nothing but the names of the data types. -/
theorem isOneLine_of_mem_slots (ledger : Ledger) (slots : Nat) (node : Node) {schemaName : String}
    (word : IsWord schemaName) :
    ∀ raw ∈ (((List.range' 1 slots).flatMap (slotOutlines schemaName node)).map
      fun outline => outline.filled ledger).flatMap Declaration.rawTexts, IsOneLine raw := by
  simp only [List.forall_mem_flatMap, List.forall_mem_map]
  intro slot _ outline drawn raw member
  obtain ⟨category, -, rfl⟩ := List.mem_map.1 drawn
  obtain rfl := List.mem_singleton.1 member
  have plain : IsPlain "Data" := List.all_eq_true.1 (by decide)
  exact ((word.append category.isPlain_suffix).append plain).plain.isOneLine

/-- What the file of a class takes over fits on lines exactly if it does in all nodes of the
class. -/
theorem forall_rawTexts_filled_iff {ledger : Ledger} {kind : ClassKind} {slots : Nat}
    {schemaName : String} {node : Node} (word : IsWord schemaName) :
    (∀ raw ∈ (filled ledger kind slots schemaName node).rawTexts, IsOneLine raw) ↔
      ∀ place ∈ node.descent [], place.2.FitsLines := by
  have inside (places : List (List String × Node)) :
      (∀ raw ∈ places.flatMap fun place => place.2.texts, IsOneLine raw) ↔
        ∀ place ∈ places, place.2.FitsLines := by
    rw [List.forall_mem_flatMap]
    exact forall₂_congr fun place _ => Node.forall_texts_iff
  unfold SchemaFile.rawTexts filled
  rw [List.flatMap_append]
  cases kind with
  | root =>
    unfold types outlines
    rw [rawTexts_descent]
    exact inside _
  | subobject =>
    unfold types outlines
    dsimp only
    have slotted := isOneLine_of_mem_slots ledger slots node word
    rw [List.map_append, List.flatMap_append, rawTexts_types, rawTexts_descent,
      List.forall_mem_append, List.forall_mem_append, inside, Node.forall_texts_iff, Node.descent_eq,
      List.forall_mem_cons]
    exact and_congr_right fun _ => and_iff_right slotted

end ClassFile

namespace LevelFile

theorem forall_rawTexts_filled_iff {ledger : Ledger} {levels : List Level} :
    (∀ raw ∈ (filled ledger levels).rawTexts, IsOneLine raw) ↔
      ∀ level ∈ levels, IsOneLine level.path := by
  have taken : (filled ledger levels).rawTexts = (names levels).map Prod.snd := by
    unfold filled SchemaFile.rawTexts outlines
    rw [List.flatMap_map, List.flatMap_map, List.map_eq_flatMap]
    rfl
  rw [taken, paths_names, List.forall_mem_map]
  constructor
  · exact fun each level listed => each level.place (mem_places.2 ⟨level, listed, rfl⟩)
  · intro each place member
    obtain ⟨level, listed, rfl⟩ := mem_places.1 member
    exact each level listed

end LevelFile

theorem DistanceFile.isOneLine_of_mem_rawTexts {ledger : Ledger} :
    ∀ raw ∈ (filled ledger).rawTexts, IsOneLine raw := by
  unfold filled SchemaFile.rawTexts
  simp only [List.forall_mem_flatMap, List.forall_mem_map]
  intro entry _ raw member
  obtain rfl := List.mem_singleton.1 member
  rw [isOneLine_append]
  exact ⟨by decide, isOneLine_toString _⟩

namespace SchemaFile

/-- A file for one of the classes, for the levels or for the cull distances, whose text gives it
back exactly if no path and no type in what it was made for has a line break. -/
inductive TellsBlocks (slots : Nat) (classes : List Node) (levels : List Level) :
    List String → SchemaFile → Prop
  | ofClass {node : Node} {kind : ClassKind} {schemaName : String} {ledger : Ledger}
    (listed : node ∈ classes) (isClass : node.classKind? = some kind) (word : IsWord schemaName)
    (reads : (ClassFile.filled ledger kind slots schemaName node).ReadsBack ↔
      ∀ place ∈ node.descent [], place.2.FitsLines) :
    TellsBlocks slots classes levels (ClassFile.location kind schemaName)
      (ClassFile.filled ledger kind slots schemaName node)
  | ofLevels {ledger : Ledger} (reads : (LevelFile.filled ledger levels).ReadsBack ↔
      ∀ level ∈ levels, IsOneLine level.path) :
    TellsBlocks slots classes levels LevelFile.location (LevelFile.filled ledger levels)
  | ofDistances {ledger : Ledger} (reads : (DistanceFile.filled ledger).ReadsBack) :
    TellsBlocks slots classes levels DistanceFile.location (DistanceFile.filled ledger)

/-- Packages and names of a file that fits are made of words. -/
theorem Fits.isLegible {slots : Nat} {classes : List Node} {location : List String}
    {file : SchemaFile} (fits : Fits slots classes location file) : file.IsLegible := by
  have legible (package : IsOneLine file.package) (worded : file.IsWorded) : file.IsLegible := by
    refine ⟨package, fun declaration member => (worded.declarations declaration member).plain,
      fun declaration member statement stated => ?_⟩
    cases statement with
    | id value => trivial
    | member type name number =>
      exact (worded.members declaration member type name number stated).plain
  cases fits with
  | ofClass listed isClass package segment worded declares printed =>
    refine legible ?_ worded
    rw [package, isOneLine_append]
    exact ⟨by decide, segment.plain.isOneLine⟩
  | ofWorld place worded bare printed =>
    refine legible ?_ worded
    simp only [List.mem_cons, Prod.mk.injEq, List.not_mem_nil, or_false] at place
    rcases place with ⟨-, named⟩ | ⟨-, named⟩ <;> rw [named] <;> decide

theorem tellsBlocks_of_isMade {slots : Nat} {classes : List Node} {levels : List Level}
    {location : List String} {file : SchemaFile}
    (validated : Validation.check classes levels = .ok ())
    (made : IsMade slots classes levels location file) :
    TellsBlocks slots classes levels location file := by
  have reads := readsBack_iff (fits_of_isMade validated made).isLegible
  cases made with
  | ofClass listed isClass word =>
    exact .ofClass listed isClass word (reads.trans (ClassFile.forall_rawTexts_filled_iff word))
  | ofLevels => exact .ofLevels (reads.trans LevelFile.forall_rawTexts_filled_iff)
  | ofDistances => exact .ofDistances (reads.2 DistanceFile.isOneLine_of_mem_rawTexts)

end SchemaFile

namespace Plan

/-- Whatever the passes before it were, and as far as it gets, a pass over a valid graph writes
files that tell their blocks exactly as long as no path and no type from the host has a line
break. -/
theorem writesTelling_of_history {resets : Bool} {saved : List (Option ByteArray)}
    (history : History resets HasNone saved) {plan : Plan} {reset : Bool}
    {queue : Option CandidateQueue} {files : FileSystem} {course : Course}
    (finds : plan.Finds files HasNone saved)
    (reaches : plan.ReachesEmitting reset queue files course) (generator : Generator) :
    plan.emitter.Writes (SchemaFile.TellsBlocks plan.emitter.slots.toNat course.discovery.classes
        course.levels) (plan.emitter.prepare generator.files).2
      (plan.emit course.outcome.ledger course.discovery.classes course.levels generator).2.files :=
  Emitter.writes_mono (fun _ _ => SchemaFile.tellsBlocks_of_isMade reaches.validated)
    (writesMade_of_history history finds reaches generator)

end Plan

/-- A class whose path breaks off its line and opens a block on the next one. -/
def Node.torn : Node :=
  (rootClass "/A.Door\ncomponent Gate \x7b" "Door").withFields .state
    [{ path := "/A.Door:Open", name := "Open", type := "bool" }]

def Plan.torn : Plan :=
  { small with source := { small.source with classes := .ok [Node.torn] } }

theorem Plan.writesTelling_of_history_torn :
    ∃ course, torn.Finds ∅ HasNone [] ∧ torn.ReachesEmitting false none ∅ course ∧
      torn.emitter.Writes (SchemaFile.TellsBlocks torn.emitter.slots.toNat course.discovery.classes
          course.levels) (torn.emitter.prepare ∅).2
        (torn.emit course.outcome.ledger course.discovery.classes course.levels {}).2.files := by
  have succeeds : (torn.run false {}).1.isOk = true := by decide +kernel
  obtain ⟨report, after, run⟩ := Task.exists_of_isOk succeeds
  obtain ⟨course, reaches, -⟩ := course_of_run run
  have absent : torn.store.isPresent ∅ = false := by decide +kernel
  have history : FreshHistory [] := .start
  exact ⟨course, absent, reaches.toReachesEmitting,
    writesTelling_of_history history absent reaches.toReachesEmitting {}⟩

/-- Its file cannot be read back: the second line of the path stands where the header should. -/
example : (Validation.check [Node.torn] []).isOk = true ∧
    SchemaFile.ofText? (ClassFile.filled .fresh .root 0 "Door" Node.torn).render = none := by
  decide +kernel

end ComponentSchema
