import ComponentSchema.Proofs.Agreement
import ComponentSchema.Proofs.History
import ComponentSchema.Proofs.Lists
import ComponentSchema.Proofs.Pass.Filing
import ComponentSchema.Proofs.Schema.Declaring

/-!
The slots of subobject classes over a series of passes.  A pass declares and reserves as many slots
as its settings say, and what one pass has reserved the later ones keep.  A class is meant to have
no more than `maxSlots` of them, but nobody counts, so the ledger stays within that limit exactly as
long as the settings of every pass do.
-/

namespace ComponentSchema

/-- The most slots that a subobject class is meant to have. -/
def maxSlots : Nat := 32

/-- The components of a file that carry no path. -/
def SchemaFile.slots (file : SchemaFile) : List Declaration :=
  file.declarations.filter fun declaration =>
    declaration.kind == .component && declaration.remark.isNone

namespace ClassFile

theorem slotPath_inj {path path' : String} {number number' : Nat}
    (same : slotPath path number = slotPath path' number') : path = path' ∧ number = number' := by
  have spelled (path : String) (number : Nat) :
      (slotPath path number).toList = path.toList ++ '#' :: Nat.toDigits 10 number := by
    simp [slotPath, Nat.toString_eq_repr, Nat.toList_repr]
  have chars := congrArg String.toList same
  rw [spelled, spelled] at chars
  obtain ⟨paths, numbers⟩ := append_toDigits_inj rfl chars
  exact ⟨String.toList_inj.1 paths, numbers⟩

/-- The components in the file of a class that carry no path are its slots, one in each category for
every number up to the number of slots. -/
theorem slots_filled (ledger : Ledger) (slots : Nat) (schemaName : String) (node : Node) :
    (filled ledger .subobject slots schemaName node).slots =
      (List.range' 1 slots).flatMap fun number => node.categories.map fun category =>
        slotComponent schemaName number category
          (ledger.idOf (.component category (slotPath node.path number))) := by
  have typed : (types .subobject schemaName node).filter (fun declaration =>
      declaration.kind == .component && declaration.remark.isNone) = [] := by
    simp [types, dataType]
  have pathed (places : List (List String × Node)) :
      ((descentOutlines schemaName places).map fun outline => outline.filled ledger).filter
        (fun declaration => declaration.kind == .component && declaration.remark.isNone) = [] := by
    rw [List.filter_eq_nil_iff]
    intro declaration member
    obtain ⟨outline, drawn, rfl⟩ := List.mem_map.1 member
    obtain ⟨place, -, drawn⟩ := List.mem_flatMap.1 drawn
    obtain ⟨category, -, rfl⟩ := List.mem_map.1 drawn
    exact Bool.false_ne_true
  have slotted : (((List.range' 1 slots).flatMap (slotOutlines schemaName node)).map
      fun outline => outline.filled ledger) =
        (List.range' 1 slots).flatMap fun number => node.categories.map fun category =>
          slotComponent schemaName number category
            (ledger.idOf (.component category (slotPath node.path number))) := by
    unfold slotOutlines
    simp only [List.map_flatMap, List.map_map]
    rfl
  unfold SchemaFile.slots filled outlines
  rw [List.filter_append, typed, List.nil_append, List.map_append, List.filter_append, pathed,
    List.append_nil, slotted, List.filter_eq_self]
  intro declaration member
  obtain ⟨number, -, member⟩ := List.mem_flatMap.1 member
  obtain ⟨category, -, rfl⟩ := List.mem_map.1 member
  rfl

end ClassFile

/-- The keys of a class are those of its slots, if it has any, and those of its parts. -/
theorem Node.component_mem_keys_iff {node : Node} {slots : Nat} {category : Category}
    {owner : String} : .component category owner ∈ node.keys slots ↔
      ∃ kind, node.classKind? = some kind ∧
        ((kind = .subobject ∧ category ∈ node.categories ∧
            ∃ number, 1 ≤ number ∧ number ≤ slots ∧ owner = ClassFile.slotPath node.path number) ∨
          ∃ place ∈ ClassFile.parts kind node, place.2.path = owner ∧
            category ∈ place.2.categories) := by
  have own (node : Node) (path : String) : .component category owner ∈ node.ownKeys path ↔
      path = owner ∧ category ∈ node.categories := by
    unfold ownKeys
    simp only [List.mem_map, IdKey.component.injEq]
    constructor
    · rintro ⟨_, listed, rfl, rfl⟩
      exact ⟨rfl, listed⟩
    · rintro ⟨rfl, listed⟩
      exact ⟨category, listed, rfl, rfl⟩
  unfold keys ClassFile.parts
  cases isClass : node.classKind? with
  | none => simp
  | some kind =>
    cases kind with
    | root => simp [List.mem_flatMap, own]
    | subobject =>
      simp only [List.mem_append, List.mem_flatMap, List.mem_range'_1, own, Option.some.injEq,
        exists_eq_left', true_and]
      refine or_congr ⟨?_, ?_⟩ Iff.rfl
      · rintro ⟨number, ⟨low, high⟩, rfl, listed⟩
        exact ⟨listed, number, low, by omega, rfl⟩
      · rintro ⟨listed, number, low, high, rfl⟩
        exact ⟨number, ⟨low, by omega⟩, rfl, listed⟩

/-- No class has more than so many slots on record in any category. -/
def Ledger.SlotsAtMost (ledger : Ledger) (limit : Nat) : Prop :=
  ∀ category path (numbers : Finset Nat),
    (∀ number ∈ numbers, ∃ id,
      ledger.idOf? (.component category (ClassFile.slotPath path number)) = some id) →
    numbers.card ≤ limit

namespace Plan

/-- Passes that succeed one after the other, the latest first, from no ledger or from a reset on.
Each of them finds the ledger as the one before left it. -/
inductive Chronicle : List (Plan × Course) → Prop
  | start : Chronicle []
  | afresh {plan : Plan} {before after : Generator} {report : Report} {course : Course}
    (run : plan.run true before = (.ok report, after))
    (reaches : plan.ReachesSaving true before.queue before.files course) :
    Chronicle [(plan, course)]
  | goesOn {plan : Plan} {before after : Generator} {report : Report} {course : Course}
    {passes : List (Plan × Course)} (earlier : Chronicle passes)
    (finds : plan.Finds before.files HasNone
      (passes.map fun pass => Ledger.savedFile (sealed pass.2)))
    (run : plan.run false before = (.ok report, after))
    (reaches : plan.ReachesSaving false before.queue before.files course) :
    Chronicle ((plan, course) :: passes)

variable {plan : Plan} {reset : Bool} {queue : Option CandidateQueue} {files : FileSystem}
  {course : Course}

/-- The step: what a pass has on record in the end was there before, or it asked for it. -/
theorem ReachesSaving.idOf?_eq_none_iff (reaches : plan.ReachesSaving reset queue files course)
    (key : IdKey) : (sealed course).idOf? key = none ↔
      course.outcome.ledger.idOf? key = none ∧ key ∉ plan.askedKeys course := by
  rw [idOf?_sealed]
  exact reaches.issues_takes.1.idOf?_eq_none_iff key

theorem ledger_of_reset {outcome : LoadOutcome} (loaded : plan.readLedger true files = .ok outcome) :
    outcome.ledger = .fresh := by
  simp only [readLedger, if_true] at loaded
  split at loaded
  · cases loaded
  · cases loaded
    rfl

/-- From a fresh ledger a pass has on record what it asked for. -/
theorem ReachesSaving.isIssued_of_fresh (reaches : plan.ReachesSaving reset queue files course)
    (fresh : course.outcome.ledger = .fresh) : (sealed course).IsIssued ∧ ∀ key,
      (sealed course).idOf? key = none ↔ key ∉ plan.askedKeys course := by
  refine ⟨(reaches.precedes (fresh ▸ Ledger.isIssued_fresh)).2, fun key => ?_⟩
  rw [reaches.idOf?_eq_none_iff, fresh, Ledger.idOf?_fresh]
  exact and_iff_right rfl

/-- The run: what is on record in the end was asked for in one of the passes. -/
theorem Chronicle.idOf?_eq_none_iff {passes : List (Plan × Course)} (chronicle : Chronicle passes) :
    ∀ last ∈ passes.head?, (sealed last.2).IsIssued ∧ ∀ key,
      (sealed last.2).idOf? key = none ↔ ∀ pass ∈ passes, key ∉ pass.1.askedKeys pass.2 := by
  induction chronicle with
  | start => exact fun last none => (by cases none)
  | afresh run reaches =>
    intro last same
    cases same
    simpa using reaches.isIssued_of_fresh (ledger_of_reset reaches.loaded)
  | @goesOn plan before after report course passes earlier finds run reaches ih =>
    intro last same
    cases same
    cases passes with
    | nil =>
      have absent := outcome_of_absent finds reaches.loaded
      have new : course.outcome.ledger = .fresh := by rw [absent]; rfl
      simpa using reaches.isIssued_of_fresh new
    | cons previous others =>
      obtain ⟨issued, recorded⟩ := ih previous rfl
      simp only [List.forall_mem_cons] at recorded ⊢
      rcases outcome_of_read (kept_eq_some_iff.1 finds) reaches.loaded with
        ⟨stale, begun⟩ | ⟨-, -, continued⟩
      · -- what is discarded as stale holds no id
        have new : course.outcome.ledger = .fresh := by rw [begun]; rfl
        obtain ⟨issued', recorded'⟩ := reaches.isIssued_of_fresh new
        refine ⟨issued', fun key => ?_⟩
        rw [recorded', ← recorded]
        exact (and_iff_left (issued.idOf?_of_isStale stale key)).symm
      · have same : course.outcome.ledger = sealed previous.2 := by rw [continued]; rfl
        refine ⟨(reaches.precedes (same ▸ issued)).2, fun key => ?_⟩
        rw [reaches.idOf?_eq_none_iff, same, recorded]
        exact and_comm

/-- A pass lists a subobject class under a path, with fields in a category, and gives it a slot of
that number. -/
def Reserves (pass : Plan × Course) (category : Category) (path : String) (number : Nat) : Prop :=
  ∃ node ∈ pass.2.discovery.classes, node.path = path ∧ node.classKind? = some .subobject ∧
    category ∈ node.categories ∧ 1 ≤ number ∧ number ≤ pass.1.emitter.slots.toNat

/-- A pass lists a root class or a static subobject under a path, with fields in a category. -/
def Bears (pass : Plan × Course) (category : Category) (path : String) : Prop :=
  ∃ node ∈ pass.2.discovery.classes, ∃ kind, node.classKind? = some kind ∧
    ∃ place ∈ ClassFile.parts kind node, place.2.path = path ∧ category ∈ place.2.categories

theorem slot_mem_askedKeys_iff {pass : Plan × Course} {category : Category} {path : String}
    {number : Nat} :
    .component category (ClassFile.slotPath path number) ∈ pass.1.askedKeys pass.2 ↔
      Reserves pass category path number ∨ Bears pass category (ClassFile.slotPath path number) := by
  have asked : .component category (ClassFile.slotPath path number) ∈ pass.1.askedKeys pass.2 ↔
      ∃ node ∈ pass.2.discovery.classes, .component category (ClassFile.slotPath path number) ∈
        node.keys pass.1.emitter.slots.toNat := by
    unfold askedKeys
    simp [LevelFile.outlines]
  rw [asked]
  constructor
  · rintro ⟨node, listed, member⟩
    obtain ⟨kind, isClass, ⟨rfl, fielded, other, low, high, same⟩ | borne⟩ :=
      Node.component_mem_keys_iff.1 member
    · obtain ⟨rfl, rfl⟩ := ClassFile.slotPath_inj same
      exact .inl ⟨node, listed, rfl, isClass, fielded, low, high⟩
    · exact .inr ⟨node, listed, kind, isClass, borne⟩
  · rintro (⟨node, listed, rfl, isClass, fielded, low, high⟩ | ⟨node, listed, kind, isClass, borne⟩)
    · exact ⟨node, listed, Node.component_mem_keys_iff.2
        ⟨.subobject, isClass, .inl ⟨rfl, fielded, number, low, high, rfl⟩⟩⟩
    · exact ⟨node, listed, Node.component_mem_keys_iff.2 ⟨kind, isClass, .inr borne⟩⟩

/-- What passes make of the slots of subobject classes.  The latest one writes as many slots as its
settings say, and on record are the slots that some pass reserved, apart from paths that look like
them. -/
structure KeepsSlots (plan : Plan) (course : Course) (earlier : List (Plan × Course)) : Prop where
  written : plan.WritesFiles course
  declared : ∀ file ∈ plan.filesOf course, file.1.classKind? = some .subobject →
    ∃ record, (sealed course).identity? file.1.path = some record ∧
      file.2.2.slots = (List.range' 1 plan.emitter.slots.toNat).flatMap fun number =>
        file.1.categories.map fun category =>
          ClassFile.slotComponent record.schemaName number category
            ((sealed course).idOf (.component category (ClassFile.slotPath file.1.path number)))
  recorded : ∀ category path number,
    (∃ id, (sealed course).idOf? (.component category (ClassFile.slotPath path number)) = some id) ↔
      ∃ pass ∈ (plan, course) :: earlier, Reserves pass category path number ∨
        Bears pass category (ClassFile.slotPath path number)
  limited : (∀ pass ∈ (plan, course) :: earlier, ∀ category path number,
      ¬Bears pass category (ClassFile.slotPath path number)) →
    ((sealed course).SlotsAtMost maxSlots ↔
      ∀ pass ∈ (plan, course) :: earlier, ∀ node ∈ pass.2.discovery.classes,
        node.classKind? = some .subobject → node.categories ≠ [] →
          pass.1.emitter.slots.toNat ≤ maxSlots)

/-- Whatever is reserved stays in the limit exactly if each pass with something to reserve does. -/
theorem slotsAtMost_iff {ledger : Ledger} {passes : List (Plan × Course)} {limit : Nat}
    (recorded : ∀ category path number,
      (∃ id, ledger.idOf? (.component category (ClassFile.slotPath path number)) = some id) ↔
        ∃ pass ∈ passes, Reserves pass category path number) :
    ledger.SlotsAtMost limit ↔
      ∀ pass ∈ passes, ∀ node ∈ pass.2.discovery.classes, node.classKind? = some .subobject →
        node.categories ≠ [] → pass.1.emitter.slots.toNat ≤ limit := by
  constructor
  · intro atMost pass known node listed isClass fielded
    obtain ⟨category, inside⟩ := List.exists_mem_of_ne_nil _ fielded
    have all := atMost category node.path (Finset.Icc 1 pass.1.emitter.slots.toNat) ?_
    · rwa [Nat.card_Icc, Nat.add_sub_cancel] at all
    · intro number within
      obtain ⟨low, high⟩ := Finset.mem_Icc.1 within
      exact (recorded category node.path number).2
        ⟨pass, known, node, listed, rfl, isClass, inside, low, high⟩
  · intro bounded category path numbers stored
    have within : numbers ⊆ Finset.Icc 1 limit := by
      intro number member
      obtain ⟨pass, known, node, listed, -, isClass, inside, low, high⟩ :=
        (recorded category path number).1 (stored number member)
      have few := bounded pass known node listed isClass (List.ne_nil_of_mem inside)
      exact Finset.mem_Icc.2 ⟨low, high.trans few⟩
    simpa using Finset.card_le_card within

/-- From no ledger on, and whatever the settings of the passes are, the slots that are declared and
recorded are those that the settings ask for.  No class has more than it is meant to have exactly if
no pass with such a class has settings that ask for more. -/
theorem Chronicle.keepsSlots {plan : Plan} {course : Course} {earlier : List (Plan × Course)}
    (chronicle : Chronicle ((plan, course) :: earlier)) : plan.KeepsSlots course earlier := by
  obtain ⟨-, absent⟩ := chronicle.idOf?_eq_none_iff (plan, course) rfl
  have recorded (category : Category) (path : String) (number : Nat) :
      (∃ id, (sealed course).idOf? (.component category (ClassFile.slotPath path number)) =
          some id) ↔
        ∃ pass ∈ (plan, course) :: earlier, Reserves pass category path number ∨
          Bears pass category (ClassFile.slotPath path number) := by
    have key := absent (.component category (ClassFile.slotPath path number))
    simp only [slot_mem_askedKeys_iff] at key
    rw [← Option.isSome_iff_exists, ← not_iff_not, Option.not_isSome_iff_eq_none]
    exact key.trans (by simp only [not_exists, not_and])
  obtain ⟨before, reset, reaches⟩ : ∃ (before : Generator) (reset : Bool),
      plan.ReachesSaving reset before.queue before.files course := by
    cases chronicle with
    | afresh run reaches => exact ⟨_, _, reaches⟩
    | goesOn _ _ run reaches => exact ⟨_, _, reaches⟩
  refine ⟨writesTree_of_emission reaches.emits, fun file member isClass => ?_, recorded, ?_⟩
  · obtain ⟨record, kind, stored, isKind, content⟩ := record_of_mem_classFiles reaches.emits member
    obtain rfl : ClassKind.subobject = kind := Option.some.inj (isClass.symm.trans isKind)
    refine ⟨record, stored, ?_⟩
    have ids : (sealed course).idOf = course.numbering.ledger.idOf :=
      funext fun key => congrArg (·.getD .invalid) (idOf?_sealed course key)
    rw [content, ids]
    exact ClassFile.slots_filled ..
  · intro clear
    refine slotsAtMost_iff fun category path number => (recorded category path number).trans ?_
    refine exists_congr fun pass => and_congr_right fun known => ?_
    exact or_iff_left (clear pass known category path number)

/-- The workroom with one slot more than a class is meant to have. -/
def crowded : Plan :=
  { workroom with
    settings :=
      { workroom.settings with generator := { workroom.settings.generator with slots := 33 } } }

theorem Chronicle.keepsSlots_crowded :
    ∃ course, Chronicle [(crowded, course)] ∧ crowded.KeepsSlots course [] := by
  have succeeds : (crowded.run false {}).1.isOk = true := by decide +kernel
  obtain ⟨report, after, run⟩ := Task.exists_of_isOk succeeds
  obtain ⟨course, reaches, -⟩ := course_of_run run
  have absent : crowded.store.isPresent ∅ = false := by decide +kernel
  have chronicle : Chronicle [(crowded, course)] :=
    @Chronicle.goesOn crowded {} after report course [] .start absent run reaches
  exact ⟨course, chronicle, chronicle.keepsSlots⟩

/-- The settings are accepted all the same. -/
example : crowded.settings.validate.isOk = true ∧ maxSlots < crowded.emitter.slots.toNat := by
  decide

end Plan

end ComponentSchema
