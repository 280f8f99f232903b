import ComponentSchema.Proofs.History
import ComponentSchema.Proofs.Pass.Content
import ComponentSchema.Proofs.Schema.Levels

/-!
The ids in a schema tree.  A component is known by its key, and two components have one id exactly if
they have one key.  Levels and cull distances never share a key, so the ids of a tree are distinct exactly
if no category of a class, slot or static subobject comes twice under one path.
-/

namespace ComponentSchema

def Declaration.id? (declaration : Declaration) : Option ComponentId :=
  declaration.statements.findSome? fun statement =>
    match statement with
    | .id value => some value
    | .member _ _ _ => none

namespace SchemaFile

def componentIds (file : SchemaFile) : List ComponentId :=
  (file.declarations.filter fun declaration => declaration.kind == .component).filterMap
    Declaration.id?

theorem componentIds_append (package : String) (first second : List Declaration) :
    componentIds ⟨package, first ++ second⟩ =
      componentIds ⟨package, first⟩ ++ componentIds ⟨package, second⟩ := by
  unfold componentIds
  rw [List.filter_append, List.filterMap_append]

theorem componentIds_filled (package : String) (outlines : List Outline) (ledger : Ledger) :
    componentIds ⟨package, outlines.map fun outline => outline.filled ledger⟩ =
      (outlines.map Outline.key).map ledger.idOf := by
  unfold componentIds
  induction outlines with
  | nil => rfl
  | cons outline rest ih => exact congrArg (ledger.idOf outline.key :: ·) ih

theorem componentIds_types (package : String) (kind : ClassKind) (schemaName : String) (node : Node) :
    componentIds ⟨package, ClassFile.types kind schemaName node⟩ = [] := by
  unfold componentIds ClassFile.types
  cases kind with
  | root => rfl
  | subobject =>
    induction node.categories with
    | nil => rfl
    | cons category rest ih => exact ih

end SchemaFile

theorem ClassFile.componentIds_filled {kind : ClassKind} {node : Node}
    (isClass : node.classKind? = some kind) (ledger : Ledger) (slots : Nat) (schemaName : String) :
    (filled ledger kind slots schemaName node).componentIds =
      (node.keys slots).map ledger.idOf := by
  rw [filled, SchemaFile.componentIds_append, SchemaFile.componentIds_types, List.nil_append,
    SchemaFile.componentIds_filled, keys_outlines isClass]

/-- The file of the cull distances gives every distance on record its id. -/
theorem DistanceFile.componentIds_filled (ledger : Ledger) :
    (filled ledger).componentIds = (ledger.distances.keys.map .distance).map ledger.idOf := by
  have ids : (filled ledger).componentIds = ledger.distances.entries.map Prod.snd := by
    unfold SchemaFile.componentIds filled
    induction ledger.distances.entries with
    | nil => rfl
    | cons entry rest ih => exact congrArg (entry.2 :: ·) ih
  rw [ids, SortedMap.keys, List.map_map, List.map_map]
  refine List.map_congr_left fun entry listed => ?_
  have stored : ledger.idOf? (.distance entry.1) = some entry.2 :=
    SortedMap.find?_eq_some_iff.2 listed
  exact (Ledger.idOf_of_idOf? stored).symm

/-- Classes have components only. -/
theorem Node.component_of_mem_keys {node : Node} {slots : Nat} {key : IdKey}
    (member : key ∈ node.keys slots) : ∃ category path, key = .component category path := by
  have owned {node : Node} {owner : String} (member : key ∈ node.ownKeys owner) :
      ∃ category path, key = .component category path := by
    obtain ⟨category, -, rfl⟩ := List.mem_map.1 member
    exact ⟨category, owner, rfl⟩
  unfold keys at member
  split at member
  next => cases member
  next =>
    obtain ⟨place, -, member⟩ := List.mem_flatMap.1 member
    exact owned member
  next =>
    rcases List.mem_append.1 member with dynamic | static
    · obtain ⟨slot, -, member⟩ := List.mem_flatMap.1 dynamic
      exact owned member
    · obtain ⟨place, -, member⟩ := List.mem_flatMap.1 static
      exact owned member

namespace Draft

theorem componentIds_entries (emitter : Emitter) (ledger : Ledger) {named : List (Node × String)}
    (classes : ∀ entry ∈ named, entry.1.classKind?.isSome = true) :
    ((entries emitter ledger named).flatMap fun entry => entry.2.componentIds) =
      ((named.map Prod.fst).flatMap (Node.keys emitter.slots.toNat)).map ledger.idOf := by
  rw [List.flatMap_map, List.map_flatMap]
  exact flatMap_filterMap_classKind? classes fun entry _ isClass =>
    ClassFile.componentIds_filled isClass ledger emitter.slots.toNat entry.2

end Draft

namespace Plan

/-- The keys of all components in the tree of a course: of classes, of levels, and of all cull distances
on record. -/
def componentKeys (plan : Plan) (course : Course) : List IdKey :=
  course.discovery.classes.flatMap (Node.keys plan.emitter.slots.toNat) ++
    ((LevelFile.outlines course.levels).map Outline.key ++
      course.numbering.ledger.distances.keys.map .distance)

variable {plan : Plan} {reset : Bool} {queue : Option CandidateQueue} {files : FileSystem}
  {course : Course}

theorem ReachesCompiling.componentIds (reaches : plan.ReachesCompiling reset queue files course) :
    ((plan.schemaFiles course).flatMap fun entry => entry.2.componentIds) =
      (plan.componentKeys course).map course.numbering.ledger.idOf := by
  have ids := Draft.componentIds_entries plan.emitter course.numbering.ledger
    reaches.isSome_classKind?
  rw [Draft.fst_named] at ids
  have levels := SchemaFile.componentIds_filled "unreal.sublevels"
    (LevelFile.outlines course.levels) course.numbering.ledger
  unfold schemaFiles componentKeys
  rw [List.flatMap_append, ids, List.map_append, List.map_append]
  simp only [List.flatMap_cons, List.flatMap_nil, List.append_nil]
  rw [DistanceFile.componentIds_filled, ← levels]
  rfl

/-- Every component of the tree is on record. -/
theorem ReachesCompiling.exists_idOf? (reaches : plan.ReachesCompiling reset queue files course)
    {key : IdKey} (listed : key ∈ plan.componentKeys course) :
    ∃ id, course.numbering.ledger.idOf? key = some id := by
  obtain ⟨issues, -⟩ := reaches.issues_takes
  rcases List.mem_append.1 listed with asked | rest
  · exact issues.stored (List.mem_append_left _ asked)
  · rcases List.mem_append.1 rest with asked | recorded
    · exact issues.stored (List.mem_append_right _ (List.mem_append_left _ asked))
    · -- distances of earlier passes are not asked for
      obtain ⟨distance, known, rfl⟩ := List.mem_map.1 recorded
      exact SortedMap.mem_keys.1 known

/-- Every component of the tree has an id of its own, unless it shares its key. -/
theorem ReachesCompiling.idOf_inj (reaches : plan.ReachesCompiling reset queue files course)
    {first second : IdKey} (listed : first ∈ plan.componentKeys course)
    (listed' : second ∈ plan.componentKeys course)
    (same : course.numbering.ledger.idOf first = course.numbering.ledger.idOf second) :
    first = second := by
  obtain ⟨issues, -⟩ := reaches.issues_takes
  have sound := isSound_of_readLedger reaches.loaded
  obtain ⟨id, one⟩ := reaches.exists_idOf? listed
  obtain ⟨id', other⟩ := reaches.exists_idOf? listed'
  rw [Ledger.idOf_of_idOf? one, Ledger.idOf_of_idOf? other] at same
  subst same
  exact issues.distinct (fun key id known => UInt32.lt_iff_toNat_lt.1 (sound.below key id known))
    sound.distinct one other

/-- Levels and cull distances have keys of their own. -/
theorem ReachesEmitting.nodup_componentKeys_iff
    (reaches : plan.ReachesEmitting reset queue files course) :
    (plan.componentKeys course).Nodup ↔
      (course.discovery.classes.flatMap (Node.keys plan.emitter.slots.toNat)).Nodup := by
  have paths := (Validation.check_eq_ok_iff.1 reaches.validated).2.2
  have levels : ((LevelFile.outlines course.levels).map Outline.key).Nodup := by
    have once : ((LevelFile.names course.levels).map Prod.snd).Nodup := by
      rw [LevelFile.paths_names_eq paths]
      exact ((List.mergeSort_perm course.levels _).map Level.path).nodup_iff.2 paths
    unfold LevelFile.outlines
    rw [List.map_map]
    have keys := once.map (f := IdKey.level) fun _ _ same => IdKey.level.inj same
    rwa [List.map_map] at keys
  have distances : (course.numbering.ledger.distances.keys.map IdKey.distance).Nodup :=
    (SortedMap.nodup_keys _).map fun _ _ same => IdKey.distance.inj same
  have rest : ((LevelFile.outlines course.levels).map Outline.key ++
      course.numbering.ledger.distances.keys.map IdKey.distance).Nodup := by
    refine levels.append distances (List.disjoint_left.2 fun key listed listed' => ?_)
    obtain ⟨outline, member, rfl⟩ := List.mem_map.1 listed
    obtain ⟨named, -, rfl⟩ := List.mem_map.1 member
    obtain ⟨distance, -, same⟩ := List.mem_map.1 listed'
    cases same
  unfold componentKeys
  refine ⟨fun whole => (List.nodup_append.1 whole).1, fun classes => ?_⟩
  refine classes.append rest (List.disjoint_left.2 fun key owned other => ?_)
  obtain ⟨node, -, member⟩ := List.mem_flatMap.1 owned
  obtain ⟨category, path, rfl⟩ := Node.component_of_mem_keys member
  rcases List.mem_append.1 other with level | distance
  · obtain ⟨outline, member, same⟩ := List.mem_map.1 level
    obtain ⟨named, -, rfl⟩ := List.mem_map.1 member
    cases same
  · obtain ⟨distance, -, same⟩ := List.mem_map.1 distance
    cases same

/-- The components that a pass writes to the schema tree have distinct ids exactly if no category of a
class, a slot or a static subobject comes twice under one path. -/
theorem ReachesCompiling.nodup_componentIds_iff
    (reaches : plan.ReachesCompiling reset queue files course) :
    course.prepared.Takes ((plan.schemaFiles course).map plan.emitter.writeOf) course.written ∧
      (((plan.schemaFiles course).flatMap fun entry => entry.2.componentIds).Nodup ↔
        (course.discovery.classes.flatMap (Node.keys plan.emitter.slots.toNat)).Nodup) := by
  refine ⟨reaches.issues_takes.2, ?_⟩
  rw [reaches.componentIds, ← reaches.nodup_componentKeys_iff]
  constructor
  · exact List.Nodup.of_map _
  · intro distinct
    exact distinct.map_on fun first listed second listed' same =>
      reaches.idOf_inj listed listed' same

/-- A valid graph may still ask for one key twice: the slot of a class goes by a path that another class
may have. -/
def armoury : List Node :=
  let field : Field := { path := "/A.Gun:Ammo", name := "Ammo", type := "bool" }
  [(Node.subobjectClass "/A.Gun" "Gun").withFields .state [field],
    (Node.rootClass "/A.Gun#1" "Other").withFields .state [field]]

theorem exists_saves_armoury : ∃ ledger after,
    (site armoury []).Saves {} (.reset .missing) ledger after := by
  have start : (site armoury []).readLedger false ∅ = .ok (.reset .missing) :=
    readLedger_of_absent (by decide +kernel)
  have succeeds : ((site armoury []).saves (.reset .missing) (Candidates.ofListed armoury) []
      ∅).1.isSome = true := by decide +kernel
  obtain ⟨ledger, leads⟩ := Option.isSome_iff_exists.1 succeeds
  obtain ⟨after, saved, -⟩ := exists_saves_site (by decide +kernel) start leads
  exact ⟨ledger, after, saved⟩

/-- The tool, its slots and its grip have ids of their own, the slot of the gun shares the id of the other
class. -/
theorem ReachesCompiling.nodup_componentIds_iff_armoury :
    (∃ files course, equipping.ReachesCompiling false none files course ∧
      course.prepared.Takes ((equipping.schemaFiles course).map equipping.emitter.writeOf)
        course.written ∧
      (((equipping.schemaFiles course).flatMap fun entry => entry.2.componentIds).Nodup ↔
        (course.discovery.classes.flatMap (Node.keys equipping.emitter.slots.toNat)).Nodup) ∧
      ((equipping.schemaFiles course).flatMap fun entry => entry.2.componentIds).Nodup) ∧
    ∃ course, (site armoury []).ReachesCompiling false none ∅ course ∧
      course.prepared.Takes (((site armoury []).schemaFiles course).map
        (site armoury []).emitter.writeOf) course.written ∧
      ((((site armoury []).schemaFiles course).flatMap fun entry => entry.2.componentIds).Nodup ↔
        (course.discovery.classes.flatMap
          (Node.keys (site armoury []).emitter.slots.toNat)).Nodup) ∧
      ¬(((site armoury []).schemaFiles course).flatMap fun entry => entry.2.componentIds).Nodup := by
  constructor
  · obtain ⟨first, second, _, -, equipped, -⟩ := exists_saves_growing
    obtain ⟨course, reaches, -, -⟩ := equipped.reaches
    obtain ⟨classes, -⟩ := classes_of_site (by decide +kernel) reaches.toReachesEmitting
    obtain ⟨written, iff⟩ := ReachesCompiling.nodup_componentIds_iff reaches.toReachesCompiling
    refine ⟨first.files, course, reaches.toReachesCompiling, written, iff, iff.2 ?_⟩
    rw [classes]
    decide +kernel
  · obtain ⟨ledger, after, saved⟩ := exists_saves_armoury
    obtain ⟨course, reaches, -, -⟩ := saved.reaches
    obtain ⟨classes, -⟩ := classes_of_site (by decide +kernel) reaches.toReachesEmitting
    obtain ⟨written, iff⟩ := ReachesCompiling.nodup_componentIds_iff reaches.toReachesCompiling
    refine ⟨course, reaches.toReachesCompiling, written, iff, fun distinct => ?_⟩
    rw [iff, classes] at distinct
    exact absurd distinct (by decide +kernel)

end Plan

end ComponentSchema
