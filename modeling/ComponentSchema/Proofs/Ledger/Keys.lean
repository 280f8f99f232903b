import ComponentSchema.Ledger.Basic
import ComponentSchema.Proofs.SortedMap

/-!
The five maps of a ledger seen as one: an id is assigned to a key, and a key is a path in a category,
a level path or a cull distance.  What a later ledger keeps of an earlier one is said key by key.
-/

namespace ComponentSchema

/-- What an id can be assigned to. -/
inductive IdKey where
  | component (category : Category) (path : String)
  | level (path : String)
  | distance (squared : UInt64)
deriving DecidableEq, Repr

def IdKey.owner : IdKey → String
  | .component _ path => path
  | .level path => path
  | .distance squared => Ledger.distanceOwner squared

namespace Partitions

@[simp]
theorem get_set (partitions : Partitions) (category other : Category)
    (ids : SortedMap String ComponentId) :
    (partitions.set category ids).get other =
      if other = category then ids else partitions.get other := by
  cases category <;> cases other <;> rfl

@[simp]
theorem set_get (partitions : Partitions) (category : Category) :
    partitions.set category (partitions.get category) = partitions := by
  cases category <;> rfl

theorem ext_get {first second : Partitions}
    (same : ∀ category, first.get category = second.get category) : first = second := by
  cases first
  cases second
  exact (Partitions.mk.injEq ..).mpr ⟨same .state, same .ownerRestricted, same .transferable⟩

end Partitions

namespace Ledger

def idOf? (ledger : Ledger) : IdKey → Option ComponentId
  | .component category path => ledger.component? category path
  | .level path => ledger.levels.find? path
  | .distance squared => ledger.distances.find? squared

/-- Every assignment, in the order in which owners are told. -/
def assignments (ledger : Ledger) : List (IdKey × ComponentId) :=
  ledger.components.entries.map (fun entry => (.component entry.1 entry.2.1, entry.2.2)) ++
    ledger.levels.entries.map (fun entry => (.level entry.1, entry.2)) ++
    ledger.distances.entries.map (fun entry => (.distance entry.1, entry.2))

theorem owners_eq_assignments (ledger : Ledger) :
    ledger.owners = ledger.assignments.map fun entry => (entry.2, entry.1.owner) := by
  simp only [owners, assignments, List.map_append, List.map_map]
  rfl

theorem mem_assignments {ledger : Ledger} {key : IdKey} {id : ComponentId} :
    (key, id) ∈ ledger.assignments ↔ ledger.idOf? key = some id := by
  simp only [assignments, List.mem_append, List.mem_map, Partitions.entries, List.mem_flatMap]
  cases key with
  | component category path =>
    simp only [idOf?, component?, SortedMap.find?_eq_some_iff]
    constructor
    · rintro ((⟨entry, ⟨other, -, inner, member, rfl⟩, same⟩ | ⟨entry, -, same⟩) | ⟨entry, -, same⟩)
      · cases same
        exact member
      · cases same
      · cases same
    · intro member
      have listed : category ∈ Category.all := by cases category <;> decide
      exact .inl (.inl ⟨(category, path, id), ⟨category, listed, (path, id), member, rfl⟩, rfl⟩)
  | level path =>
    simp only [idOf?, SortedMap.find?_eq_some_iff]
    constructor
    · rintro ((⟨entry, -, same⟩ | ⟨entry, member, same⟩) | ⟨entry, -, same⟩)
      · cases same
      · cases same
        exact member
      · cases same
    · exact fun member => .inl (.inr ⟨(path, id), member, rfl⟩)
  | distance squared =>
    simp only [idOf?, SortedMap.find?_eq_some_iff]
    constructor
    · rintro ((⟨entry, -, same⟩ | ⟨entry, -, same⟩) | ⟨entry, member, same⟩)
      · cases same
      · cases same
      · cases same
        exact member
    · exact fun member => .inr ⟨(squared, id), member, rfl⟩

/-- No key is assigned an id twice. -/
theorem nodup_assignments (ledger : Ledger) : (ledger.assignments.map Prod.fst).Nodup := by
  have keys : ledger.assignments.map Prod.fst =
      (Category.all.flatMap fun category =>
        (ledger.components.get category).keys.map (.component category)) ++
          ledger.levels.keys.map .level ++ ledger.distances.keys.map .distance := by
    simp only [assignments, Partitions.entries, SortedMap.keys, List.map_append, List.map_map,
      List.map_flatMap]
    rfl
  have components : (Category.all.flatMap fun category =>
      (ledger.components.get category).keys.map (IdKey.component category)).Nodup := by
    refine List.nodup_flatMap.2 ⟨fun category _ => ?_, ?_⟩
    · exact (SortedMap.nodup_keys _).map fun _ _ same => (IdKey.component.inj same).2
    · have apart : Category.all.Pairwise (· ≠ ·) := by decide
      refine apart.imp fun different => List.disjoint_left.2 fun key listed listed' => ?_
      obtain ⟨path, -, rfl⟩ := List.mem_map.1 listed
      obtain ⟨other, -, same⟩ := List.mem_map.1 listed'
      exact different (IdKey.component.inj same).1.symm
  have levels : (ledger.levels.keys.map IdKey.level).Nodup :=
    (SortedMap.nodup_keys _).map fun _ _ same => IdKey.level.inj same
  have distances : (ledger.distances.keys.map IdKey.distance).Nodup :=
    (SortedMap.nodup_keys _).map fun _ _ same => IdKey.distance.inj same
  rw [keys]
  refine (components.append levels ?_).append distances ?_
  · rw [List.disjoint_left]
    rintro key listed listed'
    obtain ⟨category, -, member⟩ := List.mem_flatMap.1 listed
    obtain ⟨path, -, rfl⟩ := List.mem_map.1 member
    simp at listed'
  · rw [List.disjoint_left]
    rintro key listed listed'
    obtain ⟨squared, -, rfl⟩ := List.mem_map.1 listed'
    simp at listed

theorem idOf?_fresh (key : IdKey) : fresh.idOf? key = none := by
  cases key with
  | component category path => cases category <;> rfl
  | level path => rfl
  | distance squared => rfl

/-- The ledger in which a key has an id, whatever it had before. -/
def withId (ledger : Ledger) (key : IdKey) (id : ComponentId) : Ledger :=
  match key with
  | .component category path =>
    { ledger with
      components := ledger.components.set category ((ledger.components.get category).insert path id) }
  | .level path => { ledger with levels := ledger.levels.insert path id }
  | .distance squared => { ledger with distances := ledger.distances.insert squared id }

@[simp]
theorem classes_withId (ledger : Ledger) (key : IdKey) (id : ComponentId) :
    (ledger.withId key id).classes = ledger.classes := by
  cases key <;> rfl

theorem idOf?_withId (ledger : Ledger) (key : IdKey) (id : ComponentId) (other : IdKey) :
    (ledger.withId key id).idOf? other = if other = key then some id else ledger.idOf? other := by
  cases key with
  | component category path =>
    cases other with
    | component another place =>
      simp only [withId, idOf?, component?, Partitions.get_set, IdKey.component.injEq]
      by_cases same : another = category
      · simp only [same, if_true, true_and, SortedMap.find?_insert,
          Std.LawfulEqOrd.compare_eq_iff_eq]
      · simp only [same, false_and, if_false]
    | level place => rfl
    | distance squared => rfl
  | level path =>
    cases other with
    | component another place => rfl
    | level place =>
      simp only [withId, idOf?, SortedMap.find?_insert, Std.LawfulEqOrd.compare_eq_iff_eq,
        IdKey.level.injEq]
    | distance squared => rfl
  | distance squared =>
    cases other with
    | component another place => rfl
    | level place => rfl
    | distance another =>
      simp only [withId, idOf?, SortedMap.find?_insert, Std.LawfulEqOrd.compare_eq_iff_eq,
        IdKey.distance.injEq]

/-- A key that had no id adds one assignment. -/
theorem assignments_withId_perm {ledger : Ledger} {key : IdKey} (fresh : ledger.idOf? key = none)
    (id : ComponentId) :
    (ledger.withId key id).assignments.Perm ((key, id) :: ledger.assignments) := by
  have unlisted (old : ComponentId) : (key, old) ∉ ledger.assignments := by
    rw [mem_assignments, fresh]
    exact Option.some_ne_none old ∘ Eq.symm
  refine (List.perm_ext_iff_of_nodup ((nodup_assignments _).of_map _)
    (List.nodup_cons.2 ⟨unlisted id, (nodup_assignments _).of_map _⟩)).2 ?_
  rintro ⟨other, given⟩
  rw [mem_assignments, idOf?_withId, List.mem_cons, mem_assignments, Prod.mk.injEq]
  by_cases same : other = key
  · subst same
    simp [fresh, eq_comm]
  · simp [same]

def KeepsIds (earlier later : Ledger) : Prop :=
  ∀ key id, earlier.idOf? key = some id → later.idOf? key = some id

/-- A later ledger has every record of a class that an earlier one has. -/
def KeepsNames (earlier later : Ledger) : Prop :=
  ∀ path record, earlier.identity? path = some record → later.identity? path = some record

theorem KeepsIds.refl (ledger : Ledger) : ledger.KeepsIds ledger := fun _ _ stored => stored

theorem KeepsIds.trans {first second third : Ledger} (earlier : first.KeepsIds second)
    (later : second.KeepsIds third) : first.KeepsIds third :=
  fun key id stored => later key id (earlier key id stored)

theorem KeepsNames.refl (ledger : Ledger) : ledger.KeepsNames ledger := fun _ _ stored => stored

theorem KeepsNames.trans {first second third : Ledger} (earlier : first.KeepsNames second)
    (later : second.KeepsNames third) : first.KeepsNames third :=
  fun path record stored => later path record (earlier path record stored)

/-- Ledgers with the same ids have the same maps of ids. -/
theorem maps_eq_of_idOf? {first second : Ledger}
    (same : ∀ key, first.idOf? key = second.idOf? key) :
    first.components = second.components ∧ first.levels = second.levels ∧
      first.distances = second.distances :=
  ⟨Partitions.ext_get fun category => SortedMap.ext_find? fun path => same (.component category path),
    SortedMap.ext_find? fun path => same (.level path),
    SortedMap.ext_find? fun squared => same (.distance squared)⟩

@[simp]
theorem idOf?_recordIdentity (ledger : Ledger) (path schemaName : String) (kind : ClassKind)
    (key : IdKey) : (ledger.recordIdentity path schemaName kind).idOf? key = ledger.idOf? key := by
  cases key <;> rfl

theorem identity?_recordIdentity (ledger : Ledger) (path schemaName : String) (kind : ClassKind)
    (other : String) :
    (ledger.recordIdentity path schemaName kind).identity? other =
      if other = path then some ((ledger.identity? path).getD ⟨schemaName, kind⟩)
      else ledger.identity? other := by
  simp only [recordIdentity, identity?, SortedMap.find?_insertIfNew,
    Std.LawfulEqOrd.compare_eq_iff_eq]

/-- An identity on record is not recorded again. -/
theorem recordIdentity_of_identity? {ledger : Ledger} {path schemaName : String} {kind : ClassKind}
    {record : ClassRecord} (known : ledger.identity? path = some record) :
    ledger.recordIdentity path schemaName kind = ledger := by
  have stored : ledger.classes.contains path = true := SortedMap.contains_iff.2 ⟨record, known⟩
  simp only [recordIdentity, SortedMap.insertIfNew, stored, if_true]

theorem keepsNames_recordIdentity (ledger : Ledger) (path schemaName : String) (kind : ClassKind) :
    ledger.KeepsNames (ledger.recordIdentity path schemaName kind) := by
  intro other record stored
  rw [identity?_recordIdentity]
  split
  next same => rw [← same, stored, Option.getD_some]
  next different => exact stored

end Ledger

end ComponentSchema
