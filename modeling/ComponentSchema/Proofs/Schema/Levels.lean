import ComponentSchema.Proofs.SortedMap
import ComponentSchema.Proofs.Lists
import ComponentSchema.Schema.WorldFiles

/-!
The order of the level components.  Grouped by component name, with their paths in order inside each
group, the levels come in the order of their component names and paths.
-/

namespace ComponentSchema

namespace Level

def place (level : Level) : String × String := (level.componentName, level.path)

/-- Places of levels are ordered by name, and then by path. -/
def placeOrder : String × String → String × String → Ordering :=
  compareLex (compareOn Prod.fst) (compareOn Prod.snd)

instance : Std.TransCmp placeOrder :=
  inferInstanceAs (Std.TransCmp (compareLex (compareOn Prod.fst) (compareOn Prod.snd)))

theorem eq_of_placeOrder {first second : String × String}
    (same : placeOrder first second = .eq) : first = second := by
  obtain ⟨names, paths⟩ := compareLex_eq_eq.1 same
  exact Prod.ext (Std.LawfulEqOrd.eq_of_compare names) (Std.LawfulEqOrd.eq_of_compare paths)

/-- Levels are ordered by component name, and then by path. -/
def order : Level → Level → Ordering :=
  compareLex (compareOn Level.componentName) (compareOn Level.path)

instance : Std.TransCmp order :=
  inferInstanceAs (Std.TransCmp (compareLex (compareOn Level.componentName) (compareOn Level.path)))

/-- Levels in the order of their component names and paths. -/
def inOrder (levels : List Level) : List Level :=
  levels.mergeSort fun first second => (order first second).isLE

end Level

namespace LevelFile

/-- The places of the levels, group by group. -/
def places (levels : List Level) : List (String × String) :=
  (groups levels).entries.flatMap fun group => group.2.keys.map fun path => (group.1, path)

theorem paths_groupNames (name : String) (paths : List String) :
    (groupNames name paths).map Prod.snd = paths := by
  unfold groupNames
  split
  next =>
    apply List.ext_getElem?
    intro place
    simp
  next => simp

theorem paths_names (levels : List Level) :
    (names levels).map Prod.snd = (places levels).map Prod.snd := by
  unfold names places
  simp only [List.map_flatMap, paths_groupNames, List.map_map, Function.comp_def, List.map_id']

theorem find?_groups (levels : List Level) (name path : String) :
    (((groups levels).find? name).getD ∅).find? path = some () ↔
      ∃ level ∈ levels, level.place = (name, path) := by
  have grouped (groups : SortedMap String (SortedSet String)) :
      (((levels.foldl (fun groups level => groups.update level.componentName ∅ (·.insert level.path ()))
        groups).find? name).getD ∅).find? path = some () ↔
          ((groups.find? name).getD ∅).find? path = some () ∨
            ∃ level ∈ levels, level.place = (name, path) := by
    induction levels generalizing groups with
    | nil => simp
    | cons level rest ih =>
      rw [List.foldl_cons, ih, SortedMap.update, SortedMap.find?_insert]
      simp only [Std.LawfulEqOrd.compare_eq_iff_eq, List.exists_mem_cons_iff, ← or_assoc]
      refine or_congr_left ?_
      by_cases named : name = level.componentName
      · subst named
        rw [if_pos rfl, Option.getD_some, SortedMap.find?_insert]
        simp only [Std.LawfulEqOrd.compare_eq_iff_eq, Level.place, Prod.mk.injEq, true_and]
        by_cases here : path = level.path
        · simp [here]
        · simp [here, Ne.symm here]
      · rw [if_neg named]
        simp [Level.place, Ne.symm named]
  unfold groups
  rw [grouped]
  exact or_iff_right (by simp [EmptyCollection.emptyCollection, SortedMap.empty, SortedMap.find?,
    SortedMap.findEntry])

theorem mem_places {levels : List Level} {place : String × String} :
    place ∈ places levels ↔ ∃ level ∈ levels, level.place = place := by
  obtain ⟨name, path⟩ := place
  rw [← find?_groups]
  unfold places
  simp only [List.mem_flatMap, List.mem_map, Prod.mk.injEq, SortedMap.mem_keys]
  constructor
  · rintro ⟨⟨_, paths⟩, listed, _, ⟨_, stored⟩, rfl, rfl⟩
    rw [SortedMap.find?_eq_some_iff.2 listed, Option.getD_some]
    exact stored
  · intro stored
    cases known : (groups levels).find? name with
    | none =>
      rw [known] at stored
      cases stored
    | some paths =>
      rw [known, Option.getD_some] at stored
      exact ⟨(name, paths), SortedMap.find?_eq_some_iff.1 known, path, ⟨(), stored⟩, rfl, rfl⟩

theorem ascending_places (levels : List Level) :
    (places levels).Pairwise fun first second => Level.placeOrder first second = .lt := by
  unfold places
  rw [List.pairwise_flatMap]
  constructor
  · intro group listed
    rw [List.pairwise_map]
    refine group.2.ascending_keys.imp fun {first second} less => ?_
    simp only [Level.placeOrder, compareLex, compareOn, Std.ReflOrd.compare_self]
    exact less
  · refine (groups levels).ascending.imp fun {first second} less => ?_
    intro one listed other listed'
    obtain ⟨path, -, rfl⟩ := List.mem_map.1 listed
    obtain ⟨path', -, rfl⟩ := List.mem_map.1 listed'
    simp only [Level.placeOrder, compareLex, compareOn, less]
    rfl

/-- Where no path is listed twice, the components of the levels come in the order of their names and
paths. -/
theorem paths_names_eq {levels : List Level} (distinct : (levels.map Level.path).Nodup) :
    (names levels).map Prod.snd = (Level.inOrder levels).map Level.path := by
  have sorted := Sorting.pairwise_mergeSort Level.order levels
  -- both lists are in order and hold the same places
  have same : places levels = (Level.inOrder levels).map Level.place := by
    refine Sorting.eq_of_perm Level.placeOrder (fun _ _ _ _ => Level.eq_of_placeOrder) ?_ ?_ ?_
    · refine (ascending_places levels).imp fun less => ?_
      rw [less]
      rfl
    · exact List.pairwise_map.2 sorted
    · have listed := List.mergeSort_perm levels fun first second =>
        (Level.order first second).isLE
      have once : (places levels).Nodup := by
        refine (ascending_places levels).imp fun {first second} less same => ?_
        have self : Level.placeOrder second second = .eq := Std.ReflCmp.compare_self
        rw [same, self] at less
        cases less
      have once' : ((Level.inOrder levels).map Level.place).Nodup := by
        refine List.Nodup.of_map Prod.snd ?_
        rw [List.map_map]
        exact (listed.map Level.path).nodup_iff.2 distinct
      rw [List.perm_ext_iff_of_nodup once once']
      intro place
      rw [mem_places, List.mem_map]
      simp only [Level.inOrder, listed.mem_iff]
  rw [paths_names, same, List.map_map]
  rfl

end LevelFile

end ComponentSchema
