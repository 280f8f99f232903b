import Mathlib
import ComponentSchema.SortedMap

/-!
What a sorted map answers after it was changed.  A map is settled by its answers, so later modules
compare maps question by question and never look at their entries.
-/

namespace ComponentSchema.SortedMap

variable {κ α : Type} [Ord κ]

@[simp]
theorem find?_empty (key : κ) : (∅ : SortedMap κ α).find? key = none := rfl

theorem contains_iff {map : SortedMap κ α} {key : κ} :
    map.contains key = true ↔ ∃ value, map.find? key = some value :=
  Option.isSome_iff_exists

variable [Std.TransOrd κ] [Std.LawfulEqOrd κ]

theorem findEntry_eq_some_iff {key : κ} {value : α} {entries : List (κ × α)}
    (ascending : entries.Pairwise fun first second => compare first.1 second.1 = .lt) :
    findEntry key entries = some value ↔ (key, value) ∈ entries := by
  induction entries with
  | nil => simp [findEntry]
  | cons first rest ih =>
    obtain ⟨before, ordered⟩ := List.pairwise_cons.1 ascending
    have later (entry : κ × α) (member : entry ∈ rest) (same : entry.1 = key) :
        compare key first.1 = .gt := by
      rw [← same]
      exact Std.OrientedCmp.gt_of_lt (before entry member)
    simp only [findEntry, List.mem_cons]
    split
    next less =>
      have other : (key, value) ≠ first := fun same => by
        rw [← same, Std.ReflOrd.compare_self] at less
        exact Ordering.noConfusion less
      have absent : (key, value) ∉ rest := fun member => by
        rw [later _ member rfl] at less
        exact Ordering.noConfusion less
      simp [other, absent]
    next equal =>
      have keys : key = first.1 := Std.LawfulEqOrd.eq_of_compare equal
      have absent : (key, value) ∉ rest := fun member => by
        rw [later _ member rfl] at equal
        exact Ordering.noConfusion equal
      rw [or_iff_left absent, Option.some.injEq, Prod.ext_iff, eq_comm]
      simp only [keys, true_and]
    next greater =>
      have other : (key, value) ≠ first := fun same => by
        rw [← same, Std.ReflOrd.compare_self] at greater
        exact Ordering.noConfusion greater
      simp [other, ih ordered]

theorem findEntry_insertEntry (key other : κ) (value : α) (entries : List (κ × α))
    (ascending : entries.Pairwise fun first second => compare first.1 second.1 = .lt) :
    findEntry other (insertEntry key value entries) =
      if compare other key = .eq then some value else findEntry other entries := by
  induction entries with
  | nil =>
    simp only [insertEntry, findEntry]
    cases compare other key <;> rfl
  | cons first rest ih =>
    obtain ⟨before, ordered⟩ := List.pairwise_cons.1 ascending
    unfold insertEntry
    split
    next less =>
      cases order : compare other key with
      | lt => simp [findEntry, order, Std.TransCmp.lt_trans order less]
      | eq => simp [findEntry, order]
      | gt => simp [findEntry, order]
    next equal =>
      have keys : key = first.1 := Std.LawfulEqOrd.eq_of_compare equal
      subst keys
      cases order : compare other first.1 <;> simp [findEntry, order]
    next greater =>
      simp only [findEntry, ih ordered]
      cases order : compare other first.1 with
      | lt =>
        have less : compare other key = .lt :=
          Std.TransCmp.lt_trans order (Std.OrientedCmp.lt_of_gt greater)
        simp [less]
      | eq =>
        have keys : other = first.1 := Std.LawfulEqOrd.eq_of_compare order
        have less : compare other key = .lt := keys ▸ Std.OrientedCmp.lt_of_gt greater
        simp [less]
      | gt => simp

theorem find?_eq_some_iff {map : SortedMap κ α} {key : κ} {value : α} :
    map.find? key = some value ↔ (key, value) ∈ map.entries :=
  findEntry_eq_some_iff map.ascending

theorem find?_insert (map : SortedMap κ α) (key other : κ) (value : α) :
    (map.insert key value).find? other =
      if compare other key = .eq then some value else map.find? other :=
  findEntry_insertEntry key other value map.entries map.ascending

@[simp]
theorem find?_insert_self (map : SortedMap κ α) (key : κ) (value : α) :
    (map.insert key value).find? key = some value := by
  simp [find?_insert]

theorem find?_insert_ne (map : SortedMap κ α) {key other : κ} (value : α) (different : other ≠ key) :
    (map.insert key value).find? other = map.find? other := by
  rw [find?_insert, if_neg]
  exact fun same => different (Std.LawfulEqOrd.eq_of_compare same)

/-- Two maps that answer every question alike have the same entries. -/
theorem ext_find? {first second : SortedMap κ α}
    (same : ∀ key, first.find? key = second.find? key) : first = second := by
  have members (entry : κ × α) : entry ∈ first.entries ↔ entry ∈ second.entries := by
    have stored : entry ∈ first.entries ↔ first.find? entry.1 = some entry.2 :=
      find?_eq_some_iff.symm
    rw [stored, same entry.1, find?_eq_some_iff]
  have irreflexive (entry : κ × α) : compare entry.1 entry.1 ≠ .lt := by simp
  have distinct (map : SortedMap κ α) : map.entries.Nodup := by
    refine map.ascending.imp fun {left right} less equal => ?_
    exact irreflexive left (equal ▸ less)
  apply SortedMap.ext
  refine List.Perm.eq_of_pairwise ?_ first.ascending second.ascending
    ((List.perm_ext_iff_of_nodup (distinct first) (distinct second)).2 members)
  intro left right _ _ less greater
  exact absurd (Std.TransCmp.lt_trans less greater) (irreflexive left)

theorem find?_insertIfNew (map : SortedMap κ α) (key other : κ) (value : α) :
    (map.insertIfNew key value).find? other =
      if compare other key = .eq then some ((map.find? key).getD value) else map.find? other := by
  unfold insertIfNew contains
  cases stored : map.find? key with
  | none => simp only [Option.isSome_none, Bool.false_eq_true, if_false, find?_insert,
      Option.getD_none]
  | some old =>
    simp only [Option.isSome_some, if_true, Option.getD_some]
    split
    next same => rw [Std.LawfulEqOrd.eq_of_compare same, stored]
    next different => rfl

theorem find?_filter (map : SortedMap κ α) (keep : κ → α → Bool) (key : κ) :
    (map.filter keep).find? key = (map.find? key).filter (keep key) := by
  apply Option.ext
  intro value
  rw [find?_eq_some_iff, Option.filter_eq_some_iff, find?_eq_some_iff]
  simp [filter, List.mem_filter]

theorem isEmpty_iff {map : SortedMap κ α} : map.isEmpty = true ↔ ∀ key, map.find? key = none := by
  unfold isEmpty
  constructor
  · intro none key
    rw [List.isEmpty_iff] at none
    simp [find?, none, findEntry]
  · intro none
    rw [List.isEmpty_iff, List.eq_nil_iff_forall_not_mem]
    intro entry member
    have stored : map.find? entry.1 = some entry.2 := find?_eq_some_iff.2 member
    rw [none] at stored
    cases stored

theorem mem_keys {map : SortedMap κ α} {key : κ} :
    key ∈ map.keys ↔ ∃ value, map.find? key = some value := by
  simp only [keys, List.mem_map, find?_eq_some_iff]
  constructor
  · rintro ⟨⟨_, value⟩, member, rfl⟩
    exact ⟨value, member⟩
  · rintro ⟨value, member⟩
    exact ⟨(key, value), member, rfl⟩

omit [Std.TransOrd κ] [Std.LawfulEqOrd κ] in
theorem ascending_keys (map : SortedMap κ α) :
    map.keys.Pairwise fun first second => compare first second = .lt :=
  List.pairwise_map.2 map.ascending

omit [Std.TransOrd κ] in
theorem nodup_keys (map : SortedMap κ α) : map.keys.Nodup := by
  refine map.ascending_keys.imp fun less equal => ?_
  rw [equal, Std.ReflOrd.compare_self] at less
  cases less

section OfList

theorem find?_foldl_insert_of_notMem (entries : List (κ × α)) (map : SortedMap κ α) {key : κ}
    (absent : ∀ entry ∈ entries, entry.1 ≠ key) :
    (entries.foldl (fun map entry => map.insert entry.1 entry.2) map).find? key =
      map.find? key := by
  induction entries generalizing map with
  | nil => rfl
  | cons first rest ih =>
    rw [List.foldl_cons, ih _ fun entry member => absent entry (List.mem_cons_of_mem _ member)]
    exact find?_insert_ne map first.2 (absent first List.mem_cons_self).symm

theorem find?_foldl_insert_of_mem (entries : List (κ × α)) (map : SortedMap κ α)
    (distinct : entries.Pairwise fun first second => first.1 ≠ second.1) {entry : κ × α}
    (member : entry ∈ entries) :
    (entries.foldl (fun map entry => map.insert entry.1 entry.2) map).find? entry.1 =
      some entry.2 := by
  induction entries generalizing map with
  | nil => exact absurd member List.not_mem_nil
  | cons first rest ih =>
    obtain ⟨different, others⟩ := List.pairwise_cons.1 distinct
    rw [List.foldl_cons]
    rcases List.mem_cons.1 member with same | later
    · subst same
      rw [find?_foldl_insert_of_notMem rest _ fun other later => (different other later).symm]
      exact find?_insert_self map entry.1 entry.2
    · exact ih _ others later

theorem find?_ofList {entries : List (κ × α)}
    (distinct : entries.Pairwise fun first second => first.1 ≠ second.1) {key : κ} {value : α} :
    (ofList entries).find? key = some value ↔ (key, value) ∈ entries := by
  constructor
  · intro stored
    by_contra absent
    by_cases known : ∃ entry ∈ entries, entry.1 = key
    · obtain ⟨entry, member, rfl⟩ := known
      have found := find?_foldl_insert_of_mem entries ∅ distinct member
      rw [ofList, found] at stored
      exact absent (Option.some.inj stored ▸ member)
    · rw [ofList, find?_foldl_insert_of_notMem entries ∅
        fun entry member same => known ⟨entry, member, same⟩] at stored
      cases stored
  · exact fun member => find?_foldl_insert_of_mem entries ∅ distinct member

/-- A map of entries with different keys has all of them and no others. -/
theorem entries_ofList_perm {entries : List (κ × α)}
    (distinct : entries.Pairwise fun first second => first.1 ≠ second.1) :
    (ofList entries).entries.Perm entries := by
  have keys : (entries.map Prod.fst).Nodup := List.pairwise_map.2 distinct
  refine (List.perm_ext_iff_of_nodup ((nodup_keys _).of_map _) (keys.of_map _)).2 ?_
  rintro ⟨key, value⟩
  rw [← find?_eq_some_iff, find?_ofList distinct]

/-- Entries in ascending order are the entries of the map made of them. -/
@[simp]
theorem ofList_entries (map : SortedMap κ α) : ofList map.entries = map := by
  have distinct : map.entries.Pairwise fun first second => first.1 ≠ second.1 := by
    refine map.ascending.imp fun less equal => ?_
    rw [equal, Std.ReflOrd.compare_self] at less
    exact Ordering.noConfusion less
  apply ext_find?
  intro key
  apply Option.ext
  intro value
  rw [find?_ofList distinct, find?_eq_some_iff]

end OfList

end ComponentSchema.SortedMap
