import ComponentSchema.Proofs.Ledger.Integrity
import ComponentSchema.Proofs.Task

/-!
The index of a ledger, made anew.  It is the assignments read backwards: where no two keys share an id,
every id on record leads to its owner, and nothing else is in the index, whatever it held before.
-/

namespace ComponentSchema.Ledger

variable {ledger : Ledger}

theorem length_assignments (ledger : Ledger) : ledger.assignments.length =
    ledger.components.size + ledger.levels.size + ledger.distances.size := by
  simp only [assignments, Partitions.entries, Partitions.size, SortedMap.size, List.length_append,
    List.length_map, List.length_flatMap, Category.all, List.map_cons, List.map_nil, List.sum_cons,
    List.sum_nil, Partitions.get, Nat.add_zero, Nat.add_assoc]

/-- The entries of an index that was made anew are the assignments, each turned around. -/
theorem entries_index_rebuildIndex_perm (distinct : (ledger.owners.map Prod.fst).Nodup) :
    ledger.rebuildIndex.index.entries.Perm
      (ledger.assignments.map fun assigned => (assigned.2, assigned.1.owner)) := by
  rw [← owners_eq_assignments]
  exact SortedMap.entries_ofList_perm (List.pairwise_map.1 distinct)

/-- In an index that was made anew every id leads to its owner, and no other id leads anywhere. -/
theorem find?_index_rebuildIndex (distinct : (ledger.owners.map Prod.fst).Nodup) {id : ComponentId}
    {owner : String} : ledger.rebuildIndex.index.find? id = some owner ↔
      ∃ key, ledger.idOf? key = some id ∧ key.owner = owner := by
  rw [SortedMap.find?_eq_some_iff, (entries_index_rebuildIndex_perm distinct).mem_iff, List.mem_map]
  constructor
  · rintro ⟨⟨key, _⟩, assigned, same⟩
    cases same
    exact ⟨key, mem_assignments.1 assigned, rfl⟩
  · rintro ⟨key, stored, rfl⟩
    exact ⟨(key, id), mem_assignments.2 stored, rfl⟩

/-- An index is the inverse of the assignments of a ledger: it has one entry for each, which leads from
the id to the path or the distance that it is assigned to, and no other. -/
structure Inverts (ledger : Ledger) (index : SortedMap ComponentId String) : Prop where
  component : ∀ category path id, ledger.component? category path = some id →
    index.find? id = some path
  level : ∀ path id, ledger.levels.find? path = some id → index.find? id = some path
  distance : ∀ squared id, ledger.distances.find? squared = some id →
    index.find? id = some ("distance:" ++ toString squared.toNat)
  only : ∀ id owner, index.find? id = some owner → ∃ key, ledger.idOf? key = some id
  size : index.size = ledger.components.size + ledger.levels.size + ledger.distances.size

namespace Inverts

variable {index other : SortedMap ComponentId String}

theorem find?_owner (inverts : ledger.Inverts index) {key : IdKey} {id : ComponentId}
    (stored : ledger.idOf? key = some id) : index.find? id = some key.owner := by
  cases key with
  | component category path => exact inverts.component category path id stored
  | level path => exact inverts.level path id stored
  | distance squared => exact inverts.distance squared id stored

/-- There is only one such index. -/
theorem unique (inverts : ledger.Inverts index) (inverts' : ledger.Inverts other) : index = other := by
  have leads {one another : SortedMap ComponentId String} (inverts : ledger.Inverts one)
      (inverts' : ledger.Inverts another) {id : ComponentId} {owner : String}
      (found : one.find? id = some owner) : another.find? id = some owner := by
    obtain ⟨key, stored⟩ := inverts.only id owner found
    rw [inverts.find?_owner stored] at found
    rw [inverts'.find?_owner stored, found]
  apply SortedMap.ext_find?
  intro id
  apply Option.ext
  exact fun owner => ⟨leads inverts inverts', leads inverts' inverts⟩

end Inverts

theorem inverts_rebuildIndex (distinct : (ledger.owners.map Prod.fst).Nodup) :
    ledger.Inverts ledger.rebuildIndex.index where
  component category path id stored :=
    (find?_index_rebuildIndex distinct).2 ⟨.component category path, stored, rfl⟩
  level path id stored := (find?_index_rebuildIndex distinct).2 ⟨.level path, stored, rfl⟩
  distance squared id stored :=
    (find?_index_rebuildIndex distinct).2 ⟨.distance squared, stored, rfl⟩
  only id owner found := by
    obtain ⟨key, stored, -⟩ := (find?_index_rebuildIndex distinct).1 found
    exact ⟨key, stored⟩
  size := by
    rw [← length_assignments, SortedMap.size,
      (entries_index_rebuildIndex_perm distinct).length_eq, List.length_map]

/-- Making the index of a sound ledger anew leads to the one index that is the inverse of the
assignments, whatever index there was; it changes nothing else, and done again nothing at all. -/
theorem rebuildIndex_inverts (passed : ledger.checkIntegrity = .ok ()) :
    ledger.Inverts ledger.rebuildIndex.index ∧
      (∀ index, ledger.Inverts index → index = ledger.rebuildIndex.index) ∧
      ledger.rebuildIndex = { ledger with index := ledger.rebuildIndex.index } ∧
      (∀ held, { ledger with index := held }.rebuildIndex = ledger.rebuildIndex) ∧
      ledger.rebuildIndex.rebuildIndex = ledger.rebuildIndex := by
  obtain ⟨⟨-, distinct⟩, -⟩ := checkIntegrity_eq_ok_iff.1 passed
  have inverts := inverts_rebuildIndex distinct
  exact ⟨inverts, fun index inverts' => inverts'.unique inverts, rfl, fun _ => rfl, rfl⟩

/-- A ledger with an assignment in each of its maps, and an index of something else. -/
def misindexed : Ledger :=
  { fresh with
    nextId := ⟨10005⟩
    components :=
      { state := .ofList [("/A.Door", ⟨10000⟩)]
        ownerRestricted := .ofList [("/A.Door", ⟨10003⟩)]
        transferable := .ofList [("/A.Door#1", ⟨10001⟩)] }
    levels := .ofList [("/A.Door", ⟨10002⟩)]
    distances := .ofList [(900, ⟨10004⟩)]
    index := .ofList [(⟨10002⟩, "/A.Gate"), (⟨10009⟩, "/A.Gate")] }

theorem rebuildIndex_inverts_misindexed :
    misindexed.checkIntegrity = .ok () ∧
      misindexed.Inverts misindexed.rebuildIndex.index ∧
      (∀ index, misindexed.Inverts index → index = misindexed.rebuildIndex.index) ∧
      misindexed.rebuildIndex = { misindexed with index := misindexed.rebuildIndex.index } ∧
      (∀ held, { misindexed with index := held }.rebuildIndex = misindexed.rebuildIndex) ∧
      misindexed.rebuildIndex.rebuildIndex = misindexed.rebuildIndex := by
  have passed : misindexed.checkIntegrity = .ok () := Task.eq_ok_of_isOk (by decide +kernel)
  exact ⟨passed, rebuildIndex_inverts passed⟩

example : misindexed.rebuildIndex.index.entries =
    [(⟨10000⟩, "/A.Door"), (⟨10001⟩, "/A.Door#1"), (⟨10002⟩, "/A.Door"), (⟨10003⟩, "/A.Door"),
      (⟨10004⟩, "distance:900")] := by
  decide +kernel

end ComponentSchema.Ledger
