import ComponentSchema.Proofs.Graph.Validation
import ComponentSchema.Proofs.Identifier
import ComponentSchema.Proofs.Schema.Content
import ComponentSchema.Proofs.Schema.Levels
import ComponentSchema.Proofs.Schema.Printing

/-!
The names of the level components.  Levels that ask for one name are told apart by the place of their
path among them, and the names so made are all distinct; but a level that asks for a name of its own
keeps it even where it is spelled like one of those.
-/

namespace ComponentSchema

namespace LevelFile

/-- The name of the level at some place among those that ask for one name. -/
def indexed (name : String) (index : Nat) : String := name ++ "Ind" ++ toString index

theorem indexed_inj {name name' : String} {index index' : Nat}
    (same : indexed name index = indexed name' index') : name = name' ∧ index = index' := by
  have spelled (name : String) (index : Nat) : (indexed name index).toList =
      (name.toList ++ ['I', 'n']) ++ 'd' :: Nat.toDigits 10 index := by
    simp [indexed, Nat.toString_eq_repr, Nat.toList_repr]
  have chars := congrArg String.toList same
  rw [spelled, spelled] at chars
  obtain ⟨fronts, indices⟩ := append_toDigits_inj rfl chars
  exact ⟨String.toList_inj.1 (List.append_cancel_right fronts), indices⟩

variable {levels : List Level}

/-- The paths of the levels that ask for a name, in ascending order. -/
def pathsOf (levels : List Level) (name : String) : List String :=
  (((groups levels).find? name).getD ∅).keys

def sharers (levels : List Level) (name : String) : Nat :=
  levels.countP fun level => level.componentName == name

/-- The name that is written for the level at some place among those that ask for one name. -/
def written (levels : List Level) (name : String) (index : Nat) : String :=
  if 1 < (pathsOf levels name).length then indexed name index else name

theorem mem_pathsOf {name path : String} :
    path ∈ pathsOf levels name ↔ ∃ level ∈ levels, level.place = (name, path) := by
  rw [← find?_groups, pathsOf, SortedMap.mem_keys]
  exact ⟨fun ⟨_, stored⟩ => stored, fun stored => ⟨(), stored⟩⟩

theorem mem_groupNames {wanted name path : String} {paths : List String} :
    (name, path) ∈ groupNames wanted paths ↔
      ∃ index, paths[index]? = some path ∧
        name = if 1 < paths.length then indexed wanted index else wanted := by
  unfold groupNames
  by_cases shared : 1 < paths.length
  · simp only [gt_iff_lt, shared, if_true, List.mem_mapIdx, Prod.mk.injEq]
    constructor
    · rintro ⟨index, bound, rfl, rfl⟩
      exact ⟨index, List.getElem?_eq_getElem bound, rfl⟩
    · rintro ⟨index, here, rfl⟩
      obtain ⟨bound, rfl⟩ := List.getElem?_eq_some_iff.1 here
      exact ⟨index, bound, rfl, rfl⟩
  · simp only [gt_iff_lt, shared, if_false, List.mem_map, Prod.mk.injEq]
    constructor
    · rintro ⟨path, listed, rfl, rfl⟩
      obtain ⟨index, here⟩ := List.mem_iff_getElem?.1 listed
      exact ⟨index, here, rfl⟩
    · rintro ⟨index, here, rfl⟩
      exact ⟨path, List.mem_of_getElem? here, rfl, rfl⟩

theorem mem_names {name path : String} :
    (name, path) ∈ names levels ↔
      ∃ wanted index, (pathsOf levels wanted)[index]? = some path ∧
        name = written levels wanted index := by
  unfold names
  rw [List.mem_flatMap]
  constructor
  · rintro ⟨⟨wanted, paths⟩, listed, member⟩
    obtain ⟨index, here, rfl⟩ := mem_groupNames.1 member
    have own : pathsOf levels wanted = paths.keys := by
      rw [pathsOf, SortedMap.find?_eq_some_iff.2 listed, Option.getD_some]
    refine ⟨wanted, index, ?_, ?_⟩
    · rw [own]
      exact here
    · rw [written, own]
  · rintro ⟨wanted, index, here, rfl⟩
    cases known : (groups levels).find? wanted with
    | none =>
      rw [pathsOf, known] at here
      cases here
    | some paths =>
      have own : pathsOf levels wanted = paths.keys := by
        rw [pathsOf, known, Option.getD_some]
      rw [own] at here
      refine ⟨(wanted, paths), SortedMap.find?_eq_some_iff.1 known, mem_groupNames.2 ⟨index, here, ?_⟩⟩
      rw [written, own]

/-- No level that alone asks for its name asks for one that is made for another level. -/
def KeepsApart (levels : List Level) : Prop :=
  ∀ own shared index, sharers levels own = 1 → 1 < sharers levels shared →
    index < sharers levels shared → own ≠ indexed shared index

section

variable (distinct : (levels.map Level.path).Nodup)

include distinct

theorem eq_of_path {first second : Level} (listed : first ∈ levels) (listed' : second ∈ levels)
    (same : first.path = second.path) : first = second :=
  List.inj_on_of_nodup_map distinct listed listed' same

theorem length_pathsOf (name : String) : (pathsOf levels name).length = sharers levels name := by
  have once : ((levels.filter fun level => level.componentName == name).map Level.path).Nodup :=
    distinct.sublist (List.filter_sublist.map Level.path)
  have same : (pathsOf levels name).Perm
      ((levels.filter fun level => level.componentName == name).map Level.path) := by
    have ascending : (pathsOf levels name).Nodup := SortedMap.nodup_keys _
    rw [List.perm_ext_iff_of_nodup ascending once]
    intro path
    simp only [mem_pathsOf, List.mem_map, List.mem_filter, beq_iff_eq, Level.place, Prod.mk.injEq,
      and_assoc]
  rw [same.length_eq, List.length_map, sharers, List.countP_eq_length_filter]

theorem perm_paths_names : ((names levels).map Prod.snd).Perm (levels.map Level.path) := by
  rw [paths_names_eq distinct]
  exact (List.mergeSort_perm levels _).map Level.path

/-- Where a level alone asks for a name that is made for another, both are written under it. -/
theorem keepsApart_of_nodup (once : ((names levels).map Prod.fst).Nodup) : KeepsApart levels := by
  rintro own shared index alone more within rfl
  rw [← length_pathsOf distinct] at alone more within
  obtain ⟨path, only⟩ := List.length_eq_one_iff.1 alone
  have one : (indexed shared index, path) ∈ names levels := by
    refine mem_names.2 ⟨indexed shared index, 0, by rw [only]; rfl, ?_⟩
    rw [written, if_neg (by omega)]
  have other : (indexed shared index, (pathsOf levels shared)[index]) ∈ names levels := by
    refine mem_names.2 ⟨shared, index, List.getElem?_eq_getElem within, ?_⟩
    rw [written, if_pos more]
  have paths : path = (pathsOf levels shared)[index] :=
    congrArg Prod.snd (List.inj_on_of_nodup_map once one other rfl)
  -- one path would have to belong to levels that ask for different names
  obtain ⟨first, listed, placed⟩ := mem_pathsOf.1 (only ▸ List.mem_singleton_self path)
  obtain ⟨second, listed', placed'⟩ := mem_pathsOf.1 (List.getElem_mem within)
  obtain ⟨name, path⟩ := Prod.mk.inj placed
  obtain ⟨name', path'⟩ := Prod.mk.inj placed'
  have same := eq_of_path distinct listed listed' (path.trans (paths.trans path'.symm))
  rw [← name, same, name'] at alone
  omega

theorem written_inj (apart : KeepsApart levels) {wanted wanted' : String} {index index' : Nat}
    (within : index < (pathsOf levels wanted).length)
    (within' : index' < (pathsOf levels wanted').length)
    (same : written levels wanted index = written levels wanted' index') :
    wanted = wanted' ∧ index = index' := by
  unfold written at same
  simp only [length_pathsOf distinct] at within within' same
  by_cases more : 1 < sharers levels wanted
  · by_cases more' : 1 < sharers levels wanted'
    · rw [if_pos more, if_pos more'] at same
      exact indexed_inj same
    · rw [if_pos more, if_neg more'] at same
      exact absurd same.symm (apart wanted' wanted index (by omega) more within)
  · by_cases more' : 1 < sharers levels wanted'
    · rw [if_neg more, if_pos more'] at same
      exact absurd same (apart wanted wanted' index' (by omega) more' within')
    · rw [if_neg more, if_neg more'] at same
      subst same
      exact ⟨rfl, by omega⟩

/-- The written names are distinct exactly if those that are made keep apart from those that are not. -/
theorem nodup_written_iff : ((names levels).map Prod.fst).Nodup ↔ KeepsApart levels := by
  refine ⟨keepsApart_of_nodup distinct, fun apart => ?_⟩
  have once : (names levels).Nodup := by
    apply List.Nodup.of_map Prod.snd
    exact (perm_paths_names distinct).nodup_iff.2 distinct
  apply once.map_on
  rintro ⟨name, path⟩ member ⟨name', path'⟩ member' same
  obtain ⟨wanted, index, here, rfl⟩ := mem_names.1 member
  obtain ⟨wanted', index', here', rfl⟩ := mem_names.1 member'
  -- the places are the same, so the paths are
  obtain ⟨rfl, rfl⟩ := written_inj distinct apart (List.getElem?_eq_some_iff.1 here).1
    (List.getElem?_eq_some_iff.1 here').1 same
  rw [here] at here'
  rw [Option.some.inj here']

end

end LevelFile

namespace Emitter

/-- Where the levels of a valid graph are emitted, each level path has one component in the file, and the
names in it are distinct exactly if no level that alone asks for its name asks for one that is made for a
level among several. -/
theorem emitLevels_keepsApart_iff {emitter : Emitter} {classes : List Node} {levels : List Level}
    {before after : Workshop} {count : Nat}
    (validated : Validation.check classes levels = .ok ())
    (run : emitter.emitLevels levels before = (.ok count, after)) :
    let file := LevelFile.filled after.numbering.ledger levels
    before.files.Takes [emitter.writeOf (LevelFile.location, file)] after.files ∧
      file.IsPrinted ∧ count = levels.length ∧
      (file.declarations.map Declaration.remark).Perm (levels.map fun level => some level.path) ∧
      ((file.declarations.map Declaration.name).Nodup ↔ LevelFile.KeepsApart levels) := by
  intro file
  have distinct := (Validation.check_eq_ok_iff.1 validated).2.2
  obtain ⟨-, answered⟩ := emitLevels_emits emitter levels _ _ _ _ _ run
  obtain ⟨counted, taken⟩ := answered after.numbering.ledger (.refl _)
  have remarks : file.declarations.map Declaration.remark =
      ((LevelFile.names levels).map Prod.snd).map some := by
    simp only [file, LevelFile.filled, LevelFile.outlines, List.map_map]
    rfl
  have called : file.declarations.map Declaration.name = (LevelFile.names levels).map Prod.fst := by
    simp only [file, LevelFile.filled, LevelFile.outlines, List.map_map]
    rfl
  have each : (file.declarations.map Declaration.remark).Perm
      (levels.map fun level => some level.path) := by
    have paths : levels.map (fun level => some level.path) = (levels.map Level.path).map some := by
      rw [List.map_map]
      rfl
    rw [remarks, paths]
    exact (LevelFile.perm_paths_names distinct).map some
  refine ⟨taken, LevelFile.isPrinted_filled _ _, ?_, each, ?_⟩
  · have many := each.length_eq
    rw [List.length_map, List.length_map] at many
    rw [counted]
    exact many
  · rw [called]
    exact LevelFile.nodup_written_iff distinct

/-- Two levels that share a name, and one that asks for the name that is made for the first of them. -/
def arenas : List Level :=
  [⟨"Arena", "/Game/Maps/A/Arena"⟩, ⟨"Arena", "/Game/Maps/B/Arena"⟩,
    ⟨"ArenaInd0", "/Game/Maps/ArenaInd0"⟩]

def bare : Emitter := { schemaDir := "gen", slots := 0 }

theorem emitLevels_keepsApart_iff_arenas :
    ∃ count after, bare.emitLevels arenas ⟨.ofLedger .fresh, ∅⟩ =
        (.ok count, after) ∧
      let file := LevelFile.filled after.numbering.ledger arenas
      (∅ : FileSystem).Takes [bare.writeOf (LevelFile.location, file)] after.files ∧
        file.IsPrinted ∧ count = arenas.length ∧
        (file.declarations.map Declaration.remark).Perm (arenas.map fun level => some level.path) ∧
        ((file.declarations.map Declaration.name).Nodup ↔ LevelFile.KeepsApart arenas) := by
  have accepted : (Validation.check [] arenas).isOk = true := by decide +kernel
  have succeeds : (bare.emitLevels arenas ⟨.ofLedger .fresh, ∅⟩).1.isOk = true := by
    decide +kernel
  rcases checked : Validation.check [] arenas with findings | _
  · rw [checked] at accepted
    cases accepted
  · rcases run : bare.emitLevels arenas ⟨.ofLedger .fresh, ∅⟩ with
      ⟨error | count, after⟩
    · rw [run] at succeeds
      cases succeeds
    · exact ⟨count, after, rfl, emitLevels_keepsApart_iff checked run⟩

/-- The first of the two that share a name and the one beside them are both called `ArenaInd0`. -/
example : (LevelFile.names arenas).map Prod.fst = ["ArenaInd0", "ArenaInd1", "ArenaInd0"] := by
  decide +kernel

end Emitter

end ComponentSchema
