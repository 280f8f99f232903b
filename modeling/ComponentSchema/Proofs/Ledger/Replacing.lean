import ComponentSchema.Proofs.Ledger.Saving

/-!
Saving as a whole.  Directories may come to be on the way to the ledger, and the temporary file beside it
is written and goes away again; where the ledger stands there is the new one in the end, or what was there
before.
-/

namespace ComponentSchema

namespace FileSystem

variable {files after : FileSystem} {location place : Location}

theorem IsTree.entryAt?_below (tree : files.IsTree) (vacancy : files.isDirectoryAt place = false)
    (above : place.IsAbove location) : files.entryAt? location = none := by
  cases there : files.entryAt? location with
  | none => rfl
  | some entry =>
    rw [tree location entry there place above.1 above.2] at vacancy
    cases vacancy

theorem IsTree.eq_of_mem_entries (tree : files.IsTree) (inner : location ≠ [])
    (vacancy : files.isDirectoryAt location = false) {listed : Location × Entry}
    (there : listed ∈ files.entries.entries) (below : location <+: listed.1) :
    listed.1 = location := by
  by_contra apart
  have deeper : listed.1 ≠ [] := by
    intro root
    exact inner (List.prefix_nil.1 (root ▸ below))
  have nothing := tree.entryAt?_below vacancy ⟨below, Ne.symm apart⟩
  rw [entryAt?_of_ne_nil _ deeper, SortedMap.find?_eq_some_iff.2 there] at nothing
  cases nothing

theorem entryAt?_removeAt_of_free {other : Location}
    (free : place <+: other → files.entryAt? other = none) :
    (files.removeAt place).entryAt? other = files.entryAt? other := by
  rw [FileSystem.entryAt?_removeAt]
  split
  next below => exact (free below.1).symm
  next => rfl

/-- Removing a file removes nothing else. -/
theorem IsTree.entryAt?_removeAt (tree : files.IsTree) {bytes : ByteArray}
    (stored : files.fileAt? place = some bytes) (other : Location) :
    (files.removeAt place).entryAt? other = if other = place then none else files.entryAt? other := by
  have vacancy := not_isDirectoryAt_of_fileAt? stored
  by_cases same : other = place
  · subst same
    have inner : other ≠ [] := by
      rintro rfl
      cases vacancy
    rw [FileSystem.entryAt?_removeAt, if_pos ⟨List.prefix_rfl, inner⟩, if_pos rfl]
  · rw [if_neg same]
    exact entryAt?_removeAt_of_free fun below => tree.entryAt?_below vacancy ⟨below, Ne.symm same⟩

/-- Moving a file takes it from one place to the other, and moves nothing else. -/
theorem IsTree.entryAt?_move (tree : files.IsTree) {entry : Entry} (inner : location ≠ [])
    (stored : files.entryAt? location = some entry) (file : files.isDirectoryAt location = false)
    (goal : files.IsOpen place) (other : Location) :
    (files.move location place).entryAt? other =
      if other = place then some entry
      else if other = location then none else files.entryAt? other := by
  by_cases arrived : other = place
  · rw [if_pos arrived, arrived]
    exact entryAt?_move_place files inner goal.ne_nil stored
  rw [if_neg arrived]
  have alone : ∀ moved ∈ files.entries.entries.filter fun moved => location.isPrefixOf moved.1,
      place ++ moved.1.drop location.length = place := by
    intro moved listed
    obtain ⟨there, below⟩ := List.mem_filter.1 listed
    rw [tree.eq_of_mem_entries inner file there (List.isPrefixOf_iff_prefix.1 below),
      List.drop_length, List.append_nil]
  have left : (files.move location place).entryAt? other =
      ((files.removeAt location).removeAt place).entryAt? other := by
    unfold move
    rw [entryAt?_foldl_put fun moved => place ++ moved.drop location.length]
    · intro moved listed
      rw [alone moved listed]
      exact goal.ne_nil
    · intro moved listed same
      exact arrived (same.symm.trans (alone moved listed))
  rw [left]
  by_cases gone : other = location
  · subst gone
    have removed : (files.removeAt other).entryAt? other = none := by
      rw [FileSystem.entryAt?_removeAt, if_pos ⟨List.prefix_rfl, inner⟩]
    rw [if_pos rfl, entryAt?_removeAt_of_free fun _ => removed, removed]
  · have kept : (files.removeAt location).entryAt? other = files.entryAt? other :=
      entryAt?_removeAt_of_free fun below => tree.entryAt?_below file ⟨below, Ne.symm gone⟩
    rw [if_neg gone, ← kept]
    exact entryAt?_removeAt_of_free fun below =>
      kept.trans (tree.entryAt?_below goal.vacancy ⟨below, Ne.symm arrived⟩)

theorem read_of_pathExists {path : Path} {bytes : ByteArray} (there : files.pathExists path = true)
    (stored : files.fileAt? path.location = some bytes) : files.read path = .ok bytes := by
  unfold pathExists entry? at there
  cases stated : files.stat path with
  | error reason =>
    rw [stated] at there
    cases there
  | ok found =>
    obtain ⟨location, entry⟩ := found
    obtain ⟨resolved, -⟩ := stat_eq_ok_iff.1 stated
    obtain rfl : location = path.location := location_of_resolve resolved
    exact read_eq_ok_iff.2 ⟨resolved, stored⟩

/-- What stands at a location stays, or it is free and one of some places, and a directory comes there. -/
def Furnishes (places : List Location) (files after : FileSystem) (location : Location) : Prop :=
  after.entryAt? location = files.entryAt? location ∨
    (location ∈ places ∧ files.entryAt? location = none ∧ after.isDirectoryAt location = true)

theorem Furnishes.fileAt? {places : List Location} (furnishes : Furnishes places files after location) :
    after.fileAt? location = files.fileAt? location := by
  rcases furnishes with same | ⟨-, free, directory⟩
  · exact fileAt?_congr same
  · obtain ⟨mode, there⟩ := isDirectoryAt_iff.1 directory
    simp [FileSystem.fileAt?, free, there]

/-- Files change at one place only, apart from directories that come to some others. -/
structure ChangesAt (place : Location) (places : List Location) (files after : FileSystem) : Prop where
  directories : files.KeepsDirectories after
  tree : files.IsTree → after.IsTree
  elsewhere : files.IsTree → ∀ other, other ≠ place → Furnishes places files after other

section

variable {places : List Location}

instance : Std.Refl (ChangesAt place places) where
  refl files := ⟨Std.Refl.refl files, fun tree => tree, fun _ _ _ => .inl rfl⟩

instance : IsTrans FileSystem (ChangesAt place places) where
  trans first second third earlier later := by
    refine ⟨trans_of KeepsDirectories earlier.directories later.directories,
      fun tree => later.tree (earlier.tree tree), fun tree other different => ?_⟩
    have before := earlier.elsewhere tree other different
    have onward := later.elsewhere (earlier.tree tree) other different
    rcases before with same | ⟨listed, free, directory⟩
    · rcases onward with same' | ⟨listed, free, directory⟩
      · exact .inl (same'.trans same)
      · exact .inr ⟨listed, same.symm.trans free, directory⟩
    · rcases onward with same' | ⟨-, free', -⟩
      · refine .inr ⟨listed, free, ?_⟩
        unfold isDirectoryAt at directory ⊢
        rwa [same']
      · -- the directory is there already
        obtain ⟨mode, there⟩ := isDirectoryAt_iff.1 directory
        rw [there] at free'
        cases free'

theorem changesAt_put (open_ : files.IsOpen place) (entry : Entry) :
    files.ChangesAt place places (files.put place entry) := by
  refine ⟨keepsDirectories_put open_ entry, fun tree => tree.put open_ entry, ?_⟩
  intro _ other different
  left
  rw [entryAt?_put _ open_.ne_nil, if_neg different]

theorem changesAt_put_directory (open_ : files.IsOpen location)
    (free : files.entryAt? location = none) (listed : location ∈ places) (mode : Mode) :
    files.ChangesAt place places (files.put location { content := .directory, mode }) := by
  refine ⟨keepsDirectories_put open_ _, fun tree => tree.put open_ _, ?_⟩
  intro _ other _
  unfold Furnishes isDirectoryAt
  rw [entryAt?_put _ open_.ne_nil]
  by_cases here : other = location
  · subst here
    rw [if_pos rfl]
    exact .inr ⟨listed, free, rfl⟩
  · rw [if_neg here]
    exact .inl rfl

theorem changesAt_removeAt {bytes : ByteArray} (reachable : files.IsReachable place)
    (stored : files.fileAt? place = some bytes) :
    files.ChangesAt place places (files.removeAt place) := by
  have open_ := isOpen_of_fileAt? reachable stored
  have kept : files.KeepsDirectories (files.removeAt place) := by
    refine keepsDirectories_of_entryAt? fun other reachable directory => ?_
    rw [FileSystem.entryAt?_removeAt, if_neg]
    exact fun below => open_.not_above reachable directory below.1
  refine ⟨kept, fun tree other entry there => ?_, fun tree other different => .inl ?_⟩
  · rw [tree.entryAt?_removeAt stored] at there
    split at there
    next => cases there
    next => exact kept.isReachable (tree other entry there)
  · rw [tree.entryAt?_removeAt stored, if_neg different]

end

end FileSystem

namespace LedgerStore

/-- The places of the directories above a ledger, as far as they may have to be created. -/
def parents (store : LedgerStore) : List Location :=
  (store.path.parent?.toList.flatMap Path.lineage).map Path.location

variable {store : LedgerStore} {ledger : Ledger} {files after : FileSystem}

theorem changesAt_createParent (store : LedgerStore) {place : Location} :
    Task.Keeps (FileSystem.ChangesAt place store.parents) store.createParent := by
  unfold createParent
  cases parented : store.path.parent? with
  | none => exact .pure ()
  | some parent =>
    refine .ite (fun _ => .pure ()) fun _ => ?_
    refine FileAction.keeps_reporting (FileAction.keeps_createLineage ?_) "create" parent
    intro above listed files mode open_ free
    refine FileSystem.changesAt_put_directory open_ free ?_ mode
    refine List.mem_map_of_mem (List.mem_flatMap.2 ⟨parent, ?_, listed⟩)
    rw [parented]
    exact List.mem_singleton_self parent

theorem changesAt_of_save_eq_error {error : StoreError}
    (failed : store.save ledger files = (.error error, after)) :
    files.ChangesAt store.temporary.location store.parents after := by
  refine of_save_eq_error store.changesAt_createParent ?_ ?_ failed
  · exact FileAction.keeps_writeSynced fun files arrived mode open_ => FileSystem.changesAt_put open_ _
  · exact FileAction.keeps_removeFile fun files bytes reachable stored =>
      FileSystem.changesAt_removeAt reachable stored

/-- A ledger that is saved stands at its place, and the temporary file is gone. -/
theorem entryAt?_of_save (tree : files.IsTree) (saved : store.save ledger files = (.ok (), after)) :
    after.entryAt? store.temporary.location = none ∧
      ∀ other, other ≠ store.temporary.location → other ≠ store.path.location →
        files.Furnishes store.parents after other := by
  obtain ⟨made, mode, created, open_, goal, rfl⟩ := steps_of_save saved
  have changes : files.ChangesAt store.temporary.location store.parents made :=
    store.changesAt_createParent.of_eq created
  have standing := (changes.tree tree).put open_ { content := .file (bytesOf ledger), mode }
  have stored : (made.put store.temporary.location
      { content := .file (bytesOf ledger), mode }).entryAt? store.temporary.location =
        some { content := .file (bytesOf ledger), mode } := by
    rw [FileSystem.entryAt?_put _ open_.ne_nil, if_pos rfl]
  have file := FileSystem.not_isDirectoryAt_of_fileAt? (FileSystem.fileAt?_eq_some_iff.2 ⟨mode, stored⟩)
  have moved := standing.entryAt?_move open_.ne_nil stored file goal
  constructor
  · rw [moved, if_neg store.temporary_location_ne, if_pos rfl]
  · intro other apart elsewhere
    have last := moved other
    rw [if_neg elsewhere, if_neg apart, FileSystem.entryAt?_put _ open_.ne_nil, if_neg apart] at last
    have before := changes.elsewhere tree other apart
    unfold FileSystem.Furnishes FileSystem.isDirectoryAt at before ⊢
    rw [last]
    exact before

/-- Saving is all or nothing.  If it fails, what stands where the path of the store leads stays, the file is
read as before, and the only path under which a file can be read that could not be is one that goes up
again and led nowhere.  If it succeeds, the file holds the text of the ledger, and nothing is left at the
temporary one.  Apart from these two places nothing changes but that directories on the way to the ledger
are created. -/
theorem save_replaces {result : Except StoreError Unit} (tree : files.IsTree)
    (run : store.save ledger files = (result, after)) :
    (result = .ok () →
      after.read store.path = .ok (ledger.text ++ "\n").toUTF8 ∧
        after.entryAt? store.temporary.location = none) ∧
      (∀ error, result = .error error →
        after.fileAt? store.path.location = files.fileAt? store.path.location ∧
          files.Furnishes store.parents after store.path.location ∧
          (∀ bytes, files.read store.path = .ok bytes → after.read store.path = .ok bytes) ∧
          (store.path.IsDirect ∨ files.pathExists store.path = true →
            (after.read store.path).toOption = (files.read store.path).toOption)) ∧
      ∀ other, other ≠ store.temporary.location → other ≠ store.path.location →
        files.Furnishes store.parents after other := by
  rcases result with error | _
  · have changes := changesAt_of_save_eq_error run
    have stays := changes.elsewhere tree store.path.location (Ne.symm store.temporary_location_ne)
    have onward (bytes : ByteArray) (read : files.read store.path = .ok bytes) :
        after.read store.path = .ok bytes := by
      obtain ⟨resolved, stored⟩ := FileSystem.read_eq_ok_iff.1 read
      exact FileSystem.read_of_fileAt? changes.directories (stays.fileAt?.trans stored)
        (FileSystem.not_isDirectoryAt_of_fileAt? stored) (.inl rfl) resolved
    refine ⟨nofun, fun _ _ => ⟨stays.fileAt?, stays, onward, ?_⟩, fun other apart _ =>
      changes.elsewhere tree other apart⟩
    rintro (direct | there)
    · exact FileSystem.read_of_spares direct tree (spares_of_save_eq_error run)
    · cases read : files.read store.path with
      | ok bytes => rw [onward bytes read]
      | error reason =>
        cases later : after.read store.path with
        | error reason => rfl
        | ok bytes =>
          exfalso
          have stored := (FileSystem.read_eq_ok_iff.1 later).2
          rw [stays.fileAt?] at stored
          rw [FileSystem.read_of_pathExists there stored] at read
          cases read
  · obtain ⟨gone, elsewhere⟩ := entryAt?_of_save tree run
    exact ⟨fun _ => ⟨read_of_save run, gone⟩, nofun, elsewhere⟩

/-- The ledger lies beside a directory that is in the way of the temporary file. -/
def obstructed : FileSystem :=
  ((∅ : FileSystem).put ["db.json"] { content := .file "old".toUTF8 }).put ["db.json.tmp"]
    { content := .directory, mode := .program }

theorem isTree_obstructed : obstructed.IsTree := by
  have top (files : FileSystem) (name : List Char) : files.IsReachable (Path.step [] name) :=
    (FileSystem.isReachable_nil files).step rfl name
  have stored : (∅ : FileSystem).IsOpen ["db.json"] := ⟨top ∅ "db.json".toList, rfl⟩
  have tree := FileSystem.isTree_empty.put stored { content := .file "old".toUTF8 }
  exact tree.put ⟨top _ "db.json.tmp".toList, rfl⟩ _

def detour : LedgerStore := ⟨"a/../db.json"⟩

theorem appears_of_detour : obstructed.IsTree ∧ ∃ error after,
    detour.save .fresh obstructed = (.error error, after) ∧
      detour.isPresent obstructed = false ∧ detour.isPresent after = true := by
  refine ⟨isTree_obstructed, ?_⟩
  have fails : (detour.save .fresh obstructed).1.isOk = false := by decide +kernel
  have appears : detour.isPresent (detour.save .fresh obstructed).2 = true := by decide +kernel
  rcases run : detour.save .fresh obstructed with ⟨error | _, after⟩
  · rw [run] at appears
    exact ⟨error, after, rfl, by decide +kernel, appears⟩
  · rw [run] at fails
    cases fails

/-- The ledger lies where five bytes are all that the medium takes of the temporary file. -/
def cramped : FileSystem :=
  { (∅ : FileSystem).put ["db.json"] { content := .file "old".toUTF8 } with
    faults := .ofList [(["db.json.tmp"], ⟨5, .storageFull⟩)] }

theorem isTree_cramped : cramped.IsTree := by
  have reachable : (∅ : FileSystem).IsReachable ["db.json"] :=
    (FileSystem.isReachable_nil ∅).step rfl "db.json".toList
  exact FileSystem.isTree_empty.put ⟨reachable, rfl⟩ _

def besideTemporary : LedgerStore := ⟨"db.json"⟩

/-- A write that breaks off is made good, and one that does not break off is kept. -/
theorem save_replaces_cramped :
    (∃ error after, besideTemporary.save .fresh cramped = (.error error, after) ∧
      after.read besideTemporary.path = .ok "old".toUTF8 ∧
      after.entryAt? besideTemporary.temporary.location = none) ∧
    ∃ after, besideTemporary.save .fresh ∅ = (.ok (), after) ∧
      after.read besideTemporary.path = .ok (Ledger.fresh.text ++ "\n").toUTF8 ∧
      after.entryAt? besideTemporary.temporary.location = none := by
  constructor
  · have fails : (besideTemporary.save .fresh cramped).1.isOk = false := by decide +kernel
    have gone : (besideTemporary.save .fresh cramped).2.entryAt?
        besideTemporary.temporary.location = none := by
      decide +kernel
    have read : cramped.read besideTemporary.path = .ok "old".toUTF8 :=
      FileSystem.read_eq_ok_iff.2 ⟨by decide +kernel, by decide +kernel⟩
    rcases run : besideTemporary.save .fresh cramped with ⟨error | _, after⟩
    · obtain ⟨-, kept, -⟩ := save_replaces isTree_cramped run
      obtain ⟨-, -, reads, -⟩ := kept error rfl
      rw [run] at gone
      exact ⟨error, after, rfl, reads _ read, gone⟩
    · rw [run] at fails
      cases fails
  · have succeeds : (besideTemporary.save .fresh ∅).1.isOk = true := by decide +kernel
    rcases run : besideTemporary.save .fresh ∅ with ⟨error | _, after⟩
    · rw [run] at succeeds
      cases succeeds
    · obtain ⟨saved, -, -⟩ := save_replaces FileSystem.isTree_empty run
      exact ⟨after, rfl, saved rfl⟩

example :
    ((FileAction.writeSynced besideTemporary.temporary (bytesOf .fresh) cramped).2.fileAt?
      besideTemporary.temporary.location).map ByteArray.size = some 5 := by
  decide +kernel

end LedgerStore

end ComponentSchema
