import ComponentSchema.Proofs.Files.Walk
import ComponentSchema.Proofs.Task

/-!
What the operations on files do.  Each of them either refuses and changes nothing, or changes what
stands at the location its path spells, and a directory that is emptied loses all that is below it.
-/

namespace ComponentSchema

namespace FileSystem

theorem entryAt?_put (files : FileSystem) {location : Location} (inner : location ≠ [])
    (entry : Entry) (other : Location) :
    (files.put location entry).entryAt? other =
      if other = location then some entry else files.entryAt? other := by
  by_cases root : other = []
  · subst root
    rw [if_neg fun same => inner same.symm, entryAt?_nil, entryAt?_nil]
  · rw [entryAt?_of_ne_nil _ root, entryAt?_of_ne_nil _ root]
    simp only [put, SortedMap.find?_insert, Std.LawfulEqOrd.compare_eq_iff_eq]

theorem fileAt?_put_file (files : FileSystem) {location : Location} (inner : location ≠ [])
    (bytes : ByteArray) (mode : Mode) (other : Location) :
    (files.put location { content := .file bytes, mode }).fileAt? other =
      if other = location then some bytes else files.fileAt? other := by
  unfold fileAt?
  rw [entryAt?_put files inner]
  split <;> rfl

theorem entryAt?_removeAt (files : FileSystem) (location other : Location) :
    (files.removeAt location).entryAt? other =
      if location <+: other ∧ other ≠ [] then none else files.entryAt? other := by
  by_cases root : other = []
  · subst root
    rw [if_neg fun below => below.2 rfl, entryAt?_nil, entryAt?_nil]
  · rw [entryAt?_of_ne_nil _ root, entryAt?_of_ne_nil _ root]
    simp only [removeAt, SortedMap.find?_filter]
    by_cases above : location <+: other
    · simp [above, root, List.isPrefixOf_iff_prefix.2 above]
    · have outside : location.isPrefixOf other = false := by
        rw [← Bool.not_eq_true, List.isPrefixOf_iff_prefix]
        exact above
      simp only [outside, Bool.not_false, above, false_and, if_false]
      cases files.entries.find? other <;> rfl

theorem entryAt?_clearBelow (files : FileSystem) (location other : Location) :
    (files.clearBelow location).entryAt? other =
      if location <+: other ∧ other ≠ location then none else files.entryAt? other := by
  by_cases root : other = []
  · subst root
    rw [if_neg, entryAt?_nil, entryAt?_nil]
    exact fun below => below.2 (List.prefix_nil.1 below.1).symm
  · rw [entryAt?_of_ne_nil _ root, entryAt?_of_ne_nil _ root]
    simp only [clearBelow, SortedMap.find?_filter]
    by_cases above : location <+: other
    · by_cases same : other = location
      · simp only [same, beq_self_eq_true, Bool.or_true, ne_eq, not_true, and_false, if_false]
        cases files.entries.find? location <;> rfl
      · simp [above, same, List.isPrefixOf_iff_prefix.2 above]
    · have outside : location.isPrefixOf other = false := by
        rw [← Bool.not_eq_true, List.isPrefixOf_iff_prefix]
        exact above
      simp only [outside, Bool.not_false, Bool.true_or, above, false_and, if_false]
      cases files.entries.find? other <;> rfl

theorem entryAt?_foldl_put (change : Location → Location) {moved : List (Location × Entry)}
    (inner : ∀ entry ∈ moved, change entry.1 ≠ []) (files : FileSystem) {other : Location}
    (absent : ∀ entry ∈ moved, change entry.1 ≠ other) :
    (moved.foldl (fun files entry => files.put (change entry.1) entry.2) files).entryAt? other =
      files.entryAt? other := by
  induction moved generalizing files with
  | nil => rfl
  | cons first rest ih =>
    rw [List.foldl_cons, ih (fun entry member => inner entry (List.mem_cons_of_mem _ member)) _
      (fun entry member => absent entry (List.mem_cons_of_mem _ member)),
      entryAt?_put _ (inner first List.mem_cons_self), if_neg]
    exact fun same => absent first List.mem_cons_self same.symm

/-- What neither moves nor makes room stays. -/
theorem entryAt?_move_outside (files : FileSystem) {location place other : Location}
    (goal : place ≠ []) (source : ¬location <+: other)
    (target : ¬place <+: other) :
    (files.move location place).entryAt? other = files.entryAt? other := by
  unfold move
  rw [entryAt?_foldl_put fun moved => place ++ moved.drop location.length]
  · rw [entryAt?_removeAt, if_neg fun below => target below.1, entryAt?_removeAt,
      if_neg fun below => source below.1]
  · intro entry member empty
    exact goal (List.append_eq_nil_iff.1 empty).1
  · intro entry member same
    exact target ⟨_, same⟩

/-- What stood at a location stands at the place it was moved to. -/
theorem entryAt?_move_place (files : FileSystem) {location place : Location} {entry : Entry}
    (inner : location ≠ []) (goal : place ≠ []) (stored : files.entryAt? location = some entry) :
    (files.move location place).entryAt? place = some entry := by
  rw [entryAt?_of_ne_nil _ inner, SortedMap.find?_eq_some_iff] at stored
  have member : (location, entry) ∈
      files.entries.entries.filter fun moved => location.isPrefixOf moved.1 := by
    simp [stored]
  have below : ∀ moved ∈ files.entries.entries.filter fun moved => location.isPrefixOf moved.1,
      location <+: moved.1 := by
    intro moved listed
    exact List.isPrefixOf_iff_prefix.1 (List.mem_filter.1 listed).2
  have distinct := files.entries.ascending.filter (fun moved => location.isPrefixOf moved.1)
  unfold move
  dsimp only
  obtain ⟨before, later, split⟩ := List.append_of_mem member
  rw [split] at below distinct
  rw [split, List.foldl_append, List.foldl_cons]
  rw [entryAt?_foldl_put fun moved => place ++ moved.drop location.length]
  · rw [List.drop_length, List.append_nil, entryAt?_put _ goal, if_pos rfl]
  · intro moved listed empty
    exact goal (List.append_eq_nil_iff.1 empty).1
  · intro moved listed same
    -- what is moved from further below goes further below
    obtain ⟨rest, longer⟩ := below moved
      (List.mem_append_right _ (List.mem_cons_of_mem _ listed))
    have less : compare location moved.1 = .lt :=
      (List.pairwise_cons.1 (List.pairwise_append.1 distinct).2.1).1 moved listed
    rw [← longer, List.drop_left, List.append_right_eq_self] at same
    rw [← longer, same, List.append_nil, Std.ReflOrd.compare_self] at less
    cases less

/-- A place for a file: it is no directory itself, and everything above it is one. -/
structure IsOpen (files : FileSystem) (location : Location) : Prop where
  reachable : files.IsReachable location
  vacancy : files.isDirectoryAt location = false

theorem IsOpen.ne_nil {files : FileSystem} {location : Location} (open_ : files.IsOpen location) :
    location ≠ [] := by
  rintro rfl
  cases open_.vacancy

/-- No directory that can be reached lies where a file may be put, or below. -/
theorem IsOpen.not_above {files : FileSystem} {location other : Location}
    (open_ : files.IsOpen location) (reachable : files.IsReachable other)
    (directory : files.isDirectoryAt other = true) : ¬location <+: other := by
  intro above
  have vacancy := open_.vacancy
  by_cases same : location = other
  · rw [same, directory] at vacancy
    cases vacancy
  · rw [reachable location above same] at vacancy
    cases vacancy

theorem keepsDirectories_of_entryAt? {files after : FileSystem}
    (same : ∀ location, files.IsReachable location → files.isDirectoryAt location = true →
      after.entryAt? location = files.entryAt? location) : files.KeepsDirectories after := by
  intro location reachable directory
  unfold isDirectoryAt at *
  rw [same location reachable directory]
  exact directory

theorem keepsDirectories_put {files : FileSystem} {location : Location}
    (open_ : files.IsOpen location) (entry : Entry) :
    files.KeepsDirectories (files.put location entry) := by
  refine keepsDirectories_of_entryAt? fun other reachable directory => ?_
  rw [entryAt?_put _ open_.ne_nil, if_neg]
  rintro rfl
  exact open_.not_above reachable directory List.prefix_rfl

theorem keepsDirectories_move {files : FileSystem} {location place : Location}
    (open_ : files.IsOpen location) (goal : files.IsOpen place) :
    files.KeepsDirectories (files.move location place) := by
  refine keepsDirectories_of_entryAt? fun other reachable directory => ?_
  exact entryAt?_move_outside _ goal.ne_nil (open_.not_above reachable directory)
    (goal.not_above reachable directory)

theorem isOpen_of_fileAt? {files : FileSystem} {location : Location} {bytes : ByteArray}
    (reachable : files.IsReachable location) (stored : files.fileAt? location = some bytes) :
    files.IsOpen location :=
  ⟨reachable, not_isDirectoryAt_of_fileAt? stored⟩

theorem isOpen_of_resolve_vacant {files : FileSystem} {path : Path} {location : Location}
    {trailing : Bool} (resolved : files.resolve path = .ok (.vacant location trailing)) :
    files.IsOpen location where
  reachable := by
    have spelled : location = path.location := location_of_resolve resolved
    exact spelled ▸ isReachable_of_resolve resolved
  vacancy := by simp [isDirectoryAt, entryAt?_of_resolve_vacant resolved]

end FileSystem

namespace FileAction

variable {relation : FileSystem → FileSystem → Prop}

theorem attempt_eq_ok_iff {step : FileSystem → Except IoError FileSystem}
    {files after : FileSystem} : attempt step files = (.ok (), after) ↔ step files = .ok after := by
  unfold attempt
  cases step files with
  | ok changed =>
    constructor
    · intro same
      cases same
      rfl
    · intro same
      cases same
      rfl
  | error reason => exact ⟨fun same => (by cases same), fun same => (by cases same)⟩

theorem eq_of_attempt_eq_error {step : FileSystem → Except IoError FileSystem}
    {files after : FileSystem} {reason : IoError}
    (failed : attempt step files = (.error reason, after)) : after = files := by
  unfold attempt at failed
  cases stepped : step files with
  | ok changed =>
    rw [stepped] at failed
    cases failed
  | error other =>
    rw [stepped] at failed
    cases failed
    rfl

theorem keeps_attempt [Std.Refl relation] {step : FileSystem → Except IoError FileSystem}
    (changes : ∀ files after, step files = .ok after → relation files after) :
    Task.Keeps relation (attempt step) := by
  intro files
  unfold attempt
  cases stepped : step files with
  | ok changed => exact changes files changed stepped
  | error reason => exact Std.Refl.refl files

theorem createDirectory_eq_ok_iff {path : Path} {mode : Mode} {files after : FileSystem} :
    createDirectory path mode files = (.ok (), after) ↔
      (∃ trailing, files.resolve path = .ok (.vacant path.location trailing)) ∧
        after = files.put path.location { content := .directory, mode } := by
  unfold createDirectory
  rw [attempt_eq_ok_iff]
  cases resolved : files.resolve path with
  | error reason => exact ⟨fun same => (by cases same), fun ⟨⟨_, same⟩, _⟩ => (by cases same)⟩
  | ok target =>
    have spelled : target.location = path.location := FileSystem.location_of_resolve resolved
    cases target with
    | found place => exact ⟨fun same => (by cases same), fun ⟨⟨_, same⟩, _⟩ => (by cases same)⟩
    | blocked place => exact ⟨fun same => (by cases same), fun ⟨⟨_, same⟩, _⟩ => (by cases same)⟩
    | vacant place trailing =>
      obtain rfl : place = path.location := spelled
      constructor
      · intro same
        cases same
        exact ⟨⟨trailing, rfl⟩, rfl⟩
      · rintro ⟨-, rfl⟩
        rfl

/-- Creating a directory puts one where nothing stands. -/
theorem keeps_createDirectory [Std.Refl relation] {path : Path} {mode : Mode}
    (puts : ∀ files, files.IsOpen path.location → files.entryAt? path.location = none →
      relation files (files.put path.location { content := .directory, mode })) :
    Task.Keeps relation (createDirectory path mode) := by
  refine keeps_attempt fun files after stepped => ?_
  obtain ⟨⟨trailing, resolved⟩, rfl⟩ :=
    createDirectory_eq_ok_iff.1 (attempt_eq_ok_iff.2 stepped)
  exact puts files (FileSystem.isOpen_of_resolve_vacant resolved)
    (FileSystem.entryAt?_of_resolve_vacant resolved)

theorem keeps_unlessDirectory [Std.Refl relation] [IsTrans FileSystem relation] (path : Path)
    (reason : IoError) : Task.Keeps relation (unlessDirectory path reason) := by
  unfold unlessDirectory
  refine Task.Keeps.get.bind fun files => ?_
  exact .ite (fun _ => .pure ()) fun _ => .throw reason

theorem keeps_createLineage [Std.Refl relation] [IsTrans FileSystem relation] {lineage : List Path}
    (puts : ∀ path ∈ lineage, ∀ files mode, files.IsOpen path.location →
      files.entryAt? path.location = none →
        relation files (files.put path.location { content := .directory, mode })) :
    Task.Keeps relation (createLineage lineage) := by
  induction lineage with
  | nil => exact .pure ()
  | cons path above ih =>
    obtain ⟨first, others⟩ := List.forall_mem_cons.1 puts
    have creating (mode : Mode) : Task.Keeps relation (createDirectory path mode) :=
      keeps_createDirectory fun files => first files mode
    unfold createLineage
    refine (creating .program).tryCatch fun reason => ?_
    refine .ite (fun _ => ?_) fun _ => keeps_unlessDirectory path reason
    exact (ih others).bind fun _ => (creating .program).tryCatch (keeps_unlessDirectory path)

theorem keeps_createDirectories [Std.Refl relation] [IsTrans FileSystem relation]
    (puts : ∀ files location mode, files.IsOpen location → files.entryAt? location = none →
      relation files (files.put location { content := .directory, mode })) (path : Path) :
    Task.Keeps relation (createDirectories path) :=
  keeps_createLineage fun path _ files mode => puts files path.location mode

theorem exists_of_bind {α β : Type} {first : Except IoError α} {next : α → Except IoError β}
    {value : β} (ends : first >>= next = .ok value) :
    ∃ found, first = .ok found ∧ next found = .ok value := by
  cases first with
  | error reason => cases ends
  | ok found => exact ⟨found, rfl, ends⟩

theorem opening_eq_ok {path : Path} {mode permissions : Mode} {files : FileSystem}
    {location : Location} (opened : opening files path mode = .ok (location, permissions)) :
    location = path.location ∧ files.IsOpen path.location ∧
      (files.resolve path = .ok (.found path.location) ∨
        files.resolve path = .ok (.vacant path.location false)) := by
  obtain ⟨target, resolved, opened⟩ := exists_of_bind opened
  have reachable := FileSystem.isReachable_of_resolve resolved
  have spelled := FileSystem.location_of_resolve resolved
  cases target with
  | blocked place => cases opened
  | vacant place trailing =>
    cases trailing with
    | true => cases opened
    | false =>
      obtain rfl : place = path.location := spelled
      cases opened
      exact ⟨rfl, FileSystem.isOpen_of_resolve_vacant resolved, .inr resolved⟩
  | found place =>
    obtain rfl : place = path.location := spelled
    dsimp only at opened
    split at opened
    next old known stored =>
      cases opened
      have vacancy : files.isDirectoryAt path.location = false := by
        simp [FileSystem.isDirectoryAt, stored]
      exact ⟨rfl, ⟨reachable, vacancy⟩, .inl resolved⟩
    next => cases opened

theorem write_eq_ok {path : Path} {bytes : ByteArray} {mode : Mode} {files after : FileSystem}
    (written : write path bytes mode files = (.ok (), after)) :
    files.IsOpen path.location ∧
      (files.resolve path = .ok (.found path.location) ∨
        files.resolve path = .ok (.vacant path.location false)) ∧
      ∃ mode, after = files.put path.location { content := .file bytes, mode } := by
  unfold write at written
  cases opened : opening files path mode with
  | error reason =>
    rw [opened] at written
    cases written
  | ok place =>
    obtain ⟨location, permissions⟩ := place
    obtain ⟨rfl, open_, landing⟩ := opening_eq_ok opened
    rw [opened] at written
    refine ⟨open_, landing, permissions, ?_⟩
    dsimp only at written
    split at written
    next => exact (congrArg Prod.snd written).symm
    next fault met =>
      split at written
      next => cases written
      next => exact (congrArg Prod.snd written).symm

/-- A write that does not even open its file changes nothing; else the file holds what arrived, which is all
of it unless the medium failed. -/
theorem write_snd (path : Path) (bytes : ByteArray) (mode : Mode) (files : FileSystem) :
    (write path bytes mode files).2 = files ∨
      files.IsOpen path.location ∧ ∃ arrived permissions,
        (arrived = bytes ∨ ∃ count, arrived = bytes.extract 0 count) ∧
          (write path bytes mode files).2 =
            files.put path.location { content := .file arrived, mode := permissions } := by
  unfold write
  cases opened : opening files path mode with
  | error reason => exact .inl rfl
  | ok place =>
    obtain ⟨location, permissions⟩ := place
    obtain ⟨rfl, open_, -⟩ := opening_eq_ok opened
    apply Or.inr
    dsimp only
    split
    next => exact ⟨open_, bytes, permissions, .inl rfl, rfl⟩
    next fault met =>
      split
      next => exact ⟨open_, _, permissions, .inr ⟨fault.arriving, rfl⟩, rfl⟩
      next => exact ⟨open_, bytes, permissions, .inl rfl, rfl⟩

/-- Writing puts a file where no directory stands. -/
theorem keeps_write [Std.Refl relation] {path : Path} {bytes : ByteArray} {mode : Mode}
    (puts : ∀ files arrived mode, files.IsOpen path.location →
      relation files (files.put path.location { content := .file arrived, mode })) :
    Task.Keeps relation (write path bytes mode) := by
  intro files
  rcases write_snd path bytes mode files with same | ⟨open_, arrived, permissions, -, same⟩
  · rw [same]
    exact Std.Refl.refl files
  · rw [same]
    exact puts files arrived permissions open_

theorem sync_eq_ok {path : Path} {files after : FileSystem}
    (synced : sync path files = (.ok (), after)) : after = files := by
  unfold sync at synced
  rw [attempt_eq_ok_iff] at synced
  obtain ⟨⟨location, entry⟩, -, synced⟩ := exists_of_bind synced
  dsimp only at synced
  split at synced
  next =>
    cases synced
    rfl
  next => cases synced

theorem keeps_sync [Std.Refl relation] (path : Path) : Task.Keeps relation (sync path) := by
  apply keeps_attempt
  intro files after stepped
  rw [sync_eq_ok (attempt_eq_ok_iff.2 stepped)]
  exact Std.Refl.refl files

theorem keeps_writeSynced [Std.Refl relation] [IsTrans FileSystem relation] {path : Path}
    {bytes : ByteArray}
    (puts : ∀ files arrived mode, files.IsOpen path.location →
      relation files (files.put path.location { content := .file arrived, mode })) :
    Task.Keeps relation (writeSynced path bytes) :=
  (keeps_write puts).bind fun _ => keeps_sync path

/-- A file that was made sure of holds all that was written. -/
theorem writeSynced_eq_ok {path : Path} {bytes : ByteArray} {files after : FileSystem}
    (written : writeSynced path bytes files = (.ok (), after)) :
    write path bytes .plain files = (.ok (), after) := by
  obtain ⟨_, between, wrote, synced⟩ := Task.bind_eq_ok.1 written
  rw [sync_eq_ok synced]
  exact wrote

/-- Removing a file takes away what stands at its location. -/
theorem keeps_removeFile [Std.Refl relation] {path : Path}
    (removes : ∀ files bytes, files.IsReachable path.location →
      files.fileAt? path.location = some bytes → relation files (files.removeAt path.location)) :
    Task.Keeps relation (removeFile path) := by
  refine keeps_attempt fun files after stepped => ?_
  cases stated : files.stat path with
  | error reason =>
    simp only [stated] at stepped
    cases stepped
  | ok found =>
    obtain ⟨location, content, mode⟩ := found
    obtain ⟨resolved, stored⟩ := FileSystem.stat_eq_ok_iff.1 stated
    obtain rfl : location = path.location := FileSystem.location_of_resolve resolved
    rw [stated] at stepped
    cases content with
    | directory => cases stepped
    | file bytes =>
      cases stepped
      exact removes files bytes (FileSystem.isReachable_of_resolve resolved)
        (FileSystem.fileAt?_eq_some_iff.2 ⟨mode, stored⟩)

/-- Removing a directory empties it, and takes it away unless it is in use. -/
theorem keeps_removeDirectory [Std.Refl relation] {path : Path}
    (clears : ∀ files, files.IsReachable path.location →
      files.isDirectoryAt path.location = true →
        relation files (files.clearBelow path.location) ∧
          relation files ((files.clearBelow path.location).removeAt path.location)) :
    Task.Keeps relation (removeDirectory path) := by
  intro files
  unfold removeDirectory
  cases stated : files.stat path with
  | error reason => exact Std.Refl.refl files
  | ok found =>
    obtain ⟨location, content, mode⟩ := found
    obtain ⟨resolved, stored⟩ := FileSystem.stat_eq_ok_iff.1 stated
    obtain rfl : location = path.location := FileSystem.location_of_resolve resolved
    cases content with
    | file bytes => exact Std.Refl.refl files
    | directory =>
      obtain ⟨cleared, removed⟩ := clears files (FileSystem.isReachable_of_resolve resolved)
        (FileSystem.isDirectoryAt_iff.2 ⟨mode, stored⟩)
      simp only [if_true]
      split
      · exact cleared
      · cases unnamedEnd? path with
        | none => exact removed
        | some reason => exact cleared

/-- A directory that is there is emptied, even if it cannot be removed. -/
theorem removeDirectory_snd {path : Path} {files : FileSystem}
    (there : files.pathExists path = true)
    (directory : files.isDirectoryAt path.location = true) :
    (removeDirectory path files).2 = files.clearBelow path.location ∨
      (removeDirectory path files).2 = (files.clearBelow path.location).removeAt path.location := by
  unfold removeDirectory
  cases stated : files.stat path with
  | error reason => simp [FileSystem.pathExists, FileSystem.entry?, stated, Except.toOption] at there
  | ok found =>
    obtain ⟨location, entry⟩ := found
    obtain ⟨resolved, stored⟩ := FileSystem.stat_eq_ok_iff.1 stated
    obtain rfl : location = path.location := FileSystem.location_of_resolve resolved
    obtain ⟨mode, known⟩ := FileSystem.isDirectoryAt_iff.1 directory
    obtain rfl := Option.some.inj (known.symm.trans stored)
    simp only [if_true]
    split
    · exact .inl rfl
    · cases unnamedEnd? path with
      | none => exact .inr rfl
      | some reason => exact .inl rfl

/-- A directory that was removed has nothing below it any more. -/
theorem removeDirectory_eq_ok {path : Path} {files after : FileSystem}
    (removed : removeDirectory path files = (.ok (), after)) :
    after = files.clearBelow path.location ∨
      after = (files.clearBelow path.location).removeAt path.location := by
  unfold removeDirectory at removed
  cases stated : files.stat path with
  | error reason =>
    rw [stated] at removed
    cases removed
  | ok found =>
    obtain ⟨location, content, mode⟩ := found
    obtain rfl : location = path.location :=
      FileSystem.location_of_resolve (FileSystem.stat_eq_ok_iff.1 stated).1
    rw [stated] at removed
    cases content with
    | file bytes => cases removed
    | directory =>
      simp only [if_true] at removed
      split at removed
      · cases removed
        exact .inl rfl
      · cases ending : unnamedEnd? path with
        | none =>
          rw [ending] at removed
          cases removed
          exact .inr rfl
        | some reason =>
          rw [ending] at removed
          cases removed

/-- A path that leads to a free name with a separator behind it ends in that separator. -/
theorem endsInSeparator_of_vacant {files : FileSystem} {path : Path} {location : Location}
    (resolved : files.resolve path = .ok (.vacant location true)) :
    path.endsInSeparator = true := by
  have last {start : Location} {pieces : List (List Char)}
      (walked : files.walk start pieces = .ok (.vacant location true)) :
      pieces.getLast? = some [] := by
    induction pieces generalizing start with
    | nil => cases walked
    | cons piece rest ih =>
      rcases FileSystem.walk_cons walked with
        ⟨-, -, same⟩ | ⟨-, ⟨walked, -⟩ | ⟨-, empty, -, same⟩⟩
      · cases same
      · have later := ih walked
        cases rest with
        | nil => cases later
        | cons another others => rwa [List.getLast?_cons_cons]
      · rw [Target.vacant.injEq] at same
        cases rest with
        | nil => cases same.2
        | cons another others =>
          rw [List.getLast?_cons_cons]
          have member := List.getLast_mem (List.cons_ne_nil another others)
          rw [List.getLast?_eq_some_getLast (List.cons_ne_nil another others),
            empty _ member]
  have walked := FileSystem.resolve_eq_ok resolved
  rcases Path.getLast?_of_pieces (last walked) with empty | separator
  · rw [empty] at walked
    cases walked
  · simp [Path.endsInSeparator, separator]

theorem not_isDirectoryAt_of_checkReplacement {files : FileSystem} {location place : Location}
    (file : files.isDirectoryAt location = false)
    (checked : checkReplacement files location place = .ok ()) :
    files.isDirectoryAt place = false := by
  rw [← Bool.not_eq_true]
  intro directory
  obtain ⟨mode, there⟩ := FileSystem.isDirectoryAt_iff.1 directory
  simp only [checkReplacement, there, file, directory] at checked
  cases checked

/-- What a renaming that succeeds finds out first: where both paths lead, and that the new place may be
taken under its path. -/
theorem steps_of_rename {source target : Path} {files after : FileSystem}
    (renamed : rename source target files = (.ok (), after)) :
    ∃ location entry goal, files.stat source = .ok (location, entry) ∧
      files.resolve target = .ok goal ∧ (∀ place, goal ≠ .blocked place) ∧
      ¬(entry.content ≠ .directory ∧ target.endsInSeparator = true) ∧
      checkReplacement files location goal.location = .ok () ∧
      after = files.move location goal.location := by
  unfold rename at renamed
  rw [attempt_eq_ok_iff] at renamed
  obtain ⟨⟨location, entry⟩, stated, renamed⟩ := exists_of_bind renamed
  obtain ⟨goal, leads, renamed⟩ := exists_of_bind renamed
  dsimp only at renamed
  by_cases busy : (unnamedEnd? source).isSome = true ∨ (unnamedEnd? target).isSome = true
  · rw [if_pos busy] at renamed
    cases renamed
  by_cases slashed : entry.content ≠ .directory ∧ target.endsInSeparator = true
  · rw [if_neg busy, if_pos slashed] at renamed
    cases renamed
  rw [if_neg busy, if_neg slashed] at renamed
  refine ⟨location, entry, goal, stated, leads, ?_, slashed, ?_⟩
  · rintro place rfl
    cases renamed
  · cases goal with
    | blocked place => cases renamed
    | found place | vacant place trailing =>
      obtain ⟨_, checked, moved⟩ := exists_of_bind renamed
      cases moved
      exact ⟨checked, rfl⟩

/-- Renaming a file moves it to a place for a file. -/
theorem rename_eq_ok {source target : Path} {files after : FileSystem}
    (renamed : rename source target files = (.ok (), after)) {bytes : ByteArray}
    (stored : files.fileAt? source.location = some bytes) :
    files.resolve source = .ok (.found source.location) ∧ files.IsOpen target.location ∧
      (files.resolve target = .ok (.found target.location) ∨
        files.resolve target = .ok (.vacant target.location false)) ∧
      after = files.move source.location target.location := by
  obtain ⟨location, entry, goal, stated, leads, free, bare, checked, rfl⟩ := steps_of_rename renamed
  obtain ⟨resolved, there⟩ := FileSystem.stat_eq_ok_iff.1 stated
  obtain rfl : location = source.location := FileSystem.location_of_resolve resolved
  obtain ⟨mode, same⟩ := FileSystem.fileAt?_eq_some_iff.1 stored
  obtain rfl : entry = { content := .file bytes, mode } := Option.some.inj (there.symm.trans same)
  have file := FileSystem.not_isDirectoryAt_of_fileAt? stored
  have spelled : goal.location = target.location := FileSystem.location_of_resolve leads
  rw [spelled] at checked ⊢
  refine ⟨resolved, ?_⟩
  cases goal with
  | blocked place => exact absurd rfl (free place)
  | found place =>
    obtain rfl : place = target.location := spelled
    have reachable := FileSystem.isReachable_of_resolve leads
    exact ⟨⟨reachable, not_isDirectoryAt_of_checkReplacement file checked⟩, .inl leads, rfl⟩
  | vacant place trailing =>
    obtain rfl : place = target.location := spelled
    cases trailing with
    | false => exact ⟨FileSystem.isOpen_of_resolve_vacant leads, .inr leads, rfl⟩
    | true => exact absurd ⟨nofun, endsInSeparator_of_vacant leads⟩ bare

end FileAction

end ComponentSchema
