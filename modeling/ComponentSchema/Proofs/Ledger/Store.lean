import ComponentSchema.Proofs.Files.Failure
import ComponentSchema.Proofs.Files.Location
import ComponentSchema.Proofs.Ledger.Encoding

/-!
Saving and loading.  A ledger that was saved is what its file holds, whatever stood there before, and
loading the file gives it back or says why it cannot be built on.
-/

namespace ComponentSchema

namespace LedgerStore

/-- The temporary file stands beside the ledger, or below its path if that has no name to change. -/
theorem temporary_location (store : LedgerStore) :
    ∃ above name, store.temporary.location = above ++ [name] ∧ above <+: store.path.location ∧
      above ++ [name] ≠ store.path.location := by
  unfold temporary Path.withFileName
  cases named : store.path.fileName? with
  | none =>
    simp only [Option.isSome_none, Bool.false_eq_true, if_false, Option.getD_none]
    refine ⟨store.path.location, "" ++ ".tmp", ?_, List.prefix_rfl, by simp⟩
    exact Path.location_join_name store.path (by decide) (by decide)
  | some name =>
    obtain ⟨-, plain⟩ := Path.getLast?_of_fileName? named
    obtain ⟨parent, parented, whole⟩ := Path.location_parent? named
    simp only [Option.isSome_some, if_true, Option.getD_some, parented]
    have separate : '/' ∉ (name ++ ".tmp").toList := by
      rw [String.toList_append, List.mem_append, not_or]
      exact ⟨plain, by decide⟩
    have long : 2 < (name ++ ".tmp").toList.length := by
      rw [String.toList_append, List.length_append]
      have tail : ".tmp".toList.length = 4 := by decide
      omega
    refine ⟨parent.location, name ++ ".tmp", Path.location_join_name _ separate long, ?_, ?_⟩
    · rw [whole]
      exact List.prefix_append _ _
    · rw [whole]
      intro same
      have names := (List.append_inj' same rfl).2
      rw [List.cons.injEq] at names
      have lengths := congrArg (fun text => text.toList.length) names.1
      simp at lengths

/-- The temporary file does not stand where the ledger is kept. -/
theorem temporary_location_ne (store : LedgerStore) :
    store.temporary.location ≠ store.path.location := by
  obtain ⟨above, name, spelled, -, different⟩ := store.temporary_location
  rw [spelled]
  exact different

theorem save_eq_ok {store : LedgerStore} {ledger : Ledger} {files after : FileSystem}
    (saved : store.save ledger files = (.ok (), after)) :
    ∃ made, store.createParent files = (.ok (), made) ∧
      FileTask.replace store.path store.temporary (bytesOf ledger) "write" "replace" made =
        (.ok (), after) := by
  unfold save whenWritable at saved
  split at saved
  · cases saved
  · cases replaced : store.replaceWith ledger files with
    | mk result last =>
      rw [replaced] at saved
      cases result with
      | error failure => cases saved
      | ok _ =>
        cases saved
        obtain ⟨_, made, created, rest⟩ := Task.bind_eq_ok.1 replaced
        exact ⟨made, created, rest⟩

/-- The file of a ledger that was saved holds its bytes. -/
theorem read_of_save {store : LedgerStore} {ledger : Ledger} {files after : FileSystem}
    (saved : store.save ledger files = (.ok (), after)) :
    after.read store.path = .ok (bytesOf ledger) := by
  obtain ⟨made, -, replaced⟩ := save_eq_ok saved
  obtain ⟨mode, open_, goal, landing, rfl⟩ := FileTask.replace_eq_ok replaced
  have written := FileSystem.fileAt?_put_file made open_.ne_nil (bytesOf ledger) mode
    store.temporary.location
  rw [if_pos rfl] at written
  have reachable := (FileSystem.keepsDirectories_put open_
    { content := .file (bytesOf ledger), mode }).isReachable open_.reachable
  obtain ⟨mode, there⟩ := FileSystem.fileAt?_eq_some_iff.1 written
  have kept := FileSystem.keepsDirectories_move (FileSystem.isOpen_of_fileAt? reachable written) goal
  have stored := FileSystem.fileAt?_eq_some_iff.2
    ⟨mode, FileSystem.entryAt?_move_place _ open_.ne_nil goal.ne_nil there⟩
  rcases landing with landing | landing
  · exact FileSystem.read_of_fileAt? kept stored goal.vacancy (.inl rfl) landing
  · exact FileSystem.read_of_fileAt? kept stored goal.vacancy (.inr rfl) landing

theorem isPresent_of_read {store : LedgerStore} {files : FileSystem} {bytes : ByteArray}
    (read : files.read store.path = .ok bytes) : store.isPresent files = true := by
  obtain ⟨resolved, stored⟩ := FileSystem.read_eq_ok_iff.1 read
  obtain ⟨mode, there⟩ := FileSystem.fileAt?_eq_some_iff.1 stored
  have stated := FileSystem.stat_eq_ok_iff.2 ⟨resolved, there⟩
  simp [isPresent, FileSystem.isFile, FileSystem.entry?, stated, Except.toOption]

/-- What loading leads to where there is a file to read that may be replaced. -/
theorem load_of_bytes {store : LedgerStore} {files : FileSystem} {bytes : ByteArray}
    (read : files.read store.path = .ok bytes) (writable : store.isReadOnly files = false) :
    store.load files =
      match Ledger.ofBytes? bytes with
      | none => .ok (.reset .unreadable)
      | some ledger =>
        if ledger.isStale then .ok (.reset .stale)
        else
          match ledger.checkIntegrity with
          | .ok () => .ok (.loaded ledger)
          | .error findings => .error (.corrupt store.path findings) := by
  have decoded : store.read? files = Ledger.ofBytes? bytes := by
    simp [read?, read, Except.toOption]
  simp only [load, isPresent_of_read read, writable, decoded]
  rfl

/-- What loading a saved ledger leads to where the file may be replaced. -/
theorem load_of_read {store : LedgerStore} {ledger : Ledger} {files : FileSystem}
    (read : files.read store.path = .ok (bytesOf ledger))
    (writable : store.isReadOnly files = false) :
    store.load files =
      if ledger.isStale then .ok (.reset .stale)
      else
        match ledger.checkIntegrity with
        | .ok () => .ok (.loaded ledger)
        | .error findings => .error (.corrupt store.path findings) := by
  rw [load_of_bytes read writable, Ledger.ofBytes?_bytesOf]

/-- A ledger that is loaded is built on, and it passes the check. -/
theorem load_eq_ok {store : LedgerStore} {files : FileSystem} {outcome : LoadOutcome}
    (loaded : store.load files = .ok outcome) :
    (∃ reason, outcome = .reset reason) ∨
      ∃ ledger, outcome = .loaded ledger ∧ ledger.isStale = false ∧
        ledger.checkIntegrity = .ok () := by
  unfold load at loaded
  split at loaded
  next =>
    cases loaded
    exact .inl ⟨.missing, rfl⟩
  next =>
    split at loaded
    next => cases loaded
    next =>
      split at loaded
      next =>
        cases loaded
        exact .inl ⟨.unreadable, rfl⟩
      next ledger _ =>
        split at loaded
        next =>
          cases loaded
          exact .inl ⟨.stale, rfl⟩
        next standing =>
          split at loaded
          next checked =>
            cases loaded
            exact .inr ⟨ledger, rfl, Bool.eq_false_iff.2 standing, checked⟩
          next => cases loaded

/-- What is written for a ledger is read as that ledger, and its file gives it back once it was saved, as
long as nobody changed the file and it may be replaced, or says why it cannot be built on. -/
theorem load_of_save (store : LedgerStore) (ledger : Ledger) :
    Ledger.ofText? ledger.text = some ledger ∧ Ledger.ofBytes? (bytesOf ledger) = some ledger ∧
    ∀ files after later : FileSystem, store.save ledger files = (.ok (), after) →
      later.read store.path = after.read store.path → store.isReadOnly later = false →
        after.read store.path = .ok (bytesOf ledger) ∧
        (ledger.isStale = true → store.load later = .ok (.reset .stale)) ∧
        (ledger.isStale = false → ∀ findings, ledger.checkIntegrity = .error findings →
          store.load later = .error (.corrupt store.path findings)) ∧
        (ledger.isStale = false → ledger.checkIntegrity = .ok () →
          store.load later = .ok (.loaded ledger)) := by
  refine ⟨ledger.ofText?_text, ledger.ofBytes?_bytesOf, ?_⟩
  intro files after later saved untouched writable
  have stored := read_of_save saved
  have loads := load_of_read (untouched.trans stored) writable
  refine ⟨stored, ?_, ?_, ?_⟩
  · intro stale
    rw [loads, if_pos stale]
  · intro standing findings unsound
    rw [loads, standing, unsound]
    rfl
  · intro standing sound
    rw [loads, standing, sound]
    rfl

/-- The same entries are built on, found stale or found corrupt, by the watermark above them. -/
theorem load_of_save_registered :
    let store : LedgerStore := ⟨"data/ledger.json"⟩
    let registered (watermark : ComponentId) : Ledger := {
      formatVersion := 2
      nextId := watermark
      classes := .ofList [("/Game/Tür.Tür_C", ⟨"TrC", .root⟩)]
      distances := .ofList [(18446744073709551615, ⟨10000⟩)]
      index := .ofList [(⟨10000⟩, "18446744073709551615")] }
    let saved (watermark : ComponentId) : FileSystem := (store.save (registered watermark) ∅).2
    store.load (saved ⟨10001⟩) = .ok (.loaded (registered ⟨10001⟩)) ∧
      store.load (saved ⟨10000⟩) = .ok (.reset .stale) ∧
      ∃ findings, store.load (saved ⟨9999⟩) = .error (.corrupt store.path findings) := by
  intro store registered saved
  have whole (watermark : ComponentId)
      (succeeds : (store.save (registered watermark) ∅).1.isOk = true) :
      store.save (registered watermark) ∅ = (.ok (), saved watermark) :=
    Prod.ext (Task.eq_ok_of_isOk succeeds) rfl
  have loads (watermark : ComponentId)
      (succeeds : (store.save (registered watermark) ∅).1.isOk = true)
      (writable : store.isReadOnly (saved watermark) = false) :=
    ((load_of_save store (registered watermark)).2.2 _ _ _ (whole watermark succeeds) rfl writable).2
  obtain ⟨-, -, built⟩ := loads ⟨10001⟩ (by decide +kernel) (by decide +kernel)
  obtain ⟨stale, -, -⟩ := loads ⟨10000⟩ (by decide +kernel) (by decide +kernel)
  obtain ⟨-, corrupt, -⟩ := loads ⟨9999⟩ (by decide +kernel) (by decide +kernel)
  refine ⟨built (by decide +kernel) (Task.eq_ok_of_isOk (by decide +kernel)),
    stale (by decide +kernel), ?_⟩
  have unsound : (registered ⟨9999⟩).checkIntegrity.isOk = false := by decide +kernel
  cases checked : (registered ⟨9999⟩).checkIntegrity with
  | ok _ =>
    rw [checked] at unsound
    cases unsound
  | error findings => exact ⟨findings, corrupt (by decide +kernel) findings checked⟩

end LedgerStore

end ComponentSchema
