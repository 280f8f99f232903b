import ComponentSchema.Proofs.Files.Sparing
import ComponentSchema.Proofs.Ledger.Store

/-!
What saving a ledger does to other files: nothing, whether the save succeeds or fails, and if it fails
the file of the ledger is left alone as well.
-/

namespace ComponentSchema

namespace LedgerStore

theorem spares_createParent (store : LedgerStore) {place : Location} :
    Task.Keeps (FileSystem.Spares place) store.createParent := by
  unfold createParent
  cases store.path.parent? with
  | none => exact .pure ()
  | some parent =>
    refine .ite (fun _ => .pure ()) fun _ => ?_
    exact FileAction.keeps_reporting (FileAction.spares_createDirectories parent) "create" parent

/-- A save that fails does no more than to create directories, to write the temporary file and to remove
it again. -/
theorem of_save_eq_error {relation : FileSystem → FileSystem → Prop} [Std.Refl relation]
    [IsTrans FileSystem relation] {store : LedgerStore} {ledger : Ledger}
    {files after : FileSystem} {error : StoreError}
    (creates : Task.Keeps relation store.createParent)
    (writes : Task.Keeps relation (FileAction.writeSynced store.temporary (bytesOf ledger)))
    (discards : Task.Keeps relation (FileAction.removeFile store.temporary))
    (failed : store.save ledger files = (.error error, after)) : relation files after := by
  unfold save whenWritable at failed
  split at failed
  · cases failed
    exact Std.Refl.refl files
  · rcases replaced : store.replaceWith ledger files with ⟨failure | _, last⟩
    · rw [replaced] at failed
      cases failed
      rcases Task.bind_eq_error.1 replaced with uncreated | ⟨_, made, created, unreplaced⟩
      · exact creates.of_eq uncreated
      · exact trans_of relation (creates.of_eq created)
          (FileTask.of_replace_eq_error writes discards unreplaced)
    · rw [replaced] at failed
      cases failed

/-- A ledger that could not be saved leaves the one that is stored alone. -/
theorem spares_of_save_eq_error {store : LedgerStore} {ledger : Ledger}
    {files after : FileSystem} {error : StoreError}
    (failed : store.save ledger files = (.error error, after)) :
    files.Spares store.path.location after :=
  of_save_eq_error store.spares_createParent
    (FileAction.spares_writeSynced store.temporary_location_ne (bytesOf ledger))
    (FileAction.spares_removeFile store.temporary_location_ne) failed

end LedgerStore

/-- Only the files can make a save fail. -/
theorem LedgerStore.error_of_save {store : LedgerStore} {ledger : Ledger}
    {files after : FileSystem} {error : StoreError}
    (failed : store.save ledger files = (.error error, after)) :
    error = .readOnly store.path ∨ ∃ failure, error = .file failure := by
  unfold save whenWritable at failed
  split at failed
  · cases failed
    exact .inl rfl
  · rcases replaced : store.replaceWith ledger files with ⟨failure | _, last⟩
    · rw [replaced] at failed
      cases failed
      exact .inr ⟨failure, rfl⟩
    · rw [replaced] at failed
      cases failed

/-- The temporary file lies below no directory that the ledger does not lie below. -/
theorem LedgerStore.not_isAbove_temporary {store : LedgerStore} {location : Location}
    (apart : ¬location <+: store.path.location) :
    ¬location.IsAbove store.temporary.location := by
  obtain ⟨above, name, spelled, higher, -⟩ := store.temporary_location
  rw [spelled]
  rintro ⟨before, different⟩
  rcases List.prefix_concat_iff.1 before with same | shorter
  · exact different same
  · exact apart (shorter.trans higher)

/-- How a ledger is saved: it is written to the temporary file, which then takes its place. -/
theorem LedgerStore.steps_of_save {store : LedgerStore} {ledger : Ledger} {files after : FileSystem}
    (saved : store.save ledger files = (.ok (), after)) :
    ∃ made mode, store.createParent files = (.ok (), made) ∧ made.IsOpen store.temporary.location ∧
      (made.put store.temporary.location { content := .file (bytesOf ledger), mode }).IsOpen
        store.path.location ∧
      after = (made.put store.temporary.location { content := .file (bytesOf ledger), mode }).move
        store.temporary.location store.path.location := by
  obtain ⟨made, created, replaced⟩ := save_eq_ok saved
  obtain ⟨mode, open_, goal, -, same⟩ := FileTask.replace_eq_ok replaced
  exact ⟨made, mode, created, open_, goal, same⟩

/-- A ledger that is saved changes no file but its own. -/
theorem LedgerStore.spares_of_save_eq_ok {store : LedgerStore} {ledger : Ledger} {place : Location}
    {files after : FileSystem} (elsewhere : store.temporary.location ≠ place)
    (apart : ¬store.path.location <+: place) (saved : store.save ledger files = (.ok (), after)) :
    files.Spares place after := by
  obtain ⟨made, mode, created, open_, goal, rfl⟩ := steps_of_save saved
  have written := FileSystem.spares_put open_ elsewhere { content := .file (bytesOf ledger), mode }
  have standing : (made.put store.temporary.location
      { content := .file (bytesOf ledger), mode }).IsOpen store.temporary.location := by
    have stored := FileSystem.fileAt?_put_file made open_.ne_nil (bytesOf ledger) mode
      store.temporary.location
    rw [if_pos rfl] at stored
    exact FileSystem.isOpen_of_fileAt? ((FileSystem.keepsDirectories_put open_ _).isReachable
      open_.reachable) stored
  have moved := FileSystem.spares_move standing goal elsewhere apart
  exact trans_of (FileSystem.Spares place) (store.spares_createParent.of_eq created)
    (trans_of (FileSystem.Spares place) written moved)

/-- A ledger is not saved where a file has a directory above it. -/
theorem LedgerStore.not_above_of_save {store : LedgerStore} {ledger : Ledger} {place : Location}
    {bytes : ByteArray} {files after : FileSystem} (holds : files.Holds place bytes)
    (elsewhere : store.temporary.location ≠ place) (different : store.path.location ≠ place)
    (saved : store.save ledger files = (.ok (), after)) : ¬store.path.location <+: place := by
  obtain ⟨made, mode, created, open_, goal, -⟩ := steps_of_save saved
  have spared : files.Spares place made := store.spares_createParent.of_eq created
  have written := FileSystem.spares_put open_ elsewhere { content := .file (bytesOf ledger), mode }
  exact (written.keeps bytes (spared.keeps bytes holds)).not_above goal.vacancy different

end ComponentSchema
