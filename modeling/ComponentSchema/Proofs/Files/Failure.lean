import ComponentSchema.Files.Failure
import ComponentSchema.Proofs.Files.Effects

/-!
File work that reports what it was for.  Making a directory fresh empties it if it was there, and
replacing a file leaves either the new file under its name or, when it fails, whatever was there.
-/

namespace ComponentSchema

namespace FileAction

variable {α : Type}

theorem reporting_eq_ok_iff {work : FileAction α} {action : String} {path : Path}
    {files after : FileSystem} {value : α} :
    work.reporting action path files = (.ok value, after) ↔ work files = (.ok value, after) := by
  unfold reporting
  rcases work files with ⟨_ | _, _⟩
  · exact ⟨fun same => (by cases same), fun same => (by cases same)⟩
  · constructor
    · intro same
      cases same
      rfl
    · intro same
      cases same
      rfl

theorem reporting_snd (work : FileAction α) (action : String) (path : Path)
    (files : FileSystem) : (work.reporting action path files).2 = (work files).2 := by
  unfold reporting
  rcases work files with ⟨_ | _, _⟩ <;> rfl

theorem keeps_reporting {relation : FileSystem → FileSystem → Prop} {work : FileAction α}
    (kept : Task.Keeps relation work) (action : String) (path : Path) :
    Task.Keeps relation (work.reporting action path) := by
  intro files
  rw [reporting_snd]
  exact kept files

end FileAction

namespace FileTask

variable {relation : FileSystem → FileSystem → Prop}

theorem keeps_freshDirectory [Std.Refl relation] [IsTrans FileSystem relation] {path : Path}
    (clears : ∀ files, files.IsReachable path.location →
      files.isDirectoryAt path.location = true →
        relation files (files.clearBelow path.location) ∧
          relation files ((files.clearBelow path.location).removeAt path.location))
    (puts : ∀ files location mode, files.IsOpen location → files.entryAt? location = none →
      relation files (files.put location { content := .directory, mode }))
    (clearing creating : String) : Task.Keeps relation (freshDirectory path clearing creating) := by
  have creation := FileAction.keeps_reporting (FileAction.keeps_createDirectories puts path)
    creating path
  unfold freshDirectory
  refine Task.Keeps.get.bind fun files => ?_
  split
  · refine Task.Keeps.bind ?_ fun _ => creation
    exact FileAction.keeps_reporting (FileAction.keeps_removeDirectory clears) clearing path
  · exact creation

/-- Once a directory was made fresh, it had been emptied before it was created, unless its path led
nowhere. -/
theorem freshDirectory_eq_ok {path : Path} {clearing creating : String}
    {files after : FileSystem}
    (made : freshDirectory path clearing creating files = (.ok (), after)) :
    ∃ cleared, FileAction.createDirectories path cleared = (.ok (), after) ∧
      (cleared = files.clearBelow path.location ∨
        cleared = (files.clearBelow path.location).removeAt path.location ∨
          (files.pathExists path = false ∧ cleared = files)) := by
  unfold freshDirectory at made
  obtain ⟨_, _, got, rest⟩ := Task.bind_eq_ok.1 made
  cases got
  cases there : files.pathExists path with
  | false =>
    simp only [there, Bool.false_eq_true, if_false] at rest
    exact ⟨files, FileAction.reporting_eq_ok_iff.1 rest, .inr (.inr ⟨rfl, rfl⟩)⟩
  | true =>
    simp only [there, if_true] at rest
    obtain ⟨_, cleared, removed, created⟩ := Task.bind_eq_ok.1 rest
    refine ⟨cleared, FileAction.reporting_eq_ok_iff.1 created, ?_⟩
    rcases FileAction.removeDirectory_eq_ok (FileAction.reporting_eq_ok_iff.1 removed) with
      same | same
    · exact .inl same
    · exact .inr (.inl same)

/-- A file that could not be replaced was left alone: at most the temporary one was written, and then it
was discarded. -/
theorem of_replace_eq_error [Std.Refl relation] [IsTrans FileSystem relation] {path temporary : Path}
    {bytes : ByteArray} {writing replacing : String} {files after : FileSystem}
    {failure : FileFailure} (writes : Task.Keeps relation (FileAction.writeSynced temporary bytes))
    (discards : Task.Keeps relation (FileAction.removeFile temporary))
    (failed : replace path temporary bytes writing replacing files = (.error failure, after)) :
    relation files after := by
  have writes := FileAction.keeps_reporting writes writing temporary
  have discarding : Task.Keeps relation (discard temporary) := discards
  unfold replace at failed
  rw [Task.tryCatch_apply] at failed
  rcases work : ((FileAction.writeSynced temporary bytes).reporting writing temporary >>= fun _ =>
    (FileAction.rename temporary path).reporting replacing path) files with ⟨reason | _, between⟩
  · rw [work] at failed
    -- a rename that is refused changes nothing
    have attempted : relation files between := by
      rcases Task.bind_eq_error.1 work with unwritten | ⟨_, written, ended, refused⟩
      · exact writes.of_eq unwritten
      · have same := FileAction.reporting_snd (FileAction.rename temporary path) replacing path
          written
        rw [refused] at same
        rcases renamed : FileAction.rename temporary path written with ⟨reason | _, last⟩
        · rw [renamed] at same
          obtain rfl : between = last := same
          rw [FileAction.eq_of_attempt_eq_error renamed]
          exact writes.of_eq ended
        · rw [FileAction.reporting_eq_ok_iff.2 renamed] at refused
          cases refused
    exact trans_of relation attempted ((discarding.bind fun _ => .throw reason).of_eq failed)
  · rw [work] at failed
    cases failed

/-- A file that was replaced went by way of the temporary one. -/
theorem replace_eq_ok {path temporary : Path} {bytes : ByteArray} {writing replacing : String}
    {files after : FileSystem}
    (replaced : replace path temporary bytes writing replacing files = (.ok (), after)) :
    ∃ mode, files.IsOpen temporary.location ∧
      (files.put temporary.location { content := .file bytes, mode }).IsOpen path.location ∧
        ((files.put temporary.location { content := .file bytes, mode }).resolve path =
            .ok (.found path.location) ∨
          (files.put temporary.location { content := .file bytes, mode }).resolve path =
            .ok (.vacant path.location false)) ∧
        after = (files.put temporary.location { content := .file bytes, mode }).move
          temporary.location path.location := by
  unfold replace at replaced
  rw [Task.tryCatch_apply] at replaced
  split at replaced
  next value last ended =>
    cases replaced
    obtain ⟨_, between, written, renamed⟩ := Task.bind_eq_ok.1 ended
    obtain ⟨open_, -, mode, rfl⟩ :=
      FileAction.write_eq_ok (FileAction.writeSynced_eq_ok (FileAction.reporting_eq_ok_iff.1 written))
    have stored : (files.put temporary.location { content := .file bytes, mode }).fileAt?
        temporary.location = some bytes := by
      refine FileSystem.fileAt?_eq_some_iff.2 ⟨mode, ?_⟩
      rw [FileSystem.entryAt?_put _ open_.ne_nil, if_pos rfl]
    obtain ⟨-, goal, landing, same⟩ :=
      FileAction.rename_eq_ok (FileAction.reporting_eq_ok_iff.1 renamed) stored
    exact ⟨mode, open_, goal, landing, same⟩
  next failure last ended =>
    obtain ⟨_, between, -, thrown⟩ := Task.bind_eq_ok.1 replaced
    cases thrown

end FileTask

end ComponentSchema
