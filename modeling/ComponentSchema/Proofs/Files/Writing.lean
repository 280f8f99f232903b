import ComponentSchema.Proofs.Files.Sparing

/-!
Files written one after the other.  Afterwards each place that was written holds what was written there
last, and every other place is spared.
-/

namespace ComponentSchema

/-- Bytes with the path they are written to. -/
structure Write where
  path : Path
  bytes : ByteArray

/-- What some writes leave at a place, if one of them goes there. -/
def lastWrite? (writes : List Write) (place : Location) : Option ByteArray :=
  (writes.reverse.find? fun write => write.path.location = place).map Write.bytes

theorem lastWrite?_append (first second : List Write) (place : Location) :
    lastWrite? (first ++ second) place = (lastWrite? second place).or (lastWrite? first place) := by
  unfold lastWrite?
  rw [List.reverse_append, List.find?_append, Option.map_or]

theorem lastWrite?_singleton (write : Write) (place : Location) :
    lastWrite? [write] place = if write.path.location = place then some write.bytes else none := by
  by_cases here : write.path.location = place
  · simp [lastWrite?, here]
  · simp [lastWrite?, here]

namespace FileSystem

/-- The files take some writes, and nothing else becomes of them. -/
structure Takes (writes : List Write) (files after : FileSystem) : Prop where
  written : ∀ place bytes, lastWrite? writes place = some bytes → after.Holds place bytes
  spared : ∀ place, lastWrite? writes place = none → files.Spares place after

theorem Takes.refl (files : FileSystem) : Takes [] files files :=
  ⟨fun _ _ same => (by cases same), fun _ _ => Std.Refl.refl files⟩

theorem Takes.trans {earlier later : List Write} {files between after : FileSystem}
    (first : Takes earlier files between) (second : Takes later between after) :
    Takes (earlier ++ later) files after := by
  constructor
  · intro place bytes last
    rw [lastWrite?_append] at last
    cases again : lastWrite? later place with
    | some other =>
      rw [again, Option.some_or] at last
      exact second.written place bytes (again.trans last)
    | none =>
      rw [again, Option.none_or] at last
      exact (second.spared place again).keeps bytes (first.written place bytes last)
  · intro place none
    rw [lastWrite?_append, Option.or_eq_none_iff] at none
    exact trans_of (Spares place) (first.spared place none.2) (second.spared place none.1)

end FileSystem

/-- A file that is written with its parents is taken. -/
theorem FileAction.takes_writeWithParents {path : Path} {bytes : ByteArray}
    {files after : FileSystem} (wrote : writeWithParents path bytes files = (.ok (), after)) :
    files.Takes [⟨path, bytes⟩] after := by
  have last : ∃ between, write path bytes .plain between = (.ok (), after) := by
    unfold writeWithParents at wrote
    cases parented : path.parent? with
    | none =>
      rw [parented] at wrote
      exact ⟨files, wrote⟩
    | some parent =>
      rw [parented] at wrote
      obtain ⟨_, between, -, wrote⟩ := Task.bind_eq_ok.1 wrote
      exact ⟨between, wrote⟩
  constructor
  · intro place content written
    rw [lastWrite?_singleton] at written
    split at written
    next here =>
      cases written
      obtain ⟨between, wrote⟩ := last
      obtain ⟨open_, -, mode, rfl⟩ := write_eq_ok wrote
      rw [← here]
      refine ⟨?_, (FileSystem.keepsDirectories_put open_ _).isReachable open_.reachable⟩
      rw [FileSystem.fileAt?_put_file _ open_.ne_nil, if_pos rfl]
    next => cases written
  · intro place unwritten
    rw [lastWrite?_singleton] at unwritten
    split at unwritten
    next => cases unwritten
    next elsewhere =>
      have kept : Task.Keeps (FileSystem.Spares place) (writeWithParents path bytes) :=
        keeps_writeWithParents
          (fun _ _ mode open_ free => FileSystem.spares_put_directory open_ free mode)
          (fun _ _ _ open_ => FileSystem.spares_put open_ elsewhere _)
      exact kept.of_eq wrote

end ComponentSchema
