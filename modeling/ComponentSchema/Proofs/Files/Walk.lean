import ComponentSchema.Files.FileSystem
import ComponentSchema.Proofs.SortedMap

/-!
Where paths lead.  A path that leads anywhere leads to the location it spells, which does not depend
on the files; the files decide only whether it leads there.
-/

namespace ComponentSchema

namespace Path

def step (location : Location) (piece : List Char) : Location :=
  if isIdle piece then location
  else if piece = ['.', '.'] then location.dropLast
  else location ++ [String.ofList piece]

def location (path : Path) : Location := (pieces path.toList).foldl step []

theorem pieces_ne_nil (chars : List Char) : pieces chars ≠ [] := by
  cases chars with
  | nil => exact List.cons_ne_nil _ _
  | cons char rest =>
    unfold pieces
    split
    · exact List.cons_ne_nil _ _
    · cases pieces rest <;> exact List.cons_ne_nil _ _

/-- Where the last piece is empty, there is no text or it ends in a separator. -/
theorem getLast?_of_pieces {chars : List Char} (empty : (pieces chars).getLast? = some []) :
    chars = [] ∨ chars.getLast? = some '/' := by
  induction chars with
  | nil => exact .inl rfl
  | cons char rest ih =>
    right
    have later (ending : (pieces rest).getLast? = some []) (some_ : rest ≠ []) :
        (char :: rest).getLast? = some '/' := by
      rw [List.getLast?_cons_of_ne_nil some_]
      exact (ih ending).resolve_left some_
    obtain ⟨piece, more, parts⟩ := List.exists_cons_of_ne_nil (pieces_ne_nil rest)
    unfold pieces at empty
    split at empty
    next separator =>
      by_cases none : rest = []
      · rw [none, separator]
        rfl
      · rw [parts, List.getLast?_cons_cons, ← parts] at empty
        exact later empty none
    next other =>
      rw [parts] at empty
      cases more with
      | nil => cases empty
      | cons next others =>
        rw [List.getLast?_cons_cons] at empty
        refine later ?_ ?_
        · rw [parts, List.getLast?_cons_cons, empty]
        · rintro rfl
          cases parts

end Path

def Target.location : Target → Location
  | .found location | .blocked location | .vacant location _ => location

namespace FileSystem

def fileAt? (files : FileSystem) (location : Location) : Option ByteArray :=
  (files.entryAt? location).bind fun entry =>
    match entry.content with
    | .directory => none
    | .file bytes => some bytes

@[simp]
theorem entryAt?_nil (files : FileSystem) :
    files.entryAt? [] = some { content := .directory, mode := .program } := rfl

theorem entryAt?_of_ne_nil (files : FileSystem) {location : Location} (inner : location ≠ []) :
    files.entryAt? location = files.entries.find? location := by
  rw [entryAt?, if_neg]
  exact fun empty => inner (List.isEmpty_iff.1 empty)

theorem isDirectoryAt_iff {files : FileSystem} {location : Location} :
    files.isDirectoryAt location = true ↔
      ∃ mode, files.entryAt? location = some { content := .directory, mode } := by
  unfold isDirectoryAt
  cases files.entryAt? location with
  | none => simp
  | some entry =>
    obtain ⟨content, mode⟩ := entry
    cases content <;> simp

theorem fileAt?_eq_some_iff {files : FileSystem} {location : Location} {bytes : ByteArray} :
    files.fileAt? location = some bytes ↔
      ∃ mode, files.entryAt? location = some { content := .file bytes, mode } := by
  unfold fileAt?
  cases files.entryAt? location with
  | none => simp
  | some entry =>
    obtain ⟨content, mode⟩ := entry
    cases content <;> simp

theorem not_isDirectoryAt_of_fileAt? {files : FileSystem} {location : Location} {bytes : ByteArray}
    (stored : files.fileAt? location = some bytes) : files.isDirectoryAt location = false := by
  obtain ⟨mode, there⟩ := fileAt?_eq_some_iff.1 stored
  simp [isDirectoryAt, there]

/-- Whether a walk can take a step that leads where something stands. -/
def CanStep (files : FileSystem) (location : Location) (piece : List Char) : Prop :=
  Path.isIdle piece = true ∨ piece = ['.', '.'] ∨
    ((String.ofList piece).utf8ByteSize ≤ maxNameBytes ∧
      (files.entryAt? (Path.step location piece)).isSome = true)

theorem walk_step {files : FileSystem} {location : Location} {piece : List Char}
    (directory : files.isDirectoryAt location = true) (known : files.CanStep location piece)
    (rest : List (List Char)) :
    files.walk location (piece :: rest) = files.walk (Path.step location piece) rest := by
  rw [walk]
  simp only [directory, Bool.not_true, Bool.false_eq_true, if_false]
  unfold CanStep Path.step at *
  by_cases idle : Path.isIdle piece = true
  · simp only [if_pos idle]
  · by_cases up : piece = ['.', '.']
    · simp only [if_neg idle, if_pos up]
    · simp only [if_neg idle, if_neg up] at known ⊢
      obtain ⟨short, there⟩ := (known.resolve_left idle).resolve_left up
      rw [if_neg (Nat.not_lt.2 short), if_pos there]

/-- The cases of a walk that goes on for another piece. -/
theorem walk_cons {files : FileSystem} {location : Location} {piece : List Char}
    {rest : List (List Char)} {target : Target}
    (walked : files.walk location (piece :: rest) = .ok target) :
    (files.isDirectoryAt location = false ∧ (∀ other ∈ piece :: rest, other = []) ∧
        target = .blocked location) ∨
      (files.isDirectoryAt location = true ∧
        ((files.walk (Path.step location piece) rest = .ok target ∧ files.CanStep location piece) ∨
          (files.entryAt? (Path.step location piece) = none ∧ (∀ other ∈ rest, other = []) ∧
            (String.ofList piece).utf8ByteSize ≤ maxNameBytes ∧
            target = .vacant (Path.step location piece) !rest.isEmpty))) := by
  rw [walk] at walked
  split at walked
  next file =>
    left
    split at walked
    next idle =>
      cases walked
      exact ⟨by simpa using file, by simpa [List.isEmpty_iff] using idle, rfl⟩
    next => cases walked
  next directory =>
    right
    refine ⟨by simpa using directory, ?_⟩
    unfold CanStep Path.step
    split at walked
    next idle => exact .inl ⟨by rwa [if_pos idle], .inl idle⟩
    next named =>
      rw [if_neg named]
      split at walked
      next up => exact .inl ⟨by rwa [if_pos up], .inr (.inl up)⟩
      next inner =>
        rw [if_neg inner]
        dsimp only at walked
        split at walked
        next => cases walked
        next short =>
          split at walked
          next there => exact .inl ⟨walked, .inr (.inr ⟨Nat.not_lt.1 short, there⟩)⟩
          next free =>
            split at walked
            next idle =>
              cases walked
              exact .inr ⟨by simpa using free, by simpa [List.isEmpty_iff] using idle,
                Nat.not_lt.1 short, rfl⟩
            next => cases walked

theorem foldl_step_of_empty {pieces : List (List Char)} (empty : ∀ piece ∈ pieces, piece = [])
    (location : Location) : pieces.foldl Path.step location = location := by
  induction pieces with
  | nil => rfl
  | cons piece rest ih =>
    have first := empty piece List.mem_cons_self
    rw [List.foldl_cons, first]
    exact ih fun other member => empty other (List.mem_cons_of_mem _ member)

theorem location_of_walk {files : FileSystem} {start : Location} {pieces : List (List Char)}
    {target : Target} (walked : files.walk start pieces = .ok target) :
    target.location = pieces.foldl Path.step start := by
  induction pieces generalizing start with
  | nil =>
    cases walked
    rfl
  | cons piece rest ih =>
    rcases walk_cons walked with ⟨-, empty, rfl⟩ | ⟨-, ⟨walked, -⟩ | ⟨-, empty, -, rfl⟩⟩
    · exact (foldl_step_of_empty empty start).symm
    · exact ih walked
    · exact (foldl_step_of_empty empty _).symm

theorem resolve_eq_ok {files : FileSystem} {path : Path} {target : Target}
    (resolved : files.resolve path = .ok target) :
    files.walk [] (Path.pieces path.toList) = .ok target := by
  unfold resolve at resolved
  split at resolved
  · cases resolved
  · split at resolved
    · cases resolved
    · split at resolved
      · cases resolved
      · exact resolved

/-- A path that leads anywhere leads to the location it spells. -/
theorem location_of_resolve {files : FileSystem} {path : Path} {target : Target}
    (resolved : files.resolve path = .ok target) : target.location = path.location :=
  location_of_walk (resolve_eq_ok resolved)

/-- A free name is one at which nothing stands. -/
theorem entryAt?_of_walk_vacant {files : FileSystem} {start location : Location}
    {pieces : List (List Char)} {trailing : Bool}
    (walked : files.walk start pieces = .ok (.vacant location trailing)) :
    files.entryAt? location = none := by
  induction pieces generalizing start with
  | nil => cases walked
  | cons piece rest ih =>
    rcases walk_cons walked with ⟨-, -, same⟩ | ⟨-, ⟨walked, -⟩ | ⟨free, -, -, same⟩⟩
    · cases same
    · exact ih walked
    · cases same
      exact free

theorem entryAt?_of_resolve_vacant {files : FileSystem} {path : Path} {location : Location}
    {trailing : Bool} (resolved : files.resolve path = .ok (.vacant location trailing)) :
    files.entryAt? location = none :=
  entryAt?_of_walk_vacant (resolve_eq_ok resolved)

/-- Everything above a location is a directory. -/
def IsReachable (files : FileSystem) (location : Location) : Prop :=
  ∀ above, above <+: location → above ≠ location → files.isDirectoryAt above = true

theorem isReachable_nil (files : FileSystem) : files.IsReachable [] :=
  fun _ above other => absurd (List.prefix_nil.1 above) other

theorem IsReachable.of_prefix {files : FileSystem} {above location : Location}
    (reachable : files.IsReachable location) (higher : above <+: location) :
    files.IsReachable above := by
  intro other prefix_ different
  refine reachable other (prefix_.trans higher) ?_
  rintro rfl
  exact different (prefix_.eq_of_length_le higher.length_le)

/-- From a directory that can be reached every step leads to what can be reached. -/
theorem IsReachable.step {files : FileSystem} {location : Location}
    (reachable : files.IsReachable location) (directory : files.isDirectoryAt location = true)
    (piece : List Char) : files.IsReachable (Path.step location piece) := by
  unfold Path.step
  split_ifs with idle up
  · exact reachable
  · exact reachable.of_prefix (List.dropLast_prefix location)
  · intro above higher other
    rcases List.prefix_concat_iff.1 higher with same | shorter
    · exact absurd same other
    · by_cases same : above = location
      · exact same ▸ directory
      · exact reachable above shorter same

theorem isReachable_of_walk {files : FileSystem} {start : Location} {pieces : List (List Char)}
    {target : Target} (reachable : files.IsReachable start)
    (walked : files.walk start pieces = .ok target) : files.IsReachable target.location := by
  induction pieces generalizing start with
  | nil =>
    cases walked
    exact reachable
  | cons piece rest ih =>
    rcases walk_cons walked with ⟨-, -, rfl⟩ | ⟨directory, ⟨walked, -⟩ | ⟨-, -, -, rfl⟩⟩
    · exact reachable
    · exact ih (reachable.step directory piece) walked
    · exact reachable.step directory piece

/-- Where a path leads, everything above is a directory. -/
theorem isReachable_of_resolve {files : FileSystem} {path : Path} {target : Target}
    (resolved : files.resolve path = .ok target) : files.IsReachable path.location :=
  location_of_resolve resolved ▸ isReachable_of_walk (isReachable_nil files) (resolve_eq_ok resolved)

/-- Every directory that can be reached stays one. -/
def KeepsDirectories (files after : FileSystem) : Prop :=
  ∀ location, files.IsReachable location → files.isDirectoryAt location = true →
    after.isDirectoryAt location = true

theorem KeepsDirectories.isReachable {files after : FileSystem} {location : Location}
    (kept : files.KeepsDirectories after) (reachable : files.IsReachable location) :
    after.IsReachable location := by
  intro above higher different
  exact kept above (reachable.of_prefix higher) (reachable above higher different)

instance : Std.Refl KeepsDirectories where
  refl _ := fun _ _ directory => directory

instance : IsTrans FileSystem KeepsDirectories where
  trans _ _ _ earlier later := fun location reachable directory =>
    later location (earlier.isReachable reachable) (earlier location reachable directory)

/-- A walk that led to a file or to a free name leads to the file that stands there later, as long as
the directories stay. -/
theorem walk_of_fileAt? {files after : FileSystem} {place start : Location}
    {pieces : List (List Char)} {target : Target} {bytes : ByteArray}
    (kept : files.KeepsDirectories after)
    (stored : after.fileAt? place = some bytes) (vacancy : files.isDirectoryAt place = false)
    (landing : target = .found place ∨ target = .vacant place false)
    (reachable : files.IsReachable start) (walked : files.walk start pieces = .ok target) :
    after.walk start pieces = .ok (.found place) := by
  obtain ⟨mode, there⟩ := fileAt?_eq_some_iff.1 stored
  induction pieces generalizing start with
  | nil =>
    cases walked
    rcases landing with same | same <;> cases same
    rfl
  | cons piece rest ih =>
    rcases walk_cons walked with ⟨-, -, rfl⟩ | ⟨directory, ⟨walked, known⟩ | ⟨free, -, short, rfl⟩⟩
    · rcases landing with same | same <;> cases same
    · have inner := reachable.step directory piece
      have still : after.CanStep start piece := by
        rcases known with idle | up | ⟨short, stands⟩
        · exact .inl idle
        · exact .inr (.inl up)
        · refine .inr (.inr ⟨short, ?_⟩)
          by_cases opened : files.isDirectoryAt (Path.step start piece) = true
          · obtain ⟨mode, stays⟩ := isDirectoryAt_iff.1 (kept _ inner opened)
            rw [stays, Option.isSome_some]
          · -- the walk does not go on below what is no directory
            have ends : Path.step start piece = place := by
              cases rest with
              | nil =>
                cases walked
                rcases landing with same | same <;> cases same
                rfl
              | cons another others =>
                rcases walk_cons walked with ⟨-, -, rfl⟩ | ⟨directory, -⟩
                · rcases landing with same | same <;> cases same
                · exact absurd directory opened
            rw [ends, there, Option.isSome_some]
      rw [walk_step (kept start reachable directory) still]
      exact ih inner walked
    · have ends : Path.step start piece = place ∧ rest = [] := by
        rcases landing with same | same
        · cases same
        · rw [Target.vacant.injEq, Bool.not_eq_false', List.isEmpty_iff] at same
          exact same
      have still : after.CanStep start piece := by
        refine .inr (.inr ⟨short, ?_⟩)
        rw [ends.1, there, Option.isSome_some]
      rw [walk_step (kept start reachable directory) still, ends.1, ends.2]
      rfl

theorem stat_eq_ok_iff {files : FileSystem} {path : Path} {location : Location} {entry : Entry} :
    files.stat path = .ok (location, entry) ↔
      files.resolve path = .ok (.found location) ∧ files.entryAt? location = some entry := by
  unfold stat
  cases resolved : files.resolve path with
  | error reason => exact ⟨fun same => (by cases same), fun same => (by cases same.1)⟩
  | ok target =>
    cases target with
    | vacant place trailing => exact ⟨fun same => (by cases same), fun same => (by cases same.1)⟩
    | blocked place => exact ⟨fun same => (by cases same), fun same => (by cases same.1)⟩
    | found place =>
      simp only [bind, Except.bind, Except.ok.injEq, Target.found.injEq]
      cases there : files.entryAt? place with
      | none =>
        constructor
        · exact fun same => by cases same
        · rintro ⟨rfl, same⟩
          rw [there] at same
          cases same
      | some found =>
        constructor
        · intro same
          cases same
          exact ⟨rfl, there⟩
        · rintro ⟨rfl, same⟩
          rw [there] at same
          cases same
          rfl

/-- A file is read exactly if its path leads to it. -/
theorem read_eq_ok_iff {files : FileSystem} {path : Path} {bytes : ByteArray} :
    files.read path = .ok bytes ↔
      files.resolve path = .ok (.found path.location) ∧
        files.fileAt? path.location = some bytes := by
  have reading : files.read path = .ok bytes ↔
      ∃ location mode, files.stat path = .ok (location, { content := .file bytes, mode }) := by
    unfold read
    cases stated : files.stat path with
    | error reason => exact ⟨fun same => (by cases same), fun ⟨_, _, same⟩ => (by cases same)⟩
    | ok found =>
      obtain ⟨location, ⟨content, mode⟩⟩ := found
      cases content with
      | directory => exact ⟨fun same => (by cases same), fun ⟨_, _, same⟩ => (by cases same)⟩
      | file others =>
        constructor
        · intro same
          cases same
          exact ⟨location, mode, rfl⟩
        · rintro ⟨_, _, same⟩
          cases same
          rfl
  rw [reading]
  constructor
  · rintro ⟨location, mode, stated⟩
    obtain ⟨resolved, there⟩ := stat_eq_ok_iff.1 stated
    have spelled : location = path.location := location_of_resolve resolved
    rw [← spelled]
    exact ⟨resolved, fileAt?_eq_some_iff.2 ⟨mode, there⟩⟩
  · rintro ⟨resolved, stored⟩
    obtain ⟨mode, there⟩ := fileAt?_eq_some_iff.1 stored
    exact ⟨path.location, mode, stat_eq_ok_iff.2 ⟨resolved, there⟩⟩

/-- The same for a whole path. -/
theorem read_of_fileAt? {files after : FileSystem} {path : Path} {target : Target}
    {bytes : ByteArray}
    (kept : files.KeepsDirectories after)
    (stored : after.fileAt? path.location = some bytes)
    (vacancy : files.isDirectoryAt path.location = false)
    (landing : target = .found path.location ∨ target = .vacant path.location false)
    (resolved : files.resolve path = .ok target) : after.read path = .ok bytes := by
  refine read_eq_ok_iff.2 ⟨?_, stored⟩
  have walked := walk_of_fileAt? kept stored vacancy landing (isReachable_nil files)
    (resolve_eq_ok resolved)
  unfold resolve at resolved ⊢
  split_ifs at resolved ⊢
  exact walked

end FileSystem

end ComponentSchema
