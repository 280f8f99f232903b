import ComponentSchema.Proofs.Files.Failure
import ComponentSchema.Proofs.Files.Location

/-!
Work that leaves one place alone.  A file can be lost in two ways, by what is done at its place and by
what is done to a directory above it, and it can appear in one way only.
-/

namespace ComponentSchema

/-- Whether a location lies strictly above another. -/
def Location.IsAbove (location other : Location) : Prop := location <+: other ∧ location ≠ other

theorem Location.isAbove_append (location : Location) {rest : Location} (deeper : rest ≠ []) :
    location.IsAbove (location ++ rest) :=
  ⟨List.prefix_append _ _, fun same => deeper (List.self_eq_append_right.1 same)⟩

/-- A path that goes down only: all it passes through lies above the place it leads to. -/
def Path.IsDirect (path : Path) : Prop :=
  ∀ front, front <+: Path.pieces path.toList → front.foldl Path.step [] <+: path.location

/-- A path that never goes up is one. -/
theorem Path.isDirect_of_notMem {path : Path} (down : ['.', '.'] ∉ pieces path.toList) :
    path.IsDirect := by
  rintro front ⟨rest, whole⟩
  unfold Path.location
  rw [← whole, List.foldl_append]
  have later : ['.', '.'] ∉ rest := fun up => down (whole ▸ List.mem_append_right front up)
  generalize front.foldl step [] = start
  clear whole
  induction rest generalizing start with
  | nil => exact List.prefix_rfl
  | cons piece rest ih =>
    rw [List.mem_cons, not_or] at later
    refine List.IsPrefix.trans ?_ (ih later.2 _)
    unfold step
    rw [if_neg (Ne.symm later.1)]
    split
    · exact List.prefix_rfl
    · exact List.prefix_append _ _

namespace FileSystem

/-- Whatever stands anywhere stands in a directory. -/
def IsTree (files : FileSystem) : Prop :=
  ∀ location entry, files.entryAt? location = some entry → files.IsReachable location

/-- A file with some bytes stands at a place, below directories only. -/
structure Holds (files : FileSystem) (place : Location) (bytes : ByteArray) : Prop where
  stored : files.fileAt? place = some bytes
  reachable : files.IsReachable place

theorem IsTree.holds {files : FileSystem} (tree : files.IsTree) {place : Location}
    {bytes : ByteArray} (stored : files.fileAt? place = some bytes) : files.Holds place bytes := by
  obtain ⟨mode, there⟩ := fileAt?_eq_some_iff.1 stored
  exact ⟨stored, tree place _ there⟩

def KeepsFree (place : Location) (files after : FileSystem) : Prop :=
  files.fileAt? place = none → after.fileAt? place = none

instance (place : Location) : Std.Refl (KeepsFree place) where
  refl _ := fun none => none

instance (place : Location) : IsTrans FileSystem (KeepsFree place) where
  trans _ _ _ earlier later := fun none => later (earlier none)

def KeepsFile (place : Location) (files after : FileSystem) : Prop :=
  after.fileAt? place = files.fileAt? place

instance (place : Location) : Std.Refl (KeepsFile place) where
  refl _ := rfl

instance (place : Location) : IsTrans FileSystem (KeepsFile place) where
  trans _ _ _ earlier later := later.trans earlier

/-- The file at a place stays as it is or is lost. -/
def KeepsOrLoses (place : Location) (files after : FileSystem) : Prop :=
  after.fileAt? place = none ∨ after.fileAt? place = files.fileAt? place

instance (place : Location) : Std.Refl (KeepsOrLoses place) where
  refl _ := .inr rfl

instance (place : Location) : IsTrans FileSystem (KeepsOrLoses place) where
  trans _ _ _ earlier later := by
    rcases later with none | same
    · exact .inl none
    · exact earlier.imp same.trans same.trans

theorem KeepsOrLoses.keepsFree {place : Location} {files after : FileSystem}
    (kept : files.KeepsOrLoses place after) : files.KeepsFree place after :=
  fun none => kept.elim id fun same => same.trans none

/-- The file at a place is left alone, and where there is none none appears. -/
structure Spares (place : Location) (files after : FileSystem) : Prop where
  keeps : ∀ bytes, files.Holds place bytes → after.Holds place bytes
  absent : files.KeepsFree place after

instance (place : Location) : Std.Refl (Spares place) where
  refl _ := ⟨fun _ holds => holds, fun none => none⟩

instance (place : Location) : IsTrans FileSystem (Spares place) where
  trans _ _ _ earlier later :=
    ⟨fun bytes holds => later.keeps bytes (earlier.keeps bytes holds),
      fun none => later.absent (earlier.absent none)⟩

section

variable {files : FileSystem} {place location : Location}

theorem fileAt?_congr {after : FileSystem} (same : after.entryAt? place = files.entryAt? place) :
    after.fileAt? place = files.fileAt? place := by
  unfold fileAt?
  rw [same]

/-- What changes neither the file at a place nor any directory spares the place. -/
theorem spares_of_fileAt? {after : FileSystem}
    (same : after.fileAt? place = files.fileAt? place) (kept : files.KeepsDirectories after) :
    files.Spares place after :=
  ⟨fun _ holds => ⟨same.trans holds.stored, kept.isReachable holds.reachable⟩, same.trans⟩

theorem fileAt?_put_of_ne (open_ : files.IsOpen location) (elsewhere : location ≠ place)
    (entry : Entry) : (files.put location entry).fileAt? place = files.fileAt? place := by
  refine fileAt?_congr ?_
  rw [entryAt?_put _ open_.ne_nil, if_neg (Ne.symm elsewhere)]

/-- A directory that is put where nothing stands changes no file. -/
theorem fileAt?_put_directory (open_ : files.IsOpen location)
    (free : files.entryAt? location = none) (mode : Mode) (place : Location) :
    (files.put location { content := .directory, mode }).fileAt? place = files.fileAt? place := by
  by_cases elsewhere : location = place
  · subst elsewhere
    simp [fileAt?, entryAt?_put _ open_.ne_nil, free]
  · exact fileAt?_put_of_ne open_ elsewhere _

/-- A file that is put elsewhere spares the place. -/
theorem spares_put (open_ : files.IsOpen location) (elsewhere : location ≠ place) (entry : Entry) :
    files.Spares place (files.put location entry) :=
  spares_of_fileAt? (fileAt?_put_of_ne open_ elsewhere entry) (keepsDirectories_put open_ entry)

theorem spares_put_directory (open_ : files.IsOpen location)
    (free : files.entryAt? location = none) (mode : Mode) :
    files.Spares place (files.put location { content := .directory, mode }) :=
  spares_of_fileAt? (fileAt?_put_directory open_ free mode place) (keepsDirectories_put open_ _)

/-- A file system stays one in which everything stands in a directory. -/
theorem IsTree.put (tree : files.IsTree) (open_ : files.IsOpen location) (entry : Entry) :
    (files.put location entry).IsTree := by
  have kept := keepsDirectories_put open_ entry
  intro other found there
  rw [entryAt?_put _ open_.ne_nil] at there
  split at there
  next same => exact kept.isReachable (same ▸ open_.reachable)
  next => exact kept.isReachable (tree other found there)

/-- What changes nothing at a place or above it spares the place. -/
theorem spares_of_entryAt? {after : FileSystem}
    (stays : ∀ other, other <+: place → after.entryAt? other = files.entryAt? other) :
    files.Spares place after := by
  have same := fileAt?_congr (stays place List.prefix_rfl)
  refine ⟨fun bytes holds => ⟨same.trans holds.stored, ?_⟩, same.trans⟩
  intro above higher different
  unfold isDirectoryAt
  rw [stays above higher]
  exact holds.reachable above higher different

/-- Emptying a directory that is not above the place spares it. -/
theorem spares_clearBelow (outside : ¬location.IsAbove place) :
    files.Spares place (files.clearBelow location) := by
  refine spares_of_entryAt? fun other higher => ?_
  rw [entryAt?_clearBelow, if_neg]
  rintro ⟨below, different⟩
  refine outside ⟨below.trans higher, ?_⟩
  rintro rfl
  exact different (below.eq_of_length_le higher.length_le).symm

theorem keepsOrLoses_clearBelow (files : FileSystem) (location : Location) :
    files.KeepsOrLoses place (files.clearBelow location) := by
  unfold KeepsOrLoses fileAt?
  rw [entryAt?_clearBelow]
  split
  · exact .inl rfl
  · exact .inr rfl

theorem keepsOrLoses_removeAt (files : FileSystem) (location : Location) :
    files.KeepsOrLoses place (files.removeAt location) := by
  unfold KeepsOrLoses fileAt?
  rw [entryAt?_removeAt]
  split
  · exact .inl rfl
  · exact .inr rfl

theorem keepsFree_removeAt (location : Location) : files.KeepsFree place (files.removeAt location) :=
  (keepsOrLoses_removeAt files location).keepsFree

/-- Nothing is left below a directory that was emptied. -/
theorem fileAt?_clearBelow (files : FileSystem) (above : location.IsAbove place) :
    (files.clearBelow location).fileAt? place = none := by
  unfold fileAt?
  rw [entryAt?_clearBelow, if_pos ⟨above.1, Ne.symm above.2⟩]
  rfl

/-- Removing what stands elsewhere and not above the place spares it. -/
theorem spares_removeAt (outside : ∀ bytes, files.Holds place bytes → ¬location <+: place) :
    files.Spares place (files.removeAt location) := by
  refine ⟨fun bytes holds => ?_, keepsFree_removeAt location⟩
  refine (spares_of_entryAt? fun other higher => ?_).keeps bytes holds
  rw [entryAt?_removeAt, if_neg]
  exact fun below => outside bytes holds (below.1.trans higher)

/-- A walk down to a file leads to the file in any file system that has one at that place. -/
theorem walk_of_holds {after : FileSystem} {start : Location} {parts : List (List Char)}
    {bytes : ByteArray}
    (direct : ∀ front, front <+: parts → front.foldl Path.step start <+: place)
    (file : files.isDirectoryAt place = false) (holds : after.Holds place bytes)
    (walked : files.walk start parts = .ok (.found place)) :
    after.walk start parts = .ok (.found place) := by
  induction parts generalizing start with
  | nil =>
    cases walked
    rfl
  | cons piece rest ih =>
    rcases walk_cons walked with ⟨-, -, same⟩ | ⟨directory, ⟨walked, known⟩ | ⟨-, -, -, same⟩⟩
    · cases same
    · have here : start <+: place := direct [] (List.nil_prefix)
      have next : Path.step start piece <+: place := direct [piece] ⟨rest, rfl⟩
      have different : start ≠ place := by
        rintro rfl
        rw [directory] at file
        cases file
      have still : after.CanStep start piece := by
        rcases known with idle | up | ⟨short, -⟩
        · exact .inl idle
        · exact .inr (.inl up)
        · refine .inr (.inr ⟨short, ?_⟩)
          by_cases arrived : Path.step start piece = place
          · obtain ⟨mode, there⟩ := fileAt?_eq_some_iff.1 holds.stored
            rw [arrived, there, Option.isSome_some]
          · obtain ⟨mode, there⟩ := isDirectoryAt_iff.1 (holds.reachable _ next arrived)
            rw [there, Option.isSome_some]
      rw [walk_step (holds.reachable start here different) still]
      refine ih (fun front higher => ?_) walked
      exact direct (piece :: front) (List.cons_prefix_cons.2 ⟨rfl, higher⟩)
    · cases same

/-- A file that is left alone is read as before under a path that goes down only, and where none was
read none is. -/
theorem read_of_spares {after : FileSystem} {path : Path} (direct : path.IsDirect)
    (tree : files.IsTree) (spares : files.Spares path.location after) :
    (after.read path).toOption = (files.read path).toOption := by
  have onward {first second : FileSystem} {bytes other : ByteArray}
      (read : first.read path = .ok bytes) (holds : second.Holds path.location other) :
      second.read path = .ok other := by
    obtain ⟨resolved, stored⟩ := read_eq_ok_iff.1 read
    have walked := walk_of_holds direct (not_isDirectoryAt_of_fileAt? stored) holds
      (resolve_eq_ok resolved)
    refine read_eq_ok_iff.2 ⟨?_, holds.stored⟩
    unfold resolve at resolved ⊢
    split_ifs at resolved ⊢
    exact walked
  cases read : files.read path with
  | ok bytes =>
    have holds := spares.keeps bytes (tree.holds (read_eq_ok_iff.1 read).2)
    rw [onward read holds]
  | error reason =>
    cases later : after.read path with
    | error reason => rfl
    | ok bytes =>
      exfalso
      have stored := (read_eq_ok_iff.1 later).2
      cases before : files.fileAt? path.location with
      | none =>
        rw [spares.absent before] at stored
        cases stored
      | some old =>
        rw [onward later (tree.holds before)] at read
        cases read

/-- What is above a place that holds a file is a directory. -/
theorem Holds.not_above {bytes : ByteArray} (holds : files.Holds place bytes)
    (vacancy : files.isDirectoryAt location = false) (elsewhere : location ≠ place) :
    ¬location <+: place := by
  intro above
  rw [holds.reachable location above elsewhere] at vacancy
  cases vacancy

/-- Whatever is put neither at the place nor above it spares the place. -/
theorem spares_put_of_not_above (inner : location ≠ []) (outside : ¬location <+: place)
    (entry : Entry) : files.Spares place (files.put location entry) := by
  refine spares_of_entryAt? fun other higher => ?_
  rw [entryAt?_put _ inner, if_neg]
  rintro rfl
  exact outside higher

/-- A file that moves elsewhere spares the place. -/
theorem spares_move {target : Location} (open_ : files.IsOpen location)
    (goal : files.IsOpen target) (elsewhere : location ≠ place) (apart : ¬target <+: place) :
    files.Spares place (files.move location target) := by
  constructor
  · intro bytes holds
    refine ⟨?_, (keepsDirectories_move open_ goal).isReachable holds.reachable⟩
    have outside := holds.not_above open_.vacancy elsewhere
    exact (fileAt?_congr (entryAt?_move_outside _ goal.ne_nil outside apart)).trans holds.stored
  · intro free
    have moved : (files.move location target).entryAt? place =
        ((files.removeAt location).removeAt target).entryAt? place := by
      refine entryAt?_foldl_put (fun moved => target ++ moved.drop location.length) ?_ _ ?_
      · intro entry member empty
        exact goal.ne_nil (List.append_eq_nil_iff.1 empty).1
      · intro entry member same
        exact apart ⟨_, same⟩
    rw [fileAt?_congr moved]
    exact keepsFree_removeAt target (keepsFree_removeAt location free)

theorem isTree_empty : IsTree ∅ := by
  intro location entry there
  by_cases root : location = []
  · exact root ▸ isReachable_nil ∅
  · rw [entryAt?_of_ne_nil _ root] at there
    cases there

end

end FileSystem

namespace FileAction

variable {place : Location}

theorem spares_createDirectories (path : Path) :
    Task.Keeps (FileSystem.Spares place) (createDirectories path) :=
  keeps_createDirectories
    (fun _ _ mode open_ free => FileSystem.spares_put_directory open_ free mode) path

theorem keepsFile_createDirectories (path : Path) :
    Task.Keeps (FileSystem.KeepsFile place) (createDirectories path) :=
  keeps_createDirectories
    (fun _ _ mode open_ free => FileSystem.fileAt?_put_directory open_ free mode place) path

theorem spares_writeSynced {path : Path} (elsewhere : path.location ≠ place) (bytes : ByteArray) :
    Task.Keeps (FileSystem.Spares place) (writeSynced path bytes) :=
  keeps_writeSynced fun _ _ _ open_ => FileSystem.spares_put open_ elsewhere _

theorem keeps_writeWithParents {relation : FileSystem → FileSystem → Prop} [Std.Refl relation]
    [IsTrans FileSystem relation] {path : Path} {bytes : ByteArray}
    (creates : ∀ files location mode, files.IsOpen location → files.entryAt? location = none →
      relation files (files.put location { content := .directory, mode }))
    (puts : ∀ files arrived mode, files.IsOpen path.location →
      relation files (files.put path.location { content := .file arrived, mode })) :
    Task.Keeps relation (writeWithParents path bytes) := by
  have writing : Task.Keeps relation (write path bytes) := keeps_write puts
  unfold writeWithParents
  cases path.parent? with
  | none => exact writing
  | some parent => exact (keeps_createDirectories creates parent).bind fun _ => writing

theorem spares_removeFile {path : Path} (elsewhere : path.location ≠ place) :
    Task.Keeps (FileSystem.Spares place) (removeFile path) := by
  refine keeps_removeFile fun files bytes _ stored => ?_
  refine FileSystem.spares_removeAt fun _ holds => ?_
  exact holds.not_above (FileSystem.not_isDirectoryAt_of_fileAt? stored) elsewhere

end FileAction

namespace FileTask

variable {place : Location}

theorem spares_freshDirectory {path : Path} (outside : ¬path.location.IsAbove place)
    (clearing creating : String) :
    Task.Keeps (FileSystem.Spares place) (freshDirectory path clearing creating) := by
  refine keeps_freshDirectory (fun files _ directory => ?_)
    (fun _ _ mode open_ free => FileSystem.spares_put_directory open_ free mode) clearing creating
  have cleared : files.Spares place (files.clearBelow path.location) :=
    FileSystem.spares_clearBelow outside
  refine ⟨cleared, trans_of (FileSystem.Spares place) cleared ?_⟩
  refine FileSystem.spares_removeAt fun bytes holds above => ?_
  by_cases same : path.location = place
  · -- the directory itself is not the place of a file
    have stands : (files.clearBelow path.location).isDirectoryAt path.location = true := by
      unfold FileSystem.isDirectoryAt at directory ⊢
      rwa [FileSystem.entryAt?_clearBelow, if_neg fun below => below.2 rfl]
    have stored := holds.stored
    rw [← same] at stored
    rw [FileSystem.not_isDirectoryAt_of_fileAt? stored] at stands
    cases stands
  · exact outside ⟨above, same⟩

theorem keepsOrLoses_freshDirectory (path : Path) (clearing creating : String) :
    Task.Keeps (FileSystem.KeepsOrLoses place) (freshDirectory path clearing creating) := by
  refine keeps_freshDirectory (fun files _ _ => ?_)
    (fun _ _ mode open_ free => .inr (FileSystem.fileAt?_put_directory open_ free mode place))
    clearing creating
  have cleared : files.KeepsOrLoses place (files.clearBelow path.location) :=
    files.keepsOrLoses_clearBelow path.location
  exact ⟨cleared, trans_of (FileSystem.KeepsOrLoses place) cleared
    (FileSystem.keepsOrLoses_removeAt _ path.location)⟩

theorem keepsFree_freshDirectory (path : Path) (clearing creating : String) :
    Task.Keeps (FileSystem.KeepsFree place) (freshDirectory path clearing creating) :=
  fun files => (keepsOrLoses_freshDirectory path clearing creating files).keepsFree

/-- A directory that is there and lies above a place is not made fresh without the loss of the file
at that place, even if that fails. -/
theorem fileAt?_freshDirectory {path : Path} {files : FileSystem}
    (above : path.location.IsAbove place) (there : files.pathExists path = true)
    (directory : files.isDirectoryAt path.location = true) (clearing creating : String) :
    (freshDirectory path clearing creating files).2.fileAt? place = none := by
  have emptied : (files.clearBelow path.location).fileAt? place = none := files.fileAt?_clearBelow above
  have removed : ((FileAction.removeDirectory path).reporting clearing path files).2.fileAt? place =
      none := by
    rw [FileAction.reporting_snd]
    rcases FileAction.removeDirectory_snd there directory with same | same
    · rw [same]
      exact emptied
    · rw [same]
      exact FileSystem.keepsFree_removeAt _ emptied
  unfold freshDirectory
  rw [Task.bind_apply, Task.get_apply]
  dsimp only
  rw [if_pos there, Task.bind_apply]
  rcases ended : (FileAction.removeDirectory path).reporting clearing path files with
    ⟨_ | _, between⟩
  · rw [ended] at removed
    exact removed
  · rw [ended] at removed
    exact FileAction.keeps_reporting (FileAction.spares_createDirectories path) creating path
      between |>.absent removed

/-- Below a directory that was made fresh there is no file, unless the directory was not found; then all
files are as they were. -/
theorem fileAt?_freshDirectory_eq_ok {path : Path} {clearing creating : String}
    {files after : FileSystem} (above : path.location.IsAbove place)
    (made : freshDirectory path clearing creating files = (.ok (), after)) :
    after.fileAt? place = if files.pathExists path then none else files.fileAt? place := by
  have creates : Task.Keeps (FileSystem.KeepsFile place) (FileAction.createDirectories path) :=
    FileAction.keepsFile_createDirectories path
  cases there : files.pathExists path with
  | false =>
    have same := FileAction.keeps_reporting creates creating path
    unfold freshDirectory at made
    rw [Task.bind_apply, Task.get_apply] at made
    simp only [there, Bool.false_eq_true, if_false] at made ⊢
    exact same.of_eq made
  | true =>
    have free : (files.clearBelow path.location).fileAt? place = none := files.fileAt?_clearBelow above
    obtain ⟨cleared, created, emptied⟩ := freshDirectory_eq_ok made
    have same : after.fileAt? place = cleared.fileAt? place := creates.of_eq created
    rw [same, if_pos rfl]
    rcases emptied with rfl | rfl | ⟨absent, -⟩
    · exact free
    · exact FileSystem.keepsFree_removeAt _ free
    · rw [there] at absent
      cases absent

/-- Where nothing is there to be emptied, making a directory fresh spares every place. -/
theorem spares_freshDirectory_of_absent {path : Path} {files : FileSystem}
    (absent : files.pathExists path = false) (clearing creating : String) :
    files.Spares place (freshDirectory path clearing creating files).2 := by
  unfold freshDirectory
  rw [Task.bind_apply, Task.get_apply]
  simp only [absent, Bool.false_eq_true, if_false]
  exact FileAction.keeps_reporting (FileAction.spares_createDirectories path) creating path files

end FileTask

end ComponentSchema
