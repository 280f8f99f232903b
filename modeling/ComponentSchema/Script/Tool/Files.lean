import ComponentSchema.Script.Tool.Options
import ComponentSchema.Script.Tool.Permissions

/-!
Tools that make, copy, move and remove files and directories.
-/

namespace ComponentSchema.Script.Tool

/-- A path without the separators at its end. -/
def trimmed (path : Text) : Text :=
  match (path.reverse.dropWhile (· == '/')).reverse with
  | [] => if path.isEmpty then [] else ['/']
  | kept => kept

def lastPart (path : Text) : Text :=
  let path := trimmed path
  if path = ['/'] then path else (path.reverse.takeWhile (· != '/')).reverse

def inside (directory name : Text) : Text :=
  if directory.getLast? = some '/' then directory ++ name else directory ++ '/' :: name

/-- The report of something that could not be done to a path. -/
def problem (what : String) (path : Text) (reason : IoError) : Text :=
  what.toList ++ Quoting.always path ++ ": ".toList ++ plainReason reason

/-- Reports what went wrong, if something did, and tells whether all went well. -/
def settled (what : String) (path : Text) (reason : Option IoError) : Tool Bool := do
  match reason with
  | none => pure true
  | some reason => do
    complain (problem what path reason)
    pure false

/-- Reports something and answers that it failed. -/
def rejected (text : Text) : Tool Bool := do
  complain text
  pure false

/-! ## Making -/

/-- Makes a directory, whose mode may be told: whether that worked. -/
def makeDirectory (telling : Bool) (mode : Option Text) (path : Text) : Tool Bool := do
  let mask := (← get).mask
  let mode := (mode.bind fun text => Permissions.changed? mask 0o777 text true).getD
    ((0o777 : Mode).without mask)
  match ← onFiles (FileAction.createDirectory (← Tool.path path) mode) with
  | none => do
    if telling then printLine ("mkdir: created directory ".toList ++ Quoting.always path)
    pure true
  | some reason =>
    rejected ("cannot create directory ".toList ++ Quoting.word path ++ ": ".toList ++
      plainReason reason)

/-- Makes a directory and those above it; a directory that is there is fine. -/
def makeLineage (telling : Bool) (mode : Option Text) (path : Text) : Tool Bool := do
  let parts := Text.splitAt '/' path
  let fronts := (List.range parts.length).map fun count =>
    Text.joined ['/'] (parts.take (count + 1))
  makeAll (fronts.filter fun front => !front.isEmpty && front.getLast? != some '/')
where
  /-- Makes directories one inside the other until one cannot be made. -/
  makeAll : List Text → Tool Bool
    | [] => pure true
    | front :: rest => do
      match ← stat front with
      | .ok (_, { content := .directory, .. }) => makeAll rest
      | .ok _ => do
        let reason : IoError := if rest.isEmpty then .alreadyExists else .notDirectory
        rejected ("cannot create directory ".toList ++ Quoting.word front ++ ": ".toList ++
          plainReason reason)
      | .error _ => do
        let wanted := if rest.isEmpty then mode else none
        if ← makeDirectory telling wanted front then makeAll rest else pure false

def mkdir : Program := fun arguments => do
  let (given, operands) ← Options.usual
    [.flag "p" "parents", .flag "v" "verbose", .valued "m" "mode", .loose "Z" "context"] arguments
  if operands.isEmpty then refuse 1 "missing operand".toList
  let mode := given.last? "mode"
  match mode.filter fun text => !Permissions.isChange text with
  | none => pure ()
  | some mode => fail 1 ("invalid mode ".toList ++ Quoting.word mode)
  let telling := given.has "verbose"
  onEach (fun path =>
    if given.has "parents" && !path.isEmpty then makeLineage telling mode path
    else makeDirectory telling mode path) operands

def touch : Program := fun arguments => do
  let (given, operands) ← Options.usual
    [.flag "a" "", .flag "c" "no-create", .valued "d" "date", .flag "f" "",
      .flag "h" "no-dereference", .flag "m" "", .valued "r" "reference", .valued "t" "",
      .valued "" "time"] arguments
  if operands.isEmpty then refuse 1 "missing file operand".toList
  onEach (fun text => do
    if sinkPaths.contains text then pure true
    else
      let path ← Tool.path text
      match (← get).files.resolve path with
      | .ok (.found _) => pure true
      | .ok (.blocked _) => settled "setting times of " text (some .notDirectory)
      | .ok (.vacant _ true) =>
        if given.has "no-create" then pure true
        else settled "setting times of " text (some .notFound)
      | .ok (.vacant _ false) =>
        if given.has "no-create" then pure true
        else
          settled "cannot touch " text (← writeFile text [])
      | .error reason =>
        if given.has "no-create" && reason = .notFound then pure true
        else settled "cannot touch " text (some reason)) operands

/-- A change of permissions. -/
structure ModeChange where
  given : Given
  /-- The mode after it: of a mode, and whether it is one of a directory. -/
  after : Mode → Bool → Mode
  /-- What the mode after it looks as if it were meant to be. -/
  meant : Mode → Bool → Mode

/-- A mode in digits and letters. -/
def modeWording (mode : Mode) : Text :=
  Permissions.octalText mode ++ " (".toList ++ Permissions.lettersText mode ++ [')']

/-- Changes the permissions of what stands at a location, which is known by a path: whether they
are what they look meant to be. -/
def changeModeAt (change : ModeChange) (path : Text) (location : Location) (entry : Entry) :
    Tool Bool := do
  let isDirectory := entry.content == .directory
  let mode := change.after entry.mode isDirectory
  modify fun process => { process with files := process.files.put location { entry with mode } }
  let front := "mode of ".toList ++ Quoting.always path
  if mode ≠ entry.mode then
    if change.given.has "verbose" || change.given.has "changes" then
      printLine (front ++ " changed from ".toList ++ modeWording entry.mode ++ " to ".toList ++
        modeWording mode)
  else if change.given.has "verbose" then
    printLine (front ++ " retained as ".toList ++ modeWording mode)
  let meant := change.meant entry.mode isDirectory
  if mode.without meant = 0 then pure true
  else
    rejected (Quoting.ifNeeded path ++ ": new permissions are ".toList ++
      Permissions.lettersText mode ++ ", not ".toList ++ Permissions.lettersText meant)

/-- Changes the permissions of what a path leads to, and of what is below it if that is asked
for. -/
def changeMode (change : ModeChange) (text : Text) : Tool Bool := do
  match ← stat text with
  | .error reason =>
    if change.given.has "silent" || change.given.has "quiet" then pure false
    else settled "cannot access " text (some reason)
  | .ok (location, _) => do
    let isMeant := fun (other : Location) =>
      other = location || (change.given.has "recursive" && location.isPrefixOf other)
    let entries := (← get).files.entries.entries.filter fun entry => isMeant entry.1
    let results ← entries.mapM fun (other, entry) =>
      let below := other.drop location.length
      changeModeAt change (below.foldl (fun path name => inside path name.toList) text) other entry
    pure (results.all id)

/-- Whether an argument takes permissions away, and is no option. -/
def takesRights (argument : Text) : Bool :=
  match argument with
  | '-' :: letter :: _ => ['r', 'w', 'x', 'X', 's', 't', 'u', 'g', 'o'].contains letter
  | _ => false

/-- Changes permissions. -/
def chmod : Program := fun arguments => do
  let taken := arguments.find? takesRights
  let arguments := arguments.filter fun argument => !takesRights argument
  let (given, operands) ← Options.usual
    [.flag "c" "changes", .flag "f" "silent", .flag "" "quiet", .flag "v" "verbose",
      .flag "R" "recursive", .flag "" "no-preserve-root", .flag "" "preserve-root",
      .valued "" "reference"] arguments
  let mask := (← get).mask
  let reference := given.last? "reference"
  let (text, operands) ←
    match if reference.isSome then some [] else taken, operands with
    | some text, operands => pure (text, operands)
    | none, text :: operands =>
      if operands.isEmpty then refuse 1 ("missing operand after ".toList ++ Quoting.word text)
      else pure (text, operands)
    | none, [] => refuse 1 "missing operand".toList
  if operands.isEmpty then refuse 1 "missing operand".toList
  match reference with
  | some reference => do
    match ← stat reference with
    | .error reason => fail 1 (problem "failed to get attributes of " reference reason)
    | .ok (_, { mode, .. }) =>
      onEach (changeMode ⟨given, fun _ _ => mode, fun _ _ => mode⟩) operands
  | none => do
    if !Permissions.isChange text then refuse 1 ("invalid mode: ".toList ++ Quoting.word text)
    let told := fun (mask : Mode) (mode : Mode) (isDirectory : Bool) =>
      (Permissions.changed? mask mode text isDirectory).getD mode
    onEach (changeMode ⟨given, told mask, told (if taken.isSome then 0 else mask)⟩) operands

/-! ## Removing -/

def removeOne (given : Given) (text : Text) : Tool Bool := do
  let recursive := given.has "recursive"
  let forced := given.lastOf? ["force", "i"] = some "force"
  match ← stat text with
  | .error reason =>
    if forced && (reason = .notFound || reason = .notDirectory) then pure true
    else settled "cannot remove " text (some reason)
  | .ok (location, entry) => do
    let isDirectory := entry.content == .directory
    let last := lastPart text
    if isDirectory && !recursive && !given.has "dir" then
      settled "cannot remove " text (some .isDirectory)
    else if isDirectory && trimmed text = ['/'] then
      complain "it is dangerous to operate recursively on '/'".toList
      rejected "use --no-preserve-root to override this failsafe".toList
    else if isDirectory && (last = ['.'] || last = ['.', '.']) then
      rejected ("refusing to remove '.' or '..' directory: skipping ".toList ++
        Quoting.always (trimmed text))
    else
      let process ← get
      if isDirectory && !recursive && process.files.isOccupied location then
        settled "cannot remove " text (some .notEmpty)
      else
        set { process with files := process.files.removeAt location }
        if given.has "verbose" then
          printLine ((if isDirectory then "removed directory " else "removed ").toList ++
            Quoting.always text)
        pure true

/-- Removes files, and directories if that is asked for. -/
def rm : Program := fun arguments => do
  let (given, operands) ← Options.usual
    [.flag "f" "force", .flag "i" "", .flag "I" "", .loose "" "interactive",
      .flag "" "one-file-system", .flag "" "no-preserve-root", .loose "" "preserve-root",
      .flag "rR" "recursive", .flag "d" "dir", .flag "v" "verbose"] arguments
  if operands.isEmpty then
    if given.has "force" then pure 0 else refuse 1 "missing operand".toList
  else onEach (removeOne given) operands

/-- Removes an empty directory, and those above it as long as they are empty and that is asked for;
there are at most so many. -/
def removeEmpty (given : Given) : Nat → Text → Tool Bool
  | 0, _ => pure true
  | count + 1, text => do
    let reason ←
      match ← stat text with
      | .error reason => pure (some reason)
      | .ok (location, entry) => do
        let process ← get
        if entry.content != .directory then pure (some IoError.notDirectory)
        else if lastPart text = ['.'] then pure (some .invalidArgument)
        else if process.files.isOccupied location then pure (some .notEmpty)
        else do
          set { process with files := process.files.removeAt location }
          pure none
    match reason with
    | some .notEmpty =>
      if given.has "ignore-fail-on-non-empty" then pure true
      else settled "failed to remove " text (some .notEmpty)
    | some reason => settled "failed to remove " text (some reason)
    | none =>
      let above := trimmed (text.take (text.length - (lastPart text).length))
      if given.has "parents" && !above.isEmpty && above ≠ ['/'] then removeEmpty given count above
      else pure true

/-- Removes empty directories. -/
def rmdir : Program := fun arguments => do
  let (given, operands) ← Options.usual
    [.flag "" "ignore-fail-on-non-empty", .flag "p" "parents", .flag "v" "verbose"] arguments
  if operands.isEmpty then refuse 1 "missing operand".toList
  onEach (fun text => removeEmpty given (text.length + 1) (trimmed text)) operands

/-! ## Copying and moving -/

/-- Where sources go to. -/
inductive Goal where
  /-- To names of their own in a directory. -/
  | into (directory : Text)
  | exactly (target : Text)

def goalOf (given : Given) (operands : List Text) : Tool (List Text × Goal) := do
  match operands, given.last? "target-directory" with
  | [], _ => refuse 1 "missing file operand".toList
  | _, some directory =>
    if ← isDirectory directory then pure (operands, .into directory)
    else
      fail 1 (problem "target directory " directory
        (if ← isThere directory then .notDirectory else .notFound))
  | [only], none =>
    refuse 1 ("missing destination file operand after ".toList ++ Quoting.always only)
  | [source, target], none =>
    if given.has "no-target-directory" || !(← isDirectory target) then
      pure ([source], .exactly target)
    else pure ([source], .into target)
  | operands, none => do
    let target := operands.getLast?.getD []
    if given.has "no-target-directory" then
      refuse 1 ("extra operand ".toList ++ Quoting.always ((operands[2]?).getD []))
    else if ← isDirectory target then pure (operands.dropLast, .into target)
    else
      fail 1 (problem "target " target (if ← isThere target then .notDirectory else .notFound))

def Goal.pathFor (goal : Goal) (source : Text) : Text :=
  match goal with
  | .into directory => Tool.inside directory (lastPart source)
  | .exactly target => target

/-- Copies what stands at a location or below it to another place, without the permissions that a
mask takes; the permissions of what is there already stay. -/
def copyTree (files : FileSystem) (mask : Mode) (location place : Location) : FileSystem :=
  let copied := files.entries.entries.filter fun entry => location.isPrefixOf entry.1
  copied.foldl (fun files (entry : Location × Entry) =>
    let target := place ++ entry.1.drop location.length
    match files.entryAt? target, entry.2.content with
    | some { content := .file _, mode }, .file bytes =>
      files.put target { content := .file bytes, mode }
    | some { content := .directory, .. }, .directory => files
    | _, _ => files.put target { entry.2 with mode := entry.2.mode.without mask }) files

/-- Tells from where to where something went, if that is asked for. -/
def tellMove (given : Given) (what : String) (source target : Text) : Tool Unit := do
  if given.has "verbose" then
    printLine (what.toList ++ Quoting.always source ++ " -> ".toList ++ Quoting.always target)

/-- Copies a file or directory to a path. -/
def copyOne (given : Given) (source target : Text) : Tool Bool := do
  let quotedSource := Quoting.always source
  let quotedTarget := Quoting.always target
  if source = nullPath then
    settled "cannot create regular file " target (← writeFile target [])
  else
    match ← stat source with
    | .error reason => settled "cannot stat " source (some reason)
    | .ok (location, entry) => do
      let isTree := entry.content == .directory
      let process ← get
      let goal := process.files.resolve (← Tool.path target)
      let there := match goal with
        | .ok (.found place) => some place
        | _ => none
      let isTreeThere := there.any process.files.isDirectoryAt
      if isTree && !(given.has "recursive" || given.has "archive") then
        rejected ("-r not specified; omitting directory ".toList ++ quotedSource)
      else if sinkPaths.contains target then pure true
      else if there = some location then
        rejected (quotedSource ++ " and ".toList ++ quotedTarget ++ " are the same file".toList)
      else if isTree && there.isSome && !isTreeThere then
        rejected ("cannot overwrite non-directory ".toList ++ quotedTarget ++
          " with directory ".toList ++ quotedSource)
      else if !isTree && isTreeThere then
        rejected ("cannot overwrite directory ".toList ++ quotedTarget ++
          " with non-directory".toList)
      else if given.has "no-clobber" && there.isSome && !isTree then pure true
      else
        match goal with
        | .ok (.found place) | .ok (.vacant place _) =>
          match goal, isTree with
          | .ok (.vacant _ true), false =>
            settled "cannot create regular file " target (some .notDirectory)
          | _, _ => do
            let mask := if given.has "archive" || given.has "preserve" || given.has "p" then 0
              else process.mask
            set { process with files := copyTree process.files mask location place }
            if isTree && location.isPrefixOf place then
              rejected ("cannot copy a directory, ".toList ++ quotedSource ++
                ", into itself, ".toList ++ quotedTarget)
            else
              tellMove given "" source target
              pure true
        | .ok (.blocked _) => settled "cannot create regular file " target (some .notDirectory)
        | .error reason =>
          settled (if isTree then "cannot create directory " else "cannot create regular file ")
            target (some reason)

/-- The options of copying and moving. -/
def transferOptions : List OptionForm :=
  [.loose "" "backup", .flag "b" "", .flag "f" "force", .flag "i" "interactive",
    .flag "n" "no-clobber", .flag "T" "no-target-directory", .flag "" "strip-trailing-slashes",
    .valued "S" "suffix", .valued "t" "target-directory", .loose "" "update", .flag "u" "",
    .flag "v" "verbose", .flag "Z" "context", .flag "" "debug"]

/-- Copies files, and directories if that is asked for. -/
def cp : Program := fun arguments => do
  let (given, operands) ← Options.usual
    (transferOptions ++
      [.flag "a" "archive", .flag "" "attributes-only", .flag "" "copy-contents",
        .flag "d" "", .flag "L" "dereference", .flag "H" "", .flag "l" "link",
        .flag "P" "no-dereference", .valued "" "no-preserve", .flag "x" "one-file-system",
        .flag "" "parents", .flag "p" "", .loose "" "preserve", .flag "rR" "recursive",
        .flag "" "remove-destination", .loose "" "reflink", .valued "" "sparse",
        .flag "s" "symbolic-link"]) arguments
  if given.has "no-clobber" then
    complain ("warning: behavior of -n is non-portable and may change in future; " ++
      "use --update=none instead").toList
  let (sources, goal) ← goalOf given operands
  onEach (fun source => copyOne given source (goal.pathFor source)) sources

/-- Moves a file or directory to a path. -/
def moveOne (given : Given) (source target : Text) : Tool Bool := do
  let quotedSource := Quoting.always source
  let quotedTarget := Quoting.always target
  match ← stat source with
  | .error reason => settled "cannot stat " source (some reason)
  | .ok (location, entry) => do
    let isTree := entry.content == .directory
    let process ← get
    let there := match process.files.resolve (← Tool.path target) with
      | .ok (.found place) => some place
      | _ => none
    let isTreeThere := there.any process.files.isDirectoryAt
    let place := match process.files.resolve (← Tool.path target) with
      | .ok (.found place) | .ok (.vacant place _) => some place
      | _ => none
    if there = some location then
      rejected (quotedSource ++ " and ".toList ++ quotedTarget ++ " are the same file".toList)
    else if given.has "no-clobber" && there.isSome then
      rejected ("not replacing ".toList ++ quotedTarget)
    else if isTree && there.isSome && !isTreeThere then
      rejected ("cannot overwrite non-directory ".toList ++ quotedTarget ++
        " with directory ".toList ++ quotedSource)
    else if !isTree && isTreeThere then
      rejected ("cannot overwrite directory ".toList ++ quotedTarget ++
        " with non-directory".toList)
    else if isTree && place.any (location.isPrefixOf ·) then
      rejected ("cannot move ".toList ++ quotedSource ++ " to a subdirectory of itself, ".toList ++
        quotedTarget)
    else
      match ← onFiles (FileAction.rename (← Tool.path source) (← Tool.path target)) with
      | none => do
        tellMove given "renamed " source target
        pure true
      | some .notEmpty => settled "cannot overwrite " target (some .notEmpty)
      | some reason =>
        rejected ("cannot move ".toList ++ quotedSource ++ " to ".toList ++ quotedTarget ++
          ": ".toList ++ plainReason reason)

/-- Moves files and directories. -/
def mv : Program := fun arguments => do
  let (given, operands) ← Options.usual
    (.flag "" "no-copy" :: transferOptions) arguments
  let (sources, goal) ← goalOf given operands
  onEach (fun source => moveOne given source (goal.pathFor source)) sources

end ComponentSchema.Script.Tool
