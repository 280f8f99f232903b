import ComponentSchema.SortedMap
import ComponentSchema.Files.Mode
import ComponentSchema.Files.Path

/-!
The file system as a value.  Its root stands for the working directory, so absolute and relative
paths start at the same place.  Operations answer with the errors of the system calls behind them,
and what was done before an error stays done.

There are no symbolic links, and permissions are kept but refuse nothing.  The medium beneath may fail
while a file is being written; what had arrived until then is what the file holds.
-/

namespace ComponentSchema

/-- Why an operation on files failed. -/
inductive IoError where
  | notFound
  | permissionDenied
  /-- A place that cannot be given away, such as the directory the program works in. -/
  | busy
  | alreadyExists
  | notDirectory
  | isDirectory
  | invalidArgument
  | nameTooLong
  | notEmpty
  | invalidExecutable
  /-- Programs that lead to one another without end. -/
  | tooManyLevels
  /-- A path with the character that ends paths in system calls. -/
  | nulInPath
  /-- An argument of a program with that character. -/
  | nulInArgument
  /-- The medium has no room left. -/
  | storageFull
  /-- The medium failed. -/
  | deviceFailure
  /-- Text was asked for where the bytes are none. -/
  | invalidUtf8
deriving DecidableEq, Repr

/-- The system's wording of an error. -/
def IoError.message : IoError → String
  | .notFound => "No such file or directory (os error 2)"
  | .deviceFailure => "Input/output error (os error 5)"
  | .invalidExecutable => "Exec format error (os error 8)"
  | .permissionDenied => "Permission denied (os error 13)"
  | .tooManyLevels => "Too many levels of symbolic links (os error 40)"
  | .busy => "Device or resource busy (os error 16)"
  | .alreadyExists => "File exists (os error 17)"
  | .notDirectory => "Not a directory (os error 20)"
  | .isDirectory => "Is a directory (os error 21)"
  | .invalidArgument => "Invalid argument (os error 22)"
  | .storageFull => "No space left on device (os error 28)"
  | .nameTooLong => "File name too long (os error 36)"
  | .notEmpty => "Directory not empty (os error 39)"
  | .nulInPath => "file name contained an unexpected NUL byte"
  | .nulInArgument => "nul byte found in provided data"
  | .invalidUtf8 => "stream did not contain valid UTF-8"

/-- What stands at a place. -/
inductive Content where
  | directory
  | file (bytes : ByteArray)

instance : DecidableEq Content
  | .directory, .directory => isTrue rfl
  | .directory, .file _ => isFalse nofun
  | .file _, .directory => isFalse nofun
  | .file first, .file second =>
    if same : first.data = second.data then isTrue (congrArg Content.file (ByteArray.ext same))
    else isFalse fun equal => same (congrArg ByteArray.data (Content.file.inj equal))

/-- What stands at a place, with its permissions. -/
structure Entry where
  content : Content
  mode : Mode := .plain
deriving DecidableEq

/-- The names from the root down to a place. -/
abbrev Location := List String

/-- How the medium fails the files written at a place: so many bytes arrive, and none after them.  Even a file
that arrived whole cannot be made sure of there. -/
structure Fault where
  arriving : Nat
  reason : IoError
deriving DecidableEq

/-- Everything below the root, and where the medium fails. -/
structure FileSystem where
  entries : SortedMap Location Entry := ∅
  faults : SortedMap Location Fault := ∅
deriving DecidableEq, Inhabited

instance : EmptyCollection FileSystem := ⟨{}⟩

/-- Work on files that may fail; the files are as the work left them even then. -/
abbrev FileAction (α : Type) := ExceptT IoError (StateM FileSystem) α

/-- Where a path leads. -/
inductive Target where
  /-- To something that is there. -/
  | found (location : Location)
  /-- To a file with a separator behind its name, as if it were a directory. -/
  | blocked (location : Location)
  /-- To a free name in a directory; `trailing` tells that a separator follows the name. -/
  | vacant (location : Location) (trailing : Bool)
deriving DecidableEq, Repr

namespace FileSystem

/-- The longest name of a file or directory, in bytes. -/
def maxNameBytes : Nat := 255

def maxPathBytes : Nat := 4095

/-- What stands at a location; the root is always a directory. -/
def entryAt? (files : FileSystem) (location : Location) : Option Entry :=
  if location.isEmpty then some { content := .directory, mode := .program }
  else files.entries.find? location

def isDirectoryAt (files : FileSystem) (location : Location) : Bool :=
  (files.entryAt? location).any fun entry => entry.content == .directory

/-- Follows the pieces of a path from a location. -/
def walk (files : FileSystem) (location : Location) : List (List Char) → Except IoError Target
  | [] => .ok (.found location)
  | piece :: rest =>
    if !files.isDirectoryAt location then
      if (piece :: rest).all List.isEmpty then .ok (.blocked location) else .error .notDirectory
    else if Path.isIdle piece then walk files location rest
    else if piece = ['.', '.'] then walk files location.dropLast rest
    else
      let name := String.ofList piece
      if name.utf8ByteSize > maxNameBytes then .error .nameTooLong
      else if (files.entryAt? (location ++ [name])).isSome then
        walk files (location ++ [name]) rest
      else if rest.all List.isEmpty then .ok (.vacant (location ++ [name]) !rest.isEmpty)
      else .error .notFound

def resolve (files : FileSystem) (path : Path) : Except IoError Target :=
  if path.toList.contains '\x00' then .error .nulInPath
  else if path.isEmpty then .error .notFound
  else if path.utf8ByteSize > maxPathBytes then .error .nameTooLong
  else walk files [] (Path.pieces path.toList)

def stat (files : FileSystem) (path : Path) : Except IoError (Location × Entry) := do
  match ← files.resolve path with
  | .vacant _ _ => throw .notFound
  | .blocked _ => throw .notDirectory
  | .found location =>
    match files.entryAt? location with
    | some entry => pure (location, entry)
    | none => throw .notFound

def entry? (files : FileSystem) (path : Path) : Option Entry :=
  ((files.stat path).toOption).map Prod.snd

def pathExists (files : FileSystem) (path : Path) : Bool := (files.entry? path).isSome

def isFile (files : FileSystem) (path : Path) : Bool :=
  (files.entry? path).any fun entry => entry.content != .directory

def isDirectory (files : FileSystem) (path : Path) : Bool :=
  (files.entry? path).any fun entry => entry.content == .directory

/-- Whether a path leads to something without permission to write. -/
def isReadOnly (files : FileSystem) (path : Path) : Bool :=
  (files.entry? path).any fun entry => !entry.mode.isWritable

def read (files : FileSystem) (path : Path) : Except IoError ByteArray := do
  match (← files.stat path).2.content with
  | .directory => throw .isDirectory
  | .file bytes => pure bytes

def readText (files : FileSystem) (path : Path) : Except IoError String := do
  match String.fromUTF8? (← files.read path) with
  | some text => pure text
  | none => throw .invalidUtf8

def put (files : FileSystem) (location : Location) (entry : Entry) : FileSystem :=
  { files with entries := files.entries.insert location entry }

/-- Removes whatever stands below a location. -/
def clearBelow (files : FileSystem) (location : Location) : FileSystem :=
  { files with
    entries := files.entries.filter fun other _ => !location.isPrefixOf other || other == location }

/-- Whether something stands below a location. -/
def isOccupied (files : FileSystem) (location : Location) : Bool :=
  files.entries.keys.any fun other => location.isPrefixOf other && other != location

/-- Removes whatever stands at a location or below it. -/
def removeAt (files : FileSystem) (location : Location) : FileSystem :=
  { files with entries := files.entries.filter fun other _ => !location.isPrefixOf other }

/-- Moves whatever stands at a location or below it to another place, in place of what is there. -/
def move (files : FileSystem) (location place : Location) : FileSystem :=
  let moved := files.entries.entries.filter fun entry => location.isPrefixOf entry.1
  moved.foldl
    (fun files entry => files.put (place ++ entry.1.drop location.length) entry.2)
    ((files.removeAt location).removeAt place)

/-- Every file with its path, in path order of the names. -/
def listFiles (files : FileSystem) : List (String × ByteArray) :=
  files.entries.entries.filterMap fun entry =>
    match entry.2.content with
    | .directory => none
    | .file bytes => some ("/".intercalate entry.1, bytes)

def listEmptyDirectories (files : FileSystem) : List String :=
  (files.entries.entries.filter fun entry =>
    entry.2.content == .directory &&
      !files.entries.keys.any fun other => other.dropLast == entry.1).map
    fun entry => "/".intercalate entry.1

end FileSystem

namespace FileAction

/-- Changes the files by a step that may refuse; a refusal changes nothing. -/
def attempt (step : FileSystem → Except IoError FileSystem) : FileAction Unit :=
  fun files =>
    match step files with
    | .ok changed => (.ok (), changed)
    | .error reason => (.error reason, files)

def createDirectory (path : Path) (mode : Mode := .program) : FileAction Unit :=
  attempt fun files => do
    match ← files.resolve path with
    | .found _ | .blocked _ => throw .alreadyExists
    | .vacant location _ => pure (files.put location { content := .directory, mode })

def unlessDirectory (path : Path) (reason : IoError) : FileAction Unit := do
  if (← get).isDirectory path then pure () else throw reason

/-- Creates a directory with what is missing above it, given as its lineage. -/
def createLineage : List Path → FileAction Unit
  | [] => pure ()
  | path :: above =>
    tryCatch (createDirectory path) fun reason =>
      if reason = .notFound then do
        createLineage above
        tryCatch (createDirectory path) (unlessDirectory path)
      else unlessDirectory path reason

/-- Creates a directory with what is missing above it; a directory that is there is fine. -/
def createDirectories (path : Path) : FileAction Unit := createLineage path.lineage

/-- The file that a path opens for writing, with the permissions it has or gets. -/
def opening (files : FileSystem) (path : Path) (mode : Mode) : Except IoError (Location × Mode) := do
  match ← files.resolve path with
  | .vacant _ true | .blocked _ => throw .isDirectory
  | .vacant location false => pure (location, mode)
  | .found location =>
    match files.entryAt? location with
    | some { content := .file _, mode } => pure (location, mode)
    | _ => throw .isDirectory

/-- Writes a file, in place of the one that is there; its permissions stay.  It is cut off where the medium
fails. -/
def write (path : Path) (bytes : ByteArray) (mode : Mode := .plain) : FileAction Unit := fun files =>
  match opening files path mode with
  | .error reason => (.error reason, files)
  | .ok (location, mode) =>
    let holding (bytes : ByteArray) := files.put location { content := .file bytes, mode }
    match files.faults.find? location with
    | none => (.ok (), holding bytes)
    | some fault =>
      if fault.arriving < bytes.size then
        (.error fault.reason, holding (bytes.extract 0 fault.arriving))
      else (.ok (), holding bytes)

/-- Waits until the medium has all of a file. -/
def sync (path : Path) : FileAction Unit :=
  attempt fun files => do
    let (location, _) ← files.stat path
    match files.faults.find? location with
    | none => pure files
    | some fault => throw fault.reason

/-- Writes a file and makes sure of it. -/
def writeSynced (path : Path) (bytes : ByteArray) : FileAction Unit := do
  write path bytes
  sync path

/-- Writes a file and creates the directories it needs. -/
def writeWithParents (path : Path) (bytes : ByteArray) : FileAction Unit := do
  match path.parent? with
  | some parent => createDirectories parent
  | none => pure ()
  write path bytes

def removeFile (path : Path) : FileAction Unit :=
  attempt fun files => do
    let (location, entry) ← files.stat path
    if entry.content == .directory then throw .isDirectory
    pure (files.removeAt location)

/-- Why the place a path leads to cannot be given away, if the path does not end in its name. -/
def unnamedEnd? (path : Path) : Option IoError :=
  match path.lastPiece? with
  | none => some .busy
  | some ['.'] => some .invalidArgument
  | some ['.', '.'] => some .notEmpty
  | some _ => none

/-- Removes a directory with everything in it.  What is in it goes first, so it is gone even where
the directory itself cannot be removed under that path, or where the path led through it. -/
def removeDirectory (path : Path) : FileAction Unit := fun files =>
  match files.stat path with
  | .error reason => (.error reason, files)
  | .ok (location, entry) =>
    if entry.content = .directory then
      let emptied := files.clearBelow location
      if !emptied.pathExists path then (.ok (), emptied)
      else
        match unnamedEnd? path with
        | some reason => (.error reason, emptied)
        | none => (.ok (), emptied.removeAt location)
    else (.error .notDirectory, files)

/-- Refuses a new place for what stands at a location: a directory takes the place of an empty
directory only, and a file that of a file. -/
def checkReplacement (files : FileSystem) (location place : Location) : Except IoError Unit := do
  let moved := files.isDirectoryAt location
  if (files.entryAt? place).isSome then
    if moved ∧ !files.isDirectoryAt place then throw .notDirectory
    if !moved ∧ files.isDirectoryAt place then throw .isDirectory
    if files.isOccupied place ∧ place ≠ location then throw .notEmpty
  if moved ∧ location.isPrefixOf place ∧ place ≠ location then throw .invalidArgument

/-- Gives a file or directory another name, replacing the one that has it. -/
def rename (source target : Path) : FileAction Unit :=
  attempt fun files => do
    let (location, entry) ← files.stat source
    let goal ← files.resolve target
    if (unnamedEnd? source).isSome ∨ (unnamedEnd? target).isSome then throw .busy
    if entry.content ≠ .directory ∧ target.endsInSeparator then throw .notDirectory
    match goal with
    | .blocked _ => throw .notDirectory
    | .found place | .vacant place _ => do
      checkReplacement files location place
      pure (files.move location place)

/-- Sets the permissions of whatever a path leads to. -/
def setMode (path : Path) (mode : Mode) : FileAction Unit :=
  attempt fun files => do
    let (location, entry) ← files.stat path
    pure (files.put location { entry with mode })

def remove (path : Path) : FileAction Unit := do
  if (← get).isDirectory path then removeDirectory path else removeFile path

end FileAction

end ComponentSchema
