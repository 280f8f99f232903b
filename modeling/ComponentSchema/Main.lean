import ComponentSchema.CommandLine.Generate
import ComponentSchema.Script.Launch

/-!
The program.  What lies below the working directory is read before a pass, and what the pass changed
is written after it; every decision is taken in between, on values.
-/

namespace ComponentSchema

/-- Whether a file can be opened for writing. -/
def canWrite (path : String) : IO Bool := do
  try
    let _ ← IO.FS.Handle.mk path .append
    pure true
  catch _ => pure false

/-- Whether a file starts the way scripts start. -/
def looksExecutable (bytes : ByteArray) : Bool :=
  bytes.data[0]? == some 0x23 && bytes.data[1]? == some 0x21

/-- Adds a place and all that lies below it; what is neither file nor directory is passed over. -/
partial def readPlace (place : IO.FS.DirEntry) (location : Location) (files : FileSystem) :
    IO FileSystem := do
  match (← place.path.symlinkMetadata).type with
  | .dir =>
    let mut files :=
      if location.isEmpty then files
      else files.put location { content := .directory, mode := .program }
    for inner in ← place.path.readDir do
      files ← readPlace inner (location ++ [inner.fileName]) files
    pure files
  | .file =>
    let bytes ← IO.FS.readBinFile place.path
    let mode := if looksExecutable bytes then Mode.program else Mode.plain
    let mode := if ← canWrite place.path.toString then mode else mode.without 0o222
    pure (files.put location { content := .file bytes, mode })
  | _ => pure files

def pathOf (location : Location) : String := "/".intercalate location

/-- Removes a place that is gone or has become something else. -/
def removePlace (after : FileSystem) (place : Location × Entry) : IO Unit := do
  let stays := (after.entryAt? place.1).any fun entry =>
    (entry.content == .directory) == (place.2.content == .directory)
  if !stays then
    if place.2.content == .directory then IO.FS.removeDir (pathOf place.1)
    else IO.FS.removeFile (pathOf place.1)

/-- The permissions that the last three bits of a mode tell. -/
def accessOf (mode : Mode) : IO.AccessRight :=
  { read := mode &&& 4 != 0, write := mode &&& 2 != 0, execution := mode &&& 1 != 0 }

def rightsOf (entry : Entry) : IO.FileRight :=
  { user := accessOf (entry.mode / 64), group := accessOf (entry.mode / 8)
    other := accessOf entry.mode }

/-- Writes a place that is new or has changed. -/
def writePlace (before : FileSystem) (place : Location × Entry) : IO Unit := do
  let known := before.entryAt? place.1
  if known ≠ some place.2 then
    match place.2.content with
    | .directory => IO.FS.createDirAll (pathOf place.1)
    | .file bytes => do
      if (known.map Entry.content) ≠ some place.2.content then
        IO.FS.writeBinFile (pathOf place.1) bytes
      IO.setAccessRights (pathOf place.1) (rightsOf place.2)

/-- Makes the working directory what it has become. -/
def writeChanges (before after : FileSystem) : IO Unit := do
  before.entries.entries.reverse.forM (removePlace after)
  after.entries.entries.forM (writePlace before)

/-- Runs the pass that was asked for, and answers with the exit code. -/
def GenerateArguments.execute (arguments : GenerateArguments) : IO UInt32 := do
  let before ← readPlace { root := ← IO.currentDir, fileName := "." } [] ∅
  let (result, after) := arguments.run Script.launch { files := before }
  writeChanges before after.files
  (after.log.filter fun event => event.severity.isShown).forM fun event => IO.eprintln event.line
  match result with
  | .ok _ => pure 0
  | .error error => do
    IO.eprintln error.message
    pure 1

/-- Runs the program with its arguments, and answers with the exit code. -/
def runProgram (args : List String) : IO UInt32 := do
  match Arguments.parse args (← IO.getEnv "SCHEMAGEN_CONFIG") with
  | .ok arguments => arguments.execute
  | .error report => do
    if report.exitCode = 0 then IO.println report.message else IO.eprintln report.message
    pure (UInt32.ofNat report.exitCode)

end ComponentSchema

def main (args : List String) : IO UInt32 := ComponentSchema.runProgram args
