import ComponentSchema.Script.Glob
import ComponentSchema.Script.Tool.Quoting

/-!
Tools: the programs that every system has.  A tool works on files, reads one stream, writes to two,
and ends with a status.
-/

namespace ComponentSchema.Script

/-- A tool at work. -/
structure Process where
  /-- What the tool was called as. -/
  name : Text
  files : FileSystem
  directory : Location := []
  environment : List (Text × Text) := []
  /-- The permissions that new files and directories do not get. -/
  mask : Mode := 0o022
  /-- What can still be read. -/
  input : Text := []
  /-- Whether what was read in vain can be read again. -/
  rewinds : Bool := false
  /-- How long the tool waited, in millionths of a second. -/
  elapsed : Nat := 0
  /-- What was written to the streams with their numbers, the latest first. -/
  written : List (Nat × Text) := []

/-- Work of a tool, which may end at once with a status. -/
abbrev Tool (α : Type) := ExceptT Nat (StateM Process) α

/-- What a tool does with its arguments; it answers with its status. -/
abbrev Program := List Text → Tool Nat

/-- The wording of a reason without the number of the system's error. -/
def plainReason (reason : IoError) : Text :=
  (reason.message.toList.takeWhile (· != '(')).dropLast

/-- The path of the file that takes everything and holds nothing. -/
def nullPath : Text := "/dev/null".toList

/-- The path of the file that takes everything and holds zeros without end. -/
def zeroPath : Text := "/dev/zero".toList

/-- The paths of the files that take everything. -/
def sinkPaths : List Text := [nullPath, zeroPath]

/-- So many zeros as stand for those without end. -/
def zeros : Text := List.replicate (1 <<< 18) '\x00'

namespace Tool

def write (stream : Nat) (text : Text) : Tool Unit :=
  if text.isEmpty then pure ()
  else modify fun process => { process with written := (stream, text) :: process.written }

def print (text : Text) : Tool Unit := write 1 text

def printLine (line : Text) : Tool Unit := write 1 (line ++ ['\n'])

/-- Reports something. -/
def complain (text : Text) : Tool Unit := do
  write 2 ((← get).name ++ ": ".toList ++ text ++ ['\n'])

/-- Tells where help is to be found and ends. -/
def suggestHelp {α : Type} (status : Nat) : Tool α := do
  write 2 ("Try '".toList ++ (← get).name ++ " --help' for more information.\n".toList)
  throw status

/-- Reports something and ends. -/
def fail {α : Type} (status : Nat) (text : Text) : Tool α := do
  complain text
  throw status

/-- Reports that the arguments do not fit and ends. -/
def refuse {α : Type} (status : Nat) (text : Text) : Tool α := do
  complain text
  suggestHelp status

def path (text : Text) : Tool Path := do pure (Glob.pathFrom (← get).directory text)

def stat (text : Text) : Tool (Except IoError (Location × Entry)) := do
  pure ((← get).files.stat (← path text))

/-- Whether a path leads to anything. -/
def isThere (text : Text) : Tool Bool := do
  pure (match ← stat text with
    | .ok _ => true
    | .error _ => sinkPaths.contains text)

def isDirectory (text : Text) : Tool Bool := do pure ((← get).files.isDirectory (← path text))

def takeInput : Tool Text := do
  let process ← get
  set { process with input := [] }
  pure process.input

/-- The text of a file; a hyphen stands for what is to be read. -/
def read (text : Text) : Tool (Except IoError Text) := do
  if text = ['-'] || text = "/dev/stdin".toList then pure (.ok (← takeInput))
  else if text = nullPath then pure (.ok [])
  else if text = zeroPath then pure (.ok zeros)
  else
    pure (match (← get).files.read (← path text) with
      | .ok bytes => .ok (Text.ofBytes bytes)
      | .error reason => .error reason)

/-- Does work on files, and answers with the reason if it fails. -/
def onFiles (work : FileAction Unit) : Tool (Option IoError) := do
  let process ← get
  let (result, files) := work process.files
  set { process with files }
  pure (match result with
    | .ok () => none
    | .error reason => some reason)

/-- Writes a file: the reason if that fails. -/
def writeFile (text content : Text) : Tool (Option IoError) := do
  if sinkPaths.contains text then pure none
  else
    let mode := (0o666 : Mode).without (← get).mask
    onFiles (FileAction.write (← path text) (Text.toBytes content) mode)

/-- Does something with each operand; a failure of one shows in the status. -/
def onEach (work : Text → Tool Bool) (operands : List Text) : Tool Nat := do
  let results ← operands.mapM work
  pure (if results.all id then 0 else 1)

end Tool

end ComponentSchema.Script
