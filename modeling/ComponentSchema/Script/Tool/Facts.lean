import ComponentSchema.Script.Calendar
import ComponentSchema.Script.Printing
import ComponentSchema.Script.Tool.Streams

/-!
Tools that tell facts: about files, about days and times, and about the system.
-/

namespace ComponentSchema.Script.Tool

/-! ## Files -/

def fileFact (path : Text) (entry : Entry) (letter : Char) : Text :=
  let size := match entry.content with
    | .file bytes => bytes.size
    | .directory => 4096
  match letter with
  | 'n' => path
  | 'N' => Quoting.always path
  | 's' => Text.ofNat size
  | 'F' =>
    (match entry.content with
      | .directory => "directory"
      | .file bytes => if bytes.size = 0 then "regular empty file" else "regular file").toList
  | 'a' => Nat.toDigits 8 entry.mode
  | 'A' =>
    (if entry.content == .directory then 'd' else '-') :: Permissions.lettersText entry.mode
  | 'f' => Nat.toDigits 16 ((if entry.content == .directory then 0x4000 else 0x8000) + entry.mode)
  | 'h' => if entry.content == .directory then ['2'] else ['1']
  | 'b' => Text.ofNat (8 * ((size + 4095) / 4096))
  | 'B' => "512".toList
  | 'o' => "4096".toList
  | 't' | 'T' | 'u' | 'g' => ['0']
  | 'U' | 'G' => "root".toList
  | 'X' | 'Y' | 'Z' => ['0']
  | _ => ['?']

/-- A format filled with the facts about a file, of which so many parts are filled in; backslashes
may stand for characters. -/
def fileFormat (path : Text) (entry : Entry) (escapes : Bool) : Nat → Text → Text
  | 0, _ => []
  | _, [] => []
  | count + 1, '%' :: rest =>
    let flags := rest.takeWhile fun char => ['-', '0', '+', ' ', '#', '\''].contains char
    let digits := (rest.drop flags.length).takeWhile Char.isDigit
    match rest.drop (flags.length + digits.length) with
    | '%' :: more => '%' :: fileFormat path entry escapes count more
    | letter :: more =>
      let fact := fileFact path entry letter
      let missing := (Text.number? digits).getD 0 - fact.length
      let shown :=
        if flags.contains '-' then fact ++ List.replicate missing ' '
        else if flags.contains '0' then List.replicate missing '0' ++ fact
        else List.replicate missing ' ' ++ fact
      shown ++ fileFormat path entry escapes count more
    | [] => ['%']
  | count + 1, '\\' :: rest =>
    if escapes then
      let (char, rest) := escapedChar rest
      char :: fileFormat path entry escapes count rest
    else '\\' :: fileFormat path entry escapes count rest
  | count + 1, char :: rest => char :: fileFormat path entry escapes count rest

def statFiles : Program := fun arguments => do
  let (given, operands) ← Options.usual
    [.flag "L" "dereference", .flag "f" "file-system", .valued "" "cached", .valued "c" "format",
      .valued "" "printf", .flag "t" "terse"] arguments
  if operands.isEmpty then refuse 1 "missing operand".toList
  onEach (fun path => do
    match ← stat path with
    | .error reason => rejected (problem "cannot statx " path reason)
    | .ok (_, entry) => do
      match given.lastOf? ["format", "printf"] with
      | some key =>
        let text := (given.last? key).getD []
        let shown := fileFormat path entry (key == "printf") (text.length + 1) text
        print (if key == "printf" then shown else shown ++ ['\n'])
        pure true
      | none => do
        printLine ("  File: ".toList ++ path)
        pure true) operands

/-! ## Days and times -/

/-- The formats of the standard for days and times, by how exact they are. -/
def standardFormats : List (String × String) :=
  [("hours", "%Y-%m-%dT%H%:z"), ("minutes", "%Y-%m-%dT%H:%M%:z"), ("date", "%Y-%m-%d"),
    ("seconds", "%Y-%m-%dT%H:%M:%S%:z"), ("ns", "%Y-%m-%dT%H:%M:%S,%N%:z")]

/-- The formats with blanks of a later standard, by how exact they are. -/
def laterFormats : List (String × String) :=
  [("date", "%Y-%m-%d"), ("seconds", "%Y-%m-%d %H:%M:%S%:z"), ("ns", "%Y-%m-%d %H:%M:%S.%N%:z")]

def formatNamed (option : String) (formats : List (String × String)) (name : Text) :
    Tool Text := do
  match formats.find? fun entry => name.isPrefixOf entry.1.toList && !name.isEmpty with
  | some (_, format) => pure format.toList
  | none => do
    complain ("invalid argument ".toList ++ Quoting.word name ++ " for ".toList ++
      Quoting.word option.toList)
    write 2 ("Valid arguments are:\n".toList ++ formats.flatMap fun entry =>
      "  - ".toList ++ Quoting.word entry.1.toList ++ ['\n'])
    suggestHelp 1

/-- Tells a day and a time. -/
def date : Program := fun arguments => do
  let (given, operands) ← Options.usual
    [.valued "d" "date", .flag "" "debug", .valued "f" "file", .loose "I" "iso-8601",
      .flag "R" "rfc-email", .valued "" "rfc-3339", .valued "r" "reference", .valued "s" "set",
      .flag "u" "utc", .flag "" "universal", .flag "" "uct", .flag "" "resolution"] arguments
  match operands with
  | _ :: extra :: _ => refuse 1 ("extra operand ".toList ++ Quoting.word extra)
  | _ => pure ()
  let format? ← match operands.head? with
    | some ('+' :: format) => pure (some format)
    | some text =>
      if given.has "date" || given.has "reference" then
        refuse 1 ("the argument ".toList ++ Quoting.word text ++ (" lacks a leading '+';\n" ++
          "when using an option to specify date(s), any non-option\n" ++
          "argument must be a format string beginning with '+'").toList)
      else fail 1 ("invalid date ".toList ++ Quoting.word text)
    | none =>
      if given.has "rfc-email" then pure (some "%a, %d %b %Y %H:%M:%S %z".toList)
      else
        match given.last? "iso-8601", given.last? "rfc-3339" with
        | some [], _ => pure (some "%Y-%m-%d".toList)
        | some name, _ => do pure (some (← formatNamed "--iso-8601" standardFormats name))
        | none, some name => do pure (some (← formatNamed "--rfc-3339" laterFormats name))
        | none, none => pure none
  let now : Moment := ⟨0⟩
  match given.last? "reference" with
  | some path =>
    if !(← isThere path) then
      fail 1 (Quoting.ifNeeded path ++ ": No such file or directory".toList)
  | none => pure ()
  let moment ← match given.last? "date" with
    | none => pure now
    | some text =>
      match Moment.ofText? now text with
      | some moment => pure moment
      | none => fail 1 ("invalid date ".toList ++ Quoting.word text)
  let format := format?.getD "%a %b %e %H:%M:%S %Z %Y".toList
  printLine (moment.format (format.length + 1) format)
  pure 0

/-! ## The system -/

/-- Tells about the system. -/
def uname : Program := fun arguments => do
  let (given, operands) ← Options.usual
    [.flag "a" "all", .flag "s" "kernel-name", .flag "n" "nodename", .flag "r" "kernel-release",
      .flag "v" "kernel-version", .flag "m" "machine", .flag "p" "processor",
      .flag "i" "hardware-platform", .flag "o" "operating-system"] arguments
  match operands with
  | extra :: _ => refuse 1 ("extra operand ".toList ++ Quoting.word extra)
  | [] => pure ()
  let facts := [("kernel-name", "Linux"), ("machine", "x86_64"), ("processor", "x86_64"),
    ("hardware-platform", "x86_64"), ("operating-system", "GNU/Linux")]
  let wanted := facts.filter fun fact =>
    given.has fact.1 || given.has "all" || given.isEmpty && fact.1 == "kernel-name"
  printLine (Text.joined [' '] (wanted.map fun fact => fact.2.toList))
  pure 0

/-- Tells that nobody types what is read. -/
def tty : Program := fun arguments => do
  let (given, operands) ← Options.parse [.flag "s" "silent", .flag "" "quiet"] arguments 2 true
  match operands with
  | extra :: _ => refuse 2 ("extra operand ".toList ++ Quoting.word extra)
  | [] => pure ()
  if given.isEmpty then printLine "not a tty".toList
  pure 1

end ComponentSchema.Script.Tool
