import ComponentSchema.Script.Printing
import ComponentSchema.Script.Tool.Search

/-!
What files are looked for by: tests of their names, kinds and sizes, together with what is to be
done with those that are found.
-/

namespace ComponentSchema.Script.Tool

/-- A path that is tested: the path itself, the one the search began at, where it leads, and how
deep below the beginning it is. -/
structure Candidate where
  path : Text
  start : Text
  location : Location
  entry : Entry
  depth : Nat

namespace Candidate

def name (candidate : Candidate) : Text := lastPart candidate.path

def size (candidate : Candidate) : Nat :=
  match candidate.entry.content with
  | .directory => 4096
  | .file bytes => bytes.size

def isDirectory (candidate : Candidate) : Bool := candidate.entry.content == .directory

/-- The path up to its last part. -/
def front (candidate : Candidate) : Text :=
  let path := trimmed candidate.path
  if path.contains '/' then
    let kept := (path.reverse.dropWhile (· != '/')).tail.reverse
    if kept.isEmpty then ['/'] else kept
  else ['.']

/-- The path behind the one the search began at. -/
def inner (candidate : Candidate) : Text :=
  (candidate.path.drop candidate.start.length).dropWhile (· == '/')

end Candidate

/-- How a number is compared with one that is told. -/
inductive Comparison where
  | exactly
  | more
  | less
deriving DecidableEq, Repr

def Comparison.holds (comparison : Comparison) (told number : Nat) : Bool :=
  match comparison with
  | .exactly => number == told
  | .more => told < number
  | .less => number < told

/-- Which permissions are wanted. -/
inductive ModeTest where
  | exactly (mode : Mode)
  | all (mode : Mode)
  | any (mode : Mode)

/-- What has to hold of a path, and what is done with it on the way. -/
inductive Test where
  | name (pattern : Text) (folds : Bool)
  | whole (pattern : Text) (folds : Bool)
  | matching (search : Search)
  | kind (letters : List Char)
  | empty
  | executable
  | size (comparison : Comparison) (count unit : Nat)
  | mode (test : ModeTest)
  /-- The path leads to the same as another one. -/
  | same (path : Text)
  | always (holds : Bool)
  /-- The path is printed, with something behind it. -/
  | printed (after : Text)
  | formatted (format : Text)
  /-- The directory is not entered. -/
  | pruned
  | removed
  /-- The search ends. -/
  | ended
  /-- A command is run for each path, maybe in its directory. -/
  | each (command : List Text) (isInPlace : Bool)
  /-- A command is run for all paths together. -/
  | together (command : List Text)
  | least (depth : Nat)
  | most (depth : Nat)
  /-- What is in a directory comes before it. -/
  | innerFirst
  | negation (test : Test)
  | both (first second : Test)
  | either (first second : Test)
  /-- Both are tested, and the second one counts. -/
  | last (first second : Test)

namespace Test

def parts : Test → List Test
  | .negation test => test.parts
  | .both first second => first.parts ++ second.parts
  | .either first second => first.parts ++ second.parts
  | .last first second => first.parts ++ second.parts
  | test => [test]

/-- Whether something is done with paths, so that they are not printed of their own accord. -/
def acts (test : Test) : Bool :=
  test.parts.any fun part =>
    match part with
    | .printed _ | .formatted _ | .removed | .ended | .each .. | .together _ => true
    | _ => false

def isInnerFirst (test : Test) : Bool :=
  test.parts.any fun part =>
    match part with
    | .innerFirst | .removed => true
    | _ => false

def leastDepth (test : Test) : Nat :=
  (test.parts.filterMap fun part =>
    match part with
    | .least depth => some depth
    | _ => none).getLastD 0

/-- The greatest depth of paths that are tested, if there is one. -/
def mostDepth? (test : Test) : Option Nat :=
  (test.parts.filterMap fun part =>
    match part with
    | .most depth => some depth
    | _ => none).getLast?

end Test

/-! ## Formats -/

def Candidate.fact? (candidate : Candidate) (letter : Char) : Option Text :=
  match letter with
  | 'p' => some candidate.path
  | 'f' => some candidate.name
  | 'h' => some candidate.front
  | 'P' => some candidate.inner
  | 'H' => some candidate.start
  | 'd' => some (Text.ofNat candidate.depth)
  | 's' => some (Text.ofNat candidate.size)
  | 'k' => some (Text.ofNat ((candidate.size + 4095) / 4096 * 4))
  | 'b' => some (Text.ofNat ((candidate.size + 4095) / 4096 * 8))
  | 'y' | 'Y' => some (if candidate.isDirectory then ['d'] else ['f'])
  | 'm' => some (Nat.toDigits 8 candidate.entry.mode)
  | 'M' => some ((if candidate.isDirectory then 'd' else '-') ::
      Permissions.lettersText candidate.entry.mode)
  | 'n' => some (if candidate.isDirectory then ['2'] else ['1'])
  | 'u' | 'g' => some "root".toList
  | 'U' | 'G' => some ['0']
  | 'l' => some []
  | '%' => some ['%']
  | _ => none

/-- A format filled with what is known of a path, of which so many parts are filled in. -/
def Candidate.filled (candidate : Candidate) : Nat → Text → Text
  | 0, _ => []
  | _, [] => []
  | count + 1, '%' :: rest =>
    let flags := rest.takeWhile fun char => ['-', '0', '+', ' ', '#'].contains char
    let digits := (rest.drop flags.length).takeWhile Char.isDigit
    match rest.drop (flags.length + digits.length) with
    | [] => '%' :: rest
    | letter :: more =>
      match candidate.fact? letter with
      | none => '%' :: candidate.filled count rest
      | some fact =>
        let missing := List.replicate ((Text.number? digits).getD 0 - fact.length) ' '
        let shown := if flags.contains '-' then fact ++ missing else missing ++ fact
        shown ++ candidate.filled count more
  | count + 1, '\\' :: rest =>
    match rest with
    | 'c' :: _ => []
    | rest =>
      let (char, rest) := escapedChar rest
      char :: candidate.filled count rest
  | count + 1, char :: rest => char :: candidate.filled count rest

/-- What is told about the parts of a format that mean nothing; so many are looked at. -/
def formatWarnings : Nat → Text → List Text
  | 0, _ => []
  | count + 1, '\\' :: char :: rest =>
    if isOctal char || char = 'c' || (letterChar? char).isSome then formatWarnings count rest
    else ("unrecognized escape `\\".toList ++ [char, '\'']) :: formatWarnings count rest
  | count + 1, '%' :: rest =>
    let after := rest.dropWhile fun char =>
      ['-', '0', '+', ' ', '#'].contains char || char.isDigit
    match after with
    | [] => []
    | letter :: more =>
      if "pfhPHdskbyYmMnugUGl%acitACTDFSxZ".toList.contains letter then formatWarnings count more
      else ("unrecognized format directive `%".toList ++ [letter, '\'']) ::
        formatWarnings count more
  | count + 1, _ :: rest => formatWarnings count rest
  | _, [] => []

/-! ## Reading -/

/-- What is read of tests, and what follows; otherwise what is wrong. -/
abbrev ReadTest := Except Text (Test × List Text)

/-- The comparison and the number that a text tells, and what follows. -/
def comparedNumber? (text : Text) : Option (Comparison × Nat × Text) :=
  let (comparison, rest) := match text with
    | '+' :: rest => (Comparison.more, rest)
    | '-' :: rest => (.less, rest)
    | rest => (.exactly, rest)
  (scanDigits? 10 rest).map fun (value, rest) => (comparison, value, rest)

/-- The units of sizes, in bytes. -/
def sizeUnits : List (Char × Nat) :=
  [('b', 512), ('c', 1), ('w', 2), ('k', 1024), ('M', 1048576), ('G', 1073741824)]

def sizeTest? (text : Text) : Option Test := do
  let (comparison, count, rest) ← comparedNumber? text
  match rest with
  | [] => some (.size comparison count 512)
  | [letter] => (sizeUnits.lookup letter).map (.size comparison count ·)
  | _ => none

def modeTest? (text : Text) : Option ModeTest :=
  let modeOf := fun (text : Text) => Permissions.changed? 0 0 text false
  match text with
  | '-' :: rest => (modeOf rest).map .all
  | '/' :: rest => (modeOf rest).map .any
  | rest => (modeOf rest).map .exactly

/-- A test of the time that passed since something was done to a file, of which none has. -/
def ageTest? (text : Text) : Option Test :=
  match comparedNumber? text with
  | some (comparison, told, []) => some (.always (comparison.holds told 0))
  | _ => none

/-- A test of the number of names that a file has, which is one. -/
def linkTest? (text : Text) : Option Test :=
  match comparedNumber? text with
  | some (comparison, told, []) => some (.always (comparison.holds told 1))
  | _ => none

/-- A test of who owns a file, which is the one that may do all. -/
def ownerTest (text : Text) : Except Text Test :=
  .ok (.always (["root", "0"].contains (String.ofList text)))

/-- A test of the kind of a file, told by letters between commas. -/
def kindTest (word text : Text) : Except Text Test :=
  let letters := (Text.splitAt ',' text).flatten
  match letters.find? fun letter => !"bcdpflsD".toList.contains letter with
  | some letter => .error ("Unknown argument to ".toList ++ word ++ ": ".toList ++ [letter])
  | none => .ok (.kind letters)

/-- An expression in which what may be repeated need not be marked, as one in which it has to. -/
def markedRepeats : Text → Text
  | '\\' :: char :: rest => '\\' :: char :: markedRepeats rest
  | char :: rest =>
    if char = '+' || char = '?' then '\\' :: char :: markedRepeats rest
    else char :: markedRepeats rest
  | [] => []

/-- The test whether a whole path matches an expression. -/
def pathTest (isExtended folds : Bool) (pattern : Text) : Except Text Test :=
  let parsed :=
    if isExtended then Regex.parse .extended pattern
    else Regex.parse .basic (markedRepeats pattern)
  match parsed with
  | .ok (regex, _) => .ok (.matching {
      patterns := [regex], folds, words := false, lines := true, others := false })
  | .error fault => .error (faultWording pattern fault)

def holdsBraces (word : Text) : Bool :=
  (List.range word.length).any fun index => "\x7b\x7d".toList.isPrefixOf (word.drop index)

/-- The words of a command, and what follows; whether it is run for all paths together. -/
def commandOf (word : Text) (rest : List Text) : Except Text (List Text × Bool × List Text) :=
  let braces := "\x7b\x7d".toList
  let isEnd := fun (entry : Text × Nat) =>
    entry.1 = [';'] || entry.1 = ['+'] && 0 < entry.2 && rest[entry.2 - 1]? = some braces
  match rest.zipIdx.find? isEnd with
  | none => .error ("missing argument to `".toList ++ word ++ ['\''])
  | some (mark, index) =>
    let command := rest.take index
    if mark = [';'] then
      if command.isEmpty then .error ("missing argument to `".toList ++ word ++ ['\''])
      else .ok (command, false, rest.drop (index + 1))
    else if 1 < command.countP holdsBraces then
      .error ("Only one instance of ".toList ++ braces ++ " is supported with ".toList ++ word ++
        " ... +".toList)
    else .ok (command.dropLast, true, rest.drop (index + 1))

def isTestOperator (word : Text) : Bool :=
  ["-a", "-and", "-o", "-or", ","].contains (String.ofList word)

/-- The words behind an operator, of which there have to be some. -/
def expected (word : Text) : List Text → Except Text (List Text)
  | [] => .error ("expected an expression after '".toList ++ word ++ ['\''])
  | words => .ok words

mutual

def lastTest (isExtended : Bool) : Nat → List Text → ReadTest
  | 0, _ => .error "invalid expression".toList
  | fuel + 1, words => do
    let (first, rest) ← anyTest isExtended fuel words
    match rest with
    | [','] :: others =>
      let (second, rest) ← lastTest isExtended fuel (← expected [','] others)
      pure (.last first second, rest)
    | rest => pure (first, rest)

def anyTest (isExtended : Bool) : Nat → List Text → ReadTest
  | 0, _ => .error "invalid expression".toList
  | fuel + 1, words => do
    let (first, rest) ← allTests isExtended fuel words
    match rest with
    | word :: others =>
      if word = ['-', 'o'] || word = "-or".toList then
        let (second, rest) ← anyTest isExtended fuel (← expected word others)
        pure (.either first second, rest)
      else pure (first, rest)
    | [] => pure (first, [])

def allTests (isExtended : Bool) : Nat → List Text → ReadTest
  | 0, _ => .error "invalid expression".toList
  | fuel + 1, words => do
    let (first, rest) ← oneTest isExtended fuel words
    match rest with
    | [] => pure (first, [])
    | word :: others =>
      if word = ['-', 'a'] || word = "-and".toList then
        let (second, rest) ← allTests isExtended fuel (← expected word others)
        pure (.both first second, rest)
      else if isTestOperator word || word = [')'] then pure (first, rest)
      else
        let (second, rest) ← allTests isExtended fuel rest
        pure (.both first second, rest)

def oneTest (isExtended : Bool) : Nat → List Text → ReadTest
  | 0, _ => .error "invalid expression".toList
  | _, [] => .error "invalid expression".toList
  | fuel + 1, word :: rest => do
    let withWord := fun (make : Text → Except Text Test) => match rest with
      | [] => Except.error ("missing argument to `".toList ++ word ++ ['\''])
      | value :: rest => (make value).map fun test => (test, rest)
    let told := fun (make : Text → Option Test) (wording : Text → Text) => withWord fun value =>
      match make value with
      | some test => .ok test
      | none => .error (wording value)
    let badArgument := fun (value : Text) =>
      "invalid argument `".toList ++ value ++ "' to `".toList ++ word ++ ['\'']
    let depthWording := fun (value : Text) =>
      "Expected a positive decimal integer argument to ".toList ++ word ++ ", but got ".toList ++
        Quoting.enclosedWord value
    match String.ofList word with
    | "!" | "-not" => do
      let (test, rest) ← oneTest isExtended fuel (← expected word rest)
      pure (.negation test, rest)
    | "(" => do
      if rest.head? = some [')'] then
        throw "invalid expression; empty parentheses are not allowed.".toList
      let unclosed := "invalid expression; I was expecting to find a ')' somewhere but did not " ++
        "see one."
      if rest.isEmpty then throw unclosed.toList
      let (test, rest) ← lastTest isExtended fuel rest
      match rest with
      | [')'] :: rest => pure (test, rest)
      | _ => throw unclosed.toList
    | ")" => throw ("invalid expression; expected to find a ')' but didn't see one.  Perhaps " ++
        "you need an extra predicate after '('").toList
    | "-name" => withWord fun pattern => .ok (.name pattern false)
    | "-iname" => withWord fun pattern => .ok (.name pattern true)
    | "-path" | "-wholename" => withWord fun pattern => .ok (.whole pattern false)
    | "-ipath" | "-iwholename" => withWord fun pattern => .ok (.whole pattern true)
    | "-regex" => withWord (pathTest isExtended false)
    | "-iregex" => withWord (pathTest isExtended true)
    | "-regextype" => withWord fun _ => .ok (.always true)
    | "-type" | "-xtype" => withWord (kindTest word)
    | "-size" => told sizeTest? fun value =>
        "invalid -size type `".toList ++ value.drop (value.length - 1) ++ ['\'']
    | "-perm" => told (fun value => (modeTest? value).map .mode) fun value =>
        "invalid mode ".toList ++ Quoting.enclosedWord value
    | "-mtime" | "-atime" | "-ctime" | "-mmin" | "-amin" | "-cmin" => told ageTest? badArgument
    | "-links" => told linkTest? badArgument
    | "-newer" | "-anewer" | "-cnewer" => withWord fun _ => .ok (.always false)
    | "-samefile" => withWord fun path => .ok (.same path)
    | "-user" | "-group" | "-uid" | "-gid" => withWord ownerTest
    | "-maxdepth" => told (fun value => (Text.number? value).map .most) depthWording
    | "-mindepth" => told (fun value => (Text.number? value).map .least) depthWording
    | "-empty" => pure (.empty, rest)
    | "-executable" => pure (.executable, rest)
    | "-readable" | "-writable" | "-true" => pure (.always true, rest)
    | "-false" => pure (.always false, rest)
    | "-print" => pure (.printed ['\n'], rest)
    | "-print0" => pure (.printed ['\x00'], rest)
    | "-printf" => withWord fun format => .ok (.formatted format)
    | "-prune" => pure (.pruned, rest)
    | "-delete" => pure (.removed, rest)
    | "-quit" => pure (.ended, rest)
    | "-exec" | "-execdir" => do
      let (command, isTogether, rest) ← commandOf word rest
      pure (if isTogether then .together command
        else .each command (word == "-execdir".toList), rest)
    | "-depth" | "-d" => pure (.innerFirst, rest)
    | "-follow" | "-xdev" | "-mount" | "-noleaf" | "-daystart" | "-warn" | "-nowarn"
    | "-ignore_readdir_race" | "-noignore_readdir_race" => pure (.always true, rest)
    | _ =>
      if isTestOperator word then
        throw ("invalid expression; you have used a binary operator '".toList ++ word ++
          "' with nothing before it.".toList)
      else throw ("unknown predicate `".toList ++ word ++ ['\''])

end

def beginsTests (word : Text) : Bool :=
  (word.head? = some '-' && 1 < word.length) || ["(", "!", ")", ","].contains (String.ofList word)

/-- What is looked for, and where. -/
structure FileSearch where
  starts : List Text
  test : Test
  warnings : List Text

def FileSearch.ofArguments (arguments : List Text) : Except Text FileSearch := do
  let arguments := arguments.dropWhile fun word =>
    ["-H", "-L", "-P", "-O0", "-O1", "-O2", "-O3"].contains (String.ofList word)
  let starts := arguments.takeWhile fun word => !beginsTests word
  let words := arguments.drop starts.length
  let isExtended := words.contains "posix-extended".toList || words.contains "egrep".toList ||
    words.contains "posix-egrep".toList
  let (test, rest) ←
    if words.isEmpty then pure (.always true, [])
    else lastTest isExtended (8 * words.length + 8) words
  match rest with
  | [')'] :: _ => throw "you have too many ')'".toList
  | word :: _ => throw ("paths must precede expression: `".toList ++ word ++ ['\''])
  | [] => pure ()
  let warnings := test.parts.flatMap fun part =>
    match part with
    | .formatted format => formatWarnings format.length format
    | _ => []
  let whole := if test.acts then test else .both test (.printed ['\n'])
  pure { starts := if starts.isEmpty then [['.']] else starts, test := whole, warnings }

end ComponentSchema.Script.Tool
