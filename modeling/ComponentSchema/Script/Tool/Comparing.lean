import ComponentSchema.Script.Tool.Options
import ComponentSchema.Script.Tool.Quoting

/-!
Tools that compare two files, byte by byte or line by line.
-/

namespace ComponentSchema.Script.Tool

/-- Reports that the arguments do not fit and ends; the hint begins with the name of the tool. -/
def refuseCompared {α : Type} (text : Text) : Tool α := do
  let name := (← get).name
  complain text
  complain ("Try '".toList ++ name ++ " --help' for more information.".toList)
  throw 2

def comparedOptions (forms : List OptionForm) (arguments : List Text) :
    Tool (Given × List Text) :=
  match Options.split (forms ++ Options.shared) true arguments.length arguments with
  | .ok (given, operands) =>
    if given.has "help" || given.has "version" then throw 0 else pure (given, operands)
  | .error fault => refuseCompared fault.message

def comparedTexts (first second : Text) : Tool (Text × Text) := do
  match ← read first, ← read second with
  | .ok text, .ok other => pure (text, other)
  | .error reason, .error otherReason => do
    complain (first ++ ": ".toList ++ plainReason reason)
    complain (second ++ ": ".toList ++ plainReason otherReason)
    throw 2
  | .error reason, _ => fail 2 (first ++ ": ".toList ++ plainReason reason)
  | _, .error reason => fail 2 (second ++ ": ".toList ++ plainReason reason)

/-- Tells at which byte and on which line two files differ first. -/
def cmp : Program := fun arguments => do
  let (given, operands) ← comparedOptions
    [.flag "b" "print-bytes", .valued "i" "ignore-initial", .flag "l" "verbose",
      .valued "n" "bytes", .flag "s" "quiet", .flag "" "silent"] arguments
  let (first, second) ← match operands with
    | [] => refuseCompared ("missing operand after ".toList ++ Quoting.always (← get).name)
    | [first] => pure (first, ['-'])
    | first :: second :: _ => pure (first, second)
  let (text, other) ← comparedTexts first second
  let same := (text.zip other).takeWhile fun (char, otherChar) => char == otherChar
  let line := (same.map Prod.fst).count '\n' + 1
  let place := same.length
  let tells := !(given.has "quiet" || given.has "silent")
  if text.length = place && other.length = place then pure 0
  else
    let shorter := if text.length = place then some first
      else if other.length = place then some second else none
    match shorter with
    | some name =>
      if tells then
        if place = 0 then complain ("EOF on ".toList ++ name ++ " which is empty".toList)
        else
          let complete := (same.getLast?.map Prod.fst) == some '\n'
          complain ("EOF on ".toList ++ name ++ " after byte ".toList ++ Text.ofNat place ++
            (if complete then ", line " else ", in line ").toList ++
            Text.ofNat (if complete then line - 1 else line))
    | none =>
      if tells then
        printLine (first ++ ' ' :: second ++ " differ: byte ".toList ++ Text.ofNat (place + 1) ++
          ", line ".toList ++ Text.ofNat line)
    pure 1

/-! ## Line by line -/

/-- What happens to a line on the way from one text to another. -/
inductive LineChange where
  | kept
  | dropped (line : Text)
  | added (line : Text)
deriving DecidableEq, Repr

/-- The lengths of the longest common parts of a text with one more line in front, from those
without it: one for each rest of the other text. -/
def commonLengths (line : Text) : List Text → List Nat → List Nat
  | other :: others, below :: rest =>
    let behind := commonLengths line others rest
    let here := if line = other then rest.head?.getD 0 + 1 else max below (behind.head?.getD 0)
    here :: behind
  | _, _ => [0]

/-- The lengths of the longest common parts of all rests of two texts. -/
def commonTable (others : List Text) : List Text → List (List Nat)
  | [] => [List.replicate (others.length + 1) 0]
  | line :: rest =>
    let below := commonTable others rest
    commonLengths line others (below.head?.getD []) :: below

/-- The way from one text to another that keeps the most lines. -/
def lineChanges : Nat → List (List Nat) → List Text → List Text → List LineChange
  | 0, _, _, _ => []
  | _, _, lines, [] => lines.map .dropped
  | _, _, [], others => others.map .added
  | count + 1, table, line :: rest, other :: others =>
    if line = other then
      .kept :: lineChanges count (table.tail.map List.tail) rest others
    else
      let withoutFirst := ((table.tail.head?.getD []).head?).getD 0
      let withoutOther := (((table.head?.getD []).tail).head?).getD 0
      if withoutOther ≤ withoutFirst then
        .dropped line :: lineChanges count table.tail rest (other :: others)
      else .added other :: lineChanges count (table.map List.tail) (line :: rest) others

/-- The numbers of some lines behind a given one. -/
def lineSpan (before count : Nat) : Text :=
  if count = 0 then Text.ofNat before
  else if count = 1 then Text.ofNat (before + 1)
  else Text.ofNat (before + 1) ++ ',' :: Text.ofNat (before + count)

/-- A line with a mark in front; a line without an end is told. -/
def markedLine (mark : Char) (line : Text) : Text :=
  if line.getLast? = some '\n' then mark :: ' ' :: line
  else mark :: ' ' :: line ++ "\n\\ No newline at end of file\n".toList

/-- The text that tells how one text becomes another; what happens side by side is told at once. -/
def toldChanges : Nat → Nat → Nat → List LineChange → Text
  | 0, _, _, _ => []
  | _, _, _, [] => []
  | count + 1, line, other, .kept :: rest => toldChanges count (line + 1) (other + 1) rest
  | count + 1, line, other, changes =>
    let run := changes.takeWhile (· ≠ .kept)
    let dropped := run.filterMap fun change => match change with
      | .dropped text => some text
      | _ => none
    let added := run.filterMap fun change => match change with
      | .added text => some text
      | _ => none
    let letter := if added.isEmpty then 'd' else if dropped.isEmpty then 'a' else 'c'
    let divider := if letter = 'c' then "---\n".toList else []
    lineSpan line dropped.length ++ letter :: lineSpan other added.length ++ ['\n'] ++
      dropped.flatMap (markedLine '<') ++ divider ++ added.flatMap (markedLine '>') ++
      toldChanges count (line + dropped.length) (other + added.length) (changes.drop run.length)

def wholeLines (text : Text) : List Text :=
  let lines := (Text.lines text).map (· ++ ['\n'])
  if text.getLast? = some '\n' || text.isEmpty then lines
  else lines.dropLast ++ [(lines.getLast?.getD []).dropLast]

/-- Tells how one file becomes another. -/
def diff : Program := fun arguments => do
  let (given, operands) ← comparedOptions
    [.flag "q" "brief", .flag "s" "report-identical-files", .flag "a" "text", .flag "" "normal",
      .flag "i" "ignore-case", .flag "N" "new-file", .flag "r" "recursive"] arguments
  match operands with
  | [] => refuseCompared ("missing operand after ".toList ++ Quoting.always (← get).name)
  | [first] => refuseCompared ("missing operand after ".toList ++ Quoting.always first)
  | _ :: _ :: extra :: _ => refuseCompared ("extra operand ".toList ++ Quoting.always extra)
  | [first, second] => do
    let within := fun (directory other : Text) => do
      if ← isDirectory directory then
        pure (directory ++ '/' :: (other.reverse.takeWhile (· != '/')).reverse)
      else pure directory
    let path ← within first second
    let otherPath ← within second first
    let (text, other) ← comparedTexts path otherPath
    if text = other then
      if given.has "report-identical-files" then
        printLine ("Files ".toList ++ path ++ " and ".toList ++ otherPath ++
          " are identical".toList)
      pure 0
    else if given.has "brief" then
      printLine ("Files ".toList ++ path ++ " and ".toList ++ otherPath ++ " differ".toList)
      pure 1
    else
      let lines := wholeLines text
      let others := wholeLines other
      let most := lines.length + others.length + 1
      let changes := lineChanges most (commonTable others lines) lines others
      print (toldChanges most 0 0 changes)
      pure 1

end ComponentSchema.Script.Tool
