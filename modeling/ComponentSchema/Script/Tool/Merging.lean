import ComponentSchema.Script.Tool.Sorting

/-!
Tools that go through two files with lines in order side by side: one tells which lines are in which
of them, the other joins the lines with a field in common.
-/

namespace ComponentSchema.Script.Tool

/-! ## Order -/

/-- How much the order of lines is minded. -/
inductive OrderCare where
  | never
  /-- Only behind a line that has no partner. -/
  | behindOdd
  | always
deriving DecidableEq, Repr

/-- The care that options ask for. -/
def OrderCare.ofGiven (given : Given) : OrderCare :=
  match given.lastOf? ["check-order", "nocheck-order"] with
  | some "check-order" => .always
  | some _ => .never
  | none => .behindOdd

/-- What was noticed of the order in two files. -/
structure OrderNotes where
  care : OrderCare
  /-- Whether a line had no partner. -/
  hasOdd : Bool := false
  /-- The files with lines out of order, by their numbers. -/
  told : List Nat := []

/-- Whether lines of a file are to be looked at. -/
def OrderNotes.minds (notes : OrderNotes) (file : Nat) : Bool :=
  (notes.care == .always || notes.care == .behindOdd && notes.hasOdd) && !notes.told.contains file

/-- Reports lines of a file that are out of order, which may be the end. -/
def OrderNotes.tell (notes : OrderNotes) (file : Nat) (report : Text) : Tool OrderNotes := do
  complain report
  if notes.care == .always then throw 1
  pure { notes with told := file :: notes.told }

def twoOperands (operands : List Text) : Tool (Text × Text) := do
  match operands with
  | [first, second] => pure (first, second)
  | [] => refuse 1 "missing operand".toList
  | [only] => refuse 1 ("missing operand after ".toList ++ Quoting.word only)
  | _ :: _ :: extra :: _ => refuse 1 ("extra operand ".toList ++ Quoting.word extra)

/-- The lines of a file, whose lack is the end. -/
def linesOrFail (mark : Char) (path : Text) : Tool (List Text) := do
  match ← read path with
  | .ok text => pure (Text.endedBy mark text)
  | .error reason => fail 1 (Quoting.ifNeeded path ++ ": ".toList ++ plainReason reason)

/-! ## Lines in common -/

/-- A file that is gone through. -/
structure Passing where
  rest : List Text
  /-- The lines that were passed, the latest first. -/
  passed : List Text := []

/-- How lines in common are shown. -/
structure CommonForm where
  /-- The columns that are left out. -/
  without : List Nat
  divider : Text
  mark : Char

def CommonForm.line (form : CommonForm) (column : Nat) (line : Text) : Text :=
  if form.without.contains column then []
  else
    let fronts := (List.range column).filter fun other =>
      0 < other && !form.without.contains other
    (fronts.flatMap fun _ => form.divider) ++ line ++ [form.mark]

/-- Passes over the first line of a file, and looks at the order of the lines around it. -/
def passLine (file : Nat) (notes : OrderNotes) (side : Passing) : Tool (OrderNotes × Passing) := do
  match side.rest with
  | [] => pure (notes, side)
  | line :: rest => do
    let pair := match rest, side.passed with
      | next :: _, _ => some (line, next)
      | [], last :: _ => some (last, line)
      | [], [] => none
    let isWrong := pair.any fun pair => compareTexts pair.1 pair.2 == .gt
    let notes ←
      if isWrong && notes.minds file then
        notes.tell file ("file ".toList ++ Text.ofNat file ++ " is not in sorted order".toList)
      else pure notes
    pure (notes, ⟨rest, line :: side.passed⟩)

/-- Shows which lines are in which of two files, of which there are at most so many: how many lines
were in each column. -/
def showCommon (form : CommonForm) :
    Nat → OrderNotes → Passing → Passing → Tool (OrderNotes × Nat × Nat × Nat)
  | 0, notes, _, _ => pure (notes, 0, 0, 0)
  | count + 1, notes, first, second => do
    let order : Option Ordering := match first.rest, second.rest with
      | [], [] => none
      | [], _ => some .gt
      | _, [] => some .lt
      | line :: _, other :: _ => some (compareTexts line other)
    match order with
    | none => pure (notes, 0, 0, 0)
    | some .eq => do
      print (form.line 3 (second.rest.headD []))
      let (notes, first) ← passLine 1 notes first
      let (notes, second) ← passLine 2 notes second
      let (notes, ones, twos, threes) ← showCommon form count notes first second
      pure (notes, ones, twos, threes + 1)
    | some .lt => do
      print (form.line 1 (first.rest.headD []))
      let (notes, first) ← passLine 1 { notes with hasOdd := true } first
      let (notes, ones, twos, threes) ← showCommon form count notes first second
      pure (notes, ones + 1, twos, threes)
    | some .gt => do
      print (form.line 2 (second.rest.headD []))
      let (notes, second) ← passLine 2 { notes with hasOdd := true } second
      let (notes, ones, twos, threes) ← showCommon form count notes first second
      pure (notes, ones, twos + 1, threes)

/-- Shows the lines of two files in columns: those of the first one only, those of the second one
only, and those of both. -/
def comm : Program := fun arguments => do
  let (given, operands) ← Options.usual
    [.flag "1" "", .flag "2" "", .flag "3" "", .flag "" "check-order", .flag "" "nocheck-order",
      .valued "" "output-delimiter", .flag "" "total", .flag "z" "zero-terminated"] arguments
  let dividers := (given.filter fun option => option.1 == "output-delimiter").map Prod.snd
  if dividers.any fun divider => some divider != dividers.head? then
    fail 1 "multiple output delimiters specified".toList
  let (firstPath, secondPath) ← twoOperands operands
  let mark := lineEnd given
  let first ← linesOrFail mark firstPath
  let second ← linesOrFail mark secondPath
  let divider := match dividers.head? with
    | none => ['\t']
    | some [] => ['\x00']
    | some divider => divider
  let form : CommonForm := {
    without := (["1", "2", "3"].zipIdx 1).filterMap fun (key, column) =>
      if given.has key then some column else none
    divider, mark }
  let (notes, ones, twos, threes) ← showCommon form (first.length + second.length + 1)
    { care := .ofGiven given } ⟨first, []⟩ ⟨second, []⟩
  if given.has "total" then
    print (Text.joined divider ([ones, twos, threes].map Text.ofNat ++ ["total".toList]) ++ [mark])
  if notes.told.isEmpty then pure 0 else fail 1 "input is not in sorted order".toList

/-! ## Lines joined -/

/-- A field of a joined line. -/
inductive JoinField where
  | common
  /-- A field of one of the files, counted from zero. -/
  | own (isSecond : Bool) (index : Nat)
deriving DecidableEq, Repr

/-- How lines are joined. -/
structure Joining where
  /-- The fields that are compared, counted from zero. -/
  firstField : Nat
  secondField : Nat
  /-- What divides fields; if there is nothing, blanks do. -/
  divider? : Option Char
  /-- What stands in place of a field that is missing. -/
  filler : Text
  folds : Bool
  /-- The fields that are shown; if there are none told, all are. -/
  shown? : Option (List JoinField) := none

/-- A line in fields. -/
abbrev Fields := List Text

def Joining.fields (joining : Joining) (line : Text) : Fields :=
  match joining.divider? with
  | some divider => if line.isEmpty then [] else Text.splitAt divider line
  | none =>
    let plain := line.map fun char => if isFieldBlank char then ' ' else char
    let found := (Text.splitAt ' ' plain).filter fun field => !field.isEmpty
    if found.isEmpty || plain.getLast? != some ' ' then found else found ++ [[]]

/-- The field of a line that is compared. -/
def Joining.key (joining : Joining) (isSecond : Bool) (fields : Fields) : Text :=
  (fields[if isSecond then joining.secondField else joining.firstField]?).getD []

/-- The order of two fields. -/
def Joining.compare (joining : Joining) (first second : Text) : Ordering :=
  let fold := fun (text : Text) => if joining.folds then text.map Char.toUpper else text
  compareTexts (fold first) (fold second)

/-- A field of a line, or what stands in its place. -/
def Joining.field (joining : Joining) (fields : Fields) (index : Nat) : Text :=
  match fields[index]? with
  | some [] | none => joining.filler
  | some field => field

/-- The line that comes of two lines, one of which may be missing. -/
def Joining.joined (joining : Joining) (first? second? : Option Fields) : Text :=
  let common := match first?, second? with
    | some first, _ => joining.field first joining.firstField
    | none, second? => joining.field (second?.getD []) joining.secondField
  let others := fun (fields? : Option Fields) (own : Nat) =>
    ((fields?.getD []).zipIdx.filter fun entry => entry.2 != own).map fun entry =>
      if entry.1.isEmpty then joining.filler else entry.1
  let parts := match joining.shown? with
    | none => common :: others first? joining.firstField ++ others second? joining.secondField
    | some shown => shown.map fun field =>
      match field with
      | .common => common
      | .own isSecond index =>
        joining.field ((if isSecond then second? else first?).getD []) index
  Text.joined [joining.divider?.getD ' '] parts

/-- A file with lines that are joined. -/
structure JoinSide where
  isSecond : Bool
  path : Text
  /-- The lines that were not read yet. -/
  rest : List Text
  /-- The number of the line that was read last. -/
  number : Nat := 0
  last? : Option Text := none

/-- Reads a line, and looks at its order. -/
def readJoined (joining : Joining) (notes : OrderNotes) (side : JoinSide) :
    Tool (Option Fields × OrderNotes × JoinSide) := do
  match side.rest with
  | [] => pure (none, notes, side)
  | line :: rest => do
    let file := if side.isSecond then 2 else 1
    let keyOf := fun (line : Text) => joining.key side.isSecond (joining.fields line)
    let number := side.number + 1
    let isWrong := side.last?.any fun last =>
      last != line && joining.compare (keyOf last) (keyOf line) == .gt
    let notes ←
      if isWrong && notes.minds file then
        notes.tell file (side.path ++ ':' :: Text.ofNat number ++ ": is not sorted: ".toList ++
          line)
      else pure notes
    pure (some (joining.fields line), notes, { side with rest, number, last? := some line })

/-- Reads lines as long as they have a key: those, and the first one behind them. -/
def readGroup (joining : Joining) (key : Text) :
    Nat → OrderNotes → JoinSide → Tool (List Fields × Option Fields × OrderNotes × JoinSide)
  | 0, notes, side => pure ([], none, notes, side)
  | count + 1, notes, side => do
    match ← readJoined joining notes side with
    | (none, notes, side) => pure ([], none, notes, side)
    | (some fields, notes, side) => do
      if joining.compare (joining.key side.isSecond fields) key == .eq then
        let (group, next?, notes, side) ← readGroup joining key count notes side
        pure (fields :: group, next?, notes, side)
      else pure ([], some fields, notes, side)

/-- Which lines are shown. -/
structure JoinWishes where
  pairs : Bool
  firstOdd : Bool
  secondOdd : Bool
  mark : Char

/-- Prints a line that comes of two. -/
def printJoined (joining : Joining) (wishes : JoinWishes) (first? second? : Option Fields) :
    Tool Unit :=
  print (joining.joined first? second? ++ [wishes.mark])

/-- Reads the rest of a file, whose lines have no partners. -/
def readRest (joining : Joining) (wishes : JoinWishes) :
    Nat → OrderNotes → JoinSide → Tool OrderNotes
  | 0, notes, _ => pure notes
  | count + 1, notes, side => do
    match ← readJoined joining notes side with
    | (none, notes, _) => pure notes
    | (some fields, notes, side) => do
      let isShown := if side.isSecond then wishes.secondOdd else wishes.firstOdd
      if isShown then
        if side.isSecond then printJoined joining wishes none (some fields)
        else printJoined joining wishes (some fields) none
      readRest joining wishes count notes side

/-- Joins lines of two files from two of them on that were read, in at most so many steps. -/
def joinFrom (joining : Joining) (wishes : JoinWishes) :
    Nat → OrderNotes → Option Fields → JoinSide → Option Fields → JoinSide → Tool OrderNotes
  | 0, notes, _, _, _, _ => pure notes
  | count + 1, notes, first?, firstSide, second?, secondSide => do
    match first?, second? with
    | some first, some second => do
      let key := joining.key false first
      match joining.compare key (joining.key true second) with
      | .lt => do
        if wishes.firstOdd then printJoined joining wishes (some first) none
        let (next?, notes, firstSide) ← readJoined joining notes firstSide
        joinFrom joining wishes count { notes with hasOdd := true } next? firstSide second?
          secondSide
      | .gt => do
        if wishes.secondOdd then printJoined joining wishes none (some second)
        let (next?, notes, secondSide) ← readJoined joining notes secondSide
        joinFrom joining wishes count { notes with hasOdd := true } first? firstSide next?
          secondSide
      | .eq => do
        let (firsts, next?, notes, firstSide) ←
          readGroup joining key (firstSide.rest.length + 1) notes firstSide
        let (seconds, other?, notes, secondSide) ←
          readGroup joining key (secondSide.rest.length + 1) notes secondSide
        if wishes.pairs then
          for one in first :: firsts do
            for other in second :: seconds do printJoined joining wishes (some one) (some other)
        joinFrom joining wishes count notes next? firstSide other? secondSide
    | some first, none => do
      if wishes.firstOdd then printJoined joining wishes (some first) none
      readRest joining wishes (firstSide.rest.length + 1) notes firstSide
    | none, some second => do
      if wishes.secondOdd then printJoined joining wishes none (some second)
      readRest joining wishes (secondSide.rest.length + 1) notes secondSide
    | none, none => pure notes

/-- The number of a field that a text tells, counted from zero. -/
def joinIndex (text : Text) : Tool Nat := do
  match (Text.number? text).filter (0 < ·) with
  | some number => pure (number - 1)
  | none => fail 1 ("invalid field number: ".toList ++ Quoting.word text)

def joinFieldOf (text : Text) : Tool JoinField := do
  match text with
  | ['0'] => pure .common
  | '1' :: '.' :: rest => do pure (.own false (← joinIndex rest))
  | '2' :: '.' :: rest => do pure (.own true (← joinIndex rest))
  | mark :: _ =>
    if ['0', '1', '2'].contains mark then
      fail 1 ("invalid field specifier: ".toList ++ Quoting.word text)
    else fail 1 ("invalid file number in field spec: ".toList ++ Quoting.word text)
  | [] => fail 1 ("invalid file number in field spec: ".toList ++ Quoting.word text)

/-- The field that options tell for a file, counted from zero. -/
def comparedField (given : Given) (own : String) : Tool Nat := do
  let indices ← (given.filter fun option => option.1 == own || option.1 == "j").mapM fun option =>
    joinIndex option.2
  match indices with
  | [] => pure 0
  | index :: others =>
    match others.find? (· != index) with
    | some other => fail 1 ("incompatible join fields ".toList ++ Text.ofNat index ++ ", ".toList ++
        Text.ofNat other)
    | none => pure index

/-- The numbers of files that an option tells. -/
def fileNumbers (given : Given) (key : String) : Tool (List Nat) :=
  (given.filter fun option => option.1 == key).mapM fun option => do
    let index ← joinIndex option.2
    if 2 ≤ index then fail 1 ("invalid field number: ".toList ++ Quoting.word option.2)
    pure (index + 1)

def joinDivider (given : Given) : Tool (Option Char) := do
  match given.last? "t" with
  | none => pure none
  | some [] => pure (some '\n')
  | some [char] => pure (some char)
  | some ['\\', '0'] => pure (some '\x00')
  | some text => fail 1 ("multi-character tab ".toList ++ Quoting.word text)

/-- Joins the lines of two files that have a field in common. -/
def join : Program := fun arguments => do
  let (given, operands) ← Options.usual
    [.valued "a" "", .valued "e" "", .flag "i" "ignore-case", .valued "j" "", .valued "o" "",
      .valued "t" "", .valued "v" "", .valued "1" "", .valued "2" "", .flag "" "check-order",
      .flag "" "nocheck-order", .flag "" "header", .flag "z" "zero-terminated"] arguments
  let added ← fileNumbers given "a"
  let only ← fileNumbers given "v"
  let joining : Joining := {
    firstField := ← comparedField given "1"
    secondField := ← comparedField given "2"
    divider? := ← joinDivider given
    filler := (given.last? "e").getD []
    folds := given.has "ignore-case" }
  let lists := (given.filter fun option => option.1 == "o").map Prod.snd
  let isAutomatic := lists = ["auto".toList]
  let parts := (lists.flatMap fun list =>
    Text.splitAt ',' (list.map fun char => if isFieldBlank char then ',' else char)).filter
      fun part => !part.isEmpty
  let told ← if isAutomatic then pure [] else parts.mapM joinFieldOf
  let (firstPath, secondPath) ← twoOperands operands
  let mark := lineEnd given
  let firstLines ← linesOrFail mark firstPath
  let secondLines ← linesOrFail mark secondPath
  let ownFields := fun (isSecond : Bool) (own : Nat) (lines : List Text) =>
    ((List.range (joining.fields (lines.headD [])).length).filter (· != own)).map
      (JoinField.own isSecond)
  let shown? :=
    if isAutomatic then
      some (.common :: ownFields false joining.firstField firstLines ++
        ownFields true joining.secondField secondLines)
    else if lists.isEmpty then none
    else some told
  let joining := { joining with shown? }
  let wishes : JoinWishes := {
    pairs := only.isEmpty
    firstOdd := (added ++ only).contains 1
    secondOdd := (added ++ only).contains 2
    mark }
  let notes : OrderNotes := { care := .ofGiven given }
  let hasHeader := given.has "header"
  if hasHeader && !(firstLines.isEmpty && secondLines.isEmpty) then
    printJoined joining wishes (firstLines.head?.map joining.fields)
      (secondLines.head?.map joining.fields)
  let skipped := if hasHeader then 1 else 0
  let sideOf := fun (isSecond : Bool) (path : Text) (lines : List Text) =>
    ({ isSecond, path, rest := lines.drop skipped, number := skipped } : JoinSide)
  let (first?, notes, firstSide) ←
    readJoined joining notes (sideOf false firstPath firstLines)
  let (second?, notes, secondSide) ←
    readJoined joining notes (sideOf true secondPath secondLines)
  let notes ← joinFrom joining wishes (firstLines.length + secondLines.length + 1) notes
    first? firstSide second? secondSide
  if notes.told.isEmpty then pure 0 else fail 1 "input is not in sorted order".toList

end ComponentSchema.Script.Tool
