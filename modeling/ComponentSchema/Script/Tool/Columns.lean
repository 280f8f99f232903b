import ComponentSchema.Script.Tool.Sorting

/-!
Tools that work on each line: they pick out parts, join lines, turn them around and number them.
-/

namespace ComponentSchema.Script.Tool

/-! ## Parts of lines -/

/-- The places from one to another, or to the end. -/
structure Span where
  first : Nat
  last? : Option Nat
deriving DecidableEq, Repr

def Span.contains (span : Span) (place : Nat) : Bool :=
  span.first ≤ place && span.last?.all (place ≤ ·)

/-- What can be wrong with a list of spans. -/
inductive SpanFault where
  | zero
  | decreasing
  | noEnds (text : Text)
  | noNumber (text : Text)

def spanOf (text : Text) : Except SpanFault Span := do
  let number := fun (digits : Text) => match Text.number? digits with
    | some 0 => .error .zero
    | some number => .ok number
    | none => .error (.noNumber (digits.dropWhile Char.isDigit))
  let first := text.takeWhile (· != '-')
  if first.length = text.length then
    let place ← number first
    pure ⟨place, some place⟩
  else
    let last := text.drop (first.length + 1)
    if first.isEmpty && last.isEmpty then throw (.noEnds text)
    let start ← if first.isEmpty then pure 1 else number first
    if last.isEmpty then pure ⟨start, none⟩
    else
      let stop ← number last
      if stop < start then throw .decreasing else pure ⟨start, some stop⟩

def spansOf (text : Text) (inFields : Bool) : Tool (List Span) := do
  let parts := Text.splitAt ',' (text.map fun char => if isFieldBlank char then ',' else char)
  match parts.mapM spanOf with
  | .ok spans => pure spans
  | .error .zero =>
    refuse 1 (if inFields then "fields are numbered from 1"
      else "byte/character positions are numbered from 1").toList
  | .error .decreasing => refuse 1 "invalid decreasing range".toList
  | .error (.noEnds text) => refuse 1 ("invalid range with no endpoint: ".toList ++ text)
  | .error (.noNumber text) =>
    let what := if inFields then "invalid field value " else "invalid byte/character position "
    refuse 1 (what.toList ++ Quoting.word text)

/-- Items that stand next to each other, with those that are wanted kept together. -/
def wantedRuns {α : Type} (isWanted : Nat → Bool) : Nat → List α → List (List α)
  | _, [] => []
  | place, item :: rest =>
    if isWanted place then
      match wantedRuns isWanted (place + 1) rest with
      | [] => [[item]]
      | run :: others =>
        if isWanted (place + 1) then (item :: run) :: others else [item] :: run :: others
    else wantedRuns isWanted (place + 1) rest

/-- How parts of lines are picked out. -/
structure Cutting where
  spans : List Span
  /-- What divides fields; none if characters are picked. -/
  divider? : Option Char
  /-- What stands between parts that are shown. -/
  between? : Option Text
  others : Bool
  needsDivider : Bool

def Cutting.part? (cutting : Cutting) (line : Text) : Option Text :=
  let isWanted := fun (place : Nat) =>
    (cutting.spans.any fun span => span.contains place) != cutting.others
  match cutting.divider? with
  | none =>
    match cutting.between? with
    | none => some ((wantedRuns isWanted 1 line).flatten)
    | some between => some (Text.joined between (wantedRuns isWanted 1 line))
  | some divider =>
    if !line.contains divider then if cutting.needsDivider then none else some line
    else
      let fields := (wantedRuns isWanted 1 (Text.splitAt divider line)).flatten
      some (Text.joined (cutting.between?.getD [divider]) fields)

/-- Prints what becomes of the lines of each file, which end with a character. -/
def onLines (mark : Char) (work : List Text → List Text) (operands : List Text) : Tool Nat :=
  onEach (fun path => do
    match ← read path with
    | .error reason => rejected (Quoting.ifNeeded path ++ ": ".toList ++ plainReason reason)
    | .ok text => do
      print (withEnds (work (Text.endedBy mark text)) mark)
      pure true) (if operands.isEmpty then [['-']] else operands)

/-- Prints parts of lines. -/
def cut : Program := fun arguments => do
  let (given, operands) ← Options.usual
    [.valued "b" "bytes", .valued "c" "characters", .valued "f" "fields", .valued "d" "delimiter",
      .flag "n" "", .flag "s" "only-delimited", .valued "" "output-delimiter",
      .flag "" "complement", .flag "z" "zero-terminated"] arguments
  let lists := given.filter fun option => ["bytes", "characters", "fields"].contains option.1
  match (given.last? "delimiter").map List.length with
  | some 0 | some 1 | none => pure ()
  | _ => refuse 1 "the delimiter must be a single character".toList
  match lists with
  | [] => refuse 1 "you must specify a list of bytes, characters, or fields".toList
  | [(key, list)] => do
    let inFields := key == "fields"
    if !inFields && given.has "delimiter" then
      refuse 1 "an input delimiter may be specified only when operating on fields".toList
    if !inFields && given.has "only-delimited" then
      refuse 1 ("suppressing non-delimited lines makes sense\n\tonly when operating on " ++
        "fields").toList
    let spans ← spansOf list inFields
    let divider := match given.last? "delimiter" with
      | some text => text.head?.getD '\x00'
      | none => '\t'
    let cutting : Cutting := {
      spans
      divider? := if inFields then some divider else none
      between? := given.last? "output-delimiter"
      others := given.has "complement"
      needsDivider := given.has "only-delimited" }
    onLines (lineEnd given) (fun lines => lines.filterMap cutting.part?) operands
  | _ => refuse 1 "only one list may be specified".toList

/-! ## Lines together -/

def joinInTurn (dividers : List Text) : Nat → List Text → Text
  | _, [] => []
  | _, [line] => line
  | index, line :: rest =>
    line ++ (dividers[index % dividers.length]?).getD [] ++ joinInTurn dividers (index + 1) rest

/-- The lines of files side by side, of which there are at most so many. -/
def sideBySide : Nat → List (List Text) → List (List Text)
  | 0, _ => []
  | count + 1, columns =>
    if columns.all List.isEmpty then []
    else
      (columns.map fun column => column.head?.getD []) ::
        sideBySide count (columns.map List.tail)

def dividersOf : Text → List Text
  | '\\' :: '0' :: rest => [] :: dividersOf rest
  | '\\' :: 'n' :: rest => ['\n'] :: dividersOf rest
  | '\\' :: 't' :: rest => ['\t'] :: dividersOf rest
  | '\\' :: char :: rest => [char] :: dividersOf rest
  | char :: rest => [char] :: dividersOf rest
  | [] => []

/-- Deals the lines of standard input out to the places that name it, a line to each in turn, and
gives every other place the lines of its own file. -/
def dealtOut (paths : List Text) (found : List (List Text)) : List (List Text) :=
  let isShared (path : Text) := path = ['-']
  let turns := paths.countP isShared
  let shared := ((paths.zip found).filter (isShared ·.1)).flatMap (·.2)
  (paths.zip found).zipIdx.map fun ((path, own), index) =>
    if isShared path then
      let turn := (paths.take index).countP isShared
      (shared.zipIdx.filter fun (_, place) => place % turns = turn).map (·.1)
    else own

/-- Puts the lines of files side by side, or those of each file into one. -/
def paste : Program := fun arguments => do
  let (given, operands) ← Options.usual
    [.valued "d" "delimiters", .flag "s" "serial", .flag "z" "zero-terminated"] arguments
  let dividers := match (given.last? "delimiters").map dividersOf with
    | none => [['\t']]
    | some [] => [[]]
    | some dividers => dividers
  let mark := lineEnd given
  let paths := if operands.isEmpty then [['-']] else operands
  let files ← paths.mapM fun path => do
    match ← read path with
    | .ok text => pure (some (Text.endedBy mark text))
    | .error reason => do
      complain (Quoting.ifNeeded path ++ ": ".toList ++ plainReason reason)
      if reason = .isDirectory || given.has "serial" then pure none else throw 1
  let found := files.map (·.getD [])
  if given.has "serial" then
    for lines in files.filterMap id do print (joinInTurn dividers 0 lines ++ [mark])
  else
    let columns := dealtOut paths found
    let rows := sideBySide ((columns.map List.length).foldl max 0) columns
    print (withEnds (rows.map (joinInTurn dividers 0)) mark)
  pure (if files.all Option.isSome then 0 else 1)

/-! ## Lines turned around and numbered -/

/-- Prints the lines of files, the last one first. -/
def tac : Program := fun arguments => do
  let (_, operands) ← Options.usual
    [.flag "b" "before", .flag "r" "regex", .valued "s" "separator"] arguments
  onEach (fun path => do
    match ← read path with
    | .error .isDirectory => rejected (path ++ ": read error: Invalid argument".toList)
    | .error reason =>
      rejected ("failed to open ".toList ++ Quoting.always path ++ " for reading: ".toList ++
        plainReason reason)
    | .ok text => do
      print (linesWithEnds text).reverse.flatten
      pure true) (if operands.isEmpty then [['-']] else operands)

def charBytes (text : Text) : List Text :=
  text.foldr (fun char chars =>
    if 128 ≤ char.toNat && char.toNat < 192 then [char] :: chars
    else
      let tails := if char.toNat < 192 then [] else chars.takeWhile fun bytes =>
        bytes.all fun byte => 128 ≤ byte.toNat && byte.toNat < 192
      (char :: tails.flatten) :: chars.drop tails.length) []

/-- Prints each line with its characters turned around. -/
def rev : Program := fun arguments => do
  let (_, operands) ← Options.usual [.flag "V" "", .flag "h" ""] arguments
  onEach (fun path => do
    match ← read path with
    | .error reason =>
      rejected ("cannot open ".toList ++ path ++ ": ".toList ++ plainReason reason)
    | .ok text => do
      for line in linesWithEnds text do
        let body := line.filter (· != '\n')
        print ((charBytes body).reverse.flatten ++ line.drop body.length)
      pure true) (if operands.isEmpty then [['-']] else operands)

/-- How lines are numbered. -/
structure Numbering where
  style : Text
  width : Nat
  between : Text
  step : Nat
  zeros : Bool
  left : Bool

def Numbering.number (numbering : Numbering) : Nat → List Text → List Text
  | _, [] => []
  | number, line :: rest =>
    let counts := numbering.style = ['a'] || (numbering.style = ['t'] && !line.isEmpty)
    if counts then
      let digits := Text.ofNat number
      let missing := numbering.width - digits.length
      let shown :=
        if numbering.left then digits ++ List.replicate missing ' '
        else List.replicate missing (if numbering.zeros then '0' else ' ') ++ digits
      (shown ++ numbering.between ++ line) :: numbering.number (number + numbering.step) rest
    else
      let blank := List.replicate (numbering.width + numbering.between.length) ' '
      (blank ++ line) :: numbering.number number rest

/-- Prints lines with numbers. -/
def nl : Program := fun arguments => do
  let (given, operands) ← Options.parseAll
    [.valued "b" "body-numbering", .valued "d" "section-delimiter", .valued "f" "footer-numbering",
      .valued "h" "header-numbering", .valued "i" "line-increment", .valued "l" "join-blank-lines",
      .valued "n" "number-format", .flag "p" "no-renumber", .valued "s" "number-separator",
      .valued "v" "starting-line-number", .valued "w" "number-width"] arguments
  let number := fun (key : String) (usual : Nat) =>
    ((given.last? key).bind Text.number?).getD usual
  let format := (given.last? "number-format").getD ['r', 'n']
  let numbering : Numbering := {
    style := (given.last? "body-numbering").getD ['t']
    width := number "number-width" 6
    between := (given.last? "number-separator").getD ['\t']
    step := number "line-increment" 1
    zeros := format == ['r', 'z']
    left := format == ['l', 'n'] }
  let paths := if operands.isEmpty then [['-']] else operands
  let files ← paths.mapM fun path => do
    match ← read path with
    | .ok text => pure (some (Text.lines text))
    | .error reason => do
      complain (Quoting.ifNeeded path ++ ": ".toList ++ plainReason reason)
      pure none
  print (withEnds (numbering.number (number "starting-line-number" 1)
    (files.filterMap id).flatten))
  pure (if files.all Option.isSome then 0 else 1)

end ComponentSchema.Script.Tool
