import ComponentSchema.Script.Printing
import ComponentSchema.Script.Tool.Search

/-!
Tools that divide a file into pieces and write each piece to a file of its own: pieces of some size,
or pieces that begin at lines that are told.
-/

namespace ComponentSchema.Script.Tool

/-! ## Pieces of some size -/

/-- How the names of pieces end. -/
structure PieceNames where
  /-- The digits that count. -/
  digits : List Char
  /-- How many digits there are; if that is not told, there are more as they are needed. -/
  length? : Option Nat
  /-- The number of the first piece. -/
  first : Nat
  /-- What stands behind the digits. -/
  ending : Text

namespace PieceNames

def digitsOf (names : PieceNames) : Nat → Nat → Text
  | 0, _ => []
  | count + 1, number =>
    digitsOf names count (number / names.digits.length) ++
      [names.digits.getD (number % names.digits.length) '0']

/-- The digits of a number that begin with those of a lower one where the last digit of all is kept
for more of them; so many may be put in front. -/
def grown (names : PieceNames) : Nat → Nat → Nat → Text
  | 0, length, number => names.digitsOf length number
  | count + 1, length, number =>
    let base := names.digits.length
    let room := (base - 1) * Nat.pow base (length - 1)
    if number < room then names.digitsOf length number
    else names.digits.getLastD '9' :: names.grown count (length + 1) (number - room)

/-- The end of the name of a piece, if there are digits enough. -/
def ofNumber? (names : PieceNames) (number : Nat) : Option Text :=
  let number := number + names.first
  match names.length? with
  | some length =>
    if number < Nat.pow names.digits.length length then
      some (names.digitsOf length number ++ names.ending)
    else none
  | none => some (names.grown 8 2 number ++ names.ending)

end PieceNames

/-- A text in pieces of some size, of which there are at most so many. -/
def piecesOfSize {α : Type} (size : Nat) : Nat → List α → List (List α)
  | 0, _ => []
  | _, [] => []
  | count + 1, items => items.take size :: piecesOfSize size count (items.drop size)

/-- Lines put together as long as they fit into a size; longer ones are divided. -/
def fittingPieces (size : Nat) (lines : List Text) : List Text :=
  let parts := lines.flatMap fun line => piecesOfSize size line.length line
  (parts.foldl (fun pieces part =>
    match pieces with
    | piece :: others =>
      if piece.length + part.length ≤ size && piece.getLast? = some '\n' ||
          piece.length + part.length ≤ size && piece.isEmpty
      then (piece ++ part) :: others
      else part :: piece :: others
    | [] => [part]) []).reverse

/-- Where each of so many pieces of about the same size begins; the first ones take what is left. -/
def equalStart (count length index : Nat) : Nat :=
  length / count * index + min index (length % count)

/-- A text in so many pieces of about the same size. -/
def equalPieces (count : Nat) (text : Text) : List Text :=
  let start := equalStart count text.length
  (List.range count).map fun index =>
    (text.drop (start index)).take (start (index + 1) - start index)

/-- A text in so many pieces, each of which takes the lines that begin in its share. -/
def equalLinePieces (count : Nat) (text : Text) : List Text :=
  let start := equalStart count text.length
  let lines := ((linesWithEnds text).foldl
    (fun (found, place) line => ((place, line) :: found, place + line.length))
    (([] : List (Nat × Text)), 0)).1.reverse
  (List.range count).map fun index =>
    (lines.filter fun line => start index ≤ line.1 && line.1 < start (index + 1)).flatMap Prod.snd

/-- A text in so many pieces, to which lines are dealt out in turn. -/
def dealtPieces (count : Nat) (text : Text) : List Text :=
  (List.range count).map fun index =>
    ((linesWithEnds text).zipIdx.filter fun line => line.2 % count = index).flatMap Prod.fst

/-- How a file is divided. -/
inductive Division where
  | lines (count : Nat)
  | bytes (size : Nat)
  | lineBytes (size : Nat)
  /-- Into some number of pieces, of which one may be chosen. -/
  | number (cut : Nat → Text → List Text) (count : Nat) (chosen? : Option Nat)

def pieceNumber (text : Text) (what : String) : Tool Nat := do
  match (scaledCount? text).filter (0 < ·) with
  | some number => pure number
  | none => fail 1 ("invalid number of ".toList ++ what.toList ++ ": ".toList ++ Quoting.word text)

def numberDivision (text : Text) : Tool Division := do
  let (cut, rest) := match text with
    | 'l' :: '/' :: rest => (equalLinePieces, rest)
    | 'r' :: '/' :: rest => (dealtPieces, rest)
    | rest => (equalPieces, rest)
  match Text.splitAt '/' rest with
  | [chosen, count] => do
    let total ← pieceNumber count "chunks"
    match (Text.number? chosen).filter fun number => 0 < number && number ≤ total with
    | some chosen => pure (.number cut total (some chosen))
    | none => fail 1 ("invalid chunk number: ".toList ++ Quoting.word chosen)
  | _ => do pure (.number cut (← pieceNumber rest "chunks") none)

def divisionOf (given : Given) : Tool Division := do
  let ways := given.filter fun option =>
    ["bytes", "line-bytes", "lines", "number"].contains option.1
  match ways with
  | [] => pure (.lines 1000)
  | [(key, text)] =>
    if key == "lines" then do pure (.lines (← pieceNumber text "lines"))
    else if key == "bytes" then do pure (.bytes (← pieceNumber text "bytes"))
    else if key == "line-bytes" then do pure (.lineBytes (← pieceNumber text "bytes"))
    else numberDivision text
  | _ => refuse 1 "cannot split in more than one way".toList

def Division.pieces (division : Division) (mark : Char) (text : Text) : List Text :=
  match division with
  | .lines count =>
    let lines := partsWithEnds mark text
    (piecesOfSize count lines.length lines).map List.flatten
  | .bytes size => piecesOfSize size text.length text
  | .lineBytes size => fittingPieces size (partsWithEnds mark text)
  | .number cut count _ => cut count text

/-- An old way to tell a number of lines: digits right behind a hyphen. -/
def oldLineCount (arguments : List Text) : List Text :=
  arguments.map fun argument =>
    match argument with
    | '-' :: digits => if (Text.number? digits).isSome then "-l".toList ++ digits else argument
    | _ => argument

/-- Writes the pieces of a file to files of their own. -/
def split : Program := fun arguments => do
  let (given, operands) ← Options.usual
    [.valued "a" "suffix-length", .valued "" "additional-suffix", .valued "b" "bytes",
      .valued "C" "line-bytes", .flag "d" "", .loose "" "numeric-suffixes", .flag "x" "",
      .loose "" "hex-suffixes", .flag "e" "elide-empty-files", .valued "" "filter",
      .valued "l" "lines", .valued "n" "number", .valued "t" "separator", .flag "u" "unbuffered",
      .flag "" "verbose"] (oldLineCount arguments)
  let division ← divisionOf given
  let (path, front) ← match operands with
    | [] => pure (['-'], ['x'])
    | [path] => pure (path, ['x'])
    | [path, front] => pure (path, front)
    | _ :: _ :: extra :: _ => refuse 1 ("extra operand ".toList ++ Quoting.word extra)
  let mark := match given.last? "separator" with
    | some ['\\', '0'] => '\x00'
    | some text => text.headD '\n'
    | none => '\n'
  let text ← match ← read path with
    | .ok text => pure text
    | .error .isDirectory => fail 1 (Quoting.ifNeeded path ++ ": Is a directory".toList)
    | .error reason =>
      fail 1 ("cannot open ".toList ++ Quoting.always path ++ " for reading: ".toList ++
        plainReason reason)
  let pieces := division.pieces mark text
  let base := match given.lastOf? ["d", "numeric-suffixes", "x", "hex-suffixes"] with
    | some "d" | some "numeric-suffixes" => "0123456789".toList
    | some _ => "0123456789abcdef".toList
    | none => "abcdefghijklmnopqrstuvwxyz".toList
  let startText := (given.last? "numeric-suffixes").or (given.last? "hex-suffixes")
  let needed := match division with
    | .number _ count _ =>
      some (max 2 ((Nat.toDigits base.length (count - 1)).length))
    | _ => none
  let names : PieceNames := {
    digits := base
    length? := (((given.last? "suffix-length").bind Text.number?).filter (0 < ·)).or
      (if (startText.filter fun text => !text.isEmpty).isSome then some 2 else needed)
    first := (startText.bind Text.number?).getD 0
    ending := (given.last? "additional-suffix").getD [] }
  match division with
  | .number _ _ (some chosen) => do
    print ((pieces[chosen - 1]?).getD [])
    pure 0
  | _ => do
    let kept := if given.has "elide-empty-files" then pieces.filter fun piece => !piece.isEmpty
      else pieces
    for (piece, number) in kept.zipIdx do
      match names.ofNumber? number with
      | none => fail 1 "output file suffixes exhausted".toList
      | some ending => do
        let name := front ++ ending
        if given.has "verbose" then
          printLine ("creating file ".toList ++ Quoting.always name)
        match ← writeFile name piece with
        | none => pure ()
        | some reason => fail 1 (Quoting.ifNeeded name ++ ": ".toList ++ plainReason reason)
    pure 0

/-! ## Pieces that begin at lines -/

/-- Where a piece ends. -/
inductive Border where
  /-- In front of a line with a number. -/
  | line (number : Nat)
  /-- In front of a line that matches, or some lines further; the piece may be left out. -/
  | matching (search : Search) (offset : Int) (isLeftOut : Bool)

/-- A border, how often it comes again, and what it is told as. -/
structure RepeatedBorder where
  border : Border
  /-- How often it comes again; without end if that is not told. -/
  times? : Option Nat := some 0
  wording : Text

/-- Where dividing a file stands. -/
structure Dividing where
  /-- The lines that were not passed, with their numbers. -/
  rest : List (Nat × Text)
  /-- The number of the line that was looked at last. -/
  current : Nat := 0
  /-- The pieces, the latest first. -/
  pieces : List Text := []

/-- How the dividing of a file at a border ends. -/
inductive BorderResult where
  | passed (dividing : Dividing)
  /-- There are no more such borders, and none are needed. -/
  | finished (dividing : Dividing)
  | failed (dividing : Dividing) (reason : Text)

namespace Dividing

/-- The lines up to a number as a piece, and what is left. -/
def cutBefore (dividing : Dividing) (number : Nat) (isLeftOut : Bool) : Dividing :=
  let taken := dividing.rest.takeWhile fun line => line.1 < number
  { dividing with
    rest := dividing.rest.drop taken.length
    current := max dividing.current (((taken.getLast?).map Prod.fst).getD 0)
    pieces := if isLeftOut then dividing.pieces
      else (taken.flatMap Prod.snd) :: dividing.pieces }

/-- All lines that are left as a piece. -/
def cutRest (dividing : Dividing) (isLeftOut : Bool) : Dividing :=
  { dividing with
    rest := []
    pieces := if isLeftOut then dividing.pieces
      else (dividing.rest.flatMap Prod.snd) :: dividing.pieces }

/-- Passes over the first line that is left, if lines at borders are not wanted. -/
def withoutFirst (dividing : Dividing) (suppresses : Bool) : Dividing :=
  if !suppresses then dividing
  else
    { dividing with
      rest := dividing.rest.tail
      current := max dividing.current ((dividing.rest.head?.map Prod.fst).getD 0) }

/-- Divides the lines that are left at a border that comes for some time, counted from zero. -/
def dividedAt (dividing : Dividing) (suppresses : Bool) (repeated : RepeatedBorder) (time : Nat) :
    BorderResult :=
  let again := if time = 0 then [] else " on repetition ".toList ++ Text.ofNat time
  match repeated.border with
  | .line number =>
    let outside := Quoting.word repeated.wording ++ ": line number out of range".toList ++ again
    let after := dividing.cutBefore (number * (time + 1)) false
    if after.rest.isEmpty then .failed after outside
    else .passed (after.withoutFirst suppresses)
  | .matching search offset isLeftOut =>
    let found := dividing.rest.find? fun line =>
      dividing.current < line.1 && search.wants (line.2.filter (· != '\n'))
    match found with
    | none =>
      let after := dividing.cutRest isLeftOut
      if repeated.times?.isNone then .finished after
      else .failed after (Quoting.word repeated.wording ++ ": match not found".toList ++ again)
    | some (number, _) =>
      let target := (number : Int) + offset
      let first := ((dividing.rest.head?).map Prod.fst).getD 0
      let last := ((dividing.rest.getLast?).map Prod.fst).getD 0
      let outside := Quoting.word repeated.wording ++ ": line number out of range".toList
      if target < first then .failed (dividing.cutBefore 0 isLeftOut) outside
      else if (last : Int) + 1 < target then .failed (dividing.cutRest isLeftOut) outside
      else
        let after := dividing.cutBefore target.toNat isLeftOut
        let current := if 0 < offset then target.toNat else number
        .passed ({ after with current := max after.current current }.withoutFirst suppresses)

/-- Divides lines at a border as often as it comes, which is at most so often. -/
def atAll (dividing : Dividing) (suppresses : Bool) (repeated : RepeatedBorder) :
    Nat → Nat → BorderResult
  | 0, _ => .passed dividing
  | count + 1, time =>
    match dividing.dividedAt suppresses repeated time with
    | .passed after => atAll after suppresses repeated count (time + 1)
    | result => result

/-- Divides lines at borders: the pieces, and what went wrong. -/
def atBorders (dividing : Dividing) (suppresses : Bool) :
    List RepeatedBorder → List Text × Option Text
  | [] => ((dividing.cutRest false).pieces.reverse, none)
  | border :: rest =>
    let times := match border.times? with
      | some times => times + 1
      | none => dividing.rest.length + 2
    match dividing.atAll suppresses border times 0 with
    | .passed after => after.atBorders suppresses rest
    | .finished after => (after.pieces.reverse, none)
    | .failed after reason => (after.pieces.reverse, some reason)

end Dividing

/-- The border that a text tells, after a line with some number. -/
def borderOf (text : Text) (before : Nat) : Tool Border := do
  match text with
  | mark :: rest =>
    if mark = '/' || mark = '%' then
      let behind := (rest.reverse.takeWhile (· != mark)).reverse
      if behind.length = rest.length then
        fail 1 (text ++ ": closing delimiter '".toList ++ mark :: "' missing".toList)
      let offset ← match behind with
        | [] => pure 0
        | behind =>
          match integer? behind with
          | some offset => pure offset
          | none => fail 1 (Quoting.word text ++ ": integer expected after delimiter".toList)
      let pattern := rest.take (rest.length - behind.length - 1)
      match Regex.parse .basic pattern with
      | .ok (regex, _) =>
        let search : Search := {
          patterns := [regex], folds := false, words := false, lines := false, others := false }
        pure (.matching search offset (mark = '%'))
      | .error fault =>
        fail 1 (Quoting.word text ++ ": invalid regular expression: ".toList ++
          faultWording pattern fault)
    else
      match Text.number? text with
      | none => fail 1 (Quoting.word text ++ ": invalid pattern".toList)
      | some 0 => fail 1 (text ++ ": line number must be greater than zero".toList)
      | some number => do
        if number < before then
          fail 1 ("line number ".toList ++ Quoting.word text ++
            " is smaller than preceding line number, ".toList ++ Text.ofNat before)
        if number = before then
          complain ("warning: line number ".toList ++ Quoting.word text ++
            " is the same as preceding line number".toList)
        pure (.line number)
  | [] => fail 1 (Quoting.word text ++ ": invalid pattern".toList)

/-- How often a border comes again, as a text tells. -/
def borderTimes (text : Text) : Tool (Option Nat) := do
  let inner := text.tail.dropLast
  if text.getLast? ≠ some '\x7d' then
    fail 1 (Quoting.word text ++ ": '\x7d' is required in repeat count".toList)
  if inner = ['*'] then pure none
  else
    match Text.number? inner with
    | some times => pure (some times)
    | none =>
      fail 1 (Quoting.word text.dropLast ++
        "\x7d: integer required between '\x7b' and '\x7d'".toList)

/-- The borders that operands tell, after a line with some number. -/
def bordersOf : Nat → List Text → Tool (List RepeatedBorder)
  | _, [] => pure []
  | before, text :: rest => do
    let border ← borderOf text before
    let before := match border with
      | .line number => number
      | .matching .. => before
    match rest with
    | ('\x7b' :: inner) :: others => do
      let times? ← borderTimes ('\x7b' :: inner)
      pure (⟨border, times?, text⟩ :: (← bordersOf before others))
    | others => do pure (⟨border, some 0, text⟩ :: (← bordersOf before others))

/-- Writes the pieces of a file that begin at lines that are told to files of their own. -/
def csplit : Program := fun arguments => do
  let (given, operands) ← Options.usual
    [.valued "b" "suffix-format", .valued "f" "prefix", .flag "k" "keep-files",
      .flag "" "suppress-matched", .valued "n" "digits", .flag "q" "quiet", .flag "s" "silent",
      .flag "z" "elide-empty-files"] arguments
  match operands with
  | [] => refuse 1 "missing operand".toList
  | [only] => refuse 1 ("missing operand after ".toList ++ Quoting.word only)
  | path :: texts => do
    let borders ← bordersOf 0 texts
    let text ← match ← read path with
      | .ok text => pure text
      | .error reason =>
        if reason = .isDirectory then fail 1 "read error: Is a directory".toList
        else fail 1 ("cannot open ".toList ++ Quoting.always path ++ " for reading: ".toList ++
          plainReason reason)
    let lines := (linesWithEnds text).zipIdx.map fun line => (line.2 + 1, line.1)
    let (pieces, problem?) := Dividing.atBorders { rest := lines } (given.has "suppress-matched")
      borders
    match problem? with
    | some problem => complain problem
    | none => pure ()
    let kept := if given.has "elide-empty-files" then pieces.filter fun piece => !piece.isEmpty
      else pieces
    let width := ((given.last? "digits").bind Text.number?).getD 2
    let ending := fun (number : Nat) =>
      match given.last? "suffix-format" with
      | some format => (printFormat format [Text.ofNat number]).printed.reverse
      | none =>
        let digits := Text.ofNat number
        List.replicate (width - digits.length) '0' ++ digits
    for (piece, number) in kept.zipIdx do
      if !given.has "quiet" && !given.has "silent" then printLine (Text.ofNat piece.length)
      if problem?.isNone || given.has "keep-files" then
        let name := (given.last? "prefix").getD "xx".toList ++ ending number
        match ← writeFile name piece with
        | none => pure ()
        | some reason => fail 1 (Quoting.ifNeeded name ++ ": ".toList ++ plainReason reason)
    pure (if problem?.isNone then 0 else 1)

end ComponentSchema.Script.Tool
