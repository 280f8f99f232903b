import ComponentSchema.Script.Number
import ComponentSchema.Script.Tool.Files

/-!
Tools that pass text on: all of it, its beginning, its end, or how much of it there is.
-/

namespace ComponentSchema.Script.Tool

/-- The parts of a text that each end with a character, together with it. -/
def partsWithEnds (mark : Char) (text : Text) : List Text :=
  text.foldr (fun char parts =>
    match parts with
    | [] => [[char]]
    | part :: others => if char = mark then [char] :: part :: others else (char :: part) :: others)
    []

def linesWithEnds (text : Text) : List Text := partsWithEnds '\n' text

/-- The character that ends lines for a tool that may be asked for another one. -/
def lineEnd (given : Given) : Char := if given.has "zero-terminated" then '\x00' else '\n'

/-- A text filled up with blanks in front. -/
def padded (width : Nat) (text : Text) : Text :=
  List.replicate (width - text.length) ' ' ++ text

def paddedNumber (width number : Nat) : Text := padded width (Text.ofNat number)

/-! ## All of it -/

/-- What stands for a character that is no printable one. -/
def visible (char : Char) : Text :=
  let low := fun (char : Char) =>
    if char = '\x7f' then ['^', '?']
    else if char < ' ' then ['^', Char.ofNat (char.toNat + 64)]
    else [char]
  if char.toNat < 128 then low char
  else 'M' :: '-' :: low (Char.ofNat (char.toNat - 128))

/-- How lines are shown. -/
structure Display where
  numbers : Bool
  /-- Whether blank lines have no number. -/
  skipsBlank : Bool
  squeezes : Bool
  ends : Bool
  tabs : Bool
  hidden : Bool

/-- Where the showing of lines stands. -/
structure Shown where
  number : Nat := 1
  /-- How many ends of lines were passed since the last character, and one at the start. -/
  ends : Nat := 1
  /-- What was shown, last first. -/
  reversed : Text := []

def Shown.put (shown : Shown) (text : Text) : Shown :=
  { shown with reversed := text.reverse ++ shown.reversed }

/-- Shows the number of a line. -/
def Shown.putNumber (shown : Shown) : Shown :=
  { shown.put (paddedNumber 6 shown.number ++ ['\t']) with number := shown.number + 1 }

def Display.show (display : Display) (shown : Shown) (char : Char) : Shown :=
  if char = '\n' then
    let ends := min (shown.ends + 1) 3
    if display.squeezes && ends == 3 then { shown with ends }
    else
      let shown :=
        if ends > 1 && display.numbers && !display.skipsBlank then shown.putNumber else shown
      { (if display.ends then shown.put ['$'] else shown).put ['\n'] with ends }
  else
    let shown := if shown.ends > 0 && display.numbers then shown.putNumber else shown
    let text :=
      if char = '\t' then (if display.tabs then ['^', 'I'] else ['\t'])
      else if display.hidden then visible char
      else [char]
    { shown.put text with ends := 0 }

/-- Prints files from some place in the showing of lines on. -/
def catFrom (display : Display) : Shown → List Text → Tool Bool
  | _, [] => pure true
  | shown, path :: rest => do
    match ← read path with
    | .error reason => do
      complain (Quoting.ifNeeded path ++ ": ".toList ++ plainReason reason)
      let _ ← catFrom display shown rest
      pure false
    | .ok text => do
      let shown := text.foldl display.show { shown with reversed := [] }
      print shown.reversed.reverse
      catFrom display shown rest

/-- Prints files one after the other. -/
def cat : Program := fun arguments => do
  let (given, operands) ← Options.usual
    [.flag "A" "show-all", .flag "b" "number-nonblank", .flag "e" "", .flag "E" "show-ends",
      .flag "n" "number", .flag "s" "squeeze-blank", .flag "t" "", .flag "T" "show-tabs",
      .flag "u" "", .flag "v" "show-nonprinting"] arguments
  let any := fun (keys : List String) => keys.any given.has
  let display : Display := {
    numbers := any ["number", "number-nonblank"]
    skipsBlank := given.has "number-nonblank"
    squeezes := given.has "squeeze-blank"
    ends := any ["show-all", "e", "show-ends"]
    tabs := any ["show-all", "t", "show-tabs"]
    hidden := any ["show-all", "e", "t", "show-nonprinting"] }
  let isFine ← catFrom display {} (if operands.isEmpty then [['-']] else operands)
  pure (if isFine then 0 else 1)

/-- Writes what is read to files too. -/
def tee : Program := fun arguments => do
  let (given, operands) ← Options.usual
    [.flag "a" "append", .flag "i" "ignore-interrupts", .loose "" "output-error", .flag "p" ""]
    arguments
  let text ← takeInput
  print text
  onEach (fun path => do
    let before ←
      if given.has "append" then do
        match ← read path with
        | .ok before => pure before
        | .error _ => pure []
      else pure []
    match ← writeFile path (before ++ text) with
    | none => pure true
    | some reason => rejected (Quoting.ifNeeded path ++ ": ".toList ++ plainReason reason)) operands

/-! ## The beginning and the end -/

/-- A count with a letter behind it that multiplies it. -/
def scaledCount? (text : Text) : Option Nat := do
  let (value, rest) ← scanDigits? 10 text
  let power := fun (letter : Char) (base : Nat) =>
    (['K', 'M', 'G', 'T', 'P', 'E'].idxOf? letter).map fun index => Nat.pow base (index + 1)
  match rest with
  | [] => some value
  | ['b'] => some (512 * value)
  | ['k'] => some (1024 * value)
  | ['m'] => some (1024 * 1024 * value)
  | [letter] => (power letter 1024).map (value * ·)
  | [letter, 'i', 'B'] => (power letter 1024).map (value * ·)
  | ['k', 'B'] => some (1000 * value)
  | [letter, 'B'] => (power letter 1000).map (value * ·)
  | _ => none

/-- How much of a text is wanted. -/
structure Amount where
  inBytes : Bool
  count : Nat
  /-- Whether the count tells what to leave out, or where to begin. -/
  turned : Bool
  /-- What ends lines. -/
  mark : Char := '\n'

def Amount.front (amount : Amount) (text : Text) : Text :=
  if amount.inBytes then
    text.take (if amount.turned then text.length - amount.count else amount.count)
  else
    let lines := partsWithEnds amount.mark text
    (lines.take (if amount.turned then lines.length - amount.count else amount.count)).flatten

def Amount.back (amount : Amount) (text : Text) : Text :=
  if amount.inBytes then
    text.drop (if amount.turned then amount.count - 1 else text.length - amount.count)
  else
    let lines := partsWithEnds amount.mark text
    (lines.drop (if amount.turned then amount.count - 1 else lines.length - amount.count)).flatten

/-- The amount that options tell; `mark` stands in front of a count that is turned around. -/
def amountOf (given : Given) (mark : Char) : Tool Amount := do
  let key := (given.lastOf? ["bytes", "lines"]).getD "lines"
  match given.last? key with
  | none => pure ⟨false, 10, false, lineEnd given⟩
  | some text =>
    let turned := text.head? = some mark
    let digits := match text with
      | '-' :: rest => rest
      | '+' :: rest => rest
      | rest => rest
    match scaledCount? digits with
    | some count => pure ⟨key = "bytes", count, turned, lineEnd given⟩
    | none => fail 1 ("invalid number of ".toList ++ key.toList ++ ": ".toList ++ Quoting.word text)

/-- Prints a part of files; `follows` tells whether something was printed before. -/
def printParts (part : Text → Text) (titled : Bool) : Bool → List Text → Tool Bool
  | _, [] => pure true
  | follows, path :: rest => do
    let title :=
      if !titled then []
      else
        (if follows then ['\n'] else []) ++ "==> ".toList ++
          (if path = ['-'] then "standard input".toList else path) ++ " <==\n".toList
    match ← read path with
    | .error .isDirectory => do
      print title
      complain (problem "error reading " path .isDirectory)
      let _ ← printParts part titled true rest
      pure false
    | .error reason => do
      complain ("cannot open ".toList ++ Quoting.always path ++ " for reading: ".toList ++
        plainReason reason)
      let _ ← printParts part titled follows rest
      pure false
    | .ok text => do
      print title
      print (part text)
      printParts part titled true rest

/-- An old way to tell an amount: the count with letters right behind a sign. -/
def oldAmount (signs : List Char) (arguments : List Text) : List Text :=
  match arguments with
  | (sign :: first :: more) :: rest =>
    if signs.contains sign && first.isDigit then
      let digits := (first :: more).takeWhile Char.isDigit
      let letters := (first :: more).drop digits.length
      let value := if sign = '+' then sign :: digits else digits
      let unit := if letters.contains 'c' then ['-', 'c'] else ['-', 'n']
      let others := letters.filter fun letter => letter = 'q' || letter = 'v' || letter = 'f'
      unit :: value :: (if others.isEmpty then rest else ('-' :: others) :: rest)
    else arguments
  | _ => arguments

def partOptions : List OptionForm :=
  [.valued "c" "bytes", .valued "n" "lines", .flag "q" "quiet", .flag "" "silent",
    .flag "v" "verbose", .flag "z" "zero-terminated"]

/-- Whether the parts of files get titles. -/
def hasTitles (given : Given) (operands : List Text) : Bool :=
  match given.lastOf? ["quiet", "silent", "verbose"] with
  | some key => key == "verbose"
  | none => operands.length > 1

/-- Prints the beginning of files. -/
def head : Program := fun arguments => do
  let (given, operands) ← Options.usual partOptions (oldAmount ['-'] arguments)
  let amount ← amountOf given '-'
  let process ← get
  let isFine ← printParts amount.front (hasTitles given operands) false
    (if operands.isEmpty then [['-']] else operands)
  if process.rewinds && (operands.isEmpty || operands.contains ['-']) then
    modify fun after =>
      { after with input := process.input.drop (amount.front process.input).length }
  pure (if isFine then 0 else 1)

/-- Prints the end of files. -/
def tail : Program := fun arguments => do
  let (given, operands) ← Options.usual
    (partOptions ++
      [.flag "F" "", .loose "f" "follow", .valued "" "max-unchanged-stats", .valued "" "pid",
        .flag "" "retry", .valued "s" "sleep-interval"]) (oldAmount ['-', '+'] arguments)
  let amount ← amountOf given '+'
  if amount.count = 0 && !amount.turned then pure 0
  else
    let isFine ← printParts amount.back (hasTitles given operands) false
      (if operands.isEmpty then [['-']] else operands)
    pure (if isFine then 0 else 1)

/-! ## How much of it -/

/-- How much there is of a text. -/
structure Tally where
  lines : Nat := 0
  words : Nat := 0
  chars : Nat := 0
  bytes : Nat := 0
  longest : Nat := 0

/-- How many words a text has; `inWord` tells whether one has begun. -/
def countWords : Bool → Text → Nat
  | _, [] => 0
  | inWord, char :: rest =>
    if isNumberBlank char then countWords false rest
    else if inWord then countWords true rest
    else 1 + countWords true rest

/-- How many columns a line takes; a tab goes to the next multiple of eight. -/
def lineWidth (line : Text) : Nat :=
  line.foldl (fun width char =>
    if char = '\t' then width + (8 - width % 8)
    else if char < ' ' then width
    else width + 1) 0

def Tally.ofText (text : Text) : Tally :=
  { lines := text.count '\n'
    words := countWords false text
    chars := text.countP fun char => char.toNat < 128 || 192 ≤ char.toNat
    bytes := text.length
    longest := ((Text.splitAt '\n' text).map lineWidth).foldl max 0 }

/-- Two tallies taken together. -/
def Tally.add (first second : Tally) : Tally :=
  ⟨first.lines + second.lines, first.words + second.words, first.chars + second.chars,
    first.bytes + second.bytes, max first.longest second.longest⟩

/-- The numbers of a tally that options ask for. -/
def Tally.numbers (tally : Tally) (given : Given) : List Nat :=
  let wanted := fun (key : String) (number : Nat) => if given.has key then [number] else []
  let asked := ["lines", "words", "chars", "bytes", "max-line-length"].any given.has
  if asked then
    wanted "lines" tally.lines ++ wanted "words" tally.words ++ wanted "chars" tally.chars ++
      wanted "bytes" tally.bytes ++ wanted "max-line-length" tally.longest
  else [tally.lines, tally.words, tally.bytes]

def printTally (given : Given) (width : Nat) (name : Option Text) (tally : Tally) : Tool Unit :=
  printLine (Text.joined [' '] ((tally.numbers given).map (paddedNumber width) ++ name.toList))

/-- Prints how much there is of files, and answers with how much there is of all together. -/
def tallyAll (given : Given) (width : Nat) : List (Option Text) → Tool (Tally × Bool)
  | [] => pure ({}, true)
  | path :: rest => do
    match ← read (path.getD ['-']) with
    | .error reason => do
      complain (Quoting.ifNeeded (path.getD []) ++ ": ".toList ++ plainReason reason)
      if reason = .isDirectory then printTally given width path {}
      let (total, _) ← tallyAll given width rest
      pure (total, false)
    | .ok text => do
      let tally := Tally.ofText text
      printTally given width path tally
      let (total, isFine) ← tallyAll given width rest
      pure (tally.add total, isFine)

/-- How wide the numbers about files are shown. -/
def tallyWidth (given : Given) (paths : List (Option Text)) : Tool Nat := do
  if paths.length = 1 && (({} : Tally).numbers given).length = 1 then pure 1
  else
    let process ← get
    let sizes ← paths.mapM fun path => do
      match path with
      | none | some ['-'] =>
        pure (if process.rewinds then some process.input.length else none)
      | some path => do
        match ← stat path with
        | .ok (_, { content := .file bytes, .. }) => pure (some bytes.size)
        | .ok _ => pure none
        | .error _ => pure (if sinkPaths.contains path then none else some 0)
    let total := sizes.foldl (fun sum size => sum + size.getD 0) 0
    pure (max (Text.ofNat total).length (if sizes.all Option.isSome then 1 else 7))

/-- Prints how many lines, words and bytes files have. -/
def wc : Program := fun arguments => do
  let (given, operands) ← Options.usual
    [.flag "c" "bytes", .flag "m" "chars", .flag "l" "lines", .valued "" "files0-from",
      .flag "L" "max-line-length", .valued "" "total", .flag "w" "words"] arguments
  let paths := if operands.isEmpty then [none] else operands.map some
  let width ← tallyWidth given paths
  let (total, isFine) ← tallyAll given width paths
  if paths.length > 1 then printTally given width (some "total".toList) total
  pure (if isFine then 0 else 1)

end ComponentSchema.Script.Tool
