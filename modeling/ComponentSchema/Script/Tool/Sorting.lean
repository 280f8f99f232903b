import ComponentSchema.Script.Tool.Streams

/-!
Tools that put lines in order and find equal ones side by side.
-/

namespace ComponentSchema.Script.Tool

/-! ## Keys -/

/-- A place in a line: a field, and a character in it, both counted from one. -/
structure KeyPlace where
  field : Nat
  char : Nat
deriving DecidableEq, Repr

/-- A part of a line that is compared, with the letters that tell how. -/
structure SortKey where
  start : KeyPlace := ⟨1, 1⟩
  stop? : Option KeyPlace := none
  letters : List Char := []
  /-- Whether blanks in front do not count where the part ends. -/
  skipsAtStop : Bool := false
deriving DecidableEq, Repr

/-- Characters that divide fields where no other one is told. -/
def isFieldBlank (char : Char) : Bool := char == ' ' || char == '\t' || char == '\n'

/-- What follows some fields of a line; `further` tells whether the divider behind the last one is
passed over too. -/
def afterFields (divider : Option Char) (further : Bool) : Nat → Text → Text
  | 0, line => line
  | count + 1, line =>
    match divider with
    | none => afterFields divider further count
        ((line.dropWhile isFieldBlank).dropWhile fun char => !isFieldBlank char)
    | some divider =>
      let rest := line.dropWhile (· != divider)
      afterFields (some divider) further count (if count > 0 || further then rest.tail else rest)

def SortKey.part (key : SortKey) (divider : Option Char) (line : Text) : Text :=
  let skip := fun (skips : Bool) (rest : Text) =>
    if skips then rest.dropWhile isFieldBlank else rest
  let start := afterFields divider true (key.start.field - 1) line
  let start := (skip (key.letters.contains 'b') start).drop (key.start.char - 1)
  match key.stop? with
  | none => start
  | some stop =>
    let rest :=
      if stop.char = 0 then afterFields divider false stop.field line
      else
        (skip key.skipsAtStop (afterFields divider true (stop.field - 1) line)).drop stop.char
    start.take (start.length - rest.length)

/-- Letters that tell how parts are compared. -/
def orderLetters : List Char := ['b', 'd', 'f', 'g', 'h', 'i', 'M', 'n', 'R', 'r', 'V']

def keyCount (what : String) (text : Text) : Tool (Nat × Text) := do
  match scanDigits? 10 text with
  | some found => pure found
  | none =>
    fail 2 (what.toList ++ ": invalid count at start of ".toList ++ Quoting.word text)

/-- Reports a key that cannot be used. -/
def badKey {α : Type} (what : String) (text : Text) : Tool α :=
  fail 2 (what.toList ++ ": invalid field specification ".toList ++ Quoting.word text)

def keyOf (text : Text) : Tool SortKey := do
  let (field, rest) ← keyCount "invalid number at field start" text
  if field = 0 then badKey "field number is zero" text
  let (char, rest) ←
    match rest with
    | '.' :: rest => keyCount "invalid number after '.'" rest
    | rest => pure (1, rest)
  if char = 0 then badKey "character offset is zero" text
  let letters := rest.takeWhile orderLetters.contains
  match rest.drop letters.length with
  | [] => pure { start := ⟨field, char⟩, letters }
  | ',' :: rest => do
    let (last, rest) ← keyCount "invalid number after ','" rest
    if last = 0 then badKey "field number is zero" text
    let (char, rest) ←
      match rest with
      | '.' :: rest => keyCount "invalid number after '.'" rest
      | rest => pure (0, rest)
    let more := rest.takeWhile orderLetters.contains
    if more.length < rest.length then badKey "stray character in field spec" text
    pure {
      start := ⟨field, char⟩, stop? := some ⟨last, char⟩
      letters := letters ++ more.filter (· != 'b'), skipsAtStop := more.contains 'b' }
  | _ => badKey "stray character in field spec" text

/-! ## Orders -/

/-- A decimal number in front of a text: whether it is negative, and its digits before and behind
the point. -/
def decimalOf (text : Text) : Bool × Nat × Text :=
  let text := text.dropWhile isFieldBlank
  let (negative, text) := match text with
    | '-' :: rest => (true, rest)
    | rest => (false, rest)
  let whole := text.takeWhile Char.isDigit
  let fraction := match text.drop whole.length with
    | '.' :: rest => rest.takeWhile Char.isDigit
    | _ => []
  let fraction := (fraction.reverse.dropWhile (· == '0')).reverse
  let value := Digits.decimalValue whole
  (negative && (value != 0 || !fraction.isEmpty), value, fraction)

/-- The order of texts byte by byte. -/
def compareTexts (first second : Text) : Ordering :=
  if first = second then .eq else if Text.precedes first second then .lt else .gt

/-- The order of the numbers in front of texts. -/
def compareDecimals (first second : Text) : Ordering :=
  let (negative, whole, fraction) := decimalOf first
  let (otherNegative, otherWhole, otherFraction) := decimalOf second
  let size := (compare whole otherWhole).then (compareTexts fraction otherFraction)
  match negative, otherNegative with
  | true, false => .lt
  | false, true => .gt
  | true, true => size.swap
  | false, false => size

def countedText (letters : List Char) (text : Text) : Text :=
  let text :=
    if letters.contains 'd' then text.filter fun char => isFieldBlank char || char.isAlphanum
    else if letters.contains 'i' then text.filter fun char => ' ' ≤ char && char ≤ '~'
    else text
  if letters.contains 'f' then text.map Char.toUpper else text

/-- Digits and what is between them: for the order of versions, numbers count by their values. -/
def compareVersions : Nat → Text → Text → Ordering
  | 0, first, second => compareTexts first second
  | count + 1, first, second =>
    let words := first.takeWhile fun char => !char.isDigit
    let others := second.takeWhile fun char => !char.isDigit
    if words ≠ others then compareTexts words others
    else
      let rest := first.drop words.length
      let otherRest := second.drop others.length
      let number := rest.takeWhile Char.isDigit
      let otherNumber := otherRest.takeWhile Char.isDigit
      if number.isEmpty && otherNumber.isEmpty then .eq
      else
        (compare (Digits.decimalValue number) (Digits.decimalValue otherNumber)).then
          (compareVersions count (rest.drop number.length) (otherRest.drop otherNumber.length))

/-- How large the unit behind a number is; a negative number has a negative one. -/
def unitOf (text : Text) : Int :=
  let text := text.dropWhile isFieldBlank
  let (negative, text) := match text with
    | '-' :: rest => (true, rest)
    | rest => (false, rest)
  let digits := text.takeWhile fun char => char.isDigit || char == '.'
  let letter := (text.drop digits.length).head?.getD ' '
  let units := ['K', 'M', 'G', 'T', 'P', 'E', 'Z', 'Y', 'R', 'Q']
  let unit := match units.findIdx? (· == (if letter = 'k' then 'K' else letter)) with
    | some index => index + 1
    | none => 0
  if !digits.any fun char => '1' ≤ char && char ≤ '9' then 0
  else if negative then -unit
  else unit

/-- The number of the month whose name a text begins with, or zero. -/
def monthOf (text : Text) : Nat :=
  let name := ((text.dropWhile isFieldBlank).take 3).map Char.toUpper
  match ["JAN", "FEB", "MAR", "APR", "MAY", "JUN", "JUL", "AUG", "SEP", "OCT", "NOV",
      "DEC"].findIdx? fun month => month.toList == name with
  | some index => index + 1
  | none => 0

/-- The number in front of a text that may have an exponent, as a whole number of units that are a
power of ten; none if there is no number. -/
def generalNumber? (text : Text) : Option (Int × Int) :=
  let text := text.dropWhile isFieldBlank
  let (negative, text) := match text with
    | '-' :: rest => (true, rest)
    | '+' :: rest => (false, rest)
    | rest => (false, rest)
  let whole := text.takeWhile Char.isDigit
  let (fraction, rest) := match text.drop whole.length with
    | '.' :: rest => (rest.takeWhile Char.isDigit, rest.dropWhile Char.isDigit)
    | rest => ([], rest)
  if whole.isEmpty && fraction.isEmpty then none
  else
    let exponent : Int := match rest with
      | mark :: rest =>
        if mark = 'e' || mark = 'E' then
          match rest with
          | '-' :: digits => -(Digits.decimalValue (digits.takeWhile Char.isDigit) : Int)
          | '+' :: digits => Digits.decimalValue (digits.takeWhile Char.isDigit)
          | digits => Digits.decimalValue (digits.takeWhile Char.isDigit)
        else 0
      | [] => 0
    let digits : Int := Digits.decimalValue (whole ++ fraction)
    some (if negative then -digits else digits, max (-5000) (min 5000 exponent) - fraction.length)

/-- The order of the numbers in front of texts that may have exponents; what is no number comes
first. -/
def compareGeneral (first second : Text) : Ordering :=
  match generalNumber? first, generalNumber? second with
  | none, none => .eq
  | none, some _ => .lt
  | some _, none => .gt
  | some (digits, power), some (otherDigits, otherPower) =>
    let least := min power otherPower
    compare (digits * (Nat.pow 10 (power - least).toNat : Int))
      (otherDigits * (Nat.pow 10 (otherPower - least).toNat : Int))

/-- The order of two parts. -/
def compareParts (letters : List Char) (first second : Text) : Ordering :=
  let order :=
    if letters.contains 'n' then compareDecimals first second
    else if letters.contains 'g' then compareGeneral first second
    else if letters.contains 'h' then
      (compare (unitOf first) (unitOf second)).then (compareDecimals first second)
    else if letters.contains 'M' then compare (monthOf first) (monthOf second)
    else if letters.contains 'V' then compareVersions (first.length + 1) first second
    else compareTexts (countedText letters first) (countedText letters second)
  if letters.contains 'r' then order.swap else order

/-- The order of two lines by keys. -/
def compareByKeys (divider : Option Char) (keys : List SortKey) (first second : Text) : Ordering :=
  keys.foldl (fun order key =>
    order.then (compareParts key.letters (key.part divider first) (key.part divider second))) .eq

/-! ## Sorting -/

def dropRepeated (isEqual : Text → Text → Bool) : List Text → List Text
  | [] => []
  | line :: rest =>
    match dropRepeated isEqual rest with
    | [] => [line]
    | next :: others => if isEqual line next then line :: others else line :: next :: others

/-- The number and the text of the first line that is out of order. -/
def firstDisorder (isFine : Text → Text → Bool) : Nat → List Text → Option (Nat × Text)
  | number, first :: second :: rest =>
    if isFine first second then firstDisorder isFine (number + 1) (second :: rest)
    else some (number + 1, second)
  | _, _ => none

/-- The lines of files, each of which ends with a character. -/
def linesOfFiles (mark : Char) (paths : List Text) : Tool (List Text) := do
  let texts ← paths.mapM fun path => do
    match ← read path with
    | .ok text => pure (Text.endedBy mark text)
    | .error .isDirectory =>
      fail 2 ("read failed: ".toList ++ Quoting.ifNeeded path ++ ": Is a directory".toList)
    | .error reason =>
      fail 2 ("cannot read: ".toList ++ Quoting.ifNeeded path ++ ": ".toList ++ plainReason reason)
  pure texts.flatten

def withEnds (lines : List Text) (mark : Char := '\n') : Text := lines.flatMap (· ++ [mark])

def dividerOf (given : Given) : Tool (Option Char) := do
  match given.last? "field-separator" with
  | none => pure none
  | some [char] => pure (some char)
  | some [] => fail 2 "empty tab".toList
  | some ['\\', '0'] => pure (some '\x00')
  | some text => fail 2 ("multi-character tab ".toList ++ Quoting.word text)

/-- Puts lines in order. -/
def sort : Program := fun arguments => do
  let (given, operands) ← Options.parse
    [.flag "b" "ignore-leading-blanks", .flag "d" "dictionary-order", .flag "f" "ignore-case",
      .flag "g" "general-numeric-sort", .flag "i" "ignore-nonprinting", .flag "M" "month-sort",
      .flag "h" "human-numeric-sort", .flag "n" "numeric-sort", .flag "R" "random-sort",
      .flag "r" "reverse", .valued "" "sort", .flag "V" "version-sort",
      .valued "" "batch-size", .loose "c" "check", .flag "C" "", .valued "" "compress-program",
      .flag "" "debug", .valued "" "files0-from", .valued "k" "key", .flag "m" "merge",
      .valued "o" "output", .valued "" "parallel", .valued "" "random-source", .flag "s" "stable",
      .valued "S" "buffer-size", .valued "t" "field-separator",
      .valued "T" "temporary-directory", .flag "u" "unique", .valued "y" "",
      .flag "z" "zero-terminated"]
    arguments 2 true
  let shared := orderLetters.filter fun letter =>
    given.any fun option => option.2 == [letter] &&
      ["ignore-leading-blanks", "dictionary-order", "ignore-case", "general-numeric-sort",
        "ignore-nonprinting", "month-sort", "human-numeric-sort", "numeric-sort", "random-sort",
        "reverse", "version-sort"].contains option.1
  let named := [("ignore-leading-blanks", 'b'), ("dictionary-order", 'd'), ("ignore-case", 'f'),
    ("numeric-sort", 'n'), ("reverse", 'r'), ("version-sort", 'V')]
  let shared := shared ++ (named.filter fun entry => given.has entry.1).map Prod.snd
  let keys ← (given.filter fun option => option.1 == "key").mapM fun option => keyOf option.2
  let keys := keys.map fun key =>
    if key.letters.isEmpty && !key.skipsAtStop then
      { key with letters := shared, skipsAtStop := shared.contains 'b' }
    else key
  let keys := if keys.isEmpty then [{ letters := shared }] else keys
  let divider ← dividerOf given
  let mark := lineEnd given
  let byKeys := compareByKeys divider keys
  let paths := if operands.isEmpty then [['-']] else operands
  let isSilent := given.has "C"
  if given.has "check" || isSilent then
    match paths with
    | [path] => do
      let lines ← linesOfFiles mark [path]
      let isFine := fun (first second : Text) =>
        match byKeys first second with
        | .lt => true
        | .eq => !given.has "unique" &&
            (given.has "stable" || (compareTexts first second != .gt) != shared.contains 'r')
        | .gt => false
      match firstDisorder isFine 1 lines with
      | none => pure 0
      | some (number, line) => do
        if !isSilent then
          complain (path ++ ':' :: Text.ofNat number ++ ": disorder: ".toList ++ line)
        pure 1
    | _ => fail 2 ("extra operand ".toList ++ Quoting.always ((paths[1]?).getD []) ++
        " not allowed with -c".toList)
  else
    let lines ← linesOfFiles mark paths
    let whole := fun (first second : Text) =>
      if given.has "stable" || given.has "unique" then byKeys first second
      else
        let last := compareTexts first second
        (byKeys first second).then (if shared.contains 'r' then last.swap else last)
    let sorted := lines.mergeSort fun first second => whole first second != .gt
    let kept :=
      if given.has "unique" then
        dropRepeated (fun first second => byKeys first second == .eq) sorted
      else sorted
    match given.last? "output" with
    | none => do
      print (withEnds kept mark)
      pure 0
    | some path =>
      match ← writeFile path (withEnds kept mark) with
      | none => pure 0
      | some reason =>
        fail 2 ("open failed: ".toList ++ Quoting.ifNeeded path ++ ": ".toList ++
          plainReason reason)

/-! ## Equal lines -/

/-- Lines that are equal and stand side by side, together. -/
def runs (isEqual : Text → Text → Bool) : List Text → List (List Text)
  | [] => []
  | line :: rest =>
    match runs isEqual rest with
    | [] => [[line]]
    | [] :: others => [line] :: others
    | (next :: more) :: others =>
      if isEqual line next then (line :: next :: more) :: others
      else [line] :: (next :: more) :: others

def optionNumber? (given : Given) (key what : String) : Tool (Option Nat) := do
  match given.last? key with
  | none => pure none
  | some text =>
    match Text.number? text with
    | some number => pure (some number)
    | none => fail 1 (text ++ ": invalid number of ".toList ++ what.toList)

/-- Shows lines that are equal and stand side by side only once. -/
def uniq : Program := fun arguments => do
  let (given, operands) ← Options.usual
    [.flag "c" "count", .flag "d" "repeated", .flag "D" "", .loose "" "all-repeated",
      .loose "" "group", .valued "f" "skip-fields", .flag "i" "ignore-case",
      .valued "s" "skip-chars", .flag "u" "unique", .valued "w" "check-chars",
      .flag "z" "zero-terminated"] arguments
  match operands with
  | _ :: _ :: extra :: _ => refuse 1 ("extra operand ".toList ++ Quoting.word extra)
  | _ => pure ()
  let fields := (← optionNumber? given "skip-fields" "fields to skip").getD 0
  let skipped := (← optionNumber? given "skip-chars" "bytes to skip").getD 0
  let compared ← optionNumber? given "check-chars" "bytes to compare"
  let counted := fun (line : Text) =>
    let rest := (afterFields none false fields line).drop skipped
    let part := rest.take (compared.getD rest.length)
    if given.has "ignore-case" then part.map Char.toLower else part
  let path := operands.head?.getD ['-']
  match ← read path with
  | .error .isDirectory => fail 1 (problem "error reading " path .isDirectory)
  | .error reason => fail 1 (Quoting.ifNeeded path ++ ": ".toList ++ plainReason reason)
  | .ok text =>
    let found := runs (fun first second => counted first == counted second)
      (Text.endedBy (lineEnd given) text)
    let all := given.has "D" || given.has "all-repeated"
    let wanted := found.filter fun run =>
      if run.length > 1 then !given.has "unique"
      else !(given.has "repeated" || all)
    let shown := wanted.flatMap fun run =>
      if all then run
      else if given.has "count" then
        (run.take 1).map fun line => paddedNumber 7 run.length ++ ' ' :: line
      else run.take 1
    match operands with
    | [_, target] =>
      match ← writeFile target (withEnds shown (lineEnd given)) with
      | none => pure 0
      | some reason => fail 1 (Quoting.ifNeeded target ++ ": ".toList ++ plainReason reason)
    | _ => do
      print (withEnds shown (lineEnd given))
      pure 0

end ComponentSchema.Script.Tool
