import ComponentSchema.Digits
import ComponentSchema.Toml.Value

/-!
Values that are written without quotes or brackets: integers, floats, truth values, dates and times.
-/

namespace ComponentSchema.Toml

/-- Characters that separate tokens on a line. -/
def isBlank (char : Char) : Bool := char == ' ' || char == '\t'

/-- The characters of an unquoted value: all but those that a mark, a blank or a comment is made
of. -/
def isScalarChar (char : Char) : Bool :=
  !(['=', ',', '[', ']', '{', '}', ' ', '\t', '#', '\r', '\n'].contains char)

/-- The pieces that underscores divide a lexeme into. -/
def pieces (lexeme : List Char) : List (List Char) :=
  lexeme.foldr (fun char cut =>
    match char, cut with
    | '_', _ => [] :: cut
    | _, [] => [[char]]
    | _, piece :: others => (char :: piece) :: others) [[]]

/-- Whether the underscores of a number without its sign stand between digits.  A piece of a single
character may end with anything; the end of the last piece is looked at only when the number is
used. -/
def isJoined (isDigit : Char → Bool) (unsigned : List Char) : Bool :=
  let cut := pieces unsigned
  cut.length ≤ 1 ||
    (cut.all (fun piece => piece.head?.any isDigit) &&
      cut.dropLast.all fun piece => piece.length ≤ 1 || piece.getLast?.any isDigit)

def splitSign : List Char → Option Char × List Char
  | [] => (none, [])
  | first :: rest =>
    if first = '+' ∨ first = '-' then (some first, rest) else (none, first :: rest)

/-- Whether a character is a digit of a base up to sixteen. -/
def isDigitBelow (base : Nat) (char : Char) : Bool := (Digits.valueBelow? base char).isSome

def markedBase? (mark : Char) : Option Nat :=
  if mark = 'x' then some 16
  else if mark = 'o' then some 8
  else if mark = 'b' then some 2
  else none

def hasLeadingZero (digits : List Char) : Bool := digits.length > 1 && digits.head? == some '0'

/-- Whether a lexeme is written as a decimal integer: digits, and behind an underscore whatever
makes it no float. -/
def isDecimal (lexeme : List Char) : Bool :=
  let unsigned := (splitSign lexeme).2
  let rest := unsigned.dropWhile Char.isDigit
  !unsigned.isEmpty && !hasLeadingZero unsigned &&
    (rest.isEmpty || rest.head? == some '_') &&
    !rest.any (fun char => ['.', 'e', 'E', ' '].contains char) &&
    isJoined (isDigitBelow 16) unsigned

/-- Whether a lexeme is written as an integer in a base told by a mark. -/
def isMarked (lexeme : List Char) : Bool :=
  match lexeme with
  | '0' :: mark :: digits =>
    (markedBase? mark).any fun base =>
      digits.all (fun char => char == '_' || isDigitBelow base char) &&
        isJoined (isDigitBelow 16) digits
  | _ => false

/-- The number of digits of a base, if there are some and nothing else. -/
def digitsValue? (base : Nat) (digits : List Char) : Option Nat :=
  if digits.isEmpty then none else Digits.number? base digits

/-- The integer that a lexeme stands for; only decimal ones may have a sign. -/
def integer? (lexeme : List Char) : Option Int :=
  let joined := lexeme.filter fun char => char != '_'
  if isMarked lexeme then
    match joined with
    | _ :: mark :: digits => do
      pure (.ofNat (← digitsValue? (← markedBase? mark) digits))
    | _ => none
  else
    let (sign, digits) := splitSign joined
    (digitsValue? 10 digits).map fun value => if sign = some '-' then -(value : Int) else value

/-- Splits a lexeme at the first character that passes a test, if there is one. -/
def splitAt? (test : Char → Bool) (lexeme : List Char) : List Char × Option (List Char) :=
  let front := lexeme.takeWhile fun char => !test char
  match lexeme.drop front.length with
  | [] => (front, none)
  | _ :: rest => (front, some rest)

/-- Whether a text is made of digits and underscores, with at least one digit. -/
def isDigitRun (digits : List Char) : Bool :=
  digits.all (fun char => char == '_' || char.isDigit) && digits.any Char.isDigit

def isFloat (lexeme : List Char) : Bool :=
  let unsigned := (splitSign lexeme).2
  if unsigned = "inf".toList ∨ unsigned = "nan".toList then true
  else
    let (mantissa, exponent) := splitAt? (fun char => char == 'e' || char == 'E') unsigned
    let (whole, fraction) := splitAt? (· == '.') mantissa
    (fraction.isSome || exponent.isSome) &&
      isDigitRun whole && !hasLeadingZero (whole.filter fun char => char != '_') &&
      fraction.all isDigitRun &&
      exponent.all (fun digits => isDigitRun (splitSign digits).2) &&
      isJoined Char.isDigit unsigned

/-- The number of so many digits in front, and what follows. -/
def fixedDigits? (count : Nat) (lexeme : List Char) : Option (Nat × List Char) :=
  let digits := lexeme.take count
  if digits.length = count ∧ digits.all Char.isDigit then
    some (Digits.decimalValue digits, lexeme.drop count)
  else none

/-- Takes a character off the front. -/
def expect? (char : Char) : List Char → Option (List Char)
  | [] => none
  | first :: rest => if first = char then some rest else none

def daysIn (year month : Nat) : Nat :=
  if month = 2 then
    if year % 4 = 0 ∧ (year % 100 ≠ 0 ∨ year % 400 = 0) then 29 else 28
  else if [4, 6, 9, 11].contains month then 30
  else 31

def date? (lexeme : List Char) : Option (List Char) := do
  let (year, rest) ← fixedDigits? 4 lexeme
  let (month, rest) ← fixedDigits? 2 (← expect? '-' rest)
  let (day, rest) ← fixedDigits? 2 (← expect? '-' rest)
  if 1 ≤ month ∧ month ≤ 12 ∧ 1 ≤ day ∧ day ≤ daysIn year month then some rest else none

/-- Takes hours and minutes off the front. -/
def clock? (lexeme : List Char) : Option (List Char) := do
  let (hour, rest) ← fixedDigits? 2 lexeme
  let (minute, rest) ← fixedDigits? 2 (← expect? ':' rest)
  if hour < 24 ∧ minute < 60 then some rest else none

/-- Takes a time off the front; its seconds may be left out, and may have a fraction. -/
def time? (lexeme : List Char) : Option (List Char) := do
  let rest ← clock? lexeme
  match expect? ':' rest with
  | none => pure rest
  | some rest =>
    let (second, rest) ← fixedDigits? 2 rest
    if second > 60 then none
    else
      match expect? '.' rest with
      | none => pure rest
      | some rest =>
        if (rest.takeWhile Char.isDigit).isEmpty then none else pure (rest.dropWhile Char.isDigit)

/-- Whether a lexeme is the offset of a time zone. -/
def isOffset (lexeme : List Char) : Bool :=
  match splitSign lexeme with
  | (some _, rest) => clock? rest == some []
  | (none, rest) => rest == ['Z'] || rest == ['z']

/-- Whether a lexeme is a date, a time, or both with an offset or without. -/
def isMoment (lexeme : List Char) : Bool :=
  match date? lexeme with
  | none => time? lexeme == some []
  | some [] => true
  | some (mark :: rest) =>
    (mark == 'T' || mark == 't' || mark == ' ') &&
      match time? rest with
      | none => false
      | some rest => rest.isEmpty || isOffset rest

/-- The value of an unquoted lexeme.  Something written as an integer that stands for no number is
kept as it is written. -/
def ofLexeme? (lexeme : List Char) : Option Toml :=
  if isMarked lexeme || isDecimal lexeme then
    some (((integer? lexeme).map Toml.integer).getD (.atom (String.ofList lexeme)))
  else if lexeme = "true".toList ∨ lexeme = "false".toList ∨ isFloat lexeme ∨ isMoment lexeme then
    some (.atom (String.ofList lexeme))
  else none

/-- Whether something that cannot be part of an unquoted value stands behind a blank. -/
def breaksOff : List Char → Bool
  | first :: second :: rest =>
    (isBlank first && ['.', '"', '\''].contains second) || breaksOff (second :: rest)
  | _ => false

/-- An unquoted value in front, and what follows.  It goes on behind blanks, as a date and a time
may stand a blank apart. -/
def scanScalar (input : List Char) : Option (Toml × List Char) :=
  let reach := input.takeWhile fun char => isScalarChar char || isBlank char
  let lexeme := (reach.reverse.dropWhile isBlank).reverse
  if breaksOff lexeme then none
  else (ofLexeme? lexeme).map fun value => (value, input.drop lexeme.length)

end ComponentSchema.Toml
