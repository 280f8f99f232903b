import ComponentSchema.Script.Floats

/-!
The two ways scripts print: words with their escapes, and formats with values to fill in.
-/

namespace ComponentSchema.Script

/-- Digits of base eight. -/
def isOctal (char : Char) : Bool := '0' ≤ char && char ≤ '7'

/-- The character with a number below two hundred and fifty six, to which others wrap around. -/
def byteChar (value : Nat) : Char := Char.ofNat (value % 256)

/-- The character that a letter behind a backslash stands for. -/
def letterChar? (letter : Char) : Option Char :=
  [('\\', '\\'), ('a', '\x07'), ('b', '\x08'), ('e', '\x1b'), ('f', '\x0c'), ('n', '\n'),
    ('r', '\r'), ('t', '\t'), ('v', '\x0b')].lookup letter

/-- The character that stands behind a backslash and what follows; where there is none, the
backslash stands for itself. -/
def escapedChar (input : Text) : Char × Text :=
  let digits := (input.take 3).takeWhile isOctal
  match input with
  | [] => ('\\', [])
  | letter :: rest =>
    if !digits.isEmpty then
      (byteChar ((Digits.number? 8 digits).getD 0), input.drop digits.length)
    else
      match letterChar? letter with
      | some char => (char, rest)
      | none => ('\\', input)

/-- A word with its escapes filled in, and whether output ends with it; it has at most so many
characters. -/
def unescapeFrom : Nat → Text → Text × Bool
  | 0, _ => ([], false)
  | _, [] => ([], false)
  | _, '\\' :: 'c' :: _ => ([], true)
  | count + 1, '\\' :: rest =>
    let start := match rest with
      | '0' :: digit :: _ => if isOctal digit then rest.tail else rest
      | _ => rest
    let (char, rest) := escapedChar start
    let (others, ended) := unescapeFrom count rest
    (char :: others, ended)
  | count + 1, char :: rest =>
    let (others, ended) := unescapeFrom count rest
    (char :: others, ended)

/-- A word with its escapes filled in, and whether output ends with it. -/
def unescape (word : Text) : Text × Bool := unescapeFrom word.length word

/-- What is printed for words: a blank stands between two of them. -/
def echoWords : List Text → Text × Bool
  | [] => ([], false)
  | word :: rest =>
    let (text, ended) := unescape word
    if ended || rest.isEmpty then (text, ended)
    else
      let (others, ended) := echoWords rest
      (text ++ ' ' :: others, ended)

/-- What is printed for words, with a line end unless they begin with the option against it. -/
def echo (words : List Text) : Text :=
  let (plain, words) :=
    match words with
    | ['-', 'n'] :: rest => (true, rest)
    | words => (false, words)
  let (text, ended) := echoWords words
  if plain || ended then text else text ++ ['\n']

/-- How a value is filled in. -/
structure Conversion where
  flags : List Char := []
  width : Nat := 0
  precision? : Option Nat := none
  letter : Char
deriving DecidableEq, Repr

namespace Conversion

/-- Fills a text up to the width. -/
def pad (conversion : Conversion) (text : Text) : Text :=
  let missing := List.replicate (conversion.width - text.length) ' '
  if conversion.flags.contains '-' then text ++ missing else missing ++ text

/-- Fills a number up to the width, with zeros behind its sign where that is asked for. -/
def padNumber (conversion : Conversion) (front digits : Text) (zeros : Bool) : Text :=
  if zeros && conversion.flags.contains '0' && !conversion.flags.contains '-' then
    front ++ List.replicate (conversion.width - front.length - digits.length) '0' ++ digits
  else conversion.pad (front ++ digits)

def sign (conversion : Conversion) (negative : Bool) : Text :=
  if negative then ['-']
  else if conversion.flags.contains '+' then ['+']
  else if conversion.flags.contains ' ' then [' ']
  else []

/-- The digits of a number, at least as many as the precision tells. -/
def digits (conversion : Conversion) (base value : Nat) : Text :=
  let digits := Nat.toDigits base value
  match conversion.precision? with
  | none => digits
  | some count =>
    if value = 0 then List.replicate count '0'
    else List.replicate (count - digits.length) '0' ++ digits

def signed (conversion : Conversion) (value : Int) : Text :=
  conversion.padNumber (conversion.sign (value < 0)) (conversion.digits 10 value.natAbs)
    conversion.precision?.isNone

/-- The text of a number without sign. -/
def unsigned (conversion : Conversion) (value : Nat) : Text :=
  let marked := conversion.flags.contains '#'
  let base := if conversion.letter = 'o' then 8 else if conversion.letter = 'u' then 10 else 16
  let digits := conversion.digits base value
  let digits :=
    if conversion.letter = 'o' && marked && digits.head? != some '0' then '0' :: digits else digits
  let front := if base = 16 && marked && value != 0 then ['0', 'x'] else []
  let text := conversion.padNumber front digits conversion.precision?.isNone
  if conversion.letter = 'X' then text.map Char.toUpper else text

def float (conversion : Conversion) (negative : Bool) (number : Magnitude) : Text :=
  let places := conversion.precision?.getD 6
  let keeps := conversion.flags.contains '#'
  let digits :=
    if conversion.letter.toLower = 'e' then number.scientific places keeps
    else if conversion.letter.toLower = 'g' then number.general places keeps
    else number.fixed places keeps
  let text := conversion.padNumber (conversion.sign negative) digits true
  if conversion.letter.isUpper then text.map Char.toUpper else text

/-- The text of a text, cut to the precision. -/
def string (conversion : Conversion) (text : Text) : Text :=
  conversion.pad (text.take (conversion.precision?.getD text.length))

end Conversion

/-- Where the filling of a format stands. -/
structure Filling where
  values : List Text
  /-- What was printed, last first. -/
  printed : Text := []
  /-- What was told about values, the latest first. -/
  warnings : List Text := []
  /-- Why the format cannot be filled any further. -/
  fault? : Option Text := none
  ended : Bool := false

namespace Filling

def put (filling : Filling) (text : Text) : Filling :=
  { filling with printed := text.reverse ++ filling.printed }

/-- Takes the next value; one that is missing is empty. -/
def next (filling : Filling) : Option Text × Filling :=
  (filling.values.head?, { filling with values := filling.values.tail })

def check (filling : Filling) (value rest : Text) (fits : Bool) : Filling :=
  let warn := fun (what : String) =>
    { filling with warnings := (value ++ what.toList) :: filling.warnings }
  if !rest.isEmpty then
    if rest = value then warn ": expected numeric value"
    else warn ": not completely converted"
  else if !fits then warn ": Numerical result out of range"
  else filling

/-- Takes a value that is an integer; one that begins with a quote stands for its next character. -/
def nextInteger (filling : Filling) (clamp : Int → Int) : Int × Filling :=
  match filling.next with
  | (none, filling) => (0, filling)
  | (some value, filling) =>
    match value with
    | '\'' :: rest => ((rest.head?.getD '\x00').toNat, filling)
    | '"' :: rest => ((rest.head?.getD '\x00').toNat, filling)
    | _ =>
      match scanInteger? scanMarkedDigits? value with
      | none => (0, filling.check value value true)
      | some (number, rest) => (clamp number, filling.check value rest (clamp number == number))

/-- The nearest number of 64 bits without sign; a negative one wraps around. -/
def clampUnsigned (value : Int) : Int :=
  if value < 0 then (if -(1 <<< 64) < value then value else (1 <<< 64) - 1)
  else min value ((1 <<< 64) - 1)

def nextFloat (filling : Filling) : (Bool × Magnitude) × Filling :=
  match filling.next with
  | (none, filling) => ((false, ⟨0, 0⟩), filling)
  | (some value, filling) =>
    match value with
    | '\'' :: rest => ((false, ⟨(rest.head?.getD '\x00').toNat, 0⟩), filling)
    | '"' :: rest => ((false, ⟨(rest.head?.getD '\x00').toNat, 0⟩), filling)
    | _ =>
      match scanFloat? value with
      | none => ((false, ⟨0, 0⟩), filling.check value value true)
      | some (number, rest) => (number, filling.check value rest true)

/-- Fills in the next value; `directive` is the text of the conversion. -/
def convert (filling : Filling) (conversion : Conversion) (directive : Text) : Filling :=
  let letter := conversion.letter
  if letter = 's' then
    let (value, filling) := filling.next
    filling.put (conversion.string (value.getD []))
  else if letter = 'b' then
    let (value, filling) := filling.next
    let (text, ended) := unescape (value.getD [])
    { filling.put (conversion.string text) with ended }
  else if letter = 'c' then
    let (value, filling) := filling.next
    filling.put (conversion.pad [(value.bind List.head?).getD '\x00'])
  else if letter = 'd' || letter = 'i' then
    let (value, filling) := filling.nextInteger clampInteger
    filling.put (conversion.signed value)
  else if ['o', 'u', 'x', 'X'].contains letter then
    let (value, filling) := filling.nextInteger clampUnsigned
    filling.put (conversion.unsigned (value % (1 <<< 64)).toNat)
  else if ['e', 'E', 'f', 'F', 'g', 'G'].contains letter then
    let ((negative, number), filling) := filling.nextFloat
    filling.put (conversion.float negative number)
  else { filling with fault? := some (directive ++ ": invalid directive".toList) }

/-- The count that a conversion tells, which may be the next value, and what follows. -/
def count (filling : Filling) (input : Text) : Option Int × Text × Filling :=
  match input with
  | '*' :: rest =>
    let (value, filling) := filling.nextInteger clampInteger
    (some value, rest, filling)
  | _ =>
    match scanDigits? 10 input with
    | some (value, rest) => (some value, rest, filling)
    | none => (none, input, filling)

def isFlag (char : Char) : Bool := ['#', '-', '+', ' ', '0'].contains char

/-- Reads a conversion behind its percent sign and fills in a value; what follows. -/
def fillOne (filling : Filling) (input : Text) : Filling × Text :=
  let flags := input.takeWhile isFlag
  let (width?, rest, filling) := filling.count (input.drop flags.length)
  let (precision?, rest, filling) :=
    match rest with
    | '.' :: rest =>
      let (precision?, rest, filling) := filling.count rest
      (some (precision?.getD 0), rest, filling)
    | rest => (none, rest, filling)
  match rest with
  | [] => ({ filling with fault? := some "missing format character".toList }, [])
  | letter :: rest =>
    let width := width?.getD 0
    let conversion : Conversion := {
      flags := if width < 0 then '-' :: flags else flags
      width := width.natAbs
      precision? := precision?.bind fun value => if value < 0 then none else some value.toNat
      letter }
    let directive := '%' :: input.take (input.length - rest.length)
    (filling.convert conversion directive, rest)

/-- Fills values into a format of at most so many characters. -/
def fill (filling : Filling) : Nat → Text → Filling
  | 0, _ => filling
  | _, [] => filling
  | count + 1, first :: rest =>
    if first = '\\' then
      let (char, rest) := escapedChar rest
      (filling.put [char]).fill count rest
    else if first = '%' then
      if rest.head? = some '%' then (filling.put ['%']).fill count rest.tail
      else
        let (filling, rest) := filling.fillOne rest
        if filling.ended || filling.fault?.isSome then filling else filling.fill count rest
    else (filling.put [first]).fill count rest

/-- Fills values into a format again and again until none is left; there are at most so many. -/
def fillAll (filling : Filling) (format : Text) : Nat → Filling
  | 0 => filling
  | count + 1 =>
    let before := filling.values.length
    let filling := filling.fill format.length format
    if filling.ended || filling.fault?.isSome || filling.values.isEmpty ||
        filling.values.length == before then filling
    else filling.fillAll format count

end Filling

def printFormat (format : Text) (values : List Text) : Filling :=
  ({ values } : Filling).fillAll format (values.length + 1)

end ComponentSchema.Script
