import ComponentSchema.Digits
import ComponentSchema.Script.Text

/-!
Numbers of scripts: integers of 64 bits, written in base ten, sixteen or eight.
-/

namespace ComponentSchema.Script

/-- The integer of 64 bits that a number wraps around to. -/
def wrapInteger (value : Int) : Int := value.bmod (1 <<< 64)

/-- The greatest integer of 64 bits. -/
def maxInteger : Int := (1 <<< 63) - 1

/-- The nearest integer of 64 bits. -/
def clampInteger (value : Int) : Int := max (-maxInteger - 1) (min value maxInteger)

/-- Characters that count as blanks around numbers. -/
def isNumberBlank (char : Char) : Bool := char == ' ' || ('\t' ≤ char && char ≤ '\r')

/-- The value of the digits of a base in front of a text, and what follows; there has to be one. -/
def scanDigits? (base : Nat) (text : Text) : Option (Nat × Text) :=
  let digits := text.takeWhile fun char => (Digits.valueBelow? base char).isSome
  if digits.isEmpty then none
  else (Digits.number? base digits).map fun value => (value, text.drop digits.length)

/-- The value of digits whose front tells their base: a zero is for eight, and with an `x` behind it
for sixteen. -/
def scanMarkedDigits? (text : Text) : Option (Nat × Text) :=
  match text with
  | '0' :: mark :: rest =>
    let hex := if mark = 'x' || mark = 'X' then scanDigits? 16 rest else none
    if hex.isSome then hex else scanDigits? 8 text
  | '0' :: rest => some (0, rest)
  | _ => scanDigits? 10 text

/-- An integer with blanks and a sign in front, and what follows. -/
def scanInteger? (digits? : Text → Option (Nat × Text)) (text : Text) : Option (Int × Text) :=
  match text.dropWhile isNumberBlank with
  | '-' :: rest => (digits? rest).map fun scanned => (-(scanned.1 : Int), scanned.2)
  | '+' :: rest => (digits? rest).map fun scanned => ((scanned.1 : Int), scanned.2)
  | rest => (digits? rest).map fun scanned => ((scanned.1 : Int), scanned.2)

/-- The integer that a text stands for, with blanks around it or not; it has to fit into 64 bits. -/
def integer? (text : Text) : Option Int := do
  let (value, rest) ← scanInteger? (scanDigits? 10) text
  if rest.all isNumberBlank && clampInteger value == value then some value else none

/-- The integer that a text stands for where the front of its digits tells their base.  Blanks alone
stand for zero. -/
def markedInteger? (text : Text) : Option Int :=
  match scanInteger? scanMarkedDigits? text with
  | some (value, rest) =>
    if rest.all isNumberBlank && clampInteger value == value then some value else none
  | none => if text.all isNumberBlank then some 0 else none

end ComponentSchema.Script
