import ComponentSchema.Json.Parser

/-!
Whether a number lies within the range of 64-bit floats, as a reader finds it that goes over the
digits once: it keeps as many of them as fit into 64 bits, rounds those to a float, and then
multiplies by a power of ten that is a float as well.
-/

namespace ComponentSchema.Json

/-- The nearest number of 53 bits, with the even one taken where two are as near. -/
def roundToFloat (value : Nat) : Nat :=
  if value < Nat.pow 2 53 then value
  else
    let shift := value.log2 - 52
    let kept := value >>> shift
    let dropped := value - (kept <<< shift)
    let half := 1 <<< (shift - 1)
    let up := half < dropped || (dropped == half && kept % 2 == 1)
    (if up then kept + 1 else kept) <<< shift

/-- The least whole number that rounds to no finite float. -/
def floatBound : Nat := Nat.pow 2 1024 - Nat.pow 2 970

/-- A number as some of its digits and a power of ten. -/
structure Scaled where
  significand : Nat
  exponent : Int
deriving DecidableEq, Repr

namespace Scaled

/-- Adds the digits before the point; once one does not fit, it and those behind it only count. -/
def addWhole (number : Scaled) : List Char → Scaled
  | [] => number
  | digit :: rest =>
    let next := 10 * number.significand + Digits.decimalValue [digit]
    if next < UInt64.size then addWhole { number with significand := next } rest
    else { number with exponent := number.exponent + (rest.length + 1 : Nat) }

/-- Adds the digits behind the point, up to one that does not fit. -/
def addFraction (number : Scaled) : List Char → Scaled
  | [] => number
  | digit :: rest =>
    let next := 10 * number.significand + Digits.decimalValue [digit]
    if next < UInt64.size then addFraction ⟨next, number.exponent - 1⟩ rest else number

/-- The value of the digits and the sign of an exponent. -/
def exponentOf : List Char → Int
  | '-' :: digits => -(Digits.decimalValue digits : Int)
  | '+' :: digits => Digits.decimalValue digits
  | digits => Digits.decimalValue digits

/-- Takes a number apart; its sign does not matter. -/
def ofLexeme (lexeme : List Char) : Scaled :=
  let (whole, rest) := scanDigits (if lexeme.head? = some '-' then lexeme.tail else lexeme)
  let (fraction, rest) := if rest.head? = some '.' then scanDigits rest.tail else ([], rest)
  let number := (Scaled.addWhole ⟨0, 0⟩ whole).addFraction fraction
  { number with exponent := number.exponent + exponentOf rest.tail }

def isFinite (number : Scaled) : Bool :=
  number.significand == 0 || number.exponent < 0 ||
    (number.exponent ≤ 308 &&
      roundToFloat number.significand * roundToFloat (Nat.pow 10 number.exponent.toNat) <
        floatBound)

end Scaled

/-- Whether a number lies within the range of 64-bit floats. -/
def isFinite (lexeme : List Char) : Bool := (Scaled.ofLexeme lexeme).isFinite

end ComponentSchema.Json
