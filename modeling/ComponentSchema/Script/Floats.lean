import ComponentSchema.Script.Number

/-!
Floats as they are read and printed: a number is rounded to 53 bits when it is read, and what is
printed is its exact value, rounded once more.  Where two numbers are as near, the even one is
taken.
-/

namespace ComponentSchema.Script

/-- A float without sign: a whole number times a power of two. -/
structure Magnitude where
  significand : Nat
  exponent : Int
deriving DecidableEq, Repr

/-- The quotient of two numbers, rounded to the nearest whole number. -/
def roundedQuotient (value divisor : Nat) : Nat :=
  let quotient := value / divisor
  let twice := 2 * (value % divisor)
  if divisor < twice || (twice == divisor && quotient % 2 == 1) then quotient + 1 else quotient

namespace Magnitude

/-- A fraction rounded to 53 bits. -/
def ofFraction (value divisor : Nat) : Magnitude :=
  if value = 0 then ⟨0, 0⟩
  else
    let shift : Int := (value.log2 : Int) - divisor.log2 - 53
    let significand :=
      if shift < 0 then roundedQuotient (value * Nat.pow 2 (-shift).toNat) divisor
      else roundedQuotient value (divisor * Nat.pow 2 shift.toNat)
    if significand < Nat.pow 2 53 then ⟨significand, shift⟩
    else
      let shift := shift + 1
      let significand :=
        if shift < 0 then roundedQuotient (value * Nat.pow 2 (-shift).toNat) divisor
        else roundedQuotient value (divisor * Nat.pow 2 shift.toNat)
      ⟨significand, shift⟩

/-- A float times a power of ten, rounded to a whole number. -/
def scaled (number : Magnitude) (power : Int) : Nat :=
  let value := number.significand * Nat.pow 2 number.exponent.toNat * Nat.pow 10 power.toNat
  let divisor := Nat.pow 2 (-number.exponent).toNat * Nat.pow 10 (-power).toNat
  roundedQuotient value divisor

/-- Digits with a point in front of the last so many. -/
def pointed (places : Nat) (keepsPoint : Bool) (value : Nat) : Text :=
  let digits := Text.ofNat value
  let digits := List.replicate (places + 1 - digits.length) '0' ++ digits
  let whole := digits.take (digits.length - places)
  if places = 0 then if keepsPoint then whole ++ ['.'] else whole
  else whole ++ '.' :: digits.drop (digits.length - places)

def fixed (number : Magnitude) (places : Nat) (keepsPoint : Bool) : Text :=
  pointed places keepsPoint (number.scaled places)

/-- The greatest power of ten that a float reaches, given an estimate and some steps to mend it. -/
def powerFrom (number : Magnitude) : Nat → Int → Int
  | 0, power => power
  | steps + 1, power =>
    let reaches := fun (power : Int) =>
      Nat.pow 10 power.toNat * Nat.pow 2 (-number.exponent).toNat ≤
        number.significand * Nat.pow 2 number.exponent.toNat * Nat.pow 10 (-power).toNat
    if !reaches power then powerFrom number steps (power - 1)
    else if reaches (power + 1) then powerFrom number steps (power + 1)
    else power

/-- A float as digits with a point behind the first, and the power of ten they stand for. -/
def rounded (number : Magnitude) (places : Nat) : Nat × Int :=
  if number.significand = 0 then (0, 0)
  else
    let bits : Int := number.significand.log2 + number.exponent
    let power := powerFrom number 64 (bits * 30103 / 100000)
    let digits := number.scaled (places - power)
    if digits < Nat.pow 10 (places + 1) then (digits, power)
    else (number.scaled (places - (power + 1)), power + 1)

/-- The power of ten of a float, with two digits at least. -/
def exponentText (power : Int) : Text :=
  let digits := Text.ofNat power.natAbs
  (if power < 0 then '-' else '+') :: (if digits.length < 2 then '0' :: digits else digits)

/-- A float with one digit in front of the point and so many behind it. -/
def scientific (number : Magnitude) (places : Nat) (keepsPoint : Bool) : Text :=
  let (digits, power) := number.rounded places
  pointed places keepsPoint digits ++ 'e' :: exponentText power

/-- Drops the zeros behind the point, and the point where nothing is left behind it. -/
def withoutZeros (text : Text) : Text :=
  if text.contains '.' then
    let kept := text.reverse.dropWhile (· == '0')
    (if kept.head? = some '.' then kept.tail else kept).reverse
  else text

/-- A float with so many digits in all, in the shorter of the two ways. -/
def general (number : Magnitude) (digits : Nat) (keepsZeros : Bool) : Text :=
  let digits := max 1 digits
  let (_, power) := number.rounded (digits - 1)
  let clean := fun text => if keepsZeros then text else withoutZeros text
  if -4 ≤ power && power < digits then
    clean (number.fixed (digits - 1 - power).toNat keepsZeros)
  else
    let text := number.scientific (digits - 1) keepsZeros
    clean (text.takeWhile (· != 'e')) ++ text.dropWhile (· != 'e')

end Magnitude

/-- The number in front of a text, with its sign, and what follows. -/
def scanFloat? (text : Text) : Option ((Bool × Magnitude) × Text) :=
  let text := text.dropWhile isNumberBlank
  let (negative, unsigned) :=
    match text with
    | '-' :: rest => (true, rest)
    | '+' :: rest => (false, rest)
    | rest => (false, rest)
  let whole := unsigned.takeWhile Char.isDigit
  let rest := unsigned.drop whole.length
  let (fraction, rest) :=
    match rest with
    | '.' :: more =>
      let fraction := more.takeWhile Char.isDigit
      if whole.isEmpty && fraction.isEmpty then ([], rest)
      else (fraction, more.drop fraction.length)
    | rest => ([], rest)
  if whole.isEmpty && fraction.isEmpty then none
  else
    let (power, rest) :=
      match rest with
      | mark :: more =>
        if mark = 'e' || mark = 'E' then
          match more with
          | '-' :: digits =>
            match scanDigits? 10 digits with
            | some (value, rest) => (-(value : Int), rest)
            | none => (0, rest)
          | '+' :: digits =>
            match scanDigits? 10 digits with
            | some (value, rest) => ((value : Int), rest)
            | none => (0, rest)
          | digits =>
            match scanDigits? 10 digits with
            | some (value, rest) => ((value : Int), rest)
            | none => (0, rest)
        else (0, rest)
      | [] => (0, [])
    let value := Digits.decimalValue (whole ++ fraction)
    let power := max (-5000) (min 5000 power) - fraction.length
    let number := Magnitude.ofFraction (value * Nat.pow 10 power.toNat) (Nat.pow 10 (-power).toNat)
    some ((negative, number), rest)

end ComponentSchema.Script
