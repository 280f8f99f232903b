/-!
Numbers written as digits.
-/

namespace ComponentSchema.Digits

def hexValue? (char : Char) : Option Nat :=
  if '0' ≤ char ∧ char ≤ '9' then some (char.toNat - '0'.toNat)
  else if 'a' ≤ char ∧ char ≤ 'f' then some (char.toNat - 'a'.toNat + 10)
  else if 'A' ≤ char ∧ char ≤ 'F' then some (char.toNat - 'A'.toNat + 10)
  else none

def valueBelow? (base : Nat) (char : Char) : Option Nat :=
  (hexValue? char).filter fun value => value < base

def number? (base : Nat) (digits : List Char) : Option Nat :=
  (digits.mapM (valueBelow? base)).map fun values =>
    values.foldl (fun number value => base * number + value) 0

def decimalValue (digits : List Char) : Nat :=
  digits.foldl (fun number digit => 10 * number + (digit.toNat - '0'.toNat)) 0

end ComponentSchema.Digits
