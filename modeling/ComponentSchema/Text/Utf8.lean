/-!
Reading bytes as UTF-8 where some of them may be no text.  Each longest piece that could have begun
a character but does not go on as one is read as the replacement character.
-/

namespace ComponentSchema.Utf8

/-- A character of which some bytes were read: its value so far, how many bytes are missing, and the
range the next one has to lie in. -/
structure Unfinished where
  value : Nat
  missing : Nat
  low : Nat
  high : Nat
deriving DecidableEq, Repr

/-- Reads the first byte of a character. -/
def start (byte : Nat) : List (Option Char) × Option Unfinished :=
  if byte < 0x80 then ([some (Char.ofNat byte)], none)
  else if 0xC2 ≤ byte ∧ byte ≤ 0xDF then ([], some ⟨byte - 0xC0, 1, 0x80, 0xBF⟩)
  else if byte = 0xE0 then ([], some ⟨0, 2, 0xA0, 0xBF⟩)
  else if byte = 0xED then ([], some ⟨0xD, 2, 0x80, 0x9F⟩)
  else if 0xE1 ≤ byte ∧ byte ≤ 0xEF then ([], some ⟨byte - 0xE0, 2, 0x80, 0xBF⟩)
  else if byte = 0xF0 then ([], some ⟨0, 3, 0x90, 0xBF⟩)
  else if 0xF1 ≤ byte ∧ byte ≤ 0xF3 then ([], some ⟨byte - 0xF0, 3, 0x80, 0xBF⟩)
  else if byte = 0xF4 then ([], some ⟨4, 3, 0x80, 0x8F⟩)
  else ([none], none)

def step (state : Option Unfinished) (byte : Nat) : List (Option Char) × Option Unfinished :=
  match state with
  | none => start byte
  | some unfinished =>
    if unfinished.low ≤ byte ∧ byte ≤ unfinished.high then
      let value := unfinished.value * 64 + (byte - 0x80)
      if unfinished.missing ≤ 1 then ([some (Char.ofNat value)], none)
      else ([], some ⟨value, unfinished.missing - 1, 0x80, 0xBF⟩)
    else
      let (pieces, next) := start byte
      (none :: pieces, next)

/-- The characters that bytes stand for and the pieces between them that stand for none, given what
was read before them. -/
def piecesFrom (state : Option Unfinished) : List UInt8 → List (Option Char)
  | [] => if state.isSome then [none] else []
  | byte :: rest =>
    let (pieces, next) := step state byte.toNat
    pieces ++ piecesFrom next rest

def replacement : Char := '\ufffd'

def chars (bytes : List UInt8) : List Char :=
  (piecesFrom none bytes).map fun piece => piece.getD replacement

def decode (bytes : ByteArray) : String := String.ofList (chars bytes.toList)

end ComponentSchema.Utf8
