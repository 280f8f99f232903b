import ComponentSchema.Text.Utf8

/-!
The text of scripts.  A shell works on bytes and knows nothing of the characters they may make up,
so each byte is kept as the character with its number.
-/

namespace ComponentSchema.Script

/-- Bytes, each as the character with its number. -/
abbrev Text := List Char

namespace Text

def ofBytes (bytes : ByteArray) : Text := bytes.toList.map fun byte => Char.ofNat byte.toNat

def toBytes (text : Text) : ByteArray := ⟨(text.map fun char => char.toNat.toUInt8).toArray⟩

def ofString (string : String) : Text := ofBytes string.toUTF8

def asString (text : Text) : String := Utf8.decode (toBytes text)

def ofNat (number : Nat) : Text := Nat.toDigits 10 number

def ofInt (number : Int) : Text :=
  if number < 0 then '-' :: ofNat number.natAbs else ofNat number.natAbs

/-- Characters of names. -/
def isNameChar (char : Char) : Bool := char.isAlphanum || char == '_'

/-- Whether a text is a name: letters, digits and underscores, and no digit in front. -/
def isName (text : Text) : Bool :=
  text.all isNameChar && text.head?.any fun first => !first.isDigit

/-- The name in front of a text and what follows, which is everything where there is none. -/
def splitName (text : Text) : Text × Text :=
  if text.head?.any Char.isDigit then ([], text)
  else (text.takeWhile isNameChar, text.dropWhile isNameChar)

/-- A name and the value that an assignment gives it, if a text is one. -/
def assignment? (text : Text) : Option (Text × Text) :=
  match splitName text with
  | ([], _) => none
  | (name, '=' :: value) => some (name, value)
  | _ => none

def number? (text : Text) : Option Nat :=
  if text.isEmpty || !text.all Char.isDigit then none
  else some (text.foldl (fun number digit => 10 * number + (digit.toNat - '0'.toNat)) 0)

/-- The texts between the places where a character stands. -/
def splitAt (divider : Char) (text : Text) : List Text :=
  text.foldr (fun char parts =>
    match parts with
    | [] => [[char]]
    | part :: others =>
      if char = divider then [] :: part :: others else (char :: part) :: others) [[]]

/-- The parts of a text that each end with a character, without it; the last one may do without. -/
def endedBy (mark : Char) (text : Text) : List Text :=
  match (splitAt mark text).reverse with
  | [] :: others => others.reverse
  | all => all.reverse

def lines (text : Text) : List Text := endedBy '\n' text

/-- Whether one text comes before another, byte by byte. -/
def precedes : Text → Text → Bool
  | [], _ => true
  | _ :: _, [] => false
  | first :: rest, other :: others =>
    if first = other then precedes rest others else first < other

def joined (between : Text) (texts : List Text) : Text := between.intercalate texts

end Text

end ComponentSchema.Script
