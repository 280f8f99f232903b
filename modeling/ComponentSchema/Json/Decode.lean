import ComponentSchema.Json.FloatRange
import ComponentSchema.SortedMap

/-!
Taking values apart.  A record may be written as an object or as an array of its fields in order;
members that a record does not know are passed over, whatever they hold.
-/

namespace ComponentSchema.Json

/-- A step of a string's content: a character, or a unit of sixteen bits given by its digits. -/
inductive Piece where
  | char (value : Char)
  | unit (value : Nat)
deriving DecidableEq, Repr

/-- Reads the escapes in the content of a string. -/
def unescape : List Char → Option (List Piece)
  | [] => some []
  | first :: rest =>
    if first = '\\' then
      match rest with
      | [] => none
      | second :: rest =>
        if second = 'u' then
          match rest with
          | a :: b :: c :: d :: rest => do
            let value ← Digits.number? 16 [a, b, c, d]
            (unescape rest).map (.unit value :: ·)
          | _ => none
        else do
          let char ← shortEscape? second
          (unescape rest).map (.char char :: ·)
    else (unescape rest).map (.char first :: ·)

/-- Units that only mean a character together with a low one behind them. -/
def isHighUnit (value : Nat) : Bool := 0xD800 ≤ value && value < 0xDC00

/-- Units that only mean a character together with a high one in front of them. -/
def isLowUnit (value : Nat) : Bool := 0xDC00 ≤ value && value < 0xE000

/-- Joins the units into characters; a unit that lacks its other half means none. -/
def joinUnits : List Piece → Option (List Char)
  | [] => some []
  | .char char :: rest => (joinUnits rest).map (char :: ·)
  | .unit value :: rest =>
    if isHighUnit value then
      match rest with
      | .unit low :: rest =>
        if isLowUnit low then
          let code := 0x10000 + (value - 0xD800) * 0x400 + (low - 0xDC00)
          (joinUnits rest).map (Char.ofNat code :: ·)
        else none
      | _ => none
    else if isLowUnit value then none
    else (joinUnits rest).map (Char.ofNat value :: ·)

def decodeContent? (content : List Char) : Option String :=
  ((unescape content).bind joinUnits).map String.ofList

def asString? : Json → Option String
  | .string content => decodeContent? content
  | _ => none

/-- A truth value. -/
def asBool? : Json → Option Bool
  | .bool value => some value
  | _ => none

/-- The number that plain decimal digits stand for: no sign, and no zero in front of others. -/
def plainNumber? (lexeme : List Char) : Option Nat :=
  match scanWhole lexeme with
  | some (digits, []) => some (Digits.decimalValue digits)
  | _ => none

def asNumberBelow? (bound : Nat) : Json → Option Nat
  | .number lexeme => (plainNumber? lexeme).filter fun value => value < bound
  | _ => none

def asUInt32? (value : Json) : Option UInt32 := (value.asNumberBelow? UInt32.size).map Nat.toUInt32

def asUInt64? (value : Json) : Option UInt64 := (value.asNumberBelow? UInt64.size).map Nat.toUInt64

/-- A value that may be null. -/
def asOptional? {α : Type} (decode : Json → Option α) : Json → Option (Option α)
  | .null => some none
  | value => (decode value).map some

/-- The items of an array, each decoded. -/
def asList? {α : Type} (decode : Json → Option α) : Json → Option (List α)
  | .array items => items.mapM decode
  | _ => none

/-- The members of an object with their keys decoded. -/
def asMembers? : Json → Option (List (String × Json))
  | .object members =>
    members.mapM fun (key, value) => (decodeContent? key).map fun text => (text, value)
  | _ => none

/-- A map with keys and values decoded; of two members with one key the later counts. -/
def asMap? {κ α : Type} [Ord κ] [Std.TransOrd κ] [Std.LawfulEqOrd κ]
    (decodeKey : List Char → Option κ) (decode : Json → Option α) : Json → Option (SortedMap κ α)
  | .object members =>
    (members.mapM fun (content, value) =>
      match decodeKey content, decode value with
      | some key, some value => some (key, value)
      | _, _ => none).map SortedMap.ofList
  | _ => none

/-- A key that is a plain number below a bound, without escapes. -/
def keyBelow? (bound : Nat) (content : List Char) : Option Nat :=
  (plainNumber? content).filter fun value => value < bound

/-- The value of a member that may stand at most once; two of them are refused. -/
def member? (members : List (String × Json)) (name : String) : Option (Option Json) :=
  match members.filter fun member => member.1 == name with
  | [] => some none
  | [member] => some (some member.2)
  | _ => none

/-- The fields of a record by their names, each there or missing.  An array gives them in order and
may end early. -/
def fields? (names : List String) : Json → Option (List (Option Json))
  | .object members => do
    let members ← asMembers? (.object members)
    names.mapM (member? members)
  | .array items =>
    if items.length ≤ names.length then
      some (items.map some ++ List.replicate (names.length - items.length) none)
    else none
  | _ => none

def required {α : Type} (decode : Json → Option α) (field : Option Json) : Option α :=
  field.bind decode

/-- A field that has a default where it is missing. -/
def defaulted {α : Type} (default : α) (decode : Json → Option α) : Option Json → Option α
  | none => some default
  | some value => decode value

/-- The name of a variant without data: a string, or the only key of an object whose value is null.
Where `emptyToo` is set, an empty object does in place of the null. -/
def variant? (emptyToo : Bool) : Json → Option String
  | .string content => decodeContent? content
  | .object [(key, .null)] => decodeContent? key
  | .object [(key, .object [])] => if emptyToo then decodeContent? key else none
  | _ => none

mutual

/-- Whether a value can be read in full: strings mean text, numbers are in range, and no more than
some levels of arrays and objects stand inside each other. -/
def isReadable (levels : Nat) : Json → Bool
  | .null => true
  | .bool _ => true
  | .number lexeme => isFinite lexeme
  | .string content => (decodeContent? content).isSome
  | .array items => 0 < levels && areReadable (levels - 1) items
  | .object members => 0 < levels && membersAreReadable (levels - 1) members

/-- Whether all items can be read in full. -/
def areReadable (levels : Nat) : List Json → Bool
  | [] => true
  | item :: items => item.isReadable levels && areReadable levels items

def membersAreReadable (levels : Nat) : List (List Char × Json) → Bool
  | [] => true
  | (key, value) :: members =>
    (decodeContent? key).isSome && value.isReadable levels && membersAreReadable levels members

end

/-- How many arrays and objects may stand inside each other in what is decoded. -/
def maxDepth : Nat := 127

end ComponentSchema.Json
