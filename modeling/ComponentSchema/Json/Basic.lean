/-!
JSON as it is written.  Strings and numbers are kept as their text, escapes and all, because what a
reader skips it must not judge: only a string or a number that is asked for is decoded.
-/

namespace ComponentSchema

/-- The syntax of a JSON text.  The content of a string stands without its quotes. -/
inductive Json where
  | null
  | bool (value : Bool)
  | number (lexeme : List Char)
  | string (content : List Char)
  | array (items : List Json)
  | object (members : List (List Char × Json))
deriving Repr, Inhabited

namespace Json

/-- The lower-case hexadecimal digit of a number below sixteen. -/
def hexDigit (value : Nat) : Char := Nat.digitChar value

/-- A character as it stands inside a string: quotes, backslashes and controls are escaped. -/
def escapeChar (char : Char) : List Char :=
  if char = '"' then ['\\', '"']
  else if char = '\\' then ['\\', '\\']
  else if char = '\n' then ['\\', 'n']
  else if char = '\r' then ['\\', 'r']
  else if char = '\t' then ['\\', 't']
  else if char = '\x08' then ['\\', 'b']
  else if char = '\x0c' then ['\\', 'f']
  else if char.toNat < 32 then
    ['\\', 'u', '0', '0', hexDigit (char.toNat / 16), hexDigit (char.toNat % 16)]
  else [char]

def escape (text : String) : List Char := text.toList.flatMap escapeChar

def ofString (text : String) : Json := .string (escape text)

def decimal (value : Nat) : List Char := Nat.toDigits 10 value

def ofNat (value : Nat) : Json := .number (decimal value)

/-- An object whose keys are given as text. -/
def ofMembers (members : List (String × Json)) : Json :=
  .object (members.map fun member => (escape member.1, member.2))

def quoted (content : List Char) : List Char := '"' :: (content ++ ['"'])

mutual

/-- The shortest writing of a value. -/
def compact : Json → List Char
  | .null => "null".toList
  | .bool true => "true".toList
  | .bool false => "false".toList
  | .number lexeme => lexeme
  | .string content => quoted content
  | .array [] => ['[', ']']
  | .array (item :: items) => '[' :: (item.compact ++ compactItems items ++ [']'])
  | .object [] => ['{', '}']
  | .object ((key, value) :: members) =>
    '{' :: (quoted key ++ ':' :: (value.compact ++ compactMembers members ++ ['}']))

/-- The items after the first, each behind a comma. -/
def compactItems : List Json → List Char
  | [] => []
  | item :: items => ',' :: (item.compact ++ compactItems items)

/-- The members after the first, each behind a comma. -/
def compactMembers : List (List Char × Json) → List Char
  | [] => []
  | (key, value) :: members =>
    ',' :: (quoted key ++ ':' :: (value.compact ++ compactMembers members))

end

/-- A new line at some depth, two spaces a level. -/
def freshLine (depth : Nat) : List Char := '\n' :: List.replicate (2 * depth) ' '

mutual

/-- The writing of a value with one item or member a line, given the depth it stands at. -/
def pretty (depth : Nat) : Json → List Char
  | .null => "null".toList
  | .bool true => "true".toList
  | .bool false => "false".toList
  | .number lexeme => lexeme
  | .string content => quoted content
  | .array [] => ['[', ']']
  | .array (item :: items) =>
    '[' :: (freshLine (depth + 1) ++ item.pretty (depth + 1) ++ prettyItems (depth + 1) items ++
      freshLine depth ++ [']'])
  | .object [] => ['{', '}']
  | .object ((key, value) :: members) =>
    '{' :: (freshLine (depth + 1) ++ quoted key ++ ':' :: ' ' ::
      (value.pretty (depth + 1) ++ prettyMembers (depth + 1) members ++ freshLine depth ++ ['}']))

/-- The items after the first, each on a line of its own. -/
def prettyItems (depth : Nat) : List Json → List Char
  | [] => []
  | item :: items => ',' :: (freshLine depth ++ item.pretty depth ++ prettyItems depth items)

/-- The members after the first, each on a line of its own. -/
def prettyMembers (depth : Nat) : List (List Char × Json) → List Char
  | [] => []
  | (key, value) :: members =>
    ',' :: (freshLine depth ++ quoted key ++ ':' :: ' ' ::
      (value.pretty depth ++ prettyMembers depth members))

end

def compactText (value : Json) : String := String.ofList value.compact

/-- The text of a value with one item or member a line. -/
def prettyText (value : Json) : String := String.ofList (value.pretty 0)

end Json

end ComponentSchema
