import ComponentSchema.Digits
import ComponentSchema.Json.Basic
import ComponentSchema.Text.Utf8

/-!
Reading JSON text.  The grammar is taken strictly: nothing but blanks around a value, no comma
behind the last item, no leading zeros.  A reader takes characters from the front and answers with
the rest; texts outside the grammar are refused without a reason.

Bytes are read too, not all of which need be text.  A string that nobody asks for is never
decoded, so it may hold anything; JSON itself can name halves of characters that mean none, and
bytes that are no text are taken for such.
-/

namespace ComponentSchema.Json

/-- The characters that may stand between tokens. -/
def isBlank (char : Char) : Bool :=
  char == ' ' || char == '\n' || char == '\t' || char == '\r'

def skipBlanks (input : List Char) : List Char := input.dropWhile isBlank

/-- The letters that may stand behind a backslash, with what they mean; `u` is not among them. -/
def shortEscape? (char : Char) : Option Char :=
  if char = '"' then some '"'
  else if char = '\\' then some '\\'
  else if char = '/' then some '/'
  else if char = 'b' then some '\x08'
  else if char = 'f' then some '\x0c'
  else if char = 'n' then some '\n'
  else if char = 'r' then some '\r'
  else if char = 't' then some '\t'
  else none

/-- Puts characters in front of what was scanned. -/
def ahead (front : List Char) : Option (List Char × List Char) → Option (List Char × List Char) :=
  Option.map fun scanned => (front ++ scanned.1, scanned.2)

/-- The content of a string up to its closing quote, and what follows. -/
def scanString : List Char → Option (List Char × List Char)
  | [] => none
  | first :: rest =>
    if first = '"' then some ([], rest)
    else if first = '\\' then
      match rest with
      | [] => none
      | second :: rest =>
        if second = 'u' then
          match rest with
          | a :: b :: c :: d :: rest =>
            if [a, b, c, d].all fun digit => (Digits.hexValue? digit).isSome then
              ahead ['\\', 'u', a, b, c, d] (scanString rest)
            else none
          | _ => none
        else if (shortEscape? second).isSome then ahead ['\\', second] (scanString rest)
        else none
    else if first.toNat < 32 then none
    else ahead [first] (scanString rest)

def scanDigits (input : List Char) : List Char × List Char :=
  (input.takeWhile Char.isDigit, input.dropWhile Char.isDigit)

/-- The whole part of a number: a zero alone, or digits that do not start with one. -/
def scanWhole : List Char → Option (List Char × List Char)
  | [] => none
  | first :: rest =>
    if first = '0' then some (['0'], rest)
    else if first.isDigit then some (scanDigits (first :: rest))
    else none

def scanSomeDigits (input : List Char) : Option (List Char × List Char) :=
  match scanDigits input with
  | ([], _) => none
  | scanned => some scanned

def scanFraction : List Char → Option (List Char × List Char)
  | '.' :: rest => ahead ['.'] (scanSomeDigits rest)
  | input => some ([], input)

def scanExponent : List Char → Option (List Char × List Char)
  | first :: rest =>
    if first = 'e' ∨ first = 'E' then
      match rest with
      | sign :: more =>
        if sign = '+' ∨ sign = '-' then ahead [first, sign] (scanSomeDigits more)
        else ahead [first] (scanSomeDigits rest)
      | [] => none
    else some ([], first :: rest)
  | [] => some ([], [])

/-- A number without its sign. -/
def scanUnsigned (input : List Char) : Option (List Char × List Char) := do
  let (whole, rest) ← scanWhole input
  let (fraction, rest) ← scanFraction rest
  let (exponent, rest) ← scanExponent rest
  pure (whole ++ fraction ++ exponent, rest)

def scanNumber : List Char → Option (List Char × List Char)
  | '-' :: rest => ahead ['-'] (scanUnsigned rest)
  | input => scanUnsigned input

def scanWord (word : List Char) (value : Json) (input : List Char) : Option (Json × List Char) :=
  if word.isPrefixOf input then some (value, input.drop word.length) else none

mutual

def parseValue : Nat → List Char → Option (Json × List Char)
  | 0, _ => none
  | fuel + 1, input =>
    match skipBlanks input with
    | [] => none
    | first :: rest =>
      if first = '"' then (scanString rest).map fun scanned => (.string scanned.1, scanned.2)
      else if first = '[' then
        match skipBlanks rest with
        | ']' :: after => some (.array [], after)
        | items => (parseItems fuel items).map fun parsed => (.array parsed.1, parsed.2)
      else if first = '{' then
        match skipBlanks rest with
        | '}' :: after => some (.object [], after)
        | members => (parseMembers fuel members).map fun parsed => (.object parsed.1, parsed.2)
      else if first = 'n' then scanWord "null".toList .null (first :: rest)
      else if first = 't' then scanWord "true".toList (.bool true) (first :: rest)
      else if first = 'f' then scanWord "false".toList (.bool false) (first :: rest)
      else (scanNumber (first :: rest)).map fun scanned => (.number scanned.1, scanned.2)

/-- The items of an array from one on, up to the closing bracket. -/
def parseItems : Nat → List Char → Option (List Json × List Char)
  | 0, _ => none
  | fuel + 1, input =>
    match parseValue fuel input with
    | none => none
    | some (item, rest) =>
      match skipBlanks rest with
      | ']' :: after => some ([item], after)
      | ',' :: more => (parseItems fuel more).map fun parsed => (item :: parsed.1, parsed.2)
      | _ => none

/-- The members of an object from one on, up to the closing brace. -/
def parseMembers : Nat → List Char → Option (List (List Char × Json) × List Char)
  | 0, _ => none
  | fuel + 1, input =>
    match skipBlanks input with
    | '"' :: content =>
      match scanString content with
      | none => none
      | some (key, rest) =>
        match skipBlanks rest with
        | ':' :: rest =>
          match parseValue fuel rest with
          | none => none
          | some (value, rest) =>
            match skipBlanks rest with
            | '}' :: after => some ([(key, value)], after)
            | ',' :: more =>
              (parseMembers fuel more).map fun parsed => ((key, value) :: parsed.1, parsed.2)
            | _ => none
        | _ => none
    | _ => none

end

/-- The value a text is the writing of.  Every character is worth two steps, which suffices. -/
def parse? (text : String) : Option Json :=
  let input := text.toList
  match parseValue (2 * input.length + 2) input with
  | some (value, rest) => if (skipBlanks rest).isEmpty then some value else none
  | none => none

/-- Two escapes that mean no character, whatever stands around them. -/
def strayEscapes : List Char := "\\udc00\\udc00".toList

/-- The text of pieces, with escapes for what is no text.  Behind a backslash no escape can stand,
and a control character makes sure that nothing does. -/
def maskStray (escaped : Bool) : List (Option Char) → List Char
  | [] => []
  | none :: rest => (if escaped then ['\x00'] else strayEscapes) ++ maskStray false rest
  | some char :: rest => char :: maskStray (!escaped && char == '\\') rest

def textOfBytes (bytes : ByteArray) : String :=
  (String.fromUTF8? bytes).getD
    (String.ofList (maskStray false (Utf8.piecesFrom none bytes.toList)))

/-- The value that bytes are the writing of. -/
def parseBytes? (bytes : ByteArray) : Option Json := parse? (textOfBytes bytes)

end ComponentSchema.Json
