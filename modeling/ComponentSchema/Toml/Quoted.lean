import ComponentSchema.Digits

/-!
Quoted strings of TOML.  Double quotes allow escapes and single quotes do not; tripled quotes allow
line ends.  A string is first cut out up to its closing quotes, and its escapes are read afterwards.
-/

namespace ComponentSchema.Toml

/-- Characters that may stand in comments and on one line of a string. -/
def isTextChar (char : Char) : Bool := char == '\t' || (' ' ≤ char && char != '\x7f')

/-- Puts characters in front of what was cut out. -/
def ahead (front : List Char) : Option (List Char × List Char) → Option (List Char × List Char) :=
  Option.map fun cut => (front ++ cut.1, cut.2)

/-- The content of a string up to a quote, and what follows; a character behind a backslash does
not end a string that knows escapes. -/
def cutLine (quote : Char) (escapes : Bool) : List Char → Option (List Char × List Char)
  | [] => none
  | first :: rest =>
    if first = quote then some ([], rest)
    else if !isTextChar first then none
    else if first = '\\' ∧ escapes then
      match rest with
      | [] => none
      | second :: rest =>
        if isTextChar second then ahead [first, second] (cutLine quote escapes rest) else none
    else ahead [first] (cutLine quote escapes rest)

/-- The content of a string up to three quotes, and what follows.  Up to two more quotes in front of
the closing ones are content. -/
def cutLines (quote : Char) (escapes : Bool) : List Char → Option (List Char × List Char)
  | [] => none
  | first :: rest =>
    if first = quote ∧ [quote, quote].isPrefixOf rest then
      let more := (rest.drop 2).takeWhile (· == quote)
      let extra := min 2 more.length
      some (List.replicate extra quote, rest.drop (2 + extra))
    else if first = '\\' ∧ escapes then
      match rest with
      | [] => none
      | second :: rest =>
        if second = '\r' then
          match rest with
          | '\n' :: rest => ahead [first, second, '\n'] (cutLines quote escapes rest)
          | _ => none
        else if isTextChar second ∨ second = '\n' then
          ahead [first, second] (cutLines quote escapes rest)
        else none
    else if first = '\r' then
      match rest with
      | '\n' :: rest => ahead [first, '\n'] (cutLines quote escapes rest)
      | _ => none
    else if isTextChar first ∨ first = '\n' then ahead [first] (cutLines quote escapes rest)
    else none

/-- The letters that may stand behind a backslash, with what they mean. -/
def shortEscape? (char : Char) : Option Char :=
  if char = '"' then some '"'
  else if char = '\\' then some '\\'
  else if char = 'b' then some '\x08'
  else if char = 't' then some '\t'
  else if char = 'n' then some '\n'
  else if char = 'f' then some '\x0c'
  else if char = 'r' then some '\r'
  else if char = 'e' then some '\x1b'
  else none

/-- The character with a number given by its digits, if there is one. -/
def numbered? (digits : List Char) : Option Char := do
  let value ← Digits.number? 16 digits
  if value.isValidChar then some (Char.ofNat value) else none

/-- Where the reading of escapes stands. -/
inductive EscapeState where
  | plain
  /-- Behind a backslash and blanks, where a line end has to come. -/
  | beforeBreak
  /-- Behind an escaped line end, where blanks and line ends do not count. -/
  | afterBreak
deriving DecidableEq, Repr

/-- Reads the escapes in the content of a string. -/
def unescape (state : EscapeState) : List Char → Option (List Char)
  | [] => if state = .beforeBreak then none else some []
  | first :: rest =>
    let blank := first == ' ' || first == '\t'
    let lineEnd := first == '\n' || first == '\r'
    if state = .beforeBreak then
      if blank then unescape .beforeBreak rest
      else if lineEnd then unescape .afterBreak rest
      else none
    else if state = .afterBreak ∧ (blank || lineEnd) then unescape .afterBreak rest
    else if first ≠ '\\' then (unescape .plain rest).map (first :: ·)
    else
      match rest with
      | [] => none
      | second :: rest =>
        if second = ' ' ∨ second = '\t' then unescape .beforeBreak rest
        else if second = '\n' ∨ second = '\r' then unescape .afterBreak rest
        else if second = 'x' then
          match rest with
          | a :: b :: rest => do
            let char ← numbered? [a, b]
            (unescape .plain rest).map (char :: ·)
          | _ => none
        else if second = 'u' then
          match rest with
          | a :: b :: c :: d :: rest => do
            let char ← numbered? [a, b, c, d]
            (unescape .plain rest).map (char :: ·)
          | _ => none
        else if second = 'U' then
          match rest with
          | a :: b :: c :: d :: e :: f :: g :: h :: rest => do
            let char ← numbered? [a, b, c, d, e, f, g, h]
            (unescape .plain rest).map (char :: ·)
          | _ => none
        else do
          let char ← shortEscape? second
          (unescape .plain rest).map (char :: ·)

/-- Drops a line end in front. -/
def dropBreak : List Char → List Char
  | '\n' :: rest => rest
  | '\r' :: '\n' :: rest => rest
  | content => content

def contentText? (escapes : Bool) (content : List Char) : Option String :=
  if escapes then (unescape .plain content).map String.ofList else some (String.ofList content)

/-- A string on one line behind its opening quote, and what follows. -/
def scanLine (quote : Char) (input : List Char) : Option (String × List Char) := do
  let escapes := quote == '"'
  let (content, rest) ← cutLine quote escapes input
  pure (← contentText? escapes content, rest)

/-- A string behind its opening quote, and what follows.  The line end right behind tripled quotes
does not count. -/
def scanString (quote : Char) (input : List Char) : Option (String × List Char) :=
  if [quote, quote].isPrefixOf input then do
    let escapes := quote == '"'
    let (content, rest) ← cutLines quote escapes (input.drop 2)
    pure (← contentText? escapes (dropBreak content), rest)
  else scanLine quote input

end ComponentSchema.Toml
