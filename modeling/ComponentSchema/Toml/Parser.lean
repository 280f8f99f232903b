import ComponentSchema.Toml.Quoted
import ComponentSchema.Toml.Scalar

/-!
Reading TOML text.  A reader takes characters from the front and answers with the rest; texts
outside the grammar, and texts that define something twice, are refused without a reason.
-/

namespace ComponentSchema.Toml

def skipBlanks (input : List Char) : List Char := input.dropWhile isBlank

/-- Goes on to the next line; nothing but blanks and a comment may come before it. -/
def endLine? (inComment : Bool) : List Char → Option (List Char)
  | [] => some []
  | first :: rest =>
    if first = '\n' then some rest
    else if first = '\r' then
      match rest with
      | '\n' :: rest => some rest
      | _ => none
    else if inComment then if isTextChar first then endLine? true rest else none
    else if isBlank first then endLine? false rest
    else if first = '#' then endLine? true rest
    else none

/-- Drops blanks, line ends and comments in front. -/
def skipGap? (inComment : Bool) : List Char → Option (List Char)
  | [] => some []
  | first :: rest =>
    if first = '\n' then skipGap? false rest
    else if first = '\r' then
      match rest with
      | '\n' :: rest => skipGap? false rest
      | _ => none
    else if inComment then if isTextChar first then skipGap? true rest else none
    else if isBlank first then skipGap? false rest
    else if first = '#' then skipGap? true rest
    else some (first :: rest)

/-- The characters of a key without quotes. -/
def isKeyChar (char : Char) : Bool := char.isAlphanum || char == '_' || char == '-'

def scanKeyPart (input : List Char) : Option (String × List Char) :=
  match input with
  | '"' :: rest => scanLine '"' rest
  | '\'' :: rest => scanLine '\'' rest
  | _ =>
    let key := input.takeWhile isKeyChar
    if key.isEmpty then none else some (String.ofList key, input.dropWhile isKeyChar)

/-- A key of at most so many parts with dots between them, and what follows it and its blanks. -/
def scanParts : Nat → List Char → Option (List String × List Char)
  | 0, _ => none
  | parts + 1, input => do
    let (part, rest) ← scanKeyPart (skipBlanks input)
    match skipBlanks rest with
    | '.' :: rest => (scanParts parts rest).map fun scanned => (part :: scanned.1, scanned.2)
    | rest => some ([part], rest)

/-- How deep values may be nested, and how many parts a key may have. -/
def maxDepth : Nat := 80

/-- A key, and what follows it and its blanks. -/
def scanKey (input : List Char) : Option (List String × List Char) := scanParts maxDepth input

mutual

/-- A value with at most so many arrays and tables in braces around each other. -/
def parseValue (depth : Nat) : Nat → List Char → Option (Toml × List Char)
  | 0, _ => none
  | fuel + 1, input =>
    match input with
    | [] => none
    | first :: rest =>
      if first = '"' ∨ first = '\'' then
        (scanString first rest).map fun scanned => (.string scanned.1, scanned.2)
      else if first = '[' then
        if depth = 0 then none
        else (parseItems (depth - 1) fuel rest).map fun parsed => (.array parsed.1, parsed.2)
      else if first = '{' then
        if depth = 0 then none
        else do
          let (entries, rest) ← parseEntries (depth - 1) fuel rest
          pure (.table .closed (← ofEntries? entries), rest)
      else scanScalar input

/-- The items of an array up to the closing bracket; a comma may follow the last. -/
def parseItems (depth : Nat) : Nat → List Char → Option (List Toml × List Char)
  | 0, _ => none
  | fuel + 1, input => do
    match ← skipGap? false input with
    | ']' :: rest => some ([], rest)
    | input =>
      let (item, rest) ← parseValue depth fuel input
      match ← skipGap? false rest with
      | ']' :: rest => some ([item], rest)
      | ',' :: rest =>
        (parseItems depth fuel rest).map fun parsed => (item :: parsed.1, parsed.2)
      | _ => none

/-- The entries of a table in braces up to the closing one; a comma may follow the last, and line
ends and comments may stand around the equals sign. -/
def parseEntries (depth : Nat) :
    Nat → List Char → Option (List (List String × Toml) × List Char)
  | 0, _ => none
  | fuel + 1, input => do
    match ← skipGap? false input with
    | '}' :: rest => some ([], rest)
    | input =>
      let (path, rest) ← scanKey input
      match ← skipGap? false rest with
      | '=' :: rest =>
        let (value, rest) ← parseValue depth fuel (← skipGap? false rest)
        match ← skipGap? false rest with
        | '}' :: rest => some ([(path, value)], rest)
        | ',' :: rest =>
          (parseEntries depth fuel rest).map fun parsed => ((path, value) :: parsed.1, parsed.2)
        | _ => none
      | _ => none

end

/-- A line without its end, and what follows.  Every character is worth two steps, which
suffices. -/
def parseLine (input : List Char) : Option (Line × List Char) :=
  match input with
  | '[' :: '[' :: rest => do
    match ← scanKey rest with
    | (path, ']' :: ']' :: rest) => some (.element path, rest)
    | _ => none
  | '[' :: rest => do
    match ← scanKey rest with
    | (path, ']' :: rest) => some (.header path, rest)
    | _ => none
  | _ => do
    match ← scanKey input with
    | (path, '=' :: rest) =>
      let value := skipBlanks rest
      (parseValue maxDepth (2 * value.length + 2) value).map fun parsed =>
        (.entry path parsed.1, parsed.2)
    | _ => none

/-- At most so many lines, up to the end of the text. -/
def parseLines : Nat → List Char → Option (List Line)
  | 0, _ => none
  | lines + 1, input => do
    match ← skipGap? false input with
    | [] => some []
    | input =>
      let (line, rest) ← parseLine input
      (parseLines lines (← endLine? false rest)).map (line :: ·)

/-- Drops the mark that may stand at the start of a text. -/
def dropMark : List Char → List Char
  | '\ufeff' :: rest => rest
  | input => input

/-- The table a text is the writing of. -/
def parse? (text : String) : Option Members :=
  let input := dropMark text.toList
  (parseLines (input.length + 1) input).bind ofLines?

end ComponentSchema.Toml
