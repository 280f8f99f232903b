import ComponentSchema.Script.Tool.Files
import ComponentSchema.Script.Tool.Regex

/-!
Scripts that edit lines: each command has a letter, and lines it is for.
-/

namespace ComponentSchema.Script

/-- What tells a line. -/
inductive LineAddress where
  | number (number : Nat)
  | last
  /-- A line that matches; none stands for the expression that was used last. -/
  | fits (regex : Option (Regex × Bool))
  | stepped (first step : Nat)

/-- Where a range of lines ends. -/
inductive RangeEnd where
  | upTo (address : LineAddress)
  | after (count : Nat)
  | multiple (number : Nat)

/-- The lines that a command is for. -/
structure LineChoice where
  first : Option LineAddress := none
  last : Option RangeEnd := none
  others : Bool := false

/-- A part of what is put in place of a match. -/
inductive Substitute where
  | text (content : Text)
  /-- What a group has matched; the whole match is number zero. -/
  | group (index : Nat)
  /-- How the letters that follow are changed: one of `U`, `L`, `u`, `l` and `E`. -/
  | letters (change : Char)
deriving DecidableEq, Repr

/-- How matches are replaced. -/
structure Replacement where
  regex : Option (Regex × Bool)
  parts : List Substitute
  /-- The number of the first match that is replaced. -/
  number : Nat := 1
  all : Bool := false
  prints : Bool := false
  multiline : Bool := false
  file : Option Text := none

/-- What a command does. -/
inductive EditAction where
  | replace (replacement : Replacement)
  | transliterate (pairs : List (Char × Char))
  /-- A command that is only a letter. -/
  | letter (name : Char)
  /-- A text that is added behind or in front of a line, or put in its place. -/
  | insert (name : Char) (text : Text)
  /-- The end of editing with a status, with the line shown or not. -/
  | quit (shows : Bool) (status : Nat)
  | readFile (path : Text)
  | writeFile (path : Text) (firstOnly : Bool)
  /-- A jump to a label: always, after a replacement, or without one. -/
  | jump (name : Char) (label : Text)
  | label (name : Text)
  | opened
  | closed

/-- A command with the lines it is for. -/
structure EditCommand where
  choice : LineChoice
  action : EditAction

namespace EditScript

/-- Where the reading of a script stands. -/
structure Source where
  rest : Text
  /-- How many characters were read. -/
  position : Nat := 0
  extended : Bool
  depth : Nat := 0

/-- A step of reading; a failure tells how many characters were read. -/
abbrev Step (α : Type) := StateT Source (Except (Nat × Text)) α

def fail {α : Type} (text : String) : Step α := do throw ((← get).position, text.toList)

/-- The next character. -/
def peek : Step (Option Char) := do pure (← get).rest.head?

def drop (count : Nat) : Step Unit := modify fun source =>
  { source with
    rest := source.rest.drop count
    position := source.position + min count source.rest.length }

/-- Drops the characters that pass a test. -/
def dropWhile (test : Char → Bool) : Step Unit := do
  drop ((← get).rest.takeWhile test).length

/-- Takes the characters that pass a test. -/
def takeWhile (test : Char → Bool) : Step Text := do
  let found := (← get).rest.takeWhile test
  drop found.length
  pure found

/-- Blanks inside a line. -/
def isBlank (char : Char) : Bool := char == ' ' || char == '\t'

/-- The characters up to a delimiter, with it dropped; brackets hide it in patterns. -/
def delimited? (delimiter : Char) (isPattern : Bool) : Nat → Bool → Text → Option (Text × Text)
  | 0, _, _ => none
  | _, _, [] => none
  | count + 1, inBrackets, char :: rest =>
    if inBrackets then
      let follows := if char = ']' then false else true
      (delimited? delimiter isPattern count follows rest).map fun found =>
        (char :: found.1, found.2)
    else if char = delimiter then some ([], rest)
    else if char = '\n' && isPattern then none
    else if char = '\\' then
      match rest with
      | [] => none
      | next :: rest =>
        let kept :=
          if next = delimiter then [next]
          else if next = 'n' && isPattern then ['\n']
          else [char, next]
        (delimited? delimiter isPattern count false rest).map fun found =>
          (kept ++ found.1, found.2)
    else if char = '[' && isPattern then
      let (front, rest) := match rest with
        | '^' :: ']' :: rest => (['^', ']'], rest)
        | ']' :: rest => ([']'], rest)
        | rest => ([], rest)
      let closes := rest.contains ']'
      (delimited? delimiter isPattern count closes rest).map fun found =>
        (char :: front ++ found.1, found.2)
    else (delimited? delimiter isPattern count false rest).map fun found =>
      (char :: found.1, found.2)

def delimited (delimiter : Char) (isPattern : Bool) (fault : String) : Step Text := do
  let source ← get
  match delimited? delimiter isPattern (source.rest.length + 1) false source.rest with
  | some (text, rest) => do
    drop (source.rest.length - rest.length)
    pure text
  | none => do
    drop (source.rest.takeWhile (· != '\n')).length
    fail fault

/-- Reads a regular expression, which is empty where the last one is meant. -/
def regexOf (pattern : Text) (folds : Bool) : Step (Option (Regex × Bool) × Nat) := do
  if pattern.isEmpty then pure (none, 9)
  else
    match Regex.parse (if (← get).extended then .extended else .basic) pattern with
    | .ok (regex, groups) => pure (some (regex, folds), groups)
    | .error fault => fail fault.message

/-- Takes a number; there has to be one. -/
def number : Step Nat := do pure (Digits.decimalValue (← takeWhile Char.isDigit))

/-- An address that tells lines by their numbers, if one comes next. -/
def lineAddress? : Step (Option LineAddress) := do
  match ← peek with
  | none => pure none
  | some char =>
    if char.isDigit then
      let first ← number
      if (← peek) = some '~' then
        drop 1
        let step ← number
        pure (some (if step = 0 then .number first else .stepped first step))
      else pure (some (.number first))
    else if char = '$' then
      drop 1
      pure (some .last)
    else pure none

def regexAddress (delimiter : Char) (width : Nat) : Step (Option LineAddress) := do
  drop width
  let pattern ← delimited delimiter true "unterminated address regex"
  let flags ← takeWhile fun char => char == 'I' || char == 'M'
  let (regex, _) ← regexOf pattern (flags.contains 'I')
  pure (some (.fits regex))

def address? : Step (Option LineAddress) := do
  match (← get).rest with
  | '\\' :: delimiter :: _ => regexAddress delimiter 2
  | '/' :: _ => regexAddress '/' 1
  | _ => lineAddress?

/-- Fails over what stands in front of the next character. -/
def failBehind {α : Type} (text : String) : Step α := do
  drop 1
  fail text

/-- The lines that a command is for. -/
def choice : Step LineChoice := do
  let first ← address?
  let last ←
    if first.isSome then do
      dropWhile isBlank
      if (← peek) = some ',' then
        drop 1
        dropWhile isBlank
        match ← peek with
        | some '+' => do
          drop 1
          pure (some (RangeEnd.after (← number)))
        | some '~' => do
          drop 1
          pure (some (.multiple (← number)))
        | _ =>
          match ← address? with
          | some address => pure (some (.upTo address))
          | none => failBehind "unexpected `,'"
      else pure none
    else pure none
  dropWhile isBlank
  match first, last with
  | some (.number 0), some (.upTo (.fits _)) => pure ()
  | some (.number 0), _ => failBehind "invalid usage of line address 0"
  | _, _ => pure ()
  let others := (← peek) = some '!'
  if others then
    drop 1
    dropWhile isBlank
    if (← peek) = some '!' then failBehind "multiple `!'s"
  pure { first, last, others }

def partsOf : Text → List Substitute
  | '\\' :: char :: rest =>
    if char.isDigit then .group (char.toNat - '0'.toNat) :: partsOf rest
    else if ['U', 'L', 'u', 'l', 'E'].contains char then .letters char :: partsOf rest
    else if char = 'n' then .text ['\n'] :: partsOf rest
    else if char = 't' then .text ['\t'] :: partsOf rest
    else .text [char] :: partsOf rest
  | '&' :: rest => .group 0 :: partsOf rest
  | char :: rest => .text [char] :: partsOf rest
  | [] => []

/-- Takes the rest of a line as a path. -/
def path : Step Text := do
  dropWhile isBlank
  let found ← takeWhile (· != '\n')
  if found.isEmpty then fail "missing filename in r/R/w/W commands"
  pure found

/-- Reads the flags of a replacement, of which there are at most so many. -/
def flags (replacement : Replacement) (folds : Bool) : Nat → Step (Replacement × Bool)
  | 0 => pure (replacement, folds)
  | count + 1 => do
    match ← peek with
    | none => pure (replacement, folds)
    | some char =>
      if char.isDigit then
        let number ← number
        if number = 0 then fail "number option to `s' command may not be zero"
        flags { replacement with number } folds count
      else if [';', '\n', '\x7d', '#'].contains char || isBlank char then pure (replacement, folds)
      else
        drop 1
        match char with
        | 'g' => flags { replacement with all := true } folds count
        | 'p' => flags { replacement with prints := true } folds count
        | 'i' | 'I' => flags replacement true count
        | 'm' | 'M' => flags { replacement with multiline := true } folds count
        | 'w' => do pure ({ replacement with file := some (← path) }, folds)
        | _ => fail "unknown option to `s'"

def replacement : Step EditAction := do
  match ← peek with
  | none => fail "unterminated `s' command"
  | some delimiter => do
    drop 1
    let fault := "unterminated `s' command"
    let pattern ← delimited delimiter true fault
    let content ← delimited delimiter false fault
    let parts := partsOf content
    let (rest, folds) ← flags { regex := none, parts } false ((← get).rest.length + 1)
    let (regex, groups) ← regexOf pattern folds
    let greatest := (parts.map fun part => match part with
      | .group index => index
      | _ => 0).foldl max 0
    if greatest > groups then
      fail ("invalid reference \\" ++ toString greatest ++ " on `s' command's RHS")
    pure (.replace { rest with regex })

/-- The characters of a set to exchange, with escapes filled in. -/
def exchangeSet : Text → Text
  | '\\' :: 'n' :: rest => '\n' :: exchangeSet rest
  | '\\' :: char :: rest => if char = '\\' then char :: exchangeSet rest
      else '\\' :: char :: exchangeSet rest
  | char :: rest => char :: exchangeSet rest
  | [] => []

/-- Reads the exchange of single characters behind its letter. -/
def exchangeAction : Step EditAction := do
  match ← peek with
  | none => fail "unterminated `y' command"
  | some delimiter => do
    drop 1
    let first := exchangeSet (← delimited delimiter false "unterminated `y' command")
    let second := exchangeSet (← delimited delimiter false "unterminated `y' command")
    if first.length ≠ second.length then fail "strings for `y' command are different lengths"
    pure (.transliterate (first.zip second))

/-- The lines of an added text: a backslash at the end of one lets it go on. -/
def addedLines : Text → Text × Nat
  | '\\' :: char :: rest =>
    let (text, count) := addedLines rest
    (char :: text, count + 2)
  | '\n' :: _ => (['\n'], 1)
  | char :: rest =>
    let (text, count) := addedLines rest
    (char :: text, count + 1)
  | [] => (['\n'], 0)

/-- Reads an added text behind its letter. -/
def added (name : Char) : Step EditAction := do
  dropWhile isBlank
  match (← get).rest with
  | [] => fail "expected \\ after `a', `c' or `i'"
  | '\\' :: rest => do
    drop 1
    let blanks := rest.takeWhile isBlank
    match rest.drop blanks.length with
    | '\n' :: _ => drop (blanks.length + 1)
    | _ => pure ()
  | _ => pure ()
  let (text, count) := addedLines (← get).rest
  drop count
  pure (.insert name text)

def plainLetters : List Char :=
  ['p', 'P', 'd', 'D', 'n', 'N', 'h', 'H', 'g', 'G', 'x', '=', 'l', 'z', 'F']

/-- Reads what a letter stands for; its place is told in front. -/
def action (name : Char) : Step EditAction := do
  drop 1
  if plainLetters.contains name then pure (.letter name)
  else if name = 's' then replacement
  else if name = 'y' then exchangeAction
  else if name = 'a' || name = 'i' || name = 'c' then added name
  else if name = 'q' || name = 'Q' then
    dropWhile isBlank
    pure (.quit (name == 'q') (← number))
  else if name = 'r' then pure (.readFile (← path))
  else if name = 'w' || name = 'W' then pure (.writeFile (← path) (name == 'W'))
  else if name = ':' then
    dropWhile isBlank
    let label ← takeWhile fun char => char != '\n' && char != ';' && !isBlank char
    if label.isEmpty then fail "\":\" lacks a label"
    pure (.label label)
  else if name = 'b' || name = 't' || name = 'T' then
    dropWhile isBlank
    pure (.jump name (← takeWhile fun char =>
      char != '\n' && char != ';' && char != '\x7d' && !isBlank char))
  else if name = '\x7b' then
    modify fun source => { source with depth := source.depth + 1 }
    pure .opened
  else if name = '\x7d' then
    if (← get).depth = 0 then fail "unexpected `\x7d'"
    modify fun source => { source with depth := source.depth - 1 }
    pure .closed
  else
    throw ((← get).position, "unknown command: `".toList ++ [name, '\''])

/-- Reads what may follow a command. -/
def finish (action : EditAction) : Step Unit := do
  match action with
  | .opened | .insert _ _ => pure ()
  | _ => do
    dropWhile isBlank
    match ← peek with
    | none | some '\x7d' | some '#' => pure ()
    | some char =>
      drop 1
      if char ≠ '\n' && char ≠ ';' then fail "extra characters after command"

def commands : Nat → Step (List EditCommand)
  | 0 => pure []
  | count + 1 => do
    dropWhile fun char => isBlank char || char == '\n' || char == ';'
    if (← get).rest.isEmpty then pure []
    else
      let choice ← choice
      match ← peek with
      | none => fail "missing command"
      | some '#' => do
        dropWhile (· != '\n')
        commands count
      | some name => do
        let action ← action name
        finish action
        pure (⟨choice, action⟩ :: (← commands count))

/-- Reads a script; the fault tells how many characters were read. -/
def parse (extended : Bool) (text : Text) : Except (Nat × Text) (List EditCommand) := do
  let (found, source) ← (commands (text.length + 1)).run { rest := text, extended }
  if source.depth > 0 then throw (0, "unmatched `\x7b'".toList) else pure found

end EditScript

end ComponentSchema.Script
