import ComponentSchema.Script.Token

/-!
Where the reading of a script stands.  A backslash at the end of a line joins it with the next one,
and texts that stand in the script are read when the line that asks for them ends.
-/

namespace ComponentSchema.Script

/-- A text in the script that is still to come. -/
structure Awaited where
  index : Nat
  /-- The line that ends the text. -/
  mark : Text
  quoted : Bool
  dropTabs : Bool
deriving Repr

/-- What is left of a script, and what is known from reading it so far. -/
structure Reader where
  rest : Text
  line : Nat := 1
  /-- The last token, which is to be taken once more if it was put back. -/
  last : Token := .inputEnd
  isBack : Bool := false
  awaited : List Awaited := []
  /-- The texts that stand in the script, by their numbers. -/
  documents : Array Word := #[]
  aliases : List (Text × Text) := []
  /-- The aliases that are being read, and how much of the script is left behind them. -/
  expanding : List (Text × Nat) := []

/-- A step of reading; a failure tells the line it was found on. -/
abbrev Reading (α : Type) := StateT Reader (Except (Nat × SyntaxFault)) α

namespace Reading

def fail {α : Type} (fault : SyntaxFault) : Reading α := do throw ((← get).line, fault)

/-- Drops the ends of lines that are joined with the next ones. -/
def joinLines : Text → Nat → Text × Nat
  | '\\' :: '\n' :: rest, line => joinLines rest (line + 1)
  | rest, line => (rest, line)

/-- The next character, if there is one. -/
def peek : Reading (Option Char) := fun reader =>
  let (rest, line) := joinLines reader.rest reader.line
  .ok (rest.head?, { reader with rest, line })

def drop : Reading Unit := modify fun reader =>
  { reader with
    rest := reader.rest.tail
    line := if reader.rest.head? = some '\n' then reader.line + 1 else reader.line }

/-- Drops the next character if it is a given one, and tells whether it was. -/
def dropIf (char : Char) : Reading Bool := do
  if (← peek) = some char then
    drop
    pure true
  else pure false

/-- The next character as it stands, taken. -/
def takeRaw : Reading (Option Char) := do
  let first := (← get).rest.head?
  drop
  pure first

/-- Puts the last token back. -/
def putBack : Reading Unit := modify fun reader => { reader with isBack := true }

/-- Keeps a token as the last one. -/
def settle (token : Token) : Reading Token := do
  modify fun reader => { reader with last := token, isBack := false }
  pure token

/-- Reports that the last token does not fit. -/
def unexpected {α : Type} : Reading α := do fail (.unexpected (← get).last.name)

/-- Reports that another token was expected in place of the last one. -/
def expecting {α : Type} (wanted : Token) : Reading α := do
  fail (.expecting (← get).last.name wanted.name)

/-- Drops blanks, joined lines and a comment, given at most so many characters. -/
def skipBlanksIn : Nat → Text → Nat → Text × Nat
  | 0, rest, line => (rest, line)
  | count + 1, rest, line =>
    match joinLines rest line with
    | (' ' :: rest, line) => skipBlanksIn count rest line
    | ('\t' :: rest, line) => skipBlanksIn count rest line
    | ('#' :: rest, line) => (rest.dropWhile (· != '\n'), line)
    | other => other

/-- Drops blanks, joined lines and a comment. -/
def skipBlanks : Reading Unit := modify fun reader =>
  let (rest, line) := skipBlanksIn (reader.rest.length + 1) reader.rest reader.line
  { reader with rest, line }

/-- The text up to a single quote, which is dropped. -/
def literal : Reading Text := fun reader =>
  let content := reader.rest.takeWhile (· != '\'')
  let line := reader.line + content.count '\n'
  match reader.rest.drop content.length with
  | _ :: rest => .ok (content, { reader with rest, line })
  | [] => .error (line, .unterminatedQuote)

/-- The text up to a backquote, last character first, without the escapes that only hide one;
what is left, and on which line. -/
def backquotedFrom (quoted : Bool) : Text → Text → Nat → Option (Text × Text × Nat)
  | reversed, '\x60' :: rest, line => some (reversed, rest, line)
  | reversed, '\\' :: '\n' :: rest, line => backquotedFrom quoted reversed rest (line + 1)
  | reversed, '\\' :: char :: rest, line =>
    if ['\\', '\x60', '$'].contains char || (quoted && char == '"') then
      backquotedFrom quoted (char :: reversed) rest line
    else backquotedFrom quoted (char :: '\\' :: reversed) rest line
  | reversed, '\n' :: rest, line => backquotedFrom quoted ('\n' :: reversed) rest (line + 1)
  | reversed, char :: rest, line => backquotedFrom quoted (char :: reversed) rest line
  | _, [], _ => none

def backquoted (quoted : Bool) : Reading Text := fun reader =>
  match backquotedFrom quoted [] reader.rest reader.line with
  | some (reversed, rest, line) => .ok (reversed.reverse, { reader with rest, line })
  | none => .error (reader.line + reader.rest.count '\n', .openBackquote)

/-- The first line of a text, with the lines it is joined with where that is wished, and what
follows it. -/
def logicalLine (joins : Bool) : Text → Text × Text
  | '\\' :: char :: rest =>
    if joins then
      let (line, rest) := logicalLine joins rest
      ('\\' :: char :: line, rest)
    else if char = '\n' then (['\\'], rest)
    else
      let (line, rest) := logicalLine joins rest
      ('\\' :: char :: line, rest)
  | '\n' :: rest => ([], rest)
  | char :: rest =>
    let (line, rest) := logicalLine joins rest
    (char :: line, rest)
  | [] => ([], [])

/-- The text up to the line that ends it, and what follows; it has at most so many lines. -/
def documentFrom (awaited : Awaited) : Nat → Text → Text × Text
  | 0, rest => ([], rest)
  | _, [] => ([], [])
  | count + 1, text =>
    let text := if awaited.dropTabs then text.dropWhile (· == '\t') else text
    let (line, rest) := logicalLine (!awaited.quoted) text
    if line = awaited.mark then ([], rest)
    else
      let hasEnd := line.length < text.length
      let (others, rest) := documentFrom awaited count rest
      ((if hasEnd then line ++ ['\n'] else line) ++ others, rest)

end Reading

end ComponentSchema.Script
