import ComponentSchema.Script.Text

/-!
The commands of scripts.
-/

namespace ComponentSchema.Script

/-- How a file is opened for a stream. -/
inductive OpenMode where
  | read
  | write
  /-- To be written even where files that are there are to be kept. -/
  | overwrite
  | append
  | update
deriving DecidableEq, Repr

mutual

/-- A piece of a word.  Quoted pieces are neither split nor read as patterns. -/
inductive Piece where
  | text (content : Text) (quoted : Bool)
  /-- The value of a parameter, after something is done with it. -/
  | parameter (name : Text) (use : Use) (quoted : Bool)
  /-- What a command prints. -/
  | printed (command : Option Command) (quoted : Bool)
  /-- The value of an expression. -/
  | expression (content : List Piece) (quoted : Bool)

/-- What is done with the value of a parameter.  Where a word is told for a missing value, an empty
one may count as missing too. -/
inductive Use where
  | value
  | length
  | trimFront (longest : Bool) (pattern : List Piece)
  | trimBack (longest : Bool) (pattern : List Piece)
  /-- Takes a word in place of a missing value. -/
  | default (emptyToo : Bool) (word : List Piece)
  /-- Gives the parameter a missing value first. -/
  | assign (emptyToo : Bool) (word : List Piece)
  /-- Fails where the value is missing. -/
  | require (emptyToo : Bool) (word : List Piece)
  /-- Takes a word in place of a value that is there. -/
  | instead (emptyToo : Bool) (word : List Piece)
  /-- Nothing that is known. -/
  | unknown

/-- Where a stream of a command goes, or comes from. -/
inductive Redirection where
  | file (stream : Nat) (mode : OpenMode) (path : List Piece)
  /-- A text that stands in the script, by its number. -/
  | document (stream : Nat) (index : Nat)
  /-- Joins a stream to another one told by its number, or closes it. -/
  | join (stream : Nat) (other : List Piece)

/-- A command, with the number of the line it begins on where that may be told. -/
inductive Command where
  | simple (line : Nat) (assignments : List (Text × List Piece)) (words : List (List Piece))
      (redirections : List Redirection)
  | sequence (first second : Command)
  | both (first second : Command)
  | either (first second : Command)
  | negate (command : Command)
  | pipe (commands : List Command)
  | background (command : Command)
  | branch (condition body : Command) (otherwise : Option Command)
  /-- Repeats as long as the condition succeeds, or as long as it fails. -/
  | loop (wanted : Bool) (condition body : Command)
  /-- Once for each of some words, or for each argument. -/
  | each (line : Nat) (name : Text) (words : Option (List (List Piece))) (body : Command)
  | cases (line : Nat) (word : List Piece) (arms : List (List (List Piece) × Option Command))
  /-- A command whose changes to the shell do not last. -/
  | apart (line : Nat) (body : Command) (redirections : List Redirection)
  | redirected (line : Nat) (body : Command) (redirections : List Redirection)
  /-- Gives a command a name to be called by. -/
  | define (name : Text) (body : Command)

end

/-- A word of a command. -/
abbrev Word := List Piece

instance : Inhabited Piece := ⟨.text [] false⟩
instance : Inhabited Command := ⟨.simple 0 [] [] []⟩

/-- A command of several words with its line and the redirections behind it. -/
def Command.placed (command : Command) (line : Nat) (redirections : List Redirection) : Command :=
  match command with
  | .apart _ body _ => .apart line body redirections
  | .each _ name words body => behind (.each line name words body)
  | .cases _ word arms => behind (.cases line word arms)
  | command => behind command
where
  /-- The command with the redirections, if there are some. -/
  behind (command : Command) : Command :=
    if redirections.isEmpty then command else .redirected line command redirections

namespace Word

/-- Joins the texts that stand side by side and are both quoted, or both not. -/
def merged (word : Word) : Word :=
  word.foldr (fun piece others =>
    match piece, others with
    | .text content quoted, .text more same :: rest =>
      if quoted = same then .text (content ++ more) quoted :: rest else piece :: others
    | _, _ => piece :: others) []

/-- A word without the quotation mark in front of all arguments that stand alone between quotes: it
makes no word where there are no arguments. -/
def withoutMark (word : Word) : Word :=
  match word with
  | .text [] true :: .parameter ['@'] .value true :: rest =>
    let goesOn := match rest with
      | .parameter _ _ true :: _ | .printed _ true :: _ | .expression _ true :: _ => true
      | _ => false
    if goesOn then word else .parameter ['@'] .value true :: rest
  | _ => word

/-- The text of a word that nothing in is quoted or filled in. -/
def plain? : Word → Option Text
  | [] => some []
  | [.text content false] => some content
  | _ => none

/-- The text of a word as it is written, without quotes. -/
def written (word : Word) : Text :=
  word.flatMap fun piece => match piece with
    | .text content _ => content
    | _ => ['$']

/-- The name and the value of an assignment, if a word is one. -/
def assignment? : Word → Option (Text × Word)
  | .text content false :: rest =>
    (Text.assignment? content).map fun (name, value) =>
      (name, if value.isEmpty then rest else .text value false :: rest)
  | _ => none

end Word

end ComponentSchema.Script
