import ComponentSchema.Script.Pattern

/-!
The words that a word stands for once its parameters are filled in.  What was filled in outside of
quotes is divided at separators; blanks among them only divide, while each other separator ends a
word, even an empty one.
-/

namespace ComponentSchema.Script

/-- A piece of a word that is filled in. -/
inductive Cell where
  /-- A character, and whether it has lost any special meaning. -/
  | char (value : Char) (quoted : Bool)
  /-- A quotation mark, which makes a word of nothing. -/
  | mark
deriving DecidableEq, Repr, Inhabited

/-- A part of a word that is filled in. -/
inductive Segment where
  /-- A part that stays as it is. -/
  | fixed (cells : List Cell)
  /-- A part that is divided at separators. -/
  | loose (cells : List Cell)
  /-- Parts with ends of words between them. -/
  | listed (parts : List (List Cell))
deriving Repr, Inhabited

namespace Cell

def ofText (quoted : Bool) (text : Text) : List Cell := text.map fun char => .char char quoted

def text (cells : List Cell) : Text :=
  cells.filterMap fun cell => match cell with
    | .char value _ => some value
    | .mark => none

/-- The pattern of cells: a backslash stands in front of what has no special meaning. -/
def pattern (cells : List Cell) : Text :=
  cells.flatMap fun cell => match cell with
    | .char value quoted => if quoted then ['\\', value] else [value]
    | .mark => []

end Cell

namespace Segment

def cells : Segment → List Cell
  | .fixed cells => cells
  | .loose cells => cells
  | .listed parts => parts.flatten

def text (segments : List Segment) : Text := Cell.text (segments.flatMap cells)

def pattern (segments : List Segment) : Text := Cell.pattern (segments.flatMap cells)

/-- The separators that count as blanks; the character between unquoted arguments is one. -/
def blanks : Text := [' ', '\t', '\n', '\x00']

/-- The separators where nothing else is said. -/
def usualSeparators : Text := [' ', '\t', '\n']

/-- Where the division into words stands; everything is kept last first. -/
structure Division where
  done : List (List Cell) := []
  current : List Cell := []
  /-- Whether the last part that may be divided was a list. -/
  inList : Bool := false

namespace Division

/-- Ends the word that is begun. -/
def close (division : Division) : Division :=
  { division with done := division.current.reverse :: division.done, current := [] }

/-- Adds a cell to the word that is begun. -/
def put (division : Division) (cell : Cell) : Division :=
  { division with current := cell :: division.current }

/-- Adds a part that is divided; `afterBlank` tells that a blank has just ended a word. -/
def addLoose (separators : Text) (afterList : Bool) :
    Bool → Division → List Cell → Division
  | _, division, [] => division
  | afterBlank, division, cell :: rest =>
    match cell with
    | .mark => addLoose separators afterList false (division.put cell) rest
    | .char value _ =>
      let separates := value == '\x00' || separators.contains value
      let isBlank := separates && blanks.contains value
      if afterBlank then
        if isBlank then addLoose separators afterList true division rest
        else if separates then addLoose separators afterList false division rest
        else addLoose separators afterList false (division.put cell) rest
      else if separates then
        let skips := isBlank && !afterList
        if skips && division.current.isEmpty then
          addLoose separators afterList false division rest
        else addLoose separators afterList skips division.close rest
      else addLoose separators afterList false (division.put cell) rest

/-- Adds parts with ends of words between them. -/
def addListed (division : Division) : List (List Cell) → Division
  | [] => division
  | [last] => last.foldl put division
  | part :: rest => addListed (part.foldl put division).close rest

def add (separators : Text) (division : Division) : Segment → Division
  | .fixed cells => cells.foldl put division
  | .loose cells =>
    { addLoose separators division.inList false division cells with inList := false }
  | .listed parts => { addListed division parts with inList := true }

end Division

def fields (separators : Text) (segments : List Segment) : List (List Cell) :=
  let division := segments.foldl (Division.add separators) {}
  (if division.inList || !division.current.isEmpty then division.close else division).done.reverse

end Segment

end ComponentSchema.Script
