import ComponentSchema.Script.Fields

/-!
Dividing a line that was read among variables: each gets a word, and the last one all that is left.
-/

namespace ComponentSchema.Script

/-- Characters of a line, and whether they divide words where they are separators. -/
abbrev LinePart := Text × Bool

namespace LinePart

/-- The parts of a line where a backslash hides what follows, last first; a backslash at its end
joins it with the next line.  What is left behind the line is told too, and whether it had an
end. -/
def scan : List LinePart → Text → Text → List LinePart × Text × Bool
  | done, current, '\\' :: '\n' :: rest => scan ((current.reverse, true) :: done) [] rest
  | done, current, ['\\'] => ((current.reverse, true) :: done, [], false)
  | done, current, '\\' :: char :: rest =>
    scan (([char], false) :: (current.reverse, true) :: done) [] rest
  | done, current, '\n' :: rest => ((current.reverse, true) :: done, rest, true)
  | done, current, char :: rest =>
    if char = '\x00' then scan done current rest else scan done (char :: current) rest
  | done, current, [] => ((current.reverse, true) :: done, [], false)

/-- The parts of the first line of a text, what is left behind it, and whether it had an end. -/
def ofInput (isPlain : Bool) (text : Text) : List LinePart × Text × Bool :=
  if isPlain then
    let line := text.takeWhile (· != '\n')
    ([(line.filter (· != '\x00'), true)], text.drop (line.length + 1), line.length < text.length)
  else
    let (parts, rest, hasEnd) := scan [] [] text
    (parts.reverse, rest, hasEnd)

/-- Where the division of a line stands; texts are kept last first. -/
structure Division where
  /-- How many words may still be begun. -/
  left : Nat
  done : List Text := []
  current : Text := []
  /-- How much of the last word counts. -/
  cut? : Option Nat := none
  /-- Whether a blank has just ended a word. -/
  afterBlank : Bool := false

/-- Adds a character to the word that is begun. -/
def Division.put (division : Division) (char : Char) : Division :=
  { division with current := char :: division.current, afterBlank := false }

def Division.add (separators : Text) (division : Division) (char : Char) : Division :=
  let separates := separators.contains char
  let isBlank := separates && Segment.usualSeparators.contains char
  if division.left = 0 then
    if isBlank then
      let cut := division.cut?.getD division.current.length
      { division with current := char :: division.current, cut? := some cut }
    else if separates && division.afterBlank then division.put char
    else { division.put char with cut? := none }
  else if division.afterBlank && separates then { division with afterBlank := isBlank }
  else if !separates then division.put char
  else if isBlank && division.current.isEmpty then division
  else if division.left = 1 then
    { division with
      left := 0
      cut? := some division.current.length
      current := char :: division.current
      afterBlank := isBlank }
  else
    { division with
      left := division.left - 1
      done := division.current.reverse :: division.done
      current := []
      afterBlank := isBlank }

def Division.addPart (separators : Text) (division : Division) (part : LinePart) : Division :=
  if part.2 then
    part.1.foldl (Division.add separators) { division with afterBlank := false }
  else { division with current := part.1.reverse ++ division.current }

def words (separators : Text) (count : Nat) (parts : List LinePart) : List Text :=
  let division := parts.foldl (Division.addPart separators) { left := count }
  let last := division.current.reverse.take (division.cut?.getD division.current.length)
  (if last.isEmpty then division.done else last :: division.done).reverse

end LinePart

end ComponentSchema.Script
