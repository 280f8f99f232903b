import ComponentSchema.Script.Arithmetic
import ComponentSchema.Script.Parameters
import ComponentSchema.Script.Subshell

/-!
What words stand for: parameters, expressions, and what commands print are filled in, and the result
is divided into words, which may be patterns for paths.
-/

namespace ComponentSchema.Script

namespace Action

/-- The value of a parameter, or none; where the script asks for it, a missing one is a fault. -/
def presentValue (name : Text) : Action (Option Text) := do
  let machine ← get
  match machine.parameter? name with
  | some value => pure (some value)
  | none =>
    if machine.has 'u' then fail (name ++ ": parameter not set".toList) else pure none

def valueSegments (manner : Manner) (name : Text) (quoted : Bool) : Action (List Segment) := do
  if Machine.isArguments name then pure [(← get).argumentSegment manner name quoted]
  else do pure [Machine.segment manner quoted ((← presentValue name).getD [])]

/-- Whether a parameter is missing; an empty value may count as missing. -/
def isMissing (name : Text) (emptyToo : Bool) : Action Bool := do
  pure (match (← get).parameter? name with
    | some value => emptyToo && value.isEmpty
    | none => true)

def assignParameter (name value : Text) : Action Unit := do
  if !Text.isName name then fail (name ++ ": bad variable name".toList)
  assign name value

def evaluated (expression : Text) : Action Int := do
  match Expression.evaluate (← get).value? expression with
  | .ok (value, assigned) => do
    for (name, value) in assigned.reverse do assign name (Text.ofInt value)
    pure value
  | .error fault => fail (fault.message expression)

/-- What a command in a word prints, without the line ends behind it. -/
def substituted (runner : Runner) : Option Command → Action Text
  | none => pure []
  | some command => do
    let status := (← get).status
    let text ← captured runner (runner false command)
    modify fun machine => { machine with status, printedStatus := machine.status }
    pure ((text.filter (· != '\x00')).reverse.dropWhile (· == '\n')).reverse

end Action

mutual

/-- The segments of a piece of a word, which may be the first or the last one. -/
def Piece.segments (runner : Runner) (manner : Manner) (isFirst isLast : Bool) :
    Piece → Action (List Segment)
  | .text content quoted => do
    pure ((← get).textSegments manner isFirst isLast quoted content)
  | .parameter name use quoted => use.segments runner manner name quoted
  | .printed command quoted => do
    pure [Machine.segment manner quoted (← Action.substituted runner command)]
  | .expression content quoted => do
    let text := Segment.text (← Word.segments runner {} false content)
    pure [Machine.segment manner quoted (Text.ofInt (← Action.evaluated text))]

/-- The segments of a parameter that is used in some way. -/
def Use.segments (runner : Runner) (manner : Manner) (name : Text) (quoted : Bool) :
    Use → Action (List Segment)
  | .value => Action.valueSegments manner name quoted
  | .length => do
    let value := (← Action.presentValue name).getD []
    pure [Machine.segment manner quoted (Text.ofNat value.length)]
  | .trimFront longest word => do
    let value := (← Action.presentValue name).getD []
    let pattern := Segment.pattern (← Word.segments runner {} true word)
    pure [Machine.segment manner quoted (Pattern.trimFront longest pattern value)]
  | .trimBack longest word => do
    let value := (← Action.presentValue name).getD []
    let pattern := Segment.pattern (← Word.segments runner {} true word)
    pure [Machine.segment manner quoted (Pattern.trimBack longest pattern value)]
  | .default emptyToo word => do
    if ← Action.isMissing name emptyToo then
      Word.segments runner { manner with nested := true } true word
    else Action.valueSegments manner name quoted
  | .assign emptyToo word => do
    if ← Action.isMissing name emptyToo then
      let value := Segment.text (← Word.segments runner {} true word)
      Action.assignParameter name value
    Action.valueSegments manner name quoted
  | .require emptyToo word => do
    if ← Action.isMissing name emptyToo then
      let told := Segment.text (← Word.segments runner {} true word)
      let wording := if !word.isEmpty then told
        else ("parameter not set" ++ if emptyToo then " or null" else "").toList
      Action.fail (name ++ ": ".toList ++ wording)
    else Action.valueSegments manner name quoted
  | .instead emptyToo word => do
    if ← Action.isMissing name emptyToo then pure []
    else Word.segments runner { manner with nested := true } true word
  | .unknown => Action.fail "Bad substitution".toList

def Word.segments (runner : Runner) (manner : Manner) (isFirst : Bool) :
    List Piece → Action (List Segment)
  | [] => pure []
  | piece :: rest => do
    let segments ← piece.segments runner manner isFirst rest.isEmpty
    pure (segments ++ (← Word.segments runner manner false rest))

end

namespace Word

def expandText (runner : Runner) (word : Word) : Action Text := do
  pure (Segment.text (← segments runner {} true word))

def expandValue (runner : Runner) (word : Word) : Action Text := do
  pure (Segment.text (← segments runner { isValue := true } true word))

def expandPattern (runner : Runner) (word : Word) : Action Text := do
  pure (Segment.pattern (← segments runner {} true word))

def expandFields (runner : Runner) (word : Word) : Action (List Text) := do
  let segments ← segments runner { splits := true } true word
  let machine ← get
  pure ((Segment.fields machine.separators segments).flatMap fun cells =>
    let paths := if machine.has 'f' then []
      else Glob.paths machine.files machine.directory (Cell.pattern cells)
    if paths.isEmpty then [Cell.text cells] else paths)

def expandAll (runner : Runner) (words : List Word) : Action (List Text) := do
  pure (← words.mapM (expandFields runner)).flatten

end Word

end ComponentSchema.Script
