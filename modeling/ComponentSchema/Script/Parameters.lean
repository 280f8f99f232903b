import ComponentSchema.Script.Fields
import ComponentSchema.Script.Machine

/-!
The values of parameters, and what becomes of them in words.
-/

namespace ComponentSchema.Script

/-- How a word is filled in. -/
structure Manner where
  /-- Whether the word stands for several ones. -/
  splits : Bool := false
  /-- Whether the word stands in place of a value. -/
  nested : Bool := false
  /-- Whether the word is the value of an assignment. -/
  isValue : Bool := false
deriving DecidableEq, Repr

def optionOrder : List Char :=
  ['u', 'b', 'a', 'C', 'E', 'V', 'v', 'x', 's', 'n', 'm', 'i', 'I', 'f', 'e', 'p']

namespace Machine

def isArguments (name : Text) : Bool := name == ['@'] || name == ['*']

/-- What stands between arguments that are put together. -/
def between (machine : Machine) : Text :=
  match machine.value? "IFS".toList with
  | some separators => separators.take 1
  | none => [' ']

def parameter? (machine : Machine) (name : Text) : Option Text :=
  match name with
  | ['#'] => some (Text.ofNat machine.arguments.length)
  | ['?'] => some (Text.ofNat machine.status)
  | ['$'] => some (Text.ofNat processNumber)
  | ['!'] => machine.lastJob?.map Text.ofNat
  | ['-'] => some (optionOrder.filter machine.has)
  | ['0'] => some machine.name
  | _ =>
    if isArguments name then some (Text.joined machine.between machine.arguments)
    else
      match Text.number? name with
      | some 0 => some machine.name
      | some number => machine.arguments[number - 1]?
      | none => machine.value? name

/-- A value as a segment of a word. -/
def segment (manner : Manner) (quoted : Bool) (text : Text) : Segment :=
  if quoted || !manner.splits then .fixed (Cell.ofText quoted text)
  else .loose (Cell.ofText false text)

def argumentSegment (machine : Machine) (manner : Manner) (name : Text) (quoted : Bool) : Segment :=
  if name = ['@'] && quoted && manner.splits then
    if machine.arguments.isEmpty then .fixed []
    else .listed (machine.arguments.map (Cell.ofText true))
  else if quoted || !manner.splits then
    segment manner quoted (Text.joined machine.between machine.arguments)
  else
    let divider := if (machine.value? "IFS".toList).isSome then ['\x00'] else [' ']
    .loose (Cell.ofText false (Text.joined divider machine.arguments))

end Machine

/-- A part of a word in which a tilde in front stands for a home directory, as text and whether it
has lost any special meaning; a tilde only counts where the part ends after it or goes on with a
slash. -/
def Machine.atHome (machine : Machine) (isWhole : Bool) (part : Text) : List (Text × Bool) :=
  match part with
  | '~' :: content =>
    let user := content.takeWhile (· != '/')
    let left := content.drop user.length
    let directory := if user.isEmpty then machine.value? "HOME".toList
      else if user = "root".toList then some "/root".toList
      else none
    match directory with
    | some directory =>
      if left.isEmpty && !isWhole then [(part, false)] else [(directory, true), (left, false)]
    | none => [(part, false)]
  | _ => [(part, false)]

/-- The parts of an unquoted text in which tildes stand for home directories.  In the value of an
assignment one may stand behind each colon. -/
def Machine.atHomes (machine : Machine) (manner : Manner) (isFirst isLast : Bool) (text : Text) :
    List (Text × Bool) :=
  let parts := if manner.isValue then Text.splitAt ':' text else [text]
  (parts.zipIdx.map fun (part, index) =>
    let isWhole := isLast || index + 1 < parts.length
    if isFirst || 0 < index then machine.atHome isWhole part else [(part, false)]).intersperse
      [([':'], false)] |>.flatten

def Machine.textSegments (machine : Machine) (manner : Manner) (isFirst isLast quoted : Bool)
    (text : Text) : List Segment :=
  if quoted then [.fixed (if text.isEmpty then [.mark] else Cell.ofText true text)]
  else
    (machine.atHomes manner isFirst isLast text).map fun (part, isPlain) =>
      if isPlain then .fixed (Cell.ofText true part)
      else if manner.nested && manner.splits then .loose (Cell.ofText false part)
      else .fixed (Cell.ofText false part)

end ComponentSchema.Script
