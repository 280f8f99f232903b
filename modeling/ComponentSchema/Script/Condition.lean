import ComponentSchema.Script.Glob
import ComponentSchema.Script.Number
import ComponentSchema.Script.Standing

/-!
Conditions on texts, numbers and files.  How many arguments there are decides which of them can be
operators; the rest is read from left to right.
-/

namespace ComponentSchema.Script

/-- What can be wrong with a condition. -/
inductive ConditionFault where
  | missingBracket
  | noNumber (text : Text)
  | noArgument (operator : Text)
  | noClose
  | unexpected (operator : Text)
deriving DecidableEq, Repr

def ConditionFault.message : ConditionFault → Text
  | .missingBracket => "missing ]".toList
  | .noNumber text => "Illegal number: ".toList ++ text
  | .noArgument operator => operator ++ ": argument expected".toList
  | .noClose => "closing paren expected".toList
  | .unexpected operator =>
    if operator.isEmpty then "unexpected operator".toList
    else operator ++ ": unexpected operator".toList

/-- What an argument is in a condition. -/
inductive Role where
  | unary | binary | negation | conjunction | disjunction | opened | closed | operand | missing
deriving DecidableEq, Repr

namespace Condition

def unaryOperators : List String :=
  ["-r", "-w", "-x", "-e", "-f", "-d", "-c", "-b", "-p", "-u", "-g", "-k", "-s", "-t", "-z", "-n",
    "-h", "-O", "-G", "-L", "-S"]

def binaryOperators : List String :=
  ["=", "!=", "<", ">", "-eq", "-ne", "-ge", "-gt", "-le", "-lt", "-nt", "-ot", "-ef"]

/-- What an operator does, whatever stands around it. -/
def operatorRole? (text : Text) : Option Role :=
  let name := String.ofList text
  if unaryOperators.contains name then some .unary
  else if binaryOperators.contains name then some .binary
  else [("!", Role.negation), ("-a", .conjunction), ("-o", .disjunction), ("(", .opened),
    (")", .closed)].lookup name

/-- What the first of some arguments is: an operator with nothing to work on is an operand. -/
def roleOf : List Text → Role
  | [] => .missing
  | text :: rest =>
    match operatorRole? text with
    | none => .operand
    | some .unary =>
      match rest with
      | [] => .operand
      | [_] => .unary
      | next :: _ => if operatorRole? next = some .binary then .operand else .unary
    | some .opened => if rest.isEmpty then .operand else .opened
    | some role => role

/-- Where files are looked for. -/
structure Scene where
  files : FileSystem
  directory : Location

def Scene.entry? (scene : Scene) (path : Text) : Option (Location × Entry) :=
  (scene.files.stat (Glob.pathFrom scene.directory path)).toOption

/-- Whether something holds of a text or of what a path leads to. -/
def holdsOf (scene : Scene) (operator operand : Text) : Bool :=
  let entry := (scene.entry? operand).map Prod.snd
  let special := ["/dev/null".toList, "/dev/zero".toList].contains operand
  let isTool := entry.isNone && (Standing.toolAt? operand).isSome
  let isStanding := isTool || entry.isNone && Standing.isDirectoryAt operand
  match String.ofList operator with
  | "-z" => operand.isEmpty
  | "-n" => !operand.isEmpty
  | "-e" | "-r" => entry.isSome || special || isStanding
  | "-w" | "-O" | "-G" => entry.isSome || special
  | "-f" => isTool || entry.any fun entry => entry.content != .directory
  | "-d" => isStanding && !isTool || entry.any fun entry => entry.content == .directory
  | "-c" => special
  | "-x" => isStanding || entry.any fun entry =>
      entry.mode.isExecutable || entry.content == .directory
  | "-s" => isStanding || entry.any fun entry =>
      match entry.content with
      | .directory => true
      | .file bytes => bytes.size != 0
  | _ => false

def number (text : Text) : Except ConditionFault Int :=
  match integer? text with
  | some value => .ok value
  | none => .error (.noNumber text)

/-- Whether something holds between two operands. -/
def holdsBetween (scene : Scene) (first operator second : Text) : Except ConditionFault Bool := do
  let compared := fun (test : Int → Int → Bool) => do
    pure (test (← number first) (← number second))
  let isThere := fun (path : Text) => (scene.entry? path).isSome
  match String.ofList operator with
  | "=" => pure (first == second)
  | "!=" => pure (first != second)
  | "<" => pure (Text.precedes first second && first != second)
  | ">" => pure (Text.precedes second first && first != second)
  | "-eq" => compared fun left right => left == right
  | "-ne" => compared fun left right => left != right
  | "-ge" => compared fun left right => left ≥ right
  | "-gt" => compared fun left right => left > right
  | "-le" => compared fun left right => left ≤ right
  | "-lt" => compared fun left right => left < right
  | "-nt" => pure (isThere first && !isThere second)
  | "-ot" => pure (!isThere first && isThere second)
  | _ =>
    pure (isThere first &&
      (scene.entry? first).map Prod.fst == (scene.entry? second).map Prod.fst)

mutual

/-- Whether one of some conditions holds, and the arguments from the last one that was read on. -/
def anyOf (scene : Scene) : Nat → Role → List Text → Except ConditionFault (Bool × List Text)
  | 0, _, rest => pure (false, rest)
  | fuel + 1, role, arguments => do
    let (first, rest) ← allOf scene fuel role arguments
    if roleOf (rest.drop 1) = .disjunction then
      let (second, rest) ← anyOf scene fuel (roleOf (rest.drop 2)) (rest.drop 2)
      pure (first || second, rest)
    else pure (first, rest)

def allOf (scene : Scene) : Nat → Role → List Text → Except ConditionFault (Bool × List Text)
  | 0, _, rest => pure (false, rest)
  | fuel + 1, role, arguments => do
    let (first, rest) ← negated scene fuel role arguments
    if roleOf (rest.drop 1) = .conjunction then
      let (second, rest) ← allOf scene fuel (roleOf (rest.drop 2)) (rest.drop 2)
      pure (first && second, rest)
    else pure (first, rest)

def negated (scene : Scene) : Nat → Role → List Text → Except ConditionFault (Bool × List Text)
  | 0, _, rest => pure (false, rest)
  | fuel + 1, role, arguments => do
    if role = .negation then
      let next := roleOf (arguments.drop 1)
      let (value, rest) ←
        negated scene fuel next (if next = .missing then arguments else arguments.drop 1)
      pure (!value, rest)
    else primary scene fuel role arguments

/-- Whether a single condition holds. -/
def primary (scene : Scene) : Nat → Role → List Text → Except ConditionFault (Bool × List Text)
  | 0, _, rest => pure (false, rest)
  | fuel + 1, role, arguments => do
    match role, arguments with
    | .missing, _ => pure (false, arguments)
    | .opened, _ :: inner =>
      if roleOf inner = .closed then pure (false, inner)
      else
        let (value, rest) ← anyOf scene fuel (roleOf inner) inner
        if roleOf (rest.drop 1) ≠ .closed then throw .noClose
        pure (value, rest.drop 1)
    | .unary, operator :: rest =>
      match rest with
      | [] => throw (.noArgument operator)
      | operand :: _ => pure (holdsOf scene operator operand, rest)
    | _, first :: rest =>
      if roleOf rest = .binary then
        match rest with
        | operator :: second :: others =>
          pure (← holdsBetween scene first operator second, second :: others)
        | operator :: [] => throw (.noArgument operator)
        | [] => pure (!first.isEmpty, arguments)
      else pure (!first.isEmpty, arguments)
    | _, [] => pure (false, [])

end

/-- Whether a condition holds that is read with its first argument in some role. -/
def evaluate (scene : Scene) (role : Role) (arguments : List Text) :
    Except ConditionFault Bool := do
  let (value, rest) ← anyOf scene (4 * arguments.length + 8) role arguments
  match rest with
  | last :: _ :: _ => throw (.unexpected last)
  | _ => pure value

/-- Whether arguments make up a condition that holds, or does not where it is negated; there are at
most so many negations. -/
def holdsIn (scene : Scene) : Nat → Bool → List Text → Except ConditionFault Bool
  | 0, _, _ => pure false
  | count + 1, wanted, arguments => do
    let inner := (arguments.drop 1).dropLast
    let isGrouped := arguments.head? = some ['('] && arguments.getLast? = some [')']
    let isNegated := arguments.head? = some ['!']
    let whole := fun (role : Role) (arguments : List Text) => do
      pure ((← evaluate scene role arguments) == wanted)
    if arguments.isEmpty then pure (!wanted)
    else if arguments.length = 3 && ((arguments[1]?).bind operatorRole?) == some .binary then
      whole .operand arguments
    else if arguments.length = 3 || arguments.length = 4 then
      if isGrouped then whole (roleOf inner) inner
      else if isNegated then holdsIn scene count (!wanted) (arguments.drop 1)
      else whole (roleOf arguments) arguments
    else whole (roleOf arguments) arguments

def holds (scene : Scene) (arguments : List Text) : Except ConditionFault Bool :=
  holdsIn scene (arguments.length + 1) true arguments

/-- Whether arguments up to a closing bracket make up a condition that holds. -/
def holdsInBrackets (scene : Scene) (arguments : List Text) : Except ConditionFault Bool :=
  match arguments.getLast? with
  | some (']' :: _) => holds scene arguments.dropLast
  | _ => throw .missingBracket

end Condition

end ComponentSchema.Script
