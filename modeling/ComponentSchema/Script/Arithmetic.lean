import ComponentSchema.Script.Number

/-!
Arithmetic expressions.  They are evaluated while they are read, so of two faults the one further in
front is found.  Assignments take effect at once, and in a branch that is not taken none is made.
-/

namespace ComponentSchema.Script

/-- An operator between two numbers. -/
inductive Operator where
  | multiply | divide | remainder
  | add | subtract
  | shiftLeft | shiftRight
  | less | lessOrEqual | greater | greaterOrEqual
  | equal | different
  | bitAnd | bitXor | bitOr
deriving DecidableEq, Repr

/-- How far out an operator stands; a smaller level binds tighter. -/
def Operator.level : Operator → Nat
  | .multiply | .divide | .remainder => 0
  | .add | .subtract => 1
  | .shiftLeft | .shiftRight => 2
  | .less | .lessOrEqual | .greater | .greaterOrEqual => 3
  | .equal | .different => 4
  | .bitAnd => 5
  | .bitXor => 6
  | .bitOr => 7

/-- A level further out than all operators. -/
def Operator.outermost : Nat := 8

/-- A token of an expression. -/
inductive Lexeme where
  | number (value : Int)
  | name (text : Text)
  | operator (operator : Operator)
  /-- An assignment, by way of an operator or not. -/
  | assign (operator : Option Operator)
  | both | either | negate | complement
  | opened | closed | question | colon
  | bad
  | done
deriving DecidableEq, Repr

/-- What can be wrong with an expression. -/
inductive ExpressionFault where
  | noPrimary | noEnd | noClose | noColon
  | divisionByZero
  /-- The value of a variable is no number. -/
  | noNumber (value : Text)
deriving DecidableEq, Repr

def ExpressionFault.message (fault : ExpressionFault) (expression : Text) : Text :=
  let told := fun (what : String) =>
    ("arithmetic expression: " ++ what ++ ": \"").toList ++ expression ++ ['"']
  match fault with
  | .noPrimary => told "expecting primary"
  | .noEnd => told "expecting EOF"
  | .noClose => told "expecting ')'"
  | .noColon => told "expecting ':'"
  | .divisionByZero => told "division by zero"
  | .noNumber value => "Illegal number: ".toList ++ value

namespace Expression

/-- The tokens of marks, longer ones before those that begin them. -/
def marks : List (String × Lexeme) :=
  [("<<=", .assign (some .shiftLeft)), (">>=", .assign (some .shiftRight)),
    ("<<", .operator .shiftLeft), (">>", .operator .shiftRight),
    ("<=", .operator .lessOrEqual), (">=", .operator .greaterOrEqual),
    ("<", .operator .less), (">", .operator .greater),
    ("==", .operator .equal), ("!=", .operator .different), ("=", .assign none), ("!", .negate),
    ("&&", .both), ("||", .either),
    ("&=", .assign (some .bitAnd)), ("|=", .assign (some .bitOr)), ("^=", .assign (some .bitXor)),
    ("&", .operator .bitAnd), ("|", .operator .bitOr), ("^", .operator .bitXor),
    ("*=", .assign (some .multiply)), ("/=", .assign (some .divide)),
    ("%=", .assign (some .remainder)), ("+=", .assign (some .add)),
    ("-=", .assign (some .subtract)),
    ("*", .operator .multiply), ("/", .operator .divide), ("%", .operator .remainder),
    ("+", .operator .add), ("-", .operator .subtract), ("~", .complement),
    ("(", .opened), (")", .closed), ("?", .question), (":", .colon)]

/-- The tokens of an expression, of which there are at most so many. -/
def lexemes : Nat → Text → List Lexeme
  | 0, _ => []
  | _, [] => []
  | count + 1, first :: rest =>
    if first = ' ' || first = '\t' || first = '\n' then lexemes count rest
    else if first.isDigit then
      match scanMarkedDigits? (first :: rest) with
      | some (value, rest) => .number (clampInteger value) :: lexemes count rest
      | none => [.bad]
    else
      match Text.splitName (first :: rest) with
      | ([], _) =>
        match marks.find? fun mark => mark.1.toList.isPrefixOf (first :: rest) with
        | some (mark, lexeme) => lexeme :: lexemes count ((first :: rest).drop mark.length)
        | none => [.bad]
      | (name, rest) => .name name :: lexemes count rest

/-- Where the evaluation of an expression stands. -/
structure State where
  rest : List Lexeme
  /-- The variables that were given values, the latest first. -/
  assigned : List (Text × Int) := []
  /-- The value a variable has from elsewhere. -/
  outside : Text → Option Text

/-- A step of an evaluation. -/
abbrev Step (α : Type) := StateT State (Except ExpressionFault) α

/-- The next token. -/
def peek : Step Lexeme := do pure ((← get).rest.head?.getD .done)

/-- Takes the next token. -/
def take : Step Lexeme := do
  let next ← peek
  modify fun state => { state with rest := state.rest.tail }
  pure next

def valueOf (name : Text) : Step Int := do
  let state ← get
  match state.assigned.lookup name with
  | some value => pure value
  | none =>
    let text := (state.outside name).getD []
    match markedInteger? text with
    | some value => pure value
    | none => throw (.noNumber text)

def assign (name : Text) (value : Int) : Step Int := do
  modify fun state => { state with assigned := (name, value) :: state.assigned }
  pure value

def truth (holds : Bool) : Int := if holds then 1 else 0

/-- The bits of a number, as a number that is not negative. -/
def bits (value : Int) : Nat := (value % (1 <<< 64)).toNat

def apply (operator : Operator) (left right : Int) : Step Int :=
  match operator with
  | .multiply => pure (wrapInteger (left * right))
  | .divide => if right = 0 then throw .divisionByZero else pure (wrapInteger (left.tdiv right))
  | .remainder => if right = 0 then throw .divisionByZero else pure (left.tmod right)
  | .add => pure (wrapInteger (left + right))
  | .subtract => pure (wrapInteger (left - right))
  | .shiftLeft => pure (wrapInteger (left * Nat.pow 2 (bits right % 64)))
  | .shiftRight => pure (left / Nat.pow 2 (bits right % 64))
  | .less => pure (truth (left < right))
  | .lessOrEqual => pure (truth (left ≤ right))
  | .greater => pure (truth (left > right))
  | .greaterOrEqual => pure (truth (left ≥ right))
  | .equal => pure (truth (left = right))
  | .different => pure (truth (left ≠ right))
  | .bitAnd => pure (wrapInteger (bits left &&& bits right))
  | .bitXor => pure (wrapInteger (bits left ^^^ bits right))
  | .bitOr => pure (wrapInteger (bits left ||| bits right))

mutual

/-- An expression with assignments in front; `live` tells whether its value counts. -/
def whole (live : Bool) : Nat → Step Int
  | 0 => throw .noPrimary
  | fuel + 1 => do
    match (← get).rest with
    | .name name :: .assign operator? :: rest => do
      modify fun state => { state with rest }
      let value ← whole live fuel
      if !live then pure value
      else
        match operator? with
        | none => assign name value
        | some operator => do assign name (← apply operator (← valueOf name) value)
    | _ => choice live fuel

/-- A choice between two values. -/
def choice (live : Bool) : Nat → Step Int
  | 0 => throw .noPrimary
  | fuel + 1 => do
    let condition ← either live fuel
    if (← peek) = .question then do
      let _ ← take
      let first ← whole (live && condition != 0) fuel
      if (← take) ≠ .colon then throw .noColon
      let second ← choice (live && condition == 0) fuel
      pure (if condition ≠ 0 then first else second)
    else pure condition

/-- Whether one of some values is not zero; once one is, those behind it do not count. -/
def either (live : Bool) : Nat → Step Int
  | 0 => throw .noPrimary
  | fuel + 1 => do
    let first ← both live fuel
    if (← peek) = .either then do
      let _ ← take
      let second ← either (live && first == 0) fuel
      pure (truth (first != 0 || second != 0))
    else pure first

/-- Whether no value is zero; once one is, those behind it do not count. -/
def both (live : Bool) : Nat → Step Int
  | 0 => throw .noPrimary
  | fuel + 1 => do
    let first ← operation live fuel
    if (← peek) = .both then do
      let _ ← take
      let second ← both (live && first != 0) fuel
      pure (truth (first != 0 && second != 0))
    else pure first

def operation (live : Bool) : Nat → Step Int
  | 0 => throw .noPrimary
  | fuel + 1 => do
    let first ← primary live fuel
    match ← peek with
    | .operator _ => operationFrom live Operator.outermost first fuel
    | _ => pure first

/-- Goes on behind a value with operators that bind tighter than a level. -/
def operationFrom (live : Bool) (level : Nat) (left : Int) : Nat → Step Int
  | 0 => throw .noPrimary
  | fuel + 1 => do
    match ← take with
    | .operator operator => do
      let right ← primary live fuel
      let right ←
        match ← peek with
        | .operator next =>
          if next.level < operator.level then operationFrom live operator.level right fuel
          else pure right
        | _ => pure right
      let value ← if live then apply operator left right else pure right
      match ← peek with
      | .operator next =>
        if next.level < level then operationFrom live level value fuel else pure value
      | _ => pure value
    | _ => throw .noPrimary

/-- A single value. -/
def primary (live : Bool) : Nat → Step Int
  | 0 => throw .noPrimary
  | fuel + 1 => do
    match ← take with
    | .opened => do
      let value ← whole live fuel
      if (← take) ≠ .closed then throw .noClose
      pure value
    | .number value => pure value
    | .name name => if live then valueOf name else pure 0
    | .operator .add => primary live fuel
    | .operator .subtract => do pure (wrapInteger (-(← primary live fuel)))
    | .negate => do pure (truth ((← primary live fuel) == 0))
    | .complement => do pure (wrapInteger (-(← primary live fuel) - 1))
    | _ => throw .noPrimary

end

/-- The value of an expression, and the variables it gave values to, the latest first. -/
def evaluate (outside : Text → Option Text) (expression : Text) :
    Except ExpressionFault (Int × List (Text × Int)) := do
  let tokens := lexemes expression.length expression
  let (value, last) ← (whole true (8 * tokens.length + 8)).run { rest := tokens, outside }
  match last.rest with
  | [] => pure (value, last.assigned)
  | _ => throw .noEnd

end Expression

end ComponentSchema.Script
