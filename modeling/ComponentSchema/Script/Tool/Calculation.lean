import ComponentSchema.Script.Printing
import ComponentSchema.Script.Tool.Files
import ComponentSchema.Script.Tool.Regex

/-!
Expressions whose parts are arguments of their own: on numbers, on texts, and with patterns.
-/

namespace ComponentSchema.Script.Tool

namespace Calculation

/-- Where the reading of an expression stands. -/
structure State where
  rest : List Text
  /-- The argument that was read last. -/
  last : Text := []

/-- A step of reading; a failure is told in its own words. -/
abbrev Step (α : Type) := StateT State (Except Text) α

def fault {α : Type} (text : String) : Step α := throw text.toList

/-- Fails because of how an expression is written. -/
def misread {α : Type} (text : Text) : Step α := throw ("syntax error: ".toList ++ text)

/-- Takes the next argument if it is one of some texts. -/
def takeOne (texts : List String) : Step (Option String) := do
  let state ← get
  match state.rest with
  | [] => pure none
  | next :: rest =>
    match texts.find? fun text => Text.ofString text == next with
    | none => pure none
    | some text => do
      set ({ rest, last := next } : State)
      pure (some text)

def integerOf? (text : Text) : Option Int :=
  match text with
  | '-' :: digits => (Text.number? digits).map fun value => -(value : Int)
  | digits => (Text.number? digits).map fun value => (value : Int)

/-- Whether a text counts as nothing: it is empty, or zero. -/
def isNull (text : Text) : Bool :=
  text.isEmpty || (integerOf? text) == some 0

def truth (holds : Bool) : Text := if holds then ['1'] else ['0']

/-- Applies an operator to two integers. -/
def onIntegers (operator : String) (left right : Text) : Step Text := do
  match integerOf? left, integerOf? right with
  | some first, some second =>
    match operator with
    | "+" => pure (Text.ofInt (first + second))
    | "-" => pure (Text.ofInt (first - second))
    | "*" => pure (Text.ofInt (first * second))
    | _ =>
      if second = 0 then fault "division by zero"
      else pure (Text.ofInt (if operator = "/" then first.tdiv second else first.tmod second))
  | _, _ => fault "non-integer argument"

/-- Compares two values: as numbers if both are some. -/
def compared (operator : String) (left right : Text) : Text :=
  let order :=
    match integerOf? left, integerOf? right with
    | some first, some second => compare first second
    | _, _ => if left = right then .eq else if Text.precedes left right then .lt else .gt
  truth (match operator with
    | "<" => order == .lt
    | "<=" => order != .gt
    | "=" | "==" => order == .eq
    | "!=" => order != .eq
    | ">=" => order != .lt
    | _ => order == .gt)

/-- What a pattern at the start of a text matches: the text of its group, or how long it is. -/
def matched (text pattern : Text) : Step Text := do
  match Regex.parse .basic pattern with
  | .error reason => fault reason.message
  | .ok (regex, groups) =>
    let subject : Regex.Subject := { chars := text.toArray, folds := false }
    match Regex.matchAt? regex subject 0 with
    | some place =>
      pure (if groups > 0 then subject.matched place 1 else Text.ofNat place.index)
    | none => pure (if groups > 0 then [] else ['0'])

def part (text start length : Text) : Text :=
  match integerOf? start, integerOf? length with
  | some start, some length =>
    if start ≤ 0 || length ≤ 0 then [] else (text.drop (start - 1).toNat).take length.toNat
  | _, _ => []

/-- The place of the first of some characters in a text, or zero. -/
def indexIn (text chars : Text) : Text :=
  Text.ofNat (match text.findIdx? chars.contains with
    | some index => index + 1
    | none => 0)

def takeNext : Step Text := do
  let state ← get
  match state.rest with
  | [] => misread ("missing argument after ".toList ++ Quoting.word state.last)
  | next :: rest =>
    set ({ rest, last := next } : State)
    pure next

def operatorsAt (level : Nat) : List String :=
  match level with
  | 0 => ["|"]
  | 1 => ["&"]
  | 2 => ["<", "<=", "=", "==", "!=", ">=", ">"]
  | 3 => ["+", "-"]
  | 4 => ["*", "/", "%"]
  | _ => [":"]

/-- How far in a value stands: the level of its operators, and the value in front of them. -/
structure Front where
  level : Nat
  value : Text

/-- Applies an operator of some level. -/
def applied (operator : String) (left right : Text) : Step Text :=
  match operator with
  | "|" => pure (if !isNull left then left else if !isNull right then right else ['0'])
  | "&" => pure (if isNull left || isNull right then ['0'] else left)
  | ":" => matched left right
  | _ =>
    if (operatorsAt 2).contains operator then pure (compared operator left right)
    else onIntegers operator left right

mutual

/-- The value of an expression whose operators stand at a level or further in. -/
def expression (front : Front) : Nat → Step Text
  | 0 => pure []
  | fuel + 1 => do
    if front.level > 5 then primary fuel
    else
      let value ← expression ⟨front.level + 1, []⟩ fuel
      continued ⟨front.level, value⟩ fuel

/-- Goes on behind a value with operators of a level. -/
def continued (front : Front) : Nat → Step Text
  | 0 => pure front.value
  | fuel + 1 => do
    match ← takeOne (operatorsAt front.level) with
    | none => pure front.value
    | some operator => do
      let right ← expression ⟨front.level + 1, []⟩ fuel
      continued ⟨front.level, ← applied operator front.value right⟩ fuel

/-- A single value. -/
def primary : Nat → Step Text
  | 0 => pure []
  | fuel + 1 => do
    match ← takeOne ["+", "length", "match", "index", "substr", "(", ")"] with
    | some "+" => takeNext
    | some "length" => do pure (Text.ofNat (← expression ⟨6, []⟩ fuel).length)
    | some "match" => do
      let text ← expression ⟨6, []⟩ fuel
      matched text (← expression ⟨6, []⟩ fuel)
    | some "index" => do
      let text ← expression ⟨6, []⟩ fuel
      pure (indexIn text (← expression ⟨6, []⟩ fuel))
    | some "substr" => do
      let text ← expression ⟨6, []⟩ fuel
      let start ← expression ⟨6, []⟩ fuel
      pure (part text start (← expression ⟨6, []⟩ fuel))
    | some "(" => do
      let value ← expression ⟨0, []⟩ fuel
      match ← takeOne [")"] with
      | some _ => pure value
      | none => do
        let state ← get
        match state.rest with
        | [] => misread ("expecting ')' after ".toList ++ Quoting.word state.last)
        | next :: _ => misread ("expecting ')' instead of ".toList ++ Quoting.word next)
    | some _ => misread "unexpected ')'".toList
    | none => takeNext

end

/-- The value of an expression. -/
def evaluate (arguments : List Text) : Except Text Text := do
  let (value, state) ← (expression ⟨0, []⟩ (16 * arguments.length + 16)).run { rest := arguments }
  match state.rest with
  | [] => pure value
  | next :: _ => throw ("syntax error: unexpected argument ".toList ++ Quoting.word next)

end Calculation

/-- Prints the value of an expression. -/
def expr : Program := fun arguments => do
  let arguments := match arguments with
    | ['-', '-'] :: rest => rest
    | arguments => arguments
  if arguments.isEmpty then refuse 2 "missing operand".toList
  match Calculation.evaluate arguments with
  | .ok value => do
    printLine value
    pure (if Calculation.isNull value then 1 else 0)
  | .error text => fail 2 text

/-! ## Series -/

/-- A decimal number: its digits as a whole number, and how many of them are behind the point. -/
structure Decimal where
  digits : Int
  places : Nat
deriving DecidableEq, Repr

/-- The number of tens that a text behind a number multiplies it by: none, or `e` and a number of
at most three digits. -/
def exponentOf? : Text → Option Int
  | [] => some 0
  | mark :: rest =>
    let (negative, digits) := match rest with
      | '-' :: digits => (true, digits)
      | '+' :: digits => (false, digits)
      | digits => (false, digits)
    if (mark = 'e' || mark = 'E') && !digits.isEmpty && digits.length ≤ 3 &&
        digits.all Char.isDigit then
      some (if negative then -Digits.decimalValue digits else Digits.decimalValue digits)
    else none

/-- A decimal number times ten, so many times. -/
def Decimal.shifted (number : Decimal) : Int → Decimal
  | .ofNat tens =>
    ⟨number.digits * Nat.pow 10 (tens - number.places), number.places - tens⟩
  | .negSucc tens => ⟨number.digits, number.places + tens + 1⟩

def Decimal.ofText? (text : Text) : Option Decimal :=
  let (negative, rest) := match text.dropWhile Char.isWhitespace with
    | '-' :: rest => (true, rest)
    | '+' :: rest => (false, rest)
    | rest => (false, rest)
  let whole := rest.takeWhile Char.isDigit
  let (fraction, tail) := match rest.drop whole.length with
    | '.' :: more => more.span Char.isDigit
    | tail => ([], tail)
  if whole.isEmpty && fraction.isEmpty then none
  else
    let value : Int := Digits.decimalValue (whole ++ fraction)
    (exponentOf? tail).map
      (Decimal.shifted ⟨if negative then -value else value, fraction.length⟩)

/-- The digits of a number with another count of places. -/
def Decimal.scaled (number : Decimal) (places : Nat) : Int :=
  number.digits * Nat.pow 10 (places - number.places)

def decimalText (digits : Int) (places : Nat) : Text :=
  let plain := Text.ofNat digits.natAbs
  let filled := List.replicate (places + 1 - plain.length) '0' ++ plain
  let whole := filled.take (filled.length - places)
  let sign := if digits < 0 then ['-'] else []
  if places = 0 then sign ++ whole else sign ++ whole ++ '.' :: filled.drop whole.length

/-- Puts zeros behind the sign of a number up to a width. -/
def zeroPadded (width : Nat) (text : Text) : Text :=
  match text with
  | '-' :: rest => '-' :: List.replicate (width - text.length) '0' ++ rest
  | rest => List.replicate (width - text.length) '0' ++ rest

def series (first step last : Int) : List Int :=
  if step > 0 then
    (List.range ((last - first) / step + 1).toNat).map fun (index : Nat) => first + step * index
  else
    (List.range ((first - last) / (-step) + 1).toNat).map fun (index : Nat) => first + step * index

/-- Puts the end of options in front of a negative number that stands where an option may. -/
def guardNegative : List Text → List Text
  | ['-', 's'] :: value :: rest => ['-', 's'] :: value :: guardNegative rest
  | ['-', 'f'] :: value :: rest => ['-', 'f'] :: value :: guardNegative rest
  | ('-' :: char :: letters) :: rest =>
    if char.isDigit || char = '.' then ['-', '-'] :: ('-' :: char :: letters) :: rest
    else ('-' :: char :: letters) :: guardNegative rest
  | arguments => arguments

/-- Prints the numbers from one to another. -/
def seq : Program := fun arguments => do
  let (given, operands) ← Options.parse
    [.valued "f" "format", .valued "s" "separator", .flag "w" "equal-width"]
    (guardNegative arguments) 1 false
  match operands with
  | [] => refuse 1 "missing operand".toList
  | _ :: _ :: _ :: extra :: _ => refuse 1 ("extra operand ".toList ++ Quoting.word extra)
  | _ => pure ()
  let format := given.last? "format"
  match format with
  | some format =>
    if !format.contains '%' then
      fail 1 ("format ".toList ++ Quoting.word format ++ " has no % directive".toList)
  | none => pure ()
  let numbers ← operands.mapM fun text => do
    match Decimal.ofText? text with
    | some number => pure number
    | none => refuse 1 ("invalid floating point argument: ".toList ++ Quoting.word text)
  let one : Decimal := ⟨1, 0⟩
  let (first, step, last) := match numbers with
    | [last] => (one, one, last)
    | [first, last] => (first, one, last)
    | first :: step :: last :: _ => (first, step, last)
    | [] => (one, one, one)
  if step.digits = 0 then
    refuse 1 ("invalid Zero increment value: ".toList ++ Quoting.word ((operands[1]?).getD []))
  let places := max first.places step.places
  let finest := max places last.places
  let shown := series (first.scaled finest) (step.scaled finest) (last.scaled finest)
  let texts := shown.map fun digits => decimalText (digits / Nat.pow 10 (finest - places)) places
  let texts := match format with
    | some format => texts.map fun text => (printFormat format [text]).printed.reverse
    | none =>
      if given.has "equal-width" then
        let endText := decimalText (last.scaled finest / Nat.pow 10 (finest - places)) places
        let width := ((endText :: texts).map List.length).foldl max 0
        texts.map (zeroPadded width)
      else texts
  if !texts.isEmpty then
    printLine (Text.joined ((given.last? "separator").getD ['\n']) texts)
  pure 0

end ComponentSchema.Script.Tool
