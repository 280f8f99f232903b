import ComponentSchema.Script.Condition
import ComponentSchema.Script.Printing
import ComponentSchema.Script.Tool.Files

/-!
Tools that print what they are told, take paths apart, or only end in some way.
-/

namespace ComponentSchema.Script.Tool

/-! ## Paths -/

def withoutLast (path : Text) : Text :=
  let path := trimmed path
  if path = ['/'] then path
  else
    let above := path.take (path.length - (lastPart path).length)
    if above.isEmpty then ['.'] else trimmed above

def withoutEnding (name ending : Text) : Text :=
  if ending.isSuffixOf name && ending.length < name.length then
    name.take (name.length - ending.length)
  else name

def nameEnd (given : Given) : Text := if given.has "zero" then ['\x00'] else ['\n']

/-- Prints the last parts of paths. -/
def basename : Program := fun arguments => do
  let (given, operands) ← Options.parse
    [.flag "a" "multiple", .valued "s" "suffix", .flag "z" "zero"] arguments 1 false
  let several := given.has "multiple" || given.has "suffix"
  match operands with
  | [] => refuse 1 "missing operand".toList
  | _ :: _ :: extra :: _ =>
    if !several then refuse 1 ("extra operand ".toList ++ Quoting.word extra)
  | _ => pure ()
  let ending :=
    if several then (given.last? "suffix").getD [] else (operands[1]?).getD []
  for path in if several then operands else operands.take 1 do
    print (withoutEnding (lastPart path) ending ++ nameEnd given)
  pure 0

/-- Prints paths without their last parts. -/
def dirname : Program := fun arguments => do
  let (given, operands) ← Options.parse [.flag "z" "zero"] arguments 1 false
  if operands.isEmpty then refuse 1 "missing operand".toList
  for path in operands do
    print ((if path.isEmpty then ['.'] else withoutLast path) ++ nameEnd given)
  pure 0

/-- Prints the directory that is worked in. -/
def pwd : Program := fun arguments => do
  let (_, operands) ← Options.usual [.flag "L" "logical", .flag "P" "physical"] arguments
  if !operands.isEmpty then complain "ignoring non-option arguments".toList
  printLine ('/' :: Text.ofString ("/".intercalate (← get).directory))
  pure 0

/-! ## Words -/

/-- The character with a code of hexadecimal digits, and what follows. -/
def hexChar? (digits : Text) : Option (Char × Text) :=
  let found := (digits.take 2).takeWhile fun char => (Digits.hexValue? char).isSome
  if found.isEmpty then none
  else some (byteChar ((Digits.number? 16 found).getD 0), digits.drop found.length)

/-- A word with its escapes filled in, and whether output ends with it; it has at most so many
characters. -/
def unescapedFrom : Nat → Text → Text × Bool
  | 0, _ => ([], false)
  | _, [] => ([], false)
  | _, '\\' :: 'c' :: _ => ([], true)
  | count + 1, '\\' :: rest =>
    let (char, rest) := match rest with
      | 'x' :: digits => (hexChar? digits).getD ('\\', rest)
      | '0' :: digit :: _ => escapedChar (if isOctal digit then rest.tail else rest)
      | _ => escapedChar rest
    let (others, ended) := unescapedFrom count rest
    (char :: others, ended)
  | count + 1, char :: rest =>
    let (others, ended) := unescapedFrom count rest
    (char :: others, ended)

/-- Whether an argument is made up of the options for printing words. -/
def isEchoOption (argument : Text) : Bool :=
  match argument with
  | '-' :: letters => !letters.isEmpty && letters.all (['n', 'e', 'E'].contains ·)
  | _ => false

/-- Words with their escapes filled in, up to the one output ends with. -/
def unescapedWords : List Text → Text × Bool
  | [] => ([], false)
  | word :: rest =>
    let (text, ended) := unescapedFrom word.length word
    if ended || rest.isEmpty then (text, ended)
    else
      let (others, ended) := unescapedWords rest
      (text ++ ' ' :: others, ended)

/-- Prints words. -/
def echo : Program := fun arguments => do
  let options := (arguments.takeWhile isEchoOption).flatten
  let words := arguments.dropWhile isEchoOption
  let escapes := (options.filter fun letter => letter == 'e' || letter == 'E').getLast? == some 'e'
  let (text, ended) := if escapes then unescapedWords words else (Text.joined [' '] words, false)
  print (if ended || options.contains 'n' then text else text ++ ['\n'])
  pure 0

/-- The wording of what was told about a value. -/
def valueWarning (warning : Text) : Text :=
  let told := fun (what : String) => (what.toList.isSuffixOf warning, what.length)
  let value := fun (length : Nat) => Quoting.word (warning.take (warning.length - length))
  match told ": expected numeric value", told ": not completely converted" with
  | (true, length), _ => value length ++ ": expected a numeric value".toList
  | _, (true, length) => value length ++ ": value not completely converted".toList
  | _, _ =>
    let length := ": Numerical result out of range".length
    value length ++ ": Numerical result out of range".toList

/-- Prints a format with values filled in. -/
def printf : Program := fun arguments => do
  match if arguments.head? = some ['-', '-'] then arguments.tail else arguments with
  | [] => refuse 1 "missing operand".toList
  | format :: values => do
    let filling := printFormat format values
    print filling.printed.reverse
    for warning in filling.warnings.reverse do complain (valueWarning warning)
    match filling.fault? with
    | some fault =>
      fail 1 (fault.takeWhile (· != ':') ++ ": invalid conversion specification".toList)
    | none => pure ()
    match if filling.ended then [] else filling.values with
    | extra :: _ =>
      complain ("warning: ignoring excess arguments, starting with ".toList ++ Quoting.word extra)
    | [] => pure ()
    pure (if filling.warnings.isEmpty then 0 else 1)

def printenv : Program := fun arguments => do
  let (given, operands) ← Options.parse [.flag "0" "null"] arguments 2 false
  let shown := (← get).environment
  let after := if given.has "null" then ['\x00'] else ['\n']
  if operands.isEmpty then
    for (name, value) in shown do print (name ++ '=' :: value ++ after)
    pure 0
  else
    onEach (fun name => do
      match shown.lookup name with
      | some value => do
        print (value ++ after)
        pure true
      | none => pure false) operands

/-! ## Ends -/

/-- Ends in some way, whatever it is told. -/
def ending (status : Nat) : Program := fun _ => pure status

/-- The letters behind spans of time, with how many seconds they stand for. -/
def timeUnits : List (Text × Nat) :=
  [([], 1), (['s'], 1), (['m'], 60), (['h'], 3600), (['d'], 86400)]

/-- A span of time in millionths of a second. -/
def duration? (text : Text) : Option Nat :=
  let digits := text.takeWhile fun char => char.isDigit || char == '.'
  let whole := digits.takeWhile Char.isDigit
  let fraction := (digits.drop (whole.length + 1)).take 6
  let value := Digits.decimalValue (whole ++ fraction ++ List.replicate (6 - fraction.length) '0')
  if "infinity".toList.isPrefixOf text || text = "inf".toList then some (Nat.pow 10 15)
  else if digits.any Char.isDigit && digits.count '.' ≤ 1 then
    (timeUnits.lookup (text.drop digits.length)).map (value * ·)
  else none

def sleep : Program := fun arguments => do
  let (_, operands) ← Options.parse [] arguments 1 false
  if operands.isEmpty then refuse 1 "missing operand".toList
  let unclear := operands.filter fun text => (duration? text).isNone
  for text in unclear do complain ("invalid time interval ".toList ++ Quoting.word text)
  if !unclear.isEmpty then suggestHelp 1
  let elapsed := (operands.filterMap duration?).foldl (· + ·) 0
  modify fun process => { process with elapsed }
  pure 0

def conditionWording (arguments : List Text) : ConditionFault → Text
  | .missingBracket => "missing ".toList ++ Quoting.word [']']
  | .noNumber text => "invalid integer ".toList ++ Quoting.word text
  | .noArgument operator => "missing argument after ".toList ++ Quoting.word operator
  | .noClose => "')' expected".toList
  | .unexpected _ =>
    if arguments.length = 2 then
      "missing argument after ".toList ++ Quoting.word ((arguments[1]?).getD [])
    else if arguments.length = 3 then
      Quoting.word ((arguments[1]?).getD []) ++ ": binary operator expected".toList
    else "extra argument ".toList ++ Quoting.word ((arguments[1]?).getD [])

/-- Tells whether a condition holds. -/
def tested (inBrackets : Bool) : Program := fun arguments => do
  let process ← get
  let scene : Condition.Scene := ⟨process.files, process.directory⟩
  let closes := arguments.getLast? = some [']']
  let arguments := if inBrackets && closes then arguments.dropLast else arguments
  match if inBrackets && !closes then .error .missingBracket
      else Condition.holds scene arguments with
  | .ok true => pure 0
  | .ok false => pure 1
  | .error fault => fail 2 (conditionWording arguments fault)

/-- Refuses all options it is given, as it knows none. -/
def refusingAll : Program := fun arguments => do
  let _ ← Options.parseAll [] arguments
  pure 0

/-- Refuses the first option it is given, as it knows none. -/
def refusing (status : Nat) : Program := fun arguments => do
  let _ ← Options.parse [] arguments status true
  pure 0

/-- How often words are repeated where nobody can wait for the end. -/
def repetitions : Nat := 50000

/-- Repeats words. -/
def yes : Program := fun arguments => do
  let (_, operands) ← Options.usual [] arguments
  let line := if operands.isEmpty then ['y'] else Text.joined [' '] operands
  print (List.replicate repetitions (line ++ ['\n'])).flatten
  pure 0

end ComponentSchema.Script.Tool
