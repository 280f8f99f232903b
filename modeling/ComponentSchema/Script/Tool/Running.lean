import ComponentSchema.Script.Signals
import ComponentSchema.Script.Tool.Plain
import ComponentSchema.Script.Tool.Streams

/-!
What the tools that run other programs are asked to run.
-/

namespace ComponentSchema.Script

/-- A program to run, with its surroundings. -/
structure Errand where
  command : List Text
  /-- Whether nothing is left of the environment. -/
  clears : Bool := false
  unset : List Text := []
  /-- The variables the program gets to see, in order. -/
  settings : List (Text × Text) := []
  directory : Option Text := none
  /-- How long the program may take, in millionths of a second. -/
  limit? : Option Nat := none
  /-- How the program is said to have ended that takes longer. -/
  cutStatus : Nat := 124
  /-- The signal that ends the program and what watches it alike, if there is one. -/
  cutSignal? : Option Nat := none

/-- Programs to run one after the other. -/
structure Batches where
  commands : List (List Text)
  /-- Whether each command is told before it runs. -/
  tells : Bool := false
  /-- What was wrong with the input behind the last command. -/
  fault? : Option Text := none

namespace Tool

/-! ## With other surroundings -/

/-- The options of `env`. -/
def surroundingOptions : List OptionForm :=
  [.flag "i" "ignore-environment", .flag "0" "null", .valued "u" "unset", .valued "C" "chdir",
    .valued "S" "split-string", .flag "v" "debug", .loose "" "block-signal",
    .loose "" "default-signal", .loose "" "ignore-signal", .flag "" "list-signal-handling"]

/-- Takes the arguments of `env` apart; a single one may hold several, to be divided at blanks. -/
def surroundingsOf : Nat → List Text → Tool (Given × List Text)
  | 0, arguments => pure ([], arguments)
  | count + 1, arguments => do
    let (given, operands) ← Options.parse surroundingOptions arguments 125 false
    match given.last? "split-string" with
    | none => pure (given, operands)
    | some text => do
      let words := (Text.splitAt ' ' text).filter fun word => !word.isEmpty
      let others := given.filter fun option => option.1 != "split-string"
      let (more, operands) ← surroundingsOf count (words ++ operands)
      pure (others ++ more, operands)

/-- What `env` is asked to run; without a command it prints the environment. -/
def env (arguments : List Text) : Tool Errand := do
  let (given, operands) ← surroundingsOf 2 arguments
  let clears := given.has "ignore-environment" || operands.head? = some ['-']
  let operands := if operands.head? = some ['-'] then operands.tail else operands
  let settings := (operands.takeWhile fun operand => operand.contains '=').map fun operand =>
    let name := operand.takeWhile (· != '=')
    (name, operand.drop (name.length + 1))
  let unset := (given.filter fun option => option.1 == "unset").map Prod.snd
  let command := operands.drop settings.length
  if command.isEmpty then
    let process ← get
    let before := if clears then [] else process.environment
    let named := unset ++ settings.map Prod.fst
    let kept := before.filter fun entry => !named.contains entry.1
    let divider := if given.has "null" then ['\x00'] else ['\n']
    for (name, value) in kept ++ settings do print (name ++ '=' :: value ++ divider)
    throw 0
  pure { command, clears, unset, settings, directory := given.last? "chdir" }

/-- What `nice` is asked to run. -/
def nice (arguments : List Text) : Tool Errand := do
  let isLegacy := match arguments with
    | ('-' :: digits) :: _ => (Text.number? digits).isSome
    | _ => false
  let arguments := if isLegacy then arguments.tail else arguments
  let (given, command) ← Options.parse [.valued "n" "adjustment"] arguments 125 false
  match given.last? "adjustment" with
  | some text =>
    if (integer? text).isNone then
      complain ("invalid adjustment ".toList ++ Quoting.word text)
      throw 125
    if command.isEmpty then refuse 125 "a command must be given with an adjustment".toList
  | none => pure ()
  if command.isEmpty then
    printLine ['0']
    throw 0
  pure { command }

/-- What `nohup` is asked to run. -/
def nohup (arguments : List Text) : Tool Errand := do
  let (_, command) ← Options.parse [] arguments 125 false
  if command.isEmpty then refuse 125 "missing operand".toList
  pure { command }

/-- Whether a text tells how a stream is held back: line by line, or up to a size. -/
def isHolding (text : Text) : Bool := text = ['L'] || (scaledCount? text).isSome

/-- What `stdbuf` is asked to run. -/
def stdbuf (arguments : List Text) : Tool Errand := do
  let (given, command) ← Options.parse
    [.valued "i" "input", .valued "o" "output", .valued "e" "error"] arguments 125 false
  match given.find? fun option => !isHolding option.2 with
  | some (_, text) => fail 125 ("invalid mode ".toList ++ Quoting.word text)
  | none => pure ()
  if given.any fun option => option == ("input", ['L']) then
    refuse 125 "line buffering stdin is meaningless".toList
  if command.isEmpty then refuse 125 "missing operand".toList
  if given.isEmpty then refuse 125 "you must specify a buffering mode option".toList
  pure { command }

/-- What `timeout` is asked to run. -/
def timeout (arguments : List Text) : Tool Errand := do
  let (given, operands) ← Options.parse
    [.flag "" "preserve-status", .flag "" "foreground", .valued "k" "kill-after",
      .valued "s" "signal", .flag "v" "verbose"] arguments 125 false
  let durations := (given.last? "kill-after").toList ++ operands.take 1
  if operands.length < 2 then suggestHelp 125
  for duration in durations do
    if (duration? duration).isNone then
      refuse 125 ("invalid time interval ".toList ++ Quoting.word duration)
  let limit? := (duration? (operands.head?.getD [])).filter (0 < ·)
  let signal := given.last? "signal"
  match signal.filter fun text => (Signals.number? text).isNone with
  | some text => refuse 125 (Quoting.word text ++ ": invalid signal".toList)
  | none => pure ()
  let number := (signal.bind Signals.number?).getD Signals.termination
  let cutStatus := if given.has "preserve-status" then 128 + number else 124
  let cutSignal? := if number = 9 then some number else none
  pure { command := operands.drop 1, limit?, cutStatus, cutSignal? }

/-! ## In batches -/

/-- How items are read from a text. -/
structure ItemRules where
  /-- What ends items, unless they are words. -/
  divider? : Option Char := none
  /-- Whether items are lines. -/
  inLines : Bool := false

/-- Items that were read, with the numbers of their lines, the latest first. -/
structure ItemReading where
  items : List (Text × Nat) := []
  /-- The item that is begun, last character first. -/
  current? : Option Text := none
  line : Nat := 0
  fault? : Option Text := none

namespace ItemReading

/-- Ends the item that is begun. -/
def close (reading : ItemReading) : ItemReading :=
  match reading.current? with
  | some item =>
    { reading with items := (item.reverse, reading.line) :: reading.items, current? := none }
  | none => reading

/-- Adds a character to the item that is begun. -/
def put (reading : ItemReading) (char : Char) : ItemReading :=
  { reading with current? := some (char :: reading.current?.getD []) }

/-- Reads words, of which quotation marks may make one, and in which a backslash takes the meaning
from the next character.  A blank at the end of a line goes on with the next one. -/
def scan (rules : ItemRules) (quote? : Option Char) (afterBlank : Bool) :
    ItemReading → Text → ItemReading
  | reading, [] =>
    match quote? with
    | some quote =>
      let kind := if quote = '"' then "double" else "single"
      { reading with
        current? := none
        fault? := some ("unmatched " ++ kind ++ " quote; by default quotes are special to xargs " ++
          "unless you use the -0 option").toList }
    | none => reading.close
  | reading, '\\' :: char :: rest =>
    match quote? with
    | some _ => scan rules quote? false (reading.put '\\') (char :: rest)
    | none => scan rules none false (reading.put char) rest
  | reading, char :: rest =>
    match quote? with
    | some quote =>
      if char = quote then
        scan rules none false { reading with current? := some (reading.current?.getD []) } rest
      else scan rules quote? false (reading.put char) rest
    | none =>
      if char = '\n' then
        let closed := reading.close
        let next := if afterBlank && !rules.inLines then closed
          else { closed with line := reading.line + 1 }
        scan rules none false next rest
      else if char = '"' || char = '\'' then scan rules (some char) false reading rest
      else if char = ' ' || char = '\t' then
        if rules.inLines && reading.current?.isSome then
          scan rules none true (reading.put char) rest
        else scan rules none true (if rules.inLines then reading else reading.close) rest
      else scan rules none false (reading.put char) rest

end ItemReading

/-- The items of a text with the numbers of their lines, and what is wrong with it. -/
def itemsOf (rules : ItemRules) (text : Text) : List (Text × Nat) × Option Text :=
  match rules.divider? with
  | some divider =>
    let parts := Text.splitAt divider text
    let parts := if parts.getLast? = some [] then parts.dropLast else parts
    (parts.zipIdx, none)
  | none =>
    let reading := ItemReading.scan rules none false {} text
    (reading.items.reverse, reading.fault?)

/-- Items in groups of so many, of which there are at most a given number. -/
def grouped {α : Type} : Nat → Nat → List α → List (List α)
  | 0, _, _ => []
  | _, _, [] => []
  | count + 1, size, items => items.take size :: grouped count size (items.drop size)

/-- Text with another one in place of each occurrence of a mark. -/
def filledIn (mark item : Text) : Nat → Text → Text
  | 0, text => text
  | _, [] => []
  | count + 1, char :: rest =>
    if mark.isPrefixOf (char :: rest) && !mark.isEmpty then
      item ++ filledIn mark item count ((char :: rest).drop mark.length)
    else char :: filledIn mark item count rest

/-- A number of at least one that an option of `xargs` is given. -/
def atLeastOne (letter : Char) (text : Text) : Tool Nat := do
  match integer? text with
  | none =>
    complain ("invalid number \"".toList ++ text ++ "\" for -".toList ++ letter ::
      " option".toList)
    suggestHelp 1
  | some value =>
    if value < 1 then
      complain ("value ".toList ++ text ++ " for -".toList ++ letter ::
        " option should be >= 1".toList)
      suggestHelp 1
    else pure value.toNat

/-- The options of `xargs`. -/
def batchOptions : List OptionForm :=
  [.flag "0" "null", .valued "a" "arg-file", .valued "d" "delimiter", .valued "E" "",
    .loose "e" "eof", .valued "I" "", .loose "i" "replace", .valued "L" "", .loose "l" "max-lines",
    .valued "n" "max-args", .flag "o" "open-tty", .valued "P" "max-procs",
    .flag "p" "interactive", .flag "r" "no-run-if-empty", .valued "s" "max-chars",
    .flag "t" "verbose", .flag "x" "exit", .flag "" "show-limits",
    .valued "" "process-slot-var"]

/-- What `xargs` is asked to run. -/
def xargs (arguments : List Text) : Tool Batches := do
  let (given, operands) ← Options.parse batchOptions arguments 1 false
  let command := if operands.isEmpty then ["echo".toList] else operands
  let numberOf := fun (letter : Char) (value : Option Text) => value.mapM (atLeastOne letter)
  let mostItems ← numberOf 'n' (given.last? "max-args")
  let mostLines ← numberOf 'L' ((given.last? "L").or ((given.last? "max-lines").map fun text =>
    if text.isEmpty then ['1'] else text))
  let mark? := (given.last? "I").or ((given.last? "replace").map fun text =>
    if text.isEmpty then "\x7b\x7d".toList else text)
  let divider? := if given.has "null" then some '\x00'
    else (given.last? "delimiter").map fun text =>
      if text = "\\n".toList then '\n' else if text = "\\t".toList then '\t'
      else if text = "\\0".toList then '\x00' else text.head?.getD '\n'
  let text ← match given.last? "arg-file" with
    | none => takeInput
    | some path => do
      match ← read path with
      | .ok text => pure text
      | .error reason =>
        fail 1 ("Cannot open input file ".toList ++ Quoting.word path ++ ": ".toList ++
          plainReason reason)
  let (items, fault?) := itemsOf { divider?, inLines := mark?.isSome } text
  let items := match (given.last? "E").or (given.last? "eof") with
    | some last => if last.isEmpty then items else items.takeWhile fun item => item.1 != last
    | none => items
  let plain := items.map Prod.fst
  let tells := given.has "verbose"
  match mark? with
  | some mark =>
    let commands := plain.map fun item =>
      command.map fun word => filledIn mark item word.length word
    pure { commands, tells, fault? }
  | none =>
    let groups := match mostItems, mostLines with
      | some size, _ => grouped plain.length size plain
      | none, some size =>
        let lines := items.splitBy fun first second => first.2 == second.2
        (grouped lines.length size (lines.map fun line => line.map Prod.fst)).map List.flatten
      | none, none => if plain.isEmpty then [] else [plain]
    let groups := if groups.isEmpty && !given.has "no-run-if-empty" && fault?.isNone then [[]]
      else groups
    pure { commands := groups.map fun group => command ++ group, tells, fault? }

end Tool

end ComponentSchema.Script
