import ComponentSchema.Script.Tool.Streams

/-!
Tools that fit lines into columns: they break long lines, and put blanks in place of tabs or tabs in
place of blanks.
-/

namespace ComponentSchema.Script.Tool

/-! ## Breaking lines -/

/-- How lines are broken. -/
structure Folding where
  width : Nat
  /-- Whether each byte takes one column. -/
  inBytes : Bool
  /-- Whether lines are rather broken behind blanks. -/
  atBlanks : Bool

def Folding.columnAfter (folding : Folding) (column : Nat) (char : Char) : Nat :=
  if folding.inBytes then column + 1
  else if char = '\x08' then column - 1
  else if char = '\r' then 0
  else if char = '\t' then column + (8 - column % 8)
  else column + 1

/-- What is shown of a line that is broken, and the part that is not yet, both last character
first. -/
structure Folded where
  shown : Text := []
  current : Text := []

/-- The column behind the open part. -/
def Folding.columnOf (folding : Folding) (reversed : Text) : Nat :=
  reversed.reverse.foldl folding.columnAfter 0

/-- Adds a character to a line that is broken where it gets too long; it is tried so often. -/
def Folding.add (folding : Folding) : Nat → Folded → Char → Folded
  | 0, folded, char => { folded with current := char :: folded.current }
  | count + 1, folded, char =>
    let column := folding.columnAfter (folding.columnOf folded.current) char
    if column ≤ folding.width then { folded with current := char :: folded.current }
    else
      let kept := folded.current.takeWhile fun char => char != ' ' && char != '\t'
      let front := folded.current.drop kept.length
      if folding.atBlanks && !front.isEmpty then
        folding.add count ⟨'\n' :: front ++ folded.shown, kept⟩ char
      else if folded.current.isEmpty then { folded with current := [char] }
      else folding.add count ⟨'\n' :: folded.current ++ folded.shown, []⟩ char

/-- A line broken where it is too long. -/
def Folding.line (folding : Folding) (line : Text) : Text :=
  let folded := line.foldl (folding.add (line.length + 2)) {}
  (folded.current ++ folded.shown).reverse

/-- Prints what becomes of the lines of each file, which are told apart from their ends. -/
def onEachLine (work : Text → Text) (operands : List Text) : Tool Nat :=
  onEach (fun path => do
    match ← read path with
    | .error reason => rejected (Quoting.ifNeeded path ++ ": ".toList ++ plainReason reason)
    | .ok text => do
      for line in linesWithEnds text do
        let body := line.takeWhile (· != '\n')
        print (work body ++ line.drop body.length)
      pure true) (if operands.isEmpty then [['-']] else operands)

/-- An old way to tell a number: the digits right behind a hyphen, in place of an option. -/
def oldNumber (option : Text) (arguments : List Text) : List Text :=
  arguments.map fun argument =>
    match argument with
    | '-' :: digits =>
      if digits.head?.any Char.isDigit then option ++ digits else argument
    | _ => argument

/-- Breaks long lines. -/
def fold : Program := fun arguments => do
  let (given, operands) ← Options.usual
    [.flag "b" "bytes", .flag "s" "spaces", .valued "w" "width"] (oldNumber "-w".toList arguments)
  let width ← match given.last? "width" with
    | none => pure 80
    | some text =>
      match (Text.number? text).filter (0 < ·) with
      | some width => pure width
      | none => fail 1 ("invalid number of columns: ".toList ++ Quoting.word text)
  let folding : Folding := { width, inBytes := given.has "bytes", atBlanks := given.has "spaces" }
  onEachLine folding.line operands

/-! ## Tabs -/

/-- The columns that tabs lead to. -/
structure TabStops where
  columns : List Nat := []
  /-- The distance of the stops behind those columns, if there are any. -/
  step? : Option Nat := some 8
  /-- Whether these stops are counted from the last of the columns. -/
  fromLast : Bool := false

def TabStops.next? (stops : TabStops) (column : Nat) : Option Nat :=
  match stops.columns.find? (column < ·) with
  | some stop => some stop
  | none => stops.step?.map fun step =>
      let base := if stops.fromLast then (stops.columns.getLast?).getD 0 else 0
      column + (step - (column - base) % step)

def inOrder : List Nat → Bool
  | first :: second :: rest => first < second && inOrder (second :: rest)
  | _ => true

/-- The stops that the arguments of options tell. -/
def tabStopsOf (texts : List Text) : Tool TabStops := do
  let parts := (texts.flatMap fun text =>
    Text.splitAt ',' (text.map fun char => if char = ' ' || char = '\t' then ',' else char)).filter
      fun part => !part.isEmpty
  let read ← parts.mapM fun part => do
    let (mark, digits) := match part with
      | '/' :: rest => (some '/', rest)
      | '+' :: rest => (some '+', rest)
      | rest => (none, rest)
    match Text.number? digits with
    | some number => pure (mark, number)
    | none =>
      fail 1 ("tab size contains invalid character(s): ".toList ++
        Quoting.word (digits.dropWhile Char.isDigit))
  let columns := (read.filter fun entry => entry.1.isNone).map Prod.snd
  if columns.contains 0 then fail 1 "tab size cannot be 0".toList
  if !inOrder columns then fail 1 "tab sizes must be ascending".toList
  match read.find? fun entry => entry.1.isSome, columns with
  | some (mark, step), columns =>
    pure { columns, step? := some (max step 1), fromLast := mark == some '+' }
  | none, [] => pure {}
  | none, [step] => pure { step? := some step }
  | none, columns => pure { columns, step? := none }

/-- Puts blanks in place of the tabs of a line, or only of those in front. -/
def expandedFrom (stops : TabStops) (onlyFront : Bool) : Nat → Text → Text
  | _, [] => []
  | column, char :: rest =>
    if char = '\t' then
      let stop := (stops.next? column).getD (column + 1)
      List.replicate (stop - column) ' ' ++ expandedFrom stops onlyFront stop rest
    else if char = '\x08' then char :: expandedFrom stops onlyFront (column - 1) rest
    else if onlyFront && char != ' ' then char :: rest
    else char :: expandedFrom stops onlyFront (column + 1) rest

/-- Puts blanks in place of tabs. -/
def expand : Program := fun arguments => do
  let (given, operands) ← Options.usual [.flag "i" "initial", .valued "t" "tabs"]
    (oldNumber "-t".toList arguments)
  let stops ← tabStopsOf ((given.filter fun option => option.1 == "tabs").map Prod.snd)
  onEachLine (expandedFrom stops (given.has "initial") 0) operands

/-- How far tabs were put in place of the blanks of a line. -/
structure Tabbing where
  column : Nat := 0
  /-- Blanks that may become a tab, last first. -/
  pending : Text := []
  /-- Whether a single blank in front of a stop is among them. -/
  hasSingle : Bool := false
  afterBlank : Bool := false
  /-- Whether blanks still become tabs. -/
  converts : Bool := true
  /-- What was shown, last character first. -/
  shown : Text := []

/-- Shows the blanks that wait. -/
def Tabbing.release (tabbing : Tabbing) : Tabbing :=
  let blanks := tabbing.pending.reverse
  let blanks := if 1 < blanks.length && tabbing.hasSingle then '\t' :: blanks.tail else blanks
  { tabbing with
    pending := [], hasSingle := if blanks.isEmpty then tabbing.hasSingle else false
    shown := blanks.reverse ++ tabbing.shown }

/-- Shows a character behind the blanks that wait. -/
def Tabbing.put (tabbing : Tabbing) (wholeLine isBlank : Bool) (char : Char) : Tabbing :=
  let after := tabbing.release
  { after with
    shown := char :: after.shown, afterBlank := isBlank
    converts := after.converts && (wholeLine || isBlank) }

def Tabbing.step (stops : TabStops) (wholeLine : Bool) (tabbing : Tabbing) (char : Char) :
    Tabbing :=
  if !tabbing.converts then { tabbing with shown := char :: tabbing.shown }
  else if char = ' ' || char = '\t' then
    match stops.next? tabbing.column with
    | none => { tabbing with converts := false }.put wholeLine true char
    | some stop =>
      if char = '\t' then
        let pending := if tabbing.hasSingle then ['\t'] else []
        { tabbing with column := stop, pending }.put wholeLine true '\t'
      else
        let column := tabbing.column + 1
        if tabbing.afterBlank && column = stop then
          let pending := if tabbing.hasSingle then ['\t'] else []
          { tabbing with column, pending }.put wholeLine true '\t'
        else
          { tabbing with
            column, pending := char :: tabbing.pending, afterBlank := true
            hasSingle := tabbing.hasSingle || column = stop }
  else
    let column := if char = '\x08' then tabbing.column - 1 else tabbing.column + 1
    { tabbing with column }.put wholeLine false char

/-- Puts tabs in place of blanks of a line. -/
def tabbedLine (stops : TabStops) (wholeLine : Bool) (line : Text) : Text :=
  (line.foldl (Tabbing.step stops wholeLine) {}).release.shown.reverse

/-- Puts tabs in place of blanks. -/
def unexpand : Program := fun arguments => do
  let (given, operands) ← Options.usual
    [.flag "a" "all", .flag "" "first-only", .valued "t" "tabs"] (oldNumber "-t".toList arguments)
  let stops ← tabStopsOf ((given.filter fun option => option.1 == "tabs").map Prod.snd)
  let wholeLine := (given.has "all" || given.has "tabs") && !given.has "first-only"
  onEachLine (tabbedLine stops wholeLine) operands

end ComponentSchema.Script.Tool
