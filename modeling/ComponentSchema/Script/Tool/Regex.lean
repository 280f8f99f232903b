import ComponentSchema.Script.Pattern
import ComponentSchema.Script.Number

/-!
Regular expressions, in their basic and their extended form.  Of the matches that begin furthest in
front the longest one counts, and each part of it is as long as it can be.
-/

namespace ComponentSchema.Script

/-- A regular expression. -/
inductive Regex where
  | empty
  | literal (char : Char)
  | any
  /-- A character that some item fits, or none of them. -/
  | oneOf (negated : Bool) (items : List BracketItem)
  | lineStart
  | lineEnd
  /-- A place between a character of a word and another one, or where a word begins or ends. -/
  | wordEdge (begins ends : Bool)
  | noWordEdge
  | group (index : Nat) (inner : Regex)
  | sequence (first second : Regex)
  | either (first second : Regex)
  | repeated (inner : Regex) (least : Nat) (most : Option Nat)
  /-- What a group has matched. -/
  | again (index : Nat)

/-- How an expression is written. -/
inductive RegexForm where
  | basic
  | extended
  /-- The extended form where what makes no sense stands for itself. -/
  | lenient
deriving DecidableEq, Repr

/-- What can be wrong with a regular expression. -/
inductive RegexFault where
  | openGroup | openClose | openBracket | openBrace | badBrace | badReference | trailing
  | nothingRepeated | badClass
deriving DecidableEq, Repr

def RegexFault.message : RegexFault → String
  | .openGroup => "Unmatched ( or \\("
  | .openClose => "Unmatched ) or \\)"
  | .openBracket => "Unmatched [, [^, [:, [., or [="
  | .openBrace => "Unmatched \\\x7b"
  | .badBrace => "Invalid content of \\\x7b\\\x7d"
  | .badReference => "Invalid back reference"
  | .trailing => "Trailing backslash"
  | .nothingRepeated => "Invalid preceding regular expression"
  | .badClass => "Invalid character class name"

namespace Regex

/-! ## Reading -/

/-- Where the reading of an expression stands. -/
structure Source where
  rest : Text
  form : RegexForm
  /-- How many groups were begun. -/
  groups : Nat := 0
  /-- The groups that were ended. -/
  closed : List Nat := []
  depth : Nat := 0

def Source.extended (source : Source) : Bool := source.form != .basic

/-- A step of reading. -/
abbrev Step (α : Type) := StateT Source (Except RegexFault) α

/-- Drops some characters. -/
def skip (count : Nat) : Step Unit := modify fun source =>
  { source with rest := source.rest.drop count }

def isNext (text : String) : Step Bool := do pure (text.toList.isPrefixOf (← get).rest)

/-- Whether a mark comes next, which the basic form writes with a backslash. -/
def isMark (char : Char) : Step Bool := do
  let source ← get
  pure ((if source.extended then [char] else ['\\', char]).isPrefixOf source.rest)

def skipMark : Step Unit := do skip (if (← get).extended then 1 else 2)

def isWordChar (char : Char) : Bool := char.isAlphanum || char == '_'

/-- The items between brackets, up to the closing one, which there has to be; there are at most so
many. -/
def bracketItems : Nat → Text → Except RegexFault (List BracketItem × Text)
  | 0, _ => .error .openBracket
  | _, [] => .error .openBracket
  | count + 1, first :: rest => do
    let (item, rest) ←
      match first, rest with
      | '[', ':' :: inner => do
        let name := inner.takeWhile (· != ':')
        match inner.drop name.length with
        | ':' :: ']' :: rest =>
          match Pattern.classes.lookup (String.ofList name) with
          | some test => pure (BracketItem.named test, rest)
          | none => throw .badClass
        | _ => throw .openBracket
      | '[', mark :: char :: next :: ']' :: others =>
        if (mark = '.' || mark = '=') && next = mark then pure (.range char char, others)
        else pure (.range '[' '[', rest)
      | low, '-' :: high :: others =>
        if high = ']' then pure (.range low low, rest) else pure (.range low high, others)
      | char, rest => pure (.range char char, rest)
    match rest with
    | ']' :: rest => pure ([item], rest)
    | rest => do
      let (items, rest) ← bracketItems count rest
      pure (item :: items, rest)

/-- A set of characters behind its opening bracket. -/
def brackets : Step Regex := do
  let source ← get
  let (negated, text) := match source.rest with
    | '^' :: rest => (true, rest)
    | rest => (false, rest)
  let (items, rest) ← bracketItems text.length text
  set { source with rest }
  pure (.oneOf negated items)

/-- How often something is repeated, if a mark tells; an interval has to end. -/
def repetition? : Step (Option (Nat × Option Nat)) := do
  if ← isNext "*" then
    skip 1
    pure (some (0, none))
  else if ← isMark '+' then
    skipMark
    pure (some (1, none))
  else if ← isMark '?' then
    skipMark
    pure (some (0, some 1))
  else if ← isMark '\x7b' then
    let source ← get
    let inner := source.rest.drop (if source.extended then 1 else 2)
    let least := inner.takeWhile Char.isDigit
    let rest := inner.drop least.length
    let (isList, most, rest) := match rest with
      | ',' :: more =>
        let most := more.takeWhile Char.isDigit
        (true, most, more.drop most.length)
      | rest => (false, [], rest)
    let closing := if source.extended then ['\x7d'] else ['\\', '\x7d']
    let isOpen := !closing.isPrefixOf rest
    if source.form = .lenient && (isOpen || (least.isEmpty && !isList)) then pure none
    else if isOpen || (least.isEmpty && !isList) then
      throw (if rest.isEmpty then .openBrace else .badBrace)
    else
      let low := Digits.decimalValue least
      let high :=
        if !isList then some low else if most.isEmpty then none else some (Digits.decimalValue most)
      if high.any (· < low) then throw .badBrace
      set { source with rest := rest.drop closing.length }
      pure (some (low, high))
  else pure none

/-- Repeats an expression as often as marks tell, of which there are at most so many. -/
def repeatedAs (inner : Regex) : Nat → Step Regex
  | 0 => pure inner
  | count + 1 => do
    match ← repetition? with
    | some (least, most) => repeatedAs (.repeated inner least most) count
    | none => pure inner

/-- What a letter behind a backslash stands for, if it has a meaning of its own. -/
def letterItem? (letter : Char) : Option Regex :=
  match letter with
  | 'w' => some (.oneOf false [.named isWordChar])
  | 'W' => some (.oneOf true [.named isWordChar])
  | 's' => some (.oneOf false [.named isNumberBlank])
  | 'S' => some (.oneOf true [.named isNumberBlank])
  | 'b' => some (.wordEdge true true)
  | 'B' => some .noWordEdge
  | '<' => some (.wordEdge true false)
  | '>' => some (.wordEdge false true)
  | '\x60' => some .lineStart
  | '\'' => some .lineEnd
  | 'n' => some (.literal '\n')
  | 't' => some (.literal '\t')
  | _ => none

/-- Whether a dollar sign that comes next is at the end of an expression or of a part of one. -/
def endsHere : Step Bool := do
  let source ← get
  let rest := source.rest.tail
  pure (rest.isEmpty || (if source.extended then ['|', ')'] else []).any (rest.head? == some ·) ||
    (!source.extended && (['\\', '|'].isPrefixOf rest || ['\\', ')'].isPrefixOf rest)) ||
    source.extended)

mutual

/-- Expressions of which one has to match. -/
def choice : Nat → Step Regex
  | 0 => pure .empty
  | fuel + 1 => do
    let first ← items .empty true fuel
    if ← isMark '|' then
      skipMark
      pure (.either first (← choice fuel))
    else pure first

/-- Expressions one after the other, behind those that were read already. -/
def items (before : Regex) (atStart : Bool) : Nat → Step Regex
  | 0 => pure before
  | fuel + 1 => do
    let source ← get
    if source.rest.isEmpty || (← isMark '|') then pure before
    else if (← isMark ')') && (0 < source.depth || source.form != .lenient) then
      if source.depth = 0 then throw .openClose else pure before
    else
      let (item, isAnchor) ← single atStart fuel
      let whole ←
        if isAnchor && !source.extended then pure item
        else repeatedAs item ((← get).rest.length + 1)
      items (.sequence before whole) (isAnchor && !source.extended) fuel

/-- One expression, and whether it is the start of a line. -/
def single (atStart : Bool) : Nat → Step (Regex × Bool)
  | 0 => pure (.empty, false)
  | fuel + 1 => do
    let source ← get
    match source.rest with
    | [] => pure (.empty, false)
    | first :: rest =>
      if ← isMark '(' then
        skipMark
        let index := source.groups + 1
        modify fun source => { source with groups := index, depth := source.depth + 1 }
        let inner ← choice fuel
        if !(← isMark ')') then throw .openGroup
        skipMark
        modify fun source =>
          { source with depth := source.depth - 1, closed := index :: source.closed }
        pure (.group index inner, false)
      else if first = '\\' then
        match rest with
        | [] => throw .trailing
        | next :: _ =>
          skip 2
          if '1' ≤ next && next ≤ '9' then
            let index := next.toNat - '0'.toNat
            if source.closed.contains index then pure (.again index, false)
            else throw .badReference
          else if !source.extended && next = '\x7b' then
            if atStart then throw .nothingRepeated else pure (.literal next, false)
          else pure ((letterItem? next).getD (.literal next), false)
      else
        let ends ← endsHere
        skip 1
        if first = '[' then pure (← brackets, false)
        else if first = '.' then pure (.any, false)
        else if first = '^' && (source.extended || atStart) then pure (.lineStart, true)
        else if first = '$' && ends then pure (.lineEnd, false)
        else if source.extended && atStart && ['*', '+', '?', '\x7b'].contains first then
          if source.form = .extended then throw .nothingRepeated
          set source
          pure (.empty, false)
        else pure (.literal first, false)

end

/-- Reads an expression, and tells how many groups it has. -/
def parse (form : RegexForm) (text : Text) : Except RegexFault (Regex × Nat) := do
  let (regex, source) ← (choice (8 * text.length + 8)).run { rest := text, form }
  if source.rest.isEmpty then pure (regex, source.groups) else throw .openClose

/-- The marks of repetitions in an extended expression that have nothing in front of them; there are
at most so many characters, and the place may be a start. -/
def leadingMarks (atStart : Bool) : Nat → Text → List String
  | 0, _ => []
  | _, [] => []
  | count + 1, char :: rest =>
    match char with
    | '\\' => leadingMarks false count rest.tail
    | '(' | '|' | '^' => leadingMarks true count rest
    | '[' =>
      let inner := rest.drop (if rest.head? = some '^' then 2 else 1)
      leadingMarks false count (inner.dropWhile (· != ']')).tail
    | '*' | '+' | '?' =>
      if atStart then String.ofList [char] :: leadingMarks true count rest
      else leadingMarks false count rest
    | '\x7b' =>
      let isInterval := (rest.takeWhile fun char => char.isDigit || char == ',').length <
        rest.length && (rest.dropWhile fun char => char.isDigit || char == ',').head? = some '\x7d'
      if atStart && isInterval then
        "\x7b...\x7d" :: leadingMarks true count (rest.dropWhile (· != '\x7d')).tail
      else leadingMarks false count rest
    | _ => leadingMarks false count rest

/-! ## Matching -/

/-- What an expression is matched with. -/
structure Subject where
  chars : Array Char
  /-- Whether small and capital letters are the same. -/
  folds : Bool
  /-- Whether lines inside the text have a start and an end too. -/
  multiline : Bool := false

/-- A place in a text, and where groups have matched. -/
structure Place where
  index : Nat
  groups : List (Nat × Nat × Nat) := []
deriving DecidableEq, Repr

def Subject.isWordAt (subject : Subject) (index : Nat) : Bool :=
  (subject.chars[index]?).any isWordChar

/-- Whether a character in front of a place is one of a word. -/
def Subject.isWordBefore (subject : Subject) (index : Nat) : Bool :=
  index > 0 && subject.isWordAt (index - 1)

/-- Keeps the first of the places with one index. -/
def distinct (places : List Place) : List Place :=
  (places.foldl (fun (kept : List Place) place =>
    if kept.any (·.index == place.index) then kept else place :: kept) []).reverse

def furthestFirst (places : List Place) : List Place :=
  distinct (places.mergeSort fun first second => second.index ≤ first.index)

/-- The places that repeated steps lead to from some places; there are at most so many steps. -/
def iterate (step : Place → List Place) (most : Option Nat) :
    Nat → Nat → Nat → List Place → List Place → List Place
  | 0, _, _, _, reached => reached
  | count + 1, done, least, current, reached =>
    let reached := if least ≤ done then distinct (reached ++ current) else reached
    if most.any (· ≤ done) then reached
    else
      let next := distinct (current.flatMap step)
      let fresh :=
        if least ≤ done then
          next.filter fun place => !reached.any fun other => other.index == place.index
        else next
      if fresh.isEmpty then reached else iterate step most count (done + 1) least fresh reached

/-- Whether a character fits another one. -/
def Subject.same (subject : Subject) (first second : Char) : Bool :=
  first == second || (subject.folds && first.toLower == second.toLower)

def Subject.matched (subject : Subject) (place : Place) (index : Nat) : Text :=
  match place.groups.lookup index with
  | some (first, last) => (subject.chars.extract first last).toList
  | none => []

def Subject.behind? (subject : Subject) (place : Place) (text : Text) : Option Place :=
  let next := (subject.chars.extract place.index (place.index + text.length)).toList
  if next.length = text.length && (next.zip text).all fun pair => subject.same pair.1 pair.2 then
    some { place with index := place.index + text.length }
  else none

/-- The places that an expression leads to from a place, those further on first. -/
def ends (subject : Subject) : Regex → Place → List Place
  | .empty, place => [place]
  | .literal char, place =>
    if (subject.chars[place.index]?).any (subject.same char) then
      [{ place with index := place.index + 1 }]
    else []
  | .any, place =>
    if place.index < subject.chars.size then [{ place with index := place.index + 1 }] else []
  | .oneOf negated items, place =>
    match subject.chars[place.index]? with
    | none => []
    | some char =>
      let fits := items.any fun item =>
        Pattern.BracketItem.fits item char ||
          (subject.folds && (Pattern.BracketItem.fits item char.toLower ||
            Pattern.BracketItem.fits item char.toUpper))
      if fits != negated then [{ place with index := place.index + 1 }] else []
  | .lineStart, place =>
    if place.index = 0 || (subject.multiline &&
        subject.chars[place.index - 1]? == some '\n') then [place] else []
  | .lineEnd, place =>
    if place.index = subject.chars.size || (subject.multiline &&
        subject.chars[place.index]? == some '\n') then [place] else []
  | .wordEdge begins stops, place =>
    let before := subject.isWordBefore place.index
    let after := subject.isWordAt place.index
    if (begins && !before && after) || (stops && before && !after) then [place] else []
  | .noWordEdge, place =>
    if subject.isWordBefore place.index == subject.isWordAt place.index then [place] else []
  | .group index inner, place =>
    (ends subject inner place).map fun after =>
      { after with groups := (index, place.index, after.index) :: after.groups }
  | .sequence first second, place =>
    distinct ((ends subject first place).flatMap fun middle => ends subject second middle)
  | .either first second, place =>
    furthestFirst (ends subject first place ++ ends subject second place)
  | .repeated inner least most, place =>
    furthestFirst (iterate (fun place => ends subject inner place) most
      (least + subject.chars.size + 2) 0 least [place] [])
  | .again index, place =>
    (subject.behind? place (subject.matched place index)).toList

def matchAt? (regex : Regex) (subject : Subject) (index : Nat) : Option Place :=
  (furthestFirst (ends subject regex ⟨index, []⟩)).head?

/-- The first match from an index on: where it begins and where it ends. -/
def find? (regex : Regex) (subject : Subject) (start : Nat) : Option (Nat × Place) :=
  (List.range (subject.chars.size + 1 - start)).findSome? fun offset =>
    (matchAt? regex subject (start + offset)).map fun place => (start + offset, place)

end Regex

end ComponentSchema.Script
