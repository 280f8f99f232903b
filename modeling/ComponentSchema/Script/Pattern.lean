import ComponentSchema.Script.Text

/-!
Patterns of scripts: an asterisk stands for any text, a question mark for any character, and
brackets for one of the characters in them.  A backslash takes the meaning of what follows away.
-/

namespace ComponentSchema.Script

/-- Something between brackets. -/
inductive BracketItem where
  | range (low high : Char)
  | named (test : Char → Bool)

/-- A piece of a pattern. -/
inductive PatternItem where
  | literal (char : Char)
  | anyChar
  | anyText
  /-- A character that some item fits, or none of them. -/
  | oneOf (negated : Bool) (items : List BracketItem)

namespace Pattern

/-- The classes that may be named between brackets. -/
def classes : List (String × (Char → Bool)) :=
  [("alpha", Char.isAlpha), ("digit", Char.isDigit), ("alnum", Char.isAlphanum),
    ("upper", Char.isUpper), ("lower", Char.isLower),
    ("space", fun char => char == ' ' || ('\t' ≤ char && char ≤ '\r')),
    ("blank", fun char => char == ' ' || char == '\t'),
    ("punct", fun char => '!' ≤ char && char ≤ '~' && !char.isAlphanum),
    ("print", fun char => ' ' ≤ char && char ≤ '~'),
    ("graph", fun char => '!' ≤ char && char ≤ '~'),
    ("cntrl", fun char => char < ' ' || char == '\x7f'),
    ("xdigit", fun char =>
      char.isDigit || ('a' ≤ char && char ≤ 'f') || ('A' ≤ char && char ≤ 'F'))]

/-- A class behind its opening bracket, and what follows. -/
def scanClass (text : Text) : Option (BracketItem × Text) :=
  match text with
  | ':' :: rest =>
    let name := rest.takeWhile Char.isAlpha
    match rest.drop name.length with
    | ':' :: ']' :: rest =>
      (classes.lookup (String.ofList name)).map fun test => (.named test, rest)
    | _ => none
  | _ => none

/-- A character that may be escaped, and what follows. -/
def scanChar : Text → Option (Char × Text)
  | '\\' :: char :: rest => some (char, rest)
  | char :: rest => some (char, rest)
  | [] => none

def scanItem (text : Text) : Option (BracketItem × Text) :=
  match text with
  | [] => none
  | first :: rest =>
    match if first = '[' then scanClass rest else none with
    | some scanned => some scanned
    | none => do
      let (low, rest) ← scanChar text
      match rest with
      | '-' :: next :: _ =>
        if next = ']' then some (.range low low, rest)
        else (scanChar (rest.drop 1)).map fun scanned => (.range low scanned.1, scanned.2)
      | _ => some (.range low low, rest)

/-- The items up to the closing bracket, of which there are at most so many; a bracket right at the
start does not close. -/
def scanItems : Nat → Text → Option (List BracketItem × Text)
  | 0, _ => none
  | count + 1, text => do
    let (item, rest) ← scanItem text
    match rest with
    | ']' :: rest => some ([item], rest)
    | _ => (scanItems count rest).map fun scanned => (item :: scanned.1, scanned.2)

def scanBrackets (text : Text) : Option (PatternItem × Text) :=
  match text with
  | '!' :: rest =>
    (scanItems rest.length rest).map fun scanned => (.oneOf true scanned.1, scanned.2)
  | rest => (scanItems rest.length rest).map fun scanned => (.oneOf false scanned.1, scanned.2)

def itemsFrom : Nat → Text → List PatternItem
  | 0, _ => []
  | _, [] => []
  | count + 1, char :: rest =>
    if char = '*' then .anyText :: itemsFrom count rest
    else if char = '?' then .anyChar :: itemsFrom count rest
    else if char = '[' then
      match scanBrackets rest with
      | some (item, rest) => item :: itemsFrom count rest
      | none => .literal char :: itemsFrom count rest
    else if char = '\\' then
      match rest with
      | [] => [.literal char]
      | next :: rest => .literal next :: itemsFrom count rest
    else .literal char :: itemsFrom count rest

def items (pattern : Text) : List PatternItem := itemsFrom pattern.length pattern

/-- Whether something between brackets fits a character. -/
def BracketItem.fits (item : BracketItem) (char : Char) : Bool :=
  match item with
  | .range low high => low ≤ char && char ≤ high
  | .named test => test char

def fits (item : PatternItem) (char : Char) : Bool :=
  match item with
  | .literal expected => expected == char
  | .anyChar => true
  | .anyText => false
  | .oneOf negated items => (items.any fun item => BracketItem.fits item char) != negated

/-- Marks each place at or behind a marked one. -/
def spread : Bool → List Bool → List Bool
  | _, [] => []
  | seen, place :: rest => (seen || place) :: spread (seen || place) rest

/-- The places in a text that an item can lead to from marked ones; there is one in front of each
character and one behind the last. -/
def advance (text : Text) (places : List Bool) (item : PatternItem) : List Bool :=
  match item with
  | .anyText => spread false places
  | item => false :: places.zipWith (fun place char => place && fits item char) text

def fitsItems (items : List PatternItem) (text : Text) : Bool :=
  let start := true :: List.replicate text.length false
  ((items.foldl (advance text) start).getLast?).getD false

def fitsText (pattern text : Text) : Bool := fitsItems (items pattern) text

/-- The shortest or longest number of characters, among none to all, that passes a test. -/
def count? (longest : Bool) (length : Nat) (test : Nat → Bool) : Option Nat :=
  let counts := List.range (length + 1)
  (if longest then counts.reverse else counts).find? test

def trimFront (longest : Bool) (pattern text : Text) : Text :=
  let items := items pattern
  match count? longest text.length fun count => fitsItems items (text.take count) with
  | some count => text.drop count
  | none => text

/-- Takes what a pattern stands for off the end. -/
def trimBack (longest : Bool) (pattern text : Text) : Text :=
  let items := items pattern
  match count? longest text.length fun count =>
      fitsItems items (text.drop (text.length - count)) with
  | some count => text.take (text.length - count)
  | none => text

end Pattern

end ComponentSchema.Script
