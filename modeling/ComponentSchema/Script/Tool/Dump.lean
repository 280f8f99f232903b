import ComponentSchema.Script.Tool.Streams

/-!
Showing bytes as numbers or characters, in lines that begin with the place of their first byte.
-/

namespace ComponentSchema.Script.Tool

/-! ## Forms -/

/-- How items are shown. -/
inductive ItemStyle where
  /-- Numbers with a base, filled up with zeros. -/
  | based (base : Nat)
  | decimal (signed : Bool)
  | char
  /-- Characters by their names, of which only the lower seven bits count. -/
  | named
deriving DecidableEq, Repr

/-- How bytes are shown: so many make up an item. -/
structure ItemForm where
  style : ItemStyle
  size : Nat
  /-- Whether the characters are shown behind the items. -/
  showsText : Bool := false
deriving DecidableEq, Repr

namespace ItemForm

/-- How many digits the largest number has. -/
def digits (form : ItemForm) (base : Nat) : Nat :=
  (Nat.toDigits base (Nat.pow 256 form.size - 1)).length

def width (form : ItemForm) : Nat :=
  match form.style with
  | .based base => form.digits base
  | .decimal false => form.digits 10
  | .decimal true => (Nat.toDigits 10 (Nat.pow 256 form.size / 2)).length + 1
  | .char | .named => 3

/-- The names of the characters that cannot be seen. -/
def names : List String :=
  ["nul", "soh", "stx", "etx", "eot", "enq", "ack", "bel", "bs", "ht", "nl", "vt", "ff", "cr", "so",
    "si", "dle", "dc1", "dc2", "dc3", "dc4", "nak", "syn", "etb", "can", "em", "sub", "esc", "fs",
    "gs", "rs", "us", "sp"]

/-- A character as it is shown. -/
def charText (char : Char) : Text :=
  if char = '\x00' then ['\\', '0']
  else
    match [('\x07', 'a'), ('\x08', 'b'), ('\t', 't'), ('\n', 'n'), ('\x0b', 'v'), ('\x0c', 'f'),
        ('\r', 'r')].lookup char with
    | some letter => ['\\', letter]
    | none =>
      if ' ' ≤ char && char ≤ '~' then [char]
      else
        let digits := Nat.toDigits 8 char.toNat
        List.replicate (3 - digits.length) '0' ++ digits

def text (form : ItemForm) (bytes : Text) : Text :=
  let value := bytes.foldr (fun char value => 256 * value + char.toNat) 0
  match form.style with
  | .based base =>
    let digits := Nat.toDigits base value
    List.replicate (form.digits base - digits.length) '0' ++ digits
  | .decimal false => Text.ofNat value
  | .decimal true =>
    let limit := Nat.pow 256 form.size
    if limit / 2 ≤ value then '-' :: Text.ofNat (limit - value) else Text.ofNat value
  | .char => charText (bytes.headD '\x00')
  | .named =>
    let code := (bytes.headD '\x00').toNat % 128
    if code = 127 then "del".toList
    else ((names[code]?).map String.toList).getD [Char.ofNat code]

/-- The items of bytes, the last of which is filled up with zeros; there are at most so many. -/
def items (form : ItemForm) : Nat → Text → List Text
  | 0, _ => []
  | _, [] => []
  | count + 1, bytes =>
    let item := bytes.take form.size
    form.text (item ++ List.replicate (form.size - item.length) '\x00') ::
      form.items count (bytes.drop form.size)

/-- The numbers of bytes that letters stand for. -/
def sizes : List (Char × Nat) := [('C', 1), ('S', 2), ('I', 4), ('L', 8)]

/-- What can be wrong with forms. -/
inductive Fault where
  | unknown (char : Char)
  | size (size : Nat)

/-- The number of bytes in front of a text, and what follows. -/
def scanSize (text : Text) : Except Fault (Nat × Text) :=
  match text.head?.bind fun letter => sizes.lookup letter with
  | some size => .ok (size, text.tail)
  | none =>
    match scanDigits? 10 text with
    | none => .ok (4, text)
    | some (size, rest) =>
      if [1, 2, 4, 8].contains size then .ok (size, rest) else .error (.size size)

/-- The forms that a text tells; there are at most so many. -/
def scanAll : Nat → Text → Except Fault (List ItemForm)
  | 0, _ => .ok []
  | _, [] => .ok []
  | count + 1, first :: rest => do
    let style? := [('d', ItemStyle.decimal true), ('u', .decimal false), ('o', .based 8),
      ('x', .based 16), ('a', .named), ('c', .char)].lookup first
    match style? with
    | none => throw (.unknown first)
    | some style =>
      let (size, rest) ←
        if style = .named || style = .char then pure (1, rest) else scanSize rest
      let showsText := rest.head? = some 'z'
      let others ← scanAll count (if showsText then rest.tail else rest)
      pure (⟨style, size, showsText⟩ :: others)

def ofLetters : List (String × ItemForm) :=
  [("a", ⟨.named, 1, false⟩), ("b", ⟨.based 8, 1, false⟩), ("c", ⟨.char, 1, false⟩),
    ("d", ⟨.decimal false, 2, false⟩), ("i", ⟨.decimal true, 4, false⟩),
    ("l", ⟨.decimal true, 8, false⟩), ("o", ⟨.based 8, 2, false⟩),
    ("s", ⟨.decimal true, 2, false⟩), ("x", ⟨.based 16, 2, false⟩)]

end ItemForm

/-! ## Lines -/

/-- How lines of items look. -/
structure DumpForm where
  forms : List ItemForm
  /-- How many bytes a line shows. -/
  lineSize : Nat
  /-- The base of places; none if they are not shown. -/
  base? : Option Nat
  /-- Whether lines that are equal to the one in front of them are shown. -/
  showsAll : Bool

namespace DumpForm

/-- How many characters the items of a full line take. -/
def width (dump : DumpForm) : Nat :=
  (dump.forms.map fun form => (form.width + 1) * (dump.lineSize / form.size)).foldl max 0

def place (dump : DumpForm) (offset : Nat) : Text :=
  match dump.base? with
  | none => []
  | some base =>
    let digits := Nat.toDigits base offset
    List.replicate ((if base = 16 then 6 else 7) - digits.length) '0' ++ digits

/-- Items next to each other, spread over the width of a line; `left` is how much space is left for
them and those that are missing. -/
def spread (width count left : Nat) : Nat → List Text → Text
  | _, [] => []
  | number, item :: rest =>
    let next := left * (number - 1) / count
    let used := left * number / count
    padded (used - next + width) item ++ spread width count left (number - 1) rest

def lineIn (dump : DumpForm) (form : ItemForm) (bytes : Text) : Text :=
  let count := dump.lineSize / form.size
  let items := form.items bytes.length bytes
  let line := spread form.width count (dump.width - form.width * count) count items
  if form.showsText then
    let shown := bytes.map fun char => if ' ' ≤ char && char ≤ '~' then char else '.'
    line ++ List.replicate (dump.width - line.length) ' ' ++ "  >".toList ++ shown ++ ['<']
  else line

def lines (dump : DumpForm) (offset : Nat) (bytes : Text) : Text :=
  let front := dump.place offset
  let blank := List.replicate front.length ' '
  (dump.forms.zipIdx.flatMap fun (form, index) =>
    (if index = 0 then front else blank) ++ dump.lineIn form bytes ++ ['\n'])

/-- The line with the place behind the last byte. -/
def last (dump : DumpForm) (offset : Nat) : Text :=
  if dump.base?.isSome then dump.place offset ++ ['\n'] else []

/-- The lines that show bytes from a place on; there are at most so many.  A star stands in place of
full lines that are equal to the one in front of them. -/
def body (dump : DumpForm) : Nat → Nat → Option Text → Bool → Text → Text
  | 0, offset, _, _, _ => dump.last offset
  | _, offset, _, _, [] => dump.last offset
  | count + 1, offset, before?, isLeftOut, bytes =>
    let line := bytes.take dump.lineSize
    let rest := bytes.drop dump.lineSize
    let next := offset + line.length
    if !dump.showsAll && before? = some line && line.length = dump.lineSize then
      (if isLeftOut then [] else ['*', '\n']) ++ body dump count next before? true rest
    else dump.lines offset line ++ body dump count next (some line) false rest

end DumpForm

/-- A number of bytes, which may be told with a base and a letter that multiplies it. -/
def byteCount? (text : Text) : Option Nat :=
  match scanMarkedDigits? text with
  | some (value, []) => some value
  | some (value, rest) => (scaledCount? ('1' :: rest)).map (value * ·)
  | none => none

/-- The number of bytes that an option tells. -/
def byteOption (given : Given) (key : String) (mark : String) : Tool (Option Nat) := do
  match given.last? key with
  | none => pure none
  | some text =>
    match byteCount? text with
    | some count => pure (some count)
    | none => fail 1 ("invalid ".toList ++ mark.toList ++ " argument ".toList ++
        Quoting.always text)

/-- The forms that options tell, in order. -/
def givenForms (given : Given) : Tool (List ItemForm) := do
  let found ← given.mapM fun (key, text) => do
    if key == "format" then
      match ItemForm.scanAll text.length text with
      | .ok forms => pure forms
      | .error (.unknown char) =>
        fail 1 ("invalid character '".toList ++ char :: "' in type string ".toList ++
          Quoting.word text)
      | .error (.size size) =>
        fail 1 ("invalid type string ".toList ++ Quoting.word text ++
          ";\nthis system doesn't provide a ".toList ++ Text.ofNat size ++
          "-byte integral type".toList)
    else pure (ItemForm.ofLetters.lookup key).toList
  pure (if found.flatten.isEmpty then [⟨.based 8, 2, false⟩] else found.flatten)

/-- Shows the bytes of files. -/
def od : Program := fun arguments => do
  let (given, operands) ← Options.usual
    ((ItemForm.ofLetters.map fun entry => .flag entry.1 "") ++
      [.valued "A" "address-radix", .valued "" "endian", .valued "j" "skip-bytes",
        .valued "N" "read-bytes", .valued "t" "format", .flag "v" "output-duplicates",
        .loose "w" "width", .loose "S" "strings", .flag "" "traditional"]) arguments
  let base? ← match given.last? "address-radix" with
    | none => pure (some 8)
    | some text =>
      match text.head? with
      | some 'd' => pure (some 10)
      | some 'o' => pure (some 8)
      | some 'x' => pure (some 16)
      | some 'n' => pure none
      | _ => fail 1 ("invalid output address radix '".toList ++ text.take 1 ++
          "'; it must be one character from [doxn]".toList)
  let skipped := (← byteOption given "skip-bytes" "-j").getD 0
  let most? ← byteOption given "read-bytes" "-N"
  let forms ← givenForms given
  let unit := (forms.map ItemForm.size).foldl max 1
  let lineSize ← match given.last? "width" with
    | none => pure 16
    | some [] => pure 32
    | some text =>
      match (byteCount? text).filter (0 < ·) with
      | none => fail 1 ("invalid -w argument ".toList ++ Quoting.always text)
      | some size =>
        if size % unit = 0 then pure size
        else do
          complain ("warning: invalid width ".toList ++ Text.ofNat size ++ "; using ".toList ++
            Text.ofNat unit ++ " instead".toList)
          pure unit
  let texts ← (if operands.isEmpty then [['-']] else operands).mapM fun path => do
    match ← read path with
    | .ok text => pure (some text, true)
    | .error reason => do
      complain (Quoting.ifNeeded path ++ ": ".toList ++ plainReason reason)
      pure (if reason = .isDirectory then some [] else none, false)
  let all := (texts.filterMap Prod.fst).flatten
  if all.length < skipped then fail 1 "cannot skip past end of combined input".toList
  let bytes := (all.drop skipped).take (most?.getD all.length)
  let dump : DumpForm := { forms, lineSize, base?, showsAll := given.has "output-duplicates" }
  if texts.any fun entry => entry.1.isSome then
    print (dump.body (bytes.length + 1) skipped none false bytes)
  pure (if texts.all Prod.snd then 0 else 1)

end ComponentSchema.Script.Tool
