import ComponentSchema.Script.Tool.Dump

/-!
Tools for parts of files that are told by their sizes: one makes files shorter or longer, the other
copies blocks from one place to another.
-/

namespace ComponentSchema.Script.Tool

/-- The first bytes of a text, with zeros behind it where it is shorter. -/
def resized (size : Nat) (text : Text) : Text :=
  text.take size ++ List.replicate (size - text.length) '\x00'

/-! ## Sizes -/

/-- A size that is told by another one, or stands alone. -/
inductive SizeChange where
  | exactly (size : Nat)
  | more (count : Nat)
  | less (count : Nat)
  | atMost (size : Nat)
  | atLeast (size : Nat)
  | multipleBelow (unit : Nat)
  | multipleAbove (unit : Nat)

namespace SizeChange

def ofText? (text : Text) : Option SizeChange :=
  match text.dropWhile isNumberBlank with
  | '+' :: rest => (scaledCount? rest).map .more
  | '-' :: rest => (scaledCount? rest).map .less
  | '<' :: rest => (scaledCount? rest).map .atMost
  | '>' :: rest => (scaledCount? rest).map .atLeast
  | '/' :: rest => (scaledCount? rest).map .multipleBelow
  | '%' :: rest => (scaledCount? rest).map .multipleAbove
  | rest => (scaledCount? rest).map .exactly

def standsAlone : SizeChange → Bool
  | .exactly _ => true
  | _ => false

def scaled (unit : Nat) : SizeChange → SizeChange
  | .exactly size => .exactly (unit * size)
  | .more count => .more (unit * count)
  | .less count => .less (unit * count)
  | .atMost size => .atMost (unit * size)
  | .atLeast size => .atLeast (unit * size)
  | .multipleBelow size => .multipleBelow (unit * size)
  | .multipleAbove size => .multipleAbove (unit * size)

def dividesByZero : SizeChange → Bool
  | .multipleBelow 0 | .multipleAbove 0 => true
  | _ => false

def apply (size : Nat) : SizeChange → Nat
  | .exactly other => other
  | .more count => size + count
  | .less count => size - count
  | .atMost other => min size other
  | .atLeast other => max size other
  | .multipleBelow unit => size / unit * unit
  | .multipleAbove unit => (size + unit - 1) / unit * unit

end SizeChange

/-- Makes files shorter or longer. -/
def truncate : Program := fun arguments => do
  let (given, operands) ← Options.usual
    [.flag "c" "no-create", .flag "o" "io-blocks", .valued "r" "reference", .valued "s" "size"]
    arguments
  let change? ← (given.last? "size").mapM fun text => do
    match SizeChange.ofText? text with
    | some change =>
      pure (if given.has "io-blocks" then change.scaled 4096 else change)
    | none => fail 1 ("Invalid number: ".toList ++ Quoting.word text)
  if change?.any SizeChange.dividesByZero then fail 1 "division by zero".toList
  let reference := given.last? "reference"
  if change?.isNone && reference.isNone then
    refuse 1 ("you must specify either ".toList ++ Quoting.word "--size".toList ++ " or ".toList ++
      Quoting.word "--reference".toList)
  if reference.isSome && change?.any SizeChange.standsAlone then
    refuse 1 ("you must specify a relative ".toList ++ Quoting.word "--size".toList ++
      " with ".toList ++ Quoting.word "--reference".toList)
  if operands.isEmpty then refuse 1 "missing file operand".toList
  let base? ← reference.mapM fun path => do
    match ← read path with
    | .ok text => pure text.length
    | .error reason => fail 1 (problem "cannot stat " path reason)
  onEach (fun path => do
    let wording := fun (reason : IoError) =>
      "cannot open ".toList ++ Quoting.always path ++ " for writing: ".toList ++ plainReason reason
    let before ← read path
    match before with
    | .error .notFound =>
      if given.has "no-create" then pure true else write? wording path base? change? []
    | .error reason => rejected (wording reason)
    | .ok text => write? wording path base? change? text) operands
where
  /-- Writes a file with another size: whether that worked. -/
  write? (wording : IoError → Text) (path : Text) (base? : Option Nat)
      (change? : Option SizeChange) (text : Text) : Tool Bool := do
    let base := base?.getD text.length
    let size := (change?.map (SizeChange.apply base)).getD base
    match ← writeFile path (resized size text) with
    | none => pure true
    | some reason => rejected (wording reason)

/-! ## Blocks -/

/-- The operands of `dd`, by their names. -/
def copyOperands : List String :=
  ["bs", "cbs", "conv", "count", "ibs", "if", "iflag", "obs", "of", "oflag", "seek", "skip",
    "status"]

/-- The conversions that `dd` knows. -/
def conversions : List String :=
  ["ascii", "ebcdic", "ibm", "block", "unblock", "lcase", "ucase", "sparse", "swab", "sync", "excl",
    "nocreat", "notrunc", "noerror", "fdatasync", "fsync"]

/-- A number with factors between which an `x` stands. -/
def factors? (text : Text) : Option Nat :=
  ((Text.splitAt 'x' text).mapM byteFactor?).map fun factors => factors.foldl (· * ·) 1
where
  /-- A number with a letter behind it that multiplies it. -/
  byteFactor? (text : Text) : Option Nat :=
    match text.reverse with
    | 'c' :: digits => Text.number? digits.reverse
    | 'w' :: digits => (Text.number? digits.reverse).map (2 * ·)
    | _ => scaledCount? text

/-- Each two bytes in the other order. -/
def swapped : Text → Text
  | first :: second :: rest => second :: first :: swapped rest
  | rest => rest

/-- How many full blocks a length has, and whether there is a part of one behind them. -/
def blockCount (size length : Nat) : Text :=
  Text.ofNat (length / size) ++ '+' :: (if length % size = 0 then ['0'] else ['1'])

/-- What `dd` is asked to do. -/
structure BlockCopy where
  given : Given

namespace BlockCopy

/-- The numbers of an operand, which has to be one. -/
def number (copy : BlockCopy) (name : String) (usual : Nat) (isSize : Bool) : Tool Nat := do
  match copy.given.last? name with
  | none => pure usual
  | some text =>
    let trimmed := if !isSize && text.getLast? = some 'B' then text.dropLast else text
    match (factors? trimmed).filter fun value => 0 < value || !isSize with
    | some value => pure value
    | none => fail 1 ("invalid number: ".toList ++ Quoting.always text)

def converts (copy : BlockCopy) (name : String) : Bool :=
  (copy.given.filter fun option => option.1 == "conv").any fun option =>
    (Text.splitAt ',' option.2).contains name.toList

/-- Whether the number of an operand counts bytes. -/
def inBytes (copy : BlockCopy) (name flags flag : String) : Bool :=
  (copy.given.last? name).any (fun text => text.getLast? = some 'B') ||
    (copy.given.last? flags).any fun text => (Text.splitAt ',' text).contains flag.toList

def converted (copy : BlockCopy) (size : Nat) (text : Text) : Text :=
  let filled := if copy.converts "sync" then
      resized ((text.length + size - 1) / size * size) text
    else text
  let swapped := if copy.converts "swab" then swapped filled else filled
  if copy.converts "ucase" then swapped.map Char.toUpper
  else if copy.converts "lcase" then swapped.map Char.toLower
  else swapped

end BlockCopy

/-- The operands of `dd` with their values. -/
def copyOperandsOf (operands : List Text) : Tool BlockCopy := do
  let given ← operands.mapM fun operand => do
    let name := operand.takeWhile (· != '=')
    if name.length = operand.length || !copyOperands.contains (String.ofList name) then
      refuse 1 ("unrecognized operand ".toList ++ Quoting.always operand)
    pure (String.ofList name, operand.drop (name.length + 1))
  for (name, text) in given do
    if name == "conv" then
      let words := Text.splitAt ',' text
      match words.find? fun word => !conversions.contains (String.ofList word) with
      | some word => refuse 1 ("invalid conversion: ".toList ++ Quoting.word word)
      | none => pure ()
    if name == "status" then
      if !(["none", "noxfer", "progress"].contains (String.ofList text)) then
        refuse 1 ("invalid status level: ".toList ++ Quoting.word text)
  pure ⟨given⟩

/-- Writes what was copied: whether that worked. -/
def writeCopied (copy : BlockCopy) (start : Nat) (text : Text) : Tool Unit := do
  match copy.given.last? "of" with
  | none => print text
  | some path => do
    let wording := fun (reason : IoError) => problem "failed to open " path reason
    let isThere ← isThere path
    if copy.converts "nocreat" && !isThere then fail 1 (wording .notFound)
    if copy.converts "excl" && isThere then fail 1 (wording .alreadyExists)
    let before ← if isThere then
        match ← read path with
        | .ok before => pure before
        | .error reason => fail 1 (wording reason)
      else pure []
    let after := if copy.converts "notrunc" then before.drop (start + text.length) else []
    match ← writeFile path (resized start before ++ text ++ after) with
    | none => pure ()
    | some reason => fail 1 (wording reason)

/-- Copies blocks of bytes. -/
def dd : Program := fun arguments => do
  let (_, operands) ← Options.usual [] arguments
  let copy ← copyOperandsOf operands
  let bothSize ← copy.number "bs" 0 (copy.given.has "bs")
  let own := fun (name : String) => do
    if bothSize = 0 then copy.number name 512 true else pure bothSize
  let inSize ← own "ibs"
  let outSize ← own "obs"
  let skipped ← copy.number "skip" 0 false
  let start ← copy.number "seek" 0 false
  let most ← copy.number "count" 0 false
  let scaled := fun (name flags flag : String) (size count : Nat) =>
    if copy.inBytes name flags flag then count else size * count
  let skipped := scaled "skip" "iflag" "skip_bytes" inSize skipped
  let start := scaled "seek" "oflag" "seek_bytes" outSize start
  let most? := if copy.given.has "count" then
      some (scaled "count" "iflag" "count_bytes" inSize most)
    else none
  let path? := copy.given.last? "if"
  let process ← get
  let found ← match path? with
    | some path => read path
    | none => pure (.ok process.input)
  let (text, isFine) ← match found, path? with
    | .ok text, _ => pure (text, true)
    | .error .isDirectory, some path => do
      complain (problem "error reading " path .isDirectory)
      pure ([], false)
    | .error reason, path? =>
      fail 1 (problem "failed to open " (path?.getD []) reason)
  if text.length < skipped then
    complain (path?.getD "standard input".toList ++ ": cannot skip to specified offset".toList)
  let taken := (text.drop skipped).take (most?.getD text.length)
  if path?.isNone then
    modify fun process => { process with input := process.input.drop (skipped + taken.length) }
  let written := copy.converted inSize taken
  writeCopied copy start written
  let status := (copy.given.last? "status").getD []
  if status ≠ "none".toList then
    write 2 (blockCount inSize taken.length ++ " records in\n".toList ++
      blockCount outSize written.length ++ " records out\n".toList)
    if status ≠ "noxfer".toList then
      write 2 (Text.ofNat written.length ++ " bytes copied, 0 s, Infinity B/s\n".toList)
  pure (if isFine then 0 else 1)

end ComponentSchema.Script.Tool
