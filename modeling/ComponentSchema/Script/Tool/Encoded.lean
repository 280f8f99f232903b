import ComponentSchema.Script.Tool.Streams

/-!
Bytes written in an alphabet of letters and digits.  So many bytes make up a group of characters,
which is filled up with a mark where the bytes are fewer.
-/

namespace ComponentSchema.Script.Tool

/-- A way to write bytes in characters. -/
structure Alphabet where
  chars : List Char
  /-- How many bits a character stands for. -/
  bits : Nat
  /-- How many bytes make up a group. -/
  bytes : Nat
  /-- How many characters it takes for each byte of a group to be known. -/
  stages : List Nat
  /-- Whether what there is of a group that is cut short can be read. -/
  readsPart : Bool

namespace Alphabet

def capitals : List Char := "ABCDEFGHIJKLMNOPQRSTUVWXYZ".toList

def ofSixBits : Alphabet :=
  ⟨capitals ++ capitals.map Char.toLower ++ "0123456789+/".toList, 6, 3, [2, 3, 4], true⟩

def ofFiveBits : Alphabet := ⟨capitals ++ "234567".toList, 5, 5, [2, 4, 5, 7, 8], false⟩

/-- How many characters make up a group. -/
def width (alphabet : Alphabet) : Nat := 8 * alphabet.bytes / alphabet.bits

/-- A list in pieces of some length, of which there are at most so many. -/
def pieces {α : Type} (length : Nat) : Nat → List α → List (List α)
  | 0, _ => []
  | _, [] => []
  | count + 1, items => items.take length :: pieces length count (items.drop length)

/-- The characters for a group of bytes. -/
def encodeGroup (alphabet : Alphabet) (group : Text) : Text :=
  let missing := alphabet.bytes - group.length
  let value := (group ++ List.replicate missing '\x00').foldl
    (fun value char => 256 * value + char.toNat) 0
  let used := (8 * group.length + alphabet.bits - 1) / alphabet.bits
  (List.range alphabet.width).map fun index =>
    if index < used then
      let shift := alphabet.bits * (alphabet.width - 1 - index)
      alphabet.chars.getD ((value >>> shift) % (1 <<< alphabet.bits)) '='
    else '='

/-- The characters for bytes. -/
def encode (alphabet : Alphabet) (text : Text) : Text :=
  (pieces alphabet.bytes (text.length + 1) text).flatMap alphabet.encodeGroup

/-- The byte that begins with a bit of some values. -/
def byteAt (alphabet : Alphabet) (values : List Nat) (start : Nat) : Char :=
  let total := values.foldl (fun total value => (total <<< alphabet.bits) + value) 0
  let below := alphabet.bits * values.length - start - 8
  Char.ofNat ((total >>> below) % 256)

/-- The bytes that a group of characters stands for, as far as they are known, and whether the group
is complete; `known` are the bytes that are known already. -/
def decodeGroup (alphabet : Alphabet) (group : Text) (known : Nat) : List Nat → Text × Bool
  | [] => ([], true)
  | stage :: later =>
    let isComplete := group.length = alphabet.width
    let passed := if known = 0 then 0 else alphabet.stages.getD (known - 1) 0
    let values := (group.take stage).filterMap fun char => alphabet.chars.idxOf? char
    if 0 < known && (group.drop passed).head? = some '=' then
      ([], isComplete && (group.drop passed).all (· == '='))
    else if values.length < stage then ([], false)
    else
      let (rest, isFine) := decodeGroup alphabet group (known + 1) later
      (alphabet.byteAt values (8 * known) :: rest, isFine)

/-- The bytes that groups stand for up to the first one that is wrong, and whether none is. -/
def decodeGroups (alphabet : Alphabet) : List Text → Text × Bool
  | [] => ([], true)
  | group :: rest =>
    if group.length < alphabet.width && !alphabet.readsPart then ([], false)
    else
      let (bytes, isFine) := alphabet.decodeGroup group 0 alphabet.stages
      if isFine then
        let (others, isFine) := alphabet.decodeGroups rest
        (bytes ++ others, isFine)
      else (bytes, false)

/-- The bytes that characters stand for, up to the first ones that are wrong, and whether none
are. -/
def decode (alphabet : Alphabet) (text : Text) : Text × Bool :=
  let chars := text.filter (· != '\n')
  alphabet.decodeGroups (pieces alphabet.width (chars.length + 1) chars)

end Alphabet

/-- A text in lines of some length; a length of zero leaves it in one, without an end. -/
def wrapped (length : Nat) (text : Text) : Text :=
  if length = 0 then text
  else (Alphabet.pieces length (text.length + 1) text).flatMap (· ++ ['\n'])

/-- Writes bytes in an alphabet, or reads them. -/
def encodedWith (alphabet : Alphabet) : Program := fun arguments => do
  let (given, operands) ← Options.usual
    [.flag "d" "decode", .flag "i" "ignore-garbage", .valued "w" "wrap"] arguments
  let length ← match given.last? "wrap" with
    | none => pure 76
    | some text =>
      match Text.number? text with
      | some length => pure length
      | none => fail 1 ("invalid wrap size: ".toList ++ Quoting.word text)
  match operands with
  | _ :: extra :: _ => refuse 1 ("extra operand ".toList ++ Quoting.word extra)
  | _ => pure ()
  let path := operands.headD ['-']
  match ← read path with
  | .error .isDirectory => fail 1 "read error: Is a directory".toList
  | .error reason => fail 1 (Quoting.ifNeeded path ++ ": ".toList ++ plainReason reason)
  | .ok text => do
    if given.has "decode" then
      let kept := if given.has "ignore-garbage" then
          text.filter fun char => char = '=' || alphabet.chars.contains char
        else text
      let (bytes, isFine) := alphabet.decode kept
      print bytes
      if !isFine then fail 1 "invalid input".toList
    else print (wrapped length (alphabet.encode text))
    pure 0

end ComponentSchema.Script.Tool
