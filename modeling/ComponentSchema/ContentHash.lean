/-!
The content hash of a compiled descriptor: the 64-bit XXH3 hash with seed zero.  It is kept in the
ledger so that drift between a descriptor and the ids on record shows.  Inputs are hashed in one of
seven ways by their length, each built from the same few mixing steps on 64-bit words.
-/

namespace ComponentSchema.ContentHash

/-- The fixed key that input words are combined with. -/
def key : ByteArray := ⟨#[
  0xb8, 0xfe, 0x6c, 0x39, 0x23, 0xa4, 0x4b, 0xbe, 0x7c, 0x01, 0x81, 0x2c, 0xf7, 0x21, 0xad, 0x1c,
  0xde, 0xd4, 0x6d, 0xe9, 0x83, 0x90, 0x97, 0xdb, 0x72, 0x40, 0xa4, 0xa4, 0xb7, 0xb3, 0x67, 0x1f,
  0xcb, 0x79, 0xe6, 0x4e, 0xcc, 0xc0, 0xe5, 0x78, 0x82, 0x5a, 0xd0, 0x7d, 0xcc, 0xff, 0x72, 0x21,
  0xb8, 0x08, 0x46, 0x74, 0xf7, 0x43, 0x24, 0x8e, 0xe0, 0x35, 0x90, 0xe6, 0x81, 0x3a, 0x26, 0x4c,
  0x3c, 0x28, 0x52, 0xbb, 0x91, 0xc3, 0x00, 0xcb, 0x88, 0xd0, 0x65, 0x8b, 0x1b, 0x53, 0x2e, 0xa3,
  0x71, 0x64, 0x48, 0x97, 0xa2, 0x0d, 0xf9, 0x4e, 0x38, 0x19, 0xef, 0x46, 0xa9, 0xde, 0xac, 0xd8,
  0xa8, 0xfa, 0x76, 0x3f, 0xe3, 0x9c, 0x34, 0x3f, 0xf9, 0xdc, 0xbb, 0xc7, 0xc7, 0x0b, 0x4f, 0x1d,
  0x8a, 0x51, 0xe0, 0x4b, 0xcd, 0xb4, 0x59, 0x31, 0xc8, 0x9f, 0x7e, 0xc9, 0xd9, 0x78, 0x73, 0x64,
  0xea, 0xc5, 0xac, 0x83, 0x34, 0xd3, 0xeb, 0xc3, 0xc5, 0x81, 0xa0, 0xff, 0xfa, 0x13, 0x63, 0xeb,
  0x17, 0x0d, 0xdd, 0x51, 0xb7, 0xf0, 0xda, 0x49, 0xd3, 0x16, 0x55, 0x26, 0x29, 0xd4, 0x68, 0x9e,
  0x2b, 0x16, 0xbe, 0x58, 0x7d, 0x47, 0xa1, 0xfc, 0x8f, 0xf8, 0xb8, 0xd1, 0x7a, 0xd0, 0x31, 0xce,
  0x45, 0xcb, 0x3a, 0x8f, 0x95, 0x16, 0x04, 0x28, 0xaf, 0xd7, 0xfb, 0xca, 0xbb, 0x4b, 0x40, 0x7e]⟩

/-- The small primes, which fit 32 bits. -/
def narrow1 : UInt64 := 0x9E3779B1
def narrow2 : UInt64 := 0x85EBCA77
def narrow3 : UInt64 := 0xC2B2AE3D

/-- The large primes. -/
def wide1 : UInt64 := 0x9E3779B185EBCA87
def wide2 : UInt64 := 0xC2B2AE3D27D4EB4F
def wide3 : UInt64 := 0x165667B19E3779F9
def wide4 : UInt64 := 0x85EBCA77C2B2AE63
def wide5 : UInt64 := 0x27D4EB2F165667C5

/-- A byte as a word; there are zeros behind the end. -/
def byteAt (bytes : ByteArray) (offset : Nat) : UInt64 :=
  if inside : offset < bytes.size then (bytes[offset]).toUInt64 else 0

/-- Four bytes, the lowest first. -/
def half (bytes : ByteArray) (offset : Nat) : UInt64 :=
  byteAt bytes offset ||| byteAt bytes (offset + 1) <<< 8 |||
    byteAt bytes (offset + 2) <<< 16 ||| byteAt bytes (offset + 3) <<< 24

/-- Eight bytes, the lowest first. -/
def word (bytes : ByteArray) (offset : Nat) : UInt64 :=
  half bytes offset ||| half bytes (offset + 4) <<< 32

/-- Turns a word left by some of its 64 bits. -/
def rotateLeft (value amount : UInt64) : UInt64 :=
  value <<< amount ||| value >>> (64 - amount)

/-- The bytes of a word in opposite order. -/
def swapBytes (value : UInt64) : UInt64 :=
  (List.range 8).foldl (fun swapped position =>
    swapped <<< 8 ||| ((value >>> (8 * position.toUInt64)) &&& 0xFF)) 0

/-- The two halves of a 128-bit product, folded into one word. -/
def foldedProduct (first second : UInt64) : UInt64 :=
  let product := first.toNat * second.toNat
  product.toUInt64 ^^^ (product >>> 64).toUInt64

/-- The last stirring of long and middle inputs. -/
def finish (hash : UInt64) : UInt64 :=
  let stirred := (hash ^^^ hash >>> 37) * 0x165667919E3779F9
  stirred ^^^ stirred >>> 32

/-- The last stirring of the shortest inputs. -/
def finishShort (hash : UInt64) : UInt64 :=
  let first := (hash ^^^ hash >>> 33) * wide2
  let second := (first ^^^ first >>> 29) * wide3
  second ^^^ second >>> 32

/-- Combines sixteen input bytes with sixteen bytes of the key. -/
def mixPair (input : ByteArray) (offset keyOffset : Nat) : UInt64 :=
  foldedProduct (word input offset ^^^ word key keyOffset)
    (word input (offset + 8) ^^^ word key (keyOffset + 8))

/-- Inputs of one to three bytes. -/
def hashUpTo3 (input : ByteArray) : UInt64 :=
  let size := input.size
  let combined := byteAt input 0 <<< 16 ||| byteAt input (size / 2) <<< 24 |||
    byteAt input (size - 1) ||| size.toUInt64 <<< 8
  finishShort (combined ^^^ (half key 0 ^^^ half key 4))

/-- Inputs of four to eight bytes. -/
def hashUpTo8 (input : ByteArray) : UInt64 :=
  let size := input.size
  let ends := half input (size - 4) + half input 0 <<< 32
  let keyed := ends ^^^ (word key 8 ^^^ word key 16)
  let turned := (keyed ^^^ rotateLeft keyed 49 ^^^ rotateLeft keyed 24) * 0x9FB21C651E98DF25
  let stirred := (turned ^^^ (turned >>> 35 + size.toUInt64)) * 0x9FB21C651E98DF25
  stirred ^^^ stirred >>> 28

/-- Inputs of nine to sixteen bytes. -/
def hashUpTo16 (input : ByteArray) : UInt64 :=
  let low := word input 0 ^^^ (word key 24 ^^^ word key 32)
  let high := word input (input.size - 8) ^^^ (word key 40 ^^^ word key 48)
  finish (input.size.toUInt64 + swapBytes low + high + foldedProduct low high)

/-- Inputs of 17 to 128 bytes: up to four pairs from either end, working inwards. -/
def hashUpTo128 (input : ByteArray) : UInt64 :=
  let size := input.size
  let pairs := (size - 1) / 32 + 1
  finish ((List.range pairs).foldl
    (fun hash pair =>
      hash + mixPair input (16 * pair) (32 * pair) +
        mixPair input (size - 16 * (pair + 1)) (32 * pair + 16))
    (size.toUInt64 * wide1))

/-- Inputs of 129 to 240 bytes: the first eight blocks are stirred before the others follow. -/
def hashUpTo240 (input : ByteArray) : UInt64 :=
  let size := input.size
  let early := (List.range 8).foldl
    (fun hash block => hash + mixPair input (16 * block) (16 * block)) (size.toUInt64 * wide1)
  let late := (List.range (size / 16 - 8)).foldl
    (fun hash block => hash + mixPair input (16 * (block + 8)) (16 * block + 3)) (finish early)
  finish (late + mixPair input (size - 16) 119)

/-- The eight running sums of a long input. -/
abbrev Lanes := Vector UInt64 8

def neighbour (lane : Nat) : Nat := if lane % 2 = 0 then lane + 1 else lane - 1

/-- Takes in a stripe of 64 bytes: each lane gains a product of its own keyed word and the plain
word of its neighbour. -/
def takeStripe (input : ByteArray) (lanes : Lanes) (offset keyOffset : Nat) : Lanes :=
  lanes.mapFinIdx fun lane sum _ =>
    let keyed := word input (offset + 8 * lane) ^^^ word key (keyOffset + 8 * lane)
    sum + word input (offset + 8 * neighbour lane) +
      (keyed &&& (0xFFFFFFFF : UInt64)) * (keyed >>> 32)

/-- Takes in consecutive stripes, moving along the key by eight bytes a stripe. -/
def takeStripes (input : ByteArray) (lanes : Lanes) (offset count : Nat) : Lanes :=
  (List.range count).foldl
    (fun lanes stripe => takeStripe input lanes (offset + 64 * stripe) (8 * stripe)) lanes

/-- Stirs the lanes at the end of a block. -/
def scramble (lanes : Lanes) : Lanes :=
  lanes.mapFinIdx fun lane sum _ =>
    (sum ^^^ sum >>> 47 ^^^ word key (128 + 8 * lane)) * narrow1

/-- Inputs of more than 240 bytes: blocks of sixteen stripes, the rest, and the last 64 bytes. -/
def hashLong (input : ByteArray) : UInt64 :=
  let size := input.size
  let start : Lanes := #v[narrow3, wide1, wide2, wide3, wide4, narrow2, wide5, narrow1]
  let blocks := (size - 1) / 1024
  let whole := (List.range blocks).foldl
    (fun lanes block => scramble (takeStripes input lanes (1024 * block) 16)) start
  let rest := takeStripes input whole (1024 * blocks) ((size - 1 - 1024 * blocks) / 64)
  let lanes := takeStripe input rest (size - 64) 121
  finish ((List.range 4).foldl
    (fun hash pair =>
      hash + foldedProduct ((lanes[2 * pair]?.getD 0) ^^^ word key (11 + 16 * pair))
        ((lanes[2 * pair + 1]?.getD 0) ^^^ word key (19 + 16 * pair)))
    (size.toUInt64 * wide1))

end ContentHash

def contentHash (input : ByteArray) : UInt64 :=
  if input.size = 0 then ContentHash.finishShort (ContentHash.word ContentHash.key 56 ^^^
    ContentHash.word ContentHash.key 64)
  else if input.size ≤ 3 then ContentHash.hashUpTo3 input
  else if input.size ≤ 8 then ContentHash.hashUpTo8 input
  else if input.size ≤ 16 then ContentHash.hashUpTo16 input
  else if input.size ≤ 128 then ContentHash.hashUpTo128 input
  else if input.size ≤ 240 then ContentHash.hashUpTo240 input
  else ContentHash.hashLong input

/-- A hash in sixteen lower-case hexadecimal digits. -/
def hashText (hash : UInt64) : String :=
  let digits := Nat.toDigits 16 hash.toNat
  String.ofList (List.replicate (16 - digits.length) '0' ++ digits)

end ComponentSchema
