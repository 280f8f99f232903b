import ComponentSchema.Script.Text

/-!
Digests of bytes.  A message is filled up to whole blocks, and each block is stirred into a state.
The constants of the secure hashes are the first bits behind the point of roots of primes.
-/

namespace ComponentSchema.Script.Digest

/-! ## Constants -/

/-- The greatest number whose power is at most a value, looked for bit by bit from some bit on. -/
def rootFrom (power value : Nat) : Nat → Nat → Nat
  | 0, found => found
  | bit + 1, found =>
    let larger := found + Nat.pow 2 bit
    rootFrom power value bit (if Nat.pow larger power ≤ value then larger else found)

/-- So many bits behind the point of a root of a number below 512. -/
def rootBits (power bits number : Nat) : Nat :=
  rootFrom power (number * Nat.pow 2 (power * bits)) (bits + 9) 0 % Nat.pow 2 bits

def isPrime (number : Nat) : Bool :=
  2 ≤ number && (List.range number).all fun divisor => divisor < 2 || number % divisor != 0

/-- The first eighty primes. -/
def primes : List Nat := (List.range 410).filter isPrime

/-! ## Messages -/

/-- The number that bytes make up, the highest first. -/
def highFirst (bytes : List UInt8) : Nat :=
  bytes.foldl (fun number byte => 256 * number + byte.toNat) 0

/-- So many bytes of a number, the lowest first. -/
def lowFirst : Nat → Nat → List UInt8
  | 0, _ => []
  | count + 1, number => (number % 256).toUInt8 :: lowFirst count (number / 256)

def inPieces {α : Type} (length : Nat) : Nat → List α → List (List α)
  | 0, _ => []
  | _, [] => []
  | count + 1, items => items.take length :: inPieces length count (items.drop length)

/-- A message as blocks: a bit behind it, as many zeros as are needed, and its length in bits. -/
def blocks (blockSize lengthSize : Nat) (length : Nat → List UInt8) (message : List UInt8) :
    List (List UInt8) :=
  let used := message.length + 1 + lengthSize
  let zeros := (blockSize - used % blockSize) % blockSize
  let filled := message ++ 0x80 :: List.replicate zeros 0 ++ length (8 * message.length)
  inPieces blockSize (filled.length / blockSize) filled

/-- The hexadecimal digits of bytes. -/
def hexText (bytes : List UInt8) : Text :=
  bytes.flatMap fun byte => [Nat.digitChar (byte.toNat / 16), Nat.digitChar (byte.toNat % 16)]

def turnLeft (word : UInt32) (count : UInt32) : UInt32 := word <<< count ||| word >>> (32 - count)

/-! ## Message digest -/

/-- What is added in each step, told by the sine of its number. -/
def sines : Array UInt32 := #[
  0xd76aa478, 0xe8c7b756, 0x242070db, 0xc1bdceee, 0xf57c0faf, 0x4787c62a, 0xa8304613, 0xfd469501,
  0x698098d8, 0x8b44f7af, 0xffff5bb1, 0x895cd7be, 0x6b901122, 0xfd987193, 0xa679438e, 0x49b40821,
  0xf61e2562, 0xc040b340, 0x265e5a51, 0xe9b6c7aa, 0xd62f105d, 0x02441453, 0xd8a1e681, 0xe7d3fbc8,
  0x21e1cde6, 0xc33707d6, 0xf4d50d87, 0x455a14ed, 0xa9e3e905, 0xfcefa3f8, 0x676f02d9, 0x8d2a4c8a,
  0xfffa3942, 0x8771f681, 0x6d9d6122, 0xfde5380c, 0xa4beea44, 0x4bdecfa9, 0xf6bb4b60, 0xbebfbc70,
  0x289b7ec6, 0xeaa127fa, 0xd4ef3085, 0x04881d05, 0xd9d4d039, 0xe6db99e5, 0x1fa27cf8, 0xc4ac5665,
  0xf4292244, 0x432aff97, 0xab9423a7, 0xfc93a039, 0x655b59c3, 0x8f0ccc92, 0xffeff47d, 0x85845dd1,
  0x6fa87e4f, 0xfe2ce6e0, 0xa3014314, 0x4e0811a1, 0xf7537e82, 0xbd3af235, 0x2ad7d2bb, 0xeb86d391]

/-- How far the bits are turned in the steps of each round, four times over. -/
def turns : Array UInt32 := #[7, 12, 17, 22, 5, 9, 14, 20, 4, 11, 16, 23, 6, 10, 15, 21]

/-- Four words. -/
structure Four where
  a : UInt32
  b : UInt32
  c : UInt32
  d : UInt32

/-- A step of stirring a block of sixteen words into a state. -/
def stepFour (words : Array UInt32) (state : Four) (step : Nat) : Four :=
  let (a, b, c, d) := (state.a, state.b, state.c, state.d)
  let round := step / 16
  let (mixed, place) :=
    if round = 0 then (b &&& c ||| ~~~b &&& d, step)
    else if round = 1 then (d &&& b ||| ~~~d &&& c, 5 * step + 1)
    else if round = 2 then (b ^^^ c ^^^ d, 3 * step + 5)
    else (c ^^^ (b ||| ~~~d), 7 * step)
  let sum := a + mixed + sines.getD step 0 + words.getD (place % 16) 0
  ⟨d, b + turnLeft sum (turns.getD (4 * round + step % 4) 0), b, c⟩

def blockFour (state : Four) (block : List UInt8) : Four :=
  let words := ((inPieces 4 16 block).map fun bytes => (highFirst bytes.reverse).toUInt32).toArray
  let after := (List.range 64).foldl (stepFour words) state
  ⟨state.a + after.a, state.b + after.b, state.c + after.c, state.d + after.d⟩

/-- The digest of sixteen bytes. -/
def md5 (message : List UInt8) : Text :=
  let start : Four := ⟨0x67452301, 0xefcdab89, 0x98badcfe, 0x10325476⟩
  let state := (blocks 64 8 (lowFirst 8) message).foldl blockFour start
  hexText ([state.a, state.b, state.c, state.d].flatMap fun word => lowFirst 4 word.toNat)

/-! ## Secure hash of twenty bytes -/

/-- Five words. -/
structure Five where
  a : UInt32
  b : UInt32
  c : UInt32
  d : UInt32
  e : UInt32

/-- So many words behind those that are there, each made of four earlier ones. -/
def moreWords : Nat → Array UInt32 → Array UInt32
  | 0, words => words
  | count + 1, words =>
    let earlier := fun (back : Nat) => words.getD (words.size - back) 0
    moreWords count
      (words.push (turnLeft (earlier 3 ^^^ earlier 8 ^^^ earlier 14 ^^^ earlier 16) 1))

/-- A step of stirring eighty words into a state. -/
def stepFive (words : Array UInt32) (state : Five) (step : Nat) : Five :=
  let (a, b, c, d) := (state.a, state.b, state.c, state.d)
  let (mixed, constant) : UInt32 × UInt32 :=
    if step < 20 then (b &&& c ||| ~~~b &&& d, 0x5a827999)
    else if step < 40 then (b ^^^ c ^^^ d, 0x6ed9eba1)
    else if step < 60 then (b &&& c ||| b &&& d ||| c &&& d, 0x8f1bbcdc)
    else (b ^^^ c ^^^ d, 0xca62c1d6)
  ⟨turnLeft a 5 + mixed + state.e + constant + words.getD step 0, a, turnLeft b 30, c, d⟩

def blockFive (state : Five) (block : List UInt8) : Five :=
  let words := ((inPieces 4 16 block).map fun bytes => (highFirst bytes).toUInt32).toArray
  let after := (List.range 80).foldl (stepFive (moreWords 64 words)) state
  ⟨state.a + after.a, state.b + after.b, state.c + after.c, state.d + after.d, state.e + after.e⟩

/-- The digest of twenty bytes. -/
def sha1 (message : List UInt8) : Text :=
  let start : Five := ⟨0x67452301, 0xefcdab89, 0x98badcfe, 0x10325476, 0xc3d2e1f0⟩
  let state := (blocks 64 8 (fun bits => (lowFirst 8 bits).reverse) message).foldl blockFive start
  hexText ([state.a, state.b, state.c, state.d, state.e].flatMap fun word =>
    (lowFirst 4 word.toNat).reverse)

/-! ## Secure hashes of eight words -/

/-- How a hash of eight words works: how long its words are, how many steps a block takes, and how
far bits are turned in them. -/
structure Family where
  wordBytes : Nat
  steps : Nat
  largeA : List Nat
  largeE : List Nat
  /-- Two turns and a shift. -/
  smallFirst : List Nat
  smallSecond : List Nat

namespace Family

/-- The hashes of short words. -/
def short : Family := ⟨4, 64, [2, 13, 22], [6, 11, 25], [7, 18, 3], [17, 19, 10]⟩

/-- The hashes of long words. -/
def long : Family := ⟨8, 80, [28, 34, 39], [14, 18, 41], [1, 8, 7], [19, 61, 6]⟩

def size (family : Family) : Nat := Nat.pow 2 (8 * family.wordBytes)

/-- Turns the bits of a word to the right. -/
def turn (family : Family) (word count : Nat) : Nat :=
  word >>> count ||| (word <<< (8 * family.wordBytes - count)) % family.size

/-- A word turned in three ways. -/
def turned (family : Family) (counts : List Nat) (word : Nat) : Nat :=
  counts.foldl (fun mixed count => mixed ^^^ family.turn word count) 0

/-- A word turned in two ways and shifted. -/
def shifted (family : Family) (counts : List Nat) (word : Nat) : Nat :=
  family.turned (counts.take 2) word ^^^ word >>> (counts.getD 2 0)

/-- So many words behind those that are there, each made of four earlier ones. -/
def moreWords (family : Family) : Nat → Array Nat → Array Nat
  | 0, words => words
  | count + 1, words =>
    let earlier := fun (back : Nat) => words.getD (words.size - back) 0
    family.moreWords count
      (words.push ((earlier 16 + family.shifted family.smallFirst (earlier 15) + earlier 7 +
        family.shifted family.smallSecond (earlier 2)) % family.size))

/-- A step of stirring a word and a constant into a state. -/
def step (family : Family) (state : List Nat) (added : Nat × Nat) : List Nat :=
  match state with
  | [a, b, c, d, e, f, g, h] =>
    let chosen := e &&& f ||| (family.size - 1 - e) &&& g
    let first := h + family.turned family.largeE e + chosen + added.1 + added.2
    let second := family.turned family.largeA a + (a &&& b ||| a &&& c ||| b &&& c)
    [(first + second) % family.size, a, b, c, (d + first) % family.size, e, f, g]
  | state => state

def stir (family : Family) (constants : List Nat) (state : List Nat) (block : List UInt8) :
    List Nat :=
  let words := ((inPieces family.wordBytes 16 block).map highFirst).toArray
  let all := (family.moreWords (family.steps - 16) words).toList
  let after := (all.zip constants).foldl family.step state
  (state.zip after).map fun (before, after) => (before + after) % family.size

/-- The first bytes of a digest of eight words. -/
def digest (family : Family) (start : List Nat) (length : Nat) (message : List UInt8) : Text :=
  let constants := (primes.take family.steps).map (rootBits 3 (8 * family.wordBytes))
  let lengthSize := 2 * family.wordBytes
  let length8 := fun (bits : Nat) => (lowFirst lengthSize bits).reverse
  let state := (blocks (16 * family.wordBytes) lengthSize length8 message).foldl
    (family.stir constants) start
  hexText ((state.flatMap fun word => (lowFirst family.wordBytes word).reverse).take length)

end Family

def sha256 : List UInt8 → Text :=
  Family.short.digest ((primes.take 8).map (rootBits 2 32)) 32

def sha224 : List UInt8 → Text :=
  Family.short.digest
    (((primes.drop 8).take 8).map fun prime => rootBits 2 64 prime % Nat.pow 2 32) 28

def sha512 : List UInt8 → Text :=
  Family.long.digest ((primes.take 8).map (rootBits 2 64)) 64

def sha384 : List UInt8 → Text :=
  Family.long.digest (((primes.drop 8).take 8).map (rootBits 2 64)) 48

/-! ## Check sums -/

/-- The rest of a division of bits, eight bits further. -/
def remainderStep (rest : UInt32) (byte : UInt8) : UInt32 :=
  (List.range 8).foldl (fun rest _ =>
    if rest &&& 0x80000000 != 0 then rest <<< 1 ^^^ 0x04c11db7 else rest <<< 1)
    (rest ^^^ byte.toUInt32 <<< 24)

/-- The bytes of a length, the lowest first, without zeros at the end; there are at most so many. -/
def lengthBytes : Nat → Nat → List UInt8
  | 0, _ => []
  | count + 1, length =>
    if length = 0 then [] else (length % 256).toUInt8 :: lengthBytes count (length / 256)

/-- The check sum of bytes and their number. -/
def checkSum (message : List UInt8) : Nat :=
  (~~~ ((message ++ lengthBytes 8 message.length).foldl remainderStep 0)).toNat

/-- A sum of sixteen bits that is turned to the right before each byte is added. -/
def turnedSum (message : List UInt8) : Nat :=
  message.foldl (fun sum byte => (sum / 2 + sum % 2 * 0x8000 + byte.toNat) % 0x10000) 0

/-- The sum of all bytes, folded into sixteen bits. -/
def foldedSum (message : List UInt8) : Nat :=
  let fold := fun (sum : Nat) => sum % 0x10000 + sum / 0x10000
  fold (fold ((message.foldl (fun sum byte => sum + byte.toNat) 0) % Nat.pow 2 32))

end ComponentSchema.Script.Digest
