import ComponentSchema.Script.Tool.Digest
import ComponentSchema.Script.Tool.Streams

/-!
Tools that print digests and check sums of files, and tell whether files still have the digests that
were printed of them.
-/

namespace ComponentSchema.Script.Tool

/-! ## Digests -/

/-- A kind of digest. -/
structure DigestKind where
  /-- What lines call it that tell the kind. -/
  title : String
  /-- How many hexadecimal digits it has. -/
  length : Nat
  digest : List UInt8 → Text

namespace DigestKind

/-- Digests of sixteen bytes. -/
def md5 : DigestKind := ⟨"MD5", 32, Digest.md5⟩

/-- Digests of twenty bytes. -/
def sha1 : DigestKind := ⟨"SHA1", 40, Digest.sha1⟩

def sha224 : DigestKind := ⟨"SHA224", 56, Digest.sha224⟩

def sha256 : DigestKind := ⟨"SHA256", 64, Digest.sha256⟩

def sha384 : DigestKind := ⟨"SHA384", 96, Digest.sha384⟩

def sha512 : DigestKind := ⟨"SHA512", 128, Digest.sha512⟩

def all : List DigestKind := [md5, sha1, sha224, sha256, sha384, sha512]

def ofText (kind : DigestKind) (text : Text) : Text := kind.digest (Text.toBytes text).toList

end DigestKind

/-- A name in one line, and whether it had to be changed for that. -/
def nameInLine (name : Text) : Text × Bool :=
  (name.flatMap fun char =>
    match char with
    | '\\' => ['\\', '\\']
    | '\n' => ['\\', 'n']
    | '\r' => ['\\', 'r']
    | char => [char],
    name.any fun char => char = '\\' || char = '\n' || char = '\r')

/-- How lines with digests look. -/
structure DigestForm where
  /-- Whether lines tell the kind of digest. -/
  tagged : Bool := false
  /-- What stands in front of a name. -/
  mark : Char := ' '
  /-- Whether lines end with a zero. -/
  endsInZero : Bool := false

def DigestForm.line (form : DigestForm) (kind : DigestKind) (name text : Text) : Text :=
  let (shown, isChanged) := if form.endsInZero then (name, false) else nameInLine name
  let front := if isChanged then ['\\'] else []
  let digest := kind.ofText text
  let ending := if form.endsInZero then ['\x00'] else ['\n']
  if form.tagged then
    front ++ kind.title.toList ++ " (".toList ++ shown ++ ") = ".toList ++ digest ++ ending
  else front ++ digest ++ ' ' :: form.mark :: shown ++ ending

def printDigests (form : DigestForm) (kind : DigestKind) (paths : List Text) : Tool Nat :=
  onEach (fun path => do
    match ← read path with
    | .error reason => rejected (Quoting.ifNeeded path ++ ": ".toList ++ plainReason reason)
    | .ok text => do
      print (form.line kind path text)
      pure true) paths

/-! ## Checking -/

/-- A digest that a file should have. -/
structure ExpectedDigest where
  kind : DigestKind
  digest : Text
  name : Text

def nameFromLine : Text → Text
  | '\\' :: 'n' :: rest => '\n' :: nameFromLine rest
  | '\\' :: 'r' :: rest => '\r' :: nameFromLine rest
  | '\\' :: '\\' :: rest => '\\' :: nameFromLine rest
  | char :: rest => char :: nameFromLine rest
  | [] => []

/-- Whether a text consists of the digits of a digest. -/
def isDigestText (kind : DigestKind) (text : Text) : Bool :=
  text.length = kind.length && text.all fun char => (Digits.valueBelow? 16 char).isSome

/-- What a line tells that should hold, where a digest may be one of some kinds. -/
def expectedIn (kinds : List DigestKind) (tellsKind : Bool) (line : Text) :
    Option ExpectedDigest :=
  let (body, isChanged) := match line.dropWhile fun char => char = ' ' || char = '\t' with
    | '\\' :: rest => (rest, true)
    | rest => (rest, false)
  let name := fun (text : Text) => if isChanged then nameFromLine text else text
  kinds.findSome? fun kind =>
    let front := kind.title.toList ++ " (".toList
    if front.isPrefixOf body then
      let digest := (body.reverse.takeWhile (· != ' ')).reverse
      let middle := (body.drop front.length).take (body.length - front.length - digest.length)
      if isDigestText kind digest && ") = ".toList.reverse.isPrefixOf middle.reverse then
        some ⟨kind, digest, name (middle.take (middle.length - 4))⟩
      else none
    else if tellsKind then none
    else
      let digest := body.take kind.length
      match body.drop kind.length with
      | ' ' :: mark :: rest =>
        if isDigestText kind digest && (mark = ' ' || mark = '*') && !rest.isEmpty then
          some ⟨kind, digest, name rest⟩
        else none
      | _ => none

/-- How the checking of files went. -/
structure CheckCount where
  fine : Nat := 0
  strange : Nat := 0
  unread : Nat := 0
  different : Nat := 0

/-- How digests are checked. -/
structure CheckForm where
  kinds : List DigestKind
  /-- Whether lines have to tell the kind of digest. -/
  tellsKind : Bool
  given : Given

def checkLine (form : CheckForm) (list : Text) (number : Nat) (count : CheckCount) (line : Text) :
    Tool CheckCount := do
  match expectedIn form.kinds form.tellsKind line with
  | none => do
    if form.given.has "warn" then
      let title := match form.kinds with
        | [kind] => kind.title.toList ++ [' ']
        | _ => []
      complain (list ++ ": ".toList ++ Text.ofNat number ++ ": improperly formatted ".toList ++
        title ++ "checksum line".toList)
    pure { count with strange := count.strange + 1 }
  | some expected => do
    let tell := fun (result : String) =>
      let (shown, isChanged) := nameInLine expected.name
      printLine ((if isChanged then ['\\'] else []) ++ shown ++ ": ".toList ++ result.toList)
    let silent := form.given.has "status"
    match ← read expected.name with
    | .error reason => do
      if reason = .notFound && form.given.has "ignore-missing" then pure count
      else
        complain (Quoting.ifNeeded expected.name ++ ": ".toList ++ plainReason reason)
        if !silent then tell "FAILED open or read"
        pure { count with unread := count.unread + 1 }
    | .ok text => do
      if expected.kind.ofText text = expected.digest.map Char.toLower then
        if !silent && !form.given.has "quiet" then tell "OK"
        pure { count with fine := count.fine + 1 }
      else
        if !silent then tell "FAILED"
        pure { count with different := count.different + 1 }

/-- Checks what the lines of a file tell: whether all is as they say. -/
def checkList (form : CheckForm) (list : Text) : Tool Bool := do
  match ← read list with
  | .error .isDirectory => rejected (Quoting.ifNeeded list ++ ": read error".toList)
  | .error reason => rejected (Quoting.ifNeeded list ++ ": ".toList ++ plainReason reason)
  | .ok text => do
    let lines := (Text.lines text).zipIdx.filter fun line =>
      !line.1.isEmpty && line.1.head? != some '#'
    let count ← lines.foldlM (fun count line => checkLine form list (line.2 + 1) count line.1)
      ({} : CheckCount)
    let shown := if list = ['-'] then "'standard input'".toList else Quoting.ifNeeded list
    let warn := fun (number : Nat) (one many : String) => do
      if 0 < number && !form.given.has "status" then
        complain ("WARNING: ".toList ++ Text.ofNat number ++ ' ' ::
          (if number = 1 then one else many).toList)
    if count.fine + count.unread + count.different = 0 && count.strange = lines.length then
      rejected (shown ++ ": no properly formatted checksum lines found".toList)
    else
      warn count.strange "line is improperly formatted" "lines are improperly formatted"
      warn count.unread "listed file could not be read" "listed files could not be read"
      warn count.different "computed checksum did NOT match" "computed checksums did NOT match"
      let isEmpty := form.given.has "ignore-missing" && count.fine = 0
      if isEmpty then complain (shown ++ ": no file was verified".toList)
      pure (!isEmpty && count.unread = 0 && count.different = 0 &&
        (count.strange = 0 || !form.given.has "strict"))

def digestOptions : List OptionForm :=
  [.flag "b" "binary", .flag "c" "check", .flag "" "ignore-missing", .flag "" "quiet",
    .flag "" "status", .flag "" "strict", .flag "" "tag", .flag "t" "text", .flag "w" "warn",
    .flag "z" "zero"]

/-- Refuses options that do not fit together. -/
def fitDigestOptions (given : Given) : Tool Unit := do
  if given.has "check" then
    match ["zero", "tag", "binary", "text"].find? given.has with
    | some "zero" => refuse 1 "the --zero option is not supported when verifying checksums".toList
    | some "tag" => refuse 1 "the --tag option is meaningless when verifying checksums".toList
    | some _ =>
      refuse 1 ("the --binary and --text options are meaningless when verifying " ++
        "checksums").toList
    | none => pure ()
  else
    match ["ignore-missing", "status", "warn", "quiet", "strict"].find? given.has with
    | some name =>
      refuse 1 ("the --" ++ name ++ " option is meaningful only when verifying checksums").toList
    | none => pure ()

def digestWith (kind : DigestKind) : Program := fun arguments => do
  let (given, operands) ← Options.usual digestOptions arguments
  fitDigestOptions given
  if given.has "tag" && given.lastOf? ["binary", "text"] = some "text" then
    refuse 1 "--tag does not support --text mode".toList
  let paths := if operands.isEmpty then [['-']] else operands
  if given.has "check" then
    onEach (checkList { kinds := [kind], tellsKind := false, given }) paths
  else
    printDigests {
      tagged := given.has "tag"
      mark := if given.lastOf? ["binary", "text"] = some "binary" then '*' else ' '
      endsInZero := given.has "zero" } kind paths

/-! ## Check sums -/

def piecesOf (size length : Nat) : Nat := (length + size - 1) / size

/-- A kind of check sum: the line of a text that may have a name. -/
abbrev SumLine := Text → Option Text → Text

/-- The line with a check sum and the number of bytes. -/
def checkSumLine : SumLine := fun text name =>
  Text.joined [' '] ([Text.ofNat (Digest.checkSum (Text.toBytes text).toList),
    Text.ofNat text.length] ++ name.toList)

/-- The line with a sum that is turned, and the number of kilobytes. -/
def turnedSumLine : SumLine := fun text name =>
  let digits := Text.ofNat (Digest.turnedSum (Text.toBytes text).toList)
  Text.joined [' '] ([List.replicate (5 - digits.length) '0' ++ digits,
    paddedNumber 5 (piecesOf 1024 text.length)] ++ name.toList)

/-- The line with a sum that is folded, and the number of half kilobytes. -/
def foldedSumLine : SumLine := fun text name =>
  Text.joined [' '] ([Text.ofNat (Digest.foldedSum (Text.toBytes text).toList),
    Text.ofNat (piecesOf 512 text.length)] ++ name.toList)

/-- Prints the check sums of files; what is read from standard input has no name. -/
def printSums (line : SumLine) (operands : List Text) : Tool Nat := do
  let isAlone := operands.isEmpty
  onEach (fun path => do
    match ← read path with
    | .error reason => rejected (Quoting.ifNeeded path ++ ": ".toList ++ plainReason reason)
    | .ok text => do
      printLine (line text (if isAlone then none else some path))
      pure true) (if isAlone then [['-']] else operands)

/-- Prints check sums and numbers of blocks. -/
def sum : Program := fun arguments => do
  let (given, operands) ← Options.usual [.flag "r" "", .flag "s" "sysv"] arguments
  let isFolded := given.lastOf? ["r", "sysv"] = some "sysv"
  printSums (if isFolded then foldedSumLine else turnedSumLine) operands

/-- The names of the algorithms of `cksum`. -/
def sumNames : List String :=
  ["bsd", "sysv", "crc", "md5", "sha1", "sha224", "sha256", "sha384", "sha512", "blake2b", "sm3"]

/-- Prints or checks check sums or digests. -/
def cksum : Program := fun arguments => do
  let (given, operands) ← Options.usual
    (digestOptions ++ [.valued "a" "algorithm", .flag "" "base64", .valued "l" "length",
      .flag "" "raw", .flag "" "untagged", .flag "" "debug"]) arguments
  let name := (given.last? "algorithm").getD "crc".toList
  if !sumNames.contains (String.ofList name) then
    complain ("invalid argument ".toList ++ Quoting.word name ++ " for ".toList ++
      Quoting.word "--algorithm".toList)
    write 2 ("Valid arguments are:\n".toList ++ sumNames.flatMap fun valid =>
      "  - ".toList ++ Quoting.word valid.toList ++ ['\n'])
    suggestHelp 1
  fitDigestOptions given
  let paths := if operands.isEmpty then [['-']] else operands
  let kind? := DigestKind.all.find? fun kind => kind.title.toList.map Char.toLower = name
  if given.has "check" then
    match kind? with
    | none =>
      if given.has "algorithm" then
        fail 1 "--check is not supported with --algorithm=\x7bbsd,sysv,crc\x7d".toList
      else onEach (checkList { kinds := DigestKind.all, tellsKind := true, given }) paths
    | some kind => onEach (checkList { kinds := [kind], tellsKind := false, given }) paths
  else
    match kind?, String.ofList name with
    | some kind, _ => printDigests {
        tagged := given.lastOf? ["tag", "untagged"] != some "untagged"
        endsInZero := given.has "zero" } kind paths
    | none, "bsd" => printSums turnedSumLine operands
    | none, "sysv" => printSums foldedSumLine operands
    | none, _ => printSums checkSumLine operands

end ComponentSchema.Script.Tool
