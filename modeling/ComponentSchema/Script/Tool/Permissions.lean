import ComponentSchema.Files.Mode
import ComponentSchema.Script.Text

/-!
Permissions, as they are told to be changed: by octal digits, or by letters that say for whom which
of them are added, taken or set.
-/

namespace ComponentSchema.Script

namespace Permissions

/-! ## Changes -/

def ofOctal? (text : Text) : Option Mode :=
  if text.isEmpty || !text.all fun char => '0' ≤ char && char ≤ '7' then none
  else
    let mode := text.foldl (fun mode digit => 8 * mode + (digit.toNat - '0'.toNat)) 0
    if mode ≤ Mode.all then some mode else none

def bitsOf (letter : Char) : Mode :=
  if letter = 'u' then 0o4700
  else if letter = 'g' then 0o2070
  else if letter = 'o' then 0o1007
  else Mode.all

/-- The bits that those whom letters name have; new files get only those a mask does not take, and
so does nobody in particular. -/
def bitsFor (mask : Mode) (letters : Text) : Mode :=
  if letters.isEmpty then Mode.all.without mask
  else letters.foldl (fun bits letter => bits ||| bitsOf letter) 0

/-- The same three bits for the owner, the group and all others. -/
def forEach (bits : Nat) : Mode := bits % 8 * 0o111

def bitsNamed (mode : Mode) (isDirectory : Bool) (letter : Char) : Mode :=
  if letter = 'r' then 0o444
  else if letter = 'w' then 0o222
  else if letter = 'x' then 0o111
  else if letter = 'X' then (if isDirectory || mode.isExecutable then 0o111 else 0)
  else if letter = 's' then 0o6000
  else if letter = 't' then 0o1000
  else if letter = 'u' then forEach (mode / 64)
  else if letter = 'g' then forEach (mode / 8)
  else if letter = 'o' then forEach mode
  else 0

/-- Changes a mode by a sign and letters, for those whom other letters name. -/
def change (mask : Mode) (isDirectory : Bool) (holders : Text) (sign : Char) (letters : Text)
    (mode : Mode) : Mode :=
  let meant := bitsFor mask holders
  let named := letters.foldl (fun bits letter => bits ||| bitsNamed mode isDirectory letter) 0
  let bits := named &&& meant
  if sign = '+' then mode ||| bits
  else if sign = '-' then mode.without bits
  else if holders.isEmpty then bits
  else mode.without meant ||| bits

/-- Characters that say what a change does. -/
def isSign (char : Char) : Bool := char == '+' || char == '-' || char == '='

/-- Applies the signs with letters behind them that follow the holders; there are at most so
many. -/
def applySigns? (mask : Mode) (isDirectory : Bool) (holders : Text) :
    Nat → Mode → Text → Option Mode
  | 0, _, _ => none
  | _, mode, [] => some mode
  | count + 1, mode, sign :: rest =>
    let letters := rest.takeWhile fun char => !isSign char
    let isKnown := letters.all (['r', 'w', 'x', 'X', 's', 't'].contains ·) ||
      (letters.length = 1 && letters.all (['u', 'g', 'o'].contains ·))
    if isSign sign && isKnown then
      applySigns? mask isDirectory holders count
        (change mask isDirectory holders sign letters mode) (rest.drop letters.length)
    else none

/-- Applies a change that letters tell. -/
def applyClause? (mask : Mode) (isDirectory : Bool) (mode : Mode) (clause : Text) : Option Mode :=
  let holders := clause.takeWhile (['u', 'g', 'o', 'a'].contains ·)
  let signs := clause.drop holders.length
  if signs.isEmpty then none
  else applySigns? mask isDirectory holders (signs.length + 1) mode signs

/-- The mode after a change that a text tells; none if it cannot be read. -/
def changed? (mask mode : Mode) (text : Text) (isDirectory : Bool) : Option Mode :=
  match ofOctal? text with
  | some mode => some mode
  | none => (Text.splitAt ',' text).foldlM (applyClause? mask isDirectory) mode

def isChange (text : Text) : Bool := (changed? 0 0 text true).isSome

/-! ## Wording -/

/-- The digit in front of which there are others in the octal number of a mode. -/
def octalDigit (mode : Mode) : Char := Char.ofNat ('0'.toNat + mode % 8)

/-- A mode as four octal digits. -/
def octalText (mode : Mode) : Text :=
  [octalDigit (mode / 512), octalDigit (mode / 64), octalDigit (mode / 8), octalDigit mode]

/-- Three bits as letters; the last one looks different where a bit of another use is set. -/
def threeText (bits : Nat) (isSet : Bool) (letter : Char) : Text :=
  let executes := bits % 2 = 1
  [if bits / 4 % 2 = 1 then 'r' else '-', if bits / 2 % 2 = 1 then 'w' else '-',
    if isSet then (if executes then letter else letter.toUpper)
    else if executes then 'x' else '-']

def lettersText (mode : Mode) : Text :=
  threeText (mode / 64) (mode / 2048 % 2 == 1) 's' ++
    threeText (mode / 8) (mode / 1024 % 2 == 1) 's' ++
    threeText mode (mode / 512 % 2 == 1) 't'

/-- The letters of three bits that are set. -/
def setText (bits : Nat) : Text :=
  (if bits / 4 % 2 = 1 then ['r'] else []) ++ (if bits / 2 % 2 = 1 then ['w'] else []) ++
    if bits % 2 = 1 then ['x'] else []

end Permissions

end ComponentSchema.Script
