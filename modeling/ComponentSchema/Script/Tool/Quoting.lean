import ComponentSchema.Script.Text

/-!
How tools quote the names they tell about.  A name is quoted the way a shell would read it back, and
where that is not asked for it is only quoted if a shell would not take it as it stands.
-/

namespace ComponentSchema.Script

namespace Quoting

/-- Characters that mean nothing to a shell. -/
def isPlain (char : Char) : Bool :=
  char.isAlphanum || ['%', '+', ',', '-', '.', '/', ':', ']', '_', '@'].contains char ||
    '\x7f' < char

def isSafe (name : Text) : Bool :=
  let fitsFirst := name.head?.all fun char => isPlain char || ['\x7b', '\x7d'].contains char
  let fitsRest := name.tail.all fun char => isPlain char || ['\x7b', '\x7d', '#', '~'].contains char
  !name.isEmpty && fitsFirst && fitsRest && name ≠ ['\x7b'] && name ≠ ['\x7d']

/-- What stands for a character that cannot be printed behind a backslash. -/
def escape? (char : Char) : Option Text :=
  match [('\x07', 'a'), ('\x08', 'b'), ('\t', 't'), ('\n', 'n'), ('\x0b', 'v'), ('\x0c', 'f'),
      ('\r', 'r')].lookup char with
  | some letter => some ['\\', letter]
  | none =>
    if char < ' ' || char = '\x7f' then
      let digits := Nat.toDigits 8 char.toNat
      some ('\\' :: List.replicate (3 - digits.length) '0' ++ digits)
    else none

/-- A name between single quotes, from some place on; `escaping` tells whether the characters in
front could not be printed. -/
def enclosedFrom (escaping : Bool) : Text → Text
  | [] => ['\'']
  | char :: rest =>
    match escape? char with
    | some text =>
      (if escaping then text else "'$'".toList ++ text) ++ enclosedFrom true rest
    | none =>
      let front := if escaping then "''".toList else []
      if char = '\'' then front ++ "'\\''".toList ++ enclosedFrom false rest
      else front ++ char :: enclosedFrom false rest

def always (name : Text) : Text :=
  let fitsDouble := name.all fun char => isPlain char || char == ' ' || char == '\''
  if name.contains '\'' && fitsDouble then '"' :: name ++ ['"']
  else '\'' :: enclosedFrom false name

def ifNeeded (name : Text) : Text := if isSafe name then name else always name

/-- A word in the quotation marks of a text. -/
def word (name : Text) : Text :=
  Text.ofString "‘" ++
    name.flatMap (fun char => if char = '\\' then ['\\', '\\'] else (escape? char).getD [char]) ++
    Text.ofString "’"

/-- A word in the quotation marks of a text, without any escapes. -/
def enclosedWord (name : Text) : Text := Text.ofString "‘" ++ name ++ Text.ofString "’"

end Quoting

end ComponentSchema.Script
