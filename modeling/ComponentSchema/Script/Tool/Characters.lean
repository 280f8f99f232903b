import ComponentSchema.Script.Printing
import ComponentSchema.Script.Tool.Sorting

/-!
Sets of characters, and the tool that puts characters in place of others.
-/

namespace ComponentSchema.Script.Tool

/-- A part of a set of characters. -/
inductive CharRange where
  | single (char : Char)
  | range (low high : Char)
  | named (name : String)
  /-- A character a number of times, or as often as is needed. -/
  | repeated (char : Char) (count : Option Nat)
deriving DecidableEq, Repr

def allChars : Text := (List.range 256).map Char.ofNat

/-- What can be wrong with a set of characters. -/
inductive CharSetFault where
  | reversed (low high : Char)
  | unknownClass (name : Text)
  | badCount (count : Text)

/-- A character of a set, with its escape filled in, and what follows. -/
def setChar (first : Char) (rest : Text) : Char × Text :=
  if first = '\\' then
    match rest with
    | [] => ('\\', [])
    | next :: _ =>
      match escapedChar rest with
      | ('\\', others) => if next = '\\' then ('\\', others) else (next, rest.tail)
      | found => if next = 'e' then ('e', rest.tail) else found
  else (first, rest)

/-- What brackets inside a set stand for behind their opening one, and what follows. -/
def setBrackets? (text : Text) : Option (Except CharSetFault CharRange × Text) :=
  match text with
  | ':' :: rest =>
    let name := rest.takeWhile (· != ':')
    match rest.drop name.length with
    | ':' :: ']' :: others =>
      let known := (Pattern.classes.lookup (String.ofList name)).isSome
      let found := if known then .ok (.named (String.ofList name)) else .error (.unknownClass name)
      some (found, others)
    | _ => none
  | '=' :: char :: '=' :: ']' :: others => some (.ok (.single char), others)
  | first :: rest =>
    let (char, rest) := setChar first rest
    match rest with
    | '*' :: rest =>
      let count := rest.takeWhile (· != ']')
      match rest.drop count.length with
      | ']' :: others =>
        let value := if count.head? = some '0' then Digits.number? 8 count else Text.number? count
        some (if count.isEmpty then .ok (.repeated char none)
          else
            match value with
            | some value => .ok (.repeated char (if value = 0 then none else some value))
            | none => .error (.badCount count), others)
      | _ => none
    | _ => none
  | [] => none

/-- The parts of a set of characters, of which there are at most so many. -/
def charRanges : Nat → Text → Except CharSetFault (List CharRange)
  | 0, _ => .ok []
  | _, [] => .ok []
  | count + 1, first :: rest => do
    match if first = '[' then setBrackets? rest else none with
    | some (found, others) => do
      let range ← found
      pure (range :: (← charRanges count others))
    | none =>
      let (low, rest) := setChar first rest
      match rest with
      | '-' :: next :: others =>
        let (high, others) := setChar next others
        if high < low then throw (.reversed low high)
        else pure (.range low high :: (← charRanges count others))
      | _ => pure (.single low :: (← charRanges count rest))

/-- The characters of a part of a set; `filler` is how often one that is repeated as needed
stands. -/
def CharRange.chars (filler : Nat) : CharRange → Text
  | .single char => [char]
  | .range low high => allChars.filter fun char => low ≤ char && char ≤ high
  | .named name => allChars.filter ((Pattern.classes.lookup name).getD fun _ => false)
  | .repeated char count => List.replicate (count.getD filler) char

/-- The characters of a set, filled up to a length. -/
def charsOf (length : Nat) (ranges : List CharRange) : Text :=
  let known := (ranges.flatMap (CharRange.chars 0)).length
  ranges.flatMap (CharRange.chars (length - known))

def setOf (text : Text) : Tool (List CharRange) := do
  if (text.reverse.takeWhile (· == '\\')).length % 2 = 1 then
    complain "warning: an unescaped backslash at end of string is not portable".toList
  match charRanges text.length text with
  | .ok ranges => pure ranges
  | .error (.reversed low high) =>
    fail 1 ("range-endpoints of '".toList ++ [low, '-', high] ++
      "' are in reverse collating sequence order".toList)
  | .error (.unknownClass name) => fail 1 ("invalid character class ".toList ++ Quoting.word name)
  | .error (.badCount count) =>
    fail 1 ("invalid repeat count ".toList ++ Quoting.word count ++ " in [c*n] construct".toList)

/-- Drops the characters of a set that follow an equal one. -/
def squeezed (set : Text) : Option Char → Text → Text
  | _, [] => []
  | before, char :: rest =>
    if before = some char && set.contains char then squeezed set before rest
    else char :: squeezed set (some char) rest

/-- Puts characters in place of others, or takes them away. -/
def tr : Program := fun arguments => do
  let (given, operands) ← Options.parse
    [.flag "cC" "complement", .flag "d" "delete", .flag "s" "squeeze-repeats",
      .flag "t" "truncate-set1"] arguments 1 false
  let deletes := given.has "delete"
  let squeezes := given.has "squeeze-repeats"
  let refuseAfter := fun (text : Text) (line : String) => show Tool Unit from do
    complain text
    if !line.isEmpty then write 2 (line.toList ++ ['\n'])
    suggestHelp 1
  let wanted := if deletes == squeezes then 2 else 1
  let most := if deletes && !squeezes then 1 else 2
  match operands with
  | [] => refuse 1 "missing operand".toList
  | [only] =>
    if wanted = 2 then
      refuseAfter ("missing operand after ".toList ++ Quoting.word only)
        (if deletes then "Two strings must be given when both deleting and squeezing repeats."
          else "Two strings must be given when translating.")
  | operands =>
    if operands.length > most then
      refuseAfter ("extra operand ".toList ++ Quoting.word ((operands[most]?).getD []))
        (if most = 1 && operands.length = 2 then
          "Only one string may be given when deleting without squeezing repeats." else "")
  let first ← setOf (operands.head?.getD [])
  let second ← setOf ((operands[1]?).getD [])
  let firstChars :=
    let chars := charsOf 0 first
    if given.has "complement" then allChars.filter fun char => !chars.contains char else chars
  let secondChars := charsOf firstChars.length second
  let replaces := !deletes && operands.length = 2
  let isOtherClass := fun (range : CharRange) => match range with
    | .named name => name != "upper" && name != "lower"
    | _ => false
  if replaces && second.any isOtherClass then
    fail 1 ("when translating, the only character classes that may appear in\n" ++
      "string2 are 'upper' and 'lower'").toList
  if replaces && secondChars.isEmpty && !firstChars.isEmpty && !given.has "truncate-set1" then
    fail 1 "when not truncating set1, string2 must be non-empty".toList
  let input ← takeInput
  let output :=
    if deletes then
      let kept := input.filter fun char => !firstChars.contains char
      if squeezes then squeezed secondChars none kept else kept
    else if replaces then
      let missing := if given.has "truncate-set1" then 0 else firstChars.length - secondChars.length
      let filled := secondChars ++ List.replicate missing (secondChars.getLast?.getD ' ')
      let pairs := (firstChars.zip filled).reverse
      let replaced := input.map fun char => (pairs.lookup char).getD char
      if squeezes then squeezed secondChars none replaced else replaced
    else squeezed firstChars none input
  print output
  pure 0

end ComponentSchema.Script.Tool
