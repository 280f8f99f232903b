import ComponentSchema.Script.Tool.Columns
import ComponentSchema.Script.Tool.Regex

/-!
Finding lines by patterns.
-/

namespace ComponentSchema.Script.Tool

/-- What lines are looked for. -/
structure Search where
  patterns : List Regex
  folds : Bool
  /-- Whether a match has to be a whole word. -/
  words : Bool
  /-- Whether a match has to be a whole line. -/
  lines : Bool
  /-- Whether the lines without a match are wanted. -/
  others : Bool

def literalRegex (text : Text) : Regex :=
  text.foldr (fun char rest => .sequence (.literal char) rest) .empty

/-- The longest match from an index on, and where it ends. -/
def Search.matchAt? (search : Search) (subject : Regex.Subject) (start : Nat) : Option Nat :=
  let ends := search.patterns.flatMap fun pattern =>
    (Regex.ends subject pattern ⟨start, []⟩).map Regex.Place.index
  let fits := fun (stop : Nat) =>
    (!search.lines || (start = 0 && stop = subject.chars.size)) &&
      (!search.words ||
        (!(subject.isWordBefore start) && !(subject.isWordAt stop)))
  ((ends.filter fits).mergeSort fun first second => second ≤ first).head?

/-- The first match from an index on: where it begins and where it ends. -/
def Search.find? (search : Search) (subject : Regex.Subject) (start : Nat) : Option (Nat × Nat) :=
  (List.range (subject.chars.size + 1 - start)).findSome? fun offset =>
    (search.matchAt? subject (start + offset)).map fun stop => (start + offset, stop)

/-- The parts of a line that match, with where they begin; there are at most so many. -/
def Search.parts (search : Search) (subject : Regex.Subject) : Nat → Nat → List (Nat × Text)
  | 0, _ => []
  | count + 1, start =>
    match search.find? subject start with
    | none => []
    | some (first, last) =>
      if first = last then search.parts subject count (last + 1)
      else (first, (subject.chars.extract first last).toList) :: search.parts subject count last

def Search.subject (search : Search) (line : Text) : Regex.Subject :=
  { chars := line.toArray, folds := search.folds }

def Search.wants (search : Search) (line : Text) : Bool :=
  (search.find? (search.subject line) 0).isSome != search.others

/-- How found lines are shown. -/
structure Finding where
  titles : Bool
  numbers : Bool
  offsets : Bool
  partsOnly : Bool
  before : Nat
  after : Nat
  /-- Whether a mark divides lines that do not follow each other. -/
  divides : Bool
  most? : Option Nat

/-- A line with its number and where it begins. -/
structure Numbered where
  number : Nat
  offset : Nat
  line : Text

def numberedFrom : Nat → Nat → List Text → List Numbered
  | _, _, [] => []
  | number, offset, line :: rest =>
    ⟨number, offset, line⟩ :: numberedFrom (number + 1) (offset + line.length + 1) rest

/-- What stands in front of a line that is shown. -/
def Finding.front (finding : Finding) (path : Text) (number offset : Nat) (mark : Char) : Text :=
  (if finding.titles then path ++ [mark] else []) ++
    (if finding.numbers then Text.ofNat number ++ [mark] else []) ++
    (if finding.offsets then Text.ofNat offset ++ [mark] else [])

/-- The lines that are shown for found ones among all lines. -/
def Finding.show (finding : Finding) (search : Search) (path : Text) (all : List Numbered)
    (found : List Nat) : List Text :=
  let isNear := fun (number : Nat) => found.any fun place =>
    place ≤ number + finding.before && number ≤ place + finding.after
  let shown := all.filter fun line => isNear line.number
  let texts := fun (line : Numbered) =>
    if finding.partsOnly then
      if search.others || !found.contains line.number then []
      else
        let subject := search.subject line.line
        (search.parts subject (line.line.length + 1) 0).map fun (start, part) =>
          finding.front path line.number (line.offset + start) ':' ++ part
    else
      let mark := if found.contains line.number then ':' else '-'
      [finding.front path line.number line.offset mark ++ line.line]
  (shown.foldl (fun (lines, last) line =>
    let breaks := finding.divides && 0 < last && last + 1 < line.number
    ((texts line).reverse ++ (if breaks then [['-', '-']] else []) ++ lines, line.number))
    (([] : List Text), 0)).1.reverse

/-- Ends with the wording of how a search is asked for. -/
def refuseSearch {α : Type} : Tool α := do
  write 2 ("Usage: ".toList ++ (← get).name ++ " [OPTION]... PATTERNS [FILE]...\n".toList)
  suggestHelp 2

def searchOptions : List OptionForm :=
  [.valued "A" "after-context", .flag "a" "text", .valued "B" "before-context",
    .flag "b" "byte-offset", .valued "C" "context", .flag "c" "count", .loose "" "color",
    .loose "" "colour", .valued "D" "devices", .valued "d" "directories",
    .flag "E" "extended-regexp", .valued "e" "regexp", .flag "F" "fixed-strings",
    .valued "f" "file", .flag "G" "basic-regexp", .flag "H" "with-filename",
    .flag "h" "no-filename", .flag "I" "", .valued "" "include", .valued "" "exclude",
    .valued "" "exclude-dir", .flag "iy" "ignore-case", .flag "" "no-ignore-case",
    .flag "L" "files-without-match", .flag "l" "files-with-matches", .flag "" "line-buffered",
    .valued "m" "max-count", .flag "n" "line-number", .flag "o" "only-matching",
    .flag "P" "perl-regexp", .flag "q" "quiet", .flag "" "silent",
    .flag "R" "dereference-recursive", .flag "r" "recursive", .flag "s" "no-messages",
    .flag "T" "initial-tab", .flag "U" "binary", .flag "u" "", .flag "v" "invert-match",
    .flag "w" "word-regexp", .flag "x" "line-regexp", .flag "Z" "null", .flag "z" "null-data"]

def searchNumber (given : Given) (key what : String) : Tool (Option Nat) := do
  match given.last? key with
  | none => pure none
  | some text =>
    match Text.number? text with
    | some number => pure (some number)
    | none => fail 2 what.toList

/-- Whether a file below a directory is searched, by the names from the directory down to it. -/
def isSearched (given : Given) (names : List Text) : Bool :=
  let fits := fun (key : String) (name : Text) =>
    (given.filter fun option => option.1 == key).any fun option =>
      Pattern.fitsText option.2 name
  let name := names.getLastD []
  (!given.has "include" || fits "include" name) && !fits "exclude" name &&
    !names.dropLast.any (fits "exclude-dir")

/-- The files that are searched: those in directories too, if that is asked for. -/
def searchedFiles (given : Given) (recursive : Bool) (operands : List Text) :
    Tool (List Text) := do
  let process ← get
  let found ← operands.mapM fun text => do
    match ← stat text with
    | .ok (location, { content := .directory, .. }) =>
      if recursive then
        pure (process.files.entries.entries.filterMap fun entry =>
          let names := entry.1.drop location.length
          if location.isPrefixOf entry.1 && entry.2.content != .directory &&
              isSearched given (names.map Text.ofString) then
            some (inside text (Text.ofString ("/".intercalate names)))
          else none)
      else pure [text]
    | _ => pure [text]
  pure found.flatten

def faultWording (pattern : Text) (fault : RegexFault) : Text :=
  let endsOpen := pattern.getLast? = some '[' || ['^', '['].isPrefixOf pattern.reverse
  if fault = .openBracket && endsOpen then "Invalid regular expression".toList
  else fault.message.toList

def patternsOf (given : Given) (texts : List Text) : Tool (List Regex) := do
  texts.mapM fun text => do
    if given.has "fixed-strings" then pure (literalRegex text)
    else
      let isExtended := given.has "extended-regexp" || given.has "perl-regexp"
      if isExtended then
        for mark in Regex.leadingMarks true text.length text do
          complain ("warning: " ++ mark ++ " at start of expression").toList
      match Regex.parse (if isExtended then .lenient else .basic) text with
      | .ok (regex, _) => pure regex
      | .error fault => fail 2 (faultWording text fault)

/-- Searches a file: whether it could be read, and whether something was found. -/
def searchFile (given : Given) (search : Search) (finding : Finding) (path : Text) :
    Tool (Bool × Bool) := do
  match ← read path with
  | .error reason => do
    if !given.has "no-messages" then
      complain (path ++ ": ".toList ++ plainReason reason)
    pure (false, false)
  | .ok text => do
    let title := if path = ['-'] then "(standard input)".toList else path
    let all := numberedFrom 1 0 (Text.lines text)
    let wanted := all.filter fun line => search.wants line.line
    let found := match finding.most? with
      | some most => wanted.take most
      | none => wanted
    let hit := !found.isEmpty
    let isBinary := text.contains '\x00' && !given.has "text"
    let before := if finding.titles then title ++ [':'] else []
    if given.has "quiet" || given.has "silent" then pure ()
    else if given.has "files-with-matches" then
      if hit then printLine title
    else if given.has "files-without-match" then
      if !hit then printLine title
    else if given.has "count" then printLine (before ++ Text.ofNat found.length)
    else if isBinary then
      if hit then printLine ("grep: ".toList ++ title ++ ": binary file matches".toList)
    else
      for line in finding.show search title all (found.map Numbered.number) do printLine line
    pure (true, hit != given.has "files-without-match")

/-- Finds lines by patterns. -/
def search (fixed : List (String × Text)) : Program := fun arguments => do
  let oldCounts := arguments.map fun argument =>
    match argument with
    | '-' :: first :: rest =>
      if first.isDigit && rest.all Char.isDigit then "--context=".toList ++ first :: rest
      else argument
    | _ => argument
  match Options.split (searchOptions ++ Options.shared) true oldCounts.length oldCounts with
  | .error fault => do
    complain fault.message
    refuseSearch
  | .ok (given, operands) => do
    let given : Given := fixed ++ given
    let named := given.filterMap fun option =>
      if option.1 == "regexp" then some option.2 else none
    let listed ← (given.filter fun option => option.1 == "file").mapM fun option => do
      match ← read option.2 with
      | .ok text => pure (Text.lines text)
      | .error reason => fail 2 (option.2 ++ ": ".toList ++ plainReason reason)
    let isNamed := given.has "regexp" || given.has "file"
    let (texts, operands) ←
      if isNamed then
        pure (named.flatMap (Text.splitAt '\n') ++ listed.flatten, operands)
      else
        match operands with
        | [] => refuseSearch
        | pattern :: operands => pure (Text.splitAt '\n' pattern, operands)
    let patterns ← patternsOf given texts
    let recursive := given.has "recursive" || given.has "dereference-recursive"
    let context := (← searchNumber given "context" "invalid context length argument").getD 0
    let startsDeep ← isDirectory (operands.head?.getD [])
    let finding : Finding := {
      titles :=
        match given.lastOf? ["with-filename", "no-filename"] with
        | some key => key == "with-filename"
        | none => operands.length > 1 || (recursive && (operands.isEmpty || startsDeep))
      numbers := given.has "line-number"
      offsets := given.has "byte-offset"
      partsOnly := given.has "only-matching"
      before := (← searchNumber given "before-context" "invalid context length argument").getD
        context
      after := (← searchNumber given "after-context" "invalid context length argument").getD
        context
      divides := ["context", "before-context", "after-context"].any given.has &&
        !given.has "only-matching"
      most? := ← searchNumber given "max-count" "invalid max count" }
    let paths ←
      if operands.isEmpty then
        if recursive then do
          pure ((← searchedFiles given true [['.']]).map (List.drop 2))
        else pure [['-']]
      else searchedFiles given recursive operands
    let looked : Search := {
      patterns
      folds := given.lastOf? ["ignore-case", "no-ignore-case"] == some "ignore-case"
      words := given.has "word-regexp"
      lines := given.has "line-regexp"
      others := given.has "invert-match" }
    let results ← paths.mapM (searchFile given looked finding)
    let isFine := results.all Prod.fst
    let hit := results.any Prod.snd
    let isQuiet := given.has "quiet" || given.has "silent"
    pure (if hit && (isFine || isQuiet) then 0 else if isFine then 1 else 2)

end ComponentSchema.Script.Tool
