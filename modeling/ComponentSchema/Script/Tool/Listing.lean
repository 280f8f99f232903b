import ComponentSchema.Script.Tool.Sorting

/-!
Showing names of files and what is in directories: a name in a line, names in columns, or what is
known of each file.
-/

namespace ComponentSchema.Script.Tool

/-! ## Names -/

/-- A file that is listed. -/
structure Listed where
  name : Text
  location : Location
  entry : Entry

namespace Listed

def isDirectory (file : Listed) : Bool := file.entry.content == .directory

def size (file : Listed) : Nat :=
  match file.entry.content with
  | .directory => 4096
  | .file bytes => bytes.size

def kilobytes (file : Listed) : Nat := (file.size + 4095) / 4096 * 4

/-- The end of the name behind the last point. -/
def ending (file : Listed) : Text :=
  if file.name.contains '.' then '.' :: (file.name.reverse.takeWhile (· != '.')).reverse else []

end Listed

/-- A name with escapes for what cannot be seen; some other characters are escaped too. -/
def escapedName (others : List Char) (name : Text) : Text :=
  name.flatMap fun char =>
    if others.contains char then ['\\', char] else (Quoting.escape? char).getD [char]

/-- What is shown behind a name for what it names. -/
def markOf (given : Given) (entry : Entry) : Text :=
  let marks := given.has "classify" || given.has "p" || given.has "file-type" ||
    (given.last? "indicator-style").any (· != "none".toList)
  if entry.content == .directory then (if marks then ['/'] else [])
  else if given.has "classify" && entry.mode.isExecutable then ['*']
  else []

def shownName (given : Given) (file : Listed) : Text :=
  let name := match given.lastOf? ["quote-name", "escape", "literal"] with
    | some "quote-name" => '"' :: escapedName ['"', '\\'] file.name ++ ['"']
    | some "escape" => escapedName [' ', '\\'] file.name
    | _ => file.name
  name ++ markOf given file.entry

/-! ## Columns -/

/-- How wide columns are: so many of them, in which names of some lengths are put down one by one or
across. -/
def columnWidths (downward : Bool) (lengths : List Nat) (count : Nat) : List Nat :=
  let rows := (lengths.length + count - 1) / count
  (List.range count).map fun column =>
    let own := lengths.zipIdx.filter fun entry =>
      (if downward then entry.2 / rows else entry.2 % count) = column
    let gap := if column + 1 = count then 0 else 2
    own.foldl (fun width entry => max width (entry.1 + gap)) 3

/-- The greatest number of columns, up to a given one, that fit into a line. -/
def fittingColumns (downward : Bool) (lineWidth : Nat) (lengths : List Nat) : Nat → Nat
  | 0 => 1
  | count + 1 =>
    let widths := columnWidths downward lengths (count + 1)
    if widths.foldl (· + ·) 0 < lineWidth then count + 1
    else fittingColumns downward lineWidth lengths count

/-- Blanks and tabs from a column to another one; there are at most so many. -/
def indentation : Nat → Nat → Nat → Text
  | 0, _, _ => []
  | count + 1, start, stop =>
    if stop ≤ start then []
    else if (start + 1) / 8 < stop / 8 then
      '\t' :: indentation count (start + (8 - start % 8)) stop
    else ' ' :: indentation count (start + 1) stop

/-- A row of names, with the widths of their columns, from a column on. -/
def rowFrom : Nat → List (Text × Nat) → Text
  | _, [] => []
  | _, [(name, _)] => name
  | start, (name, width) :: rest =>
    name ++ indentation width (start + name.length) (start + width) ++ rowFrom (start + width) rest

def inColumns (downward : Bool) (lineWidth : Nat) (names : List Text) : Text :=
  let lengths := names.map List.length
  let count := fittingColumns downward lineWidth lengths (min names.length (lineWidth / 3))
  let widths := columnWidths downward lengths count
  let rows := (names.length + count - 1) / count
  (List.range rows).flatMap fun row =>
    let own := (names.zipIdx.filter fun entry =>
      (if downward then entry.2 % rows else entry.2 / count) = row).map Prod.fst
    rowFrom 0 (own.zip widths) ++ ['\n']

/-- Names between commas, in lines of some width; the last line holds some columns already. -/
def withCommas (lineWidth : Nat) : Nat → List Text → Text
  | _, [] => ['\n']
  | used, name :: rest =>
    match rest with
    | [] => name ++ ['\n']
    | next :: _ =>
      let column := used + name.length
      if column + next.length + 2 < lineWidth then
        name ++ [',', ' '] ++ withCommas lineWidth (column + 2) rest
      else name ++ [',', '\n'] ++ withCommas lineWidth 0 rest

/-! ## What is known of files -/

def longColumns (given : Given) (files : FileSystem) (file : Listed) : List Text :=
  let letter := if file.isDirectory then 'd' else '-'
  let links := if file.isDirectory then
      2 + ((FileSystem.namesIn files file.location).filter fun name =>
        files.isDirectoryAt (file.location ++ [name])).length
    else 1
  let owner := if given.has "numeric-uid-gid" then ['0'] else "root".toList
  [letter :: Permissions.lettersText file.entry.mode, Text.ofNat links] ++
    (if given.has "g" then [] else [owner]) ++
    (if given.has "o" || given.has "no-group" then [] else [owner]) ++
    [Text.ofNat file.size, "Jan  1  1970".toList, shownName given file]

/-- Rows with columns that are as wide as their widest parts; the last column is left as it is. -/
def aligned (rows : List (List Text)) : List Text :=
  let width := fun (column : Nat) =>
    (rows.map fun row => ((row[column]?).getD []).length).foldl max 0
  rows.map fun row =>
    Text.joined [' '] (row.zipIdx.map fun (part, column) =>
      if column + 1 = row.length then part
      else if part.all Char.isDigit then padded (width column) part
      else part ++ List.replicate (width column - part.length) ' ')

/-! ## Listings -/

/-- How names are put down. -/
inductive ListingForm where
  | lines
  | commas
  | columns (downward : Bool)
  | long
deriving DecidableEq, Repr

/-- The form that options ask for. -/
def ListingForm.ofGiven (given : Given) : ListingForm :=
  let forms : List (String × ListingForm) :=
    [("1", .lines), ("C", .columns true), ("x", .columns false), ("m", .commas), ("l", .long),
      ("g", .long), ("o", .long), ("numeric-uid-gid", .long), ("full-time", .long),
      ("long", .long), ("verbose", .long), ("commas", .commas), ("vertical", .columns true),
      ("horizontal", .columns false), ("across", .columns false), ("single-column", .lines)]
  let asked := given.filterMap fun option =>
    forms.lookup (if option.1 == "format" then String.ofList option.2 else option.1)
  match asked.getLast? with
  | some .lines => if asked.contains .long then .long else .lines
  | some form => form
  | none => .lines

def inAskedOrder (given : Given) (files : List Listed) : List Listed :=
  let byName := files.mergeSort fun first second => Text.precedes first.name second.name
  let key := given.lastOf? ["S", "X", "v", "U", "f", "sort"]
  let word := if key = some "sort" then String.ofList ((given.last? "sort").getD []) else ""
  let sorted :=
    if key = some "S" || word = "size" then
      byName.mergeSort fun first second => second.size ≤ first.size
    else if key = some "X" || word = "extension" then
      byName.mergeSort fun first second => Text.precedes first.ending second.ending
    else if key = some "v" || word = "version" then
      byName.mergeSort fun first second =>
        compareVersions (first.name.length + 1) first.name second.name != .gt
    else byName
  let turned := if given.has "reverse" then sorted.reverse else sorted
  if given.has "group-directories-first" then
    turned.filter Listed.isDirectory ++ turned.filter fun file => !file.isDirectory
  else turned

/-- Prints files in the form that options ask for. -/
def printListed (given : Given) (files : List Listed) : Tool Unit := do
  let names := files.map (shownName given)
  let width := match (given.last? "width").bind Text.number? with
    | some 0 => 1 <<< 20
    | some width => width
    | none => 80
  if files.isEmpty then pure ()
  else
    match ListingForm.ofGiven given with
    | .lines => for name in names do printLine name
    | .commas => print (withCommas width 0 names)
    | .columns downward => print (inColumns downward width names)
    | .long => do
      let system := (← get).files
      for line in aligned (files.map (longColumns given system)) do printLine line

/-- Whether a name is shown although it begins with a point. -/
def showsHidden (given : Given) : Bool :=
  given.has "all" || given.has "almost-all" || given.has "f"

def listedIn (given : Given) (location : Location) : Tool (List Listed) := do
  let files := (← get).files
  let leavesOut := fun (option : String × Text) => option.1 == "ignore" || option.1 == "hide"
  let ignored := (given.filter leavesOut).map Prod.snd
  let names := (FileSystem.namesIn files location).filter fun name =>
    (showsHidden given || name.toList.head? != some '.') &&
      !(given.has "ignore-backups" && name.toList.getLast? = some '~') &&
      !ignored.any fun pattern => Pattern.fitsText pattern (Text.ofString name)
  let found := names.filterMap fun name =>
    (files.entryAt? (location ++ [name])).map fun entry =>
      (⟨Text.ofString name, location ++ [name], entry⟩ : Listed)
  let dot := fun (name : Text) (location : Location) =>
    (files.entryAt? location).toList.map fun entry => (⟨name, location, entry⟩ : Listed)
  let dots := if given.lastOf? ["all", "almost-all", "f"] = some "almost-all" || !showsHidden given
    then [] else dot ['.'] location ++ dot ['.', '.'] location.dropLast
  pure (inAskedOrder given (dots ++ found))

/-- Shows a directory, and those in it if that is asked for; they are nested at most so deep. -/
def showTree (given : Given) : Nat → Text → Location → Bool → Tool Unit
  | 0, _, _, _ => pure ()
  | count + 1, title, location, titled => do
    let files ← listedIn given location
    if titled then printLine (title ++ [':'])
    if ListingForm.ofGiven given = .long then
      printLine ("total ".toList ++
        Text.ofNat ((files.map Listed.kilobytes).foldl (· + ·) 0))
    printListed given files
    if given.has "recursive" then
      let inner := files.filter fun file =>
        file.isDirectory && file.name ≠ ['.'] && file.name ≠ ['.', '.']
      for file in inner do
        printLine []
        showTree given count (inside title file.name) file.location true

/-- Shows directories after other output or not. -/
def showTrees (given : Given) (titled : Bool) : Bool → List Listed → Tool Unit
  | _, [] => pure ()
  | follows, file :: rest => do
    if follows then printLine []
    let depth := (← get).files.entries.entries.length + 1
    showTree given depth file.name file.location titled
    showTrees given titled true rest

/-- The options of `ls`. -/
def listingOptions : List OptionForm :=
  [.flag "a" "all", .flag "A" "almost-all", .flag "b" "escape", .valued "" "block-size",
    .flag "B" "ignore-backups", .flag "c" "", .flag "C" "", .loose "" "color",
    .flag "d" "directory", .flag "D" "dired", .flag "f" "", .flag "F" "classify",
    .flag "" "file-type", .valued "" "format", .flag "" "full-time", .flag "g" "",
    .flag "" "group-directories-first", .flag "G" "no-group", .flag "h" "human-readable",
    .flag "" "si", .flag "H" "dereference-command-line", .valued "" "hide",
    .loose "" "hyperlink", .valued "" "indicator-style", .flag "i" "inode",
    .valued "I" "ignore", .flag "k" "kibibytes", .flag "l" "", .flag "L" "dereference",
    .flag "m" "", .flag "n" "numeric-uid-gid", .flag "N" "literal", .flag "o" "", .flag "p" "",
    .flag "q" "hide-control-chars", .flag "" "show-control-chars", .flag "Q" "quote-name",
    .valued "" "quoting-style", .flag "r" "reverse", .flag "R" "recursive", .flag "s" "size",
    .flag "S" "", .valued "" "sort", .valued "" "time", .valued "" "time-style", .flag "t" "",
    .valued "T" "tabsize", .flag "u" "", .flag "U" "", .flag "v" "", .valued "w" "width",
    .flag "x" "", .flag "X" "", .flag "Z" "context", .flag "" "zero", .flag "1" ""]

/-- Prints the names of files and what is in directories. -/
def ls : Program := fun arguments => do
  let (given, operands) ← Options.parse listingOptions arguments 2 true
  let found ← (if operands.isEmpty then [['.']] else operands).mapM fun text => do
    match ← stat text with
    | .ok (location, entry) => pure (some (⟨text, location, entry⟩ : Listed))
    | .error reason => do
      if sinkPaths.contains text then
        pure (some ⟨text, [], { content := .file ByteArray.empty }⟩)
      else
        complain (problem "cannot access " text reason)
        pure none
  let ordered := inAskedOrder given (found.filterMap id)
  let isTree := fun (file : Listed) => file.isDirectory && !given.has "directory"
  let plain := ordered.filter fun file => !isTree file
  printListed given plain
  showTrees given (operands.length > 1 || given.has "recursive") (!plain.isEmpty)
    (ordered.filter isTree)
  pure (if found.all Option.isSome then 0 else 2)

end ComponentSchema.Script.Tool
