/-!
Paths as text.  A path is kept as it was written: joining adds at most one separator and nothing is
normalised.  Only when a path is taken apart do repeated separators, trailing separators and inner
dots not count.
-/

namespace ComponentSchema

/-- A path with slashes between its segments. -/
abbrev Path := String

namespace Path

/-- What a path is made of. -/
inductive Component where
  /-- The slash an absolute path begins with. -/
  | root
  /-- The dot a relative path begins with. -/
  | here
  /-- Two dots. -/
  | up
  | name (text : List Char)
deriving DecidableEq, Repr

/-- The text between separators; `n` separators give `n + 1` pieces. -/
def pieces : List Char → List (List Char)
  | [] => [[]]
  | char :: rest =>
    if char = '/' then [] :: pieces rest
    else
      match pieces rest with
      | [] => [[char]]
      | piece :: others => (char :: piece) :: others

/-- Pieces that stand for the directory they are in. -/
def isIdle (piece : List Char) : Bool := piece == [] || piece == ['.']

/-- The part of a path that comes before its inner pieces, and those pieces: a slash at the start
and a dot that is the whole first piece count even where they would be idle further in. -/
def split (path : List Char) : Option Component × List (List Char) :=
  match path with
  | '/' :: rest => (some .root, pieces rest)
  | ['.'] => (some .here, [])
  | '.' :: '/' :: rest => (some .here, pieces rest)
  | _ => (none, pieces path)

def components (path : Path) : List Component :=
  let (lead, inner) := split path.toList
  lead.toList ++ (inner.filter fun piece => !isIdle piece).map fun piece =>
    if piece = ['.', '.'] then .up else .name piece

/-- Whether a path starts at the root. -/
def isAbsolute (path : Path) : Bool := path.toList.head? == some '/'

def endsInSeparator (path : Path) : Bool := path.toList.getLast? == some '/'

/-- The last text between separators. -/
def lastPiece? (path : Path) : Option (List Char) :=
  ((pieces path.toList).filter fun piece => !piece.isEmpty).getLast?

/-- A path seen from a base: an absolute path replaces the base, and a relative one follows it after
a separator, unless the base is empty or ends in one. -/
def join (base path : Path) : Path :=
  if path.isAbsolute then path
  else
    match base.toList.getLast? with
    | none => path
    | some '/' => base ++ path
    | some _ => base ++ "/" ++ path

/-- Drops the idle pieces at the end. -/
def trim (inner : List (List Char)) : List (List Char) :=
  (inner.reverse.dropWhile isIdle).reverse

/-- The text of a lead and inner pieces. -/
def unsplit : Option Component → List (List Char) → List Char
  | some .root, inner => '/' :: ['/'].intercalate inner
  | some .here, [] => ['.']
  | some .here, inner => '.' :: '/' :: ['/'].intercalate inner
  | _, inner => ['/'].intercalate inner

/-- The path without its last component; the root and the empty path have none to lose. -/
def parent? (path : Path) : Option Path :=
  let (lead, inner) := split path.toList
  match trim inner, lead with
  | [], some .here => some ""
  | [], _ => none
  | kept, lead => some (String.ofList (unsplit lead (trim kept.dropLast)))

/-- The last component, if it is a name. -/
def fileName? (path : Path) : Option String :=
  match (components path).getLast? with
  | some (.name text) => some (String.ofList text)
  | _ => none

/-- The path with another last component in place of its own. -/
def withFileName (path : Path) (name : String) : Path :=
  if (fileName? path).isSome then join ((parent? path).getD "") name else join path name

/-- The path with everything above it, nearest first, up to but without the root or the empty path;
there are never more of them than so many steps. -/
def ancestors : Nat → Path → List Path
  | 0, _ => []
  | steps + 1, path =>
    match parent? path with
    | none => []
    | some above => path :: ancestors steps above

/-- The path with everything above it. -/
def lineage (path : Path) : List Path := ancestors (path.length + 1) path

end Path

end ComponentSchema
