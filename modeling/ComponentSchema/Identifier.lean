/-!
Schema identifiers.  The host names things as it likes; the schema language knows ASCII letters and
digits only.  Making an identifier drops everything else, so it is lossy: callers look for clashes
afterwards, and an unusable result is reported, never repaired.
-/

namespace ComponentSchema

/-- Where an identifier is used, which decides its casing. -/
inductive Scope where
  /-- Top-level class names, which keep the host's casing. -/
  | type
  /-- Component names of subobjects and levels, which begin with a capital. -/
  | component
  /-- Field names, which have no capitals. -/
  | field
deriving DecidableEq, Repr, Inhabited

/-- The casing a scope asks for. -/
def Scope.recase : Scope → List Char → List Char
  | .type, name => name
  | .component, [] => []
  | .component, first :: rest => first.toUpper :: rest
  | .field, name => name.map Char.toLower

/-- The identifier of a raw name: its ASCII letters and digits, in the casing of the scope. -/
def identifier (scope : Scope) (raw : String) : String :=
  String.ofList (scope.recase (raw.toList.filter Char.isAlphanum))

/-- Why an identifier cannot stand in a schema. -/
inductive NameFault where
  | empty
  | leadingDigit
deriving DecidableEq, Repr

def nameFault (name : String) : Option NameFault :=
  match name.toList with
  | [] => some .empty
  | first :: _ => if first.isDigit then some .leadingDigit else none

/-- The report on an unusable name of some kind of thing, naming its owner. -/
def NameFault.message (fault : NameFault) (label name owner : String) : String :=
  match fault with
  | .empty => s!"{label} {owner} is empty after removing non-alphanumeric characters"
  | .leadingDigit =>
    s!"{label} names should not start with digits: '{name}' ({owner}) has leading digits, " ++
      "possibly after removing non-alphanumeric characters"

/-- Names equal up to ASCII case have one folded form. -/
def foldCase (name : String) : String := String.ofList (name.toList.map Char.toLower)

/-- The characters that separate the segments of a class path. -/
def isPathMark (char : Char) : Bool := char == '.' || char == '/' || char == ':'

/-- The last segment of a class path, which is the name of the asset. -/
def assetName (path : String) : String :=
  String.ofList (path.toList.reverse.takeWhile fun char => !isPathMark char).reverse

end ComponentSchema
