import ComponentSchema.Identifier
import ComponentSchema.Ledger.Basic

/-!
The registry of schema names.  Names become file and package names, so no two may be equal even up
to case.  A path keeps the name it has; a new path gets its own name if that is free, and otherwise
the first free one with a number behind it.  Whoever wanted a name is remembered with what it got,
so that a clash can be told in full.
-/

namespace ComponentSchema

/-- A path that wanted a name, with the name it has. -/
structure NameClaim where
  path : String
  schemaName : String
deriving DecidableEq, Repr, Inhabited

/-- Everyone who wanted one name. -/
structure NameClash where
  desired : String
  claims : List NameClaim
deriving DecidableEq, Repr

/-- The claims on one line. -/
def NameClash.describe (clash : NameClash) : String :=
  ", ".intercalate (clash.claims.map fun claim => claim.path ++ "(" ++ claim.schemaName ++ ")")

/-- The names in use. -/
structure NameRegistry where
  byPath : SortedMap String String := ∅
  /-- The names in use by their folded form. -/
  taken : SortedMap String String := ∅
  /-- The claims filed under each name that was wanted or given. -/
  claims : SortedMap String (List NameClaim) := ∅
deriving DecidableEq, Inhabited

namespace NameRegistry

/-- Whether a name is in use, up to case. -/
def isTaken (registry : NameRegistry) (name : String) : Bool :=
  registry.taken.contains (foldCase name)

def schemaName? (registry : NameRegistry) (path : String) : Option String :=
  registry.byPath.find? path

/-- Files a claim under a name. -/
def file (registry : NameRegistry) (name path schemaName : String) : NameRegistry :=
  { registry with claims := registry.claims.update name [] (· ++ [⟨path, schemaName⟩]) }

/-- Gives a path its name.  The claim is filed under the name it got as well, so that whoever wants
that name later stands in one group with its holder. -/
def claim (registry : NameRegistry) (path desired schemaName : String) : NameRegistry :=
  let named : NameRegistry :=
    { registry with
      byPath := registry.byPath.insert path schemaName
      taken := registry.taken.insertIfNew (foldCase schemaName) schemaName }
  let filed := if desired = schemaName then named else named.file schemaName path schemaName
  filed.file desired path schemaName

/-- A registry that holds every identity of a ledger. -/
def ofLedger (ledger : Ledger) : NameRegistry :=
  ledger.classes.entries.foldl
    (fun registry entry =>
      registry.claim entry.1 (identifier .type (assetName entry.1)) entry.2.schemaName)
    {}

def numbered (raw : String) (number : Nat) : String :=
  identifier .type (raw ++ toString number)

/-- The first free name among so many numbers from a given one on, or else the one after them. -/
def firstFree (registry : NameRegistry) (raw : String) : Nat → Nat → String
  | 0, number => numbered raw number
  | attempts + 1, number =>
    if registry.isTaken (numbered raw number) then firstFree registry raw attempts (number + 1)
    else numbered raw number

/-- The name a new path gets.  Different numbers give different names, so one more try than there
are names in use always finds a free one. -/
def freeName (registry : NameRegistry) (raw : String) : String :=
  let desired := identifier .type raw
  if registry.isTaken desired then registry.firstFree raw registry.taken.size 1 else desired

/-- The name of a path whose raw name is given, and the registry after asking for it.  A holder
whose name differs in case is told of the claim under its own spelling. -/
def resolve (registry : NameRegistry) (path raw : String) : String × NameRegistry :=
  match registry.schemaName? path with
  | some name => (name, registry)
  | none =>
    let desired := identifier .type raw
    let name := registry.freeName raw
    let told :=
      match registry.taken.find? (foldCase desired) with
      | some holder => if holder = desired then registry else registry.file holder path name
      | none => registry
    (name, told.claim path desired name)

/-- The names claimed more than once, in name order. -/
def clashes (registry : NameRegistry) : List NameClash :=
  (registry.claims.entries.filter fun entry => entry.2.length > 1).map fun entry =>
    ⟨entry.1, entry.2⟩

end NameRegistry

end ComponentSchema
