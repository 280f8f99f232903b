/-!
TOML values and how tables grow.  Later lines add to tables that earlier lines began, and what may
be added depends on how a table was begun: nothing is ever defined twice.
-/

namespace ComponentSchema

/-- How a table came to be. -/
inductive TableForm where
  /-- Written in braces, and complete. -/
  | closed
  /-- Only named on the way to a header's table. -/
  | implied
  /-- Opened by a header of its own. -/
  | headed
  /-- Begun by a dotted key. -/
  | dotted
deriving DecidableEq, Repr, Inhabited

/-- A value in a TOML text. -/
inductive Toml where
  | string (text : String)
  | integer (value : Int)
  /-- A truth value, a float, a date or a time, as it is written. -/
  | atom (lexeme : String)
  | array (items : List Toml)
  | table (form : TableForm) (members : List (String × Toml))
  /-- Tables listed one by one under headers in double brackets. -/
  | tables (elements : List (List (String × Toml)))
deriving Repr, Inhabited

namespace Toml

/-- The members of a table, in the order they were begun. -/
abbrev Members := List (String × Toml)

def member? (members : Members) (key : String) : Option Toml :=
  (members.find? fun member => member.1 == key).map Prod.snd

def setMember (members : Members) (key : String) (value : Toml) : Members :=
  if (member? members key).isSome then
    members.map fun member => if member.1 == key then (key, value) else member
  else members ++ [(key, value)]

def changeLast? (change : Members → Option Members) (elements : List Members) :
    Option (List Members) := do
  let last ← elements.getLast?
  pure (elements.dropLast ++ [← change last])

/-- Changes the table at the end of a header's path.  Tables that are missing on the way are
implied; those in braces cannot be entered, and of listed tables the last one is meant. -/
def changeUnder? (change : Members → Option Members) : List String → Members → Option Members
  | [], members => change members
  | key :: rest, members =>
    match member? members key with
    | none => (changeUnder? change rest []).map fun inner =>
        setMember members key (.table .implied inner)
    | some (.table .closed _) => none
    | some (.table form inner) => (changeUnder? change rest inner).map fun inner =>
        setMember members key (.table form inner)
    | some (.tables elements) =>
      (changeLast? (changeUnder? change rest) elements).map fun elements =>
        setMember members key (.tables elements)
    | some _ => none

def addMember? (key : String) (value : Toml) (members : Members) : Option Members :=
  if (member? members key).isSome then none else some (members ++ [(key, value)])

/-- Adds a value at a dotted key.  The tables on the way are begun by it or by another dotted key;
only above the innermost may one be implied by a header. -/
def addDotted? (value : Toml) : List String → Members → Option Members
  | [], _ => none
  | [key], members => addMember? key value members
  | key :: next :: rest, members =>
    match member? members key with
    | none => (addDotted? value (next :: rest) []).map fun inner =>
        setMember members key (.table .dotted inner)
    | some (.table form inner) =>
      if form = .dotted ∨ (form = .implied ∧ !rest.isEmpty) then
        (addDotted? value (next :: rest) inner).map fun inner =>
          setMember members key (.table form inner)
      else none
    | some _ => none

/-- Opens the table of a header: a new one, or one that was only implied so far. -/
def openTable? (key : String) (members : Members) : Option Members :=
  match member? members key with
  | none => some (members ++ [(key, .table .headed [])])
  | some (.table .implied inner) => some (setMember members key (.table .headed inner))
  | some _ => none

/-- Adds an empty table to the listed ones. -/
def addElement? (key : String) (members : Members) : Option Members :=
  match member? members key with
  | none => some (members ++ [(key, .tables [[]])])
  | some (.tables elements) => some (setMember members key (.tables (elements ++ [[]])))
  | some _ => none

/-- A line of a TOML text. -/
inductive Line where
  /-- A key with its value. -/
  | entry (path : List String) (value : Toml)
  /-- The header of a table. -/
  | header (path : List String)
  /-- The header of the next of some listed tables. -/
  | element (path : List String)
deriving Repr

/-- Does something at the end of a path, given what it does with the last key there. -/
def atEnd? (change : String → Members → Option Members) (path : List String) (members : Members) :
    Option Members := do
  changeUnder? (change (← path.getLast?)) path.dropLast members

/-- Adds lines to a table, given the path of the header they stand under. -/
def addLines? (members : Members) (above : List String) : List Line → Option Members
  | [] => some members
  | .entry path value :: rest => do
    addLines? (← changeUnder? (addDotted? value path) above members) above rest
  | .header path :: rest => do addLines? (← atEnd? openTable? path members) path rest
  | .element path :: rest => do addLines? (← atEnd? addElement? path members) path rest

def ofLines? (lines : List Line) : Option Members := addLines? [] [] lines

/-- The table that the entries between braces make up. -/
def ofEntries? (entries : List (List String × Toml)) : Option Members :=
  entries.foldlM (fun members entry => addDotted? entry.2 entry.1 members) []

end Toml

end ComponentSchema
