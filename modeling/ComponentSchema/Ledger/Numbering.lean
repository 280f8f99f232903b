import ComponentSchema.Ledger.Basic

/-!
Numbering: looking an id up, and handing one out the first time it is asked for.
-/

namespace ComponentSchema

/-- A ledger together with the supply its new ids come from. -/
structure Numbering where
  ledger : Ledger
  supply : IdSupply
deriving DecidableEq

/-- Work that asks for ids.  What was assigned stays assigned when a later request fails. -/
abbrev Numbered (α : Type) := ExceptT IdsExhausted (StateM Numbering) α

namespace Numbering

def ofLedger (ledger : Ledger) : Numbering := ⟨ledger, ledger.supply⟩

/-- The id of a key, with the map and the supply after asking for it: a key that has an id keeps
it, and a new key gets the next id of the supply. -/
def assign {κ : Type} [Ord κ] [Std.TransOrd κ] [Std.LawfulEqOrd κ] (ids : SortedMap κ ComponentId)
    (supply : IdSupply) (key : κ) :
    Except IdsExhausted (ComponentId × SortedMap κ ComponentId × IdSupply) :=
  match ids.find? key with
  | some id => .ok (id, ids, supply)
  | none => supply.take.map fun taken => (taken.1, ids.insert key taken.1, taken.2)

def assignComponent (numbering : Numbering) (category : Category) (path : String) :
    Except IdsExhausted (ComponentId × Numbering) :=
  let ledger := numbering.ledger
  (assign (ledger.components.get category) numbering.supply path).map fun assigned =>
    (assigned.1,
      ⟨{ ledger with components := ledger.components.set category assigned.2.1 }, assigned.2.2⟩)

def assignLevel (numbering : Numbering) (path : String) :
    Except IdsExhausted (ComponentId × Numbering) :=
  let ledger := numbering.ledger
  (assign ledger.levels numbering.supply path).map fun assigned =>
    (assigned.1, ⟨{ ledger with levels := assigned.2.1 }, assigned.2.2⟩)

/-- The id of a cull distance bucket. -/
def assignDistance (numbering : Numbering) (distance : UInt64) :
    Except IdsExhausted (ComponentId × Numbering) :=
  let ledger := numbering.ledger
  (assign ledger.distances numbering.supply distance).map fun assigned =>
    (assigned.1, ⟨{ ledger with distances := assigned.2.1 }, assigned.2.2⟩)

def recordIdentity (numbering : Numbering) (path schemaName : String) (kind : ClassKind) :
    Numbering :=
  { numbering with ledger := numbering.ledger.recordIdentity path schemaName kind }

/-- Moves the watermark of the ledger up to what the supply hands out next. -/
def settle (numbering : Numbering) : Ledger :=
  { numbering.ledger with nextId := numbering.supply.next }

end Numbering

namespace Numbered

/-- A request for an id as a step of work; a refused request changes nothing. -/
def request (ask : Numbering → Except IdsExhausted (ComponentId × Numbering)) :
    Numbered ComponentId :=
  fun numbering =>
    match ask numbering with
    | .ok (id, after) => (.ok id, after)
    | .error exhausted => (.error exhausted, numbering)

def component (category : Category) (path : String) : Numbered ComponentId :=
  request fun numbering => numbering.assignComponent category path

def level (path : String) : Numbered ComponentId :=
  request fun numbering => numbering.assignLevel path

/-- Asks for the id of a cull distance bucket. -/
def distance (squared : UInt64) : Numbered ComponentId :=
  request fun numbering => numbering.assignDistance squared

end Numbered

end ComponentSchema
