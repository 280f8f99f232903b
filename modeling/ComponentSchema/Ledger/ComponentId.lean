/-!
Component ids and the supply they are handed out from.  A supply only moves up, so an id that was
issued once is never issued again.
-/

namespace ComponentSchema

/-- The number of a component, unique in a whole game world. -/
structure ComponentId where
  number : UInt32
deriving DecidableEq, Repr, Inhabited

namespace ComponentId

instance : Ord ComponentId := ⟨fun first second => compare first.number second.number⟩

instance : Std.TransOrd ComponentId where
  eq_swap {first second} := Std.OrientedOrd.eq_swap (a := first.number) (b := second.number)
  isLE_trans {first second third} :=
    Std.TransOrd.isLE_trans (a := first.number) (b := second.number) (c := third.number)

instance : Std.LawfulEqOrd ComponentId where
  compare_self {id} := Std.ReflOrd.compare_self (a := id.number)
  eq_of_compare {first second} same := by
    cases first
    cases second
    exact congrArg ComponentId.mk (Std.LawfulEqOrd.eq_of_compare same)

/-- The first id a fresh ledger hands out; all below is kept for hand-written components. -/
def baseline : ComponentId := ⟨10000⟩

/-- The id that stands for no component and is never assigned. -/
def invalid : ComponentId := ⟨0⟩

/-- The end of the id space, which marks a used-up supply and is never issued. -/
def last : ComponentId := ⟨4294967295⟩

def isValid (id : ComponentId) : Bool := id != invalid

def text (id : ComponentId) : String := toString id.number.toNat

def next (id : ComponentId) : ComponentId := ⟨id.number + 1⟩

end ComponentId

/-- The report that no id is left. -/
structure IdsExhausted where
  reached : ComponentId
deriving DecidableEq, Repr

/-- The wording of the report. -/
def IdsExhausted.message (exhausted : IdsExhausted) : String :=
  "component id space exhausted at " ++ exhausted.reached.text

/-- The ids not yet handed out, with a count of those that were. -/
structure IdSupply where
  next : ComponentId
  issued : Nat := 0
deriving DecidableEq, Repr

/-- Hands out the next id; the end of the id space is reported and changes nothing. -/
def IdSupply.take (supply : IdSupply) : Except IdsExhausted (ComponentId × IdSupply) :=
  if supply.next = .last then .error ⟨supply.next⟩
  else .ok (supply.next, ⟨supply.next.next, supply.issued + 1⟩)

end ComponentSchema
