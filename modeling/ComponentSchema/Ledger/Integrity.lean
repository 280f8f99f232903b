import ComponentSchema.Findings
import ComponentSchema.Ledger.Basic

/-!
The integrity of a ledger: ids are valid, below the watermark and never shared, and neither are
schema names.  A ledger that breaks a rule might hand out an id twice.
-/

namespace ComponentSchema

/-- What can be wrong with a ledger. -/
inductive LedgerFault where
  | lowWatermark (watermark : ComponentId)
  | invalidId
  | beyondWatermark (id watermark : ComponentId)
  | sharedId (id : ComponentId) (first : String)
  | sharedName (schemaName other : String)
deriving DecidableEq, Repr

def LedgerFault.message : LedgerFault → String
  | .lowWatermark watermark =>
    "watermark " ++ watermark.text ++ " is below the baseline " ++ ComponentId.baseline.text
  | .invalidId => "has the invalid component id 0"
  | .beyondWatermark id watermark =>
    "component id " ++ id.text ++ " is not below the watermark " ++ watermark.text
  | .sharedId id first => "component id " ++ id.text ++ s!" is also assigned to '{first}'"
  | .sharedName schemaName other => s!"schema name '{schemaName}' is also used by '{other}'"

namespace Ledger

/-- The fault of a watermark that reaches into the range kept for hand-written components. -/
def watermarkFaults (watermark : ComponentId) : List LedgerFault :=
  if watermark.number < ComponentId.baseline.number then [.lowWatermark watermark] else []

def rangeFaults (watermark id : ComponentId) : List LedgerFault :=
  if !id.isValid then [.invalidId]
  else if watermark.number ≤ id.number then [.beyondWatermark id watermark]
  else []

/-- The faults of assignments in order, each with its owner; an id is shared with its first
owner. -/
def idFaults (watermark : ComponentId) (seen : SortedMap ComponentId String) :
    List (ComponentId × String) → List (String × LedgerFault)
  | [] => []
  | (id, owner) :: rest =>
    (rangeFaults watermark id).map (owner, ·) ++
      match seen.find? id with
      | some first => (owner, .sharedId id first) :: idFaults watermark seen rest
      | none => idFaults watermark (seen.insert id owner) rest

/-- The faults of schema names in path order; a name is shared with the last path that has it. -/
def nameFaults (seen : SortedMap String String) :
    List (String × ClassRecord) → List (String × LedgerFault)
  | [] => []
  | (path, record) :: rest =>
    (match seen.find? record.schemaName with
      | some other => [(path, .sharedName record.schemaName other)]
      | none => []) ++
      nameFaults (seen.insert record.schemaName path) rest

/-- Everything wrong with a ledger. -/
def integrityFindings (ledger : Ledger) : Findings LedgerFault :=
  (idFaults ledger.nextId ∅ ledger.owners ++ nameFaults ∅ ledger.classes.entries).foldl
    (fun findings fault => findings.addFor fault.1 fault.2)
    ((watermarkFaults ledger.nextId).foldl Findings.add ∅)

/-- A ledger can be trusted exactly if nothing is wrong with it. -/
def checkIntegrity (ledger : Ledger) : Except (Findings LedgerFault) Unit :=
  ledger.integrityFindings.conclude

end Ledger

end ComponentSchema
