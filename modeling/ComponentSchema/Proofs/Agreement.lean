import ComponentSchema.Proofs.Enumeration
import ComponentSchema.Proofs.History
import ComponentSchema.Proofs.Ledger.Index
import ComponentSchema.Proofs.Pass.Filing
import ComponentSchema.Proofs.Spelling

/-!
The schema tree and the ledger of one pass tell the same.  They are made at different times, the tree
while ids are handed out and the ledger when all is done, but both go by the same keys: each component
shows the id that its key has in the ledger, and the index of the ledger leads from that id back to the
owner.
-/

namespace ComponentSchema

/-- The id that a statement shows, if it shows one. -/
def Statement.id? : Statement → Option ComponentId
  | .id value => some value
  | .member _ _ _ => none

def Declaration.ids (declaration : Declaration) : List ComponentId :=
  declaration.statements.filterMap Statement.id?

def SchemaFile.components (file : SchemaFile) : List Declaration :=
  file.declarations.filter fun declaration => declaration.kind == .component

namespace Ledger

/-- A component shows the id of a key and no other, and the index leads from that id to the owner. -/
def Shows (ledger : Ledger) (key : IdKey) (declaration : Declaration) : Prop :=
  ∃ id, ledger.idOf? key = some id ∧ declaration.ids = [id] ∧
    ledger.index.find? id = some key.owner

/-- A file has one component for each of some keys, in their order, and no other component. -/
def Fills (ledger : Ledger) (keys : List IdKey) (file : SchemaFile) : Prop :=
  List.Forall₂ ledger.Shows keys file.components

/-- A file tells of a class what is on record: its schema name in the place and in all names of the
file, and the ids of the class in its components. -/
def Tells (ledger : Ledger) (slots : Nat) (node : Node) (location : List String)
    (file : SchemaFile) : Prop :=
  ∃ record kind, ledger.identity? node.path = some record ∧ node.classKind? = some kind ∧
    location = ClassFile.location kind record.schemaName ∧
    file.declarations.map Declaration.name =
      ((node.places kind slots).map fun place => record.schemaName ++ place.ending) ∧
    ledger.Fills (node.keys slots) file

end Ledger

/-- A component whose only id is the one of its key. -/
def Outline.IsPlain (outline : Outline) : Prop := outline.body.filterMap Statement.id? = []

namespace ClassFile

end ClassFile

namespace Plan

variable {plan : Plan} {reset : Bool} {queue : Option CandidateQueue} {files : FileSystem}
  {course : Course}

/-- The ledger that is saved shows all that is on record in the end. -/
theorem ReachesSaving.shows (reaches : plan.ReachesSaving reset queue files course)
    {key : IdKey} {id : ComponentId} {declaration : Declaration}
    (stored : course.numbering.ledger.idOf? key = some id) (shown : declaration.ids = [id]) :
    (sealed course).Shows key declaration := by
  obtain ⟨⟨-, distinct⟩, -⟩ := Ledger.checkIntegrity_eq_ok_iff.1 reaches.sound
  rw [← idOf?_sealed] at stored
  refine ⟨id, stored, shown, ?_⟩
  exact (Ledger.find?_index_rebuildIndex distinct).2 ⟨key, stored, rfl⟩

end Plan

/-- The small project with the tool for its class, and with a level. -/
def Plan.workroom : Plan :=
  { small with
    source :=
      { classes := .ok [.tool]
        levels := .ok [⟨"Front", "/L.Front"⟩]
        resolve? := fun _ => none } }

end ComponentSchema
