import ComponentSchema.Ledger.Numbering
import ComponentSchema.Schema.File

/-!
The schema file of one class.  A root class has a component for each category in which it has
fields, and so have its static subobjects, depth first.  A subobject class has a data type for each
category and, slot by slot, the components that carry them.
-/

namespace ComponentSchema.ClassFile

/-- The package of a class file, in lower case since packages are. -/
def package (schemaName : String) : String := "unreal.generated." ++ foldCase schemaName

def component (name : String) (node : Node) (category : Category) (id : ComponentId) :
    Declaration :=
  { kind := .component, name := name ++ category.suffix,
    statements := .id id :: Field.members (node.fields category), remark := some node.path }

/-- The components of a node itself, in emission order. -/
def ownComponents (name : String) (node : Node) : Numbered (List Declaration) :=
  node.categories.mapM fun category => do
    pure (component name node category (← Numbered.component category node.path))

mutual

/-- The components of a node and of the static subobjects beneath it. -/
def treeComponents (name : String) : Node → Numbered (List Declaration)
  | ⟨path, raw, kind, children⟩ => do
    let own ← ownComponents name ⟨path, raw, kind, children⟩
    let below ← subobjectComponents name children
    pure (own ++ below)

/-- The components of the subobjects among some children; their names continue their parent's. -/
def subobjectComponents (name : String) : List Node → Numbered (List Declaration)
  | [] => pure []
  | child :: rest => do
    let first ←
      if child.role = .subobject then treeComponents (name ++ child.componentName) child
      else pure []
    let others ← subobjectComponents name rest
    pure (first ++ others)

end

/-- The name of the data type of a subobject class in one category. -/
def dataTypeName (schemaName : String) (category : Category) : String :=
  schemaName ++ category.suffix ++ "Data"

def dataType (schemaName : String) (node : Node) (category : Category) : Declaration :=
  { kind := .type, name := dataTypeName schemaName category,
    statements := Field.members (node.fields category), remark := some node.path }

/-- The key of a slot among the owners of components. -/
def slotPath (path : String) (slot : Nat) : String := path ++ "#" ++ toString slot

def slotComponent (schemaName : String) (slot : Nat) (category : Category) (id : ComponentId) :
    Declaration :=
  { kind := .component, name := schemaName ++ "Dynamic" ++ toString slot ++ category.suffix,
    statements := [.id id, .member (dataTypeName schemaName category) "data" 1] }

/-- The components of one slot, in emission order. -/
def slotComponents (schemaName : String) (node : Node) (slot : Nat) :
    Numbered (List Declaration) :=
  node.categories.mapM fun category => do
    pure (slotComponent schemaName slot category
      (← Numbered.component category (slotPath node.path slot)))

/-- The components of so many slots from a given one on; the first slot without an id ends the
work. -/
def slotComponentsFrom (schemaName : String) (node : Node) : Nat → Nat → Numbered (List Declaration)
  | 0, _ => pure []
  | count + 1, slot => do
    let first ← slotComponents schemaName node slot
    let others ← slotComponentsFrom schemaName node count (slot + 1)
    pure (first ++ others)

/-- The components of all slots, counted from one; a class without fields needs none. -/
def allSlotComponents (schemaName : String) (node : Node) (slots : Nat) :
    Numbered (List Declaration) :=
  if node.categories.isEmpty then pure [] else slotComponentsFrom schemaName node slots 1

def declarations (kind : ClassKind) (slots : Nat) (schemaName : String) (node : Node) :
    Numbered (List Declaration) :=
  match kind with
  | .root => treeComponents schemaName node
  | .subobject => do
    let types := node.categories.map (dataType schemaName node)
    let dynamic ← allSlotComponents schemaName node slots
    let static ← subobjectComponents schemaName node.children
    pure (types ++ dynamic ++ static)

def build (kind : ClassKind) (slots : Nat) (schemaName : String) (node : Node) :
    Numbered SchemaFile := do
  pure { package := package schemaName,
         declarations := ← declarations kind slots schemaName node }

def location (kind : ClassKind) (schemaName : String) : List String :=
  match kind with
  | .root => [schemaName ++ ".schema"]
  | .subobject => ["Subobjects", schemaName ++ ".schema"]

end ComponentSchema.ClassFile
