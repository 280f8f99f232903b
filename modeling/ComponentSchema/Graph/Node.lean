import ComponentSchema.Category
import ComponentSchema.Identifier

/-!
The reflected type graph: a forest of nodes.  A class stands at the top of a tree; subobjects and
field groups hang beneath it.  Paths identify things, names are the host's raw names, and children
keep the order the host reflected them in.
-/

namespace ComponentSchema

/-- One replicated property, with the schema type it was mapped to. -/
structure Field where
  path : String
  name : String
  type : String
  repeated : Bool := false
deriving DecidableEq, Repr, Inhabited

/-- The identifier of a field inside its component. -/
def Field.schemaName (field : Field) : String := identifier .field field.name

/-- The type as declared; a repeated field holds a list. -/
def Field.declaredType (field : Field) : String :=
  if field.repeated then "list<" ++ field.type ++ ">" else field.type

/-- A streaming level with its display name. -/
structure Level where
  name : String
  path : String
deriving DecidableEq, Repr, Inhabited

def Level.componentName (level : Level) : String := identifier .component level.name

/-- What a node stands for, with what only that kind of node carries. -/
inductive NodeKind where
  | classType (kind : ClassKind) (flags : ClassFlags) (cullDistance : Option UInt64)
  | fieldGroup (category : Category) (fields : List Field)
  | subobject
deriving DecidableEq, Repr, Inhabited

/-- The bare kind of a node, which is all that its children's rules depend on. -/
inductive Role where
  | classType
  | fieldGroup
  | subobject
deriving DecidableEq, Repr

def NodeKind.role : NodeKind → Role
  | .classType _ _ _ => .classType
  | .fieldGroup _ _ => .fieldGroup
  | .subobject => .subobject

/-- A node of the graph with everything beneath it. -/
structure Node where
  path : String
  name : String
  kind : NodeKind
  children : List Node := []
deriving Repr, Inhabited

namespace Node

/-- A class with plain flags. -/
def ofClass (kind : ClassKind) (path name : String) : Node :=
  { path, name, kind := .classType kind {} none }

/-- A class that owns its components directly. -/
def rootClass (path name : String) : Node := ofClass .root path name

/-- A class that is only ever attached to roots. -/
def subobjectClass (path name : String) : Node := ofClass .subobject path name

/-- A static subobject of a class or of another subobject. -/
def ofSubobject (path name : String) : Node := { path, name, kind := .subobject }

def withChild (node child : Node) : Node := { node with children := node.children ++ [child] }

/-- The node with one more field group, named after its category. -/
def withFields (node : Node) (category : Category) (fields : List Field) : Node :=
  node.withChild
    { path := node.path ++ "[" ++ category.name ++ "]", name := category.name,
      kind := .fieldGroup category fields }

/-- Sets the flags of a class; other nodes have none and stay as they are. -/
def withFlags (node : Node) (flags : ClassFlags) : Node :=
  match node.kind with
  | .classType kind _ cullDistance => { node with kind := .classType kind flags cullDistance }
  | _ => node

/-- Sets the squared cull distance of a class; other nodes have none and stay as they are. -/
def withCullDistance (node : Node) (squared : UInt64) : Node :=
  match node.kind with
  | .classType kind flags _ => { node with kind := .classType kind flags (some squared) }
  | _ => node

def role (node : Node) : Role := node.kind.role

def classKind? (node : Node) : Option ClassKind :=
  match node.kind with
  | .classType kind _ _ => some kind
  | _ => none

def classFlags? (node : Node) : Option ClassFlags :=
  match node.kind with
  | .classType _ flags _ => some flags
  | _ => none

/-- The squared cull distance of a class that has one. -/
def cullDistance? (node : Node) : Option UInt64 :=
  match node.kind with
  | .classType _ _ cullDistance => cullDistance
  | _ => none

def fieldGroup? (node : Node) : Option (Category × List Field) :=
  match node.kind with
  | .fieldGroup category fields => some (category, fields)
  | _ => none

/-- The field groups directly beneath a node. -/
def fieldGroups (node : Node) : List (Category × List Field) :=
  node.children.filterMap fieldGroup?

/-- All fields of a category directly beneath a node. -/
def fields (node : Node) (category : Category) : List Field :=
  (node.fieldGroups.filter fun group => group.1 == category).flatMap Prod.snd

/-- The categories in which a node has fields, in emission order. -/
def categories (node : Node) : List Category :=
  Category.all.filter fun category => !(node.fields category).isEmpty

/-- The static subobjects directly beneath a node. -/
def subobjects (node : Node) : List Node :=
  node.children.filter fun child => child.role == .subobject

/-- The identifier a subobject adds to the name of its parent. -/
def componentName (node : Node) : String := identifier .component node.name

end Node

/-- A step of a walk over a tree. -/
inductive Visit where
  | enter (path : String)
  | leave (path : String)
deriving DecidableEq, Repr

mutual

/-- A depth-first walk: a node is entered before its children and left after them. -/
def Node.walk : Node → List Visit
  | ⟨path, _, _, children⟩ => .enter path :: (Node.walkAll children ++ [.leave path])

def Node.walkAll : List Node → List Visit
  | [] => []
  | node :: rest => node.walk ++ Node.walkAll rest

end

/-- What happens to a state at a node, when a walk comes to it and when it leaves it. -/
structure Visitor (σ : Type) where
  enter : Node → σ → σ
  leave : Node → σ → σ

section

variable {σ : Type}

mutual

/-- Takes a visitor along the walk over a tree. -/
def Node.accept (visitor : Visitor σ) : Node → σ → σ
  | ⟨path, name, kind, children⟩, state =>
    visitor.leave ⟨path, name, kind, children⟩
      (Node.acceptAll visitor children (visitor.enter ⟨path, name, kind, children⟩ state))

def Node.acceptAll (visitor : Visitor σ) : List Node → σ → σ
  | [], state => state
  | node :: rest, state => Node.acceptAll visitor rest (node.accept visitor state)

end

end

end ComponentSchema
