import ComponentSchema.Graph.Node
import ComponentSchema.Ledger.ComponentId
import ComponentSchema.Schema.Text

/-!
Schema files: a package and the declarations in it, and how they are written.
-/

namespace ComponentSchema

/-- A line inside a declaration. -/
inductive Statement where
  /-- The id of a component. -/
  | id (value : ComponentId)
  /-- A numbered member with its type. -/
  | member (type name : String) (number : Nat)
deriving DecidableEq, Repr

def Statement.text : Statement → String
  | .id value => "id = " ++ value.text ++ ";"
  | .member type name number => s!"{type} {name} = " ++ toString number ++ ";"

/-- The keyword a declaration begins with. -/
inductive DeclarationKind where
  | component
  | type
deriving DecidableEq, Repr

def DeclarationKind.keyword : DeclarationKind → String
  | .component => "component"
  | .type => "type"

/-- A declaration; the remark is the path of what it was made for. -/
structure Declaration where
  kind : DeclarationKind
  name : String
  statements : List Statement
  remark : Option String := none
deriving DecidableEq, Repr

namespace Declaration

/-- Writes a declaration behind a blank line. -/
def write (declaration : Declaration) (text : SchemaText) : SchemaText :=
  let remarked :=
    match declaration.remark with
    | some remark => text.blank.line ("// " ++ remark)
    | none => text.blank
  (declaration.statements.foldl (fun text statement => text.line statement.text)
    (remarked.opened (declaration.kind.keyword ++ " " ++ declaration.name))).closed

end Declaration

/-- The content of a schema file. -/
structure SchemaFile where
  package : String
  declarations : List Declaration
deriving DecidableEq, Repr

namespace SchemaFile

def render (file : SchemaFile) : String :=
  (file.declarations.foldl (fun text declaration => declaration.write text)
    (SchemaText.ofPackage file.package)).render

end SchemaFile

/-- Fields as members, numbered from one in their order. -/
def Field.members (fields : List Field) : List Statement :=
  fields.mapIdx fun index field => .member field.declaredType field.schemaName (index + 1)

end ComponentSchema
