/-!
The fixed vocabulary of the reflected graph: the categories that fields are split into, the two
kinds of class, and the flags that a class carries.
-/

namespace ComponentSchema

/-- The partition a field belongs to.  Each category of a class has a component of its own. -/
inductive Category where
  | state
  | ownerRestricted
  | transferable
deriving DecidableEq, Repr, Inhabited

namespace Category

/-- All categories in emission order, which is also the order ids are handed out in. -/
def all : List Category := [.state, .ownerRestricted, .transferable]

/-- The name shown to people. -/
def name : Category → String
  | .state => "State"
  | .ownerRestricted => "OwnerRestricted"
  | .transferable => "Transferable"

/-- The name used in files. -/
def key : Category → String
  | .state => "state"
  | .ownerRestricted => "owner_restricted"
  | .transferable => "transferable"

/-- What the component name of a category ends in. -/
def suffix : Category → String
  | .state => ""
  | .ownerRestricted => "OwnerOnly"
  | .transferable => "Handover"

/-- What the fields of a category are called in reports. -/
def fieldLabel : Category → String
  | .state => "Replicated property"
  | .ownerRestricted => "Owner-only property"
  | .transferable => "Handover property"

/-- The category with a given name in files. -/
def ofKey? (key : String) : Option Category := all.find? fun category => category.key == key

/-- The category with a given shown name, in any ASCII casing. -/
def parse? (text : String) : Option Category :=
  all.find? fun category =>
    category.name.toList.map Char.toLower == text.toList.map Char.toLower

/-- The report on a text that names no category. -/
def unknownMessage : String := "Invalid `Category` string representation"

end Category

/-- Root classes own components; subobject classes are attached to roots through dynamic slots. -/
inductive ClassKind where
  | root
  | subobject
deriving DecidableEq, Repr, Inhabited

namespace ClassKind

def all : List ClassKind := [.root, .subobject]

/-- The name shown to people. -/
def name : ClassKind → String
  | .root => "Root"
  | .subobject => "Subobject"

/-- The name used in files. -/
def key : ClassKind → String
  | .root => "root"
  | .subobject => "subobject"

/-- The kind with a given name in files. -/
def ofKey? (key : String) : Option ClassKind := all.find? fun kind => kind.key == key

/-- The kind with a given shown name, in any ASCII casing. -/
def parse? (text : String) : Option ClassKind :=
  all.find? fun kind => kind.name.toList.map Char.toLower == text.toList.map Char.toLower

/-- The report on a text that names no kind of class. -/
def unknownMessage : String := "Invalid `ClassKind` string representation"

end ClassKind

/-- What the host says about a class; only plain spatial classes get a schema. -/
structure ClassFlags where
  editorOnly : Bool := false
  spatialType : Bool := true
  layoutChanging : Bool := false
deriving DecidableEq, Repr, Inhabited

end ComponentSchema
