import ComponentSchema.Findings
import ComponentSchema.Graph.Node
import ComponentSchema.SortedMap

/-!
Validation of a type graph.  Nothing stops early: every fault of every node is found, and filed
under the path of the top-level node it lies in, so that one bad class never hides another.
-/

namespace ComponentSchema

/-- What can be wrong with a type graph. -/
inductive GraphFault where
  /-- A node at the top that is no class. -/
  | topLevelNotClass (path : String)
  /-- A class beneath another node. -/
  | nestedClass (path : String)
  /-- A field group that has children. -/
  | groupWithChildren (path : String)
  /-- A node beneath a field group. -/
  | insideFieldGroup (path : String)
  /-- A name that makes no identifier. -/
  | unusableName (fault : NameFault) (label name owner : String)
  /-- A second field group of one category beneath one node. -/
  | repeatedGroup (path : String) (category : Category)
  /-- Two siblings whose names make one identifier. -/
  | nameClash (label name first second : String)
  /-- A class path that was listed before. -/
  | repeatedClass (path : String)
  /-- A level path that was listed before. -/
  | repeatedLevel (path first second : String)
deriving DecidableEq, Repr

def GraphFault.message : GraphFault → String
  | .topLevelNotClass path => s!"top-level node '{path}' is not a class"
  | .nestedClass path =>
    s!"class '{path}' cannot be nested inside another node; list it at the top level"
  | .groupWithChildren path => s!"field group '{path}' cannot have children"
  | .insideFieldGroup path => s!"node '{path}' is nested inside a field group"
  | .unusableName fault label name owner => fault.message label name owner
  | .repeatedGroup path category =>
    s!"'{path}' has more than one " ++ category.name ++ " field group"
  | .nameClash label name first second =>
    s!"{label} name collision after removing non-alphanumeric characters: " ++
      s!"'{name}' collides for '{first}' and '{second}'"
  | .repeatedClass path => s!"class '{path}' is listed more than once"
  | .repeatedLevel path first second =>
    s!"level '{path}' is listed more than once (as '{first}' and '{second}')"

namespace Validation

/-- The fault of one name that is to be an identifier, as a list of none or one. -/
def nameFaults (label name owner : String) : List GraphFault :=
  (nameFault name).toList.map fun fault => .unusableName fault label name owner

/-- The faults of sibling names, each given with its owner; a clash is reported against the first
owner of the name. -/
def siblingFaults (label : String) (seen : SortedMap String String) :
    List (String × String) → List GraphFault
  | [] => []
  | (name, owner) :: rest =>
    nameFaults label name owner ++
      match seen.find? name with
      | some first => .nameClash label name first owner :: siblingFaults label seen rest
      | none => siblingFaults label (seen.insert name owner) rest

/-- A fault for every field group whose category an earlier sibling has. -/
def groupFaults (path : String) (seen : List Category) : List Category → List GraphFault
  | [] => []
  | category :: rest =>
    if seen.contains category then .repeatedGroup path category :: groupFaults path seen rest
    else groupFaults path (category :: seen) rest

/-- The faults among the direct children of a class or subobject. -/
def childFaults (node : Node) : List GraphFault :=
  groupFaults node.path [] (node.fieldGroups.map Prod.fst) ++
    siblingFaults "Subobject" ∅ (node.subobjects.map fun child => (child.componentName, child.path))

/-- The faults of a field group beneath a class or subobject. -/
def fieldFaults (node : Node) (category : Category) (fields : List Field) : List GraphFault :=
  (if node.children.isEmpty then [] else [.groupWithChildren node.path]) ++
    siblingFaults category.fieldLabel ∅ (fields.map fun field => (field.schemaName, field.path))

/-- The faults of a node itself, given the kind of its parent if it has one. -/
def ownFaults (parent : Option Role) (node : Node) : List GraphFault :=
  match node.kind, parent with
  | .classType _ _ _, none =>
    nameFaults "Class" (identifier .type node.name) node.path ++ childFaults node
  | _, none => [.topLevelNotClass node.path]
  | .classType _ _ _, some _ => [.nestedClass node.path]
  | _, some .fieldGroup => [.insideFieldGroup node.path]
  | .subobject, some _ => childFaults node
  | .fieldGroup category fields, some _ => fieldFaults node category fields

/-- A validation on its way through a graph: what it found, the route it files under, and the bare kinds
of the nodes it is inside of, innermost first. -/
structure Inspection where
  found : Findings GraphFault := ∅
  route : Option String := none
  ancestors : List Role := []

namespace Inspection

/-- Files the faults of one node under the route, or at the root where there is none. -/
def record (inspection : Inspection) (faults : List GraphFault) : Inspection :=
  match (faults.foldl Findings.add ∅).conclude, inspection.route with
  | .ok (), _ => inspection
  | .error own, some route => { inspection with found := inspection.found.mergeFor route own }
  | .error own, none => { inspection with found := inspection.found.merge own }

/-- Checks a node; one that is inside of no other gives the route. -/
def enter (node : Node) (inspection : Inspection) : Inspection :=
  let routed := if inspection.ancestors.isEmpty then { inspection with route := some node.path }
    else inspection
  let checked := routed.record (ownFaults inspection.ancestors.head? node)
  { checked with ancestors := node.role :: inspection.ancestors }

/-- Goes back to the parent; outside of all nodes there is no route. -/
def leave (inspection : Inspection) : Inspection :=
  { inspection with
    ancestors := inspection.ancestors.tail
    route := if inspection.ancestors.tail.isEmpty then none else inspection.route }

/-- The visitor that checks every node. -/
def visitor : Visitor Inspection where
  enter := enter
  leave _ := leave

end Inspection

/-- Checks tree after tree, with one inspection for all of them. -/
def inspect (classes : List Node) : Inspection :=
  classes.foldl (fun inspection node => node.accept Inspection.visitor inspection) {}

/-- A fault for every class whose path an earlier class has. -/
def repeatedClasses (seen : SortedSet String) : List Node → List (String × GraphFault)
  | [] => []
  | node :: rest =>
    if seen.contains node.path then
      (node.path, .repeatedClass node.path) :: repeatedClasses seen rest
    else repeatedClasses (seen.insert node.path ()) rest

/-- The faults of levels: names that make no identifier, and paths listed before, each with the
name it was last listed under. -/
def levelFaults (seen : SortedMap String String) : List Level → List (String × GraphFault)
  | [] => []
  | level :: rest =>
    (nameFaults "Level" level.componentName level.path).map (level.path, ·) ++
      (match seen.find? level.path with
        | some first => [(level.path, .repeatedLevel level.path first level.name)]
        | none => []) ++
      levelFaults (seen.insert level.path level.name) rest

/-- All findings on a graph: tree by tree first, then what takes the whole graph to see. -/
def findings (classes : List Node) (levels : List Level) : Findings GraphFault :=
  (repeatedClasses ∅ classes ++ levelFaults ∅ levels).foldl
    (fun findings fault => findings.addFor fault.1 fault.2) (inspect classes).found

/-- A graph passes exactly if nothing was found. -/
def check (classes : List Node) (levels : List Level) : Except (Findings GraphFault) Unit :=
  (findings classes levels).conclude

/-- A class whose schema name differs from the name the host gave it. -/
structure Rename where
  path : String
  raw : String
  schemaName : String
deriving DecidableEq, Repr

/-- The renaming of a top-level node, if it is a class with a usable name other than its own. -/
def rename? (node : Node) : Option Rename :=
  let schemaName := identifier .type node.name
  if node.role = .classType ∧ nameFault schemaName = none ∧ schemaName ≠ node.name then
    some ⟨node.path, node.name, schemaName⟩
  else none

end Validation

end ComponentSchema
