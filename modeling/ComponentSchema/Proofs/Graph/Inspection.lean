import ComponentSchema.Graph.Validation
import ComponentSchema.Proofs.Findings

/-!
What an inspection finds in a tree.  Between two trees it has no route and is inside of no node; within a
tree the stack of ancestors is as high after a node as before it, so every fault of the tree is filed under
the path of its top node, whatever was inspected before.
-/

namespace ComponentSchema

namespace Validation

mutual

/-- The faults of a node and of everything beneath it, parents first. -/
def nodeFaults (parent : Option Role) : Node → List GraphFault
  | ⟨path, name, kind, children⟩ =>
    ownFaults parent ⟨path, name, kind, children⟩ ++ forestFaults (some kind.role) children

/-- The faults of siblings, in order. -/
def forestFaults (parent : Option Role) : List Node → List GraphFault
  | [] => []
  | node :: rest => nodeFaults parent node ++ forestFaults parent rest

end

/-- The findings on one top-level tree: its faults under its path, or nothing at all. -/
def treeFindings (node : Node) : Findings GraphFault :=
  (∅ : Findings GraphFault).file node.path (nodeFaults none node)

/-- The findings on all trees, each tree looked at for itself. -/
def forestFindings (classes : List Node) : Findings GraphFault :=
  classes.foldl (fun findings node => findings.merge (treeFindings node)) ∅

theorem merge_treeFindings (found : Findings GraphFault) (node : Node) :
    found.merge (treeFindings node) = found.file node.path (nodeFaults none node) :=
  Findings.merge_file found node.path (nodeFaults none node)

namespace Inspection

variable {found : Findings GraphFault} {route : String} {parent : Role} {ancestors : List Role}

theorem record_routed (faults : List GraphFault) :
    record ⟨found, some route, ancestors⟩ faults =
      ⟨found.file route faults, some route, ancestors⟩ := by
  unfold record Findings.conclude Findings.file Findings.mergeFor
  by_cases empty : (faults.foldl Findings.add ∅).isEmpty = true
  · simp only [empty, if_true]
  · simp only [empty, if_false, Bool.false_eq_true]

theorem enter_top (node : Node) :
    enter node ⟨found, none, []⟩ =
      ⟨found.file node.path (ownFaults none node), some node.path, [node.role]⟩ := by
  unfold enter
  simp only [List.isEmpty_nil, if_true, record_routed, List.head?_nil]

theorem enter_inside (node : Node) :
    enter node ⟨found, some route, parent :: ancestors⟩ =
      ⟨found.file route (ownFaults (some parent) node), some route,
        node.role :: parent :: ancestors⟩ := by
  unfold enter
  simp only [List.isEmpty_cons, Bool.false_eq_true, if_false, record_routed, List.head?_cons]

theorem leave_top {role : Role} {route : Option String} :
    leave ⟨found, route, [role]⟩ = ⟨found, none, []⟩ := rfl

theorem leave_inside {role : Role} {route : Option String} :
    leave ⟨found, route, role :: parent :: ancestors⟩ = ⟨found, route, parent :: ancestors⟩ := rfl

mutual

/-- A tree beneath a node is filed under the route, and leaves the ancestors as they were. -/
theorem accept_inside (node : Node) (found : Findings GraphFault) (route : String) (parent : Role)
    (ancestors : List Role) :
    node.accept visitor ⟨found, some route, parent :: ancestors⟩ =
      ⟨found.file route (nodeFaults (some parent) node), some route, parent :: ancestors⟩ := by
  obtain ⟨path, name, kind, children⟩ := node
  rw [Node.accept, nodeFaults, ← Findings.file_append]
  change leave (Node.acceptAll visitor children (enter ⟨path, name, kind, children⟩ _)) = _
  rw [enter_inside, acceptAll_inside children, leave_inside]
  rfl

theorem acceptAll_inside (nodes : List Node) (found : Findings GraphFault) (route : String)
    (parent : Role) (ancestors : List Role) :
    Node.acceptAll visitor nodes ⟨found, some route, parent :: ancestors⟩ =
      ⟨found.file route (forestFaults (some parent) nodes), some route, parent :: ancestors⟩ := by
  cases nodes with
  | nil => rw [Node.acceptAll, forestFaults, Findings.file_nil]
  | cons node rest =>
    rw [Node.acceptAll, accept_inside node, acceptAll_inside rest, forestFaults,
      Findings.file_append]

end

/-- A tree at the top is filed under its path, and leaves no route behind. -/
theorem accept_top (node : Node) (found : Findings GraphFault) :
    node.accept visitor ⟨found, none, []⟩ = ⟨found.merge (treeFindings node), none, []⟩ := by
  rw [merge_treeFindings]
  obtain ⟨path, name, kind, children⟩ := node
  rw [Node.accept, nodeFaults, ← Findings.file_append]
  change leave (Node.acceptAll visitor children (enter ⟨path, name, kind, children⟩ _)) = _
  rw [enter_top, acceptAll_inside, leave_top]
  rfl

end Inspection

/-- One inspection of all trees finds what an inspection for each tree would. -/
theorem inspect_eq (classes : List Node) : inspect classes = ⟨forestFindings classes, none, []⟩ := by
  have walked (found : Findings GraphFault) :
      classes.foldl (fun inspection node => node.accept Inspection.visitor inspection)
          ⟨found, none, []⟩ =
        ⟨classes.foldl (fun found node => found.merge (treeFindings node)) found, none, []⟩ := by
    induction classes generalizing found with
    | nil => rfl
    | cons node rest ih => rw [List.foldl_cons, Inspection.accept_top, ih, List.foldl_cons]
  exact walked ∅

theorem found_inspect (classes : List Node) : (inspect classes).found = forestFindings classes := by
  rw [inspect_eq]

end Validation

end ComponentSchema
