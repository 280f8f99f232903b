import ComponentSchema.Proofs.Graph.Validation

/-!
The static subobjects of a class.  Each of them stands behind the chain of names that leads to it, and
where no two siblings have the same name, no two subobjects of a class stand behind the same chain.
-/

namespace ComponentSchema

namespace Node

/-- What holds of a node where it holds of its children holds of every node. -/
theorem ofChildren {motive : Node → Prop}
    (step : ∀ node : Node, (∀ child ∈ node.children, motive child) → motive node) (node : Node) :
    motive node := by
  apply step node
  intro child member
  have smaller : sizeOf child < sizeOf node := by
    have inside := List.sizeOf_lt_of_mem member
    cases node
    simp only [mk.sizeOf_spec]
    dsimp only at inside
    omega
  exact ofChildren step child
termination_by sizeOf node

theorem role_of_classKind? {node : Node} {kind : ClassKind} (isClass : node.classKind? = some kind) :
    node.role = .classType := by
  unfold classKind? at isClass
  split at isClass
  next same =>
    unfold role
    rw [same]
    rfl
  next => cases isClass

mutual

/-- A node and the static subobjects beneath it, depth first, each behind the names that lead to it. -/
def descent (chain : List String) : Node → List (List String × Node)
  | ⟨path, name, kind, children⟩ =>
    (chain, ⟨path, name, kind, children⟩) :: descentAll chain children

/-- The static subobjects among some children and beneath them. -/
def descentAll (chain : List String) : List Node → List (List String × Node)
  | [] => []
  | child :: rest =>
    (if child.role = .subobject then descent (chain ++ [child.componentName]) child else []) ++
      descentAll chain rest

end

theorem descent_eq (chain : List String) (node : Node) :
    node.descent chain = (chain, node) :: descentAll chain node.children := by
  obtain ⟨path, name, kind, children⟩ := node
  rw [descent]

/-- One static subobject after the other, each with what is beneath it. -/
theorem descentAll_children (chain : List String) (node : Node) :
    descentAll chain node.children =
      node.subobjects.flatMap fun child => child.descent (chain ++ [child.componentName]) := by
  unfold subobjects
  induction node.children with
  | nil => rfl
  | cons child rest ih =>
    rw [descentAll, ih, List.filter_cons]
    split
    next isSubobject => simp [isSubobject]
    next other => simp [other]

theorem mem_children_of_mem_subobjects {node child : Node} (member : child ∈ node.subobjects) :
    child ∈ node.children := List.mem_of_mem_filter member

/-- Whatever lies beneath a node stands behind a longer chain, which leads through a subobject. -/
theorem mem_descentAll_children {chain : List String} {node : Node} {place : List String × Node}
    (member : place ∈ descentAll chain node.children) :
    ∃ child ∈ node.subobjects, place ∈ child.descent (chain ++ [child.componentName]) := by
  rw [descentAll_children] at member
  exact List.mem_flatMap.1 member

theorem prefix_of_mem_descent {node : Node} {place : List String × Node} :
    ∀ {chain : List String}, place ∈ node.descent chain → chain <+: place.1 := by
  induction node using ofChildren with
  | step node ih =>
    intro chain member
    rw [descent_eq, List.mem_cons] at member
    rcases member with rfl | beneath
    · exact List.prefix_refl chain
    · obtain ⟨child, listed, below⟩ := mem_descentAll_children beneath
      have longer := ih child (mem_children_of_mem_subobjects listed) below
      exact (List.prefix_append chain [child.componentName]).trans longer

/-- No two siblings have the same name. -/
def NamesSubobjects (node : Node) : Prop := (node.subobjects.map Node.componentName).Nodup

/-- Two chains with the same front go on with the same name, if each goes on with one that stands at the
front of a third. -/
theorem eq_of_prefix_concat {chain longer : List String} {first second : String}
    (one : chain ++ [first] <+: longer) (other : chain ++ [second] <+: longer) :
    first = second := by
  have same := (List.prefix_of_prefix_length_le one other (by simp)).eq_of_length (by simp)
  have ends := List.append_cancel_left same
  exact List.head_eq_of_cons_eq ends

/-- No two static subobjects of a class stand behind the same chain. -/
theorem nodup_descent {node : Node} : ∀ {chain : List String},
    (∀ place ∈ node.descent chain, place.2.NamesSubobjects) →
      ((node.descent chain).map Prod.fst).Nodup ∧
        ((descentAll chain node.children).map Prod.fst).Nodup := by
  induction node using ofChildren with
  | step node ih =>
    intro chain apart
    rw [descent_eq] at apart ⊢
    obtain ⟨own, beneath⟩ := List.forall_mem_cons.1 apart
    have below : ((descentAll chain node.children).map Prod.fst).Nodup := by
      rw [descentAll_children] at beneath ⊢
      rw [List.map_flatMap, List.nodup_flatMap]
      constructor
      · intro child listed
        exact (ih child (mem_children_of_mem_subobjects listed) fun place member =>
          beneath place (List.mem_flatMap.2 ⟨child, listed, member⟩)).1
      · -- a chain shared by two siblings would go on with the names of both
        refine (List.pairwise_map.1 own).imp fun {first second} different => ?_
        rw [Function.onFun, List.disjoint_left]
        intro reached one other
        obtain ⟨place, member, rfl⟩ := List.mem_map.1 one
        obtain ⟨place', member', same⟩ := List.mem_map.1 other
        have front := prefix_of_mem_descent member'
        rw [same] at front
        exact different (eq_of_prefix_concat (prefix_of_mem_descent member) front)
    refine ⟨?_, below⟩
    rw [List.map_cons, List.nodup_cons]
    refine ⟨fun member => ?_, below⟩
    -- chains beneath a node are longer than its own
    obtain ⟨place, reached, same⟩ := List.mem_map.1 member
    obtain ⟨child, -, member⟩ := mem_descentAll_children reached
    have longer := (prefix_of_mem_descent member).length_le
    rw [same, List.length_append] at longer
    simp at longer

end Node

namespace Validation

theorem forestFaults_eq (parent : Option Role) (nodes : List Node) :
    forestFaults parent nodes = nodes.flatMap (nodeFaults parent) := by
  induction nodes with
  | nil => rfl
  | cons node rest ih => rw [forestFaults, ih, List.flatMap_cons]

theorem nodeFaults_eq (parent : Option Role) (node : Node) :
    nodeFaults parent node =
      ownFaults parent node ++ node.children.flatMap (nodeFaults (some node.role)) := by
  obtain ⟨path, name, kind, children⟩ := node
  rw [nodeFaults, forestFaults_eq]
  rfl

/-- In a faultless tree no two siblings have the same name, however deep they lie. -/
theorem namesSubobjects_of_nodeFaults {node : Node} :
    ∀ {parent : Option Role} {chain : List String}, nodeFaults parent node = [] →
      node.role ≠ .fieldGroup → ∀ place ∈ node.descent chain, place.2.NamesSubobjects := by
  induction node using Node.ofChildren with
  | step node ih =>
    intro parent chain faultless role place member
    rw [nodeFaults_eq, List.append_eq_nil_iff, List.flatMap_eq_nil_iff] at faultless
    obtain ⟨own, below⟩ := faultless
    rw [Node.descent_eq, List.mem_cons] at member
    rcases member with rfl | beneath
    · have siblings := (List.append_eq_nil_iff.1 (childFaults_of_ownFaults own role)).2
      have distinct := (siblingFaults_eq_nil_iff.1 siblings).2
      rw [List.map_map] at distinct
      exact distinct
    · obtain ⟨child, listed, reached⟩ := Node.mem_descentAll_children beneath
      have isSubobject : child.role = .subobject := by
        simpa using (List.mem_filter.1 listed).2
      have inside := Node.mem_children_of_mem_subobjects listed
      refine ih child inside (below child inside) ?_ place reached
      rw [isSubobject]
      exact Role.noConfusion

/-- A class that passes validation is at the top. -/
theorem isSome_classKind?_of_nodeFaults {node : Node} (faultless : nodeFaults none node = []) :
    node.classKind?.isSome = true := by
  rw [nodeFaults_eq, List.append_eq_nil_iff] at faultless
  obtain ⟨own, -⟩ := faultless
  cases isClass : node.kind with
  | classType kind flags cullDistance => simp only [Node.classKind?, isClass, Option.isSome_some]
  | fieldGroup category fields =>
    simp only [ownFaults, isClass] at own
    cases own
  | subobject =>
    simp only [ownFaults, isClass] at own
    cases own

end Validation

end ComponentSchema
