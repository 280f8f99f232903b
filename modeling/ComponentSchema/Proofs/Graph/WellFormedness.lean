import ComponentSchema.Proofs.Graph.Descent

/-!
Which graphs are well formed, said without the validator: what is asked of a class, of whatever hangs
beneath it however deep, and of a level.  The validator lets exactly those graphs pass.
-/

namespace ComponentSchema

def IsUsable (name : String) : Prop :=
  name ≠ "" ∧ ∀ first ∈ name.toList.head?, first.isDigit = false

/-- Names that can stand side by side. -/
structure AreUsable (names : List String) : Prop where
  usable : ∀ name ∈ names, IsUsable name
  distinct : names.Nodup

theorem nameFault_eq_none_iff {name : String} : nameFault name = none ↔ IsUsable name := by
  unfold nameFault IsUsable
  rw [Ne, ← String.toList_eq_nil_iff]
  cases name.toList with
  | nil => simp
  | cons first rest => simp

namespace Node

/-- A place hangs beneath a node, as a child or deeper. -/
inductive HangsBeneath (place : Node) : Node → Prop
  | child {node : Node} (listed : place ∈ node.children) : HangsBeneath place node
  | deeper {node child : Node} (listed : child ∈ node.children)
      (below : HangsBeneath place child) : HangsBeneath place node

/-- What is asked of every node for its own sake, wherever it stands. -/
structure IsOrderly (node : Node) : Prop where
  /-- A field group has no children. -/
  bare : node.role = .fieldGroup → node.children = []
  /-- The names in a field group can stand side by side. -/
  fields : ∀ category fields, node.kind = .fieldGroup category fields →
    AreUsable (fields.map Field.schemaName)
  /-- A class or subobject has no two field groups of one category. -/
  groups : node.role ≠ .fieldGroup → (node.fieldGroups.map Prod.fst).Nodup
  /-- The names of the subobjects of a class or subobject can stand side by side. -/
  subobjects : node.role ≠ .fieldGroup → AreUsable (node.subobjects.map Node.componentName)

/-- What is asked of a node that is listed at the top. -/
structure IsOrderlyClass (node : Node) : Prop where
  isClass : node.role = .classType
  name : IsUsable (identifier .type node.name)
  orderly : node.IsOrderly

/-- What is asked of a node that hangs beneath another. -/
structure IsOrderlyPart (node : Node) : Prop where
  /-- It is a subobject or a field group. -/
  noClass : node.role ≠ .classType
  orderly : node.IsOrderly

end Node

/-- The graphs that are fit for a schema. -/
structure IsWellFormed (classes : List Node) (levels : List Level) : Prop where
  tops : ∀ node ∈ classes, node.IsOrderlyClass
  parts : ∀ node ∈ classes, ∀ place : Node, place.HangsBeneath node → place.IsOrderlyPart
  classPaths : (classes.map Node.path).Nodup
  levelNames : ∀ level ∈ levels, IsUsable level.componentName
  levelPaths : (levels.map Level.path).Nodup

namespace Validation

theorem groupFaults_eq_nil_iff {path : String} {seen categories : List Category} :
    groupFaults path seen categories = [] ↔ categories.Nodup ∧ categories.Disjoint seen := by
  induction categories generalizing seen with
  | nil => simp [groupFaults]
  | cons category rest ih =>
    rw [groupFaults, List.nodup_cons, List.disjoint_cons_left]
    split
    next known =>
      have listed := List.contains_iff_mem.1 known
      simp [listed]
    next unknown =>
      have unlisted : category ∉ seen := fun listed => unknown (List.contains_iff_mem.2 listed)
      rw [ih, List.disjoint_cons_right]
      tauto

theorem siblingFaults_empty_eq_nil_iff {label : String} {siblings : List (String × String)} :
    siblingFaults label ∅ siblings = [] ↔ AreUsable (siblings.map Prod.fst) := by
  rw [siblingFaults_eq_nil_iff]
  constructor
  · rintro ⟨faultless, distinct⟩
    refine ⟨fun name listed => ?_, distinct⟩
    obtain ⟨sibling, member, rfl⟩ := List.mem_map.1 listed
    exact nameFault_eq_none_iff.1 (faultless sibling member)
  · rintro ⟨usable, distinct⟩
    refine ⟨fun sibling member => ?_, distinct⟩
    exact nameFault_eq_none_iff.2 (usable sibling.1 (List.mem_map_of_mem member))

theorem childFaults_eq_nil_iff {node : Node} :
    childFaults node = [] ↔
      (node.fieldGroups.map Prod.fst).Nodup ∧ AreUsable (node.subobjects.map Node.componentName) := by
  unfold childFaults
  rw [List.append_eq_nil_iff, groupFaults_eq_nil_iff, siblingFaults_empty_eq_nil_iff, List.map_map]
  simp only [List.disjoint_nil_right, and_true]
  rfl

theorem fieldFaults_eq_nil_iff {node : Node} {category : Category} {fields : List Field} :
    fieldFaults node category fields = [] ↔
      node.children = [] ∧ AreUsable (fields.map Field.schemaName) := by
  unfold fieldFaults
  rw [List.append_eq_nil_iff, siblingFaults_empty_eq_nil_iff, List.map_map]
  apply and_congr _ Iff.rfl
  cases node.children with
  | nil => simp
  | cons child rest => simp

theorem isOrderly_iff_childFaults {node : Node} (holder : node.role ≠ .fieldGroup) :
    node.IsOrderly ↔ childFaults node = [] := by
  rw [childFaults_eq_nil_iff]
  constructor
  · intro orderly
    exact ⟨orderly.groups holder, orderly.subobjects holder⟩
  · rintro ⟨groups, subobjects⟩
    refine ⟨fun role => absurd role holder, fun category fields group => ?_, fun _ => groups,
      fun _ => subobjects⟩
    exact absurd (congrArg NodeKind.role group) holder

theorem isOrderly_iff_fieldFaults {node : Node} {category : Category} {fields : List Field}
    (group : node.kind = .fieldGroup category fields) :
    node.IsOrderly ↔ fieldFaults node category fields = [] := by
  have role : node.role = .fieldGroup := congrArg NodeKind.role group
  rw [fieldFaults_eq_nil_iff]
  constructor
  · intro orderly
    exact ⟨orderly.bare role, orderly.fields category fields group⟩
  · rintro ⟨bare, usable⟩
    refine ⟨fun _ => bare, fun category' fields' group' => ?_, fun holder => absurd role holder,
      fun holder => absurd role holder⟩
    rw [group] at group'
    cases group'
    exact usable

theorem ownFaults_none_eq_nil_iff {node : Node} :
    ownFaults none node = [] ↔ node.IsOrderlyClass := by
  cases kind : node.kind with
  | classType classKind flags cullDistance =>
    have role : node.role = .classType := congrArg NodeKind.role kind
    have holder : node.role ≠ .fieldGroup := by
      rw [role]
      exact Role.noConfusion
    simp only [ownFaults, kind]
    rw [List.append_eq_nil_iff, nameFaults_eq_nil_iff, nameFault_eq_none_iff,
      ← isOrderly_iff_childFaults holder]
    constructor
    · rintro ⟨name, orderly⟩
      exact ⟨role, name, orderly⟩
    · exact fun top => ⟨top.name, top.orderly⟩
  | fieldGroup category fields =>
    have role : node.role = .fieldGroup := congrArg NodeKind.role kind
    simp only [ownFaults, kind]
    exact ⟨fun faultless => absurd faultless (List.cons_ne_nil _ _),
      fun top => Role.noConfusion (role.symm.trans top.isClass)⟩
  | subobject =>
    have role : node.role = .subobject := congrArg NodeKind.role kind
    simp only [ownFaults, kind]
    exact ⟨fun faultless => absurd faultless (List.cons_ne_nil _ _),
      fun top => Role.noConfusion (role.symm.trans top.isClass)⟩

/-- Beneath a class or subobject it does not matter which of the two it is. -/
theorem ownFaults_of_holder {parent : Role} (holder : parent ≠ .fieldGroup) (node : Node) :
    ownFaults (some parent) node =
      match node.kind with
      | .classType _ _ _ => [.nestedClass node.path]
      | .fieldGroup category fields => fieldFaults node category fields
      | .subobject => childFaults node := by
  unfold ownFaults
  cases parent with
  | fieldGroup => exact absurd rfl holder
  | classType => cases node.kind <;> rfl
  | subobject => cases node.kind <;> rfl

/-- Beneath a class or subobject, a node is asked what is asked of every part. -/
theorem ownFaults_some_eq_nil_iff {parent : Role} (holder : parent ≠ .fieldGroup) {node : Node} :
    ownFaults (some parent) node = [] ↔ node.IsOrderlyPart := by
  rw [ownFaults_of_holder holder]
  cases kind : node.kind with
  | classType classKind flags cullDistance =>
    have role : node.role = .classType := congrArg NodeKind.role kind
    exact ⟨fun faultless => absurd faultless (List.cons_ne_nil _ _),
      fun part => absurd role part.noClass⟩
  | fieldGroup category fields =>
    have role : node.role = .fieldGroup := congrArg NodeKind.role kind
    have noClass : node.role ≠ .classType := by
      rw [role]
      exact Role.noConfusion
    dsimp only
    rw [← isOrderly_iff_fieldFaults kind]
    exact ⟨fun orderly => ⟨noClass, orderly⟩, fun part => part.orderly⟩
  | subobject =>
    have role : node.role = .subobject := congrArg NodeKind.role kind
    have noClass : node.role ≠ .classType := by
      rw [role]
      exact Role.noConfusion
    have noGroup : node.role ≠ .fieldGroup := by
      rw [role]
      exact Role.noConfusion
    dsimp only
    rw [← isOrderly_iff_childFaults noGroup]
    exact ⟨fun orderly => ⟨noClass, orderly⟩, fun part => part.orderly⟩

/-- Beneath an orderly node nothing is at fault exactly if every place there is an orderly part. -/
theorem beneathFaults_eq_nil_iff {node : Node} (orderly : node.IsOrderly) :
    node.children.flatMap (nodeFaults (some node.role)) = [] ↔
      ∀ place : Node, place.HangsBeneath node → place.IsOrderlyPart := by
  induction node using Node.ofChildren with
  | step node ih =>
    by_cases isGroup : node.role = .fieldGroup
    · -- an orderly field group has nothing beneath it, so the rule of its children never applies
      have bare := orderly.bare isGroup
      rw [bare]
      refine ⟨fun _ place beneath => ?_, fun _ => rfl⟩
      cases beneath with
      | child listed => simp [bare] at listed
      | deeper listed below => simp [bare] at listed
    · rw [List.flatMap_eq_nil_iff]
      constructor
      · intro faultless place beneath
        cases beneath with
        | child listed =>
          have whole := faultless place listed
          rw [nodeFaults_eq, List.append_eq_nil_iff] at whole
          exact (ownFaults_some_eq_nil_iff isGroup).1 whole.1
        | @deeper _ child listed below =>
          have whole := faultless child listed
          rw [nodeFaults_eq, List.append_eq_nil_iff] at whole
          have part := (ownFaults_some_eq_nil_iff isGroup).1 whole.1
          exact (ih child listed part.orderly).1 whole.2 place below
      · intro parts child listed
        have part := parts child (.child listed)
        rw [nodeFaults_eq, List.append_eq_nil_iff]
        refine ⟨(ownFaults_some_eq_nil_iff isGroup).2 part, ?_⟩
        exact (ih child listed part.orderly).2 fun place below => parts place (.deeper listed below)

theorem nodeFaults_none_eq_nil_iff {node : Node} :
    nodeFaults none node = [] ↔
      node.IsOrderlyClass ∧ ∀ place : Node, place.HangsBeneath node → place.IsOrderlyPart := by
  rw [nodeFaults_eq, List.append_eq_nil_iff, ownFaults_none_eq_nil_iff]
  exact and_congr_right fun top => beneathFaults_eq_nil_iff top.orderly

/-- Validation lets exactly the well-formed graphs pass. -/
theorem check_eq_ok_iff_isWellFormed {classes : List Node} {levels : List Level} :
    check classes levels = .ok () ↔ IsWellFormed classes levels := by
  rw [check_eq_ok_iff]
  simp only [nodeFaults_none_eq_nil_iff, nameFault_eq_none_iff]
  constructor
  · rintro ⟨⟨trees, classPaths⟩, levelNames, levelPaths⟩
    exact ⟨fun node listed => (trees node listed).1, fun node listed => (trees node listed).2,
      classPaths, levelNames, levelPaths⟩
  · intro fit
    exact ⟨⟨fun node listed => ⟨fit.tops node listed, fit.parts node listed⟩, fit.classPaths⟩,
      fit.levelNames, fit.levelPaths⟩

end Validation

end ComponentSchema
