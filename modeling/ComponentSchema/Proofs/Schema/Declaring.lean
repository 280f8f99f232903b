import ComponentSchema.Proofs.Graph.WellFormedness
import ComponentSchema.Proofs.Schema.Levels
import ComponentSchema.Proofs.Schema.Outline
import ComponentSchema.Proofs.Words

/-!
What the declarations of a schema file hold.  A block of a valid class lists the fields of the one group
that its node has in its category, and every name that is declared is a word: a name that is known to
be one, with letters and digits behind it.
-/

namespace ComponentSchema

/-- Members list fields in their order, under distinct names and numbered from one. -/
structure Field.AreListed (fields : List Field) (members : List Statement) : Prop where
  names : (fields.map Field.schemaName).Nodup
  words : ∀ field ∈ fields, IsLowerWord field.schemaName
  length : members.length = fields.length
  numbered : ∀ index field, fields[index]? = some field →
    members[index]? = some (Statement.member field.declaredType field.schemaName (index + 1))

theorem Field.areListed_members {fields : List Field}
    (usable : AreUsable (fields.map Field.schemaName)) : AreListed fields (members fields) where
  names := usable.distinct
  words _ listed := isLowerWord_schemaName (usable.usable _ (List.mem_map_of_mem listed))
  length := List.length_mapIdx
  numbered index field found := by
    rw [members, List.getElem?_mapIdx, found, Option.map_some]

theorem Field.AreListed.isLowerWord {fields : List Field} {members : List Statement}
    (listed : AreListed fields members) {type name : String} {number : Nat}
    (member : .member type name number ∈ members) : IsLowerWord name := by
  obtain ⟨index, found⟩ := List.mem_iff_getElem?.1 member
  have bound : index < fields.length := by
    rw [← listed.length]
    exact (List.getElem?_eq_some_iff.1 found).1
  have same := listed.numbered index fields[index] (List.getElem?_eq_getElem bound)
  rw [found, Option.some.injEq, Statement.member.injEq] at same
  rw [same.2.1]
  exact listed.words _ (List.getElem_mem bound)

namespace Node

/-- The node has one field group of a category, and it has these fields. -/
def HasOneGroup (node : Node) (category : Category) (fields : List Field) : Prop :=
  node.fieldGroups.filter (fun group => group.1 == category) = [(category, fields)]

theorem HangsBeneath.of_child {node place child : Node} (beneath : place.HangsBeneath node)
    (listed : child ∈ place.children) : child.HangsBeneath node := by
  induction beneath with
  | child inside => exact .deeper inside (.child listed)
  | deeper inside _ ih => exact .deeper inside ih

/-- What a descent reaches is the node itself or hangs beneath it. -/
theorem hangsBeneath_of_mem_descent {node : Node} {place : List String × Node} :
    ∀ {chain : List String}, place ∈ node.descent chain →
      place.2 = node ∨ place.2.HangsBeneath node := by
  induction node using ofChildren with
  | step node ih =>
    intro chain member
    rw [descent_eq, List.mem_cons] at member
    rcases member with rfl | below
    · exact .inl rfl
    · obtain ⟨child, listed, reached⟩ := mem_descentAll_children below
      have inside := mem_children_of_mem_subobjects listed
      right
      rcases ih child inside reached with same | deeper
      · rw [same]
        exact .child inside
      · exact .deeper inside deeper

/-- The names that lead to a static subobject are identifiers, so they are plain. -/
theorem isPlain_of_mem_descent {node : Node} {place : List String × Node} :
    ∀ {chain : List String}, (∀ name ∈ chain, IsPlain name) → place ∈ node.descent chain →
      ∀ name ∈ place.1, IsPlain name := by
  induction node using ofChildren with
  | step node ih =>
    intro chain plain member
    rw [descent_eq, List.mem_cons] at member
    rcases member with rfl | below
    · exact plain
    · obtain ⟨child, listed, reached⟩ := mem_descentAll_children below
      refine ih child (mem_children_of_mem_subobjects listed) (fun name known => ?_) reached
      rcases List.mem_append.1 known with before | last
      · exact plain name before
      · rw [List.mem_singleton.1 last]
        exact isPlain_identifier .component child.name

/-- A category in which an orderly node has fields has one group, and its names can stand side by side. -/
theorem exists_hasOneGroup {node : Node} {category : Category} (orderly : node.IsOrderly)
    (holder : node.role ≠ .fieldGroup) (children : ∀ child ∈ node.children, child.IsOrderly)
    (listed : category ∈ node.categories) :
    node.HasOneGroup category (node.fields category) ∧
      AreUsable ((node.fields category).map Field.schemaName) := by
  have some_ : node.fields category ≠ [] := by
    have kept := (List.mem_filter.1 listed).2
    intro none
    rw [none] at kept
    cases kept
  have once := orderly.groups holder
  rcases found : node.fieldGroups.filter (fun group => group.1 == category) with _ | ⟨group, rest⟩
  · rw [fields, found] at some_
    exact absurd rfl some_
  · have inside : ∀ other ∈ group :: rest, other ∈ node.fieldGroups ∧ other.1 = category := by
      intro other member
      rw [← found, List.mem_filter, beq_iff_eq] at member
      exact member
    -- a second group of the category would repeat it among the groups
    have alone : rest = [] := by
      have distinct := once.sublist ((List.filter_sublist (p := fun group => group.1 == category)
        (l := node.fieldGroups)).map Prod.fst)
      rw [found, List.map_cons, List.nodup_cons] at distinct
      cases rest with
      | nil => rfl
      | cons second others =>
        have same := (inside second (List.mem_cons_of_mem _ List.mem_cons_self)).2
        rw [(inside group List.mem_cons_self).2, ← same] at distinct
        exact absurd (List.mem_map_of_mem List.mem_cons_self) distinct.1
    subst alone
    obtain ⟨member, rfl⟩ := inside group List.mem_cons_self
    have whole : node.fields group.1 = group.2 := by
      rw [fields, found, List.flatMap_singleton]
    refine ⟨by rw [HasOneGroup, found, whole], ?_⟩
    obtain ⟨child, beneath, isGroup⟩ := List.mem_filterMap.1 member
    rw [whole]
    refine (children child beneath).fields group.1 group.2 ?_
    unfold fieldGroup? at isGroup
    split at isGroup
    next category fields kind =>
      cases isGroup
      exact kind
    next => cases isGroup

end Node

namespace ClassFile

/-- The nodes of a class that have components of their own, each behind the names that lead to it. -/
def parts (kind : ClassKind) (node : Node) : List (List String × Node) :=
  match kind with
  | .root => node.descent []
  | .subobject => Node.descentAll [] node.children

/-- What is declared for a class: the data types and slots of a subobject class, and the components of its
parts.  Blocks of fields carry the path of the node that has the fields. -/
inductive Declares (kind : ClassKind) (slots : Nat) (schemaName : String) (node : Node) :
    Declaration → Prop
  | dataType {category : Category} {fields : List Field} {members : List Statement}
    (isSubobject : kind = .subobject) (group : node.HasOneGroup category fields)
    (listed : Field.AreListed fields members) :
    Declares kind slots schemaName node
      ⟨.type, schemaName ++ category.suffix ++ "Data", members, some node.path⟩
  | slot {category : Category} {fields : List Field} {number : Nat} {id : ComponentId}
    (isSubobject : kind = .subobject) (group : node.HasOneGroup category fields)
    (within : 1 ≤ number ∧ number ≤ slots) :
    Declares kind slots schemaName node
      ⟨.component, schemaName ++ "Dynamic" ++ toString number ++ category.suffix,
        [.id id, .member (schemaName ++ category.suffix ++ "Data") "data" 1], none⟩
  | part {chain : List String} {part : Node} {category : Category} {fields : List Field}
    {id : ComponentId} {members : List Statement} (inside : (chain, part) ∈ parts kind node)
    (group : part.HasOneGroup category fields) (listed : Field.AreListed fields members) :
    Declares kind slots schemaName node
      ⟨.component, schemaName ++ String.join chain ++ category.suffix, .id id :: members,
        some part.path⟩

variable {kind : ClassKind} {slots : Nat} {schemaName : String} {node : Node}
  {declaration : Declaration}

theorem mem_descent_of_mem_parts {place : List String × Node} (member : place ∈ parts kind node) :
    place ∈ node.descent [] := by
  cases kind with
  | root => exact member
  | subobject =>
    rw [Node.descent_eq]
    exact List.mem_cons_of_mem _ member

theorem Declares.isWord (declares : Declares kind slots schemaName node declaration)
    (word : IsWord schemaName) : IsWord declaration.name := by
  cases declares with
  | @dataType category =>
    exact (word.append category.isPlain_suffix).append (List.all_eq_true.1 (by decide))
  | @slot category fields number =>
    have dynamic : IsPlain "Dynamic" := List.all_eq_true.1 (by decide)
    exact ((word.append dynamic).append (isPlain_toString number)).append category.isPlain_suffix
  | @part chain part category fields id members inside group listed =>
    have plain := Node.isPlain_of_mem_descent (fun name none => by cases none)
      (mem_descent_of_mem_parts inside)
    exact (word.append (isPlain_join plain)).append category.isPlain_suffix

theorem Declares.isLowerWord (declares : Declares kind slots schemaName node declaration)
    {type name : String} {number : Nat}
    (member : .member type name number ∈ declaration.statements) : IsLowerWord name := by
  cases declares with
  | dataType _ _ listed => exact listed.isLowerWord member
  | slot _ _ _ =>
    simp only [List.mem_cons, List.not_mem_nil, or_false, reduceCtorEq, false_or,
      Statement.member.injEq] at member
    rw [member.2.1]
    have plain : IsPlain "data" := List.all_eq_true.1 (by decide)
    have lower : "data".toList.all (fun char => !char.isUpper) = true := by decide
    refine ⟨⟨plain, 'd', ['a', 't', 'a'], rfl, by decide⟩, fun char inside => ?_⟩
    simpa using List.all_eq_true.1 lower char inside
  | part _ _ listed =>
    rw [List.mem_cons] at member
    rcases member with same | inside
    · cases same
    · exact listed.isLowerWord inside

/-- A node of a valid class has one field group in each of its categories. -/
theorem hasOneGroup_of_mem_descent {place : List String × Node} {category : Category}
    (faultless : Validation.nodeFaults none node = []) (member : place ∈ node.descent [])
    (listed : category ∈ place.2.categories) :
    place.2.HasOneGroup category (place.2.fields category) ∧
      AreUsable ((place.2.fields category).map Field.schemaName) := by
  obtain ⟨top, beneath⟩ := Validation.nodeFaults_none_eq_nil_iff.1 faultless
  rcases Node.hangsBeneath_of_mem_descent member with same | below
  · rw [same] at listed ⊢
    have holder : node.role ≠ .fieldGroup := by
      rw [top.isClass]
      exact Role.noConfusion
    exact Node.exists_hasOneGroup top.orderly holder
      (fun child inside => (beneath child (.child inside)).orderly) listed
  · have orderly := (beneath place.2 below).orderly
    -- a field group has no children, and so no categories either
    have holder : place.2.role ≠ .fieldGroup := by
      intro group
      rw [Node.categories, List.mem_filter, Node.fields, Node.fieldGroups,
        orderly.bare group] at listed
      exact absurd listed.2 (by simp)
    exact Node.exists_hasOneGroup orderly holder
      (fun child inside => (beneath child (below.of_child inside)).orderly) listed

/-- All that is declared in the file of a valid class is what the class calls for. -/
theorem declares_of_mem_filled {ledger : Ledger}
    (faultless : Validation.nodeFaults none node = [])
    (member : declaration ∈ (filled ledger kind slots schemaName node).declarations) :
    Declares kind slots schemaName node declaration := by
  have root : (([], node) : List String × Node) ∈ node.descent [] := by
    rw [Node.descent_eq]
    exact List.mem_cons_self
  have own {category : Category} (listed : category ∈ node.categories) :=
    hasOneGroup_of_mem_descent faultless root listed
  have parted (outline : Outline) (drawn : outline ∈ descentOutlines schemaName (parts kind node)) :
      Declares kind slots schemaName node (outline.filled ledger) := by
    obtain ⟨place, inside, drawn⟩ := List.mem_flatMap.1 drawn
    obtain ⟨category, listed, rfl⟩ := List.mem_map.1 drawn
    obtain ⟨group, usable⟩ :=
      hasOneGroup_of_mem_descent faultless (mem_descent_of_mem_parts inside) listed
    exact .part inside group (Field.areListed_members usable)
  rcases List.mem_append.1 member with typed | component
  · cases kind with
    | root => cases typed
    | subobject =>
      obtain ⟨category, listed, rfl⟩ := List.mem_map.1 typed
      obtain ⟨group, usable⟩ := own listed
      exact .dataType rfl group (Field.areListed_members usable)
  · obtain ⟨outline, drawn, rfl⟩ := List.mem_map.1 component
    cases kind with
    | root => exact parted outline drawn
    | subobject =>
      rcases List.mem_append.1 drawn with slotted | below
      · obtain ⟨number, within, drawn⟩ := List.mem_flatMap.1 slotted
        obtain ⟨category, listed, rfl⟩ := List.mem_map.1 drawn
        rw [List.mem_range'_1] at within
        exact .slot rfl (own listed).1 ⟨within.1, by omega⟩
      · exact parted outline below

end ClassFile

theorem LevelFile.isWord_of_mem_names {levels : List Level}
    (words : ∀ level ∈ levels, IsWord level.componentName) {named : String × String}
    (member : named ∈ names levels) : IsWord named.1 := by
  obtain ⟨group, listed, inside⟩ := List.mem_flatMap.1 member
  have path : named.2 ∈ group.2.keys := by
    rw [← paths_groupNames group.1 group.2.keys]
    exact List.mem_map_of_mem inside
  have placed : (group.1, named.2) ∈ places levels :=
    List.mem_flatMap.2 ⟨group, listed, List.mem_map.2 ⟨named.2, path, rfl⟩⟩
  obtain ⟨level, known, same⟩ := mem_places.1 placed
  have word : IsWord group.1 := by
    rw [← show level.componentName = group.1 from congrArg Prod.fst same]
    exact words level known
  unfold groupNames at inside
  split at inside
  next =>
    obtain ⟨index, bound, rfl⟩ := List.mem_mapIdx.1 inside
    have plain : IsPlain "Ind" := List.all_eq_true.1 (by decide)
    exact (word.append plain).append (isPlain_toString index)
  next =>
    obtain ⟨path, -, rfl⟩ := List.mem_map.1 inside
    exact word

theorem DistanceFile.isWord_component (distance : UInt64) (id : ComponentId) :
    IsWord (component distance id).name := by
  have plain : IsPlain "NetCullDistanceSquared" := List.all_eq_true.1 (by decide)
  have word : IsWord "NetCullDistanceSquared" := ⟨plain, 'N', _, rfl, by decide⟩
  exact word.append (isPlain_toString distance.toNat)

end ComponentSchema
