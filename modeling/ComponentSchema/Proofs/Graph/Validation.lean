import ComponentSchema.Proofs.Graph.Inspection
import ComponentSchema.Proofs.Repeats

/-!
What validation establishes.  A graph passes exactly if each of its trees is without faults, every level
has a usable name, and no path of a class or level is listed twice.  The trees are inspected as if each
were alone, and the walks over the paths tell of every repeat, so each of these faults is told of once.
-/

namespace ComponentSchema

namespace Validation

theorem nameFaults_eq_nil_iff {label name owner : String} :
    nameFaults label name owner = [] ↔ nameFault name = none := by
  unfold nameFaults
  cases nameFault name with
  | none => simp
  | some fault => simp

theorem length_nameFaults (label name owner : String) :
    (nameFaults label name owner).length = if (nameFault name).isSome then 1 else 0 := by
  unfold nameFaults
  cases nameFault name with
  | none => rfl
  | some fault => rfl

theorem length_siblingFaults (label : String) (siblings : List (String × String)) :
    (siblingFaults label ∅ siblings).length =
      siblings.countP (fun sibling => (nameFault sibling.1).isSome) +
        repeats (siblings.map Prod.fst) := by
  apply SortedMap.count_walk Prod.fst (fun sibling => (nameFault sibling.1).isSome)
    fun seen siblings => (siblingFaults label seen siblings).length
  · exact fun _ => rfl
  · rintro seen ⟨name, owner⟩ rest
    rw [siblingFaults, List.length_append, length_nameFaults]
    cases known : seen.find? name with
    | some first =>
      refine ⟨seen, fun before recalls => recalls.again known, ?_⟩
      simp only [List.length_cons, Option.isSome_some, if_true]
      omega
    | none => exact ⟨seen.insert name owner, fun before recalls => recalls.insert name owner, rfl⟩

/-- Siblings are faultless exactly if their names are usable and no two are the same. -/
theorem siblingFaults_eq_nil_iff {label : String} {siblings : List (String × String)} :
    siblingFaults label ∅ siblings = [] ↔
      (∀ sibling ∈ siblings, nameFault sibling.1 = none) ∧ (siblings.map Prod.fst).Nodup := by
  rw [← List.length_eq_zero_iff, length_siblingFaults, count_eq_zero_iff]
  simp only [Option.isSome_eq_false_iff, Option.isNone_iff_eq_none]

theorem length_repeatedClasses (classes : List Node) :
    (repeatedClasses ∅ classes).length = repeats (classes.map Node.path) := by
  have counted := SortedMap.count_walk Node.path (fun _ => false)
    (fun seen classes => (repeatedClasses seen classes).length) (fun _ => rfl) ?_ classes
  · rw [List.countP_false, Function.const_apply, Nat.zero_add] at counted
    exact counted
  · intro seen node rest
    rw [repeatedClasses]
    unfold SortedMap.contains
    cases known : seen.find? node.path with
    | some value =>
      refine ⟨seen, fun before recalls => recalls.again known, ?_⟩
      simp only [Option.isSome_some, if_true, List.length_cons, Bool.false_eq_true, if_false]
      omega
    | none =>
      refine ⟨seen.insert node.path (), fun before recalls => recalls.insert node.path (), ?_⟩
      simp

theorem length_levelFaults (levels : List Level) :
    (levelFaults ∅ levels).length =
      levels.countP (fun level => (nameFault level.componentName).isSome) +
        repeats (levels.map Level.path) := by
  apply SortedMap.count_walk Level.path (fun level => (nameFault level.componentName).isSome)
    fun seen levels => (levelFaults seen levels).length
  · exact fun _ => rfl
  · intro seen level rest
    refine ⟨seen.insert level.path level.name, fun before recalls => recalls.insert _ level.name, ?_⟩
    rw [levelFaults, List.length_append, List.length_append, List.length_map, length_nameFaults]
    cases known : seen.find? level.path with
    | some first => simp
    | none => simp

theorem length_groupFaults (path : String) (categories : List Category) :
    (groupFaults path [] categories).length = repeats categories := by
  have counted (seen before : List Category)
      (met : ∀ category, category ∈ seen ↔ category ∈ before) :
      repeats before + (groupFaults path seen categories).length =
        repeats (before ++ categories) := by
    induction categories generalizing seen before with
    | nil => rw [groupFaults, List.length_nil, List.append_nil, Nat.add_zero]
    | cons category rest ih =>
      have next := repeats_concat before category
      rw [groupFaults, List.append_cons]
      by_cases known : category ∈ before
      · have recalled : seen.contains category = true := List.contains_iff_mem.2 ((met category).2 known)
        have later := ih seen (before ++ [category]) fun other => by
          rw [met other, List.mem_append, List.mem_singleton]
          exact ⟨.inl, fun listed => listed.elim id fun same => same ▸ known⟩
        rw [if_pos known] at next
        rw [if_pos recalled, List.length_cons]
        omega
      · have fresh : ¬seen.contains category = true := fun recalled =>
          known ((met category).1 (List.contains_iff_mem.1 recalled))
        have later := ih (category :: seen) (before ++ [category]) fun other => by
          rw [List.mem_cons, met other, List.mem_append, List.mem_singleton, or_comm]
        rw [if_neg known] at next
        rw [if_neg fresh]
        omega
  have all := counted [] [] fun _ => Iff.rfl
  rw [List.nil_append] at all
  rw [← all]
  exact (Nat.zero_add _).symm

/-- How many messages the children of a class or subobject call for: one for a category of field groups that
comes again, one for a subobject without a usable name, and one for a name that comes again. -/
def childCount (node : Node) : Nat :=
  repeats (node.fieldGroups.map Prod.fst) +
    (node.subobjects.countP (fun child => (nameFault child.componentName).isSome) +
      repeats (node.subobjects.map Node.componentName))

theorem length_childFaults (node : Node) : (childFaults node).length = childCount node := by
  rw [childFaults, List.length_append, length_groupFaults, length_siblingFaults, List.countP_map,
    List.map_map]
  rfl

/-- How many messages a node calls for where it stands.  One that is out of place gets a single message;
else each name that makes no identifier is told of, and each that comes again. -/
theorem length_ownFaults (parent : Option Role) (node : Node) :
    (ownFaults parent node).length =
      match node.kind, parent with
      | .classType _ _ _, none =>
        (if (nameFault (identifier .type node.name)).isSome then 1 else 0) + childCount node
      | .subobject, some .classType | .subobject, some .subobject => childCount node
      | .fieldGroup _ fields, some .classType | .fieldGroup _ fields, some .subobject =>
        (if node.children.isEmpty then 0 else 1) +
          (fields.countP (fun field => (nameFault field.schemaName).isSome) +
            repeats (fields.map Field.schemaName))
      | _, _ => 1 := by
  unfold ownFaults
  cases node.kind with
  | classType =>
    cases parent with
    | none => rw [List.length_append, length_nameFaults, length_childFaults]
    | some role => rfl
  | subobject =>
    rcases parent with _ | role
    · rfl
    · cases role with
      | fieldGroup => rfl
      | classType => exact length_childFaults node
      | subobject => exact length_childFaults node
  | fieldGroup category fields =>
    have counted : (fieldFaults node category fields).length =
        (if node.children.isEmpty then 0 else 1) +
          (fields.countP (fun field => (nameFault field.schemaName).isSome) +
            repeats (fields.map Field.schemaName)) := by
      rw [fieldFaults, List.length_append, length_siblingFaults, List.countP_map, List.map_map]
      split <;> rfl
    rcases parent with _ | role
    · rfl
    · cases role with
      | fieldGroup => rfl
      | classType => exact counted
      | subobject => exact counted

/-- How many messages there are about a graph: those about each tree for itself, one for a class path that
comes again, one for a level without a usable name, and one for a level path that comes again. -/
def messageCount (classes : List Node) (levels : List Level) : Nat :=
  (classes.map fun node => (inspect [node]).found.size).sum + repeats (classes.map Node.path) +
    levels.countP (fun level => (nameFault level.componentName).isSome) +
      repeats (levels.map Level.path)

theorem found_inspect_singleton (node : Node) : (inspect [node]).found = treeFindings node := by
  rw [found_inspect]
  unfold forestFindings
  rw [List.foldl_cons, List.foldl_nil, Findings.empty_merge]

theorem size_inspect_singleton (node : Node) :
    (inspect [node]).found.size = (nodeFaults none node).length := by
  rw [found_inspect_singleton, treeFindings, Findings.size_file, Findings.size_empty, Nat.zero_add]

theorem size_findings (classes : List Node) (levels : List Level) :
    (findings classes levels).size = messageCount classes levels := by
  have trees := Findings.size_foldl_merge treeFindings classes ∅
  unfold findings messageCount
  rw [Findings.size_foldl_addFor, List.length_append, found_inspect, length_repeatedClasses,
    length_levelFaults]
  unfold forestFindings
  rw [trees, Findings.size_empty]
  simp only [found_inspect_singleton]
  omega

/-- A graph passes exactly if all of its trees are faultless, its levels have usable names, and no path
of a class or level comes twice. -/
theorem check_eq_ok_iff {classes : List Node} {levels : List Level} :
    check classes levels = .ok () ↔
      ((∀ node ∈ classes, nodeFaults none node = []) ∧ (classes.map Node.path).Nodup) ∧
        (∀ level ∈ levels, nameFault level.componentName = none) ∧
          (levels.map Level.path).Nodup := by
  unfold check
  rw [Findings.conclude_eq_ok_iff, Findings.isEmpty_iff_size_eq_zero, size_findings]
  unfold messageCount
  rw [Nat.add_assoc _ (levels.countP _), Nat.add_eq_zero_iff, Nat.add_eq_zero_iff, count_eq_zero_iff,
    repeats_eq_zero_iff, List.sum_eq_zero_iff, List.forall_mem_map]
  simp only [size_inspect_singleton, List.length_eq_zero_iff, Option.isSome_eq_false_iff,
    Option.isNone_iff_eq_none]

/-- What hangs beneath another node and is faultless, and is no field group, has faultless children. -/
theorem childFaults_of_ownFaults {parent : Option Role} {node : Node}
    (faultless : ownFaults parent node = []) (role : node.role ≠ .fieldGroup) :
    childFaults node = [] := by
  unfold ownFaults at faultless
  split at faultless
  next => exact (List.append_eq_nil_iff.1 faultless).2
  next => cases faultless
  next => cases faultless
  next => cases faultless
  next => exact faultless
  next kind _ group =>
    exfalso
    apply role
    unfold Node.role
    rw [group]
    rfl

/-- Validation looks at each tree as if it were alone.  After each of them its inspection is at the top
again, with no route; what it found is what it finds in the trees one by one, merged in their order, all of
a tree under the path of its top node.  A graph that fails is reported with every message there is about
it, and only one without any passes. -/
theorem check_tells (classes : List Node) (levels : List Level) :
    (∀ checked, checked <+: classes →
      (inspect checked).ancestors = [] ∧ (inspect checked).route = none) ∧
      (inspect classes).found =
        classes.foldl (fun found node => found.merge (inspect [node]).found) ∅ ∧
      (∀ node, (inspect [node]).found =
        Findings.mergeFor ∅ node.path ((nodeFaults none node).foldl Findings.add ∅)) ∧
      (check classes levels = .ok () ↔ messageCount classes levels = 0) ∧
      ∀ reported, check classes levels = .error reported →
        reported.size = messageCount classes levels := by
  refine ⟨?_, ?_, ?_, ?_, ?_⟩
  · intro checked _
    rw [inspect_eq]
    exact ⟨rfl, rfl⟩
  · simp only [found_inspect_singleton]
    exact found_inspect classes
  · intro node
    rw [found_inspect_singleton]
    rfl
  · unfold check
    rw [Findings.conclude_eq_ok_iff, Findings.isEmpty_iff_size_eq_zero, size_findings]
  · intro reported failed
    obtain ⟨-, rfl⟩ := Findings.conclude_eq_error_iff.1 failed
    exact size_findings classes levels

end Validation

end ComponentSchema
