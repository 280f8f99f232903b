import ComponentSchema.Graph.Manifest
import ComponentSchema.Proofs.Graph.Descent
import ComponentSchema.Proofs.Json.Depth
import ComponentSchema.Proofs.Ledger.Encoding

/-!
What is written for a type manifest is read as that manifest, whatever its trees hold, as long as it is not
nested deeper than a reader goes.  Members that were left out because they say nothing come back as they were.
-/

namespace ComponentSchema

namespace Json

/-- The tag of an object that begins with it, and the other members. -/
theorem tagged?_ofMembers (tag name : String) (members : List (String × Json))
    (untagged : ∀ member ∈ members, member.1 ≠ tag) :
    tagged? tag (ofMembers ((tag, ofString name) :: members)) = some (name, ofMembers members) := by
  have decoded := asMembers?_ofMembers ((tag, ofString name) :: members)
  have alone : members.filter (fun member => member.1 == tag) = [] := by
    refine List.filter_eq_nil_iff.2 fun member listed => ?_
    simpa using untagged member listed
  have named : member? ((tag, ofString name) :: members) tag = some (some (ofString name)) := by
    simp [member?, alone]
  have others : (members.map fun member => (escape member.1, member.2)).filter
      (fun member => decodeContent? member.1 != some tag) =
        members.map fun member => (escape member.1, member.2) := by
    refine List.filter_eq_self.2 (List.forall_mem_map.2 fun member listed => ?_)
    simpa [decodeContent?_escape] using untagged member listed
  simp only [ofMembers, List.map_cons] at decoded ⊢
  simp [tagged?, decoded, named, required, asString?_ofString, decodeContent?_escape, others]

/-- A list is read back if each of its items is; one that is refused is enough to refuse it. -/
theorem asList?_map {α : Type} {decode : Json → Option α} {write : α → Json} {fits : α → Prop}
    [DecidablePred fits] {items : List α}
    (each : ∀ item ∈ items, decode (write item) = if fits item then some item else none) :
    asList? decode (.array (items.map write)) =
      if ∀ item ∈ items, fits item then some items else none := by
  rw [asList?]
  split
  next all => exact mapM_map_eq_some fun item listed => by rw [each item listed, if_pos (all item listed)]
  next some_ =>
    push Not at some_
    obtain ⟨item, listed, large⟩ := some_
    exact mapM_eq_none (List.mem_map_of_mem listed) (by rw [each item listed, if_neg large])

end Json

open Json

theorem Category.ofKey?_key (category : Category) : ofKey? category.key = some category := by
  cases category <;> decide

namespace Field

theorem ofJson?_toJson (field : Field) : ofJson? field.toJson = some field := by
  obtain ⟨path, name, type, repeated⟩ := field
  cases repeated <;>
    simp [ofJson?, toJson, fields?_ofMembers, member?, required, defaulted, asString?_ofString, asBool?]

theorem isEncoded_toJson (field : Field) : field.toJson.IsEncoded := by
  refine .ofMembers fun member listed => ?_
  rcases List.mem_append.1 listed with always | repeated
  · simp only [List.mem_cons, List.not_mem_nil, or_false] at always
    rcases always with rfl | rfl | rfl <;> exact .ofString _
  · split at repeated
    next =>
      rw [List.mem_singleton.1 repeated]
      exact .bool true
    next => cases repeated

end Field

namespace ClassFlags

theorem ofJson?_toJson (flags : ClassFlags) : ofJson? flags.toJson = some flags := by
  simp [ofJson?, toJson, fields?_ofMembers, member?, defaulted, asBool?]

theorem isEncoded_toJson (flags : ClassFlags) : flags.toJson.IsEncoded := by
  refine .ofMembers ?_
  simp only [List.forall_mem_cons, List.not_mem_nil, false_imp_iff, implies_true, and_true]
  exact ⟨.bool _, .bool _, .bool _⟩

end ClassFlags

namespace Level

theorem ofJson?_toJson (level : Level) : ofJson? level.toJson = some level := by
  simp [ofJson?, toJson, fields?_ofMembers, member?, required, asString?_ofString]

theorem isEncoded_toJson (level : Level) : level.toJson.IsEncoded := by
  refine .ofMembers ?_
  simp only [List.forall_mem_cons, List.not_mem_nil, false_imp_iff, implies_true, and_true]
  exact ⟨.ofString _, .ofString _⟩

theorem depth_toJson_le (level : Level) : level.toJson.depth ≤ 1 := by
  rw [toJson, depth_ofMembers_le_iff]
  simp [ofString, depth]

end Level

namespace NodeKind

def tag : NodeKind → String
  | .classType _ _ _ => "class"
  | .fieldGroup _ _ => "field_group"
  | .subobject => "subobject"

/-- The members behind the tag; a class without a cull distance does not mention one. -/
def body : NodeKind → List (String × Json)
  | .classType kind flags cullDistance =>
    [("class", ofString kind.key), ("flags", flags.toJson)] ++
      match cullDistance with
      | some squared => [("cull_distance_squared", ofNat squared.toNat)]
      | none => []
  | .fieldGroup category fields =>
    [("category", ofString category.key), ("fields", .array (fields.map Field.toJson))]
  | .subobject => []

theorem toJson_eq (kind : NodeKind) :
    kind.toJson = ofMembers (("type", ofString kind.tag) :: kind.body) := by
  cases kind <;> rfl

theorem ne_type_of_mem_body (kind : NodeKind) : ∀ member ∈ kind.body, member.1 ≠ "type" := by
  cases kind with
  | classType kind flags cullDistance => cases cullDistance <;> simp [body]
  | fieldGroup category fields => simp [body]
  | subobject => simp [body]

theorem classOfJson?_body (kind : ClassKind) (flags : ClassFlags) (cullDistance : Option UInt64) :
    classOfJson? (ofMembers (classType kind flags cullDistance).body) =
      some (.classType kind flags cullDistance) := by
  cases cullDistance <;>
    simp [body, classOfJson?, fields?_ofMembers, member?, required, defaulted, variant?, ofString,
      decodeContent?_escape, ClassKind.ofKey?_key, ClassFlags.ofJson?_toJson, asOptional?_ofNat]

theorem groupOfJson?_body (category : Category) (fields : List Field) :
    groupOfJson? (ofMembers (fieldGroup category fields).body) = some (.fieldGroup category fields) := by
  have read : asList? Field.ofJson? (.array (fields.map Field.toJson)) = some fields :=
    mapM_map_eq_some fun field _ => field.ofJson?_toJson
  simp [body, groupOfJson?, fields?_ofMembers, member?, required, variant?, ofString,
    decodeContent?_escape, Category.ofKey?_key, read]

theorem isEncoded_toJson (kind : NodeKind) : kind.toJson.IsEncoded := by
  rw [toJson_eq]
  refine .ofMembers (List.forall_mem_cons.2 ⟨.ofString _, ?_⟩)
  cases kind with
  | classType kind flags cullDistance =>
    refine List.forall_mem_append.2 ⟨?_, fun member distance => ?_⟩
    · simp only [List.forall_mem_cons, List.not_mem_nil, false_imp_iff, implies_true, and_true]
      exact ⟨.ofString _, flags.isEncoded_toJson⟩
    · cases cullDistance with
      | none => cases distance
      | some squared =>
        rw [List.mem_singleton.1 distance]
        exact .ofNat squared.toNat_lt
  | fieldGroup category fields =>
    simp only [body, List.forall_mem_cons, List.not_mem_nil, false_imp_iff, implies_true, and_true]
    exact ⟨.ofString _, .array (List.forall_mem_map.2 fun field _ => field.isEncoded_toJson)⟩
  | subobject => exact fun member none => (by cases none)

theorem one_le_depth_toJson (kind : NodeKind) : 1 ≤ kind.toJson.depth := by
  rw [toJson_eq]
  exact one_le_depth_ofMembers _

/-- The kind of a node is read in full before it is taken apart, so it must not be too deep. -/
theorem ofJson?_toJson (levels : Nat) (kind : NodeKind) :
    ofJson? levels kind.toJson = if kind.toJson.depth ≤ levels then some kind else none := by
  have readable : kind.toJson.isReadable levels = true ↔ kind.toJson.depth ≤ levels :=
    kind.isEncoded_toJson.isReadable_iff
  have tagged : tagged? "type" kind.toJson = some (kind.tag, ofMembers kind.body) := by
    rw [toJson_eq, tagged?_ofMembers _ _ _ kind.ne_type_of_mem_body]
  by_cases shallow : kind.toJson.depth ≤ levels
  · rw [ofJson?, readable.2 shallow, tagged, if_pos shallow]
    cases kind with
    | classType kind flags cullDistance => exact classOfJson?_body kind flags cullDistance
    | fieldGroup category fields => exact groupOfJson?_body category fields
    | subobject => rfl
  · have refused : kind.toJson.isReadable levels = false := by
      rw [← Bool.not_eq_true, readable]
      exact shallow
    rw [ofJson?, refused, if_neg shallow]
    rfl

end NodeKind

namespace Node

theorem listToJson_eq (nodes : List Node) : listToJson nodes = nodes.map toJson := by
  induction nodes with
  | nil => rfl
  | cons node rest ih => rw [listToJson, ih, List.map_cons]

/-- What is written for the children, which is nothing if there are none. -/
def childrenToJson? (children : List Node) : Option Json :=
  if children = [] then none else some (.array (children.map toJson))

def childrenMember (children : List Node) : List (String × Json) :=
  (childrenToJson? children).toList.map fun value => ("children", value)

theorem toJson_eq (node : Node) : node.toJson = ofMembers ([("path", ofString node.path),
    ("name", ofString node.name), ("kind", node.kind.toJson)] ++ childrenMember node.children) := by
  obtain ⟨path, name, kind, children⟩ := node
  cases children with
  | nil => rfl
  | cons child rest =>
    rw [toJson, listToJson_eq, childrenMember, childrenToJson?, if_neg (List.cons_ne_nil child rest),
      List.map_cons]
    rfl

theorem depth_toJson_le_iff {node : Node} {levels : Nat} :
    node.toJson.depth ≤ levels + 2 ↔ node.kind.toJson.depth ≤ levels + 1 ∧
      ∀ child ∈ node.children, child.toJson.depth ≤ levels := by
  have below : (∀ member ∈ childrenMember node.children, member.2.depth ≤ levels + 1) ↔
      ∀ child ∈ node.children, child.toJson.depth ≤ levels := by
    by_cases leaf : node.children = []
    · simp [childrenMember, childrenToJson?, leaf]
    · simp [childrenMember, childrenToJson?, leaf, depth_array_le_iff]
  rw [toJson_eq, depth_ofMembers_le_iff, List.forall_mem_append, below]
  simp [ofString, depth]

theorem two_le_depth_toJson (node : Node) : 2 ≤ node.toJson.depth := by
  by_contra shallow
  have kind : node.kind.toJson.depth ≤ 0 := by
    have small : node.toJson.depth ≤ 0 + 1 := by omega
    rw [toJson_eq, depth_ofMembers_le_iff] at small
    exact small ("kind", node.kind.toJson) (by simp)
  have some_ := node.kind.one_le_depth_toJson
  omega

theorem isEncoded_toJson (node : Node) : node.toJson.IsEncoded := by
  induction node using ofChildren with
  | step node ih =>
    rw [toJson_eq]
    refine .ofMembers fun member listed => ?_
    rcases List.mem_append.1 listed with always | children
    · simp only [List.mem_cons, List.not_mem_nil, or_false] at always
      rcases always with rfl | rfl | rfl
      · exact .ofString _
      · exact .ofString _
      · exact node.kind.isEncoded_toJson
    · obtain ⟨value, written, rfl⟩ := List.mem_map.1 children
      rw [Option.mem_toList, childrenToJson?] at written
      split at written
      next => cases written
      next =>
        cases written
        exact .array (List.forall_mem_map.2 ih)

theorem fields?_toJson (node : Node) : fields? ["path", "name", "kind", "children"] node.toJson =
    some [some (ofString node.path), some (ofString node.name), some node.kind.toJson,
      childrenToJson? node.children] := by
  rw [toJson_eq, fields?_ofMembers, childrenMember]
  cases childrenToJson? node.children <;> simp [member?]

/-- A node is read back if it is not too deep, and is refused if it is. -/
theorem ofJson?_toJson (levels : Nat) (node : Node) :
    ofJson? levels node.toJson = if node.toJson.depth ≤ levels then some node else none := by
  induction node using ofChildren generalizing levels with
  | step node ih =>
    have deep := node.two_le_depth_toJson
    match levels with
    | 0 => rw [ofJson?, if_neg (by omega)]
    | 1 => rw [ofJson?, if_neg (by omega)]
    | levels + 2 =>
      have children : defaulted [] (asList? (ofJson? levels)) (childrenToJson? node.children) =
          if ∀ child ∈ node.children, child.toJson.depth ≤ levels then some node.children
          else none := by
        by_cases leaf : node.children = []
        · simp [childrenToJson?, leaf, defaulted]
        · rw [childrenToJson?, if_neg leaf, defaulted, asList?_map fun child listed => ih child listed levels]
      have kind := node.kind.ofJson?_toJson (levels + 1)
      have same : (⟨node.path, node.name, node.kind, node.children⟩ : Node) = node := by
        cases node
        rfl
      by_cases first : node.kind.toJson.depth ≤ levels + 1
      · rw [if_pos first] at kind
        by_cases rest : ∀ child ∈ node.children, child.toJson.depth ≤ levels
        · rw [if_pos rest] at children
          rw [if_pos (depth_toJson_le_iff.2 ⟨first, rest⟩)]
          simp [ofJson?, fields?_toJson, required, asString?_ofString, kind, children, same]
        · rw [if_neg rest] at children
          rw [if_neg fun shallow => rest (depth_toJson_le_iff.1 shallow).2]
          simp [ofJson?, fields?_toJson, required, asString?_ofString, kind, children]
      · rw [if_neg first] at kind
        rw [if_neg fun shallow => first (depth_toJson_le_iff.1 shallow).1]
        simp [ofJson?, fields?_toJson, required, asString?_ofString, kind]

end Node

namespace Manifest

/-- The lists of a manifest as they are written. -/
theorem toJson_eq (manifest : Manifest) : manifest.toJson = ofMembers
    [("classes", .array (manifest.classes.map Node.toJson)),
      ("catalog", .array (manifest.catalog.map Node.toJson)),
      ("levels", .array (manifest.levels.map Level.toJson)),
      ("cooked", .array (manifest.cooked.map ofString))] := by
  rw [toJson, Node.listToJson_eq, Node.listToJson_eq]

theorem isEncoded_toJson (manifest : Manifest) : manifest.toJson.IsEncoded := by
  rw [toJson_eq]
  refine .ofMembers ?_
  simp only [List.forall_mem_cons, List.not_mem_nil, false_imp_iff, implies_true, and_true]
  refine ⟨.array ?_, .array ?_, .array ?_, .array ?_⟩
  · exact List.forall_mem_map.2 fun node _ => node.isEncoded_toJson
  · exact List.forall_mem_map.2 fun node _ => node.isEncoded_toJson
  · exact List.forall_mem_map.2 fun level _ => level.isEncoded_toJson
  · exact List.forall_mem_map.2 fun path _ => .ofString path

theorem depth_toJson_le_iff {manifest : Manifest} {levels : Nat} :
    manifest.toJson.depth ≤ levels + 3 ↔ (∀ node ∈ manifest.classes, node.toJson.depth ≤ levels + 1) ∧
      ∀ node ∈ manifest.catalog, node.toJson.depth ≤ levels + 1 := by
  have named (level : Level) : level.toJson.depth ≤ levels + 1 :=
    level.depth_toJson_le.trans (Nat.le_add_left 1 levels)
  have cooked (path : String) : (ofString path).depth ≤ levels + 1 := Nat.zero_le _
  rw [toJson_eq, depth_ofMembers_le_iff]
  simp only [List.forall_mem_cons, depth_array_le_iff, List.forall_mem_map, named, cooked]
  simp

example :
    (toJson { classes := [(Node.rootClass "/A.Door" "Door").withChild
      { path := "/A.Door:Own", name := "Own",
        kind := .fieldGroup .state [⟨"/A.Door:open", "open", "bool", false⟩] }] }).depth = 8 := by
  decide

/-- A manifest is read back if its trees are not too deep, and is refused if they are. -/
theorem ofJson?_toJson (manifest : Manifest) :
    ofJson? manifest.toJson = if manifest.toJson.depth ≤ maxDepth then some manifest else none := by
  have nodes (list : List Node) : asList? (Node.ofJson? (maxDepth - 2)) (.array (list.map Node.toJson)) =
      if ∀ node ∈ list, node.toJson.depth ≤ maxDepth - 2 then some list else none :=
    asList?_map fun node _ => node.ofJson?_toJson (maxDepth - 2)
  have levels : asList? Level.ofJson? (.array (manifest.levels.map Level.toJson)) = some manifest.levels :=
    mapM_map_eq_some fun level _ => level.ofJson?_toJson
  have cooked : asList? asString? (.array (manifest.cooked.map ofString)) = some manifest.cooked :=
    mapM_map_eq_some fun path _ => asString?_ofString path
  have classes := nodes manifest.classes
  have catalog := nodes manifest.catalog
  have fits : manifest.toJson.depth ≤ maxDepth ↔
      (∀ node ∈ manifest.classes, node.toJson.depth ≤ maxDepth - 2) ∧
        ∀ node ∈ manifest.catalog, node.toJson.depth ≤ maxDepth - 2 := depth_toJson_le_iff
  by_cases first : ∀ node ∈ manifest.classes, node.toJson.depth ≤ maxDepth - 2
  · rw [if_pos first] at classes
    by_cases rest : ∀ node ∈ manifest.catalog, node.toJson.depth ≤ maxDepth - 2
    · rw [if_pos rest] at catalog
      rw [if_pos (fits.2 ⟨first, rest⟩), ofJson?, toJson_eq, fields?_ofMembers]
      simp [member?, defaulted, classes, catalog, levels, cooked]
    · rw [if_neg rest] at catalog
      rw [if_neg fun shallow => rest (fits.1 shallow).2, ofJson?, toJson_eq, fields?_ofMembers]
      simp [member?, defaulted, classes, catalog]
  · rw [if_neg first] at classes
    rw [if_neg fun shallow => first (fits.1 shallow).1, ofJson?, toJson_eq, fields?_ofMembers]
    simp [member?, defaulted, classes]

/-- Whichever way a manifest is laid out, its text is read as that manifest with all that the text leaves
out, unless it is nested deeper than a reader goes. -/
theorem ofText?_written (manifest : Manifest) :
    ofText? manifest.toJson.compactText =
        (if manifest.toJson.depth ≤ maxDepth then some manifest else none) ∧
      ofText? manifest.toJson.prettyText =
        (if manifest.toJson.depth ≤ maxDepth then some manifest else none) := by
  have written := manifest.isEncoded_toJson.isWritten
  have pretty : parse? manifest.toJson.prettyText = some manifest.toJson := by
    have read := parse?_prettyText written [] fun char none => (by cases none)
    rwa [String.ofList_nil, String.append_empty] at read
  constructor
  · rw [ofText?, parse?_compactText written, Option.bind_some, ofJson?_toJson]
  · rw [ofText?, pretty, Option.bind_some, ofJson?_toJson]

end Manifest

end ComponentSchema
