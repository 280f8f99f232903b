import ComponentSchema.Proofs.Identifier
import ComponentSchema.Proofs.Pass.Content

/-!
The names declared in a class file.  Each declaration stands for a place in the class, and its name is the
schema name with an ending that the place spells.  No two declarations stand for one place, and the
endings of the class itself, of its data types and of its slots all differ.  The names of a file therefore
clash exactly if the ending of a static subobject is spelled again elsewhere in the class: the names
that lead to it run into one another, and what they spell is compared nowhere.
-/

namespace ComponentSchema

/-- What a declaration in a class file stands for. -/
inductive ClassPlace where
  | dataType (category : Category)
  | slot (number : Nat) (category : Category)
  /-- The class itself, or the static subobject that some names lead to. -/
  | node (chain : List String) (category : Category)
deriving DecidableEq, Repr

namespace ClassPlace

/-- What the name of a place adds to the name of the class. -/
def ending : ClassPlace → String
  | dataType category => category.suffix ++ "Data"
  | slot number category => "Dynamic" ++ toString number ++ category.suffix
  | node chain category => String.join chain ++ category.suffix

/-- The place belongs to a static subobject beneath the class. -/
def IsBeneath : ClassPlace → Prop
  | node chain _ => chain ≠ []
  | _ => False

instance (place : ClassPlace) : Decidable place.IsBeneath := by
  cases place <;> unfold IsBeneath <;> infer_instance

end ClassPlace

namespace Category

theorem suffix_inj {first second : Category} (same : first.suffix = second.suffix) :
    first = second := by
  cases first <;> cases second <;> first | rfl | exact absurd same (by decide)

theorem takeWhile_suffix (category : Category) :
    category.suffix.toList.takeWhile Char.isDigit = [] := by
  cases category <;> decide

end Category

/-- The digits of a number end where what follows them does not begin with a digit. -/
theorem takeWhile_toString_append (number : Nat) {rest : String}
    (ends : rest.toList.takeWhile Char.isDigit = []) :
    (toString number ++ rest).toList.takeWhile Char.isDigit = Nat.toDigits 10 number := by
  rw [String.toList_append, Nat.toString_eq_repr, Nat.toList_repr, List.takeWhile_append_of_pos,
    ends, List.append_nil]
  exact fun char member => Nat.isDigit_of_mem_toDigits (by omega) (by omega) member

theorem toString_append_inj {first second : Nat} {rest rest' : String}
    (ends : rest.toList.takeWhile Char.isDigit = [])
    (ends' : rest'.toList.takeWhile Char.isDigit = [])
    (same : toString first ++ rest = toString second ++ rest') : first = second ∧ rest = rest' := by
  have digits : Nat.toDigits 10 first = Nat.toDigits 10 second := by
    rw [← takeWhile_toString_append first ends, ← takeWhile_toString_append second ends', same]
  obtain rfl := eq_of_toDigits digits
  exact ⟨rfl, (String.append_right_inj _).1 same⟩

namespace ClassPlace

theorem ending_slot (number : Nat) (category : Category) :
    (slot number category).ending = "Dynamic" ++ (toString number ++ category.suffix) :=
  String.append_assoc

theorem front_slot (number : Nat) (category : Category) :
    (slot number category).ending.toList.take 2 = ['D', 'y'] := by
  rw [ending_slot, String.toList_append]
  rfl

theorem front_dataType (category : Category) :
    (dataType category).ending.toList.take 2 ≠ ['D', 'y'] := by
  cases category <;> decide

theorem front_own (category : Category) :
    (node [] category).ending.toList.take 2 ≠ ['D', 'y'] := by
  cases category <;> decide

theorem ending_dataType_ne_own (first second : Category) :
    (dataType first).ending ≠ (node [] second).ending := by
  cases first <;> cases second <;> decide

/-- The endings of a class itself, of its data types and of its slots all differ. -/
theorem ending_inj {first second : ClassPlace} (above : ¬first.IsBeneath) (above' : ¬second.IsBeneath)
    (same : first.ending = second.ending) : first = second := by
  have fronts : first.ending.toList.take 2 = second.ending.toList.take 2 := by rw [same]
  cases first with
  | dataType category =>
    cases second with
    | dataType other =>
      have suffixes : category.suffix = other.suffix := (String.append_left_inj _).1 same
      rw [Category.suffix_inj suffixes]
    | slot number other => exact absurd (fronts.trans (front_slot ..)) (front_dataType category)
    | node chain other =>
      obtain rfl : chain = [] := not_not.1 above'
      exact absurd same (ending_dataType_ne_own category other)
  | slot number category =>
    rw [front_slot] at fronts
    cases second with
    | dataType other => exact absurd fronts.symm (front_dataType other)
    | slot number' other =>
      have tails : toString number ++ category.suffix = toString number' ++ other.suffix := by
        rw [ending_slot, ending_slot] at same
        exact (String.append_right_inj _).1 same
      obtain ⟨rfl, suffixes⟩ :=
        toString_append_inj category.takeWhile_suffix other.takeWhile_suffix tails
      rw [Category.suffix_inj suffixes]
    | node chain other =>
      obtain rfl : chain = [] := not_not.1 above'
      exact absurd fronts.symm (front_own other)
  | node chain category =>
    obtain rfl : chain = [] := not_not.1 above
    cases second with
    | dataType other => exact absurd same.symm (ending_dataType_ne_own other category)
    | slot number other => exact absurd (fronts.trans (front_slot ..)) (front_own category)
    | node chain other =>
      obtain rfl : chain = [] := not_not.1 above'
      have suffixes : category.suffix = other.suffix := (String.append_right_inj _).1 same
      rw [Category.suffix_inj suffixes]

end ClassPlace

namespace Node

theorem nodup_categories (node : Node) : node.categories.Nodup :=
  List.Nodup.filter _ (by decide)

def nodePlaces (reached : List (List String × Node)) : List ClassPlace :=
  reached.flatMap fun place => place.2.categories.map (.node place.1)

/-- The places of a class, in the order of their declarations. -/
def places (kind : ClassKind) (slots : Nat) (node : Node) : List ClassPlace :=
  match kind with
  | .root => nodePlaces (node.descent [])
  | .subobject =>
    node.categories.map .dataType ++
      ((List.range' 1 slots).flatMap (fun number => node.categories.map (.slot number)) ++
        nodePlaces (descentAll [] node.children))

/-- Nodes that are labelled apart have different places. -/
theorem nodup_labelled {ι κ : Type} {items : List ι} {label : ι → κ} (owner : ι → Node)
    {place : κ → Category → ClassPlace}
    (inj : ∀ {first second category category'},
      place first category = place second category' → first = second ∧ category = category')
    (apart : (items.map label).Nodup) :
    (items.flatMap fun item => (owner item).categories.map (place (label item))).Nodup := by
  rw [List.nodup_flatMap]
  constructor
  · exact fun item _ => (owner item).nodup_categories.map fun _ _ same => (inj same).2
  · refine (List.pairwise_map.1 apart).imp fun {first second} different => ?_
    rw [Function.onFun, List.disjoint_left]
    intro shared one other
    obtain ⟨category, -, rfl⟩ := List.mem_map.1 one
    obtain ⟨category', -, same⟩ := List.mem_map.1 other
    exact different (inj same).1.symm

theorem nodup_nodePlaces {reached : List (List String × Node)}
    (chains : (reached.map Prod.fst).Nodup) : (nodePlaces reached).Nodup :=
  nodup_labelled Prod.snd ClassPlace.node.inj chains

theorem exists_node_of_mem {reached : List (List String × Node)} {place : ClassPlace}
    (member : place ∈ nodePlaces reached) : ∃ chain category, place = .node chain category := by
  obtain ⟨reached, -, member⟩ := List.mem_flatMap.1 member
  obtain ⟨category, -, rfl⟩ := List.mem_map.1 member
  exact ⟨reached.1, category, rfl⟩

/-- No place of a class is declared twice, as long as no two siblings in it have the same name. -/
theorem nodup_places {node : Node} (kind : ClassKind) (slots : Nat)
    (apart : ∀ place ∈ node.descent [], place.2.NamesSubobjects) : (node.places kind slots).Nodup := by
  obtain ⟨whole, beneath⟩ := nodup_descent apart
  cases kind with
  | root => exact nodup_nodePlaces whole
  | subobject =>
    have types : (node.categories.map ClassPlace.dataType).Nodup :=
      node.nodup_categories.map fun _ _ same => ClassPlace.dataType.inj same
    have slotted : ((List.range' 1 slots).flatMap fun number =>
        node.categories.map (ClassPlace.slot number)).Nodup := by
      have numbers : ((List.range' 1 slots).map id).Nodup := by
        rw [List.map_id]
        exact List.nodup_range'
      exact nodup_labelled (fun _ => node) ClassPlace.slot.inj numbers
    have components := slotted.append (nodup_nodePlaces beneath) <|
      List.disjoint_left.2 fun place one other => by
        obtain ⟨chain, category, rfl⟩ := exists_node_of_mem other
        obtain ⟨number, -, member⟩ := List.mem_flatMap.1 one
        obtain ⟨category', -, same⟩ := List.mem_map.1 member
        cases same
    refine types.append components (List.disjoint_left.2 fun place one other => ?_)
    obtain ⟨category, -, rfl⟩ := List.mem_map.1 one
    rcases List.mem_append.1 other with member | member
    · obtain ⟨number, -, member⟩ := List.mem_flatMap.1 member
      obtain ⟨category', -, same⟩ := List.mem_map.1 member
      cases same
    · obtain ⟨chain, category', same⟩ := exists_node_of_mem member
      cases same

end Node

namespace ClassFile

theorem names_filled (ledger : Ledger) (kind : ClassKind) (slots : Nat) (schemaName : String)
    (node : Node) :
    (filled ledger kind slots schemaName node).declarations.map Declaration.name =
      (node.places kind slots).map fun place => schemaName ++ place.ending := by
  have descended (reached : List (List String × Node)) :
      (descentOutlines schemaName reached).map Outline.name =
        (Node.nodePlaces reached).map fun place => schemaName ++ place.ending := by
    unfold descentOutlines ownOutlines Node.nodePlaces
    simp only [List.map_flatMap, List.map_map, Function.comp_def, ClassPlace.ending,
      String.append_assoc]
  have components (outlines : List Outline) :
      (outlines.map fun outline => outline.filled ledger).map Declaration.name =
        outlines.map Outline.name := by
    rw [List.map_map]
    rfl
  unfold filled
  rw [List.map_append, components]
  cases kind with
  | root => exact descended _
  | subobject =>
    unfold types outlines Node.places slotOutlines
    rw [List.map_append, descended, List.map_append, List.map_append]
    simp only [List.map_flatMap, List.map_map, Function.comp_def, ClassPlace.ending, dataType,
      dataTypeName, String.append_assoc]

end ClassFile

/-- The names in the file that is emitted for a class of a valid graph are distinct exactly if no static
subobject of the class ends in what another place of the class ends in. -/
theorem Emitter.nodup_names_iff {emitter : Emitter} {classes : List Node} {levels : List Level}
    {node : Node} {schemaName : String} {before after : Workshop} {path : Path}
    (validated : Validation.check classes levels = .ok ()) (listed : node ∈ classes)
    (run : emitter.emitClass node schemaName before = (.ok path, after)) :
    ∃ kind, node.classKind? = some kind ∧
      before.files.Takes
        [emitter.writeOf (emitter.classEntry after.numbering.ledger kind schemaName node)]
        after.files ∧
      (((emitter.classEntry after.numbering.ledger kind schemaName node).2.declarations.map
          Declaration.name).Nodup ↔
        ∀ first ∈ node.places kind emitter.slots.toNat,
          ∀ second ∈ node.places kind emitter.slots.toNat,
            first.IsBeneath → first.ending = second.ending → first = second) := by
  have faultless := (Validation.check_eq_ok_iff.1 validated).1.1 node listed
  obtain ⟨kind, isClass⟩ :=
    Option.isSome_iff_exists.1 (Validation.isSome_classKind?_of_nodeFaults faultless)
  have emitted := (emitClass_emits isClass emitter schemaName _ _ _ _ _ run).2 _ (.refl _)
  refine ⟨kind, isClass, emitted.2, ?_⟩
  have role : node.role ≠ .fieldGroup := by
    rw [Node.role_of_classKind? isClass]
    exact Role.noConfusion
  have apart : ∀ place ∈ node.descent [], place.2.NamesSubobjects :=
    Validation.namesSubobjects_of_nodeFaults faultless role
  have once := Node.nodup_places kind emitter.slots.toNat apart
  have names := ClassFile.names_filled after.numbering.ledger kind emitter.slots.toNat schemaName node
  rw [show ((emitter.classEntry after.numbering.ledger kind schemaName node).2.declarations.map
    Declaration.name) = _ from names]
  constructor
  · intro distinct first one second other _ same
    exact List.inj_on_of_nodup_map distinct one other (congrArg (schemaName ++ ·) same)
  · intro clear
    refine once.map_on fun first one second other same => ?_
    have endings : first.ending = second.ending := (String.append_right_inj _).1 same
    -- one of the two is beneath the class, or both endings are of the kinds that all differ
    by_cases beneath : first.IsBeneath
    · exact clear first one second other beneath endings
    · by_cases beneath' : second.IsBeneath
      · exact (clear second other first one beneath' endings.symm).symm
      · exact ClassPlace.ending_inj beneath beneath' endings

/-- A class with an arm that has a hand, and with a part whose one name is spelled like both. -/
def Node.bot : Node :=
  let grip : Field := { path := "/A.Bot:Grip", name := "Grip", type := "bool" }
  let arm := (ofSubobject "/A.Bot.Arm" "Arm").withChild
    ((ofSubobject "/A.Bot.Arm.Hand" "Hand").withFields .state [grip])
  let armHand := (ofSubobject "/A.Bot.ArmHand" "ArmHand").withFields .state [grip]
  ((rootClass "/A.Bot" "Bot").withChild arm).withChild armHand

theorem Emitter.nodup_names_iff_bot :
    ∃ path after, Plan.small.emitter.emitClass Node.bot "Bot" ⟨.ofLedger .fresh, ∅⟩ =
        (.ok path, after) ∧
      ∃ kind, Node.bot.classKind? = some kind ∧
        (∅ : FileSystem).Takes
          [Plan.small.emitter.writeOf
            (Plan.small.emitter.classEntry after.numbering.ledger kind "Bot" Node.bot)]
          after.files ∧
        (((Plan.small.emitter.classEntry after.numbering.ledger kind "Bot"
            Node.bot).2.declarations.map Declaration.name).Nodup ↔
          ∀ first ∈ Node.bot.places kind Plan.small.emitter.slots.toNat,
            ∀ second ∈ Node.bot.places kind Plan.small.emitter.slots.toNat,
              first.IsBeneath → first.ending = second.ending → first = second) := by
  have accepted : (Validation.check [Node.bot] []).isOk = true := by decide +kernel
  have succeeds : (Plan.small.emitter.emitClass Node.bot "Bot"
    ⟨.ofLedger .fresh, ∅⟩).1.isOk = true := by decide +kernel
  rcases checked : Validation.check [Node.bot] [] with findings | _
  · rw [checked] at accepted
    cases accepted
  · rcases run : Plan.small.emitter.emitClass Node.bot "Bot" ⟨.ofLedger .fresh, ∅⟩ with
      ⟨error | path, after⟩
    · rw [run] at succeeds
      cases succeeds
    · exact ⟨path, after, rfl, Emitter.nodup_names_iff checked List.mem_cons_self run⟩

/-- The hand of the arm and the part beside it are both called `BotArmHand`. -/
example : (Validation.check [Node.bot] []).isOk = true ∧
    Node.bot.places .root 0 = [.node ["Arm", "Hand"] .state, .node ["ArmHand"] .state] ∧
    (Node.bot.places .root 0).map ClassPlace.ending = ["ArmHand", "ArmHand"] := by
  decide +kernel

end ComponentSchema
