import ComponentSchema.Proofs.Json.Edits
import ComponentSchema.Proofs.Ledger.Store

/-!
Ledgers of older and newer tooling.  What a reader does not know it passes over, wherever it stands
and however deep it goes, and most of what it misses it knows a default for.  The watermark, and the
name and the kind of a class, it does not guess: a ledger without them is not read at all.
-/

namespace ComponentSchema

open Json

/-- A record of a class, edited: its members may be gone, and unknown ones may have been added. -/
abbrev ClassRecord.Edited : List String → Json → Json → Prop :=
  Json.Edited ["schema_name", "class"] fun _ => Eq

abbrev Partitions.Edited : List String → Json → Json → Prop :=
  Json.Edited ["state", "owner_restricted", "transferable"] fun _ => Eq

theorem ClassRecord.ofJson?_of_edited {record : ClassRecord} {gone : List String} {doc : Json}
    (edited : ClassRecord.Edited gone record.toJson doc) :
    ofJson? doc = if gone = [] then some record else none := by
  obtain ⟨members, edits⟩ := edited
  obtain rfl := Option.some.inj ((asMembers?_ofMembers _).symm.trans members)
  obtain ⟨field, fields, each⟩ := edits.exists_fields (by simp)
  have name := each "schema_name" (by simp)
  have kind := each "class" (by simp)
  cases gone with
  | nil =>
    have spelled : required asString? (field "schema_name") = some record.schemaName := by
      refine name.required _ List.mem_cons_self List.not_mem_nil ?_
      rintro _ rfl
      exact asString?_ofString record.schemaName
    have chosen : required (variant? false) (field "class") = some record.kind.key := by
      refine kind.required _ (List.mem_cons_of_mem _ List.mem_cons_self) List.not_mem_nil ?_
      rintro _ rfl
      exact decodeContent?_escape record.kind.key
    simp [ofJson?, fields, spelled, chosen, ClassKind.ofKey?_key]
  | cons lost others =>
    rw [if_neg (by simp)]
    have known : lost ∈ ["schema_name", "class"] := by
      have listed := edits.gone_subset List.mem_cons_self
      simpa using listed
    simp only [List.mem_cons, List.not_mem_nil, or_false] at known
    rcases known with rfl | rfl
    · simp [ofJson?, fields, name.required_eq_none List.mem_cons_self]
    · simp [ofJson?, fields, kind.required_eq_none List.mem_cons_self]

def Partitions.lacking (gone : List String) (partitions : Partitions) : Partitions where
  state := if "state" ∈ gone then ∅ else partitions.state
  ownerRestricted := if "owner_restricted" ∈ gone then ∅ else partitions.ownerRestricted
  transferable := if "transferable" ∈ gone then ∅ else partitions.transferable

theorem Partitions.ofJson?_of_edited {partitions : Partitions} {gone : List String} {doc : Json}
    (edited : Partitions.Edited gone partitions.toJson doc) :
    ofJson? doc = some (partitions.lacking gone) := by
  obtain ⟨members, edits⟩ := edited
  obtain rfl := Option.some.inj ((asMembers?_ofMembers _).symm.trans members)
  have once : ((Category.all.map fun category =>
      (category.key, ofPathIds (partitions.get category))).map Prod.fst).Nodup := by
    rw [List.map_map]
    exact (by decide : (Category.all.map Category.key).Nodup)
  obtain ⟨field, fields, each⟩ := edits.exists_fields once
  have ids (category : Category)
      (known : category.key ∈ ["state", "owner_restricted", "transferable"]) :
      defaulted ∅ asPathIds? (field category.key) =
        some (if category.key ∈ gone then ∅ else partitions.get category) :=
    (each category.key known).defaulted ∅ _
      (List.mem_map_of_mem (by cases category <;> decide))
      fun _ same => same ▸ asPathIds?_ofPathIds (partitions.get category)
  have first := ids .state (by decide)
  have second := ids .ownerRestricted (by decide)
  have third := ids .transferable (by decide)
  simp only [Category.key] at first second third
  simp only [ofJson?, fields, List.map_cons, List.map_nil, first, second, third,
    Option.bind_eq_bind, Option.bind_some, Option.pure_def]
  rfl

/-- The members that are missing in what is kept of a ledger: on top, among the partitions, and in
the record of each class. -/
structure Omissions where
  members : List String := []
  partitions : List String := []
  records : String → List String := fun _ => []

namespace Ledger

/-- What may become of a member of a ledger that stays: unknown members are added and known ones are
left out in the records of classes and among the partitions, and all else is as it was. -/
inductive Changes (gone : Omissions) (ledger : Ledger) (name : String) (value : Json) : Json → Prop
  | records {members : List (List Char × Json)} (here : name = "classes")
    (each : List.Forall₂ (fun entry member => member.1 = escape entry.1 ∧
      ClassRecord.Edited (gone.records entry.1) entry.2.toJson member.2)
        ledger.classes.entries members) : Changes gone ledger name value (.object members)
  | partitions {doc : Json} (here : name = "components")
    (edited : Partitions.Edited gone.partitions ledger.components.toJson doc) :
    Changes gone ledger name value doc
  | other (plain : name ∉ ["classes", "components"]) : Changes gone ledger name value value

/-- The JSON of a ledger as other tooling may have left it. -/
abbrev Edited (gone : Omissions) (ledger : Ledger) : Json → Prop :=
  Json.Edited ["format_version", "next_component_id", "classes", "components", "levels",
    "distance_buckets", "component_index", "descriptor_hash"] (Changes gone ledger) gone.members
    ledger.toJson

/-- A ledger with defaults in the place of what is gone. -/
def lacking (gone : Omissions) (ledger : Ledger) : Ledger where
  formatVersion := if "format_version" ∈ gone.members then 0 else ledger.formatVersion
  nextId := ledger.nextId
  classes := if "classes" ∈ gone.members then ∅ else ledger.classes
  components :=
    if "components" ∈ gone.members then {} else ledger.components.lacking gone.partitions
  levels := if "levels" ∈ gone.members then ∅ else ledger.levels
  distances := if "distance_buckets" ∈ gone.members then ∅ else ledger.distances
  index := if "component_index" ∈ gone.members then ∅ else ledger.index
  descriptorHash := if "descriptor_hash" ∈ gone.members then none else ledger.descriptorHash

end Ledger

/-- What has no default is there: the watermark, and the name and kind of each class that is
listed. -/
structure Omissions.Spares (gone : Omissions) (ledger : Ledger) : Prop where
  watermark : "next_component_id" ∉ gone.members
  records : "classes" ∉ gone.members → ∀ entry ∈ ledger.classes.entries, gone.records entry.1 = []

namespace Ledger

variable {gone : Omissions} {ledger : Ledger} {doc value : Json}

theorem eq_of_changes {name : String} {value' : Json} (plain : name ∉ ["classes", "components"])
    (changed : Changes gone ledger name value value') : value' = value := by
  cases changed with
  | records here each => exact absurd (here ▸ List.mem_cons_self) plain
  | partitions here edited =>
    exact absurd (here ▸ List.mem_cons_of_mem _ List.mem_cons_self) plain
  | other => rfl

/-- Most fields are taken out or stay as they are. -/
theorem defaulted_of_leaves {α : Type} {decode : Json → Option α} {name : String}
    {old : List (String × Json)} {field : Option Json} {result : α} (value : Json) (default : α)
    (leaves : Leaves (Changes gone ledger) gone.members old name field) (listed : (name, value) ∈ old)
    (plain : name ∉ ["classes", "components"]) (reads : decode value = some result) :
    defaulted default decode field = some (if name ∈ gone.members then default else result) :=
  leaves.defaulted default value listed fun value' changed => by
    rw [eq_of_changes plain changed, reads]

theorem readPartitions_of_changes {value' : Json}
    (changed : Changes gone ledger "components" value value') :
    Partitions.ofJson? value' = some (ledger.components.lacking gone.partitions) := by
  cases changed with
  | records here each => exact absurd here (by decide)
  | partitions here edited => exact Partitions.ofJson?_of_edited edited
  | other plain => exact absurd (by decide) plain

theorem readDistances (distances : SortedMap UInt64 ComponentId) :
    asMap? (fun content => (keyBelow? UInt64.size content).map Nat.toUInt64) ComponentId.ofJson?
      (.object (distances.entries.map fun entry => (decimal entry.1.toNat, entry.2.toJson))) =
        some distances :=
  asMap?_entries _ (fun squared => decimal squared.toNat)
    (fun squared => by simp [keyBelow?_decimal squared.toNat_lt]) ComponentId.ofJson?_toJson distances

theorem readIndex (index : SortedMap ComponentId String) :
    asMap? ComponentId.ofKey? asString?
      (.object (index.entries.map fun entry => (decimal entry.1.number.toNat, ofString entry.2))) =
        some index :=
  asMap?_entries _ _ ComponentId.ofKey?_decimal asString?_ofString index

/-- The classes of a ledger are read if no record lacks anything, and otherwise refused. -/
theorem readClasses_of_changes {value' : Json}
    (changed : Changes gone ledger "classes" value value') :
    ((∀ entry ∈ ledger.classes.entries, gone.records entry.1 = []) →
        asMap? decodeContent? ClassRecord.ofJson? value' = some ledger.classes) ∧
      ((∃ entry ∈ ledger.classes.entries, gone.records entry.1 ≠ []) →
        asMap? decodeContent? ClassRecord.ofJson? value' = none) := by
  cases changed with
  | records here each =>
    constructor
    · intro whole
      refine asMap?_of_forall₂ (((List.forall₂_and_left _ _).2 ⟨whole, each⟩).imp ?_)
      rintro entry member ⟨nothing, key, edited⟩
      have record := ClassRecord.ofJson?_of_edited edited
      rw [if_pos nothing] at record
      exact ⟨by rw [key, decodeContent?_escape], record⟩
    · rintro ⟨entry, listed, something⟩
      obtain ⟨member, there, -, edited⟩ := exists_of_mem_left each entry listed
      refine asMap?_eq_none there ?_
      rw [ClassRecord.ofJson?_of_edited edited, if_neg something]
  | partitions here edited => exact absurd here (by decide)
  | other plain => exact absurd (by decide) plain

section Fields

variable {old : List (String × Json)} {field : Option Json}

theorem readHash_of_leaves
    (leaves : Leaves (Changes gone ledger) gone.members old "descriptor_hash" field)
    (listed : ∀ hash ∈ ledger.descriptorHash, ("descriptor_hash", ofNat hash.toNat) ∈ old)
    (unlisted : ledger.descriptorHash = none → "descriptor_hash" ∉ old.map Prod.fst) :
    defaulted none (asOptional? asUInt64?) field =
      some (if "descriptor_hash" ∈ gone.members then none else ledger.descriptorHash) := by
  cases stored : ledger.descriptorHash with
  | none =>
    rw [leaves.missing (.inr (unlisted stored)), ite_self]
    rfl
  | some hash =>
    exact defaulted_of_leaves _ none leaves (listed hash stored) (by decide) (asOptional?_ofNat hash)

theorem readWatermark_of_leaves
    (leaves : Leaves (Changes gone ledger) gone.members old "next_component_id" field)
    (listed : ("next_component_id", ledger.nextId.toJson) ∈ old) :
    required ComponentId.ofJson? field =
      if "next_component_id" ∈ gone.members then none else some ledger.nextId := by
  by_cases lost : "next_component_id" ∈ gone.members
  · rw [if_pos lost, leaves.required_eq_none lost]
  · rw [if_neg lost]
    refine leaves.required ledger.nextId.toJson listed lost fun value' changed => ?_
    rw [eq_of_changes (by decide) changed, ComponentId.ofJson?_toJson]

theorem readClasses_of_leaves
    (leaves : Leaves (Changes gone ledger) gone.members old "classes" field)
    (listed : "classes" ∈ old.map Prod.fst) :
    (("classes" ∉ gone.members → ∀ entry ∈ ledger.classes.entries, gone.records entry.1 = []) →
        defaulted ∅ (asMap? decodeContent? ClassRecord.ofJson?) field =
          some (if "classes" ∈ gone.members then ∅ else ledger.classes)) ∧
      (¬("classes" ∉ gone.members → ∀ entry ∈ ledger.classes.entries, gone.records entry.1 = []) →
        defaulted ∅ (asMap? decodeContent? ClassRecord.ofJson?) field = none) := by
  by_cases lost : "classes" ∈ gone.members
  · rw [leaves.missing (.inl lost), if_pos lost]
    exact ⟨fun _ => rfl, fun torn => absurd (fun kept => absurd lost kept) torn⟩
  · obtain ⟨⟨_, value⟩, inside, rfl⟩ := List.mem_map.1 listed
    obtain ⟨value', changed, rfl⟩ := leaves.found value inside lost
    obtain ⟨whole, torn⟩ := readClasses_of_changes changed
    rw [if_neg lost]
    refine ⟨fun spared => whole (spared lost), fun lacks => torn ?_⟩
    push Not at lacks
    exact lacks.2

end Fields

/-- A ledger that other tooling kept is read with defaults for what is gone, and refused if what is
gone has no default. -/
theorem ofJson?_of_edited (edited : ledger.Edited gone doc) :
    (gone.Spares ledger → ofJson? doc = some (ledger.lacking gone)) ∧
      (¬gone.Spares ledger → ofJson? doc = none) := by
  obtain ⟨members, edits⟩ := edited
  obtain rfl := Option.some.inj ((asMembers?_ofMembers _).symm.trans members)
  obtain ⟨field, fields, each⟩ := edits.exists_fields (by cases ledger.descriptorHash <;> simp)
  have format := defaulted_of_leaves _ 0 (each "format_version" (by simp)) (by simp) (by decide)
    (asUInt32?_ofNat ledger.formatVersion)
  have watermark := readWatermark_of_leaves (each "next_component_id" (by simp)) (by simp)
  have classes := readClasses_of_leaves (each "classes" (by simp)) (by simp)
  have components := (each "components" (by simp)).defaulted {} ledger.components.toJson (by simp)
    fun value' => readPartitions_of_changes
  have levels := defaulted_of_leaves _ ∅ (each "levels" (by simp)) (by simp) (by decide)
    (asPathIds?_ofPathIds ledger.levels)
  have distances := defaulted_of_leaves _ ∅ (each "distance_buckets" (by simp)) (by simp)
    (by decide) (readDistances ledger.distances)
  have index := defaulted_of_leaves _ ∅ (each "component_index" (by simp)) (by simp) (by decide)
    (readIndex ledger.index)
  have hash := readHash_of_leaves (each "descriptor_hash" (by simp))
    (fun hash stored => by simp [Option.mem_def.1 stored]) fun unknown => by simp [unknown]
  constructor
  · intro spared
    rw [if_neg spared.watermark] at watermark
    simp only [ofJson?, fields, List.map_cons, List.map_nil, format, watermark,
      classes.1 spared.records, components, levels, distances, index, hash, Option.bind_eq_bind,
      Option.bind_some, Option.pure_def]
    rfl
  · intro lacks
    by_cases lost : "next_component_id" ∈ gone.members
    · rw [if_pos lost] at watermark
      simp only [ofJson?, fields, List.map_cons, List.map_nil, format, watermark,
        Option.bind_eq_bind, Option.bind_some, Option.bind_none]
    · have torn := classes.2 fun records => lacks ⟨lost, records⟩
      simp only [ofJson?, fields, List.map_cons, List.map_nil, format, torn,
        Option.bind_eq_bind, Option.bind_some, Option.bind_none, Option.bind_fun_none]

theorem isWritten_of_edited (edited : ledger.Edited gone doc) : doc.IsWritten := by
  refine Json.Edited.isWritten edited ledger.isWritten_toJson fun written changed => ?_
  cases changed with
  | records here each =>
    refine .object (fun member listed => ?_) fun member listed => ?_
    · obtain ⟨entry, -, key, -⟩ := exists_of_mem_left each.flip member listed
      rw [key]
      exact isContent_escape entry.1
    · obtain ⟨entry, -, -, edited⟩ := exists_of_mem_left each.flip member listed
      exact edited.isWritten entry.2.isWritten_toJson fun written same => same ▸ written
  | partitions here edited =>
    exact edited.isWritten ledger.components.isWritten_toJson fun written same => same ▸ written
  | other plain => exact written

theorem lacking_nothing (ledger : Ledger) : ledger.lacking {} = ledger := by
  simp [lacking, Partitions.lacking]

end Ledger

/-- However other tooling left the JSON of a ledger, with members that are unknown here and without
some of those that are known, its text is read.  What is missing is at its default then, and all
else is as it was; but without the watermark, or the name or kind of a class, the file is as good as
unreadable. -/
theorem LedgerStore.load_of_edited {gone : Omissions} {ledger : Ledger} {doc : Json}
    (edited : ledger.Edited gone doc) :
    ledger.lacking {} = ledger ∧ parseBytes? doc.prettyText.toUTF8 = some doc ∧
    ∀ bytes, parseBytes? bytes = some doc →
      ∀ (store : LedgerStore) (files : FileSystem), files.read store.path = .ok bytes →
        store.isReadOnly files = false →
        (gone.Spares ledger → Ledger.ofBytes? bytes = some (ledger.lacking gone) ∧
          store.load files =
            if (ledger.lacking gone).isStale then .ok (.reset .stale)
            else
              match (ledger.lacking gone).checkIntegrity with
              | .ok () => .ok (.loaded (ledger.lacking gone))
              | .error findings => .error (.corrupt store.path findings)) ∧
        (¬gone.Spares ledger → Ledger.ofBytes? bytes = none ∧
          store.load files = .ok (.reset .unreadable)) := by
  obtain ⟨read, refused⟩ := Ledger.ofJson?_of_edited edited
  refine ⟨ledger.lacking_nothing, ?_, fun bytes parsed store files found writable => ?_⟩
  · have text := parse?_prettyText (Ledger.isWritten_of_edited edited) [] (by simp)
    rwa [String.ofList_nil, String.append_empty, ← parseBytes?_toUTF8] at text
  · have bytes_ : Ledger.ofBytes? bytes = Ledger.ofJson? doc := by
      rw [Ledger.ofBytes?, parsed, Option.bind_some]
    rw [load_of_bytes found writable, bytes_]
    constructor
    · intro spared
      rw [read spared]
      exact ⟨rfl, rfl⟩
    · intro lacks
      rw [refused lacks]
      exact ⟨rfl, rfl⟩

/-- A door on record, with its one component. -/
def Ledger.doored : Ledger where
  formatVersion := 2
  nextId := ⟨10001⟩
  classes := .ofList [("/A.Door", ⟨"Door", .root⟩)]
  components := { state := .ofList [("/A.Door", ⟨10000⟩)] }

/-- The door as kept by tooling that knows more of classes and partitions and less of the rest. -/
def Json.doored : Json :=
  .ofMembers [
    ("tool", .ofMembers [("levels", .null)]),
    ("next_component_id", .ofNat 10001),
    ("classes", .ofMembers [("/A.Door", .ofMembers [
      ("schema_name", .ofString "Door"), ("tags", .array []), ("class", .ofString "root")])]),
    ("components", .ofMembers [
      ("private", .bool true), ("state", .ofMembers [("/A.Door", .ofNat 10000)])])]

def Omissions.doored : Omissions where
  members := ["format_version", "levels", "distance_buckets", "component_index"]
  partitions := ["owner_restricted", "transferable"]

theorem Ledger.edited_doored : Ledger.doored.Edited Omissions.doored Json.doored := by
  have record : ClassRecord.Edited [] (ClassRecord.mk "Door" .root).toJson (.ofMembers [
      ("schema_name", .ofString "Door"), ("tags", .array []), ("class", .ofString "root")]) := by
    refine .object (asMembers?_ofMembers _) (.kept rfl ?_)
    refine .added (decodeContent?_escape "tags") (by decide) (isContent_escape "tags") ?_
      (.kept rfl .nil)
    exact .array fun item none => (by cases none)
  have parts : Partitions.Edited ["owner_restricted", "transferable"] Ledger.doored.components.toJson
      (.ofMembers [
        ("private", .bool true), ("state", .ofMembers [("/A.Door", .ofNat 10000)])]) := by
    refine .object (asMembers?_ofMembers _) ?_
    refine .added (decodeContent?_escape "private") (by decide) (isContent_escape "private")
      (.bool true) ?_
    exact .kept rfl (.omitted (.omitted .nil))
  refine .object (asMembers?_ofMembers _) ?_
  refine .added (decodeContent?_escape "tool") (by decide) (isContent_escape "tool") ?_ ?_
  · exact isWritten_ofMembers (List.forall_mem_singleton.2 .null)
  · refine .omitted (.kept (.other (by decide)) (.kept (.records rfl ?_)
      (.kept (.partitions rfl parts) ?_)))
    · exact .cons ⟨rfl, record⟩ .nil
    · exact .omitted (.omitted (.omitted .nil))

theorem LedgerStore.load_of_edited_doored :
    let store : LedgerStore := ⟨"ledger.json"⟩
    let files : FileSystem := (∅ : FileSystem).put ["ledger.json"]
      { content := .file Json.doored.prettyText.toUTF8 }
    Ledger.doored.Edited Omissions.doored Json.doored ∧ Omissions.doored.Spares Ledger.doored ∧
      Ledger.doored.lacking Omissions.doored = { Ledger.doored with formatVersion := 0 } ∧
      store.load files = .ok (.loaded (Ledger.doored.lacking Omissions.doored)) := by
  intro store files
  have spared : Omissions.doored.Spares Ledger.doored := ⟨by decide, fun _ _ _ => rfl⟩
  have read : files.read store.path = .ok Json.doored.prettyText.toUTF8 := by
    refine FileSystem.read_eq_ok_iff.2 ⟨by decide +kernel, ?_⟩
    exact (FileSystem.fileAt?_put_file _ (by decide) _ _ _).trans (if_pos (by decide))
  have writable : store.isReadOnly files = false := by decide +kernel
  obtain ⟨-, parsed, loads⟩ := load_of_edited Ledger.edited_doored
  obtain ⟨-, load⟩ := (loads _ parsed store files read writable).1 spared
  have standing : (Ledger.doored.lacking Omissions.doored).isStale = false := by decide +kernel
  have sound : (Ledger.doored.lacking Omissions.doored).checkIntegrity = .ok () :=
    Task.eq_ok_of_isOk (by decide +kernel)
  refine ⟨Ledger.edited_doored, spared, rfl, ?_⟩
  rw [load, standing, sound]
  rfl

end ComponentSchema
