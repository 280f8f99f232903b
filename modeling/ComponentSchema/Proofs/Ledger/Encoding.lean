import ComponentSchema.Ledger.Store
import ComponentSchema.Proofs.Json.Values
import ComponentSchema.Proofs.Lists
import ComponentSchema.Proofs.SortedMap

/-!
What is written for a ledger is read as that ledger, whatever it holds: its JSON gives back every
part, and the bytes of a saved ledger are the writing of that JSON.
-/

namespace ComponentSchema

namespace Json

theorem asString?_ofString (text : String) : asString? (.ofString text) = some text :=
  decodeContent?_escape text

theorem asNumberBelow?_ofNat {bound value : Nat} (below : value < bound) :
    asNumberBelow? bound (.ofNat value) = some value := by
  simp [asNumberBelow?, ofNat, plainNumber?_decimal, below]

theorem asUInt32?_ofNat (value : UInt32) : asUInt32? (.ofNat value.toNat) = some value := by
  rw [asUInt32?, asNumberBelow?_ofNat value.toNat_lt]
  simp

theorem asUInt64?_ofNat (value : UInt64) : asUInt64? (.ofNat value.toNat) = some value := by
  rw [asUInt64?, asNumberBelow?_ofNat value.toNat_lt]
  simp

theorem asOptional?_ofNat (value : UInt64) :
    asOptional? asUInt64? (.ofNat value.toNat) = some (some value) := by
  have read := asUInt64?_ofNat value
  simp only [ofNat] at read
  simp only [asOptional?, ofNat, read, Option.map_some]

theorem keyBelow?_decimal {bound value : Nat} (below : value < bound) :
    keyBelow? bound (decimal value) = some value := by
  simp [keyBelow?, plainNumber?_decimal, below]

theorem asMembers?_ofMembers (members : List (String × Json)) :
    asMembers? (.ofMembers members) = some members := by
  simp only [asMembers?, ofMembers]
  refine mapM_map_eq_some fun member _ => ?_
  rw [decodeContent?_escape, Option.map_some]

theorem fields?_ofMembers (names : List String) (members : List (String × Json)) :
    fields? names (.ofMembers members) = names.mapM (member? members) := by
  have decoded := asMembers?_ofMembers members
  simp only [ofMembers] at decoded
  simp only [fields?, ofMembers, decoded, Option.bind_eq_bind, Option.bind_some]

section

variable {κ α : Type} [Ord κ] [Std.TransOrd κ] [Std.LawfulEqOrd κ] {decode : Json → Option α}
  {decodeKey : List Char → Option κ} {members : List (List Char × Json)}

/-- A map is read off any object whose members are read as the entries of the map. -/
theorem asMap?_of_forall₂ {map : SortedMap κ α} (each : List.Forall₂ (fun entry member =>
    decodeKey member.1 = some entry.1 ∧ decode member.2 = some entry.2) map.entries members) :
    asMap? decodeKey decode (.object members) = some map := by
  simp only [asMap?]
  refine (congrArg (Option.map SortedMap.ofList) (?_ : _ = some map.entries)).trans ?_
  · generalize map.entries = entries at each
    induction each with
    | nil => rfl
    | cons first others ih =>
      rw [List.mapM_cons, first.1, first.2, ih]
      rfl
  · rw [Option.map_some, SortedMap.ofList_entries]

theorem asMap?_entries (decodeKey : List Char → Option κ) (writeKey : κ → List Char)
    {write : α → Json} (keys : ∀ key, decodeKey (writeKey key) = some key)
    (values : ∀ value, decode (write value) = some value) (map : SortedMap κ α) :
    asMap? decodeKey decode
      (.object (map.entries.map fun entry => (writeKey entry.1, write entry.2))) = some map :=
  asMap?_of_forall₂ (List.forall₂_map_right_iff.2
    (List.forall₂_same.2 fun entry _ => ⟨keys entry.1, values entry.2⟩))

theorem asMap?_eq_none {member : List Char × Json} (listed : member ∈ members)
    (refused : decode member.2 = none) : asMap? decodeKey decode (.object members) = none := by
  simp only [asMap?]
  rw [mapM_eq_none listed, Option.map_none]
  rw [refused]
  cases decodeKey member.1 <;> rfl

end

end Json

namespace ComponentId

theorem ofJson?_toJson (id : ComponentId) : ofJson? id.toJson = some id := by
  simp only [ofJson?, toJson, Json.asUInt32?_ofNat, Option.map_some]

theorem ofKey?_decimal (id : ComponentId) : ofKey? (Json.decimal id.number.toNat) = some id := by
  simp only [ofKey?, Json.keyBelow?_decimal id.number.toNat_lt, Option.map_some]
  cases id
  simp

end ComponentId

theorem ClassKind.ofKey?_key (kind : ClassKind) : ofKey? kind.key = some kind := by
  cases kind <;> decide

theorem ClassRecord.ofJson?_toJson (record : ClassRecord) : ofJson? record.toJson = some record := by
  simp [ofJson?, toJson, Json.fields?_ofMembers, Json.member?, Json.required, Json.variant?,
    Json.ofString, Json.decodeContent?_escape, ClassKind.ofKey?_key, Json.asString?]

theorem Json.asPathIds?_ofPathIds (ids : SortedMap String ComponentId) :
    asPathIds? (ofPathIds ids) = some ids := by
  rw [ofPathIds, ofMembers, List.map_map]
  exact asMap?_entries _ _ decodeContent?_escape ComponentId.ofJson?_toJson ids

theorem Partitions.ofJson?_toJson (partitions : Partitions) :
    ofJson? partitions.toJson = some partitions := by
  simp [ofJson?, toJson, Json.fields?_ofMembers, Json.member?, Json.defaulted, Category.all,
    Category.key, Json.asPathIds?_ofPathIds, get]

theorem Json.isWritten_ofEntries {κ α : Type} [Ord κ] {writeKey : κ → List Char}
    {write : α → Json} (keys : ∀ key, IsContent (writeKey key))
    (values : ∀ value, (write value).IsWritten) (map : SortedMap κ α) :
    IsWritten (.object (map.entries.map fun entry => (writeKey entry.1, write entry.2))) := by
  refine .object ?_ ?_
  · intro member listed
    obtain ⟨entry, -, rfl⟩ := List.mem_map.1 listed
    exact keys entry.1
  · intro member listed
    obtain ⟨entry, -, rfl⟩ := List.mem_map.1 listed
    exact values entry.2

theorem ClassRecord.isWritten_toJson (record : ClassRecord) : record.toJson.IsWritten := by
  refine Json.isWritten_ofMembers ?_
  simp only [List.forall_mem_cons, List.not_mem_nil, false_imp_iff, implies_true, and_true]
  exact ⟨Json.isWritten_ofString _, Json.isWritten_ofString _⟩

theorem Json.isWritten_ofPathIds (ids : SortedMap String ComponentId) :
    (ofPathIds ids).IsWritten := by
  refine isWritten_ofMembers ?_
  intro member listed
  obtain ⟨entry, -, rfl⟩ := List.mem_map.1 listed
  exact isWritten_ofNat _

theorem Partitions.isWritten_toJson (partitions : Partitions) :
    partitions.toJson.IsWritten := by
  refine Json.isWritten_ofMembers ?_
  intro member listed
  obtain ⟨category, -, rfl⟩ := List.mem_map.1 listed
  exact Json.isWritten_ofPathIds _

namespace Ledger

/-- The JSON of a ledger holds all of it. -/
theorem ofJson?_toJson (ledger : Ledger) : ofJson? ledger.toJson = some ledger := by
  have classes := Json.asMap?_entries _ _ Json.decodeContent?_escape ClassRecord.ofJson?_toJson
    ledger.classes
  have distances := Json.asMap?_entries
    (fun content => (Json.keyBelow? UInt64.size content).map Nat.toUInt64)
    (fun squared => Json.decimal squared.toNat)
    (fun squared => by simp [Json.keyBelow?_decimal squared.toNat_lt])
    ComponentId.ofJson?_toJson ledger.distances
  have index := Json.asMap?_entries _ _ ComponentId.ofKey?_decimal Json.asString?_ofString
    ledger.index
  have records : Json.asMap? Json.decodeContent? ClassRecord.ofJson?
      (.ofMembers (ledger.classes.entries.map fun entry => (entry.1, entry.2.toJson))) =
        some ledger.classes := by
    rw [Json.ofMembers, List.map_map]
    exact classes
  cases hash : ledger.descriptorHash with
  | none =>
    simp [ofJson?, toJson, hash, Json.fields?_ofMembers, Json.member?, Json.required,
      Json.defaulted, Json.asUInt32?_ofNat, ComponentId.ofJson?_toJson, records,
      Partitions.ofJson?_toJson, Json.asPathIds?_ofPathIds, distances, index]
    rw [← hash]
  | some value =>
    simp [ofJson?, toJson, hash, Json.fields?_ofMembers, Json.member?, Json.required,
      Json.defaulted, Json.asUInt32?_ofNat, ComponentId.ofJson?_toJson, records,
      Partitions.ofJson?_toJson, Json.asPathIds?_ofPathIds, distances, index,
      Json.asOptional?_ofNat]
    rw [← hash]

theorem isWritten_toJson (ledger : Ledger) : ledger.toJson.IsWritten := by
  refine Json.isWritten_ofMembers ?_
  intro member listed
  rcases List.mem_append.1 listed with always | hash
  · simp only [List.mem_cons, List.not_mem_nil, or_false] at always
    rcases always with rfl | rfl | rfl | rfl | rfl | rfl | rfl
    · exact Json.isWritten_ofNat _
    · exact Json.isWritten_ofNat _
    · refine Json.isWritten_ofMembers ?_
      intro record stored
      obtain ⟨entry, -, rfl⟩ := List.mem_map.1 stored
      exact entry.2.isWritten_toJson
    · exact ledger.components.isWritten_toJson
    · exact Json.isWritten_ofPathIds _
    · exact Json.isWritten_ofEntries (fun squared => Json.isContent_decimal squared.toNat)
        (fun id => Json.isWritten_ofNat id.number.toNat) ledger.distances
    · exact Json.isWritten_ofEntries (fun id => Json.isContent_decimal id.number.toNat)
        Json.isWritten_ofString ledger.index
  · cases stored : ledger.descriptorHash with
    | none =>
      rw [stored] at hash
      cases hash
    | some value =>
      rw [stored] at hash
      rw [List.mem_singleton.1 hash]
      exact Json.isWritten_ofNat _

/-- The text of a ledger is read as that ledger. -/
theorem ofText?_text (ledger : Ledger) : ofText? ledger.text = some ledger := by
  have read := Json.parse?_prettyText ledger.isWritten_toJson [] (by simp)
  rw [String.ofList_nil, String.append_empty] at read
  rw [ofText?, text, read, Option.bind_some, ofJson?_toJson]

/-- The bytes of a saved ledger are read as that ledger. -/
theorem ofBytes?_bytesOf (ledger : Ledger) :
    ofBytes? (LedgerStore.bytesOf ledger) = some ledger := by
  have line : "\n" = String.ofList ['\n'] := by decide
  have read := Json.parse?_prettyText ledger.isWritten_toJson ['\n'] (by simp [Json.isBlank])
  rw [LedgerStore.bytesOf, ofBytes?, Json.parseBytes?_toUTF8, text, line, read, Option.bind_some,
    ofJson?_toJson]

/-- Different ledgers are saved as different bytes. -/
theorem eq_of_bytesOf {ledger other : Ledger}
    (same : LedgerStore.bytesOf ledger = LedgerStore.bytesOf other) : ledger = other := by
  have read := congrArg ofBytes? same
  rw [ofBytes?_bytesOf, ofBytes?_bytesOf] at read
  exact Option.some.inj read

end Ledger

end ComponentSchema
