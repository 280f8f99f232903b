import ComponentSchema.Json.Decode
import ComponentSchema.Json.Parser
import ComponentSchema.Ledger.Basic

/-!
The ledger as JSON.  Everything is written but a missing hash; reading restores what older tooling
left out, and passes over what newer tooling added.
-/

namespace ComponentSchema

namespace ComponentId

def toJson (id : ComponentId) : Json := .ofNat id.number.toNat

def ofJson? (value : Json) : Option ComponentId := value.asUInt32?.map ComponentId.mk

def ofKey? (content : List Char) : Option ComponentId :=
  (Json.keyBelow? UInt32.size content).map fun number => ⟨number.toUInt32⟩

end ComponentId

open Json in
def ClassRecord.toJson (record : ClassRecord) : Json :=
  ofMembers [("schema_name", ofString record.schemaName), ("class", ofString record.kind.key)]

open Json in
def ClassRecord.ofJson? (value : Json) : Option ClassRecord := do
  match ← fields? ["schema_name", "class"] value with
  | [schemaName, kind] =>
    pure { schemaName := ← required asString? schemaName,
           kind := ← (← required (variant? false) kind) |> ClassKind.ofKey? }
  | _ => none

def Json.ofPathIds (ids : SortedMap String ComponentId) : Json :=
  ofMembers (ids.entries.map fun entry => (entry.1, entry.2.toJson))

def Json.asPathIds? : Json → Option (SortedMap String ComponentId) :=
  asMap? decodeContent? ComponentId.ofJson?

open Json in
def Partitions.toJson (partitions : Partitions) : Json :=
  ofMembers (Category.all.map fun category => (category.key, ofPathIds (partitions.get category)))

open Json in
/-- Reads partitions; each may be missing. -/
def Partitions.ofJson? (value : Json) : Option Partitions := do
  match ← fields? ["state", "owner_restricted", "transferable"] value with
  | [state, ownerRestricted, transferable] =>
    pure { state := ← defaulted ∅ asPathIds? state,
           ownerRestricted := ← defaulted ∅ asPathIds? ownerRestricted,
           transferable := ← defaulted ∅ asPathIds? transferable }
  | _ => none

namespace Ledger

open Json in
def toJson (ledger : Ledger) : Json :=
  ofMembers ([
    ("format_version", ofNat ledger.formatVersion.toNat),
    ("next_component_id", ledger.nextId.toJson),
    ("classes", ofMembers (ledger.classes.entries.map fun entry => (entry.1, entry.2.toJson))),
    ("components", ledger.components.toJson),
    ("levels", ofPathIds ledger.levels),
    ("distance_buckets", .object (ledger.distances.entries.map fun entry =>
      (decimal entry.1.toNat, entry.2.toJson))),
    ("component_index", .object (ledger.index.entries.map fun entry =>
      (decimal entry.1.number.toNat, ofString entry.2)))] ++
    match ledger.descriptorHash with
    | some hash => [("descriptor_hash", ofNat hash.toNat)]
    | none => [])

open Json in
/-- Reads a ledger; only the watermark has to be there. -/
def ofJson? (value : Json) : Option Ledger := do
  match ← fields? ["format_version", "next_component_id", "classes", "components", "levels",
      "distance_buckets", "component_index", "descriptor_hash"] value with
  | [formatVersion, nextId, classes, components, levels, distances, index, descriptorHash] =>
    pure {
      formatVersion := ← defaulted 0 asUInt32? formatVersion
      nextId := ← required ComponentId.ofJson? nextId
      classes := ← defaulted ∅ (asMap? decodeContent? ClassRecord.ofJson?) classes
      components := ← defaulted {} Partitions.ofJson? components
      levels := ← defaulted ∅ asPathIds? levels
      distances := ← defaulted ∅ (asMap?
        (fun content => (keyBelow? UInt64.size content).map Nat.toUInt64)
        ComponentId.ofJson?) distances
      index := ← defaulted ∅ (asMap? ComponentId.ofKey? asString?) index
      descriptorHash := ← defaulted none (asOptional? asUInt64?) descriptorHash }
  | _ => none

def text (ledger : Ledger) : String := ledger.toJson.prettyText

def ofText? (text : String) : Option Ledger := (Json.parse? text).bind ofJson?

def ofBytes? (bytes : ByteArray) : Option Ledger := (Json.parseBytes? bytes).bind ofJson?

end Ledger

end ComponentSchema
