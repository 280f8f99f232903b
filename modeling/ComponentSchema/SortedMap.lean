/-!
Finite maps kept in ascending key order.  The order is part of the value, so listing a map is
reading it, and two maps that answer every question alike are equal.
-/

namespace ComponentSchema

/-- Entries in strictly ascending key order; no key stands twice. -/
structure SortedMap (κ : Type) (α : Type) [Ord κ] where
  entries : List (κ × α)
  ascending : entries.Pairwise (fun first second => compare first.1 second.1 = .lt)

namespace SortedMap

/-- Puts a value at its place in an ascending list, replacing the value its key had. -/
def insertEntry {κ α : Type} [Ord κ] (key : κ) (value : α) : List (κ × α) → List (κ × α)
  | [] => [(key, value)]
  | entry :: rest =>
    match compare key entry.1 with
    | .lt => (key, value) :: entry :: rest
    | .eq => (key, value) :: rest
    | .gt => entry :: insertEntry key value rest

/-- The value of a key in an ascending list; the search stops at the first greater key. -/
def findEntry {κ α : Type} [Ord κ] (key : κ) : List (κ × α) → Option α
  | [] => none
  | entry :: rest =>
    match compare key entry.1 with
    | .lt => none
    | .eq => some entry.2
    | .gt => findEntry key rest

theorem mem_insertEntry {κ α : Type} [Ord κ] {key : κ} {value : α} {entry : κ × α} :
    {entries : List (κ × α)} → entry ∈ insertEntry key value entries →
      entry = (key, value) ∨ entry ∈ entries
  | [], member => by simpa [insertEntry] using member
  | first :: rest, member => by
    unfold insertEntry at member
    split at member
    · simpa using member
    · rcases List.mem_cons.1 member with same | later
      · exact .inl same
      · exact .inr (List.mem_cons_of_mem _ later)
    · rcases List.mem_cons.1 member with same | later
      · exact .inr (same ▸ List.mem_cons_self)
      · rcases mem_insertEntry later with same | older
        · exact .inl same
        · exact .inr (List.mem_cons_of_mem _ older)

variable {κ α : Type} [Ord κ]

theorem insertEntry_ascending [Std.TransOrd κ] [Std.LawfulEqOrd κ] (key : κ) (value : α) :
    {entries : List (κ × α)} →
      entries.Pairwise (fun first second => compare first.1 second.1 = .lt) →
        (insertEntry key value entries).Pairwise
          (fun first second => compare first.1 second.1 = .lt)
  | [], _ => by simp [insertEntry]
  | first :: rest, ascending => by
    obtain ⟨before, ordered⟩ := List.pairwise_cons.1 ascending
    unfold insertEntry
    split
    next less =>
      refine List.pairwise_cons.2 ⟨fun entry member => ?_, ascending⟩
      rcases List.mem_cons.1 member with same | later
      · exact same ▸ less
      · exact Std.TransCmp.lt_trans less (before entry later)
    next same =>
      have keys : key = first.1 := Std.LawfulEqOrd.eq_of_compare same
      exact List.pairwise_cons.2 ⟨fun entry member => by simpa [keys] using before entry member,
        ordered⟩
    next more =>
      refine List.pairwise_cons.2 ⟨fun entry member => ?_, insertEntry_ascending key value ordered⟩
      rcases mem_insertEntry member with same | older
      · simpa [same] using Std.OrientedCmp.lt_of_gt more
      · exact before entry older

/-- The map without entries. -/
def empty : SortedMap κ α := ⟨[], .nil⟩

instance : EmptyCollection (SortedMap κ α) := ⟨empty⟩
instance : Inhabited (SortedMap κ α) := ⟨empty⟩

instance [BEq κ] [BEq α] : BEq (SortedMap κ α) :=
  ⟨fun first second => first.entries == second.entries⟩

@[ext]
theorem ext {first second : SortedMap κ α} (same : first.entries = second.entries) :
    first = second := by
  cases first
  cases second
  cases same
  rfl

instance [DecidableEq κ] [DecidableEq α] : DecidableEq (SortedMap κ α) := fun first second =>
  decidable_of_iff (first.entries = second.entries) ⟨ext, congrArg entries⟩

/-- The value stored for a key. -/
def find? (map : SortedMap κ α) (key : κ) : Option α := findEntry key map.entries

def contains (map : SortedMap κ α) (key : κ) : Bool := (map.find? key).isSome

/-- How many keys have a value. -/
def size (map : SortedMap κ α) : Nat := map.entries.length

/-- Whether no key has a value. -/
def isEmpty (map : SortedMap κ α) : Bool := map.entries.isEmpty

/-- The keys in ascending order. -/
def keys (map : SortedMap κ α) : List κ := map.entries.map Prod.fst

/-- The values in ascending order of their keys. -/
def values (map : SortedMap κ α) : List α := map.entries.map Prod.snd

/-- The entries that pass a test. -/
def filter (map : SortedMap κ α) (keep : κ → α → Bool) : SortedMap κ α :=
  ⟨map.entries.filter fun entry => keep entry.1 entry.2, map.ascending.filter _⟩

def erase (map : SortedMap κ α) (key : κ) : SortedMap κ α :=
  map.filter fun other _ => compare other key != .eq

/-- The same keys with every value changed by a function. -/
def mapValues {β : Type} (map : SortedMap κ α) (change : κ → α → β) : SortedMap κ β :=
  ⟨map.entries.map fun entry => (entry.1, change entry.1 entry.2),
    List.pairwise_map.2 map.ascending⟩

section Insertion

variable [Std.TransOrd κ] [Std.LawfulEqOrd κ]

/-- The map with a value at a key, whatever stood there before. -/
def insert (map : SortedMap κ α) (key : κ) (value : α) : SortedMap κ α :=
  ⟨insertEntry key value map.entries, insertEntry_ascending key value map.ascending⟩

/-- The map with a value at a key that had none; a value that is there stays. -/
def insertIfNew (map : SortedMap κ α) (key : κ) (value : α) : SortedMap κ α :=
  if map.contains key then map else map.insert key value

/-- Changes the value of a key, starting from a default where there is none. -/
def update (map : SortedMap κ α) (key : κ) (default : α) (change : α → α) : SortedMap κ α :=
  map.insert key (change ((map.find? key).getD default))

/-- The map of a list of entries; of two entries with one key the later counts. -/
def ofList (entries : List (κ × α)) : SortedMap κ α :=
  entries.foldl (fun map entry => map.insert entry.1 entry.2) ∅

end Insertion

end SortedMap

/-- A finite set in ascending order. -/
abbrev SortedSet (κ : Type) [Ord κ] := SortedMap κ Unit

namespace SortedSet

variable {κ : Type} [Ord κ] [Std.TransOrd κ] [Std.LawfulEqOrd κ]

def ofList (members : List κ) : SortedSet κ :=
  SortedMap.ofList (members.map fun member => (member, ()))

end SortedSet

end ComponentSchema
