import Mathlib.Data.List.Dedup
import ComponentSchema.Proofs.Clashes

/-!
The search for a free name.  The names in use are those on record and those given since, and they
count up to case.  A new path gets its own name if that is free, and otherwise the one with the
least number that is.  Each number that is passed over, and the name itself, stand for a name in use
of their own, so the search is over after no more numbers than there are names in use.
-/

namespace ComponentSchema

def Ledger.names (ledger : Ledger) : List (String × String) :=
  ledger.classes.entries.map fun entry => (entry.1, entry.2.schemaName)

namespace NameRegistry

/-- The paths that are asked for, one after the other, with the names they are given. -/
def given (registry : NameRegistry) : List (String × String) → List (String × String)
  | [] => []
  | (path, raw) :: rest =>
    (path, (registry.resolve path raw).1) :: (registry.resolve path raw).2.given rest

def IsFree (used : List String) (name : String) : Prop :=
  ∀ other ∈ used, foldCase other ≠ foldCase name

instance (used : List String) (name : String) : Decidable (IsFree used name) :=
  inferInstanceAs (Decidable (∀ other ∈ used, foldCase other ≠ foldCase name))

/-- How many names are in use, where those that differ in case are one. -/
def reserved (used : List String) : Nat := (used.map foldCase).dedup.length

/-- The name for a raw name where some names are in use: its identifier if that is free, and
otherwise the one with the least number behind it that is. -/
inductive Picks (used : List String) (raw : String) : String → Prop
  | own (free : IsFree used (identifier .type raw)) : Picks used raw (identifier .type raw)
  | numbered {number : Nat} (wanted : ¬IsFree used (identifier .type raw)) (positive : 1 ≤ number)
    (within : number ≤ reserved used) (free : IsFree used (numbered raw number))
    (least : ∀ earlier, 1 ≤ earlier → earlier < number → ¬IsFree used (numbered raw earlier)) :
    Picks used raw (numbered raw number)

/-- The search from a candidate on ends with a name after some rounds.  Each round moves a counter
of 32 bits to the next number, for which there has to be room. -/
inductive Searches (used : List String) (raw : String) : String → UInt32 → Nat → String → Prop
  | found {candidate : String} {suffix : UInt32} (free : IsFree used candidate) :
    Searches used raw candidate suffix 0 candidate
  | round {candidate name : String} {suffix : UInt32} {rounds : Nat}
    (taken : ¬IsFree used candidate) (room : suffix.toNat + 1 < 2 ^ 32)
    (onward : Searches used raw (NameRegistry.numbered raw suffix.toNat) (suffix + 1) rounds name) :
    Searches used raw candidate suffix (rounds + 1) name

/-- The registry has these names in use, each for its path, and no other. -/
structure Holds (registry : NameRegistry) (names : List (String × String)) : Prop where
  named : ∀ path name, registry.schemaName? path = some name ↔ (path, name) ∈ names
  filed : registry.IsFiled
  covers : registry.Covers

theorem holds_ofLedger (ledger : Ledger) : (ofLedger ledger).Holds ledger.names where
  named path name := by
    rw [agrees_ofLedger, Option.map_eq_some_iff, Ledger.names, List.mem_map]
    constructor
    · rintro ⟨record, stored, rfl⟩
      exact ⟨(path, record), SortedMap.find?_eq_some_iff.1 stored, rfl⟩
    · rintro ⟨entry, member, same⟩
      cases same
      exact ⟨entry.2, SortedMap.find?_eq_some_iff.2 member, rfl⟩
  filed := (isFiled_ofLedger ledger).1
  covers := covers_ofLedger ledger

namespace Holds

variable {registry : NameRegistry} {names : List (String × String)}

/-- The step: the name that a path is given is in use, and all others are as before. -/
theorem resolve (holds : registry.Holds names) (path raw : String) :
    (registry.resolve path raw).2.Holds (names ++ [(path, (registry.resolve path raw).1)]) where
  named other name := by
    rw [schemaName?_resolve, List.mem_append, List.mem_singleton, Prod.mk.injEq]
    split
    next same =>
      -- a path that had a name before is given that one again
      rw [Option.some.injEq]
      constructor
      · exact fun given => .inr ⟨same, given.symm⟩
      · rintro (before | ⟨-, rfl⟩)
        · have known := (holds.named other name).2 before
          rw [same] at known
          rw [resolve_of_schemaName? known]
        · rfl
    next different =>
      rw [holds.named]
      exact ⟨.inl, fun listed => listed.resolve_right fun new => different new.1⟩
  filed := (holds.filed.extends_resolve path raw).1
  covers := holds.covers.resolve path raw

/-- The run: in use are the names from the start and those that were given since. -/
theorem resolveAll (holds : registry.Holds names) (requests : List (String × String)) :
    (registry.resolveAll requests).Holds (names ++ registry.given requests) := by
  induction requests generalizing registry names with
  | nil =>
    rw [given, List.append_nil]
    exact holds
  | cons request rest ih =>
    have later := ih (holds.resolve request.1 request.2)
    rwa [List.append_assoc] at later

theorem mem_keys_taken (holds : registry.Holds names) {key : String} :
    key ∈ registry.taken.keys ↔ key ∈ (names.map Prod.snd).map foldCase := by
  rw [SortedMap.mem_keys, List.map_map, List.mem_map]
  constructor
  · rintro ⟨name, taken⟩
    obtain ⟨spelled, path, has⟩ := holds.filed.held key name taken
    exact ⟨(path, name), (holds.named path name).1 has, spelled⟩
  · rintro ⟨⟨path, name⟩, listed, rfl⟩
    exact SortedMap.contains_iff.1 (holds.covers path name ((holds.named path name).2 listed))

theorem isFree_iff (holds : registry.Holds names) {name : String} :
    IsFree (names.map Prod.snd) name ↔ registry.isTaken name = false := by
  have taken : registry.isTaken name = true ↔ foldCase name ∈ registry.taken.keys := by
    rw [SortedMap.mem_keys]
    exact SortedMap.contains_iff
  rw [← Bool.not_eq_true, taken, holds.mem_keys_taken, List.mem_map, IsFree]
  push Not
  rfl

theorem size_taken (holds : registry.Holds names) :
    registry.taken.size = reserved (names.map Prod.snd) := by
  have same : registry.taken.keys.Perm ((names.map Prod.snd).map foldCase).dedup := by
    rw [List.perm_ext_iff_of_nodup (SortedMap.nodup_keys _) (List.nodup_dedup _)]
    intro key
    rw [List.mem_dedup, holds.mem_keys_taken]
  calc
    registry.taken.size = registry.taken.keys.length := (List.length_map _).symm
    _ = reserved (names.map Prod.snd) := same.length_eq

end Holds

theorem foldCase_numbered_ne (raw : String) (number : Nat) :
    foldCase (numbered raw number) ≠ foldCase (identifier .type raw) := by
  unfold numbered
  rw [identifier_type_append, foldCase_append, foldCase_identifier_toString]
  intro same
  have lengths := congrArg String.length same
  have digits : 0 < (toString number).length := by
    rw [Nat.toString_eq_repr, ← String.length_toList, Nat.toList_repr, List.length_pos_iff]
    exact Nat.toDigits_ne_nil
  rw [String.length_append] at lengths
  omega

/-- Where a name is in use, one of as many numbers as there are names in use makes a free one. -/
theorem exists_free_of_isTaken {registry : NameRegistry} {raw : String}
    (taken : registry.isTaken (identifier .type raw) = true) :
    ∃ place < registry.taken.size, registry.isTaken (numbered raw (1 + place)) = false := by
  by_contra none
  push Not at none
  -- the name itself and each of its numbers would take a name in use of its own, one too many
  let tried := (List.range registry.taken.size).map fun place => foldCase (numbered raw (1 + place))
  have distinct : (foldCase (identifier .type raw) :: tried).Nodup := by
    refine List.nodup_cons.2 ⟨fun member => ?_, List.nodup_range.map fun first second same => ?_⟩
    · obtain ⟨place, -, same⟩ := List.mem_map.1 member
      exact foldCase_numbered_ne raw (1 + place) same
    · have numbers := foldCase_identifier_numbered_inj same
      omega
  have key {name : String} (used : registry.isTaken name = true) :
      foldCase name ∈ registry.taken.keys := SortedMap.mem_keys.2 (SortedMap.contains_iff.1 used)
  have inside : foldCase (identifier .type raw) :: tried ⊆ registry.taken.keys := by
    refine List.cons_subset.2 ⟨key taken, fun name member => ?_⟩
    obtain ⟨place, listed, rfl⟩ := List.mem_map.1 member
    exact key (Bool.not_eq_false _ ▸ none place (List.mem_range.1 listed))
  have bound := distinct.length_le_of_subset inside
  have size : registry.taken.keys.length = registry.taken.size := List.length_map _
  rw [size, List.length_cons, List.length_map, List.length_range] at bound
  omega

/-- The name that is looked for is the first free one. -/
theorem Holds.picks_freeName {registry : NameRegistry} {names : List (String × String)}
    (holds : registry.Holds names) (raw : String) :
    Picks (names.map Prod.snd) raw (registry.freeName raw) := by
  unfold freeName
  dsimp only
  split
  next taken =>
    obtain ⟨place, bound, found, before, free⟩ := registry.firstFree_eq raw registry.taken.size 1
    obtain ⟨last, least, open_⟩ := exists_free_of_isTaken taken
    -- all numbers before the place are in use, so it is no later than the one known to be free
    have early : place ≤ last := by
      by_contra late
      rw [before last (Nat.not_le.1 late)] at open_
      cases open_
    rw [found]
    refine .numbered ?_ (by omega) ?_ (holds.isFree_iff.2 (free (by omega))) ?_
    · rw [holds.isFree_iff, taken]
      exact Bool.noConfusion
    · rw [← holds.size_taken]
      omega
    · intro earlier positive less
      have used := before (earlier - 1) (by omega)
      rw [show 1 + (earlier - 1) = earlier by omega] at used
      rw [holds.isFree_iff, used]
      exact Bool.noConfusion
  next free => exact .own (holds.isFree_iff.2 (Bool.eq_false_iff.2 free))

/-- From a name in use the search goes on to the first number that makes a free one. -/
theorem searches_numbered {used : List String} {raw : String} {number : Nat} (candidate : String)
    (suffix : UInt32) (taken : ¬IsFree used candidate) (reached : suffix.toNat ≤ number)
    (room : number + 1 < 2 ^ 32) (free : IsFree used (numbered raw number))
    (least : ∀ earlier, suffix.toNat ≤ earlier → earlier < number →
      ¬IsFree used (numbered raw earlier)) :
    Searches used raw candidate suffix (number - suffix.toNat + 1) (numbered raw number) := by
  obtain ⟨left, apart⟩ : ∃ left, number = suffix.toNat + left := Nat.exists_eq_add_of_le reached
  induction left generalizing candidate suffix with
  | zero =>
    obtain rfl : number = suffix.toNat := apart
    rw [Nat.sub_self]
    exact .round taken room (.found free)
  | succ left ih =>
    have next : (suffix + 1).toNat = suffix.toNat + 1 := by
      rw [UInt32.toNat_add, Nat.mod_eq_of_lt]
      · rfl
      · exact Nat.lt_of_le_of_lt (by simp; omega) room
    have onward := ih (numbered raw suffix.toNat) (suffix + 1)
      (least _ (Nat.le_refl _) (by omega)) (by omega)
      (fun earlier later less => least earlier (by omega) less) (by omega)
    rw [show number - suffix.toNat = number - (suffix + 1).toNat + 1 by omega]
    exact .round taken (by omega) onward

/-- A search among fewer names than the counter has numbers to spare ends with the name that is
picked, after no more rounds than there are names in use. -/
theorem Picks.searches {used : List String} {raw name : String} (picks : Picks used raw name)
    (room : reserved used < 2 ^ 32 - 1) :
    ∃ rounds ≤ reserved used, Searches used raw (identifier .type raw) 1 rounds name := by
  cases picks with
  | own free => exact ⟨0, Nat.zero_le _, .found free⟩
  | @numbered number wanted positive within free least =>
    have searches := searches_numbered _ 1 wanted positive (by omega) free least
    refine ⟨number - 1 + 1, by omega, searches⟩

/-- Whatever was asked for since the registry was filled from a ledger, or since it was empty, a
path that has a name keeps it, and nothing changes.  A new path is given the first free name, and
the search for it ends before its counter runs over. -/
theorem picks_of_requests (ledger : Ledger) (requests : List (String × String))
    (path raw : String) :
    let registry := (ofLedger ledger).resolveAll requests
    let names := ledger.names ++ (ofLedger ledger).given requests
    let used := names.map Prod.snd
    ofLedger .fresh = {} ∧
    (∀ name, (path, name) ∈ names → registry.resolve path raw = (name, registry)) ∧
    (path ∉ names.map Prod.fst →
      IsFree used (registry.resolve path raw).1 ∧
      Picks used raw (registry.resolve path raw).1 ∧
      (reserved used < 2 ^ 32 - 1 → ∃ rounds ≤ reserved used,
        Searches used raw (identifier .type raw) 1 rounds (registry.resolve path raw).1)) := by
  intro registry names used
  have holds : registry.Holds names := (holds_ofLedger ledger).resolveAll requests
  refine ⟨rfl, fun name listed => ?_, fun unlisted => ?_⟩
  · exact resolve_of_schemaName? ((holds.named path name).2 listed) raw
  · have new : registry.schemaName? path = none := by
      cases known : registry.schemaName? path with
      | none => rfl
      | some name =>
        exact absurd (List.mem_map_of_mem ((holds.named path name).1 known)) unlisted
    obtain ⟨given, -⟩ := holds.filed.claims_resolve new raw
    rw [given]
    have picks := holds.picks_freeName raw
    exact ⟨holds.isFree_iff.2 (registry.isTaken_freeName raw), picks, picks.searches⟩

/-- Where one name is on record, and two more paths wanted it since, a fourth one gets the third
number, although one with the second number was asked for in between. -/
theorem picks_of_requests_numbered :
    let ledger : Ledger :=
      { Ledger.fresh with classes := .ofList [("/Game/Z.Foo", ⟨"Foo", .root⟩)] }
    let requests := [("/Game/A.Foo", "Foo"), ("/Game/B.foo2", "foo2"), ("/Game/A.Foo", "Bar")]
    let registry := (ofLedger ledger).resolveAll requests
    let names := ledger.names ++ (ofLedger ledger).given requests
    let used := names.map Prod.snd
    used = ["Foo", "Foo1", "foo2", "Foo1"] ∧
    ("/Game/A.Foo", "Foo1") ∈ names ∧
    registry.resolve "/Game/A.Foo" "FOO" = ("Foo1", registry) ∧
    "/Game/C.FOO" ∉ names.map Prod.fst ∧ reserved used < 2 ^ 32 - 1 ∧
    (registry.resolve "/Game/C.FOO" "FOO").1 = "FOO3" ∧
    IsFree used "FOO3" ∧ Picks used "FOO" "FOO3" ∧
    ∃ rounds ≤ 3, Searches used "FOO" (identifier .type "FOO") 1 rounds "FOO3" := by
  intro ledger requests registry names used
  have listed : ("/Game/A.Foo", "Foo1") ∈ names := by decide +kernel
  have unlisted : "/Game/C.FOO" ∉ names.map Prod.fst := by decide +kernel
  have few : reserved used = 3 := by decide +kernel
  have room : reserved used < 2 ^ 32 - 1 := by rw [few]; decide
  have given : (registry.resolve "/Game/C.FOO" "FOO").1 = "FOO3" := by decide +kernel
  obtain ⟨-, keeps, -⟩ := picks_of_requests ledger requests "/Game/A.Foo" "FOO"
  obtain ⟨-, -, new⟩ := picks_of_requests ledger requests "/Game/C.FOO" "FOO"
  obtain ⟨free, picks, ends⟩ := new unlisted
  obtain ⟨rounds, within, searches⟩ := ends room
  refine ⟨by decide +kernel, listed, keeps _ listed, unlisted, room, given, given ▸ free,
    given ▸ picks, rounds, few ▸ within, ?_⟩
  exact given ▸ searches

end NameRegistry

end ComponentSchema
