import ComponentSchema.Proofs.Identifier
import ComponentSchema.Proofs.Pass.Naming

/-!
The names in use.  Every name on record is in use whatever its case, and so is every name given since.
A new path is never given one of them: among one more number than there are names in use, one leads to
a name that is free.
-/

namespace ComponentSchema

namespace NameRegistry

/-- Every name that a path has is in use. -/
def Covers (registry : NameRegistry) : Prop :=
  ∀ path name, registry.schemaName? path = some name → registry.isTaken name = true

theorem isTaken_congr {registry : NameRegistry} {name other : String}
    (same : foldCase name = foldCase other) : registry.isTaken name = registry.isTaken other := by
  unfold isTaken
  rw [same]

theorem taken_claim (registry : NameRegistry) (path desired schemaName : String) :
    (registry.claim path desired schemaName).taken =
      registry.taken.insertIfNew (foldCase schemaName) schemaName := by
  unfold claim
  dsimp only
  split <;> rfl

/-- A claim puts its name in use and no other. -/
theorem isTaken_claim (registry : NameRegistry) (path desired schemaName name : String) :
    (registry.claim path desired schemaName).isTaken name = true ↔
      foldCase name = foldCase schemaName ∨ registry.isTaken name = true := by
  unfold isTaken
  rw [taken_claim]
  simp only [SortedMap.contains_iff, SortedMap.find?_insertIfNew, Std.LawfulEqOrd.compare_eq_iff_eq]
  by_cases same : foldCase name = foldCase schemaName
  · simp [same]
  · simp [same]

theorem Covers.claim {registry : NameRegistry} (covers : registry.Covers)
    (path desired schemaName : String) : (registry.claim path desired schemaName).Covers := by
  intro other name has
  rw [isTaken_claim]
  unfold schemaName? at has
  rw [byPath_claim, SortedMap.find?_insert] at has
  split at has
  · cases has
    exact .inl rfl
  · exact .inr (covers other name has)

theorem covers_ofLedger (ledger : Ledger) : (ofLedger ledger).Covers := by
  have claimed (entries : List (String × ClassRecord)) {registry : NameRegistry}
      (covers : registry.Covers) : (entries.foldl (fun registry entry => registry.claim entry.1
        (identifier .type (assetName entry.1)) entry.2.schemaName) registry).Covers := by
    induction entries generalizing registry with
    | nil => exact covers
    | cons entry rest ih =>
      rw [List.foldl_cons]
      exact ih (covers.claim entry.1 (identifier .type (assetName entry.1)) entry.2.schemaName)
  have empty : ({} : NameRegistry).Covers := fun path name has => by cases has
  exact claimed ledger.classes.entries empty

/-- Counting stops at the first number whose name is free, or after so many attempts. -/
theorem firstFree_eq (registry : NameRegistry) (raw : String) (attempts number : Nat) :
    ∃ place ≤ attempts, registry.firstFree raw attempts number = numbered raw (number + place) ∧
      (∀ earlier < place, registry.isTaken (numbered raw (number + earlier)) = true) ∧
      (place < attempts → registry.isTaken (numbered raw (number + place)) = false) := by
  induction attempts generalizing number with
  | zero => exact ⟨0, le_refl 0, rfl, fun _ less => absurd less (Nat.not_lt_zero _),
      fun less => absurd less (Nat.lt_irrefl 0)⟩
  | succ attempts ih =>
    rw [firstFree]
    split
    next taken =>
      obtain ⟨place, bound, found, before, free⟩ := ih (number + 1)
      refine ⟨place + 1, by omega, ?_, ?_, ?_⟩
      · rw [found, Nat.add_right_comm, Nat.add_assoc]
      · intro earlier less
        cases earlier with
        | zero => exact taken
        | succ earlier =>
          have later := before earlier (by omega)
          rwa [Nat.add_right_comm, Nat.add_assoc] at later
      · intro less
        have stops := free (by omega)
        rwa [Nat.add_right_comm, Nat.add_assoc] at stops
    next free =>
      refine ⟨0, Nat.zero_le _, rfl, fun _ less => absurd less (Nat.not_lt_zero _), fun _ => ?_⟩
      exact Bool.eq_false_iff.2 free

theorem exists_free (registry : NameRegistry) (raw : String) (number : Nat) :
    ∃ place ≤ registry.taken.size, registry.isTaken (numbered raw (number + place)) = false := by
  by_contra none
  push Not at none
  -- each number would take a name in use of its own, and there is one number too many
  have distinct : ((List.range (registry.taken.size + 1)).map fun place =>
      foldCase (numbered raw (number + place))).Nodup := by
    refine List.nodup_range.map fun first second same => ?_
    have numbers := foldCase_identifier_numbered_inj same
    omega
  have inside : ((List.range (registry.taken.size + 1)).map fun place =>
      foldCase (numbered raw (number + place))) ⊆ registry.taken.keys := by
    intro name member
    obtain ⟨place, listed, rfl⟩ := List.mem_map.1 member
    have taken := none place (Nat.lt_succ_iff.1 (List.mem_range.1 listed))
    rw [SortedMap.mem_keys]
    exact SortedMap.contains_iff.1 (Bool.not_eq_false _ ▸ taken)
  have bound := distinct.length_le_of_subset inside
  have size : registry.taken.keys.length = registry.taken.size := by
    unfold SortedMap.keys
    rw [List.length_map]
    rfl
  rw [size, List.length_map, List.length_range] at bound
  omega

/-- A name that is looked for is free. -/
theorem isTaken_freeName (registry : NameRegistry) (raw : String) :
    registry.isTaken (registry.freeName raw) = false := by
  unfold freeName
  dsimp only
  split
  next =>
    obtain ⟨place, bound, found, before, free⟩ :=
      registry.firstFree_eq raw registry.taken.size 1
    rw [found]
    by_cases early : place < registry.taken.size
    · exact free early
    · -- all numbers but the last are in use, so the free one among them is the last
      obtain ⟨last, least, open_⟩ := registry.exists_free raw 1
      have late : ¬ last < place := fun less => by
        rw [before last less] at open_
        cases open_
      obtain rfl : last = place := by omega
      exact open_
  next free => exact Bool.eq_false_iff.2 free

theorem isAlphanum_of_mem_freeName {registry : NameRegistry} {raw : String} {char : Char}
    (member : char ∈ (registry.freeName raw).toList) : char.isAlphanum = true := by
  unfold freeName at member
  dsimp only at member
  split at member
  next =>
    obtain ⟨place, -, found, -⟩ := registry.firstFree_eq raw registry.taken.size 1
    rw [found] at member
    exact isAlphanum_of_mem_identifier member
  next => exact isAlphanum_of_mem_identifier member

/-- A path that has a name is given it, and any other claims a free one. -/
theorem resolve_cases (registry : NameRegistry) (path raw : String) :
    (∃ name, registry.schemaName? path = some name ∧
        registry.resolve path raw = (name, registry)) ∨
      registry.schemaName? path = none ∧ ∃ told : NameRegistry,
        told.byPath = registry.byPath ∧ told.taken = registry.taken ∧
          registry.resolve path raw = (registry.freeName raw,
            told.claim path (identifier .type raw) (registry.freeName raw)) := by
  cases known : registry.schemaName? path with
  | some name => exact .inl ⟨name, rfl, resolve_of_schemaName? known raw⟩
  | none =>
    refine .inr ⟨rfl, ?_⟩
    unfold resolve
    rw [known]
    dsimp only
    split
    next holder _ =>
      split
      next => exact ⟨registry, rfl, rfl, rfl⟩
      next => exact ⟨registry.file holder path (registry.freeName raw), rfl, rfl, rfl⟩
    next => exact ⟨registry, rfl, rfl, rfl⟩

theorem isTaken_resolve {registry : NameRegistry} {name : String}
    (taken : registry.isTaken name = true) (path raw : String) :
    (registry.resolve path raw).2.isTaken name = true := by
  rcases registry.resolve_cases path raw with ⟨known, -, resolved⟩ | ⟨-, told, -, same, resolved⟩
  · rw [resolved]
    exact taken
  · rw [resolved, isTaken_claim]
    right
    unfold isTaken at taken ⊢
    rwa [same]

theorem Covers.resolve {registry : NameRegistry} (covers : registry.Covers) (path raw : String) :
    (registry.resolve path raw).2.Covers := by
  rcases registry.resolve_cases path raw with ⟨known, -, resolved⟩ |
    ⟨-, told, names, taken, resolved⟩
  · rw [resolved]
    exact covers
  · rw [resolved]
    apply Covers.claim
    intro other name has
    unfold schemaName? at has
    unfold isTaken
    rw [names] at has
    rw [taken]
    exact covers other name has

/-- What a path can be called where some names are in use: what it is called already, or else by a plain
name that is free. -/
inductive Gives (registry : NameRegistry) (path name : String) : Prop
  | known (has : registry.schemaName? path = some name)
  | new (lacks : registry.schemaName? path = none) (free : registry.isTaken name = false)
    (plain : ∀ char ∈ name.toList, char.isAlphanum = true)

theorem gives_resolve (registry : NameRegistry) (path raw : String) :
    registry.Gives path (registry.resolve path raw).1 := by
  rcases registry.resolve_cases path raw with ⟨name, has, resolved⟩ | ⟨lacks, told, -, -, resolved⟩
  · rw [resolved]
    exact .known has
  · rw [resolved]
    exact .new lacks (registry.isTaken_freeName raw) fun _ => isAlphanum_of_mem_freeName

/-- What is given after another path was named could have been given before. -/
theorem Gives.before_resolve {registry : NameRegistry} {path raw other name : String}
    (gives : (registry.resolve path raw).2.Gives other name) : registry.Gives other name := by
  cases gives with
  | known has =>
    rw [schemaName?_resolve] at has
    split at has
    next same =>
      cases has
      rw [same]
      exact registry.gives_resolve path raw
    next => exact .known has
  | new lacks free plain =>
    rw [schemaName?_resolve] at lacks
    split at lacks
    next => cases lacks
    next =>
      refine .new lacks ?_ plain
      rw [Bool.eq_false_iff] at free ⊢
      exact fun taken => free (isTaken_resolve taken path raw)

end NameRegistry

namespace Draft

theorem gives_of_mem_named {draft : Draft} {nodes : List Node} {entry : Node × String}
    (member : entry ∈ draft.named nodes) : draft.registry.Gives entry.1.path entry.2 := by
  induction nodes generalizing draft with
  | nil => cases member
  | cons node rest ih =>
    rcases List.mem_cons.1 member with rfl | later
    · exact draft.registry.gives_resolve node.path node.name
    · exact (ih later).before_resolve

/-- Classes of different paths get names that are one up to case only where both had them before. -/
theorem pairwise_named {draft : Draft} (covers : draft.registry.Covers) {nodes : List Node}
    (distinct : (nodes.map Node.path).Nodup) :
    (draft.named nodes).Pairwise fun first second => foldCase first.2 = foldCase second.2 →
      draft.registry.schemaName? first.1.path = some first.2 ∧
        draft.registry.schemaName? second.1.path = some second.2 := by
  induction nodes generalizing draft with
  | nil => exact .nil
  | cons node rest ih =>
    rw [List.map_cons, List.nodup_cons] at distinct
    -- whatever another path is called after the first one was named, it was called before
    have earlier {entry : Node × String} (member : entry ∈ (draft.add node).named rest)
        (has : (draft.add node).registry.schemaName? entry.1.path = some entry.2) :
        draft.registry.schemaName? entry.1.path = some entry.2 := by
      have listed : entry.1 ∈ rest := by
        rw [← (draft.add node).fst_named rest]
        exact List.mem_map_of_mem member
      have other : entry.1.path ≠ node.path := fun same =>
        distinct.1 (List.mem_map.2 ⟨entry.1, listed, same⟩)
      have resolved := draft.registry.schemaName?_resolve node.path node.name entry.1.path
      rw [if_neg other] at resolved
      exact resolved.symm.trans has
    have taken : (draft.add node).registry.isTaken (draft.nameOf node) = true :=
      covers.resolve node.path node.name _ _ (draft.schemaName?_add node)
    refine List.pairwise_cons.2 ⟨?_, ?_⟩
    · intro entry member same
      -- the later name is in use, so its path had it before, and then the earlier one is not new
      have has : draft.registry.schemaName? entry.1.path = some entry.2 := by
        cases gives_of_mem_named member with
        | known has => exact earlier member has
        | new lacks free plain =>
          rw [NameRegistry.isTaken_congr same.symm, taken] at free
          cases free
      refine ⟨?_, has⟩
      have gives : draft.registry.Gives node.path (draft.nameOf node) :=
        draft.registry.gives_resolve node.path node.name
      cases gives with
      | known has => exact has
      | new lacks free plain =>
        have still : draft.registry.isTaken (draft.nameOf node) = true :=
          (NameRegistry.isTaken_congr same).trans (covers _ _ has)
        rw [still] at free
        cases free
    · refine (ih (covers.resolve node.path node.name) distinct.2).imp_of_mem ?_
      intro first second one other implied same
      obtain ⟨has, has'⟩ := implied same
      exact ⟨earlier one has, earlier other has'⟩

end Draft

end ComponentSchema
