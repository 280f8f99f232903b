import ComponentSchema.Proofs.Clashes
import ComponentSchema.Proofs.Pass.Soundness
import ComponentSchema.Proofs.Pass.Staging
import ComponentSchema.Proofs.Repetition
import ComponentSchema.Proofs.Separation

/-!
Clashes that are told again.  The first pass files a class under the name it wants, and under the name in
use that stood in the way.  The next pass reads the names off the ledger, where the wanted ones are not on
record: it takes the name of the asset for the wanted one, and looks for no other in its way.  So it tells
the same clashes exactly if these are the same names wherever two classes meet.
-/

namespace ComponentSchema

/-- Two clashes over one name, with the same claims in any order. -/
def NameClash.IsSame (clash other : NameClash) : Prop :=
  clash.desired = other.desired ∧ ∀ claim, claim ∈ clash.claims ↔ claim ∈ other.claims

def SameClashes (clashes others : List NameClash) : Prop :=
  (∀ clash ∈ clashes, ∃ other ∈ others, clash.IsSame other) ∧
    ∀ other ∈ others, ∃ clash ∈ clashes, other.IsSame clash

theorem SameClashes.refl (clashes : List NameClash) : SameClashes clashes clashes := by
  have same : ∀ clash ∈ clashes, ∃ other ∈ clashes, clash.IsSame other :=
    fun clash member => ⟨clash, member, rfl, fun _ => Iff.rfl⟩
  exact ⟨same, same⟩

namespace NameRegistry

variable {registry other : NameRegistry}

theorem IsFiled.exists_ne (filed : registry.IsFiled) {group : String}
    (several : 1 < (registry.claimsOn group).length) (claim : NameClaim) :
    ∃ other ∈ registry.claimsOn group, other ≠ claim := by
  have distinct := (filed.once group).of_map NameClaim.path
  match registry.claimsOn group, several, distinct with
  | first :: second :: _, _, distinct =>
    by_cases same : first = claim
    · refine ⟨second, by simp, ?_⟩
      rintro rfl
      simp [same] at distinct
    · exact ⟨first, by simp, same⟩

theorem exists_same_iff {clash : NameClash} :
    (∃ again ∈ registry.clashes, clash.IsSame again) ↔
      1 < (registry.claimsOn clash.desired).length ∧
        ∀ claim, claim ∈ clash.claims ↔ claim ∈ registry.claimsOn clash.desired := by
  constructor
  · rintro ⟨again, member, desired, same⟩
    obtain ⟨listed, several⟩ := mem_clashes.1 member
    rw [desired, listed]
    exact ⟨several, same⟩
  · rintro ⟨several, same⟩
    exact ⟨⟨clash.desired, registry.claimsOn clash.desired⟩, mem_clashes.2 ⟨rfl, several⟩, rfl, same⟩

/-- Clashes are the same exactly if the same claims meet under the same names. -/
theorem sameClashes_iff (filed : registry.IsFiled) (filed' : other.IsFiled) :
    SameClashes registry.clashes other.clashes ↔
      ∀ group first second, first ≠ second →
        (first ∈ registry.claimsOn group ∧ second ∈ registry.claimsOn group ↔
          first ∈ other.claimsOn group ∧ second ∈ other.claimsOn group) := by
  have meet {here there : NameRegistry}
      (told : ∀ clash ∈ here.clashes, ∃ again ∈ there.clashes, clash.IsSame again)
      {group : String} {first second : NameClaim} (apart : first ≠ second)
      (member : first ∈ here.claimsOn group) (member' : second ∈ here.claimsOn group) :
      first ∈ there.claimsOn group ∧ second ∈ there.claimsOn group := by
    have several := one_lt_length_of_mem member member' apart
    obtain ⟨-, same⟩ := exists_same_iff.1
      (told ⟨group, here.claimsOn group⟩ (mem_clashes.2 ⟨rfl, several⟩))
    exact ⟨(same first).1 member, (same second).1 member'⟩
  have told {here there : NameRegistry} (filed : here.IsFiled)
      (meet : ∀ group first second, first ≠ second →
        (first ∈ here.claimsOn group ∧ second ∈ here.claimsOn group ↔
          first ∈ there.claimsOn group ∧ second ∈ there.claimsOn group)) :
      ∀ clash ∈ here.clashes, ∃ again ∈ there.clashes, clash.IsSame again := by
    intro clash member
    obtain ⟨listed, several⟩ := mem_clashes.1 member
    rw [← listed] at several
    -- every claim of the clash meets another one there
    have onward {claim : NameClaim} (member : claim ∈ here.claimsOn clash.desired) :
        claim ∈ there.claimsOn clash.desired := by
      obtain ⟨another, member', apart⟩ := filed.exists_ne several claim
      exact ((meet _ _ _ apart.symm).1 ⟨member, member'⟩).1
    obtain ⟨first, firstly⟩ := List.exists_mem_of_length_pos (Nat.zero_lt_of_lt several)
    obtain ⟨second, secondly, apart⟩ := filed.exists_ne several first
    refine exists_same_iff.2 ⟨one_lt_length_of_mem (onward firstly) (onward secondly) apart.symm, ?_⟩
    intro claim
    rw [← listed]
    refine ⟨onward, fun member => ?_⟩
    by_cases same : claim = first
    · rw [same]
      exact firstly
    · exact ((meet _ _ _ same).2 ⟨member, onward firstly⟩).1
  constructor
  · rintro ⟨forth, back⟩ group first second apart
    exact ⟨fun ⟨member, member'⟩ => meet forth apart member member',
      fun ⟨member, member'⟩ => meet back apart member member'⟩
  · intro same
    exact ⟨told filed same, told filed' fun group first second apart =>
      (same group first second apart).symm⟩

/-- The claims on file are those of classes with their names, each under some names. -/
structure FilesBy (registry : NameRegistry) (named : List (Node × String))
    (under : Node × String → String → Prop) : Prop where
  filed : registry.IsFiled
  mem : ∀ group claim, claim ∈ registry.claimsOn group ↔
    ∃ entry ∈ named, claim = ⟨entry.1.path, entry.2⟩ ∧ under entry group

section

variable {named : List (Node × String)} {under under' : Node × String → String → Prop}

theorem FilesBy.mem_iff (files : registry.FilesBy named under)
    (distinct : (named.map (Node.path ∘ Prod.fst)).Nodup) {entry : Node × String}
    (member : entry ∈ named) (group : String) :
    ⟨entry.1.path, entry.2⟩ ∈ registry.claimsOn group ↔ under entry group := by
  rw [files.mem]
  constructor
  · rintro ⟨another, member', same, filed⟩
    rwa [List.inj_on_of_nodup_map distinct member member' (NameClaim.mk.inj same).1]
  · exact fun filed => ⟨entry, member, rfl, filed⟩

/-- Two registries of the same classes tell the same clashes exactly if any two of them meet under the
same names in both. -/
theorem FilesBy.sameClashes_iff (files : registry.FilesBy named under)
    (distinct : (named.map (Node.path ∘ Prod.fst)).Nodup) (files' : other.FilesBy named under') :
    SameClashes registry.clashes other.clashes ↔
      ∀ first ∈ named, ∀ second ∈ named, first.1.path ≠ second.1.path → ∀ group,
        (under first group ∧ under second group ↔ under' first group ∧ under' second group) := by
  rw [NameRegistry.sameClashes_iff files.filed files'.filed]
  constructor
  · intro meet first member second member' apart group
    have whole := meet group ⟨first.1.path, first.2⟩ ⟨second.1.path, second.2⟩
      fun same => apart (NameClaim.mk.inj same).1
    rwa [files.mem_iff distinct member, files.mem_iff distinct member',
      files'.mem_iff distinct member, files'.mem_iff distinct member'] at whole
  · intro meet group claim claim' apart
    have met {first second : Node × String} (member : first ∈ named) (member' : second ∈ named)
        (differ : NameClaim.mk first.1.path first.2 ≠ ⟨second.1.path, second.2⟩) :
        (under first group ∧ under second group ↔ under' first group ∧ under' second group) := by
      refine meet first member second member' (fun same => differ ?_) group
      rw [List.inj_on_of_nodup_map distinct member member' same]
    rw [files.mem, files.mem, files'.mem, files'.mem]
    constructor
    · rintro ⟨⟨first, member, rfl, filed⟩, ⟨second, member', rfl, filed'⟩⟩
      obtain ⟨left, right⟩ := (met member member' apart).1 ⟨filed, filed'⟩
      exact ⟨⟨first, member, rfl, left⟩, ⟨second, member', rfl, right⟩⟩
    · rintro ⟨⟨first, member, rfl, filed⟩, ⟨second, member', rfl, filed'⟩⟩
      obtain ⟨left, right⟩ := (met member member' apart).2 ⟨filed, filed'⟩
      exact ⟨⟨first, member, rfl, left⟩, ⟨second, member', rfl, right⟩⟩

end

/-- The name that stood in the way of a new path stands there still in the end, or else the path got the
name it wanted. -/
theorem Claims.mem_groupsOf {before after final : NameRegistry} {path raw group : String}
    (claims : before.Claims ⟨path, before.freeName raw⟩ (before.groupsOf raw) after)
    (onward : after.Extends final) :
    group ∈ before.groupsOf raw ↔ group = before.freeName raw ∨ group = identifier .type raw ∨
      final.holder? (identifier .type raw) = some group := by
  unfold groupsOf
  cases holds : before.holder? (identifier .type raw) with
  | some holder =>
    have still := onward.holders _ _ (claims.extends_.holders _ _ holds)
    simp [still, eq_comm]
  | none =>
    have free : before.isTaken (identifier .type raw) = false := by
      rw [Bool.eq_false_iff]
      intro taken
      obtain ⟨holder, found⟩ := SortedMap.contains_iff.1 taken
      cases holds.symm.trans found
    have got : before.freeName raw = identifier .type raw := by
      simp only [freeName, free, Bool.false_eq_true, if_false]
    have held : after.holder? (identifier .type raw) = some (identifier .type raw) := by
      unfold holder? at holds ⊢
      rw [claims.taken, got, SortedMap.find?_insertIfNew, holds]
      simp
    simp [got, onward.holders _ _ held, eq_comm]

end NameRegistry

namespace Draft

variable {draft : Draft} {nodes : List Node}

theorem registry_foldl_add (draft : Draft) (nodes : List Node) :
    (nodes.foldl add draft).registry =
      draft.registry.resolveAll (nodes.map fun node => (node.path, node.name)) := by
  induction nodes generalizing draft with
  | nil => rfl
  | cons node rest ih => exact ih (draft.add node)

theorem extends_foldl_add (filed : draft.registry.IsFiled) (nodes : List Node) :
    (nodes.foldl add draft).registry.IsFiled ∧
      draft.registry.Extends (nodes.foldl add draft).registry := by
  rw [registry_foldl_add]
  exact filed.extends_resolveAll _

theorem covers_foldl_add (covers : draft.registry.Covers) (nodes : List Node) :
    (nodes.foldl add draft).registry.Covers := by
  induction nodes generalizing draft with
  | nil => exact covers
  | cons node rest ih => exact ih (covers.resolve node.path node.name)

theorem schemaName?_of_mem_named (filed : draft.registry.IsFiled) {entry : Node × String}
    (member : entry ∈ draft.named nodes) :
    (nodes.foldl add draft).registry.schemaName? entry.1.path = some entry.2 := by
  induction nodes generalizing draft with
  | nil => cases member
  | cons node rest ih =>
    obtain ⟨filed', -⟩ := filed.extends_resolve node.path node.name
    rcases List.mem_cons.1 member with rfl | later
    · have onward : (draft.add node).registry.Extends _ := (extends_foldl_add filed' rest).2
      exact onward.names _ _ (draft.schemaName?_add node)
    · exact ih filed' later

/-- The run: each class that was new is on file under the name it got, the name it wanted, and the name
that stood in the way, as it still is spelled in the end. -/
theorem mem_claimsOn_foldl_add (filed : draft.registry.IsFiled)
    (distinct : (nodes.map Node.path).Nodup)
    (new : ∀ node ∈ nodes, draft.registry.schemaName? node.path = none) {group : String}
    {claim : NameClaim} :
    claim ∈ (nodes.foldl add draft).registry.claimsOn group ↔
      claim ∈ draft.registry.claimsOn group ∨ ∃ entry ∈ draft.named nodes,
        claim = ⟨entry.1.path, entry.2⟩ ∧ (group = entry.2 ∨
          group = identifier .type entry.1.name ∨
            (nodes.foldl add draft).registry.holder? (identifier .type entry.1.name) =
              some group) := by
  induction nodes generalizing draft with
  | nil => simp [named]
  | cons node rest ih =>
    rw [List.map_cons, List.nodup_cons] at distinct
    obtain ⟨given, claims⟩ := filed.claims_resolve (new node List.mem_cons_self) node.name
    obtain ⟨filed', -⟩ := filed.extends_resolve node.path node.name
    have later : ∀ other ∈ rest, (draft.add node).registry.schemaName? other.path = none := by
      intro other member
      rw [show (draft.add node).registry.schemaName? other.path = _ from claims.names other.path,
        if_neg]
      · exact new other (List.mem_cons_of_mem _ member)
      · exact fun same => distinct.1 (List.mem_map.2 ⟨other, member, same⟩)
    have onward : (draft.add node).registry.Extends _ := (extends_foldl_add filed' rest).2
    rw [List.foldl_cons, ih filed' distinct.2 later, named, List.exists_mem_cons_iff, ← or_assoc]
    refine or_congr_left ?_
    rw [show claim ∈ (draft.add node).registry.claimsOn group ↔ _ from claims.mem_claimsOn,
      claims.mem_groupsOf onward, show draft.nameOf node = _ from given]

/-- The names that a class is filed under by the pass that names it. -/
def FilesFirst (named : List (Node × String)) (entry : Node × String) (group : String) : Prop :=
  group = entry.2 ∨ group = identifier .type entry.1.name ∨
    group ∈ named.map Prod.snd ∧ foldCase group = foldCase (identifier .type entry.1.name)

/-- The names that it is filed under by a pass that finds it on record. -/
def FilesAgain (entry : Node × String) (group : String) : Prop :=
  group = entry.2 ∨ group = identifier .type (assetName entry.1.path)

/-- Any two classes meet under the same names in both. -/
def MeetAlike (named : List (Node × String)) : Prop :=
  ∀ first ∈ named, ∀ second ∈ named, first.1.path ≠ second.1.path → ∀ group,
    (FilesFirst named first group ∧ FilesFirst named second group ↔
      FilesAgain first group ∧ FilesAgain second group)

/-- Classes that are named like their assets meet alike, as long as what one wants and another one has
never differs in case alone. -/
theorem meetAlike_of_assetName {named : List (Node × String)}
    (assets : ∀ entry ∈ named,
      identifier .type entry.1.name = identifier .type (assetName entry.1.path))
    (spelled : ∀ entry ∈ named, ∀ other ∈ named,
      foldCase other.2 = foldCase (identifier .type entry.1.name) →
        other.2 = identifier .type entry.1.name) : MeetAlike named := by
  have same {entry : Node × String} (member : entry ∈ named) (group : String) :
      FilesFirst named entry group ↔ FilesAgain entry group := by
    unfold FilesFirst FilesAgain
    rw [← assets entry member]
    refine or_congr_right (or_iff_left_of_imp ?_)
    rintro ⟨listed, alike⟩
    obtain ⟨other, member', rfl⟩ := List.mem_map.1 listed
    exact spelled entry member other member' alike
  intro first member second member' _ group
  rw [same member, same member']

section

variable {ledger : Ledger} {classes : List Node}

theorem mem_claimsOn_of_unnamed (unnamed : ∀ path, ledger.identity? path = none)
    (distinct : (classes.map Node.path).Nodup) {group : String} {claim : NameClaim} :
    claim ∈ (classes.foldl add (.ofLedger ledger)).registry.claimsOn group ↔
      ∃ entry ∈ (Draft.ofLedger ledger).named classes, claim = ⟨entry.1.path, entry.2⟩ ∧
        (group = entry.2 ∨ group = identifier .type entry.1.name ∨
          (classes.foldl add (.ofLedger ledger)).registry.holder? (identifier .type entry.1.name) =
            some group) := by
  obtain ⟨filed, recorded⟩ := NameRegistry.isFiled_ofLedger ledger
  have new (path : String) : (Draft.ofLedger ledger).registry.schemaName? path = none := by
    rw [show (Draft.ofLedger ledger).registry.schemaName? path = _ from
      NameRegistry.agrees_ofLedger ledger path, unnamed, Option.map_none]
  have start : claim ∉ (Draft.ofLedger ledger).registry.claimsOn group := by
    intro member
    obtain ⟨entry, listed, -⟩ := (recorded group claim).1 member
    have stored := SortedMap.find?_eq_some_iff.2 listed
    cases (unnamed entry.1).symm.trans stored
  have filed : (Draft.ofLedger ledger).registry.IsFiled := filed
  exact (mem_claimsOn_foldl_add filed distinct fun node _ => new node.path).trans (or_iff_right start)

/-- From no names on record all names come to differ by more than case, so a name in use stands in the
way of another one exactly if it is the same up to case. -/
theorem holder?_of_unnamed (unnamed : ∀ path, ledger.identity? path = none)
    (distinct : (classes.map Node.path).Nodup) {name group : String} :
    (classes.foldl add (.ofLedger ledger)).registry.holder? name = some group ↔
      group ∈ ((Draft.ofLedger ledger).named classes).map Prod.snd ∧
        foldCase group = foldCase name := by
  have start : (Draft.ofLedger ledger).registry.IsFiled := (NameRegistry.isFiled_ofLedger ledger).1
  have filed := (extends_foldl_add start classes).1
  have listed {name holder : String}
      (holds : (classes.foldl add (.ofLedger ledger)).registry.holder? name = some holder) :
      holder ∈ ((Draft.ofLedger ledger).named classes).map Prod.snd ∧
        foldCase holder = foldCase name := by
    obtain ⟨alike, path, has⟩ := filed.held _ _ holds
    obtain ⟨entry, member, same, -⟩ :=
      (mem_claimsOn_of_unnamed unnamed distinct).1 (filed.own path holder has)
    exact ⟨List.mem_map.2 ⟨entry, member, (NameClaim.mk.inj same).2.symm⟩, alike⟩
  refine ⟨listed, ?_⟩
  rintro ⟨member, alike⟩
  obtain ⟨entry, inside, rfl⟩ := List.mem_map.1 member
  have covers : (Draft.ofLedger ledger).registry.Covers := NameRegistry.covers_ofLedger ledger
  have given := schemaName?_of_mem_named start inside
  have taken := covers_foldl_add covers classes _ _ given
  obtain ⟨holder, holds⟩ := SortedMap.contains_iff.1 taken
  have holds : (classes.foldl add (.ofLedger ledger)).registry.holder? entry.2 = some holder := holds
  obtain ⟨member', same⟩ := listed holds
  obtain ⟨other, inside', rfl⟩ := List.mem_map.1 member'
  -- two classes with one name up to case were both on record, or they are one
  have paths : entry.1.path = other.1.path := by
    by_contra apart
    obtain ⟨record, -, stored, -⟩ :=
      (foldCase_eq_iff_confuses distinct inside inside' apart).1 same.symm
    cases (unnamed _).symm.trans stored
  rw [paths, schemaName?_of_mem_named start inside', Option.some.injEq] at given
  unfold NameRegistry.holder? at holds ⊢
  rw [← alike, holds, given]

theorem mem_claimsOn_first (unnamed : ∀ path, ledger.identity? path = none)
    (distinct : (classes.map Node.path).Nodup) {group : String} {claim : NameClaim} :
    claim ∈ (classes.foldl add (.ofLedger ledger)).registry.claimsOn group ↔
      ∃ entry ∈ (Draft.ofLedger ledger).named classes, claim = ⟨entry.1.path, entry.2⟩ ∧
        FilesFirst ((Draft.ofLedger ledger).named classes) entry group := by
  rw [mem_claimsOn_of_unnamed unnamed distinct]
  simp only [holder?_of_unnamed unnamed distinct, FilesFirst]

theorem foldl_add_of_known {draft : Draft} {nodes : List Node}
    (known : ∀ node ∈ nodes, ∃ name, draft.registry.schemaName? node.path = some name) :
    (nodes.foldl add draft).registry = draft.registry := by
  induction nodes generalizing draft with
  | nil => rfl
  | cons node rest ih =>
    obtain ⟨name, has⟩ := known node List.mem_cons_self
    have same : (draft.add node).registry = draft.registry := by
      unfold add
      rw [NameRegistry.resolve_of_schemaName? has]
    rw [List.foldl_cons, ih, same]
    intro other member
    rw [same]
    exact known other (List.mem_cons_of_mem _ member)

theorem mem_claimsOn_again {named : List (Node × String)}
    (recorded : ∀ path name, (ledger.identity? path).map ClassRecord.schemaName = some name ↔
      ∃ entry ∈ named, entry.1.path = path ∧ entry.2 = name)
    (names : named.map Prod.fst = classes) {group : String} {claim : NameClaim} :
    claim ∈ (classes.foldl add (.ofLedger ledger)).registry.claimsOn group ↔
      ∃ entry ∈ named, claim = ⟨entry.1.path, entry.2⟩ ∧ FilesAgain entry group := by
  have agrees (path : String) : (Draft.ofLedger ledger).registry.schemaName? path =
      (ledger.identity? path).map ClassRecord.schemaName := NameRegistry.agrees_ofLedger ledger path
  have known : ∀ node ∈ classes, ∃ name,
      (Draft.ofLedger ledger).registry.schemaName? node.path = some name := by
    intro node member
    rw [← names, List.mem_map] at member
    obtain ⟨entry, listed, rfl⟩ := member
    exact ⟨entry.2, (agrees _).trans ((recorded _ _).2 ⟨entry, listed, rfl, rfl⟩)⟩
  rw [foldl_add_of_known known,
    show claim ∈ (Draft.ofLedger ledger).registry.claimsOn group ↔ _ from
      (NameRegistry.isFiled_ofLedger ledger).2 group claim]
  constructor
  · rintro ⟨⟨path, record⟩, stored, rfl, filed⟩
    have has : (ledger.identity? path).map ClassRecord.schemaName = some record.schemaName := by
      rw [Ledger.identity?, SortedMap.find?_eq_some_iff.2 stored, Option.map_some]
    obtain ⟨entry, listed, rfl, name⟩ := (recorded _ _).1 has
    refine ⟨entry, listed, by rw [name]; rfl, ?_⟩
    simpa [NameRegistry.recordGroups, FilesAgain, name] using filed
  · rintro ⟨entry, listed, rfl, filed⟩
    obtain ⟨record, stored, name⟩ := Option.map_eq_some_iff.1 ((recorded _ _).2 ⟨entry, listed, rfl, rfl⟩)
    refine ⟨(entry.1.path, record), SortedMap.find?_eq_some_iff.1 stored, ?_, ?_⟩
    · rw [NameRegistry.claimOf, name]
    · simpa [NameRegistry.recordGroups, FilesAgain, name] using filed

end

end Draft

/-- Nothing is on record. -/
structure Ledger.IsEmpty (ledger : Ledger) : Prop where
  names : ∀ path, ledger.identity? path = none
  ids : ∀ key, ledger.idOf? key = none

theorem Ledger.isEmpty_fresh : fresh.IsEmpty := ⟨fun _ => rfl, idOf?_fresh⟩

namespace Plan

variable {plan : Plan} {reset : Bool} {queue : Option CandidateQueue} {files : FileSystem}
  {course : Course}

theorem draft_of_emission {ledger : Ledger} {classes : List Node} {levels : List Level}
    {made : Draft × Nat × Nat} {before after : Workshop}
    (run : plan.emission ledger classes levels before = (.ok made, after)) :
    made.1 = classes.foldl Draft.add (.ofLedger ledger) := by
  rw [emission_eq] at run
  obtain ⟨_, _, -, run⟩ := Task.bind_eq_ok.1 run
  obtain ⟨_, _, -, run⟩ := Task.bind_eq_ok.1 run
  obtain ⟨_, _, -, run⟩ := Task.bind_eq_ok.1 run
  cases run
  rfl

/-- A pass that found no name on record saves the names that it gave to its classes. -/
theorem ReachesCompiling.identity?_sealed (reaches : plan.ReachesCompiling reset queue files course)
    (unnamed : ∀ path, course.outcome.ledger.identity? path = none) (path name : String) :
    ((sealed course).identity? path).map ClassRecord.schemaName = some name ↔
      ∃ entry ∈ (Draft.ofLedger course.outcome.ledger).named course.discovery.classes,
        entry.1.path = path ∧ entry.2 = name := by
  have sealed_eq (path : String) : (sealed course).identity? path = _ :=
    identity?_of_emission reaches.emits path
  have agrees : (Draft.ofLedger course.outcome.ledger).registry.Agrees course.outcome.ledger :=
    NameRegistry.agrees_ofLedger _
  have given {entry : Node × String} (member : entry ∈
      (Draft.ofLedger course.outcome.ledger).named course.discovery.classes) :
      ((sealed course).identity? entry.1.path).map ClassRecord.schemaName = some entry.2 := by
    obtain ⟨record, stored, name⟩ := Draft.identity?_of_mem_named (.ofLedger course.outcome.ledger)
      (isSome_classKind?_of_emission reaches.emits) agrees member
    rw [sealed_eq, stored, Option.map_some, name]
  constructor
  · intro has
    have listed : path ∈ (Draft.records
        ((Draft.ofLedger course.outcome.ledger).named course.discovery.classes)).map Prod.fst := by
      by_contra unlisted
      rw [sealed_eq, Numbering.identity?_recordAll_of_notMem _ unlisted,
        show (Numbering.ofLedger course.outcome.ledger).ledger.identity? path = none from
          unnamed path] at has
      cases has
    rw [Draft.fst_records reaches.isSome_classKind?, List.map_map] at listed
    obtain ⟨entry, member, rfl⟩ := List.mem_map.1 listed
    exact ⟨entry, member, rfl, Option.some.inj ((given member).symm.trans has)⟩
  · rintro ⟨entry, member, rfl, rfl⟩
    exact given member

theorem ReachesCompiling.filesBy_first (reaches : plan.ReachesCompiling reset queue files course)
    (unnamed : ∀ path, course.outcome.ledger.identity? path = none) :
    course.made.1.registry.FilesBy
      ((Draft.ofLedger course.outcome.ledger).named course.discovery.classes)
      (Draft.FilesFirst ((Draft.ofLedger course.outcome.ledger).named course.discovery.classes)) := by
  have distinct := (Validation.check_eq_ok_iff.1 reaches.validated).1.2
  have start : (Draft.ofLedger course.outcome.ledger).registry.IsFiled :=
    (NameRegistry.isFiled_ofLedger _).1
  rw [draft_of_emission reaches.emits]
  exact ⟨(Draft.extends_foldl_add start _).1, fun group claim =>
    Draft.mem_claimsOn_first unnamed distinct⟩

theorem ReachesCompiling.filesBy_again {other : Course} {later : FileSystem}
    (reaches : plan.ReachesCompiling reset queue files course)
    (unnamed : ∀ path, course.outcome.ledger.identity? path = none)
    (next : plan.ReachesCompiling false queue later other)
    (same : other.discovery = course.discovery) (loaded : other.outcome = .loaded (sealed course)) :
    other.made.1.registry.FilesBy
      ((Draft.ofLedger course.outcome.ledger).named course.discovery.classes) Draft.FilesAgain := by
  have start : (Draft.ofLedger (sealed course)).registry.IsFiled :=
    (NameRegistry.isFiled_ofLedger _).1
  rw [draft_of_emission next.emits, same, loaded]
  exact ⟨(Draft.extends_foldl_add start _).1, fun group claim =>
    Draft.mem_claimsOn_again (reaches.identity?_sealed unnamed) (Draft.fst_named _ _)⟩

/-- The ledger that a second pass comes to is never found inconsistent. -/
theorem EndsAgain.cases {result : Except PassError Report} {final : FileSystem}
    (ends : EndsAgain plan reset queue files course result final)
    (reaches : plan.ReachesCompiling reset queue files course) :
    (∃ stopped, result = .error (.compilation stopped)) ∨ result = .ok (report course) := by
  cases ends with
  | @rejected stopped failed => exact .inl ⟨stopped, rfl⟩
  | @corrupt findings output bytes compiled described unsound =>
    have passed := (reaches.isSound (contentHash bytes)).checkIntegrity
    rw [unsound] at passed
    cases passed
  | done saving saved => exact .inr rfl

/-- Two passes over the same classes, the second one on the ledger that the first one saved or on a
discarded one: they tell the same clashes exactly if it was discarded, or any two classes meet alike. -/
theorem ReachesCompiling.sameClashes_iff_again {other : Course} {later : FileSystem}
    (reaches : plan.ReachesCompiling reset queue files course)
    (empty : course.outcome.ledger.IsEmpty)
    (found : later.read plan.store.path = .ok (LedgerStore.bytesOf (sealed course)))
    (next : plan.ReachesCompiling false queue later other)
    (same : other.discovery = course.discovery) :
    SameClashes (report course).clashes (report other).clashes ↔
      (report other).reset? ≠ none ∨
        Draft.MeetAlike ((Draft.ofLedger .fresh).named course.discovery.classes) := by
  have unnamed : Draft.ofLedger course.outcome.ledger = Draft.ofLedger .fresh := by
    have none : course.outcome.ledger.classes = Ledger.fresh.classes :=
      SortedMap.ext_find? fun path => empty.names path
    unfold Draft.ofLedger NameRegistry.ofLedger
    rw [none]
  rw [← unnamed]
  rcases outcome_of_read found next.loaded with ⟨-, afresh⟩ | ⟨-, -, loaded⟩
  · have names : other.made.1 = course.made.1 := by
      rw [draft_of_emission next.emits, draft_of_emission reaches.emits, same, afresh, unnamed]
      rfl
    unfold Plan.report
    rw [names, afresh]
    exact iff_of_true (SameClashes.refl _) (.inl nofun)
  · have distinct := (Validation.check_eq_ok_iff.1 reaches.validated).1.2
    rw [← (Draft.ofLedger course.outcome.ledger).fst_named course.discovery.classes,
      List.map_map] at distinct
    have whole := (reaches.filesBy_first empty.names).sameClashes_iff distinct
      (reaches.filesBy_again empty.names next same loaded)
    unfold Plan.report
    rw [loaded]
    exact whole.trans (or_iff_right fun afresh => afresh rfl).symm

/-- A pass that names its classes from an empty ledger and is run again on the ledger it saved, over the
same classes, can only be stopped by files and the compiler.  Both tell the same clashes exactly if the
ledger was discarded for want of ids, or any two classes meet under the same names in both. -/
theorem sameClashes_iff_of_run {before after later final : Generator} {report : Report}
    {result : Except PassError Report} {outcome : LoadOutcome}
    (start : plan.readLedger reset before.files = .ok outcome) (empty : outcome.ledger.IsEmpty)
    (run : plan.run reset before = (.ok report, after)) (queue : later.queue = before.queue)
    (kept : plan.kept later.files = plan.kept after.files)
    (again : plan.run false later = (result, final)) :
    (∃ error, result = .error error ∧
      (error.IsFileWork ∨ ∃ stopped, error = .compilation stopped)) ∨
    ∃ report' discovery levels, result = .ok report' ∧
      plan.discovered before.queue = .ok (discovery, levels) ∧
      (SameClashes report.clashes report'.clashes ↔
        report'.reset? ≠ none ∨ Draft.MeetAlike ((Draft.ofLedger .fresh).named discovery.classes)) := by
  obtain ⟨course, reaches, -, rfl, found⟩ := course_of_run run
  obtain rfl : outcome = course.outcome := Except.ok.inj (start.symm.trans reaches.loaded)
  have found : later.files.read plan.store.path = .ok (LedgerStore.bytesOf (sealed course)) :=
    kept_eq_some_iff.1 (kept.trans (kept_eq_some_iff.2 found))
  have issued : course.outcome.ledger.IsIssued := by
    refine ⟨UInt32.le_iff_toNat_le.1 (isSound_of_readLedger start).baseline_le, fun key id stored => ?_⟩
    cases (empty.ids key).symm.trans stored
  have emits (outcome : LoadOutcome) (loaded : plan.readLedger false later.files = .ok outcome) :
      plan.EmitsAgain course outcome := by
    rcases outcome_of_read found loaded with ⟨stale, rfl⟩ | ⟨-, -, rfl⟩
    · exact reaches.emitsAgain_stale issued stale
    · exact reaches.emitsAgain_loaded
  have ends := ends_of_run again
  rw [queue] at ends
  by_cases works : ∃ error, result = .error error ∧ error.IsFileWork
  · obtain ⟨error, failed, works⟩ := works
    exact .inl ⟨error, failed, .inl works⟩
  push Not at works
  obtain ⟨other, next, same, -, ending⟩ := ends.again reaches found emits works
  rcases ending.cases next with ⟨stopped, rfl⟩ | rfl
  · exact .inl ⟨_, rfl, .inr ⟨stopped, rfl⟩⟩
  exact .inr ⟨_, course.discovery, course.levels, rfl, reaches.discovered,
    reaches.toReachesCompiling.sameClashes_iff_again empty found next same⟩

/-- Two classes whose names differ in case alone. -/
def twinClasses : List Node :=
  [(Node.rootClass "/Game/A.FOO" "FOO").withFields .state
      [{ path := "/Game/A.FOO:open", name := "open", type := "bool" }],
    (Node.rootClass "/Game/B.Foo" "Foo").withFields .state
      [{ path := "/Game/B.Foo:open", name := "open", type := "bool" }]]

def twins : Plan :=
  { small with source := { classes := .ok twinClasses, levels := .ok [], resolve? := fun _ => none } }

def twinDiscovery : Discovery where
  classes := twinClasses
  skipped := 0
  events := (Candidates.discover twins.settings.generator.neverCookDirs twins.source.resolve?
    twinClasses []).events

theorem twins_discovered : twins.discovered none = .ok (twinDiscovery, []) := by
  have sorted : twinClasses.Pairwise fun first second =>
      (compare first.path second.path).isLE = true := by
    decide +kernel
  have listed : Candidates.discover twins.settings.generator.neverCookDirs twins.source.resolve?
      twinClasses [] = Candidates.ofListed twinClasses :=
    Candidates.discover_of_listed _ sorted (by decide +kernel)
  have whole : twinDiscovery = Candidates.ofListed twinClasses := by
    unfold twinDiscovery
    rw [listed]
    rfl
  have found : twins.discovered none = .ok (Candidates.discover
      twins.settings.generator.neverCookDirs twins.source.resolve? twinClasses [],
        Candidates.levels []) := rfl
  rw [found, listed, whole, Candidates.levels_of_listed .nil rfl]

def twinsFirst : Except PassError Course × FileSystem :=
  twins.staged (.reset .missing) twinDiscovery [] ∅

def twinLedger : Ledger where
  formatVersion := 2
  nextId := ⟨10002⟩
  classes := .ofList [("/Game/A.FOO", ⟨"FOO", .root⟩), ("/Game/B.Foo", ⟨"Foo1", .root⟩)]
  components := { state := .ofList [("/Game/A.FOO", ⟨10000⟩), ("/Game/B.Foo", ⟨10001⟩)] }
  index := .ofList [(⟨10000⟩, "/Game/A.FOO"), (⟨10001⟩, "/Game/B.Foo")]
  descriptorHash := some 3244421341483603138

/-- What the second pass leads to, which starts from that ledger. -/
def twinsSecond : Except PassError Course × FileSystem :=
  twins.staged (.loaded twinLedger) twinDiscovery [] twinsFirst.2

theorem twinsFirst_tells : twinsFirst.1.toOption.map (fun course =>
    (sealed course, (report course).clashes)) = some (twinLedger,
      [⟨"FOO", [⟨"/Game/A.FOO", "FOO"⟩, ⟨"/Game/B.Foo", "Foo1"⟩]⟩]) := by decide +kernel

theorem twinsSecond_tells :
    twinsSecond.1.toOption.map (fun course => (report course).clashes) = some [] := by
  decide +kernel

/-- The second pass tells nothing of the clash that the first one told. -/
theorem sameClashes_iff_of_run_twins :
    ∃ report after report' final discovery levels,
      twins.run false {} = (.ok report, after) ∧
      twins.run false { after with queue := none } = (.ok report', final) ∧
      twins.discovered none = .ok (discovery, levels) ∧
      (SameClashes report.clashes report'.clashes ↔ report'.reset? ≠ none ∨
        Draft.MeetAlike ((Draft.ofLedger .fresh).named discovery.classes)) ∧
      ¬SameClashes report.clashes report'.clashes := by
  have told := twinsFirst_tells
  have untold := twinsSecond_tells
  have start : twins.readLedger false ({} : Generator).files = .ok (.reset .missing) :=
    readLedger_of_absent (by decide +kernel)
  have validated : Validation.check twinClasses [] = .ok () := Task.eq_ok_of_isOk (by decide +kernel)
  rcases first : twinsFirst with ⟨error | course, files⟩
  · rw [first] at told
    cases told
  rcases second : twinsSecond with ⟨error | course', files'⟩
  · rw [second] at untold
    cases untold
  rw [first, show (Except.ok course, files).1.toOption = some course from rfl, Option.map_some,
    Option.some.injEq, Prod.mk.injEq] at told
  rw [second, show (Except.ok course', files').1.toOption = some course' from rfl, Option.map_some,
    Option.some.injEq] at untold
  obtain ⟨after, run, left, found⟩ := run_of_staged rfl start twins_discovered validated first
  have writable : twins.store.isReadOnly twinsFirst.2 = false := by decide +kernel
  have current : twinLedger.isStale = false := by decide +kernel
  have sound : twinLedger.checkIntegrity = .ok () := Task.eq_ok_of_isOk (by decide +kernel)
  have loaded : twins.readLedger false after.files = .ok (.loaded twinLedger) := by
    rw [told.1] at found
    rw [first] at writable
    rw [left]
    simp only [readLedger, Bool.false_eq_true, if_false, LedgerStore.load_of_read found writable,
      current, sound]
  have succeeds : twins.staged (.loaded twinLedger) twinDiscovery [] after.files =
      (.ok course', files') := by
    rw [left, ← second, twinsSecond, first]
  obtain ⟨final, again, -, -⟩ : ∃ final, twins.run false { after with queue := none } =
      (.ok (report course'), final) ∧ _ :=
    run_of_staged rfl loaded twins_discovered validated succeeds
  rcases sameClashes_iff_of_run start Ledger.isEmpty_fresh run (by rfl) (by rfl) again with
    ⟨_, failed, -⟩ | ⟨report', discovery, levels, reported, discovered, same⟩
  · cases failed
  cases reported
  refine ⟨_, after, _, final, discovery, levels, run, again, discovered, same, ?_⟩
  rw [told.2, untold]
  rintro ⟨forth, -⟩
  obtain ⟨clash, member, -⟩ := forth _ List.mem_cons_self
  cases member

end Plan

end ComponentSchema
