import ComponentSchema.Proofs.NameRegistry

/-!
Clashes of names.  Every claim is filed under the name its path was given, under the name it wanted, and
under the name in use that stood in the way of that.  So a new path that is given another name than it
wanted stands in one clash with the path that had the name, and no clash tells a path twice.
-/

namespace ComponentSchema

namespace NameRegistry

def claimsOn (registry : NameRegistry) (group : String) : List NameClaim :=
  (registry.claims.find? group).getD []

/-- The name in use that stands in the way of another one, as it is spelled. -/
def holder? (registry : NameRegistry) (name : String) : Option String :=
  registry.taken.find? (foldCase name)

theorem claimsOn_file (registry : NameRegistry) (group path schemaName other : String) :
    (registry.file group path schemaName).claimsOn other =
      registry.claimsOn other ++ if other = group then [⟨path, schemaName⟩] else [] := by
  unfold claimsOn file SortedMap.update
  simp only [SortedMap.find?_insert, Std.LawfulEqOrd.compare_eq_iff_eq]
  split
  next same => rw [same, Option.getD_some]
  next => rw [List.append_nil]

theorem claimsOn_claim (registry : NameRegistry) (path desired schemaName other : String) :
    (registry.claim path desired schemaName).claimsOn other =
      registry.claimsOn other ++
        if other ∈ [schemaName, desired] then [⟨path, schemaName⟩] else [] := by
  have named : claimsOn { registry with
      byPath := registry.byPath.insert path schemaName
      taken := registry.taken.insertIfNew (foldCase schemaName) schemaName } other =
        registry.claimsOn other := rfl
  unfold claim
  dsimp only
  by_cases wanted : desired = schemaName
  · rw [if_pos wanted, claimsOn_file, named, wanted]
    simp
  · rw [if_neg wanted, claimsOn_file, claimsOn_file, named]
    by_cases given : other = schemaName
    · have other_ne : other ≠ desired := fun same => wanted (same.symm.trans given)
      simp [given, Ne.symm wanted]
    · simp [given]

/-- One registry leads to another by giving a new path a name and filing the claim under some names. -/
structure Claims (before : NameRegistry) (claim : NameClaim) (groups : List String)
    (after : NameRegistry) : Prop where
  new : before.schemaName? claim.path = none
  names : ∀ path, after.schemaName? path =
    if path = claim.path then some claim.schemaName else before.schemaName? path
  taken : after.taken = before.taken.insertIfNew (foldCase claim.schemaName) claim.schemaName
  filed : ∀ group, after.claimsOn group =
    before.claimsOn group ++ if group ∈ groups then [claim] else []

theorem claims_claim {registry : NameRegistry} {path : String}
    (new : registry.schemaName? path = none) (desired schemaName : String) :
    registry.Claims ⟨path, schemaName⟩ [schemaName, desired]
      (registry.claim path desired schemaName) where
  new := new
  names other := by
    unfold schemaName?
    rw [byPath_claim, SortedMap.find?_insert]
    simp only [Std.LawfulEqOrd.compare_eq_iff_eq]
  taken := taken_claim registry path desired schemaName
  filed := claimsOn_claim registry path desired schemaName

/-- What the claims on file have to do with the names in use: every name in use belongs to a path, and
that path stands under it; whoever stands under a name stands there once, and with the name it has. -/
structure IsFiled (registry : NameRegistry) : Prop where
  held : ∀ key name, registry.taken.find? key = some name →
    foldCase name = key ∧ ∃ path, registry.schemaName? path = some name
  own : ∀ path name, registry.schemaName? path = some name →
    ⟨path, name⟩ ∈ registry.claimsOn name
  named : ∀ group, ∀ claim ∈ registry.claimsOn group,
    registry.schemaName? claim.path = some claim.schemaName
  once : ∀ group, ((registry.claimsOn group).map NameClaim.path).Nodup

theorem isFiled_empty : IsFiled {} where
  held key name taken := by cases taken
  own path name has := by cases has
  named group claim member := by cases member
  once group := .nil

/-- A later registry has every name that an earlier one has given or has in use, and every claim on
file. -/
structure Extends (before after : NameRegistry) : Prop where
  names : ∀ path name, before.schemaName? path = some name → after.schemaName? path = some name
  holders : ∀ name holder, before.holder? name = some holder → after.holder? name = some holder
  claims : ∀ group, before.claimsOn group ⊆ after.claimsOn group

instance : Std.Refl Extends where
  refl registry := ⟨fun _ _ has => has, fun _ _ holds => holds,
    fun group => List.Subset.refl (registry.claimsOn group)⟩

instance : IsTrans NameRegistry Extends where
  trans _ _ _ earlier later :=
    ⟨fun path name has => later.names path name (earlier.names path name has),
      fun name holder holds => later.holders name holder (earlier.holders name holder holds),
      fun group => List.Subset.trans (earlier.claims group) (later.claims group)⟩

namespace Claims

variable {before after : NameRegistry} {claim : NameClaim} {groups : List String}

theorem extends_ (claims : before.Claims claim groups after) : before.Extends after where
  names path name has := by
    rw [claims.names, if_neg]
    · exact has
    · rintro rfl
      rw [claims.new] at has
      cases has
  holders name holder holds := by
    unfold holder? at holds ⊢
    rw [claims.taken, SortedMap.find?_insertIfNew]
    split
    next same =>
      rw [← Std.LawfulEqOrd.eq_of_compare same, holds, Option.getD_some]
    next => exact holds
  claims group := by
    rw [claims.filed]
    exact List.subset_append_left _ _

theorem mem_claimsOn (claims : before.Claims claim groups after) {group : String}
    {other : NameClaim} :
    other ∈ after.claimsOn group ↔
      other ∈ before.claimsOn group ∨ other = claim ∧ group ∈ groups := by
  rw [claims.filed, List.mem_append]
  split
  next listed => simp [listed]
  next unlisted => simp [unlisted]

theorem isFiled (claims : before.Claims claim groups after) (filed : before.IsFiled)
    (own : claim.schemaName ∈ groups) : after.IsFiled where
  held key name taken := by
    rw [claims.taken, SortedMap.find?_insertIfNew] at taken
    have known (old : before.taken.find? key = some name) :
        foldCase name = key ∧ ∃ path, after.schemaName? path = some name := by
      obtain ⟨spelled, path, has⟩ := filed.held key name old
      exact ⟨spelled, path, claims.extends_.names path name has⟩
    split at taken
    next same =>
      obtain rfl : key = foldCase claim.schemaName := Std.LawfulEqOrd.eq_of_compare same
      cases earlier : before.taken.find? (foldCase claim.schemaName) with
      | some holder =>
        rw [earlier, Option.getD_some] at taken
        exact known (earlier.trans taken)
      | none =>
        rw [earlier, Option.getD_none, Option.some.injEq] at taken
        subst taken
        exact ⟨rfl, claim.path, by rw [claims.names, if_pos rfl]⟩
    next => exact known taken
  own path name has := by
    rw [claims.names] at has
    rw [claims.mem_claimsOn]
    split at has
    next same =>
      obtain rfl := Option.some.inj has
      exact .inr ⟨by rw [same], own⟩
    next => exact .inl (filed.own path name has)
  named group other member := by
    rcases claims.mem_claimsOn.1 member with old | ⟨rfl, -⟩
    · exact claims.extends_.names _ _ (filed.named group other old)
    · rw [claims.names, if_pos rfl]
  once group := by
    rw [claims.filed, List.map_append]
    refine (filed.once group).append ?_ ?_
    · split <;> simp
    · -- a new path has no claim on file yet
      refine List.disjoint_left.2 fun path old added => ?_
      obtain ⟨other, member, rfl⟩ := List.mem_map.1 old
      split at added
      next =>
        obtain same : other.path = claim.path := by simpa using added
        have has := filed.named group other member
        rw [same, claims.new] at has
        cases has
      next => cases added

end Claims

/-- The names that the claim of a new path is filed under. -/
def groupsOf (registry : NameRegistry) (raw : String) : List String :=
  [registry.freeName raw, identifier .type raw] ++ (registry.holder? (identifier .type raw)).toList

theorem IsFiled.isTaken_holder {registry : NameRegistry} (filed : registry.IsFiled)
    {name holder : String} (holds : registry.holder? name = some holder) :
    registry.isTaken holder = true := by
  rw [isTaken_congr (filed.held _ _ holds).1]
  exact SortedMap.contains_iff.2 ⟨holder, holds⟩

/-- A new path that asks for a name claims the one it gets. -/
theorem IsFiled.claims_resolve {registry : NameRegistry} (filed : registry.IsFiled) {path : String}
    (new : registry.schemaName? path = none) (raw : String) :
    (registry.resolve path raw).1 = registry.freeName raw ∧
      registry.Claims ⟨path, registry.freeName raw⟩ (registry.groupsOf raw)
        (registry.resolve path raw).2 := by
  have claims := claims_claim new (identifier .type raw) (registry.freeName raw)
  unfold resolve groupsOf
  rw [new]
  dsimp only
  refine ⟨rfl, ?_⟩
  cases holds : registry.holder? (identifier .type raw) with
  | none =>
    rw [show registry.taken.find? (foldCase (identifier .type raw)) = none from holds]
    simpa using claims
  | some holder =>
    rw [show registry.taken.find? (foldCase (identifier .type raw)) = some holder from holds]
    dsimp only
    by_cases alike : holder = identifier .type raw
    · rw [if_pos alike]
      refine { claims with filed := fun group => ?_ }
      rw [claims.filed]
      simp [alike]
    · rw [if_neg alike]
      -- the holder's name is in use and the given one was free, so they differ
      have other : holder ≠ registry.freeName raw := by
        rintro rfl
        have free := registry.isTaken_freeName raw
        rw [filed.isTaken_holder holds] at free
        cases free
      have still : (registry.file holder path (registry.freeName raw)).schemaName? path = none := new
      have told := claims_claim still (identifier .type raw) (registry.freeName raw)
      refine ⟨new, told.names, told.taken, fun group => ?_⟩
      rw [told.filed, claimsOn_file]
      by_cases same : group = holder
      · simp [same, other, alike]
      · simp [same]

theorem IsFiled.extends_resolve {registry : NameRegistry} (filed : registry.IsFiled)
    (path raw : String) :
    (registry.resolve path raw).2.IsFiled ∧ registry.Extends (registry.resolve path raw).2 := by
  cases known : registry.schemaName? path with
  | some name =>
    rw [resolve_of_schemaName? known]
    exact ⟨filed, Std.Refl.refl registry⟩
  | none =>
    obtain ⟨-, claims⟩ := filed.claims_resolve known raw
    exact ⟨claims.isFiled filed (by simp [groupsOf]), claims.extends_⟩

/-- The claim that a record of a ledger is worth. -/
def claimOf (entry : String × ClassRecord) : NameClaim := ⟨entry.1, entry.2.schemaName⟩

/-- The names that the claim of a record is filed under. -/
def recordGroups (entry : String × ClassRecord) : List String :=
  [entry.2.schemaName, identifier .type (assetName entry.1)]

/-- What the registry of a ledger has on file are the claims of its records, and nothing else. -/
theorem isFiled_ofLedger (ledger : Ledger) :
    (ofLedger ledger).IsFiled ∧ ∀ group claim, claim ∈ (ofLedger ledger).claimsOn group ↔
      ∃ entry ∈ ledger.classes.entries, claim = claimOf entry ∧ group ∈ recordGroups entry := by
  have claimed {entries : List (String × ClassRecord)}
      (distinct : (entries.map Prod.fst).Nodup) {registry : NameRegistry}
      (new : ∀ entry ∈ entries, registry.schemaName? entry.1 = none) (filed : registry.IsFiled) :
      (entries.foldl (fun registry entry => registry.claim entry.1
        (identifier .type (assetName entry.1)) entry.2.schemaName) registry).IsFiled ∧
        ∀ group claim, claim ∈ (entries.foldl (fun registry entry => registry.claim entry.1
          (identifier .type (assetName entry.1)) entry.2.schemaName) registry).claimsOn group ↔
            claim ∈ registry.claimsOn group ∨
              ∃ entry ∈ entries, claim = claimOf entry ∧ group ∈ recordGroups entry := by
    induction entries generalizing registry with
    | nil => exact ⟨filed, fun group claim => by simp⟩
    | cons entry rest ih =>
      rw [List.map_cons, List.nodup_cons] at distinct
      have claims := claims_claim (new entry List.mem_cons_self)
        (identifier .type (assetName entry.1)) entry.2.schemaName
      have later : ∀ other ∈ rest, (registry.claim entry.1 (identifier .type (assetName entry.1))
          entry.2.schemaName).schemaName? other.1 = none := by
        intro other member
        rw [claims.names, if_neg]
        · exact new other (List.mem_cons_of_mem _ member)
        · exact fun same => distinct.1 (List.mem_map.2 ⟨other, member, same⟩)
      obtain ⟨filed', members⟩ := ih distinct.2 later (claims.isFiled filed (by simp))
      rw [List.foldl_cons]
      refine ⟨filed', fun group claim => ?_⟩
      rw [members, claims.mem_claimsOn, List.exists_mem_cons_iff, or_assoc]
      rfl
  have distinct : (ledger.classes.entries.map Prod.fst).Nodup := SortedMap.nodup_keys ledger.classes
  obtain ⟨filed, members⟩ := claimed distinct (fun _ _ => rfl) isFiled_empty
  refine ⟨filed, fun group claim => (members group claim).trans (or_iff_right ?_)⟩
  exact fun member => by cases member

/-- The registry once the names of some paths were asked for, one after the other. -/
def resolveAll (registry : NameRegistry) (requests : List (String × String)) : NameRegistry :=
  requests.foldl (fun registry request => (registry.resolve request.1 request.2).2) registry

theorem resolveAll_append (registry : NameRegistry) (earlier later : List (String × String)) :
    registry.resolveAll (earlier ++ later) = (registry.resolveAll earlier).resolveAll later :=
  List.foldl_append

theorem IsFiled.extends_resolveAll {registry : NameRegistry} (filed : registry.IsFiled)
    (requests : List (String × String)) :
    (registry.resolveAll requests).IsFiled ∧ registry.Extends (registry.resolveAll requests) := by
  induction requests generalizing registry with
  | nil => exact ⟨filed, Std.Refl.refl registry⟩
  | cons request rest ih =>
    obtain ⟨filed', step⟩ := filed.extends_resolve request.1 request.2
    obtain ⟨filed'', others⟩ := ih filed'
    exact ⟨filed'', trans_of Extends step others⟩

/-- A path that came by its name through requests was new when it was first asked for. -/
theorem exists_first_request {registry : NameRegistry} {path name : String}
    {requests : List (String × String)} (new : registry.schemaName? path = none)
    (has : (registry.resolveAll requests).schemaName? path = some name) :
    ∃ earlier raw later, requests = earlier ++ (path, raw) :: later ∧
      (registry.resolveAll earlier).schemaName? path = none ∧
        (requests.find? fun request => request.1 == path) = some (path, raw) := by
  induction requests generalizing registry with
  | nil =>
    rw [show registry.resolveAll [] = registry from rfl, new] at has
    cases has
  | cons request rest ih =>
    by_cases same : request.1 = path
    · subst same
      exact ⟨[], request.2, rest, rfl, new, by simp⟩
    · have still : (registry.resolve request.1 request.2).2.schemaName? path = none := by
        rw [schemaName?_resolve, if_neg (Ne.symm same)]
        exact new
      obtain ⟨earlier, raw, later, rfl, first, found⟩ := ih still has
      refine ⟨request :: earlier, raw, later, rfl, first, ?_⟩
      rwa [List.find?_cons_of_neg (by simpa using same)]

theorem mem_clashes {registry : NameRegistry} {clash : NameClash} :
    clash ∈ registry.clashes ↔
      registry.claimsOn clash.desired = clash.claims ∧ 1 < clash.claims.length := by
  unfold clashes
  simp only [List.mem_map, List.mem_filter, decide_eq_true_eq]
  constructor
  · rintro ⟨entry, ⟨member, several⟩, rfl⟩
    have stored : registry.claims.find? entry.1 = some entry.2 :=
      SortedMap.find?_eq_some_iff.2 member
    exact ⟨by rw [claimsOn, stored, Option.getD_some], several⟩
  · rintro ⟨listed, several⟩
    refine ⟨(clash.desired, clash.claims), ⟨SortedMap.find?_eq_some_iff.1 ?_, several⟩, rfl⟩
    unfold claimsOn at listed
    cases stored : registry.claims.find? clash.desired with
    | some claims => rw [← listed, stored, Option.getD_some]
    | none =>
      rw [stored, Option.getD_none] at listed
      rw [← listed] at several
      cases several

/-- A clash tells two claims side by side. -/
def Tells (registry : NameRegistry) (first second : NameClaim) : Prop :=
  ∃ clash ∈ registry.clashes, first ∈ clash.claims ∧ second ∈ clash.claims

theorem one_lt_length_of_mem {claims : List NameClaim} {first second : NameClaim}
    (member : first ∈ claims) (member' : second ∈ claims) (apart : first ≠ second) :
    1 < claims.length := by
  match claims, member, member' with
  | [only], member, member' =>
    exact absurd ((List.mem_singleton.1 member).trans (List.mem_singleton.1 member').symm) apart
  | _ :: _ :: _, _, _ => simp

theorem tells_of_mem {registry : NameRegistry} {group : String} {first second : NameClaim}
    (member : first ∈ registry.claimsOn group) (member' : second ∈ registry.claimsOn group)
    (apart : first ≠ second) : registry.Tells first second := by
  have several := one_lt_length_of_mem member member' apart
  exact ⟨⟨group, registry.claimsOn group⟩, mem_clashes.2 ⟨rfl, several⟩, member, member'⟩

/-- A path that was named is on file beside a path whose name it wanted, unless it got what it wanted. -/
def Explains (registry : NameRegistry) (path wanted : String) : Prop :=
  ∃ name, registry.schemaName? path = some name ∧ (name ≠ wanted →
    ∃ group holder held, holder ≠ path ∧ registry.schemaName? holder = some held ∧
      foldCase held = foldCase wanted ∧ ⟨path, name⟩ ∈ registry.claimsOn group ∧
        ⟨holder, held⟩ ∈ registry.claimsOn group)

theorem Explains.of_extends {before after : NameRegistry} {path wanted : String}
    (explains : before.Explains path wanted) (extends_ : before.Extends after) :
    after.Explains path wanted := by
  obtain ⟨name, has, holders⟩ := explains
  refine ⟨name, extends_.names _ _ has, fun renamed => ?_⟩
  obtain ⟨group, holder, held, other, holds, alike, member, member'⟩ := holders renamed
  exact ⟨group, holder, held, other, extends_.names _ _ holds, alike, extends_.claims _ member,
    extends_.claims _ member'⟩

/-- The step: a new path is given another name than it wants only where a path has that one, and then
its claim is filed under the name as that path spells it. -/
theorem IsFiled.explains_resolve {registry : NameRegistry} (filed : registry.IsFiled) {path : String}
    (new : registry.schemaName? path = none) (raw : String) :
    (registry.resolve path raw).2.Explains path (identifier .type raw) := by
  obtain ⟨-, claims⟩ := filed.claims_resolve new raw
  refine ⟨registry.freeName raw, by rw [claims.names, if_pos rfl], fun renamed => ?_⟩
  have taken : registry.isTaken (identifier .type raw) = true := by
    by_contra free
    exact renamed (by simp only [freeName, free, Bool.false_eq_true, if_false])
  obtain ⟨held, holds⟩ := SortedMap.contains_iff.1 taken
  obtain ⟨alike, holder, has⟩ := filed.held _ _ holds
  have other : holder ≠ path := by
    rintro rfl
    rw [new] at has
    cases has
  refine ⟨held, holder, held, other, claims.extends_.names _ _ has, alike, ?_,
    claims.extends_.claims _ (filed.own _ _ has)⟩
  have listed : held ∈ registry.groupsOf raw := by
    unfold groupsOf
    rw [show registry.holder? (identifier .type raw) = some held from holds]
    simp
  exact claims.mem_claimsOn.2 (.inr ⟨rfl, listed⟩)

/-- After some requests, and before some others, a path that asks for a name and is given another one
is told in one clash with a path that had that name, up to case, when it asked. -/
def TellsRename (start : NameRegistry) (earlier : List (String × String)) (path raw : String)
    (later : List (String × String)) : Prop :=
  ((start.resolveAll earlier).resolve path raw).1 ≠ identifier .type raw →
    ∃ holder held, holder ≠ path ∧ (start.resolveAll earlier).schemaName? holder = some held ∧
      foldCase held = foldCase (identifier .type raw) ∧
        (start.resolveAll (earlier ++ (path, raw) :: later)).Tells
          ⟨path, ((start.resolveAll earlier).resolve path raw).1⟩ ⟨holder, held⟩

/-- The run: whoever was explained in the end was explained when it asked. -/
theorem tellsRename_of_explains {start : NameRegistry} (filed : start.IsFiled)
    {earlier later : List (String × String)} {path raw : String}
    (explains : ((start.resolveAll earlier).resolve path raw).2.Explains path
      (identifier .type raw)) : start.TellsRename earlier path raw later := by
  intro renamed
  obtain ⟨filed', -⟩ := filed.extends_resolveAll earlier
  obtain ⟨filed'', -⟩ := filed'.extends_resolve path raw
  obtain ⟨-, onward⟩ := filed''.extends_resolveAll later
  obtain ⟨name, has, holders⟩ := explains
  rw [schemaName?_resolve, if_pos rfl, Option.some.injEq] at has
  subst has
  obtain ⟨group, holder, held, other, holds, alike, member, member'⟩ := holders renamed
  rw [schemaName?_resolve, if_neg other] at holds
  refine ⟨holder, held, other, holds, alike, ?_⟩
  rw [resolveAll_append]
  refine tells_of_mem (onward.claims group member) (onward.claims group member') fun same => ?_
  exact other (NameClaim.mk.inj same).1.symm

theorem mem_claimsOn_ofLedger {ledger : Ledger} {path : String} {record : ClassRecord}
    (stored : ledger.identity? path = some record) :
    (ofLedger ledger).schemaName? path = some record.schemaName ∧
      ⟨path, record.schemaName⟩ ∈
        (ofLedger ledger).claimsOn (identifier .type (assetName path)) := by
  refine ⟨by rw [agrees_ofLedger, stored, Option.map_some], ?_⟩
  refine ((isFiled_ofLedger ledger).2 _ _).2 ⟨(path, record), ?_, rfl, by simp [recordGroups]⟩
  exact SortedMap.find?_eq_some_iff.1 stored

/-- A path that has a name keeps it whatever it asks for, and what it asks for then goes untold. -/
theorem not_tellsRename_of_named :
    ¬ (ofLedger { Ledger.fresh with
      nextId := ⟨10050⟩
      classes := .ofList [("/Game/A", ⟨"Bar", .root⟩), ("/Game/Z", ⟨"Foo", .root⟩)] }).TellsRename
        [] "/Game/A" "Foo" [] ∧
    ¬ (ofLedger .fresh).TellsRename [("/Game/Z", "Foo"), ("/Game/A", "Bar")] "/Game/A" "Foo" [] := by
  constructor
  · intro tells
    obtain ⟨holder, held, -, -, -, clash, member, -⟩ := tells (by decide +kernel)
    exact absurd member (List.eq_nil_iff_forall_not_mem.1 (by decide +kernel) clash)
  · intro tells
    obtain ⟨holder, held, -, -, -, clash, member, -⟩ := tells (by decide +kernel)
    exact absurd member (List.eq_nil_iff_forall_not_mem.1 (by decide +kernel) clash)

/-- A path that is not on record is told, as long as it asks for the name that it asked for first. -/
theorem tellsRename_of_unrecorded {ledger : Ledger} {earlier : List (String × String)}
    {path raw : String} (unrecorded : ledger.identity? path = none)
    (alike : ∀ request, (earlier.find? fun request => request.1 == path) = some request →
      identifier .type request.2 = identifier .type raw) (later : List (String × String)) :
    (ofLedger ledger).TellsRename earlier path raw later := by
  obtain ⟨filed, -⟩ := isFiled_ofLedger ledger
  obtain ⟨filed', -⟩ := filed.extends_resolveAll earlier
  obtain ⟨-, step⟩ := filed'.extends_resolve path raw
  apply tellsRename_of_explains filed
  have new : (ofLedger ledger).schemaName? path = none := by
    rw [agrees_ofLedger, unrecorded, Option.map_none]
  cases known : ((ofLedger ledger).resolveAll earlier).schemaName? path with
  | none => exact filed'.explains_resolve known raw
  | some name =>
    -- the path was explained when it was first asked for, and wanted the same name then
    obtain ⟨first, wanted, rest, rfl, fresh, found⟩ := exists_first_request new known
    obtain ⟨filed₁, -⟩ := filed.extends_resolveAll first
    obtain ⟨filed₂, -⟩ := filed₁.extends_resolve path wanted
    obtain ⟨-, onward⟩ := filed₂.extends_resolveAll rest
    have explains := filed₁.explains_resolve fresh wanted
    rw [alike (path, wanted) found] at explains
    rw [resolveAll_append] at step ⊢
    exact (explains.of_extends onward).of_extends step

/-- A path on record is told with the path that holds the name of its asset to the letter. -/
theorem tellsRename_of_recorded {ledger : Ledger} {earlier : List (String × String)}
    {path raw holder : String} {record : ClassRecord}
    (stored : ledger.identity? path = some record)
    (asset : identifier .type raw = identifier .type (assetName path)) (other : holder ≠ path)
    (holds : ((ofLedger ledger).resolveAll earlier).schemaName? holder =
      some (identifier .type raw)) (later : List (String × String)) :
    (ofLedger ledger).TellsRename earlier path raw later := by
  obtain ⟨filed, -⟩ := isFiled_ofLedger ledger
  obtain ⟨filed', grown⟩ := filed.extends_resolveAll earlier
  obtain ⟨-, step⟩ := filed'.extends_resolve path raw
  obtain ⟨named, member⟩ := mem_claimsOn_ofLedger stored
  apply tellsRename_of_explains filed
  have has := step.names _ _ (grown.names _ _ named)
  refine ⟨record.schemaName, has, fun _ => ⟨identifier .type raw, holder, _, other,
    step.names _ _ holds, rfl, ?_, step.claims _ (filed'.own _ _ holds)⟩⟩
  rw [asset]
  exact step.claims _ (grown.claims _ member)

/-- No rename goes untold.  A path that is not on record, and was first asked for under the same name if at
all, is told with the path that had the name it wanted; so is a path on record that is asked for under the
name of its asset, where that name is held to the letter.  Every clash tells several paths, each once. -/
theorem tellsRename_of_requests (ledger : Ledger) :
    (∀ earlier path raw later,
      (ledger.identity? path = none →
        (∀ request, (earlier.find? fun request => request.1 == path) = some request →
          identifier .type request.2 = identifier .type raw) →
        (ofLedger ledger).TellsRename earlier path raw later) ∧
      (identifier .type raw = identifier .type (assetName path) →
        ∀ holder, holder ≠ path →
          ((ofLedger ledger).resolveAll earlier).schemaName? holder = some (identifier .type raw) →
          (ledger.identity? path).isSome = true →
          (ofLedger ledger).TellsRename earlier path raw later)) ∧
    ∀ requests, ∀ clash ∈ ((ofLedger ledger).resolveAll requests).clashes,
      2 ≤ clash.claims.length ∧ (clash.claims.map NameClaim.path).Nodup := by
  refine ⟨fun earlier path raw later => ⟨fun unrecorded alike => ?_, ?_⟩, ?_⟩
  · exact tellsRename_of_unrecorded unrecorded alike later
  · intro asset holder other holds recorded
    obtain ⟨record, stored⟩ := Option.isSome_iff_exists.1 recorded
    exact tellsRename_of_recorded stored asset other holds later
  · intro requests clash member
    obtain ⟨listed, several⟩ := mem_clashes.1 member
    obtain ⟨filed, -⟩ := isFiled_ofLedger ledger
    obtain ⟨filed', -⟩ := filed.extends_resolveAll requests
    exact ⟨several, listed ▸ filed'.once clash.desired⟩

/-- A new path that wants a taken name in other letters, also when it has asked for something else in
between, and a path on record under another name. -/
theorem tellsRename_of_requests_recorded :
    let registry := ofLedger { Ledger.fresh with
      classes := .ofList [("/Game/A.Foo", ⟨"Foo", .root⟩), ("/Game/B.Foo", ⟨"Foo1", .root⟩)] }
    let newcomer := ("/Game/C.FOO", "FOO")
    let recorded := ("/Game/B.Foo", "Foo")
    (registry.resolve newcomer.1 newcomer.2).1 = "FOO2" ∧
      ((registry.resolveAll [newcomer]).resolve recorded.1 recorded.2).1 = "Foo1" ∧
      registry.TellsRename [] newcomer.1 newcomer.2 [recorded] ∧
      registry.TellsRename [newcomer, (newcomer.1, "Bar")] newcomer.1 newcomer.2 [] ∧
      registry.TellsRename [newcomer] recorded.1 recorded.2 [] ∧
      ∀ clash ∈ (registry.resolveAll [newcomer, recorded]).clashes,
        2 ≤ clash.claims.length ∧ (clash.claims.map NameClaim.path).Nodup := by
  intro registry newcomer recorded
  obtain ⟨tells, once⟩ := tellsRename_of_requests { Ledger.fresh with
    classes := .ofList [("/Game/A.Foo", ⟨"Foo", .root⟩), ("/Game/B.Foo", ⟨"Foo1", .root⟩)] }
  refine ⟨by decide +kernel, by decide +kernel, ?_, ?_, ?_, once [newcomer, recorded]⟩
  · exact (tells [] _ _ [recorded]).1 (by decide +kernel) (by simp)
  · apply (tells [newcomer, (newcomer.1, "Bar")] _ _ []).1 (by decide +kernel)
    intro request found
    rw [List.find?_cons_of_pos (by decide), Option.some.injEq] at found
    rw [← found]
  · exact (tells [newcomer] _ _ []).2 (by decide +kernel) "/Game/A.Foo" (by decide +kernel)
      (by decide +kernel) (by decide +kernel)

end NameRegistry

end ComponentSchema
