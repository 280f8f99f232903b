import ComponentSchema.Proofs.Ledger.Integrity
import ComponentSchema.Proofs.Ledger.Numbering

/-!
What work that asks for the ids of some keys leads to.  Keys that have an id keep it, and the new ones
get the ids from the supply on, each in the place where it is asked for first.
-/

namespace ComponentSchema

namespace Ledger

/-- The keys of a list that have no id, each in the place where it comes first. -/
def newKeys (ledger : Ledger) (keys : List IdKey) : List IdKey :=
  (keys.filter fun key => (ledger.idOf? key).isNone).eraseDups

/-- The id of a key, or the one that is never assigned. -/
def idOf (ledger : Ledger) (key : IdKey) : ComponentId := (ledger.idOf? key).getD .invalid

theorem idOf_of_idOf? {ledger : Ledger} {key : IdKey} {id : ComponentId}
    (stored : ledger.idOf? key = some id) : ledger.idOf key = id := by
  rw [idOf, stored, Option.getD_some]

theorem mem_newKeys {ledger : Ledger} {keys : List IdKey} {key : IdKey} :
    key ∈ ledger.newKeys keys ↔ key ∈ keys ∧ ledger.idOf? key = none := by
  rw [newKeys, List.mem_eraseDups, List.mem_filter, Option.isNone_iff_eq_none]

/-- The new keys of two lists are those of the first, and then those of the second that are new even
where the keys of the first have their ids. -/
theorem newKeys_append {before between : Ledger} {keys : List IdKey}
    (lacks : ∀ key, between.idOf? key = none ↔ before.idOf? key = none ∧ key ∉ keys)
    (more : List IdKey) :
    before.newKeys (keys ++ more) = before.newKeys keys ++ between.newKeys more := by
  have rest : (more.filter fun key => (before.idOf? key).isNone).removeAll
      (keys.filter fun key => (before.idOf? key).isNone) =
        more.filter fun key => (between.idOf? key).isNone := by
    unfold List.removeAll
    rw [List.filter_filter]
    apply List.filter_congr
    intro key _
    rw [Bool.eq_iff_iff]
    simp only [Bool.and_eq_true, Option.isNone_iff_eq_none, lacks, List.elem_eq_mem,
      Bool.not_eq_true', decide_eq_false_iff_not, List.mem_filter, not_and]
    constructor
    · rintro ⟨unseen, fresh⟩
      exact ⟨fresh, fun member => unseen member fresh⟩
    · rintro ⟨fresh, unseen⟩
      exact ⟨fun member _ => unseen member, fresh⟩
  unfold newKeys
  rw [List.filter_append, List.eraseDups_append, rest]

end Ledger

namespace Numbering

/-- One numbering leads to another by asking for the ids of some keys, and by nothing else that touches
an id. -/
structure Issues (before : Numbering) (keys : List IdKey) (after : Numbering) : Prop where
  kept : before.ledger.KeepsIds after.ledger
  numbered : ∀ place key, (before.ledger.newKeys keys)[place]? = some key →
    ∃ id, after.ledger.idOf? key = some id ∧
      id.number.toNat = before.supply.next.number.toNat + place
  others : ∀ key, before.ledger.idOf? key = none → key ∉ keys → after.ledger.idOf? key = none
  next : after.supply.next.number.toNat =
    before.supply.next.number.toNat + (before.ledger.newKeys keys).length
  issued : after.supply.issued = before.supply.issued + (before.ledger.newKeys keys).length

namespace Issues

variable {before between after : Numbering} {keys more : List IdKey}

theorem stored (issues : before.Issues keys after) {key : IdKey} (asked : key ∈ keys) :
    ∃ id, after.ledger.idOf? key = some id := by
  cases known : before.ledger.idOf? key with
  | some id => exact ⟨id, issues.kept key id known⟩
  | none =>
    obtain ⟨place, found⟩ := List.mem_iff_getElem?.1 (Ledger.mem_newKeys.2 ⟨asked, known⟩)
    obtain ⟨id, stored, -⟩ := issues.numbered place key found
    exact ⟨id, stored⟩

theorem idOf?_eq_none_iff (issues : before.Issues keys after) (key : IdKey) :
    after.ledger.idOf? key = none ↔ before.ledger.idOf? key = none ∧ key ∉ keys := by
  constructor
  · intro absent
    constructor
    · by_contra known
      obtain ⟨id, stored⟩ := Option.ne_none_iff_exists'.1 known
      rw [issues.kept key id stored] at absent
      cases absent
    · intro asked
      obtain ⟨id, stored⟩ := issues.stored asked
      rw [stored] at absent
      cases absent
  · rintro ⟨fresh, unasked⟩
    exact issues.others key fresh unasked

theorem refl (numbering : Numbering) : numbering.Issues [] numbering where
  kept := .refl _
  numbered place key found := by cases found
  others key fresh _ := fresh
  next := rfl
  issued := rfl

theorem trans (first : before.Issues keys between) (second : between.Issues more after) :
    before.Issues (keys ++ more) after := by
  have whole := Ledger.newKeys_append first.idOf?_eq_none_iff more
  have next := first.next
  refine ⟨first.kept.trans second.kept, ?_, ?_, ?_, ?_⟩
  · intro place key found
    rw [whole] at found
    -- the second part is numbered on from where the supply stands after the first
    by_cases early : place < (before.ledger.newKeys keys).length
    · rw [List.getElem?_append_left early] at found
      obtain ⟨id, stored, number⟩ := first.numbered place key found
      exact ⟨id, second.kept key id stored, number⟩
    · have late : (before.ledger.newKeys keys).length ≤ place := Nat.le_of_not_lt early
      rw [List.getElem?_append_right late] at found
      obtain ⟨id, stored, number⟩ := second.numbered _ key found
      refine ⟨id, stored, ?_⟩
      omega
  · intro key fresh unasked
    rw [List.mem_append, not_or] at unasked
    exact second.others key (first.others key fresh unasked.1) unasked.2
  · rw [whole, List.length_append, second.next, next, Nat.add_assoc]
  · rw [whole, List.length_append, second.issued, first.issued, Nat.add_assoc]

/-- Putting a class on record asks for no id. -/
theorem recordIdentity (numbering : Numbering) (path schemaName : String) (kind : ClassKind) :
    numbering.Issues [] (numbering.recordIdentity path schemaName kind) where
  kept key id stored := (Ledger.idOf?_recordIdentity ..).trans stored
  numbered place key found := by cases found
  others key fresh _ := (Ledger.idOf?_recordIdentity ..).trans fresh
  next := rfl
  issued := rfl

/-- A request for one key, answered with its id. -/
theorem of_request {key : IdKey} {id : ComponentId}
    (run : Numbered.request (fun numbering => numbering.ask key) before = (.ok id, after)) :
    before.Issues [key] after ∧ after.ledger.idOf? key = some id := by
  simp only [Numbered.request] at run
  cases known : before.ledger.idOf? key with
  | some old =>
    rw [ask_known known] at run
    cases run
    have nothing : before.ledger.newKeys [key] = [] := by simp [Ledger.newKeys, known]
    refine ⟨⟨.refl _, ?_, fun other fresh _ => fresh, ?_, ?_⟩, known⟩
    · intro place other found
      rw [nothing] at found
      cases found
    · rw [nothing, List.length_nil, Nat.add_zero]
    · rw [nothing, List.length_nil, Nat.add_zero]
  | none =>
    rcases ask_new known with ⟨-, refused⟩ | ⟨later, given, adds⟩
    · rw [refused] at run
      cases run
    · rw [given] at run
      cases run
      have only : before.ledger.newKeys [key] = [key] := by
        simp [Ledger.newKeys, known, List.eraseDups_cons]
      have stored : after.ledger.idOf? key = some before.supply.next := by
        rw [adds.ids, if_pos rfl]
      refine ⟨⟨adds.extends.ids, ?_, ?_, ?_, ?_⟩, stored⟩
      · intro place other found
        rw [only, List.getElem?_singleton] at found
        split at found
        next first =>
          cases found
          exact ⟨before.supply.next, stored, by rw [first, Nat.add_zero]⟩
        next => cases found
      · intro other fresh unasked
        rw [adds.ids, if_neg fun same => unasked (List.mem_singleton.2 same)]
        exact fresh
      · rw [only, adds.supply]
        exact ComponentId.toNat_next adds.left
      · rw [only, adds.supply]
        rfl

/-- What has an id afterwards and had none before got it from the supply, by its place. -/
theorem place_of_idOf? (issues : before.Issues keys after) {key : IdKey} {id : ComponentId}
    (stored : after.ledger.idOf? key = some id) (fresh : before.ledger.idOf? key = none) :
    ∃ place, (before.ledger.newKeys keys)[place]? = some key ∧
      id.number.toNat = before.supply.next.number.toNat + place := by
  have asked : key ∈ keys := by
    by_contra unasked
    rw [issues.others key fresh unasked] at stored
    cases stored
  obtain ⟨place, found⟩ := List.mem_iff_getElem?.1 (Ledger.mem_newKeys.2 ⟨asked, fresh⟩)
  obtain ⟨given, stored', number⟩ := issues.numbered place key found
  obtain rfl : given = id := Option.some.inj (stored'.symm.trans stored)
  exact ⟨place, found, number⟩

/-- No two keys come to share an id where none did, as long as the supply begins above all ids on
record. -/
theorem distinct (issues : before.Issues keys after)
    (below : ∀ key id, before.ledger.idOf? key = some id →
      id.number.toNat < before.supply.next.number.toNat)
    (apart : ∀ key other id, before.ledger.idOf? key = some id →
      before.ledger.idOf? other = some id → key = other)
    {key other : IdKey} {id : ComponentId} (stored : after.ledger.idOf? key = some id)
    (again : after.ledger.idOf? other = some id) : key = other := by
  -- an id on record lies below the supply, and a new one does not
  have old_of_old {first second : IdKey} {known : ComponentId}
      (old : before.ledger.idOf? first = some known) (holds : after.ledger.idOf? first = some id)
      (shares : after.ledger.idOf? second = some id) : before.ledger.idOf? second = some id := by
    obtain rfl : known = id := Option.some.inj ((issues.kept first known old).symm.trans holds)
    cases earlier : before.ledger.idOf? second with
    | none =>
      obtain ⟨place, -, number⟩ := issues.place_of_idOf? shares earlier
      have low := below first known old
      omega
    | some found =>
      obtain rfl : found = known :=
        Option.some.inj ((issues.kept second found earlier).symm.trans shares)
      rfl
  cases earlier : before.ledger.idOf? key with
  | some known =>
    have first := old_of_old earlier stored stored
    have second := old_of_old earlier stored again
    exact apart key other id first second
  | none =>
    cases earlier' : before.ledger.idOf? other with
    | some known =>
      have old := old_of_old earlier' again stored
      rw [earlier] at old
      cases old
    | none =>
      obtain ⟨place, found, number⟩ := issues.place_of_idOf? stored earlier
      obtain ⟨place', found', number'⟩ := issues.place_of_idOf? again earlier'
      obtain rfl : place = place' := by omega
      exact Option.some.inj (found.symm.trans found')

end Issues

end Numbering

namespace Numbered

variable {α β : Type}

/-- Work asks for the ids of some keys, and answers with what follows from the ids they have then, in
whatever ledger they are looked up later. -/
def Asks (keys : List IdKey) (answer : Ledger → α) (work : Numbered α) : Prop :=
  ∀ (before after : Numbering) (value : α), work before = (.ok value, after) →
    before.Issues keys after ∧
      ∀ later : Ledger, after.ledger.KeepsIds later → value = answer later

theorem request_asks (key : IdKey) :
    Asks [key] (fun later => later.idOf key) (request fun numbering => numbering.ask key) := by
  intro before after id run
  obtain ⟨issues, stored⟩ := Numbering.Issues.of_request run
  exact ⟨issues, fun later known => (Ledger.idOf_of_idOf? (known key id stored)).symm⟩

namespace Asks

variable {keys : List IdKey} {answer : Ledger → α}

theorem pure (value : α) : Asks [] (fun _ => value) (pure value) := by
  intro before after result run
  cases run
  exact ⟨.refl _, fun _ _ => rfl⟩

theorem bind {work : Numbered α} {next : α → Numbered β} {more : List IdKey}
    {result : α → Ledger → β} (first : Asks keys answer work)
    (second : ∀ value, Asks more (result value) (next value)) :
    Asks (keys ++ more) (fun later => result (answer later) later) (work >>= next) := by
  intro before after value run
  obtain ⟨middle, between, run, rest⟩ := Task.bind_eq_ok.1 run
  obtain ⟨issues, answered⟩ := first _ _ _ run
  obtain ⟨onward, resulted⟩ := second middle _ _ _ rest
  refine ⟨issues.trans onward, fun later known => ?_⟩
  dsimp only
  rw [← answered later (onward.kept.trans known)]
  exact resulted later known

/-- What is made of an answer asks for nothing more. -/
theorem map {work : Numbered α} (asks : Asks keys answer work) (change : α → β) :
    Asks keys (fun later => change (answer later)) (do return change (← work)) := by
  have whole := asks.bind fun value => pure (change value)
  rwa [List.append_nil] at whole

theorem mapM {work : α → Numbered β} {key : α → IdKey} {answer : α → Ledger → β}
    (each : ∀ item, Asks [key item] (answer item) (work item)) (items : List α) :
    Asks (items.map key) (fun later => items.map fun item => answer item later)
      (items.mapM work) := by
  induction items with
  | nil => exact pure []
  | cons item rest ih =>
    rw [List.mapM_cons]
    exact (each item).bind fun value => ih.map (value :: ·)

end Asks

end Numbered

end ComponentSchema
