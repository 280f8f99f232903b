import ComponentSchema.Proofs.History

/-!
What is built upon a saved ledger.  A pass goes on from the ledger that the last one saved, with one
exception: where classes are on record while no id was ever issued, the ledger is taken for one of
older tooling and discarded, and with it go the names of those classes.  Once an id was issued that
never happens again, so from then on every class on record keeps its name.
-/

namespace ComponentSchema

namespace Ledger

/-- Later ledgers never fall behind an earlier one, and keep its names if it was not discarded. -/
structure Outlasts (later earlier : Ledger) : Prop where
  watermark : earlier.nextId.number ≤ later.nextId.number
  names : earlier.isStale = false → earlier.KeepsNames later

theorem Outlasts.trans_keepsNames {first second third : Ledger} (earlier : second.Outlasts first)
    (watermark : second.nextId.number ≤ third.nextId.number) (names : second.KeepsNames third) :
    third.Outlasts first :=
  ⟨UInt32.le_trans earlier.watermark watermark, fun standing => (earlier.names standing).trans names⟩

/-- A fresh start after a ledger that is discarded loses names of that one only: whatever came before
it and was not discarded had none. -/
theorem Outlasts.fresh {first second : Ledger} (earlier : second.Outlasts first)
    (sound : first.IsSound) (stale : second.isStale = true) : Ledger.fresh.Outlasts first := by
  have unissued := nextId_of_isStale stale
  have watermark := earlier.watermark
  rw [unissued] at watermark
  refine ⟨watermark, fun standing path record stored => ?_⟩
  have first_unissued : first.nextId = .baseline := by
    have same := UInt32.le_antisymm watermark sound.baseline_le
    cases number : first.nextId
    rw [number] at same
    exact congrArg ComponentId.mk same
  rw [identity?_of_not_isStale standing first_unissued] at stored
  cases stored

end Ledger

/-- The files that a history tells hold ledgers, each of which outlasts the earlier ones. -/
theorem History.ledgers {begins : Plan → FileSystem → Prop} {saved : List (Option ByteArray)}
    (history : History false begins saved) :
    ∃ ledgers : List Ledger, saved = ledgers.map Ledger.savedFile ∧
      ledgers.Pairwise Ledger.Outlasts ∧ ∀ ledger ∈ ledgers, ledger.IsSound := by
  induction history with
  | start => exact ⟨[], rfl, .nil, fun ledger member => (by cases member)⟩
  | failed earlier allowed finds run ih => exact ih
  | @succeeded plan reset before after saved report earlier allowed finds run ih =>
    obtain rfl : reset = false := History.reset_eq_false rfl allowed
    obtain ⟨ledgers, rfl, ordered, each⟩ := ih
    obtain ⟨course, reaches, -, -, read⟩ := Plan.course_of_run run
    have watermark := UInt32.le_iff_toNat_le.2 reaches.ids.2.1
    have start : ∀ ledger ∈ ledgers, course.outcome.ledger.Outlasts ledger := by
      cases ledgers with
      | nil => exact fun ledger member => (by cases member)
      | cons last others =>
        intro ledger member
        have lasting : last.Outlasts ledger := by
          rcases List.mem_cons.1 member with rfl | older
          · exact ⟨UInt32.le_refl _, fun _ => .refl ledger⟩
          · exact (List.pairwise_cons.1 ordered).1 ledger older
        rcases Plan.outcome_of_read (Plan.kept_eq_some_iff.1 finds) reaches.loaded with
          ⟨stale, outcome⟩ | ⟨-, -, outcome⟩
        · rw [outcome]
          exact lasting.fresh (each ledger member) stale
        · rw [outcome]
          exact lasting
    refine ⟨Plan.sealed course :: ledgers, ?_, List.pairwise_cons.2 ⟨?_, ordered⟩, ?_⟩
    · rw [List.map_cons, Plan.kept_eq_some_iff.2 read]
      rfl
    · exact fun ledger member => (start ledger member).trans_keepsNames watermark reaches.names
    · intro ledger member
      rcases List.mem_cons.1 member with rfl | older
      · exact reaches.isSound
      · exact each ledger older

namespace Plan

/-- A pass that succeeds leaves a file that the next one loads as it is, unless it has classes on record
and no id was ever issued; and over every sequence of passes a class keeps its record in all that is
saved later, once it is on record in a ledger that is not discarded. -/
theorem buildsUpon_saved {plan : Plan} {reset : Bool} {before after : Generator} {report : Report}
    (run : plan.run reset before = (.ok report, after)) :
    (∃ ledger, (plan.kept after.files).bind Ledger.ofBytes? = some ledger ∧
      ∀ later, plan.kept later = plan.kept after.files → plan.store.isReadOnly later = false →
        plan.store.load later = .ok (if ledger.isStale then .reset .stale else .loaded ledger)) ∧
      ∀ saved, History false (fun _ _ => True) saved →
        ∃ ledgers : List Ledger,
          saved.map (fun file => file.bind Ledger.ofBytes?) = ledgers.map some ∧
            ledgers.Pairwise fun later earlier => earlier.isStale = false →
              ∀ path record, earlier.identity? path = some record →
                later.identity? path = some record := by
  constructor
  · obtain ⟨course, reaches, -, -, read⟩ := course_of_run run
    have left := kept_eq_some_iff.2 read
    refine ⟨sealed course, ?_, fun later untouched writable => ?_⟩
    · rw [left, Option.bind_some, Ledger.ofBytes?_bytesOf]
    · exact reaches.load (kept_eq_some_iff.1 (untouched.trans left)) writable
  · intro saved history
    obtain ⟨ledgers, rfl, ordered, -⟩ := history.ledgers
    exact ⟨ledgers, Ledger.ofBytes?_savedFiles ledgers, ordered.imp fun lasting => lasting.names⟩

/-- The first pass of the project that grows leaves a class on record without an id, which the next load
discards; what the second one leaves is built upon. -/
theorem buildsUpon_saved_growing :
    (∃ first : Generator, announcing.kept first.files = Ledger.announced.savedFile ∧
      announcing.store.load first.files = .ok (.reset .stale)) ∧
    (∃ second : Generator, equipping.kept second.files = Ledger.equipped.savedFile ∧
      equipping.store.load second.files = .ok (.loaded .equipped)) ∧
    ∃ ledgers : List Ledger,
      [Ledger.refitted.savedFile, Ledger.equipped.savedFile, Ledger.announced.savedFile].map
          (fun file => file.bind Ledger.ofBytes?) = ledgers.map some ∧
        ledgers.Pairwise fun later earlier => earlier.isStale = false →
          ∀ path record, earlier.identity? path = some record →
            later.identity? path = some record := by
  obtain ⟨first, second, _, announced, equipped, refitted⟩ := exists_saves_growing
  have loads {plan : Plan} {before after : Generator} {outcome : LoadOutcome} {ledger : Ledger}
      (saves : plan.Saves before outcome ledger after)
      (writable : plan.store.isReadOnly after.files = false) :
      plan.store.load after.files = .ok (if ledger.isStale then .reset .stale else .loaded ledger) := by
    obtain ⟨report, run⟩ := saves.run
    obtain ⟨⟨other, stored, load⟩, -⟩ := buildsUpon_saved run
    rw [kept_eq_some_iff.2 saves.found, Option.bind_some, Ledger.ofBytes?_bytesOf,
      Option.some.injEq] at stored
    rw [stored]
    exact load after.files rfl writable
  refine ⟨⟨first, kept_eq_some_iff.2 announced.found, ?_⟩,
    ⟨second, kept_eq_some_iff.2 equipped.found, ?_⟩, ?_⟩
  · obtain ⟨_, next, -⟩ := equipped.reaches
    have stale : Ledger.announced.isStale = true := by decide +kernel
    rw [loads announced (isReadOnly_of_readLedger announced.found next.loaded), if_pos stale]
  · obtain ⟨_, next, -⟩ := refitted.reaches
    have standing : Ledger.equipped.isStale = false := by decide +kernel
    rw [loads equipped (isReadOnly_of_readLedger equipped.found next.loaded), standing,
      if_neg Bool.false_ne_true]
  · obtain ⟨_, run⟩ := announced.run
    exact (buildsUpon_saved run).2 _ (history_growing trivial)

end Plan

end ComponentSchema
