import ComponentSchema.Proofs.History
import ComponentSchema.Proofs.Pass.Naming

/-!
Emission in the pass after one that succeeded.  Whether that pass loads the ledger that was saved or
discards it, it makes the same writes, issues no id, and comes to the same ledger.
-/

namespace ComponentSchema

open Emission

/-- The draft that no class was added to. -/
def Draft.ofLedger (ledger : Ledger) : Draft := { registry := .ofLedger ledger }

namespace Plan

/-- Emission in parts, once its names are known. -/
theorem emission_eq (plan : Plan) (ledger : Ledger) (classes : List Node) (levels : List Level) :
    plan.emission ledger classes levels = (do
      Draft.emitNamed plan.emitter ((Draft.ofLedger ledger).named classes)
      let levelComponents ← plan.emitter.emitLevels levels
      let distanceComponents ← plan.emitter.emitDistances
        (classes.foldl Draft.add (.ofLedger ledger)).distances
      pure (classes.foldl Draft.add (.ofLedger ledger), levelComponents, distanceComponents)) := by
  unfold emission Draft.ofLedger
  rw [Draft.emitAll_eq]
  simp only [bind_assoc, pure_bind]

variable {plan : Plan} {ledger : Ledger} {classes : List Node} {levels : List Level}
  {files final : FileSystem} {made : Draft × Nat × Nat} {after : Numbering}

theorem isSome_classKind?_of_emission (run : plan.emission ledger classes levels
      ⟨.ofLedger ledger, files⟩ = (.ok made, ⟨after, final⟩)) :
    ∀ node ∈ classes, node.classKind?.isSome = true := by
  rw [emission_eq] at run
  obtain ⟨_, between, emitted, -⟩ := Task.bind_eq_ok.1 run
  intro node member
  rw [← (Draft.ofLedger ledger).fst_named classes, List.mem_map] at member
  obtain ⟨entry, listed, rfl⟩ := member
  exact Draft.isSome_classKind?_of_emitNamed emitted entry listed

/-- Emission that succeeded makes the same writes again from every ledger that has its ids and
distances and gives the same names. -/
theorem emission_replays (run : plan.emission ledger classes levels ⟨.ofLedger ledger, files⟩ =
      (.ok made, ⟨after, final⟩)) {records : List (String × ClassRecord)}
    (recorded : Draft.records ((Draft.ofLedger ledger).named classes) = records) :
    after.ledger.classes = ((Numbering.ofLedger ledger).recordAll records).ledger.classes ∧
      ∃ writes, Performs (plan.emission ledger classes levels) (.ofLedger ledger) made after writes ∧
        ∀ other : Ledger, after.ledger.KeepsIds other → other.distances = after.ledger.distances →
          (Draft.ofLedger other).named classes = (Draft.ofLedger ledger).named classes →
            ∃ made, Performs (plan.emission other classes levels) (.ofLedger other) made
              ((Numbering.ofLedger other).recordAll records) writes := by
  rw [emission_eq] at run ⊢
  obtain ⟨_, ⟨first, middle⟩, emitted, run⟩ := Task.bind_eq_ok.1 run
  obtain ⟨levelCount, ⟨second, later⟩, levelled, run⟩ := Task.bind_eq_ok.1 run
  obtain ⟨count, ⟨third, last⟩, distanced, run⟩ := Task.bind_eq_ok.1 run
  cases run
  have naming := Draft.emitNamed_steady plan.emitter ((Draft.ofLedger ledger).named classes)
  have levelling := plan.emitter.emitLevels_steady levels
  rw [recorded] at naming
  obtain ⟨classes₁, writes₁, performs₁, again₁⟩ := naming.replays emitted
  obtain ⟨classes₂, writes₂, performs₂, again₂⟩ := levelling.replays levelled
  obtain ⟨classes₃, writes₃, performs₃, again₃⟩ := Emitter.emitDistances_replays distanced
  have later : second.ledger.KeepsIds after.ledger :=
    ((plan.emitter.allows_extends.emitDistances _).of_eq distanced).ids
  have earlier : first.ledger.KeepsIds after.ledger :=
    (levelling.extends_.of_eq levelled).ids.trans later
  refine ⟨classes₃.trans (classes₂.trans classes₁), writes₁ ++ (writes₂ ++ (writes₃ ++ [])),
    performs₁.bind (performs₂.bind (performs₃.bind (.pure _ after))), ?_⟩
  intro other known distances names
  have kept : after.ledger.KeepsIds ((Numbering.ofLedger other).recordAll records).ledger := by
    intro key id stored
    rw [Numbering.idOf?_recordAll]
    exact known key id stored
  have same : ((Numbering.ofLedger other).recordAll records).ledger.distances =
      after.ledger.distances := by
    rw [← distances, Numbering.recordAll_eq]
    rfl
  have seen : (classes.foldl Draft.add (.ofLedger other)).distances =
      (classes.foldl Draft.add (.ofLedger ledger)).distances := by
    rw [Draft.distances_foldl_add, Draft.distances_foldl_add]
    rfl
  rw [emission_eq, names, seen]
  refine ⟨(classes.foldl Draft.add (.ofLedger other), levelCount, count), ?_⟩
  refine (again₁ _ (earlier.trans known)).bind ((again₂ _ (later.trans kept)).bind ?_)
  exact (again₃ _ kept same).bind (.pure _ _)

/-- What emission puts on record are the names of its classes. -/
theorem identity?_of_emission (run : plan.emission ledger classes levels ⟨.ofLedger ledger, files⟩ =
      (.ok made, ⟨after, final⟩)) (path : String) :
    after.ledger.identity? path = ((Numbering.ofLedger ledger).recordAll (Draft.records
      ((Draft.ofLedger ledger).named classes))).ledger.identity? path := by
  obtain ⟨recorded, -⟩ := emission_replays run rfl
  unfold Ledger.identity?
  rw [recorded]

/-- What is saved depends on the ids and names on record and on the watermark only. -/
theorem sealLedger_congr {first second : Numbering}
    (classes : first.ledger.classes = second.ledger.classes)
    (ids : ∀ key, first.ledger.idOf? key = second.ledger.idOf? key)
    (next : first.supply.next = second.supply.next) (hash : UInt64) :
    sealLedger first hash = sealLedger second hash := by
  obtain ⟨components, levels, distances⟩ := Ledger.maps_eq_of_idOf? ids
  unfold sealLedger Numbering.settle Ledger.rebuildIndex Ledger.owners
  rw [classes, components, levels, distances, next]

variable {reset : Bool} {queue : Option CandidateQueue} {course : Course}

/-- Emission in the next pass, from whichever ledger it starts. -/
def EmitsAgain (plan : Plan) (course : Course) (outcome : LoadOutcome) : Prop :=
  ∃ writes made numbering,
    Performs (plan.emission course.outcome.ledger course.discovery.classes course.levels)
        (.ofLedger course.outcome.ledger) course.made course.numbering writes ∧
      Performs (plan.emission outcome.ledger course.discovery.classes course.levels)
        (.ofLedger outcome.ledger) made numbering writes ∧
      numbering.supply.issued = 0 ∧
      ∀ hash, sealLedger numbering hash = sealLedger course.numbering hash

/-- The pass that loads the ledger finds every name and every id on record. -/
theorem ReachesCompiling.emitsAgain_loaded
    (reaches : plan.ReachesCompiling reset queue files course) :
    plan.EmitsAgain course (.loaded (sealed course)) := by
  obtain ⟨-, writes, performs, again⟩ := emission_replays reaches.emits rfl
  have names : (Draft.ofLedger (sealed course)).named course.discovery.classes =
      (Draft.ofLedger course.outcome.ledger).named course.discovery.classes := by
    refine Draft.named_eq (.ofLedger course.outcome.ledger)
      (isSome_classKind?_of_emission reaches.emits) (NameRegistry.agrees_ofLedger _)
        (NameRegistry.agrees_ofLedger _) fun path record stored => ?_
    exact (identity?_of_emission reaches.emits path).trans stored
  have known : course.numbering.ledger.KeepsIds (sealed course) := by
    intro key id stored
    rw [idOf?_sealed]
    exact stored
  obtain ⟨made, performs'⟩ := again (sealed course) known rfl names
  rw [Numbering.recordAll_of_identity?] at performs'
  · refine ⟨writes, made, .ofLedger (sealed course), performs, performs', rfl, fun hash => ?_⟩
    exact sealLedger_congr rfl (idOf?_sealed course) rfl hash
  · intro entry member
    obtain ⟨record, stored⟩ :=
      Numbering.identity?_recordAll (.ofLedger course.outcome.ledger) member
    exact ⟨record, (identity?_of_emission reaches.emits entry.1).trans stored⟩

/-- The pass that discards the ledger starts like the one that saved it: there was neither a name nor
an id on record, and none was issued. -/
theorem ReachesSaving.emitsAgain_stale (reaches : plan.ReachesSaving reset queue files course)
    (issued : course.outcome.ledger.IsIssued) (stale : (sealed course).isStale = true) :
    plan.EmitsAgain course (.reset .stale) := by
  obtain ⟨precedes, issued'⟩ := reaches.precedes issued
  have unissued := Ledger.nextId_of_isStale stale
  have none (key : IdKey) : course.numbering.ledger.idOf? key = Ledger.fresh.idOf? key := by
    rw [Ledger.idOf?_fresh, ← idOf?_sealed, issued'.idOf?_of_isStale stale]
  have unnamed : course.outcome.ledger.classes = Ledger.fresh.classes := by
    have watermark := precedes.watermark
    rw [unissued] at watermark
    have unissued' : course.outcome.ledger.nextId = .baseline := by
      have same := UInt32.le_antisymm watermark (UInt32.le_iff_toNat_le.2 issued.baseline_le)
      cases number : course.outcome.ledger.nextId
      rw [number] at same
      exact congrArg ComponentId.mk same
    exact SortedMap.ext_find? fun path => Ledger.identity?_of_not_isStale
      (isStale_of_readLedger reaches.loaded) unissued' path
  have names : (Draft.ofLedger .fresh).named course.discovery.classes =
      (Draft.ofLedger course.outcome.ledger).named course.discovery.classes := by
    unfold Draft.ofLedger NameRegistry.ofLedger
    rw [unnamed]
  obtain ⟨recorded, writes, performs, again⟩ := emission_replays reaches.emits rfl
  have known : course.numbering.ledger.KeepsIds .fresh := fun key id stored => none key ▸ stored
  obtain ⟨made, performs'⟩ := again .fresh known (Ledger.maps_eq_of_idOf? none).2.2.symm names
  refine ⟨writes, made, _, performs, performs', ?_, fun hash => sealLedger_congr ?_ ?_ ?_ hash⟩
  · rw [Numbering.recordAll_eq]
    rfl
  · rw [recorded]
    exact Numbering.classes_recordAll_congr unnamed.symm _
  · intro key
    rw [Numbering.idOf?_recordAll, none]
    rfl
  · rw [Numbering.recordAll_eq]
    exact unissued.symm

end Plan

end ComponentSchema
