import ComponentSchema.Ledger.Integrity
import ComponentSchema.Proofs.Findings
import ComponentSchema.Proofs.Ledger.Keys
import ComponentSchema.Proofs.Repeats

/-!
What the integrity check of a ledger establishes.  A ledger that passes it has its watermark at or
above the baseline, every id below the watermark, no id on two keys and no schema name on two paths.
The walk over the ids recalls every id it met, and the walk over the classes every name, so the check
tells of each of these faults once.
-/

namespace ComponentSchema

namespace Ledger

/-- A ledger that hands out no id twice and no name twice. -/
structure IsSound (ledger : Ledger) : Prop where
  baseline_le : ComponentId.baseline.number ≤ ledger.nextId.number
  valid : ∀ key id, ledger.idOf? key = some id → id.isValid = true
  below : ∀ key id, ledger.idOf? key = some id → id.number < ledger.nextId.number
  distinct : ∀ key other id, ledger.idOf? key = some id → ledger.idOf? other = some id → key = other
  names : ∀ path other record namesake, ledger.identity? path = some record →
    ledger.identity? other = some namesake → record.schemaName = namesake.schemaName → path = other

theorem isSound_fresh : fresh.IsSound where
  baseline_le := UInt32.le_refl _
  valid key id stored := by
    rw [idOf?_fresh] at stored
    cases stored
  below key id stored := by
    rw [idOf?_fresh] at stored
    cases stored
  distinct key other id stored _ := by
    rw [idOf?_fresh] at stored
    cases stored
  names path other record namesake stored _ _ := by cases stored

def IsOutOfRange (watermark id : ComponentId) : Prop :=
  id.number = 0 ∨ watermark.number ≤ id.number

instance (watermark id : ComponentId) : Decidable (IsOutOfRange watermark id) :=
  inferInstanceAs (Decidable (_ ∨ _))

theorem isValid_iff {id : ComponentId} : id.isValid = true ↔ id.number ≠ 0 := by
  unfold ComponentId.isValid ComponentId.invalid
  rw [bne_iff_ne, Ne, Ne, not_congr]
  constructor
  · rintro rfl
    rfl
  · intro zero
    rw [← zero]

theorem not_isOutOfRange_iff {watermark id : ComponentId} :
    ¬IsOutOfRange watermark id ↔ id.isValid = true ∧ id.number < watermark.number := by
  unfold IsOutOfRange
  rw [not_or, UInt32.not_le, isValid_iff]

theorem length_rangeFaults (watermark id : ComponentId) :
    (rangeFaults watermark id).length = if IsOutOfRange watermark id then 1 else 0 := by
  unfold rangeFaults
  by_cases within : ¬IsOutOfRange watermark id
  · obtain ⟨valid, below⟩ := not_isOutOfRange_iff.1 within
    simp [within, valid, below]
  · rw [not_not] at within
    rw [if_pos within]
    by_cases valid : id.isValid = true
    · have beyond : watermark.number ≤ id.number := within.resolve_left (isValid_iff.1 valid)
      simp [valid, beyond]
    · simp [valid]

theorem length_idFaults (watermark : ComponentId) (owners : List (ComponentId × String)) :
    (idFaults watermark ∅ owners).length =
      owners.countP (fun owner => decide (IsOutOfRange watermark owner.1)) +
        repeats (owners.map Prod.fst) := by
  apply SortedMap.count_walk Prod.fst (fun owner => decide (IsOutOfRange watermark owner.1))
    fun seen owners => (idFaults watermark seen owners).length
  · exact fun _ => rfl
  · rintro seen ⟨id, owner⟩ rest
    rw [idFaults, List.length_append, List.length_map, length_rangeFaults]
    simp only [decide_eq_true_eq]
    cases known : seen.find? id with
    | some first =>
      refine ⟨seen, fun before recalls => recalls.again known, ?_⟩
      simp only [List.length_cons, Option.isSome_some, if_true]
      omega
    | none => exact ⟨seen.insert id owner, fun before recalls => recalls.insert id owner, rfl⟩

theorem length_nameFaults (classes : List (String × ClassRecord)) :
    (nameFaults ∅ classes).length = repeats (classes.map fun entry => entry.2.schemaName) := by
  have counted := SortedMap.count_walk (fun entry : String × ClassRecord => entry.2.schemaName)
    (fun _ => false) (fun seen classes => (nameFaults seen classes).length) (fun _ => rfl) ?_ classes
  · rw [List.countP_false, Function.const_apply, Nat.zero_add] at counted
    exact counted
  · rintro seen ⟨path, record⟩ rest
    refine ⟨seen.insert record.schemaName path, fun before recalls => recalls.insert _ path, ?_⟩
    rw [nameFaults, List.length_append]
    cases known : seen.find? record.schemaName with
    | some other => simp
    | none => simp

theorem length_watermarkFaults (watermark : ComponentId) :
    (watermarkFaults watermark).length =
      if watermark.number < ComponentId.baseline.number then 1 else 0 := by
  unfold watermarkFaults
  split <;> rfl

theorem size_integrityFindings (ledger : Ledger) :
    ledger.integrityFindings.size =
      (if ledger.nextId.number < ComponentId.baseline.number then 1 else 0) +
        (ledger.owners.countP (fun owner => decide (IsOutOfRange ledger.nextId owner.1)) +
          repeats (ledger.owners.map Prod.fst)) +
        repeats (ledger.classes.entries.map fun entry => entry.2.schemaName) := by
  unfold integrityFindings
  rw [Findings.size_foldl_addFor, Findings.size_foldl_add, Findings.size_empty, List.length_append,
    length_watermarkFaults, length_idFaults, length_nameFaults]
  omega

/-- A ledger passes the check exactly if its ids are in range, no id and no name comes twice, and its
watermark is not below the baseline. -/
theorem checkIntegrity_eq_ok_iff {ledger : Ledger} :
    ledger.checkIntegrity = .ok () ↔
      ((∀ owner ∈ ledger.owners,
          owner.1.isValid = true ∧ owner.1.number < ledger.nextId.number) ∧
        (ledger.owners.map Prod.fst).Nodup) ∧
        (ledger.classes.entries.map fun entry => entry.2.schemaName).Nodup ∧
          ComponentId.baseline.number ≤ ledger.nextId.number := by
  unfold checkIntegrity
  rw [Findings.conclude_eq_ok_iff, Findings.isEmpty_iff_size_eq_zero, size_integrityFindings,
    Nat.add_eq_zero_iff, Nat.add_eq_zero_iff, count_eq_zero_iff, repeats_eq_zero_iff, and_assoc,
    and_comm, and_assoc]
  simp only [decide_eq_false_iff_not, not_isOutOfRange_iff, ite_eq_right_iff, Nat.one_ne_zero,
    imp_false, UInt32.not_lt]

/-- Nothing is wrong with a ledger that passes the check. -/
theorem isSound_of_checkIntegrity {ledger : Ledger} (passed : ledger.checkIntegrity = .ok ()) :
    ledger.IsSound := by
  obtain ⟨⟨ranges, distinctIds⟩, distinctNames, watermark⟩ := checkIntegrity_eq_ok_iff.1 passed
  rw [owners_eq_assignments] at ranges distinctIds
  rw [List.map_map] at distinctIds
  have range (key : IdKey) (id : ComponentId) (stored : ledger.idOf? key = some id) :=
    ranges (id, key.owner) (List.mem_map.2 ⟨(key, id), mem_assignments.2 stored, rfl⟩)
  refine ⟨watermark, fun key id stored => (range key id stored).1,
    fun key id stored => (range key id stored).2, ?_, ?_⟩
  · intro key other id stored again
    have same := List.inj_on_of_nodup_map distinctIds (mem_assignments.2 stored)
      (mem_assignments.2 again) rfl
    exact congrArg Prod.fst same
  · intro path other record namesake stored again alike
    have same := List.inj_on_of_nodup_map distinctNames (SortedMap.find?_eq_some_iff.1 stored)
      (SortedMap.find?_eq_some_iff.1 again) alike
    exact congrArg Prod.fst same

/-- Nothing more is asked by the check. -/
theorem IsSound.checkIntegrity {ledger : Ledger} (sound : ledger.IsSound) :
    ledger.checkIntegrity = .ok () := by
  refine checkIntegrity_eq_ok_iff.2 ⟨⟨fun owner member => ?_, ?_⟩, ?_, sound.baseline_le⟩
  · rw [owners_eq_assignments] at member
    obtain ⟨⟨key, id⟩, assigned, rfl⟩ := List.mem_map.1 member
    have stored := mem_assignments.1 assigned
    exact ⟨sound.valid key id stored, sound.below key id stored⟩
  · rw [owners_eq_assignments, List.map_map]
    refine (ledger.nodup_assignments.of_map Prod.fst).map_on ?_
    rintro ⟨key, id⟩ assigned ⟨other, id'⟩ assigned' same
    obtain rfl : id = id' := same
    rw [sound.distinct key other id (mem_assignments.1 assigned) (mem_assignments.1 assigned')]
  · have entries : ledger.classes.entries.Nodup := (SortedMap.nodup_keys _).of_map Prod.fst
    refine entries.map_on ?_
    rintro ⟨path, record⟩ listed ⟨other, namesake⟩ listed' same
    have stored := SortedMap.find?_eq_some_iff.2 listed
    have stored' := SortedMap.find?_eq_some_iff.2 listed'
    obtain rfl := sound.names path other record namesake stored stored' same
    rw [Option.some.inj (stored.symm.trans stored')]

/-- The check passes exactly the sound ledgers.  On any other it reports a watermark below the baseline,
every assignment of an id out of range, every assignment of an id that an earlier one has, and every class
with a name that an earlier one has, each of them once. -/
theorem checkIntegrity_tells (ledger : Ledger) :
    (ledger.checkIntegrity = .ok () ↔ ledger.IsSound) ∧
      ∀ findings, ledger.checkIntegrity = .error findings →
        findings.size =
          (if ledger.nextId.number < ComponentId.baseline.number then 1 else 0) +
            ledger.assignments.countP
              (fun assigned => decide (IsOutOfRange ledger.nextId assigned.2)) +
            repeats (ledger.assignments.map Prod.snd) +
            repeats (ledger.classes.values.map ClassRecord.schemaName) := by
  refine ⟨⟨isSound_of_checkIntegrity, IsSound.checkIntegrity⟩, ?_⟩
  intro findings failed
  obtain ⟨-, rfl⟩ := Findings.conclude_eq_error_iff.1 failed
  have ranges : ledger.owners.countP (fun owner => decide (IsOutOfRange ledger.nextId owner.1)) =
      ledger.assignments.countP fun assigned => decide (IsOutOfRange ledger.nextId assigned.2) := by
    rw [owners_eq_assignments, List.countP_map]
    rfl
  have inOrder : ledger.owners.map Prod.fst = ledger.assignments.map Prod.snd := by
    rw [owners_eq_assignments, List.map_map]
    rfl
  have called : ledger.classes.entries.map (fun entry => entry.2.schemaName) =
      ledger.classes.values.map ClassRecord.schemaName := by
    unfold SortedMap.values
    rw [List.map_map]
    rfl
  rw [size_integrityFindings, ranges, inOrder, called, ← Nat.add_assoc]

end Ledger

end ComponentSchema
