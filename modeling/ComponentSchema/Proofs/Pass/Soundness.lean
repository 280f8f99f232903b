import ComponentSchema.Proofs.Distinctness
import ComponentSchema.Proofs.Ledger.Saving
import ComponentSchema.Proofs.NameRegistry

/-!
Passes never come to an inconsistent ledger.  Whatever ledger passed the check, or a fresh one, still
passes it once classes are named and ids are issued, so the check before the ledger is saved never fails.
Once its classes are valid, all that can stop a pass are files, the end of the id space, and the compiler.
-/

namespace ComponentSchema

namespace Ledger

/-- No two classes are on record under one name. -/
def NamesOnce (ledger : Ledger) : Prop :=
  ∀ path other record namesake, ledger.identity? path = some record →
    ledger.identity? other = some namesake → record.schemaName = namesake.schemaName → path = other

/-- No two classes are on record under names with one key. -/
def NamesOnceBy (key : String → String) (ledger : Ledger) : Prop :=
  ∀ path other record namesake, ledger.identity? path = some record →
    ledger.identity? other = some namesake → key record.schemaName = key namesake.schemaName →
      path = other

end Ledger

section

variable {key : String → String} (finer : ∀ name other, key name = key other → foldCase name = foldCase other)

include finer

/-- The step: a new class is given a name that is free, and those on record are all in use.  Names in use
are told apart up to case, so the key may forget no more than that. -/
theorem NameRegistry.namesOnceBy_resolve {registry : NameRegistry} {ledger : Ledger}
    (agrees : registry.Agrees ledger) (covers : registry.Covers) (once : ledger.NamesOnceBy key)
    (path raw : String) (kind : ClassKind) :
    (ledger.recordIdentity path (registry.resolve path raw).1 kind).NamesOnceBy key := by
  have apart {other : String} {namesake : ClassRecord} (stored : ledger.identity? other = some namesake)
      (same : key ((ledger.identity? path).getD ⟨(registry.resolve path raw).1, kind⟩).schemaName =
        key namesake.schemaName) : path = other := by
    cases known : ledger.identity? path with
    | some record =>
      rw [known, Option.getD_some] at same
      exact once path other record namesake known stored same
    | none =>
      rw [known, Option.getD_none] at same
      have taken : registry.isTaken namesake.schemaName = true :=
        covers other _ (by rw [agrees, stored, Option.map_some])
      cases registry.gives_resolve path raw with
      | known has =>
        rw [agrees, known] at has
        cases has
      | new lacks free plain =>
        rw [NameRegistry.isTaken_congr (finer _ _ same), taken] at free
        cases free
  intro first second record namesake stored stored' same
  rw [Ledger.identity?_recordIdentity] at stored stored'
  split at stored
  next here =>
    obtain rfl := Option.some.inj stored
    split at stored'
    next there => rw [here, there]
    next => exact here.trans (apart stored' same)
  next =>
    split at stored'
    next there =>
      obtain rfl := Option.some.inj stored'
      exact (there.trans (apart stored same.symm)).symm
    next => exact once first second record namesake stored stored' same

/-- The run: so it is once all classes of a pass are named. -/
theorem Draft.namesOnceBy_recordAll {draft : Draft} {nodes : List Node} (numbering : Numbering)
    (classes : ∀ node ∈ nodes, node.classKind?.isSome = true)
    (agrees : draft.registry.Agrees numbering.ledger) (covers : draft.registry.Covers)
    (once : numbering.ledger.NamesOnceBy key) :
    (numbering.recordAll (records (draft.named nodes))).ledger.NamesOnceBy key := by
  induction nodes generalizing draft numbering with
  | nil => exact once
  | cons node rest ih =>
    obtain ⟨kind, isClass⟩ := Option.isSome_iff_exists.1 (classes node List.mem_cons_self)
    rw [recordAll_named_cons numbering draft rest isClass]
    exact ih _ (fun other member => classes other (List.mem_cons_of_mem _ member))
      (agrees.resolve node.path node.name kind) (covers.resolve node.path node.name)
      (NameRegistry.namesOnceBy_resolve finer agrees covers once node.path node.name kind)

end

/-- Names on record stay apart to the letter. -/
theorem Draft.namesOnce_recordAll {draft : Draft} {nodes : List Node} (numbering : Numbering)
    (classes : ∀ node ∈ nodes, node.classKind?.isSome = true)
    (agrees : draft.registry.Agrees numbering.ledger) (covers : draft.registry.Covers)
    (once : numbering.ledger.NamesOnce) :
    (numbering.recordAll (records (draft.named nodes))).ledger.NamesOnce :=
  namesOnceBy_recordAll (fun _ _ => congrArg foldCase) numbering classes agrees covers once

namespace Plan

variable {plan : Plan} {reset : Bool} {queue : Option CandidateQueue} {files final : FileSystem}
  {course : Course}

/-- Emission leads from a sound ledger to a sound one, whatever it emits. -/
theorem isSound_of_emission {ledger : Ledger} {classes : List Node} {levels : List Level}
    {made : Draft × Nat × Nat} {after : Numbering} (sound : ledger.IsSound)
    (run : plan.emission ledger classes levels ⟨.ofLedger ledger, files⟩ =
      (.ok made, ⟨after, final⟩)) (hash : UInt64) : (sealLedger after hash).IsSound := by
  have step : (Numbering.ofLedger ledger).Extends after :=
    (plan.emitter.allows_extends.emission ledger classes levels).of_eq run
  obtain ⟨issues, -⟩ := emission_issues_takes run
  have ids (key : IdKey) : (sealLedger after hash).idOf? key = after.ledger.idOf? key := by
    cases key <;> rfl
  have start : ComponentId.baseline.number.toNat ≤ ledger.nextId.number.toNat :=
    UInt32.le_iff_toNat_le.1 sound.baseline_le
  have grown : ledger.nextId.number.toNat ≤ after.supply.next.number.toNat := step.supply
  -- an id of the later ledger was there before, or it comes from between the two watermarks
  have origin {key : IdKey} {id : ComponentId} (stored : after.ledger.idOf? key = some id) :
      ledger.idOf? key = some id ∨ ledger.nextId.number.toNat ≤ id.number.toNat ∧
        id.number.toNat < after.supply.next.number.toNat := by
    cases known : ledger.idOf? key with
    | some old => exact .inl ((step.ids key old known).symm.trans stored)
    | none => exact .inr (step.added key id stored known)
  constructor
  · exact UInt32.le_iff_toNat_le.2 (start.trans grown)
  · intro key id stored
    rw [ids] at stored
    rcases origin stored with old | ⟨low, -⟩
    · exact sound.valid key id old
    · unfold ComponentId.isValid
      rw [bne_iff_ne]
      rintro rfl
      exact absurd (start.trans low) (by decide)
  · intro key id stored
    rw [ids] at stored
    rcases origin stored with old | ⟨-, high⟩
    · exact UInt32.lt_of_lt_of_le (sound.below key id old) (UInt32.le_iff_toNat_le.2 grown)
    · exact UInt32.lt_iff_toNat_lt.2 high
  · intro key other id stored stored'
    rw [ids] at stored stored'
    exact issues.distinct
      (fun key id known => UInt32.lt_iff_toNat_lt.1 (sound.below key id known))
      sound.distinct stored stored'
  · have agrees : (Draft.ofLedger ledger).registry.Agrees ledger :=
      NameRegistry.agrees_ofLedger ledger
    have once := Draft.namesOnce_recordAll (.ofLedger ledger) (isSome_classKind?_of_emission run)
      agrees (NameRegistry.covers_ofLedger ledger) sound.names
    intro path other record namesake stored stored'
    have before (path : String) := (identity?_of_emission run path).symm
    exact once path other record namesake ((before path).trans stored) ((before other).trans stored')

theorem ReachesCompiling.isSound (reaches : plan.ReachesCompiling reset queue files course)
    (hash : UInt64) : (sealLedger course.numbering hash).IsSound :=
  isSound_of_emission (isSound_of_readLedger reaches.loaded) reaches.emits hash

end Plan

/-- What stops emission from outside: files, and the end of the id space. -/
def EmissionError.IsOutside : EmissionError → Prop
  | .file _ | .ids _ => True
  | .notAClass _ => False

/-- What stops a pass from outside: that, the compiler, and the file of the ledger. -/
def PassError.IsOutside : PassError → Prop
  | .emission error => error.IsOutside
  | .compilation _ | .missingDescriptor _ _ => True
  | .persist (.readOnly _) | .persist (.file _) => True
  | _ => False

namespace Emission

variable {α β : Type}

def IsStoppedOutside (work : Emission α) : Prop :=
  ∀ before error after, work before = (.error error, after) → error.IsOutside

namespace IsStoppedOutside

theorem pure (value : α) : IsStoppedOutside (pure value) := by
  intro before error after stopped
  cases stopped

theorem bind {work : Emission α} {next : α → Emission β} (first : IsStoppedOutside work)
    (second : ∀ value, IsStoppedOutside (next value)) : IsStoppedOutside (work >>= next) := by
  intro before error after stopped
  rcases Task.bind_eq_error.1 stopped with stopped | ⟨value, between, -, stopped⟩
  · exact first before error after stopped
  · exact second value between error after stopped

theorem number (work : Numbered α) : IsStoppedOutside (number work) := by
  intro before error after stopped
  unfold Emission.number at stopped
  split at stopped
  next => cases stopped
  next =>
    cases stopped
    trivial

theorem file (work : FileTask α) : IsStoppedOutside (file work) := by
  intro before error after stopped
  unfold Emission.file at stopped
  split at stopped
  next => cases stopped
  next =>
    cases stopped
    trivial

theorem writeFile (emitter : Emitter) (location : List String) (content : SchemaFile)
    (action : String) : IsStoppedOutside (emitter.writeFile location content action) :=
  (file _).bind fun _ => .pure _

theorem emitUnder (emitter : Emitter) {entry : Node × String}
    (isClass : entry.1.classKind?.isSome = true) :
    IsStoppedOutside (Draft.emitUnder emitter entry) := by
  obtain ⟨kind, isKind⟩ := Option.isSome_iff_exists.1 isClass
  unfold Draft.emitUnder Emitter.emitClass
  rw [isKind]
  refine (number _).bind fun _ => ?_
  refine IsStoppedOutside.bind ?_ fun _ => .pure _
  exact (number _).bind fun content => writeFile _ _ _ _

theorem emitNamed (emitter : Emitter) {named : List (Node × String)}
    (classes : ∀ entry ∈ named, entry.1.classKind?.isSome = true) :
    IsStoppedOutside (Draft.emitNamed emitter named) := by
  induction named with
  | nil => exact .pure ()
  | cons entry rest ih =>
    refine (emitUnder emitter (classes entry List.mem_cons_self)).bind fun _ => ?_
    exact ih fun other member => classes other (List.mem_cons_of_mem _ member)

theorem emission (plan : Plan) (ledger : Ledger) {classes : List Node} (levels : List Level)
    (areClasses : ∀ node ∈ classes, node.classKind?.isSome = true) :
    IsStoppedOutside (plan.emission ledger classes levels) := by
  rw [Plan.emission_eq]
  refine (emitNamed plan.emitter fun entry member => areClasses entry.1 ?_).bind fun _ => ?_
  · rw [← (Draft.ofLedger ledger).fst_named classes]
    exact List.mem_map_of_mem member
  · refine IsStoppedOutside.bind ?_ fun levelComponents => ?_
    · exact (number _).bind fun content => (writeFile _ _ _ _).bind fun _ => .pure _
    · refine IsStoppedOutside.bind ?_ fun distanceComponents => .pure _
      exact (number _).bind fun content => (writeFile _ _ _ _).bind fun _ => .pure _

end IsStoppedOutside

end Emission

namespace Plan

variable {plan : Plan} {reset : Bool} {queue : Option CandidateQueue} {files after : FileSystem}
  {error : PassError}

/-- A pass that fails is stopped from outside exactly if its classes were valid. -/
theorem Ends.isOutside_iff (ends : plan.Ends reset queue files (.error error) after) :
    error.IsOutside ↔ ∃ course, plan.ReachesEmitting reset queue files course := by
  cases ends with
  | settings invalid =>
    refine iff_of_false id fun ⟨course, reaches⟩ => ?_
    cases reaches.valid.symm.trans invalid
  | load _ refused =>
    refine iff_of_false id fun ⟨course, reaches⟩ => ?_
    cases reaches.loaded.symm.trans refused
  | source _ failed =>
    refine iff_of_false id fun ⟨course, reaches⟩ => ?_
    cases reaches.discovered.symm.trans failed
  | validation _ discovered rejected =>
    refine iff_of_false id fun ⟨course, reaches⟩ => ?_
    exact reaches.not_rejected discovered rejected
  | preparation reaches _ => exact iff_of_true trivial ⟨_, reaches⟩
  | @emission course error workshop reaches _ failed =>
    refine iff_of_true ?_ ⟨_, reaches⟩
    have faultless := (Validation.check_eq_ok_iff.1 reaches.validated).1.1
    exact Emission.IsStoppedOutside.emission plan course.outcome.ledger course.levels
      (fun node member => Validation.isSome_classKind?_of_nodeFaults (faultless node member))
      _ _ _ failed
  | compilation reaches _ => exact iff_of_true trivial ⟨_, reaches.toReachesEmitting⟩
  | descriptor reaches _ => exact iff_of_true trivial ⟨_, reaches.toReachesEmitting⟩
  | @corrupt course findings bytes reaches _ unsound =>
    have passed := (reaches.isSound (contentHash bytes)).checkIntegrity
    rw [unsound] at passed
    cases passed
  | save reaches failed =>
    refine iff_of_true ?_ ⟨_, reaches.toReachesEmitting⟩
    rcases LedgerStore.error_of_save failed with rfl | ⟨failure, rfl⟩
    · trivial
    · trivial

theorem Ends.stage_of_not_isOutside (ends : plan.Ends reset queue files (.error error) after)
    (inside : ¬error.IsOutside) : error.stage ∈ [.idle, .loading, .discovering, .validating] := by
  have outside (course : Course) (reaches : plan.ReachesEmitting reset queue files course) :
      error.stage ∈ [.idle, .loading, .discovering, .validating] :=
    absurd (ends.isOutside_iff.2 ⟨course, reaches⟩) inside
  cases ends with
  | settings _ | load _ _ | source _ _ | validation _ _ _ => simp [PassError.stage]
  | preparation reaches _ | emission reaches _ _ => exact outside _ reaches
  | compilation reaches _ => exact outside _ reaches.toReachesEmitting
  | descriptor reaches _ => exact outside _ reaches.toReachesEmitting
  | corrupt reaches _ _ => exact outside _ reaches.toReachesEmitting
  | save reaches _ => exact outside _ reaches.toReachesEmitting

/-- The check before the ledger is saved never fails.  Whatever a pass emits leads to a ledger that
passes it, and a pass whose classes are valid fails because of files, the end of the id space, or the
compiler, and for no other reason. -/
theorem isSound_isOutside_of_run (plan : Plan) (reset : Bool) (before : Generator) :
    (∀ course hash, plan.ReachesCompiling reset before.queue before.files course →
      (sealLedger course.numbering hash).IsSound ∧
        (sealLedger course.numbering hash).checkIntegrity = .ok ()) ∧
    ∀ error after, plan.run reset before = (.error error, after) →
      (error.IsOutside ↔
        ∃ course, plan.ReachesEmitting reset before.queue before.files course) ∧
      (∀ path, error ≠ .emission (.notAClass path)) ∧
      ∀ path findings, error ≠ .persist (.corrupt path findings) := by
  constructor
  · intro course hash reaches
    exact ⟨reaches.isSound hash, (reaches.isSound hash).checkIntegrity⟩
  · intro error after run
    have ends := ends_of_run run
    refine ⟨ends.isOutside_iff, ?_, ?_⟩
    · rintro path rfl
      exact absurd (ends.stage_of_not_isOutside id) (by simp [PassError.stage])
    · rintro path findings rfl
      exact absurd (ends.stage_of_not_isOutside id) (by simp [PassError.stage])

/-- The small project with a compiler that accepts nothing. -/
def rejecting : Plan :=
  { small with compiler := fun _ files => { result := .error (.failed (some 1) ⟨"", "rejected"⟩), files } }

theorem rejecting_fails : (rejecting.run false {}).1.isOk = false := by decide +kernel

theorem isSound_isOutside_of_run_rejecting :
    ∃ course error after, rejecting.ReachesCompiling false none ∅ course ∧
      rejecting.run false {} = (.error error, after) ∧
      (∀ hash, (sealLedger course.numbering hash).IsSound) ∧ error.IsOutside := by
  obtain ⟨course, reaches⟩ := small_reachesCompiling
  have again : rejecting.ReachesCompiling false none ∅ course :=
    ⟨⟨reaches.valid, reaches.loaded, reaches.discovered, reaches.validated⟩, reaches.prepares,
      reaches.emits⟩
  have fails := rejecting_fails
  obtain ⟨sound, outside⟩ := isSound_isOutside_of_run rejecting false {}
  rcases run : rejecting.run false {} with ⟨error | report, after⟩
  · refine ⟨course, error, after, again, rfl, fun hash => (sound course hash again).1, ?_⟩
    exact (outside error after run).1.2 ⟨course, again.toReachesEmitting⟩
  · rw [run] at fails
    cases fails

end Plan

end ComponentSchema
