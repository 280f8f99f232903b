import ComponentSchema.Proofs.History
import ComponentSchema.Proofs.Pass.Candidates
import ComponentSchema.Proofs.Pass.Content
import ComponentSchema.Proofs.Schema.Levels

/-!
The ids that a pass issues, as one list.  A graph calls for keys in an order of its own: class by class
in path order, then the levels by name and path, then the cull distances from the smallest on.  A pass
keeps whatever the ledger has, and the keys of this list that the ledger lacks get the ids from the
watermark on, in the order in which they come first.
-/

namespace ComponentSchema

/-- The keys that a graph calls for, in their order. -/
def IdKey.ofGraph (slots : Nat) (classes : List Node) (levels : List Level) : List IdKey :=
  (Candidates.sorted classes).flatMap (Node.keys slots) ++
    (((Level.inOrder levels).map fun level => .level level.path) ++
      (SortedSet.ofList (classes.filterMap Node.cullDistance?)).keys.map .distance)

namespace Ledger

/-- A ledger gains the identities of some class paths and the ids of some keys.  What it had is there
unchanged, the paths and keys it lacked are all that is added, and the keys among them are numbered from
the watermark on without a gap. -/
structure Gains (before : Ledger) (paths : List String) (keys : List IdKey) (after : Ledger) :
    Prop where
  names : before.KeepsNames after
  named : ∀ path, before.identity? path = none →
    ((after.identity? path).isSome = true ↔ path ∈ paths)
  ids : before.KeepsIds after
  numbered : ∀ place key, (before.newKeys keys)[place]? = some key →
    ∃ id, after.idOf? key = some id ∧ id.number.toNat = before.nextId.number.toNat + place
  others : ∀ key, before.idOf? key = none → key ∉ keys → after.idOf? key = none
  watermark : after.nextId.number.toNat =
    before.nextId.number.toNat + (before.newKeys keys).length

end Ledger

/-- Where no path is listed twice, the keys of the levels come in the order of the levels. -/
theorem LevelFile.keys_outlines {levels : List Level} (distinct : (levels.map Level.path).Nodup) :
    (outlines levels).map Outline.key =
      (Level.inOrder levels).map fun level => .level level.path := by
  have paths := congrArg (List.map IdKey.level) (paths_names_eq distinct)
  rw [List.map_map, List.map_map] at paths
  unfold outlines
  rw [List.map_map]
  exact paths

namespace Plan

variable {plan : Plan} {reset : Bool} {queue : Option CandidateQueue} {files : FileSystem}
  {course : Course}

theorem pairwise_classes_of_discovered {discovery : Discovery} {levels : List Level}
    (discovered : plan.discovered queue = .ok (discovery, levels)) :
    discovery.classes.Pairwise fun first second =>
      (compareOn Node.path first second).isLE = true := by
  unfold Plan.discovered at discovered
  cases loaded : plan.source.classes with
  | error error =>
    rw [loaded] at discovered
    cases discovered
  | ok classes =>
    cases listed : plan.source.levels with
    | error error =>
      rw [loaded, listed] at discovered
      cases discovered
    | ok all =>
      rw [loaded, listed] at discovered
      cases discovered
      exact Candidates.pairwise_classes_discover ..

/-- A pass asks for the keys of its graph, in their order. -/
theorem ReachesEmitting.askedKeys_eq (reaches : plan.ReachesEmitting reset queue files course) :
    plan.askedKeys course =
      IdKey.ofGraph plan.emitter.slots.toNat course.discovery.classes course.levels := by
  have classes : Candidates.sorted course.discovery.classes = course.discovery.classes :=
    List.mergeSort_of_pairwise (pairwise_classes_of_discovered reaches.discovered)
  have distinct := (Validation.check_eq_ok_iff.1 reaches.validated).2.2
  have levels := LevelFile.keys_outlines distinct
  have distances : (course.discovery.classes.foldl Draft.add
      (.ofLedger course.outcome.ledger)).distances =
        SortedSet.ofList (course.discovery.classes.filterMap Node.cullDistance?) := by
    rw [Draft.distances_foldl_add, SortedSet.ofList, SortedMap.ofList, List.foldl_map]
    rfl
  unfold askedKeys IdKey.ofGraph
  rw [classes, levels, distances]

/-- Emitting extends the ledger by what its graph calls for, and numbers the new keys in the order of the
graph; the report counts them. -/
theorem ReachesCompiling.gains (reaches : plan.ReachesCompiling reset queue files course) :
    course.outcome.ledger.Gains (course.discovery.classes.map Node.path)
        (IdKey.ofGraph plan.emitter.slots.toNat course.discovery.classes course.levels)
        course.numbering.settle ∧
      (report course).newIds = (course.outcome.ledger.newKeys
        (IdKey.ofGraph plan.emitter.slots.toNat course.discovery.classes course.levels)).length := by
  obtain ⟨issues, -⟩ := reaches.issues_takes
  rw [reaches.askedKeys_eq] at issues
  obtain ⟨recorded, -⟩ := emission_replays reaches.emits rfl
  have identity? (path : String) : course.numbering.settle.identity? path =
      ((Numbering.ofLedger course.outcome.ledger).recordAll (Draft.records
        ((Draft.ofLedger course.outcome.ledger).named
          course.discovery.classes))).ledger.identity? path := by
    unfold Ledger.identity?
    rw [← recorded]
    rfl
  have paths : (Draft.records ((Draft.ofLedger course.outcome.ledger).named
      course.discovery.classes)).map Prod.fst = course.discovery.classes.map Node.path := by
    rw [Draft.fst_records reaches.isSome_classKind?, Draft.fst_named]
  refine ⟨⟨reaches.names, ?_, ?_, ?_, ?_, issues.next⟩, ?_⟩
  · -- nothing but the classes that are emitted is put on record
    intro path unknown
    rw [identity?, ← paths]
    constructor
    · intro known
      by_contra unlisted
      rw [Numbering.identity?_recordAll_of_notMem _ unlisted] at known
      rw [show (Numbering.ofLedger course.outcome.ledger).ledger = course.outcome.ledger from rfl,
        unknown] at known
      cases known
    · intro listed
      obtain ⟨entry, member, rfl⟩ := List.mem_map.1 listed
      obtain ⟨record, stored⟩ := Numbering.identity?_recordAll _ member
      rw [stored]
      rfl
  · intro key id stored
    rw [Numbering.idOf?_settle]
    exact issues.kept key id stored
  · intro place key found
    rw [Numbering.idOf?_settle]
    exact issues.numbered place key found
  · intro key fresh unasked
    rw [Numbering.idOf?_settle]
    exact issues.others key fresh unasked
  · exact issues.issued.trans (Nat.zero_add _)

theorem ReachesCompiling.gains_refitting :
    ∃ files course, refitting.ReachesCompiling false none files course ∧
      course.outcome = .loaded .equipped ∧ sealed course = .refitted ∧
      course.outcome.ledger.Gains (course.discovery.classes.map Node.path)
          (IdKey.ofGraph refitting.emitter.slots.toNat course.discovery.classes course.levels)
          course.numbering.settle ∧
        (report course).newIds = (course.outcome.ledger.newKeys
          (IdKey.ofGraph refitting.emitter.slots.toNat course.discovery.classes
            course.levels)).length := by
  obtain ⟨_, second, _, -, -, refitted⟩ := exists_saves_growing
  obtain ⟨course, reaches, start, saved⟩ := refitted.reaches
  have compiles := reaches.toReachesCompiling
  exact ⟨second.files, course, compiles, start, saved, ReachesCompiling.gains compiles⟩

end Plan

end ComponentSchema
