import ComponentSchema.Proofs.Pass.Repeating
import ComponentSchema.Proofs.Schema.Content

/-!
What a pass writes and which ids it asks for.  All files that the emitting stage makes are a function of
the ledger it leads to, and the keys it asks for are those of the classes, the levels and the cull
distances in this order.
-/

namespace ComponentSchema

open Emission

namespace Draft

/-- The files of classes under given names, each with its location. -/
def entries (emitter : Emitter) (ledger : Ledger) (named : List (Node × String)) :
    List (List String × SchemaFile) :=
  named.filterMap fun entry =>
    entry.1.classKind?.map fun kind => emitter.classEntry ledger kind entry.2 entry.1

theorem record_emits (path : String) (record : ClassRecord) :
    Emits [] (fun _ => []) (fun _ => ()) (Emission.number (modify fun numbering =>
      numbering.recordIdentity path record.schemaName record.kind)) := by
  refine .number fun before after value run => ?_
  cases run
  exact ⟨.recordIdentity .., fun _ _ => rfl⟩

theorem emitUnder_emits (emitter : Emitter) (entry : Node × String) :
    Emits (entry.1.keys emitter.slots.toNat)
      (fun later => (entries emitter later [entry]).map emitter.writeOf) (fun _ => ())
      (emitUnder emitter entry) := by
  unfold emitUnder entries
  cases isClass : entry.1.classKind? with
  | none =>
    intro before after files final value run
    cases run
  | some kind =>
    have whole := (record_emits entry.1.path ⟨entry.2, kind⟩).bind fun _ =>
      (Emitter.emitClass_emits isClass emitter entry.2).bind fun _ => .pure ()
    simp only [List.append_nil] at whole
    simp only [List.filterMap_cons, isClass, Option.map_some, List.filterMap_nil]
    exact whole

theorem emitNamed_emits (emitter : Emitter) (named : List (Node × String)) :
    Emits ((named.map Prod.fst).flatMap (Node.keys emitter.slots.toNat))
      (fun later => (entries emitter later named).map emitter.writeOf) (fun _ => ())
      (emitNamed emitter named) := by
  induction named with
  | nil => exact .pure ()
  | cons entry rest ih =>
    have whole := (emitUnder_emits emitter entry).bind fun _ => ih
    have parts (later : Ledger) : entries emitter later (entry :: rest) =
        entries emitter later [entry] ++ entries emitter later rest := by
      unfold entries
      rw [← List.filterMap_append, List.singleton_append]
    simp only [parts, List.map_append]
    exact whole

end Draft

namespace Plan

/-- All files that a course writes to the schema tree, in order, each with its location. -/
def schemaFiles (plan : Plan) (course : Course) : List (List String × SchemaFile) :=
  Draft.entries plan.emitter course.numbering.ledger
      ((Draft.ofLedger course.outcome.ledger).named course.discovery.classes) ++
    [(LevelFile.location, LevelFile.filled course.numbering.ledger course.levels),
      (DistanceFile.location, DistanceFile.filled course.numbering.ledger)]

def askedKeys (plan : Plan) (course : Course) : List IdKey :=
  course.discovery.classes.flatMap (Node.keys plan.emitter.slots.toNat) ++
    ((LevelFile.outlines course.levels).map Outline.key ++
      (course.discovery.classes.foldl Draft.add
        (.ofLedger course.outcome.ledger)).distances.keys.map .distance)

variable {plan : Plan} {reset : Bool} {queue : Option CandidateQueue} {files : FileSystem}
  {course : Course}

/-- Only classes are named. -/
theorem ReachesCompiling.isSome_classKind? (reaches : plan.ReachesCompiling reset queue files course) :
    ∀ entry ∈ (Draft.ofLedger course.outcome.ledger).named course.discovery.classes,
      entry.1.classKind?.isSome = true := by
  intro entry member
  refine isSome_classKind?_of_emission reaches.emits entry.1 ?_
  rw [← (Draft.ofLedger course.outcome.ledger).fst_named course.discovery.classes]
  exact List.mem_map_of_mem member

/-- The classes of a pass are on record then, and all others as they were. -/
theorem ReachesCompiling.identity?_of_mem (reaches : plan.ReachesCompiling reset queue files course)
    {path : String} (listed : path ∈ course.discovery.classes.map Node.path) :
    ∃ record, course.numbering.ledger.identity? path = some record := by
  rw [← (Draft.ofLedger course.outcome.ledger).fst_named course.discovery.classes,
    ← Draft.fst_records reaches.isSome_classKind?] at listed
  obtain ⟨entry, member, rfl⟩ := List.mem_map.1 listed
  rw [identity?_of_emission reaches.emits]
  exact Numbering.identity?_recordAll (.ofLedger course.outcome.ledger) member

theorem ReachesCompiling.identity?_of_notMem
    (reaches : plan.ReachesCompiling reset queue files course) {path : String}
    (unlisted : path ∉ course.discovery.classes.map Node.path) :
    course.numbering.ledger.identity? path = course.outcome.ledger.identity? path := by
  rw [← (Draft.ofLedger course.outcome.ledger).fst_named course.discovery.classes,
    ← Draft.fst_records reaches.isSome_classKind?] at unlisted
  rw [identity?_of_emission reaches.emits]
  exact Numbering.identity?_recordAll_of_notMem (.ofLedger course.outcome.ledger) unlisted

/-- What emission that succeeded asked for and wrote, whichever ledger it started from. -/
theorem emission_issues_takes {ledger : Ledger} {classes : List Node} {levels : List Level}
    {before final : FileSystem} {made : Draft × Nat × Nat} {after : Numbering}
    (run : plan.emission ledger classes levels ⟨.ofLedger ledger, before⟩ =
      (.ok made, ⟨after, final⟩)) :
    (Numbering.ofLedger ledger).Issues
        (classes.flatMap (Node.keys plan.emitter.slots.toNat) ++
          ((LevelFile.outlines levels).map Outline.key ++
            (classes.foldl Draft.add (.ofLedger ledger)).distances.keys.map .distance)) after ∧
      before.Takes
        ((Draft.entries plan.emitter after.ledger ((Draft.ofLedger ledger).named classes) ++
          [(LevelFile.location, LevelFile.filled after.ledger levels),
            (DistanceFile.location, DistanceFile.filled after.ledger)]).map plan.emitter.writeOf)
        final := by
  rw [emission_eq] at run
  obtain ⟨_, ⟨first, middle⟩, emitted, run⟩ := Task.bind_eq_ok.1 run
  obtain ⟨levelCount, ⟨second, later⟩, levelled, run⟩ := Task.bind_eq_ok.1 run
  obtain ⟨count, ⟨third, last⟩, distanced, run⟩ := Task.bind_eq_ok.1 run
  obtain ⟨rfl, rfl⟩ := Workshop.mk.inj (congrArg Prod.snd run)
  obtain ⟨classIssues, classWrites⟩ := Draft.emitNamed_emits _ _ _ _ _ _ _ emitted
  obtain ⟨levelIssues, levelWrites⟩ := plan.emitter.emitLevels_emits _ _ _ _ _ _ levelled
  obtain ⟨distanceIssues, distanceWrites⟩ := Emitter.takes_emitDistances distanced
  rw [Draft.fst_named] at classIssues
  -- what was written is read off the last ledger, which keeps the ids of those before
  have earlier := levelIssues.kept.trans distanceIssues.kept
  refine ⟨classIssues.trans (levelIssues.trans distanceIssues), ?_⟩
  rw [List.map_append]
  exact (classWrites _ earlier).2.trans
    ((levelWrites _ distanceIssues.kept).2.trans distanceWrites)

/-- The emitting stage asks for these keys and makes these writes. -/
theorem ReachesCompiling.issues_takes (reaches : plan.ReachesCompiling reset queue files course) :
    (Numbering.ofLedger course.outcome.ledger).Issues (plan.askedKeys course) course.numbering ∧
      course.prepared.Takes ((plan.schemaFiles course).map plan.emitter.writeOf)
        course.written :=
  emission_issues_takes reaches.emits

/-- The small project gets as far as compiling. -/
theorem small_reachesCompiling : ∃ course, small.ReachesCompiling false none ∅ course := by
  obtain ⟨report, after, run⟩ := Task.exists_of_isOk small_succeeds
  obtain ⟨course, reaches, -⟩ := course_of_run run
  exact ⟨course, reaches.toReachesCompiling⟩

end Plan

end ComponentSchema
