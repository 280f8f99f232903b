import ComponentSchema.Proofs.Pass.Emitting
import ComponentSchema.Proofs.Pass.Wording
import ComponentSchema.Proofs.Schema.Outline
import ComponentSchema.Proofs.Schema.Writing

/-!
Which files emission writes.  Whether it succeeds or breaks off, each of them was made for a class,
for the levels or for the cull distances, under the ids that were on record by then.
-/

namespace ComponentSchema

/-- A file that is made for one of the classes under a word, for the levels or for the cull
distances, and where it belongs. -/
inductive SchemaFile.IsMade (slots : Nat) (classes : List Node) (levels : List Level) :
    List String → SchemaFile → Prop
  | ofClass {node : Node} {kind : ClassKind} {schemaName : String} {ledger : Ledger}
    (listed : node ∈ classes) (isClass : node.classKind? = some kind) (word : IsWord schemaName) :
    IsMade slots classes levels (ClassFile.location kind schemaName)
      (ClassFile.filled ledger kind slots schemaName node)
  | ofLevels {ledger : Ledger} :
    IsMade slots classes levels LevelFile.location (LevelFile.filled ledger levels)
  | ofDistances {ledger : Ledger} :
    IsMade slots classes levels DistanceFile.location (DistanceFile.filled ledger)

namespace Emitter

variable {emitter : Emitter} {classes : List Node} {levels : List Level}

/-- The files that are made for the classes and levels are written, one after the other. -/
abbrev WritesMade (emitter : Emitter) (classes : List Node) (levels : List Level) :
    FileSystem → FileSystem → Prop :=
  emitter.Writes (SchemaFile.IsMade emitter.slots.toNat classes levels)

theorem keeps_emitClass {node : Node} {schemaName : String} (listed : node ∈ classes)
    (word : IsWord schemaName) :
    Task.Keeps (Workshop.OnFiles (emitter.WritesMade classes levels))
      (emitter.emitClass node schemaName) := by
  unfold emitClass
  cases isClass : node.classKind? with
  | none => exact .throw _
  | some kind =>
    refine keeps_number_bind (fun before file after run => ?_) fun file made =>
      keeps_writeFile made "write schema"
    obtain ⟨-, answered⟩ := ClassFile.build_asks isClass emitter.slots.toNat schemaName _ _ _ run
    rw [answered _ (.refl _)]
    exact .ofClass listed isClass word

theorem keeps_emitNamed {named : List (Node × String)}
    (listed : ∀ entry ∈ named, entry.1 ∈ classes) (words : ∀ entry ∈ named, IsWord entry.2) :
    Task.Keeps (Workshop.OnFiles (emitter.WritesMade classes levels))
      (Draft.emitNamed emitter named) := by
  induction named with
  | nil => exact .pure ()
  | cons entry rest ih =>
    obtain ⟨known, others⟩ := List.forall_mem_cons.1 listed
    obtain ⟨word, wording⟩ := List.forall_mem_cons.1 words
    refine Task.Keeps.bind ?_ fun _ => ih others wording
    unfold Draft.emitUnder
    cases entry.1.classKind? with
    | none => exact .throw _
    | some kind =>
      refine (keeps_number _).bind fun _ => ?_
      exact (keeps_emitClass known word).bind fun _ => .pure ()

theorem keeps_emitLevels :
    Task.Keeps (Workshop.OnFiles (emitter.WritesMade classes levels))
      (emitter.emitLevels levels) := by
  refine keeps_number_bind (fun before file after run => ?_) fun file made =>
    (keeps_writeFile made "write sublevel schema").bind fun _ => .pure _
  obtain ⟨-, answered⟩ := LevelFile.build_asks levels _ _ _ run
  rw [answered _ (.refl _)]
  exact .ofLevels

theorem keeps_emitDistances (distances : SortedSet UInt64) :
    Task.Keeps (Workshop.OnFiles (emitter.WritesMade classes levels))
      (emitter.emitDistances distances) := by
  refine keeps_number_bind (fun before file after run => ?_) fun file made =>
    (keeps_writeFile made "write distance schema").bind fun _ => .pure _
  rw [(DistanceFile.issues_build run).2]
  exact .ofDistances

end Emitter

namespace Plan

/-- From words on record, emission of a valid graph writes files that are made for it. -/
theorem keeps_emission_made (plan : Plan) {ledger : Ledger} {classes : List Node}
    {levels : List Level}
    (worded : ledger.IsWorded) (validated : Validation.check classes levels = .ok ()) :
    Task.Keeps (Workshop.OnFiles (plan.emitter.WritesMade classes levels))
      (plan.emission ledger classes levels) := by
  have words := NameRegistry.isWorded_ofLedger worded
  rw [emission_eq]
  refine (Emitter.keeps_emitNamed (fun entry member => ?_) fun entry member => ?_).bind
    fun _ => Emitter.keeps_emitLevels.bind fun levelComponents =>
      (Emitter.keeps_emitDistances _).bind fun distanceComponents => .pure _
  · rw [← (Draft.ofLedger ledger).fst_named classes]
    exact List.mem_map_of_mem member
  · exact Draft.isWord_of_mem_named words (makesWord_of_check validated) member

/-- Whatever the passes before it were, a pass writes files that are made for what it found, and
that as far as it gets. -/
theorem writesMade_of_history {resets : Bool} {saved : List (Option ByteArray)}
    (history : History resets HasNone saved) {plan : Plan} {reset : Bool}
    {queue : Option CandidateQueue} {files : FileSystem} {course : Course}
    (finds : plan.Finds files HasNone saved)
    (reaches : plan.ReachesEmitting reset queue files course) (generator : Generator) :
    plan.emitter.WritesMade course.discovery.classes course.levels
      (plan.emitter.prepare generator.files).2
      (plan.emit course.outcome.ledger course.discovery.classes course.levels generator).2.files := by
  obtain ⟨log, emits⟩ := plan.emit_apply (batchSize_ne_zero reaches.valid) course.outcome.ledger
    course.discovery.classes course.levels generator
  have keeps := plan.keeps_emission_made (history.isWorded finds reaches.loaded) reaches.validated
  rw [emits]
  rcases plan.emitter.prepare generator.files with ⟨failure | _, prepared⟩
  · exact .refl
  · have writes := keeps ⟨.ofLedger course.outcome.ledger, prepared⟩
    dsimp only
    rcases ended : plan.emission course.outcome.ledger course.discovery.classes course.levels
      ⟨.ofLedger course.outcome.ledger, prepared⟩ with ⟨error | made, workshop⟩
    · rw [ended] at writes
      exact writes
    · rw [ended] at writes
      exact writes

end Plan

end ComponentSchema
