import ComponentSchema.Proofs.Independence
import ComponentSchema.Proofs.Pass.Filing

/-!
What other classes do never shows in the file of a class.  All that is shared between classes, the names
in use and the ids handed out, only ever grows, and a class that was emitted before finds in it what it
found then.
-/

namespace ComponentSchema

namespace ClassFile

/-- Ledgers with the same ids for a class call for the same file. -/
theorem filled_congr {kind : ClassKind} {node : Node} (isClass : node.classKind? = some kind)
    {slots : Nat} (schemaName : String) {first second : Ledger}
    (same : ∀ key ∈ node.keys slots, first.idOf key = second.idOf key) :
    filled first kind slots schemaName node = filled second kind slots schemaName node := by
  have components : ((outlines kind slots schemaName node).map fun outline => outline.filled first) =
      (outlines kind slots schemaName node).map fun outline => outline.filled second := by
    apply List.map_congr_left
    intro outline drawn
    have key : outline.key ∈ node.keys slots := by
      rw [← keys_outlines isClass slots schemaName]
      exact List.mem_map_of_mem drawn
    unfold Outline.filled
    rw [same outline.key key]
  unfold filled
  rw [components]

end ClassFile

namespace Plan

/-- The emitting stage leaves the files of its classes and those of the world in a tree that was empty. -/
def LeavesFiles (plan : Plan) (start final : Ledger) (classes : List Node) (levels : List Level)
    (before after : FileSystem) : Prop :=
  ∃ prepared, plan.emitter.prepare before = (.ok (), prepared) ∧
    plan.emitter.WritesTree start final classes levels prepared after

variable {plan : Plan} {ledger : Ledger} {classes : List Node} {levels : List Level}
  {before after : Generator} {emitted : Emitted}

/-- A stage that succeeded is an emission on a prepared tree. -/
theorem emission_of_emit (positive : plan.settings.generator.batchSize ≠ 0)
    (run : plan.emit ledger classes levels before = (.ok emitted, after)) :
    ∃ prepared made, plan.emitter.prepare before.files = (.ok (), prepared) ∧
      plan.emission ledger classes levels ⟨.ofLedger ledger, prepared⟩ =
        (.ok made, ⟨emitted.numbering, after.files⟩) := by
  obtain ⟨log, stage⟩ := plan.emit_apply positive ledger classes levels before
  rw [run] at stage
  rcases prepares : plan.emitter.prepare before.files with ⟨failure | _, prepared⟩
  · rw [prepares] at stage
    cases stage
  · rw [prepares] at stage
    dsimp only at stage
    rcases emits : plan.emission ledger classes levels ⟨.ofLedger ledger, prepared⟩ with
      ⟨error | made, workshop⟩
    · rw [emits] at stage
      cases stage
    · rw [emits] at stage
      cases stage
      exact ⟨prepared, made, rfl, emits⟩

/-- Where a class is found again on record, with its name and all ids, it gets its file again. -/
theorem sameFile_of_emission {other : Plan} {start : Ledger} {others : List Node}
    {levels' : List Level} {files files' final final' : FileSystem} {made made' : Draft × Nat × Nat}
    {numbering numbering' : Numbering}
    (first : plan.emission ledger classes levels ⟨.ofLedger ledger, files⟩ =
      (.ok made, ⟨numbering, final⟩))
    (second : other.emission start others levels' ⟨.ofLedger start, files'⟩ =
      (.ok made', ⟨numbering', final'⟩))
    (ids : numbering.ledger.KeepsIds start) (names : numbering.ledger.KeepsNames start)
    (slots : other.emitter.slots = plan.emitter.slots)
    {node : Node} {file file' : List String × SchemaFile}
    (member : (node, file) ∈ plan.emitter.classFiles ledger numbering.ledger classes)
    (member' : (node, file') ∈ other.emitter.classFiles start numbering'.ledger others) :
    file' = file := by
  obtain ⟨record, kind, stored, isClass, content⟩ := record_of_mem_classFiles first member
  obtain ⟨record', kind', stored', isClass', content'⟩ := record_of_mem_classFiles second member'
  dsimp only at stored isClass content stored' isClass' content'
  have later := (other.emitter.allows_extends.emission start others levels').of_eq second
  obtain rfl : record = record' :=
    Option.some.inj ((later.names _ _ (names _ _ stored)).symm.trans stored')
  obtain rfl : kind = kind' := Option.some.inj (isClass.symm.trans isClass')
  have inside : node ∈ classes := by
    rw [← (writesTree_of_emission first).listed]
    exact List.mem_map_of_mem (f := Prod.fst) member
  rw [content, content']
  unfold Emitter.classEntry
  rw [slots, ClassFile.filled_congr isClass]
  intro key asked
  obtain ⟨id, known⟩ := (emission_issues_takes first).1.stored
    (List.mem_append_left _ (List.mem_flatMap.2 ⟨node, inside, asked⟩))
  rw [Ledger.idOf_of_idOf? known, Ledger.idOf_of_idOf? (later.ids _ _ (ids _ _ known))]

/-- An emitting stage that starts from the ledger of an earlier one writes the file of every class that
is listed in both as the earlier one did, whatever becomes of the other classes and the levels. -/
theorem sameFile_of_emit {other : Plan} (positive : plan.settings.generator.batchSize ≠ 0)
    (positive' : other.settings.generator.batchSize ≠ 0)
    (slots : other.emitter.slots = plan.emitter.slots)
    (first : plan.emit ledger classes levels before = (.ok emitted, after))
    {others : List Node} {levels' : List Level} {before' after' : Generator} {emitted' : Emitted}
    (second : other.emit emitted.numbering.settle others levels' before' =
      (.ok emitted', after')) :
    plan.LeavesFiles ledger emitted.numbering.ledger classes levels before.files after.files ∧
      other.LeavesFiles emitted.numbering.settle emitted'.numbering.ledger others levels'
        before'.files after'.files ∧
      ∀ node file file',
        (node, file) ∈ plan.emitter.classFiles ledger emitted.numbering.ledger classes →
          (node, file') ∈ other.emitter.classFiles emitted.numbering.settle
            emitted'.numbering.ledger others →
              file' = file ∧
                (other.emitter.schemaDir = plan.emitter.schemaDir →
                  other.emitter.writeOf file' = plan.emitter.writeOf file) := by
  obtain ⟨prepared, made, prepares, emits⟩ := emission_of_emit positive first
  obtain ⟨prepared', made', prepares', emits'⟩ := emission_of_emit positive' second
  have ids : emitted.numbering.ledger.KeepsIds emitted.numbering.settle := by
    intro key id stored
    rwa [Numbering.idOf?_settle]
  refine ⟨⟨prepared, prepares, writesTree_of_emission emits⟩,
    ⟨prepared', prepares', writesTree_of_emission emits'⟩, ?_⟩
  intro node file file' member member'
  have same := sameFile_of_emission emits emits' ids (fun _ _ stored => stored) slots member member'
  refine ⟨same, fun tree => ?_⟩
  unfold Emitter.writeOf Emitter.pathOf
  rw [same, tree]

/-- The gate keeps its file when a door and levels come along. -/
theorem sameFile_of_emit_yard :
    ∃ emitted after emitted' after',
      small.emit .fresh [.plain "/B.Gate" "Gate"] [] {} = (.ok emitted, after) ∧
        small.emit emitted.numbering.settle Manifest.yard.classes Manifest.yard.levels {} =
          (.ok emitted', after') ∧
        small.LeavesFiles .fresh emitted.numbering.ledger [.plain "/B.Gate" "Gate"] [] ∅
          after.files ∧
        small.LeavesFiles emitted.numbering.settle emitted'.numbering.ledger Manifest.yard.classes
          Manifest.yard.levels ∅ after'.files ∧
        ∀ node file file',
          (node, file) ∈ small.emitter.classFiles .fresh emitted.numbering.ledger
              [.plain "/B.Gate" "Gate"] →
            (node, file') ∈ small.emitter.classFiles emitted.numbering.settle
                emitted'.numbering.ledger Manifest.yard.classes →
              file' = file ∧ (small.emitter.schemaDir = small.emitter.schemaDir →
                small.emitter.writeOf file' = small.emitter.writeOf file) := by
  have succeeds : (small.emit .fresh [.plain "/B.Gate" "Gate"] [] {}).1.isOk = true := by
    decide +kernel
  obtain ⟨emitted, after, first⟩ := Task.exists_of_isOk succeeds
  have goesOn : (match (small.emit .fresh [.plain "/B.Gate" "Gate"] [] {}).1 with
      | .error _ => false
      | .ok emitted => (small.emit emitted.numbering.settle Manifest.yard.classes
          Manifest.yard.levels {}).1.isOk) = true := by decide +kernel
  rw [first] at goesOn
  obtain ⟨emitted', after', second⟩ := Task.exists_of_isOk goesOn
  exact ⟨emitted, after, emitted', after', first, second,
    sameFile_of_emit (by decide) (by decide) rfl first second⟩

end Plan

end ComponentSchema
