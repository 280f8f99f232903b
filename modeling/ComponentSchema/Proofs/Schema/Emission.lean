import ComponentSchema.Proofs.Files.Failure
import ComponentSchema.Proofs.Pass.Emitting
import ComponentSchema.Proofs.Schema.Steadiness

/-!
What emission keeps.  It asks for ids and writes schema files, and whatever both kinds of step keep
is kept by all of it.
-/

namespace ComponentSchema

namespace Emission

variable {α : Type} {relation : Workshop → Workshop → Prop}

theorem keeps_number {numbering : Numbering → Numbering → Prop} {work : Numbered α}
    (kept : Task.Keeps numbering work)
    (lift : ∀ before after files, numbering before after → relation ⟨before, files⟩ ⟨after, files⟩) :
    Task.Keeps relation (number work) := by
  intro workshop
  have step := kept workshop.numbering
  unfold number
  rcases ended : work workshop.numbering with ⟨_ | _, _⟩
  · rw [ended] at step
    exact lift _ _ workshop.files step
  · rw [ended] at step
    exact lift _ _ workshop.files step

/-- Numbering that succeeds as a step of emission leaves all files alone. -/
theorem number_eq_ok {work : Numbered α} {before after : Workshop} {value : α}
    (run : number work before = (.ok value, after)) :
    work before.numbering = (.ok value, after.numbering) ∧ after.files = before.files := by
  unfold number at run
  rcases ended : work before.numbering with ⟨exhausted | result, numbering⟩
  · rw [ended] at run
    cases run
  · rw [ended] at run
    cases run
    exact ⟨rfl, rfl⟩

theorem keeps_file {files : FileSystem → FileSystem → Prop} {work : FileTask α}
    (kept : Task.Keeps files work)
    (lift : ∀ before after numbering, files before after →
      relation ⟨numbering, before⟩ ⟨numbering, after⟩) :
    Task.Keeps relation (file work) := by
  intro workshop
  have step := kept workshop.files
  unfold file
  rcases ended : work workshop.files with ⟨_ | _, _⟩
  · rw [ended] at step
    exact lift _ _ workshop.numbering step
  · rw [ended] at step
    exact lift _ _ workshop.numbering step

end Emission

/-- What stands at the end of the location of every schema file. -/
def SchemaFile.ending : String := ".schema"

/-- A relation that steps of emission keep: those that ask for ids, and those that write files. -/
structure Emitter.Allows (emitter : Emitter) (relation : Workshop → Workshop → Prop) : Prop where
  numbers : ∀ {α : Type} (work : Numbered α), Task.Keeps Numbering.Extends work →
    Task.Keeps relation (Emission.number work)
  writes : ∀ front name file action, Task.Keeps relation
    (emitter.writeFile (front ++ [name ++ SchemaFile.ending]) file action)

theorem Numbering.extends_recordIdentity (numbering : Numbering) (path schemaName : String)
    (kind : ClassKind) : numbering.Extends (numbering.recordIdentity path schemaName kind) := by
  refine ⟨?_, numbering.ledger.keepsNames_recordIdentity path schemaName kind, Nat.le_refl _, ?_⟩
  · intro key id stored
    rw [recordIdentity, Ledger.idOf?_recordIdentity]
    exact stored
  · intro key id stored absent
    rw [recordIdentity, Ledger.idOf?_recordIdentity, absent] at stored
    cases stored

namespace Emitter.Allows

variable {relation : Workshop → Workshop → Prop} [Std.Refl relation] [IsTrans Workshop relation]
  {emitter : Emitter}

theorem emitClass (allows : emitter.Allows relation) (node : Node) (schemaName : String) :
    Task.Keeps relation (emitter.emitClass node schemaName) := by
  unfold Emitter.emitClass
  cases node.classKind? with
  | none => exact .throw _
  | some kind =>
    refine (allows.numbers _ (ClassFile.build_steady ..).extends_).bind fun file => ?_
    cases kind with
    | root => exact allows.writes [] schemaName file "write schema"
    | subobject => exact allows.writes ["Subobjects"] schemaName file "write schema"

theorem emitLevels (allows : emitter.Allows relation) (levels : List Level) :
    Task.Keeps relation (emitter.emitLevels levels) := by
  refine (allows.numbers _ (LevelFile.build_steady levels).extends_).bind fun file => ?_
  refine (allows.writes [] "Sublevels/sublevels" file "write sublevel schema").bind fun _ => ?_
  exact .pure _

theorem emitDistances (allows : emitter.Allows relation) (distances : SortedSet UInt64) :
    Task.Keeps relation (emitter.emitDistances distances) := by
  have requests := (DistanceFile.requests_steady distances).extends_
  refine (allows.numbers _ (DistanceFile.keeps_build requests)).bind fun file => ?_
  refine (allows.writes [] "NetCullDistance/ncdcomponents" file "write distance schema").bind
    fun _ => ?_
  exact .pure _

theorem emitAll (allows : emitter.Allows relation) (draft : Draft) (nodes : List Node) :
    Task.Keeps relation (draft.emitAll emitter nodes) := by
  refine Task.Keeps.foldlM (fun draft node _ => ?_) draft
  unfold Draft.emitNext
  cases node.classKind? with
  | none => exact .throw _
  | some kind =>
    refine (allows.numbers _ (Task.Keeps.modify fun numbering =>
      numbering.extends_recordIdentity node.path (draft.nameOf node) kind)).bind fun _ => ?_
    exact (allows.emitClass node (draft.nameOf node)).bind fun _ => .pure _

theorem emission {plan : Plan} (allows : plan.emitter.Allows relation) (ledger : Ledger)
    (classes : List Node) (levels : List Level) :
    Task.Keeps relation (plan.emission ledger classes levels) := by
  refine (allows.emitAll _ classes).bind fun draft => ?_
  refine (allows.emitLevels levels).bind fun levelComponents => ?_
  exact (allows.emitDistances draft.distances).bind fun distanceComponents => .pure _

end Emitter.Allows

def Workshop.Extends (before after : Workshop) : Prop := before.numbering.Extends after.numbering

instance : Std.Refl Workshop.Extends where
  refl workshop := Std.Refl.refl workshop.numbering

instance : IsTrans Workshop Workshop.Extends where
  trans _ _ _ earlier later := trans_of Numbering.Extends earlier later

def Workshop.OnFiles (relation : FileSystem → FileSystem → Prop) (before after : Workshop) : Prop :=
  relation before.files after.files

instance (relation : FileSystem → FileSystem → Prop) [Std.Refl relation] :
    Std.Refl (Workshop.OnFiles relation) where
  refl workshop := Std.Refl.refl workshop.files

instance (relation : FileSystem → FileSystem → Prop) [IsTrans FileSystem relation] :
    IsTrans Workshop (Workshop.OnFiles relation) where
  trans _ _ _ earlier later := trans_of relation earlier later

/-- Emission keeps of the files whatever the writing of schema files keeps. -/
theorem Emitter.allows_onFiles {emitter : Emitter} {relation : FileSystem → FileSystem → Prop}
    [Std.Refl relation] [IsTrans FileSystem relation]
    (writes : ∀ front name bytes, Task.Keeps relation (FileAction.writeWithParents
      (emitter.pathOf (front ++ [name ++ SchemaFile.ending])) bytes)) :
    emitter.Allows (Workshop.OnFiles relation) where
  numbers work _ := by
    have anything : Task.Keeps (fun _ _ => True) work := fun _ => trivial
    exact Emission.keeps_number anything fun _ _ files _ => Std.Refl.refl files
  writes front name file action := by
    unfold Emitter.writeFile
    refine Task.Keeps.bind ?_ fun _ => .pure _
    exact Emission.keeps_file (FileAction.keeps_reporting (writes front name _) action _)
      fun _ _ _ step => step

theorem Emitter.allows_extends (emitter : Emitter) : emitter.Allows Workshop.Extends where
  numbers _ kept := Emission.keeps_number kept fun _ _ _ step => step
  writes front name file action := by
    unfold Emitter.writeFile
    refine Task.Keeps.bind ?_ fun _ => .pure _
    have anything : Task.Keeps (fun _ _ => True)
        ((FileAction.writeWithParents (emitter.pathOf (front ++ [name ++ SchemaFile.ending]))
          file.render.toUTF8).reporting action
            (emitter.pathOf (front ++ [name ++ SchemaFile.ending]))) := fun _ => trivial
    exact Emission.keeps_file anything fun _ _ numbering _ => Std.Refl.refl numbering

end ComponentSchema
