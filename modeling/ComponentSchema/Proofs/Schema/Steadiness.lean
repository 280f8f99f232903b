import ComponentSchema.Schema.WorldFiles
import ComponentSchema.Schema.ClassFile
import ComponentSchema.Proofs.Ledger.Numbering

/-!
The content of schema files is steady: making it asks for ids and does nothing else to the ledger, so
made again where all its ids are known it is the same content and no id is issued.
-/

namespace ComponentSchema

open Numbered

namespace ClassFile

theorem ownComponents_steady (name : String) (node : Node) : Steady (ownComponents name node) :=
  .mapM fun category => (component_steady category node.path).bind fun _ => .pure _

mutual

theorem treeComponents_steady (name : String) (node : Node) : Steady (treeComponents name node) := by
  obtain ⟨path, raw, kind, children⟩ := node
  unfold treeComponents
  refine (ownComponents_steady name _).bind fun own => ?_
  exact (subobjectComponents_steady name children).bind fun below => .pure _

theorem subobjectComponents_steady (name : String) (children : List Node) :
    Steady (subobjectComponents name children) := by
  cases children with
  | nil =>
    unfold subobjectComponents
    exact .pure []
  | cons child rest =>
    unfold subobjectComponents
    have onward (first : List Declaration) :
        Steady (do pure (first ++ (← subobjectComponents name rest))) :=
      (subobjectComponents_steady name rest).bind fun others => .pure _
    exact .ite ((treeComponents_steady _ child).bind onward) ((Steady.pure []).bind onward)

end

theorem slotComponents_steady (schemaName : String) (node : Node) (slot : Nat) :
    Steady (slotComponents schemaName node slot) :=
  .mapM fun category => (component_steady category _).bind fun _ => .pure _

theorem slotComponentsFrom_steady (schemaName : String) (node : Node) (count slot : Nat) :
    Steady (slotComponentsFrom schemaName node count slot) := by
  induction count generalizing slot with
  | zero => exact .pure []
  | succ count ih =>
    unfold slotComponentsFrom
    refine (slotComponents_steady schemaName node slot).bind fun first => ?_
    exact (ih (slot + 1)).bind fun others => .pure _

theorem declarations_steady (kind : ClassKind) (slots : Nat) (schemaName : String) (node : Node) :
    Steady (declarations kind slots schemaName node) := by
  cases kind with
  | root => exact treeComponents_steady schemaName node
  | subobject =>
    refine Steady.bind ?_ fun dynamic => ?_
    · exact .ite (.pure []) (slotComponentsFrom_steady schemaName node slots 1)
    · exact (subobjectComponents_steady schemaName node.children).bind fun static => .pure _

theorem build_steady (kind : ClassKind) (slots : Nat) (schemaName : String) (node : Node) :
    Steady (build kind slots schemaName node) :=
  (declarations_steady kind slots schemaName node).bind fun _ => .pure _

end ClassFile

theorem LevelFile.build_steady (levels : List Level) : Steady (LevelFile.build levels) :=
  Steady.bind (.mapM fun named => (level_steady named.2).bind fun _ => .pure _) fun _ => .pure _

namespace DistanceFile

theorem requests_steady (distances : SortedSet UInt64) :
    Steady (distances.keys.mapM Numbered.distance) := .mapM distance_steady

theorem keeps_build {relation : Numbering → Numbering → Prop} [Std.Refl relation]
    [IsTrans Numbering relation] {distances : SortedSet UInt64}
    (requests : Task.Keeps relation (distances.keys.mapM Numbered.distance)) :
    Task.Keeps relation (build distances) :=
  requests.bind fun _ => Task.Keeps.get.bind fun _ => .pure _

/-- The file lists all distances on record, so those have to be the same as well. -/
theorem build_replays {distances : SortedSet UInt64} {before after other : Numbering}
    {file : SchemaFile} (run : build distances before = (.ok file, after))
    (known : after.ledger.KeepsIds other.ledger)
    (same : other.ledger.distances = after.ledger.distances) :
    build distances other = (.ok file, other) := by
  obtain ⟨ids, between, asked, rest⟩ := Task.bind_eq_ok.1 run
  cases rest
  refine Task.bind_eq_ok.2 ⟨ids, other, (requests_steady distances).replays asked known, ?_⟩
  rw [← same]
  rfl

end DistanceFile

end ComponentSchema
