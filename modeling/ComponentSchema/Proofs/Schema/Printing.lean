import ComponentSchema.Proofs.Schema.Declaring
import ComponentSchema.Proofs.Schema.Reading

/-!
What stands in the text of a schema file.  The banner and the line of the package come first, and then the
blocks of the declarations, each behind a blank line.  Members have plain names, so a reader that knows
nothing but lines takes every declaration from its block, with its id, its types and its numbers.
-/

namespace ComponentSchema

namespace SchemaFile

/-- The text has the package on its second line and a block for each declaration, and the declaration is what
the reader takes from the block. -/
def IsPrinted (file : SchemaFile) : Prop :=
  ∃ blocks : List (List (List Char)),
    List.Forall₂ (fun block declaration => Declaration.ofLines? block = some declaration) blocks
      file.declarations ∧
    file.render.toList =
      ([SchemaText.banner.toList, "package ".toList ++ (file.package.toList ++ [';'])] ++
        blocks.flatMap fun block => [] :: block).flatMap fun line => line ++ ['\n']

variable {file : SchemaFile}

theorem isPrinted_of_isNamed (named : ∀ declaration ∈ file.declarations,
    ∀ statement ∈ declaration.statements, statement.IsNamed) : file.IsPrinted := by
  refine ⟨file.declarations.map Declaration.lines, ?_, ?_⟩
  · rw [List.forall₂_map_left_iff, List.forall₂_same]
    intro declaration member
    exact Declaration.ofLines?_lines (named declaration member)
  · rw [toList_render, lines, List.flatMap_map]

theorem isPrinted_of_bare (bare : ∀ declaration ∈ file.declarations,
    ∃ id, declaration.statements = [.id id]) : file.IsPrinted := by
  apply isPrinted_of_isNamed
  intro declaration member statement stated
  obtain ⟨id, alone⟩ := bare declaration member
  rw [alone, List.mem_singleton] at stated
  rw [stated]
  trivial

end SchemaFile

theorem ClassFile.isPrinted_filled {kind : ClassKind} {slots : Nat} {schemaName : String} {node : Node}
    (faultless : Validation.nodeFaults none node = []) (ledger : Ledger) :
    (filled ledger kind slots schemaName node).IsPrinted := by
  apply SchemaFile.isPrinted_of_isNamed
  intro declaration member statement stated
  cases statement with
  | id value => trivial
  | member type name number => exact ((declares_of_mem_filled faultless member).isLowerWord stated).plain

theorem LevelFile.isPrinted_filled (ledger : Ledger) (levels : List Level) :
    (filled ledger levels).IsPrinted := by
  apply SchemaFile.isPrinted_of_bare
  intro declaration member
  obtain ⟨outline, drawn, rfl⟩ := List.mem_map.1 member
  obtain ⟨named, -, rfl⟩ := List.mem_map.1 drawn
  exact ⟨_, rfl⟩

theorem DistanceFile.isPrinted_filled (ledger : Ledger) : (filled ledger).IsPrinted := by
  apply SchemaFile.isPrinted_of_bare
  intro declaration member
  obtain ⟨entry, -, rfl⟩ := List.mem_map.1 member
  exact ⟨_, rfl⟩

end ComponentSchema
