import ComponentSchema.Proofs.Graph.WellFormedness
import ComponentSchema.Proofs.Identifier
import ComponentSchema.NameRegistry

/-!
Words: what can stand as a name in a schema file.  An identifier that is usable is a word, whatever raw
name it was made of, and a word stays one when letters and digits are added to it and when its case is
changed.
-/

namespace ComponentSchema

/-- The text has letters and digits only. -/
def IsPlain (text : String) : Prop := ∀ char ∈ text.toList, char.isAlphanum = true

/-- Letters and digits, and a letter first. -/
structure IsWord (name : String) : Prop where
  plain : IsPlain name
  letter : ∃ first rest, name.toList = first :: rest ∧ first.isAlpha = true

/-- A word without capitals. -/
structure IsLowerWord (name : String) : Prop extends IsWord name where
  lower : ∀ char ∈ name.toList, char.isUpper = false

theorem IsPlain.append {front back : String} (first : IsPlain front) (second : IsPlain back) :
    IsPlain (front ++ back) := by
  intro char member
  rw [String.toList_append, List.mem_append] at member
  exact member.elim (first char) (second char)

theorem isPlain_join {parts : List String} (each : ∀ part ∈ parts, IsPlain part) :
    IsPlain (String.join parts) := by
  intro char member
  rw [String.toList_join, List.mem_flatMap] at member
  obtain ⟨part, listed, inside⟩ := member
  exact each part listed char inside

theorem isPlain_toString (number : Nat) : IsPlain (toString number) := by
  intro char member
  rw [Nat.toString_eq_repr, Nat.toList_repr] at member
  rw [Char.isAlphanum, Nat.isDigit_of_mem_toDigits (by omega) (by omega) member, Bool.or_true]

theorem Category.isPlain_suffix (category : Category) : IsPlain category.suffix := by
  rw [IsPlain, ← List.all_eq_true]
  cases category <;> decide

theorem IsWord.append {name ending : String} (word : IsWord name) (plain : IsPlain ending) :
    IsWord (name ++ ending) := by
  obtain ⟨first, rest, spelled, letter⟩ := word.letter
  refine ⟨word.plain.append plain, first, rest ++ ending.toList, ?_, letter⟩
  rw [String.toList_append, spelled, List.cons_append]

theorem isAlphanum_toLower {char : Char} (plain : char.isAlphanum = true) :
    char.toLower.isAlphanum = true := by
  rw [Char.isAlphanum, Bool.or_eq_true] at plain ⊢
  rcases plain with letter | digit
  · exact .inl (by rw [Char.isAlpha_toLower_eq_isAlpha, letter])
  · exact .inr (by rw [toLower_of_isDigit digit, digit])

theorem isAlphanum_toUpper {char : Char} (plain : char.isAlphanum = true) :
    char.toUpper.isAlphanum = true := by
  rw [Char.isAlphanum, Bool.or_eq_true] at plain ⊢
  cases lower : char.isLower with
  | true =>
    left
    rw [Char.isAlpha_toUpper_eq_isAlpha, Char.isAlpha, lower, Bool.or_true]
  | false =>
    rw [Char.toUpper_eq_of_not_isLower (by simp [lower])]
    exact plain

theorem IsWord.foldCase {name : String} (word : IsWord name) : IsLowerWord (foldCase name) := by
  unfold ComponentSchema.foldCase
  refine ⟨⟨fun char member => ?_, ?_⟩, fun char member => ?_⟩
  · rw [String.toList_ofList] at member
    obtain ⟨old, listed, rfl⟩ := List.mem_map.1 member
    exact isAlphanum_toLower (word.plain old listed)
  · obtain ⟨first, rest, spelled, letter⟩ := word.letter
    refine ⟨first.toLower, rest.map Char.toLower, ?_, ?_⟩
    · rw [String.toList_ofList, spelled, List.map_cons]
    · rw [Char.isAlpha_toLower_eq_isAlpha, letter]
  · rw [String.toList_ofList] at member
    obtain ⟨old, -, rfl⟩ := List.mem_map.1 member
    exact Char.isUpper_toLower_eq_false old

theorem isPlain_identifier (scope : Scope) (raw : String) : IsPlain (identifier scope raw) := by
  have kept : ∀ char ∈ raw.toList.filter Char.isAlphanum, char.isAlphanum = true :=
    fun char member => (List.mem_filter.1 member).2
  unfold IsPlain identifier
  rw [String.toList_ofList]
  cases scope with
  | type => exact kept
  | component =>
    cases spelled : raw.toList.filter Char.isAlphanum with
    | nil => exact fun char member => (by cases member)
    | cons first rest =>
      rw [spelled] at kept
      obtain ⟨head, tail⟩ := List.forall_mem_cons.1 kept
      exact List.forall_mem_cons.2 ⟨isAlphanum_toUpper head, tail⟩
  | field =>
    intro char member
    obtain ⟨old, listed, rfl⟩ := List.mem_map.1 member
    exact isAlphanum_toLower (kept old listed)

/-- A plain name that can stand in a schema is a word. -/
theorem IsUsable.isWord {name : String} (usable : IsUsable name) (plain : IsPlain name) :
    IsWord name := by
  obtain ⟨some_, noDigit⟩ := usable
  cases spelled : name.toList with
  | nil => exact absurd (String.toList_eq_nil_iff.1 spelled) some_
  | cons first rest =>
    have known := plain first (by rw [spelled]; exact List.mem_cons_self)
    rw [Char.isAlphanum, noDigit first (by rw [spelled]; rfl), Bool.or_false] at known
    exact ⟨plain, first, rest, spelled, known⟩

theorem IsUsable.isWord_identifier {scope : Scope} {raw : String}
    (usable : IsUsable (identifier scope raw)) : IsWord (identifier scope raw) :=
  usable.isWord (isPlain_identifier scope raw)

/-- The name of a field has no capitals. -/
theorem Field.isLowerWord_schemaName {field : Field} (usable : IsUsable field.schemaName) :
    IsLowerWord field.schemaName := by
  refine ⟨usable.isWord_identifier, fun char member => ?_⟩
  rw [schemaName, identifier, String.toList_ofList] at member
  obtain ⟨old, -, rfl⟩ := List.mem_map.1 member
  exact Char.isUpper_toLower_eq_false old

/-- A name with a number behind it is a word if it is one without. -/
theorem IsWord.numbered {raw : String} (word : IsWord (identifier .type raw)) (number : Nat) :
    IsWord (NameRegistry.numbered raw number) := by
  rw [NameRegistry.numbered, identifier_type_append]
  exact word.append (isPlain_identifier .type (toString number))

end ComponentSchema
