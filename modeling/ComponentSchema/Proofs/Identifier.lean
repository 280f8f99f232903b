import Mathlib.Data.List.Basic
import ComponentSchema.Identifier
import ComponentSchema.Proofs.Lists

/-!
Identifiers of classes.  They are made character by character, so a number behind a raw name is a number
behind its identifier, and different numbers differ even where case does not count.
-/

namespace ComponentSchema

theorem identifier_type_append (front back : String) :
    identifier .type (front ++ back) = identifier .type front ++ identifier .type back := by
  simp only [identifier, Scope.recase, String.toList_append, List.filter_append, String.ofList_append]

theorem isAlphanum_of_mem_identifier {raw : String} {char : Char}
    (member : char ∈ (identifier .type raw).toList) : char.isAlphanum = true := by
  rw [identifier, String.toList_ofList] at member
  exact (List.mem_filter.1 member).2

theorem foldCase_append (front back : String) :
    foldCase (front ++ back) = foldCase front ++ foldCase back := by
  simp only [foldCase, String.toList_append, List.map_append, String.ofList_append]

theorem toLower_of_isDigit {char : Char} (digit : char.isDigit = true) : char.toLower = char := by
  unfold Char.isDigit at digit
  unfold Char.toLower
  rw [Bool.and_eq_true, decide_eq_true_eq, decide_eq_true_eq] at digit
  rw [dif_neg]
  rintro ⟨upper, -⟩
  have apart : ¬ 'A'.val ≤ '9'.val := by decide
  exact apart (UInt32.le_trans upper digit.2)

theorem eq_of_toDigits {first second : Nat}
    (digits : Nat.toDigits 10 first = Nat.toDigits 10 second) : first = second := by
  calc
    first = Nat.ofDigitChars 10 (Nat.toDigits 10 first) 0 := Nat.ofDigitChars_ten_toDigits.symm
    _ = Nat.ofDigitChars 10 (Nat.toDigits 10 second) 0 := by rw [digits]
    _ = second := Nat.ofDigitChars_ten_toDigits

/-- A number is known from the digits behind the last character that is none. -/
theorem append_toDigits_inj {front front' : List Char} {stop : Char} {number number' : Nat}
    (stops : stop.isDigit = false)
    (same : front ++ stop :: Nat.toDigits 10 number = front' ++ stop :: Nat.toDigits 10 number') :
    front = front' ∧ number = number' := by
  have digits (number : Nat) : ∀ char ∈ Nat.toDigits 10 number, char.isDigit = true :=
    fun char => Nat.isDigit_of_mem_toDigits (by omega) (by omega)
  obtain ⟨back, before⟩ := rtakeWhile_append front (digits number) stops
  obtain ⟨back', before'⟩ := rtakeWhile_append front' (digits number') stops
  rw [same, back'] at back
  rw [same, before'] at before
  exact ⟨(List.append_inj' before rfl).1.symm, eq_of_toDigits back.symm⟩

/-- Digits are the identifier of a number, whether or not case counts. -/
theorem foldCase_identifier_toString (number : Nat) :
    foldCase (identifier .type (toString number)) = toString number := by
  have digits : ∀ char ∈ (toString number).toList, char.isDigit = true := by
    rw [Nat.toString_eq_repr, Nat.toList_repr]
    exact fun char member => Nat.isDigit_of_mem_toDigits (by omega) (by omega) member
  have kept : (toString number).toList.filter Char.isAlphanum = (toString number).toList := by
    rw [List.filter_eq_self]
    intro char member
    rw [Char.isAlphanum, digits char member, Bool.or_true]
  have lowered : (toString number).toList.map Char.toLower = (toString number).toList := by
    calc
      (toString number).toList.map Char.toLower = (toString number).toList.map id :=
        List.map_congr_left fun char member => toLower_of_isDigit (digits char member)
      _ = (toString number).toList := List.map_id _
  simp only [foldCase, identifier, Scope.recase, kept, lowered, String.ofList_toList]

theorem foldCase_identifier_numbered_inj {raw : String} {first second : Nat}
    (same : foldCase (identifier .type (raw ++ toString first)) =
      foldCase (identifier .type (raw ++ toString second))) : first = second := by
  simp only [identifier_type_append, foldCase_append, foldCase_identifier_toString] at same
  have numbers : toString first = toString second := (String.append_right_inj _).1 same
  apply eq_of_toDigits
  rw [← Nat.toList_repr, ← Nat.toList_repr, ← Nat.toString_eq_repr, ← Nat.toString_eq_repr, numbers]

end ComponentSchema
