import ComponentSchema.Proofs.Json.Values

/-!
How deep values are nested.  Of a value that was made of texts, truth values and numbers of 64 bits the depth
alone decides whether it can be read in full.
-/

namespace ComponentSchema

namespace Json

mutual

/-- How many arrays and objects stand inside each other. -/
def depth : Json → Nat
  | .array items => depths items + 1
  | .object members => memberDepths members + 1
  | _ => 0

/-- The depth of the deepest item. -/
def depths : List Json → Nat
  | [] => 0
  | item :: items => max item.depth (depths items)

def memberDepths : List (List Char × Json) → Nat
  | [] => 0
  | (_, value) :: members => max value.depth (memberDepths members)

end

variable {items : List Json} {members : List (List Char × Json)} {levels : Nat}

theorem depths_le_iff : depths items ≤ levels ↔ ∀ item ∈ items, item.depth ≤ levels := by
  induction items with
  | nil => simp [depths]
  | cons item items ih => simp only [depths, max_le_iff, ih, List.forall_mem_cons]

theorem memberDepths_le_iff :
    memberDepths members ≤ levels ↔ ∀ member ∈ members, member.2.depth ≤ levels := by
  induction members with
  | nil => simp [memberDepths]
  | cons member members ih => simp only [memberDepths, max_le_iff, ih, List.forall_mem_cons]

theorem depth_array_le_iff :
    (array items).depth ≤ levels + 1 ↔ ∀ item ∈ items, item.depth ≤ levels := by
  rw [depth, Nat.add_le_add_iff_right, depths_le_iff]

theorem depth_object_le_iff :
    (object members).depth ≤ levels + 1 ↔ ∀ member ∈ members, member.2.depth ≤ levels := by
  rw [depth, Nat.add_le_add_iff_right, memberDepths_le_iff]

theorem depth_ofMembers_le_iff {members : List (String × Json)} :
    (ofMembers members).depth ≤ levels + 1 ↔ ∀ member ∈ members, member.2.depth ≤ levels := by
  rw [ofMembers, depth_object_le_iff, List.forall_mem_map]

theorem one_le_depth_ofMembers (members : List (String × Json)) : 1 ≤ (ofMembers members).depth := by
  rw [ofMembers, depth]
  exact Nat.le_add_left 1 _

theorem areReadable_iff :
    areReadable levels items = true ↔ ∀ item ∈ items, item.isReadable levels = true := by
  induction items with
  | nil => simp [areReadable]
  | cons item items ih => simp only [areReadable, Bool.and_eq_true, ih, List.forall_mem_cons]

theorem membersAreReadable_iff : membersAreReadable levels members = true ↔
    ∀ member ∈ members, (decodeContent? member.1).isSome = true ∧ member.2.isReadable levels = true := by
  induction members with
  | nil => simp [membersAreReadable]
  | cons member members ih =>
    simp only [membersAreReadable, Bool.and_eq_true, ih, List.forall_mem_cons]

section Numbers

/-- The number that digits stand for behind others. -/
def valueFrom (start : Nat) (digits : List Char) : Nat :=
  digits.foldl (fun number digit => 10 * number + (digit.toNat - '0'.toNat)) start

theorem le_valueFrom (start : Nat) (digits : List Char) : start ≤ valueFrom start digits := by
  induction digits generalizing start with
  | nil => exact Nat.le_refl start
  | cons digit rest ih =>
    have later := ih (10 * start + (digit.toNat - '0'.toNat))
    rw [valueFrom, List.foldl_cons]
    unfold valueFrom at later
    omega

/-- As long as the whole number fits, no digit is left out. -/
theorem addWhole_eq {number : Scaled} {digits : List Char}
    (small : valueFrom number.significand digits < UInt64.size) :
    number.addWhole digits = ⟨valueFrom number.significand digits, number.exponent⟩ := by
  induction digits generalizing number with
  | nil => rfl
  | cons digit rest ih =>
    have next : 10 * number.significand + Digits.decimalValue [digit] =
        10 * number.significand + (digit.toNat - '0'.toNat) := by simp [Digits.decimalValue]
    have fits := Nat.lt_of_le_of_lt (le_valueFrom _ rest) small
    rw [Scaled.addWhole, next, if_pos fits]
    exact ih small

theorem roundToFloat_le (value : Nat) : roundToFloat value ≤ 2 * value := by
  unfold roundToFloat
  by_cases small : value < Nat.pow 2 53
  · rw [if_pos small]
    omega
  · rw [if_neg small]
    have some_ : value ≠ 0 := by
      rintro rfl
      exact small (by decide)
    have unit : 2 ^ (value.log2 - 52) ≤ value :=
      (Nat.pow_le_pow_right (by omega) (Nat.sub_le _ _)).trans (Nat.log2_self_le some_)
    have kept := Nat.div_mul_le_self value (2 ^ (value.log2 - 52))
    simp only [Nat.shiftRight_eq_div_pow, Nat.shiftLeft_eq]
    split
    · rw [Nat.add_mul]
      omega
    · omega

theorem isFinite_decimal {value : Nat} (small : value < UInt64.size) : isFinite (decimal value) = true := by
  have digits : ∀ char ∈ decimal value, char.isDigit = true := fun char => isDigit_of_mem_decimal
  have unsigned : (decimal value).head? ≠ some '-' := by
    intro sign
    exact absurd (digits '-' (List.mem_of_mem_head? sign)) (by decide)
  have scanned : scanDigits (decimal value) = (decimal value, []) := by
    unfold scanDigits
    rw [List.takeWhile_eq_self_iff.2 digits, List.dropWhile_eq_nil_iff.2 digits]
  have back : valueFrom 0 (decimal value) = value := decimalValue_decimal value
  have whole : Scaled.addWhole ⟨0, 0⟩ (decimal value) = ⟨value, 0⟩ := by
    have fits : valueFrom (Scaled.mk 0 0).significand (decimal value) < UInt64.size := by rwa [back]
    rw [addWhole_eq fits, back]
  have number : Scaled.ofLexeme (decimal value) = ⟨value, 0⟩ := by
    simp [Scaled.ofLexeme, unsigned, scanned, whole, Scaled.addFraction, Scaled.exponentOf,
      Digits.decimalValue]
  have rounded : roundToFloat value < floatBound := by
    have twice := roundToFloat_le value
    have room : 2 * UInt64.size < floatBound := by decide +kernel
    omega
  have one : roundToFloat (Nat.pow 10 (0 : Int).toNat) = 1 := by decide
  rw [isFinite, number, Scaled.isFinite, one]
  simp [rounded]

end Numbers

/-- Values that are made of texts, truth values and numbers of 64 bits. -/
inductive IsEncoded : Json → Prop
  | bool (value : Bool) : IsEncoded (.bool value)
  | ofString (text : String) : IsEncoded (.ofString text)
  | ofNat {value : Nat} (small : value < UInt64.size) : IsEncoded (.ofNat value)
  | array {items : List Json} (each : ∀ item ∈ items, IsEncoded item) : IsEncoded (.array items)
  | ofMembers {members : List (String × Json)} (each : ∀ member ∈ members, IsEncoded member.2) :
    IsEncoded (.ofMembers members)

namespace IsEncoded

variable {value : Json}

theorem isWritten (encoded : value.IsEncoded) : value.IsWritten := by
  induction encoded with
  | bool value => exact .bool value
  | ofString text => exact isWritten_ofString text
  | @ofNat value small => exact isWritten_ofNat value
  | array _ each => exact .array each
  | ofMembers _ each => exact isWritten_ofMembers each

theorem isReadable_iff (encoded : value.IsEncoded) :
    value.isReadable levels = true ↔ value.depth ≤ levels := by
  induction encoded generalizing levels with
  | bool value => simp [isReadable, depth]
  | ofString text => simp [isReadable, depth, Json.ofString, decodeContent?_escape]
  | ofNat small => simp [isReadable, depth, Json.ofNat, isFinite_decimal small]
  | array _ each =>
    cases levels with
    | zero => simp [isReadable, depth]
    | succ levels =>
      rw [isReadable, depth_array_le_iff, Nat.add_sub_cancel, Bool.and_eq_true, areReadable_iff]
      simp only [Nat.zero_lt_succ, decide_true, true_and]
      exact forall₂_congr fun item listed => each item listed
  | ofMembers _ each =>
    cases levels with
    | zero => simp [isReadable, depth, Json.ofMembers]
    | succ levels =>
      rw [depth_ofMembers_le_iff, Json.ofMembers, isReadable, Nat.add_sub_cancel, Bool.and_eq_true,
        membersAreReadable_iff, List.forall_mem_map]
      simp only [Nat.zero_lt_succ, decide_true, true_and, decodeContent?_escape, Option.isSome_some]
      exact forall₂_congr fun member listed => each member listed

end IsEncoded

end Json

end ComponentSchema
