import ComponentSchema.Proofs.Words

/-!
What identifiers keep of raw names.  Every scope keeps the letters and digits and may change their case, so
an identifier is its own identifier, and those of one raw name differ in case only.  Whether they are usable
is seen in the raw name already: the first letter or digit in it has to be a letter.
-/

namespace ComponentSchema

def asciiLetters : List Char :=
  "ABCDEFGHIJKLMNOPQRSTUVWXYZabcdefghijklmnopqrstuvwxyz".toList

def asciiDigits : List Char := "0123456789".toList

/-- The characters that schema names are made of. -/
def alphabet : List Char := asciiLetters ++ asciiDigits

/-- A class of characters whose codes are bounded is known from the codes below the bound. -/
theorem mem_iff_of_codes {chars : List Char} {belongs : Char → Bool} (bound : Nat)
    (bounded : ∀ char, belongs char = true → char.toNat < bound)
    (listed : ∀ code < bound, belongs (Char.ofNat code) = true → Char.ofNat code ∈ chars)
    (only : chars.all belongs = true) {char : Char} : char ∈ chars ↔ belongs char = true := by
  refine ⟨List.all_eq_true.1 only char, fun belonging => ?_⟩
  have found := listed char.toNat (bounded char belonging)
  rw [Char.ofNat_toNat] at found
  exact found belonging

theorem mem_asciiLetters {char : Char} : char ∈ asciiLetters ↔ char.isAlpha = true := by
  refine mem_iff_of_codes ('z'.toNat + 1) (fun char letter => ?_) (by decide +kernel) (by decide +kernel)
  simp only [Char.isAlpha, Char.isUpper, Char.isLower, Bool.or_eq_true, Bool.and_eq_true,
    decide_eq_true_eq, UInt32.le_iff_toNat_le, ge_iff_le] at letter
  change (65 ≤ char.toNat ∧ char.toNat ≤ 90) ∨ (97 ≤ char.toNat ∧ char.toNat ≤ 122) at letter
  change char.toNat < 123
  omega

theorem mem_asciiDigits {char : Char} : char ∈ asciiDigits ↔ char.isDigit = true := by
  refine mem_iff_of_codes ('9'.toNat + 1) (fun char digit => ?_) (by decide +kernel) (by decide +kernel)
  simp only [Char.isDigit, Bool.and_eq_true, decide_eq_true_eq, UInt32.le_iff_toNat_le, ge_iff_le] at digit
  change 48 ≤ char.toNat ∧ char.toNat ≤ 57 at digit
  change char.toNat < 58
  omega

theorem mem_alphabet {char : Char} : char ∈ alphabet ↔ char.isAlphanum = true := by
  rw [alphabet, List.mem_append, mem_asciiLetters, mem_asciiDigits, Char.isAlphanum, Bool.or_eq_true]

theorem isPlain_iff_subset {text : String} : IsPlain text ↔ text.toList ⊆ alphabet :=
  forall₂_congr fun _ _ => mem_alphabet.symm

theorem Scope.recase_recase (scope : Scope) (name : List Char) :
    scope.recase (scope.recase name) = scope.recase name := by
  cases scope with
  | type => rfl
  | component =>
    cases name with
    | nil => rfl
    | cons first rest => exact congrArg (· :: rest) first.toUpper_toUpper_eq_toUpper
  | field =>
    rw [recase, recase, List.map_map]
    exact List.map_congr_left fun char _ => char.toLower_toLower_eq_toLower

theorem IsPlain.identifier_eq {name : String} (plain : IsPlain name) (scope : Scope) :
    identifier scope name = String.ofList (scope.recase name.toList) := by
  rw [identifier, List.filter_eq_self.2 plain]

theorem identifier_identifier (scope : Scope) (raw : String) :
    identifier scope (identifier scope raw) = identifier scope raw := by
  let kept := raw.toList.filter Char.isAlphanum
  calc
    identifier scope (identifier scope raw) =
        String.ofList (scope.recase (identifier scope raw).toList) :=
      (isPlain_identifier scope raw).identifier_eq scope
    _ = String.ofList (scope.recase (scope.recase kept)) := by rw [identifier, String.toList_ofList]
    _ = identifier scope raw := by rw [Scope.recase_recase, identifier]

theorem identifier_type_eq_self_iff {name : String} :
    identifier .type name = name ↔ name.toList ⊆ alphabet := by
  rw [← isPlain_iff_subset]
  constructor
  · intro same
    rw [← same]
    exact isPlain_identifier .type name
  · intro plain
    rw [plain.identifier_eq, Scope.recase, String.ofList_toList]

theorem toList_identifier_component (raw : String) :
    (identifier .component raw).toList = (identifier .type raw).toList.modifyHead Char.toUpper := by
  unfold identifier
  rw [String.toList_ofList, String.toList_ofList, Scope.recase]
  cases raw.toList.filter Char.isAlphanum <;> rfl

theorem identifier_field (raw : String) : identifier .field raw = (identifier .type raw).toLower := by
  rw [← String.toList_inj, String.toLower, String.toList_map]
  unfold identifier
  rw [String.toList_ofList, String.toList_ofList]
  rfl

theorem numbered_eq (raw : String) (number : Nat) :
    NameRegistry.numbered raw number =
      identifier .type raw ++ String.ofList (Nat.toDigits 10 number) := by
  have plain : identifier .type (toString number) = toString number :=
    identifier_type_eq_self_iff.2 (isPlain_iff_subset.1 (isPlain_toString number))
  rw [NameRegistry.numbered, identifier_type_append, plain, Nat.toString_eq_repr, Nat.repr]

theorem isDigit_of_isAlpha {char : Char} (letter : char.isAlpha = true) : char.isDigit = false := by
  have apart : (asciiLetters.all fun letter => !letter.isDigit) = true := by decide +kernel
  have digitless := List.all_eq_true.1 apart char (mem_asciiLetters.2 letter)
  rwa [Bool.not_eq_true'] at digitless

theorem isDigit_toLower (char : Char) : char.toLower.isDigit = char.isDigit := by
  cases letter : char.isAlpha with
  | true =>
    rw [isDigit_of_isAlpha letter, isDigit_of_isAlpha]
    rw [Char.isAlpha_toLower_eq_isAlpha, letter]
  | false =>
    rw [Char.isAlpha, Bool.or_eq_false_iff] at letter
    rw [Char.toLower_eq_of_not_isUpper (Bool.eq_false_iff.1 letter.1)]

theorem isDigit_toUpper (char : Char) : char.toUpper.isDigit = char.isDigit := by
  rw [← isDigit_toLower, Char.toLower_toUpper_eq_toLower, isDigit_toLower]

/-- What becomes of a raw name as an identifier, seen from the raw name: nothing of it is kept, or what is
kept begins with a digit, or with a letter. -/
inductive Verdict (raw : String) : Option NameFault → Prop
  | empty (bare : raw.toList.Disjoint alphabet) : Verdict raw (some .empty)
  | leadingDigit {front rest : List Char} {digit : Char} (bare : front.Disjoint alphabet)
    (first : digit ∈ asciiDigits) (spelled : raw.toList = front ++ digit :: rest) :
    Verdict raw (some .leadingDigit)
  | usable {front rest : List Char} {letter : Char} (bare : front.Disjoint alphabet)
    (first : letter ∈ asciiLetters) (spelled : raw.toList = front ++ letter :: rest) : Verdict raw none

theorem filter_isAlphanum_eq_nil_iff {chars : List Char} :
    chars.filter Char.isAlphanum = [] ↔ chars.Disjoint alphabet := by
  rw [List.filter_eq_nil_iff, List.disjoint_left]
  exact forall₂_congr fun _ _ => not_congr mem_alphabet.symm

theorem exists_verdict (raw : String) : ∃ fault, Verdict raw fault := by
  cases kept : raw.toList.filter Char.isAlphanum with
  | nil => exact ⟨_, .empty (filter_isAlphanum_eq_nil_iff.1 kept)⟩
  | cons first rest =>
    obtain ⟨front, back, spelled, dropped, plain, -⟩ := List.filter_eq_cons_iff.1 kept
    have bare : front.Disjoint alphabet :=
      filter_isAlphanum_eq_nil_iff.1 (List.filter_eq_nil_iff.2 dropped)
    rcases List.mem_append.1 (mem_alphabet.2 plain) with letter | digit
    · exact ⟨_, .usable bare letter spelled⟩
    · exact ⟨_, .leadingDigit bare digit spelled⟩

theorem Scope.exists_recase_cons (scope : Scope) (first : Char) (rest : List Char) :
    ∃ cased others, scope.recase (first :: rest) = cased :: others ∧ cased.isDigit = first.isDigit := by
  cases scope with
  | type => exact ⟨first, rest, rfl, rfl⟩
  | component => exact ⟨first.toUpper, rest, rfl, isDigit_toUpper first⟩
  | field => exact ⟨first.toLower, rest.map Char.toLower, rfl, isDigit_toLower first⟩

theorem nameFault_identifier_of_spelled {raw : String} {front rest : List Char} {first : Char}
    (bare : front.Disjoint alphabet) (plain : first ∈ alphabet)
    (spelled : raw.toList = front ++ first :: rest) (scope : Scope) :
    nameFault (identifier scope raw) = if first.isDigit then some .leadingDigit else none := by
  -- the fault lies in the first character that is kept, however that is cased
  obtain ⟨cased, others, recased, digit⟩ :=
    scope.exists_recase_cons first (rest.filter Char.isAlphanum)
  unfold nameFault identifier
  rw [String.toList_ofList, spelled, List.filter_append, filter_isAlphanum_eq_nil_iff.2 bare,
    List.nil_append, List.filter_cons_of_pos (mem_alphabet.1 plain), recased]
  dsimp only
  rw [digit]

theorem Verdict.nameFault_eq {raw : String} {fault : Option NameFault} (verdict : Verdict raw fault)
    (scope : Scope) : nameFault (identifier scope raw) = fault := by
  cases verdict with
  | empty bare =>
    unfold nameFault identifier
    rw [String.toList_ofList, filter_isAlphanum_eq_nil_iff.2 bare]
    cases scope <;> rfl
  | leadingDigit bare first spelled =>
    rw [nameFault_identifier_of_spelled bare (List.mem_append_right _ first) spelled, if_pos]
    exact mem_asciiDigits.1 first
  | usable bare first spelled =>
    rw [nameFault_identifier_of_spelled bare (List.mem_append_left _ first) spelled, if_neg]
    exact Bool.eq_false_iff.1 (isDigit_of_isAlpha (mem_asciiLetters.1 first))

/-- The identifiers of a raw name have one fault in all scopes, or none, and that is its verdict. -/
theorem exists_nameFault_identifier (raw : String) :
    ∃ fault, (∀ scope, nameFault (identifier scope raw) = fault) ∧
      ∀ other, Verdict raw other ↔ other = fault := by
  obtain ⟨fault, verdict⟩ := exists_verdict raw
  refine ⟨fault, verdict.nameFault_eq, fun other => ⟨fun another => ?_, ?_⟩⟩
  · exact (another.nameFault_eq .type).symm.trans (verdict.nameFault_eq .type)
  · rintro rfl
    exact verdict

/-- Making an identifier is a projection onto the names that have letters and digits only, in the casing of
its scope.  Of a class name it keeps each part by itself, so a number behind the raw name stands behind the
identifier, and different numbers tell candidates apart even up to case.  The other scopes recase what is
kept of a class name, its first character or all of it.  Whether an identifier is usable, and else what is
wrong with it, is the same in all scopes. -/
theorem identifier_projects (raw : String) :
    (∀ scope, identifier scope (identifier scope raw) = identifier scope raw ∧
      (identifier scope raw).toList ⊆ alphabet) ∧
    (identifier .type raw = raw ↔ raw.toList ⊆ alphabet) ∧
    (∀ back, identifier .type (raw ++ back) = identifier .type raw ++ identifier .type back) ∧
    (∀ number, NameRegistry.numbered raw number =
      identifier .type raw ++ String.ofList (Nat.toDigits 10 number)) ∧
    (∀ first second, foldCase (NameRegistry.numbered raw first) =
      foldCase (NameRegistry.numbered raw second) ↔ first = second) ∧
    (identifier .component raw).toList = (identifier .type raw).toList.modifyHead Char.toUpper ∧
    identifier .field raw = (identifier .type raw).toLower ∧
    ∃ fault, (∀ scope, nameFault (identifier scope raw) = fault) ∧
      ∀ other, Verdict raw other ↔ other = fault := by
  refine ⟨fun scope => ⟨identifier_identifier scope raw, ?_⟩, identifier_type_eq_self_iff,
    identifier_type_append raw, numbered_eq raw, fun first second => ⟨?_, ?_⟩,
    toList_identifier_component raw, identifier_field raw, exists_nameFault_identifier raw⟩
  · exact isPlain_iff_subset.1 (isPlain_identifier scope raw)
  · exact foldCase_identifier_numbered_inj
  · rintro rfl
    rfl

/-- What lies outside the alphabet goes before anything is cased. -/
example : [Scope.type, .component, .field].map (identifier · "_mésh 2 ÇoMP") =
    ["msh2oMP", "Msh2oMP", "msh2omp"] := by
  decide +kernel

end ComponentSchema
