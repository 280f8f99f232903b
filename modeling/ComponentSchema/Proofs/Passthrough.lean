import Mathlib
import ComponentSchema.Compiler.Invocation

/-!
The additional arguments of the compiler.  They are the words of a text, less the quotes around all of it.
A name without white space and quotes stands in the text exactly if it stands in one of the words, since
neither taking the ends off nor dividing what is left can cut it or put it together.
-/

namespace ComponentSchema

namespace Words

section Infixes

variable {α : Type} {part front inner back : List α}

theorem eq_nil_of_disjoint {some_ : List α} (inside : ∀ item ∈ some_, item ∈ part)
    (outside : ∀ item ∈ some_, item ∉ part) : some_ = [] :=
  List.eq_nil_iff_forall_not_mem.2 fun item member => outside item member (inside item member)

theorem isInfix_append_left (apart : ∀ item ∈ front, item ∉ part) :
    part <:+: front ++ back ↔ part <:+: back := by
  rw [List.infix_append_iff]
  constructor
  · rintro (inside | inside | ⟨head, tail, rfl, suffix, start⟩)
    · have none : part = [] :=
        eq_nil_of_disjoint (fun _ member => member) fun item member => apart item (inside.subset member)
      exact none ▸ List.nil_infix
    · exact inside
    · have none : head = [] := eq_nil_of_disjoint (fun _ => List.mem_append_left tail)
        fun item member => apart item (suffix.subset member)
      rw [none, List.nil_append]
      exact start.isInfix
  · exact fun inside => .inr (.inl inside)

theorem isInfix_append_right (apart : ∀ item ∈ back, item ∉ part) :
    part <:+: front ++ back ↔ part <:+: front := by
  have reversed : ∀ item ∈ back.reverse, item ∉ part.reverse := by
    simpa only [List.mem_reverse] using apart
  rw [← List.reverse_infix, List.reverse_append, isInfix_append_left reversed, List.reverse_infix]

/-- Nothing can stand across a place behind which an item comes that it does not have. -/
theorem isInfix_append_iff (apart : ∀ item ∈ back.head?, item ∉ part) :
    part <:+: front ++ back ↔ part <:+: front ∨ part <:+: back := by
  rw [List.infix_append_iff]
  constructor
  · rintro (inside | inside | ⟨head, tail, rfl, suffix, start⟩)
    · exact .inl inside
    · exact .inr inside
    · cases tail with
      | nil => exact .inl (by simpa using suffix.isInfix)
      | cons first rest =>
        have here : first ∈ back.head? := by
          obtain ⟨others, rfl⟩ := start
          rfl
        exact absurd (List.mem_append_right head List.mem_cons_self) (apart first here)
  · rintro (inside | inside)
    · exact .inl inside
    · exact .inr (.inl inside)

end Infixes

theorem occurs_iff {part text : List Char} : occurs part text = true ↔ part <:+: text := by
  induction text with
  | nil => simp [occurs]
  | cons char rest ih =>
    rw [occurs, Bool.or_eq_true, List.isPrefixOf_iff_prefix, ih, List.infix_cons_iff]

/-- A text stands inside another one, with only such characters around it. -/
def Surrounded (around : Char → Prop) (inner text : List Char) : Prop :=
  ∃ front back, text = front ++ (inner ++ back) ∧ ∀ char ∈ front ++ back, around char

namespace Surrounded

variable {around : Char → Prop} {part inner middle text : List Char}

theorem trans (first : Surrounded around inner middle) (second : Surrounded around middle text) :
    Surrounded around inner text := by
  obtain ⟨front, back, rfl, ends⟩ := first
  obtain ⟨front', back', rfl, ends'⟩ := second
  refine ⟨front' ++ front, back ++ back', by simp only [List.append_assoc], ?_⟩
  intro char member
  simp only [List.mem_append] at ends ends' member
  rcases member with (outer | one) | (one | outer)
  · exact ends' char (.inl outer)
  · exact ends char (.inl one)
  · exact ends char (.inr one)
  · exact ends' char (.inr outer)

theorem isInfix_iff (surrounded : Surrounded around inner text)
    (apart : ∀ char ∈ part, ¬around char) : part <:+: text ↔ part <:+: inner := by
  obtain ⟨front, back, rfl, ends⟩ := surrounded
  rw [isInfix_append_left fun char member inside =>
      apart char inside (ends char (List.mem_append_left back member)),
    isInfix_append_right fun char member inside =>
      apart char inside (ends char (List.mem_append_right front member))]

end Surrounded

theorem surrounded_trim {around : Char → Prop} {test : Char → Bool}
    (implies : ∀ char, test char = true → around char) (text : List Char) :
    Surrounded around (trim test text) text := by
  have whole : text = text.takeWhile test ++ (trim test text ++
      ((text.dropWhile test).reverse.takeWhile test).reverse) := by
    rw [trim, ← List.reverse_append, List.takeWhile_append_dropWhile, List.reverse_reverse,
      List.takeWhile_append_dropWhile]
  refine ⟨_, _, whole, fun char member => implies char ?_⟩
  rw [List.mem_append, List.mem_reverse] at member
  rcases member with front | back
  · exact List.mem_takeWhile_imp front
  · exact List.mem_takeWhile_imp back

/-- Text that is divided into words begins with white space, or with a word that white space follows. -/
theorem words_induction {motive : List Char → Prop} (nil : motive [])
    (space : ∀ char rest, isSpace char = true → motive rest → motive (char :: rest))
    (word : ∀ front rest, front ≠ [] → (∀ char ∈ front, isSpace char = false) →
      (∀ char ∈ rest.head?, isSpace char = true) → motive rest → motive (front ++ rest))
    (text : List Char) : motive text := by
  induction size : text.length using Nat.strongRecOn generalizing text with
  | ind size ih =>
    subst size
    cases text with
    | nil => exact nil
    | cons char rest =>
      by_cases blank : isSpace char = true
      · exact space char rest blank (ih rest.length (by simp) rest rfl)
      · let solid : Char → Bool := fun char => !isSpace char
        have parts : char :: rest = (char :: rest.takeWhile solid) ++ rest.dropWhile solid := by
          rw [List.cons_append, List.takeWhile_append_dropWhile]
        have shorter : (rest.dropWhile solid).length < (char :: rest).length :=
          Nat.lt_succ_of_le (List.length_dropWhile_le solid rest)
        have first : ∀ other ∈ char :: rest.takeWhile solid, isSpace other = false := by
          refine List.forall_mem_cons.2 ⟨Bool.eq_false_of_not_eq_true blank, fun other member => ?_⟩
          simpa [solid] using List.mem_takeWhile_imp member
        have next : ∀ other ∈ (rest.dropWhile solid).head?, isSpace other = true := by
          intro other member
          have stops := List.head?_dropWhile_not solid rest
          rw [Option.mem_def.1 member] at stops
          simpa [solid] using stops
        rw [parts]
        exact word _ _ (by simp) first next (ih _ shorter _ rfl)

theorem split_append {front rest : List Char} (some_ : front ≠ [])
    (solid : ∀ char ∈ front, isSpace char = false)
    (next : ∀ char ∈ rest.head?, isSpace char = true) :
    split (front ++ rest) = front :: split rest := by
  induction front with
  | nil => exact absurd rfl some_
  | cons char others ih =>
    obtain ⟨here, later⟩ := List.forall_mem_cons.1 solid
    cases others with
    | nil =>
      cases rest with
      | nil => simp [split, here]
      | cons first behind =>
        have blank : isSpace first = true := next first rfl
        simp [split, here, blank]
    | cons second others =>
      have go_on : isSpace second = false := later second List.mem_cons_self
      have found := ih (by simp) later
      rw [List.cons_append] at found
      rw [List.cons_append, List.cons_append, split, here]
      simp only [Bool.false_eq_true, if_false, go_on, found]

theorem split_cons {char : Char} (blank : isSpace char = true) (rest : List Char) :
    split (char :: rest) = split rest := by
  rw [split.eq_def]
  simp [blank]

/-- Words are not empty and have no white space. -/
theorem solid_of_mem_split {word text : List Char} (member : word ∈ split text) :
    word ≠ [] ∧ ∀ char ∈ word, isSpace char = false := by
  induction text using words_induction with
  | nil => cases member
  | space char rest blank ih =>
    rw [split_cons blank] at member
    exact ih member
  | word front rest some_ solid next ih =>
    rw [split_append some_ solid next] at member
    rcases List.mem_cons.1 member with rfl | later
    · exact ⟨some_, solid⟩
    · exact ih later

/-- The words of a text are all of it but the white space. -/
theorem flatten_split (text : List Char) :
    (split text).flatten = text.filter fun char => !isSpace char := by
  induction text using words_induction with
  | nil => rfl
  | space char rest blank ih =>
    rw [split_cons blank, ih, List.filter_cons_of_neg (by simp [blank])]
  | word front rest some_ solid next ih =>
    have kept : front.filter (fun char => !isSpace char) = front := by
      refine List.filter_eq_self.2 fun char member => ?_
      rw [solid char member, Bool.not_false]
    rw [split_append some_ solid next, List.flatten_cons, ih, List.filter_append, kept]

/-- What has no white space stands in a text exactly if it stands in one of the words. -/
theorem isInfix_iff_exists_word {part text : List Char} (some_ : part ≠ [])
    (solid : ∀ char ∈ part, isSpace char = false) :
    part <:+: text ↔ ∃ word ∈ split text, part <:+: word := by
  induction text using words_induction with
  | nil => simp [split, some_]
  | space char rest blank ih =>
    have apart : ∀ item ∈ [char], item ∉ part := by
      simp only [List.mem_singleton, forall_eq]
      intro member
      rw [solid char member] at blank
      cases blank
    rw [← List.singleton_append, isInfix_append_left apart, ih, List.singleton_append,
      split_cons blank]
  | word front rest some_' solid' next ih =>
    have apart : ∀ char ∈ rest.head?, char ∉ part := by
      intro char first member
      have blank := next char first
      rw [solid char member] at blank
      cases blank
    rw [isInfix_append_iff apart, ih, split_append some_' solid' next]
    simp only [List.mem_cons, exists_eq_or_imp]

end Words

namespace CompilerSettings

open Words

/-- White space and quotes. -/
def IsPadding (char : Char) : Prop := isSpace char = true ∨ char = '"'

/-- The text that the words are taken from, with nothing but padding around it. -/
theorem exists_passthrough (settings : CompilerSettings) :
    ∃ inner, Surrounded IsPadding inner (settings.additionalArgs.getD "").toList ∧
      settings.passthrough = (split inner).map String.ofList := by
  unfold passthrough
  cases settings.additionalArgs with
  | none => exact ⟨[], ⟨[], [], rfl, by simp⟩, rfl⟩
  | some text =>
    have spaces (text : List Char) : Surrounded IsPadding (trim isSpace text) text :=
      surrounded_trim (fun _ => .inl) text
    have quotes (text : List Char) : Surrounded IsPadding (trim (· == '"') text) text :=
      surrounded_trim (fun _ same => .inr (beq_iff_eq.1 same)) text
    exact ⟨_, ((spaces _).trans (quotes _)).trans (spaces _), rfl⟩

theorem wantsAst_iff_occurs (settings : CompilerSettings) :
    settings.wantsAst = true ↔ ∃ switch ∈ astSwitches,
      switch.toList <:+: (settings.additionalArgs.getD "").toList := by
  unfold wantsAst
  cases settings.additionalArgs with
  | none => simp [astSwitches]
  | some text => simp only [Option.any_some, List.any_eq_true, occurs_iff, Option.getD_some]

theorem solid_of_mem_astSwitches : ∀ switch ∈ astSwitches, switch.toList ≠ [] ∧
    ∀ char ∈ switch.toList, isSpace char = false ∧ char ≠ '"' := by
  simp [astSwitches, isSpace]

/-- Syntax trees are asked for exactly if an argument that is passed on names one of the switches. -/
theorem wantsAst_iff (settings : CompilerSettings) :
    settings.wantsAst = true ↔ ∃ arg ∈ settings.passthrough, ∃ switch ∈ astSwitches,
      switch.toList <:+: arg.toList := by
  obtain ⟨inner, surrounded, passed⟩ := settings.exists_passthrough
  have found (switch : String) (listed : switch ∈ astSwitches) :
      switch.toList <:+: (settings.additionalArgs.getD "").toList ↔
        ∃ word ∈ split inner, switch.toList <:+: word := by
    obtain ⟨some_, solid⟩ := solid_of_mem_astSwitches switch listed
    have apart : ∀ char ∈ switch.toList, ¬IsPadding char := by
      rintro char member (blank | quote)
      · rw [(solid char member).1] at blank
        cases blank
      · exact (solid char member).2 quote
    rw [surrounded.isInfix_iff apart,
      isInfix_iff_exists_word some_ fun char member => (solid char member).1]
  rw [wantsAst_iff_occurs, passed]
  constructor
  · rintro ⟨switch, listed, inside⟩
    obtain ⟨word, member, here⟩ := (found switch listed).1 inside
    refine ⟨String.ofList word, List.mem_map_of_mem member, switch, listed, ?_⟩
    rwa [String.toList_ofList]
  · rintro ⟨arg, member, switch, listed, here⟩
    obtain ⟨word, divided, rfl⟩ := List.mem_map.1 member
    rw [String.toList_ofList] at here
    exact ⟨switch, listed, (found switch listed).2 ⟨word, divided, here⟩⟩

/-- Syntax trees are asked for exactly if one of the arguments that are passed on names a switch for them.
Each of these is a word, together they are the text between the outer padding less its white space, and
they are the last arguments of the compiler, behind those it is given anyway. -/
theorem passthrough_tells (settings : CompilerSettings) :
    (settings.wantsAst = true ↔ ∃ arg ∈ settings.passthrough,
      "ast_proto_out".toList <:+: arg.toList ∨ "ast_json_out".toList <:+: arg.toList) ∧
    (∀ arg ∈ settings.passthrough, arg ≠ "" ∧ ∀ char ∈ arg.toList, isSpace char = false) ∧
    (∃ inner, Surrounded IsPadding inner (settings.additionalArgs.getD "").toList ∧
      settings.passthrough.flatMap String.toList = inner.filter fun char => !isSpace char) ∧
    settings.args = { settings with additionalArgs := none }.args ++ settings.passthrough := by
  obtain ⟨inner, surrounded, passed⟩ := settings.exists_passthrough
  refine ⟨?_, ?_, ⟨inner, surrounded, ?_⟩, ?_⟩
  · rw [wantsAst_iff]
    simp only [astSwitches, List.mem_cons, List.not_mem_nil, or_false, exists_eq_or_imp,
      exists_eq_left]
  · rw [passed]
    intro arg member
    obtain ⟨word, listed, rfl⟩ := List.mem_map.1 member
    obtain ⟨some_, solid⟩ := solid_of_mem_split listed
    rw [String.toList_ofList]
    exact ⟨fun empty => some_ (String.ofList_eq_empty_iff.1 empty), solid⟩
  · rw [passed, List.flatMap_map, ← flatten_split, List.flatten_eq_flatMap]
    simp only [String.toList_ofList]
    rfl
  · have own : { settings with additionalArgs := none }.passthrough = [] := rfl
    rw [args, args, own, List.append_nil]
    rfl

end CompilerSettings

end ComponentSchema
