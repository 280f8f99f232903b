import ComponentSchema.Json.Decode
import Mathlib

/-!
Strings and numbers as they are written.  A reader that comes upon one takes exactly what was
written, and decoding what it took gives back the text or the number.
-/

namespace ComponentSchema

namespace Json

/-- Content of a string that a reader takes up to the closing quote. -/
def IsContent (content : List Char) : Prop :=
  ∀ rest, scanString (content ++ '"' :: rest) = some (content, rest)

theorem scanString_plain {char : Char} (quote : char ≠ '"') (backslash : char ≠ '\\')
    (printable : 32 ≤ char.toNat) (rest : List Char) :
    scanString (char :: rest) = ahead [char] (scanString rest) := by
  rw [scanString.eq_def]
  simp only [quote, backslash, if_false, if_neg (Nat.not_lt.2 printable)]

theorem scanString_short {letter meaning : Char} (short : shortEscape? letter = some meaning)
    (rest : List Char) :
    scanString ('\\' :: letter :: rest) = ahead ['\\', letter] (scanString rest) := by
  have other : letter ≠ 'u' := by
    rintro rfl
    cases short
  rw [scanString.eq_def]
  simp [other, short]

theorem hexValue?_hexDigit (value : Nat) (small : value < 16) :
    Digits.hexValue? (hexDigit value) = some value := by
  have all : ∀ value < 16, Digits.hexValue? (hexDigit value) = some value := by decide
  exact all value small

/-- What an escaped character is read as. -/
def pieceOf (char : Char) : Piece :=
  if char.toNat < 32 ∧ char ≠ '\n' ∧ char ≠ '\r' ∧ char ≠ '\t' ∧ char ≠ '\x08' ∧ char ≠ '\x0c' then
    .unit char.toNat
  else .char char

/-- How a character is written: by itself, with a letter that stands for it, or by its number. -/
theorem escapeChar_cases (char : Char) :
    (escapeChar char = [char] ∧ pieceOf char = .char char ∧
        char ≠ '"' ∧ char ≠ '\\' ∧ 32 ≤ char.toNat) ∨
      (∃ letter, escapeChar char = ['\\', letter] ∧ pieceOf char = .char char ∧
        shortEscape? letter = some char) ∨
      (escapeChar char =
          ['\\', 'u', '0', '0', hexDigit (char.toNat / 16), hexDigit (char.toNat % 16)] ∧
        pieceOf char = .unit char.toNat ∧ char.toNat < 32) := by
  unfold escapeChar
  split_ifs with quote backslash newline return_ tab back feed control
  · exact .inr (.inl ⟨'"', rfl, by subst quote; rfl, by subst quote; rfl⟩)
  · exact .inr (.inl ⟨'\\', rfl, by subst backslash; rfl, by subst backslash; rfl⟩)
  · exact .inr (.inl ⟨'n', rfl, by subst newline; rfl, by subst newline; rfl⟩)
  · exact .inr (.inl ⟨'r', rfl, by subst return_; rfl, by subst return_; rfl⟩)
  · exact .inr (.inl ⟨'t', rfl, by subst tab; rfl, by subst tab; rfl⟩)
  · exact .inr (.inl ⟨'b', rfl, by subst back; rfl, by subst back; rfl⟩)
  · exact .inr (.inl ⟨'f', rfl, by subst feed; rfl, by subst feed; rfl⟩)
  · exact .inr (.inr ⟨rfl, if_pos ⟨control, newline, return_, tab, back, feed⟩, control⟩)
  · exact .inl ⟨rfl, if_neg fun unit => control unit.1, quote, backslash, Nat.not_lt.1 control⟩

theorem scanString_escapeChar (char : Char) (rest : List Char) :
    scanString (escapeChar char ++ rest) = ahead (escapeChar char) (scanString rest) := by
  rcases escapeChar_cases char with
    ⟨written, -, quote, backslash, printable⟩ | ⟨letter, written, -, short⟩ |
      ⟨written, -, control⟩
  · rw [written]
    exact scanString_plain quote backslash printable rest
  · rw [written]
    exact scanString_short short rest
  · have high := hexValue?_hexDigit (char.toNat / 16) (by omega)
    have low := hexValue?_hexDigit (char.toNat % 16) (by omega)
    have zero : Digits.hexValue? '0' = some 0 := rfl
    rw [written, scanString.eq_def]
    simp [high, low, zero]

/-- The content that a text is written with. -/
theorem isContent_escape (text : String) : IsContent (escape text) := by
  intro rest
  unfold escape
  induction text.toList with
  | nil =>
    rw [List.flatMap_nil, List.nil_append, scanString.eq_def]
    rfl
  | cons char others ih =>
    rw [List.flatMap_cons, List.append_assoc, scanString_escapeChar, ih]
    rfl

theorem unescape_escapeChar (char : Char) (rest : List Char) :
    unescape (escapeChar char ++ rest) = (unescape rest).map (pieceOf char :: ·) := by
  rcases escapeChar_cases char with
    ⟨written, piece, quote, backslash, printable⟩ | ⟨letter, written, piece, short⟩ |
      ⟨written, piece, control⟩
  · rw [written, piece, List.singleton_append, unescape.eq_def]
    simp only [backslash, if_false]
  · have other : letter ≠ 'u' := by
      rintro rfl
      cases short
    rw [written, piece, List.cons_append, unescape.eq_def]
    simp [other, short]
  · have number : Digits.number? 16
        ['0', '0', hexDigit (char.toNat / 16), hexDigit (char.toNat % 16)] = some char.toNat := by
      have all : ∀ value < 32, Digits.number? 16
          ['0', '0', hexDigit (value / 16), hexDigit (value % 16)] = some value := by decide
      exact all char.toNat control
    rw [written, piece, List.cons_append, unescape.eq_def]
    simp [number]

theorem joinUnits_pieceOf (char : Char) (rest : List Piece) :
    joinUnits (pieceOf char :: rest) = (joinUnits rest).map (char :: ·) := by
  unfold pieceOf
  split
  next control =>
    have high : isHighUnit char.toNat = false := by
      have := control.1
      simp only [isHighUnit, Bool.and_eq_false_iff, decide_eq_false_iff_not]
      omega
    have low : isLowUnit char.toNat = false := by
      have := control.1
      simp only [isLowUnit, Bool.and_eq_false_iff, decide_eq_false_iff_not]
      omega
    rw [joinUnits.eq_def]
    simp [high, low, Char.ofNat_toNat]
  next plain => rw [joinUnits.eq_def]

/-- What was written for a text is read as the text. -/
theorem decodeContent?_escape (text : String) : decodeContent? (escape text) = some text := by
  have pieces (chars : List Char) :
      (unescape (chars.flatMap escapeChar)).bind joinUnits = some chars := by
    induction chars with
    | nil => rfl
    | cons char others ih =>
      rw [List.flatMap_cons, unescape_escapeChar]
      cases read : unescape (others.flatMap escapeChar) with
      | none =>
        rw [read] at ih
        cases ih
      | some pieces =>
        rw [read, Option.bind_some] at ih
        rw [Option.map_some, Option.bind_some, joinUnits_pieceOf, ih, Option.map_some]
  rw [decodeContent?, escape, pieces, Option.map_some, String.ofList_toList]

theorem isDigit_of_mem_decimal {value : Nat} {char : Char} (member : char ∈ decimal value) :
    char.isDigit = true :=
  Nat.isDigit_of_mem_toDigits (by omega) (by omega) member

/-- A number is written as a zero alone, or does not start with one. -/
theorem decimal_cases (value : Nat) :
    decimal value = ['0'] ∨ ∃ first rest, decimal value = first :: rest ∧ first ≠ '0' := by
  induction value using Nat.strongRecOn with
  | ind value ih =>
    by_cases small : value < 10
    · have written : decimal value = [Nat.digitChar value] := Nat.toDigits_of_lt_base small
      have digits : ∀ digit < 10, digit = 0 ∨ Nat.digitChar digit ≠ '0' := by decide
      rcases digits value small with rfl | other
      · exact .inl written
      · exact .inr ⟨_, [], written, other⟩
    · right
      have written : decimal value = decimal (value / 10) ++ decimal (value % 10) := by
        unfold decimal
        rw [Nat.toDigits_append_toDigits (by omega) (by omega) (by omega), Nat.div_add_mod]
      rcases ih (value / 10) (by omega) with zero | ⟨first, rest, lead, other⟩
      · have positive : 0 < value / 10 := by omega
        have back := Nat.ofDigitChars_ten_toDigits (n := value / 10)
        unfold decimal at zero
        rw [zero] at back
        simp only [Nat.ofDigitChars_cons, Nat.ofDigitChars_nil] at back
        omega
      · exact ⟨first, rest ++ decimal (value % 10), by rw [written, lead]; rfl, other⟩

theorem decimal_ne_nil (value : Nat) : decimal value ≠ [] := Nat.toDigits_ne_nil

/-- What may follow a number: nothing that could go on with it. -/
def EndsNumber (rest : List Char) : Prop :=
  ∀ first ∈ rest.head?, first.isDigit = false ∧ first ≠ '.' ∧ first ≠ 'e' ∧ first ≠ 'E'

theorem scanWhole_decimal (value : Nat) {rest : List Char} (ends : EndsNumber rest) :
    scanWhole (decimal value ++ rest) = some (decimal value, rest) := by
  have digits : ∀ char ∈ decimal value, char.isDigit = true := fun char => isDigit_of_mem_decimal
  have stops : rest.takeWhile Char.isDigit = [] ∧ rest.dropWhile Char.isDigit = rest := by
    cases rest with
    | nil => exact ⟨rfl, rfl⟩
    | cons first others =>
      have other := (ends first rfl).1
      simp [other]
  rcases decimal_cases value with zero | ⟨first, others, lead, nonzero⟩
  · rw [zero]
    rfl
  · have digit : first.isDigit = true := digits first (lead ▸ List.mem_cons_self)
    have scanned : scanDigits (decimal value ++ rest) = (decimal value, rest) := by
      unfold scanDigits
      rw [List.takeWhile_append_of_pos digits, List.dropWhile_append_of_pos digits, stops.1,
        stops.2, List.append_nil]
    rw [lead, List.cons_append] at scanned ⊢
    simp only [scanWhole, nonzero, if_false, digit, if_true, scanned]

theorem scanNumber_decimal (value : Nat) {rest : List Char} (ends : EndsNumber rest) :
    scanNumber (decimal value ++ rest) = some (decimal value, rest) := by
  have whole := scanWhole_decimal value ends
  have fraction : scanFraction rest = some ([], rest) := by
    unfold scanFraction
    split
    next digits => exact absurd rfl (ends '.' rfl).2.1
    next => rfl
  have exponent : scanExponent rest = some ([], rest) := by
    cases rest with
    | nil => rfl
    | cons first others =>
      have other := (ends first rfl).2.2
      simp only [scanExponent, other.1, other.2, or_self, if_false]
  have unsigned : scanUnsigned (decimal value ++ rest) = some (decimal value, rest) := by
    simp [scanUnsigned, whole, fraction, exponent]
  unfold scanNumber
  split
  next digits sign =>
    exfalso
    cases written : decimal value with
    | nil => exact decimal_ne_nil value written
    | cons first others =>
      rw [written, List.cons_append, List.cons.injEq] at sign
      have digit := isDigit_of_mem_decimal (written ▸ List.mem_cons_self : first ∈ decimal value)
      rw [sign.1] at digit
      exact absurd digit (by decide)
  next => exact unsigned

/-- A number that a reader takes up to where it ends. -/
structure IsLexeme (lexeme : List Char) : Prop where
  begins : ∃ first rest, lexeme = first :: rest ∧ (first.isDigit = true ∨ first = '-')
  scans : ∀ rest, EndsNumber rest → scanNumber (lexeme ++ rest) = some (lexeme, rest)

theorem isLexeme_decimal (value : Nat) : IsLexeme (decimal value) := by
  refine ⟨?_, fun rest => scanNumber_decimal value⟩
  cases written : decimal value with
  | nil => exact absurd written (decimal_ne_nil value)
  | cons first rest =>
    exact ⟨first, rest, rfl, .inl (isDigit_of_mem_decimal (written ▸ List.mem_cons_self))⟩

theorem decimalValue_decimal (value : Nat) : Digits.decimalValue (decimal value) = value := by
  have back := Nat.ofDigitChars_ten_toDigits (n := value)
  rwa [Nat.ofDigitChars_eq_foldl] at back

/-- What was written for a number is read as the number. -/
theorem plainNumber?_decimal (value : Nat) : plainNumber? (decimal value) = some value := by
  have whole : scanWhole (decimal value ++ []) = some (decimal value, []) :=
    scanWhole_decimal value (by simp [EndsNumber])
  rw [List.append_nil] at whole
  simp only [plainNumber?, whole, decimalValue_decimal]

/-- The content that a number is written with where it is a key. -/
theorem isContent_decimal (value : Nat) : IsContent (decimal value) := by
  intro rest
  have digits : ∀ char ∈ decimal value, char.isDigit = true := fun char => isDigit_of_mem_decimal
  revert digits
  induction decimal value with
  | nil =>
    intro digits
    rw [List.nil_append, scanString.eq_def]
    rfl
  | cons char others ih =>
    intro digits
    have digit := digits char List.mem_cons_self
    have quote : char ≠ '"' := by
      rintro rfl
      exact absurd digit (by decide)
    have backslash : char ≠ '\\' := by
      rintro rfl
      exact absurd digit (by decide)
    have printable : 32 ≤ char.toNat := by
      have low := (Char.isDigit_iff_toNat.1 digit).1
      exact Nat.le_trans (by decide) low
    rw [List.cons_append, scanString_plain quote backslash printable,
      ih fun char member => digits char (List.mem_cons_of_mem _ member)]
    rfl

end Json

end ComponentSchema
