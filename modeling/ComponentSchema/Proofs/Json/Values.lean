import ComponentSchema.Proofs.Json.Leaves

/-!
Texts that a reader takes for a value.  Blanks may stand between the tokens, and how many there are is up to
whoever lays the text out: what is taken for the items of an array or the members of an object is put
together from what is taken for each of them.  So a value is read back whether it was written one item or
member a line or without any blanks, and its text is the writing of no other.
-/

namespace ComponentSchema

namespace Json

theorem skipBlanks_cons (first : Char) (solid : isBlank first = false) (rest : List Char) :
    skipBlanks (first :: rest) = first :: rest := by
  simp [skipBlanks, solid]

theorem isBlank_of_begins {first : Char} (begins : first.isDigit = true ∨ first = '-') :
    isBlank first = false := by
  rw [← Bool.not_eq_true]
  intro blank
  simp only [isBlank, Bool.or_eq_true, beq_iff_eq] at blank
  rcases blank with ((rfl | rfl) | rfl) | rfl <;> exact absurd begins (by decide)

theorem endsNumber_of_isBlank {first : Char} (blank : isBlank first = true) (rest : List Char) :
    EndsNumber (first :: rest) := by
  intro char same
  cases same
  simp only [isBlank, Bool.or_eq_true, beq_iff_eq] at blank
  rcases blank with ((rfl | rfl) | rfl) | rfl <;> decide

/-- A text that a reader takes for a value; it stops right behind it.  Fuel for its length does. -/
def Takes (text : List Char) (value : Json) : Prop :=
  ∀ (fuel : Nat) (rest : List Char), text.length ≤ fuel → EndsNumber rest →
    parseValue fuel (text ++ rest) = some (value, rest)

/-- A text that a reader takes for the items of an array, up to the closing bracket. -/
def TakesItems (text : List Char) (items : List Json) : Prop :=
  ∀ (fuel : Nat) (rest : List Char), text.length ≤ fuel →
    parseItems fuel (text ++ rest) = some (items, rest)

/-- A text that a reader takes for the members of an object, up to the closing brace. -/
def TakesMembers (text : List Char) (members : List (List Char × Json)) : Prop :=
  ∀ (fuel : Nat) (rest : List Char), text.length ≤ fuel →
    parseMembers fuel (text ++ rest) = some (members, rest)

theorem takes_null : Takes "null".toList .null := by
  intro fuel rest enough ends
  obtain ⟨fuel, rfl⟩ := Nat.exists_eq_add_one_of_ne_zero (Nat.ne_zero_of_lt enough)
  rfl

theorem takes_true : Takes "true".toList (.bool true) := by
  intro fuel rest enough ends
  obtain ⟨fuel, rfl⟩ := Nat.exists_eq_add_one_of_ne_zero (Nat.ne_zero_of_lt enough)
  rfl

theorem takes_false : Takes "false".toList (.bool false) := by
  intro fuel rest enough ends
  obtain ⟨fuel, rfl⟩ := Nat.exists_eq_add_one_of_ne_zero (Nat.ne_zero_of_lt enough)
  rfl

theorem takes_number {lexeme : List Char} (scans : IsLexeme lexeme) : Takes lexeme (.number lexeme) := by
  intro fuel rest enough ends
  have scanned := scans.scans rest ends
  obtain ⟨first, others, rfl, begins⟩ := scans.begins
  obtain ⟨fuel, rfl⟩ := Nat.exists_eq_add_one_of_ne_zero (Nat.ne_zero_of_lt enough)
  have other (char : Char) (none : ¬(char.isDigit = true ∨ char = '-')) : first ≠ char := by
    rintro rfl
    exact none begins
  rw [List.cons_append] at scanned
  simp only [List.cons_append, parseValue, skipBlanks_cons _ (isBlank_of_begins begins),
    scanned, other '"' (by decide), other '[' (by decide), other '\x7b' (by decide),
    other 'n' (by decide), other 't' (by decide), other 'f' (by decide), if_false, Option.map_some]

theorem takes_string {content : List Char} (scans : IsContent content) :
    Takes (quoted content) (.string content) := by
  intro fuel rest enough ends
  obtain ⟨fuel, rfl⟩ := Nat.exists_eq_add_one_of_ne_zero (Nat.ne_zero_of_lt enough)
  simp [quoted, parseValue, skipBlanks_cons '"' rfl, scans rest]

theorem takes_emptyArray : Takes ['[', ']'] (.array []) := by
  intro fuel rest enough ends
  obtain ⟨fuel, rfl⟩ := Nat.exists_eq_add_one_of_ne_zero (Nat.ne_zero_of_lt enough)
  rfl

theorem takes_emptyObject : Takes ['\x7b', '\x7d'] (.object []) := by
  intro fuel rest enough ends
  obtain ⟨fuel, rfl⟩ := Nat.exists_eq_add_one_of_ne_zero (Nat.ne_zero_of_lt enough)
  rfl

theorem skipBlanks_skipBlanks (input : List Char) : skipBlanks (skipBlanks input) = skipBlanks input :=
  List.dropWhile_idempotent _ _

theorem parseValue_skipBlanks (fuel : Nat) (input : List Char) :
    parseValue fuel (skipBlanks input) = parseValue fuel input := by
  cases fuel with
  | zero => rfl
  | succ fuel => simp only [parseValue, skipBlanks_skipBlanks]

theorem parseItems_skipBlanks (fuel : Nat) (input : List Char) :
    parseItems fuel (skipBlanks input) = parseItems fuel input := by
  cases fuel with
  | zero => rfl
  | succ fuel => simp only [parseItems, parseValue_skipBlanks]

theorem parseMembers_skipBlanks (fuel : Nat) (input : List Char) :
    parseMembers fuel (skipBlanks input) = parseMembers fuel input := by
  cases fuel with
  | zero => rfl
  | succ fuel => simp only [parseMembers, skipBlanks_skipBlanks]

section

variable {blanks : List Char} (blank : ∀ char ∈ blanks, isBlank char = true)

include blank

theorem skipBlanks_append (rest : List Char) : skipBlanks (blanks ++ rest) = skipBlanks rest :=
  List.dropWhile_append_of_pos blank

theorem endsNumber_append {rest : List Char} (ends : EndsNumber rest) : EndsNumber (blanks ++ rest) := by
  cases blanks with
  | nil => exact ends
  | cons first others => exact endsNumber_of_isBlank (blank first List.mem_cons_self) _

theorem Takes.behind {text : List Char} {value : Json} (takes : Takes text value) :
    Takes (blanks ++ text) value := by
  intro fuel rest enough ends
  rw [List.length_append] at enough
  rw [List.append_assoc, ← parseValue_skipBlanks, skipBlanks_append blank, parseValue_skipBlanks,
    takes fuel rest (by omega) ends]

theorem TakesItems.behind {text : List Char} {items : List Json} (takes : TakesItems text items) :
    TakesItems (blanks ++ text) items := by
  intro fuel rest enough
  rw [List.length_append] at enough
  rw [List.append_assoc, ← parseItems_skipBlanks, skipBlanks_append blank, parseItems_skipBlanks,
    takes fuel rest (by omega)]

theorem TakesMembers.behind {text : List Char} {members : List (List Char × Json)}
    (takes : TakesMembers text members) : TakesMembers (blanks ++ text) members := by
  intro fuel rest enough
  rw [List.length_append] at enough
  rw [List.append_assoc, ← parseMembers_skipBlanks, skipBlanks_append blank, parseMembers_skipBlanks,
    takes fuel rest (by omega)]

theorem Takes.lastItem {text : List Char} {item : Json} (takes : Takes text item) :
    TakesItems (text ++ (blanks ++ [']'])) [item] := by
  intro fuel rest enough
  simp only [List.length_append, List.length_singleton] at enough
  obtain ⟨fuel, rfl⟩ := Nat.exists_eq_add_one_of_ne_zero (show fuel ≠ 0 by omega)
  have ends : EndsNumber (blanks ++ ']' :: rest) :=
    endsNumber_append blank (by rintro _ ⟨⟩; decide)
  have read := takes fuel (blanks ++ ']' :: rest) (by omega) ends
  simp only [List.append_assoc, List.singleton_append, parseItems, read, skipBlanks_append blank,
    skipBlanks_cons ']' rfl]

theorem Takes.lastMember {content text : List Char} {value : Json} (key : IsContent content)
    (takes : Takes text value) :
    TakesMembers (quoted content ++ ':' :: (text ++ (blanks ++ ['\x7d']))) [(content, value)] := by
  intro fuel rest enough
  simp only [List.length_append, List.length_cons, List.length_nil] at enough
  obtain ⟨fuel, rfl⟩ := Nat.exists_eq_add_one_of_ne_zero (show fuel ≠ 0 by omega)
  have ends : EndsNumber (blanks ++ '\x7d' :: rest) :=
    endsNumber_append blank (by rintro _ ⟨⟩; decide)
  have read := takes fuel (blanks ++ '\x7d' :: rest) (by omega) ends
  have scanned := key (':' :: (text ++ (blanks ++ '\x7d' :: rest)))
  simp only [quoted, List.cons_append, List.append_assoc, List.nil_append, parseMembers,
    skipBlanks_cons '"' rfl, scanned, skipBlanks_cons ':' rfl, read, skipBlanks_append blank,
    skipBlanks_cons '\x7d' rfl]

end

theorem Takes.consItem {text more : List Char} {item : Json} {items : List Json}
    (takes : Takes text item) (others : TakesItems more items) :
    TakesItems (text ++ ',' :: more) (item :: items) := by
  intro fuel rest enough
  simp only [List.length_append, List.length_cons] at enough
  obtain ⟨fuel, rfl⟩ := Nat.exists_eq_add_one_of_ne_zero (show fuel ≠ 0 by omega)
  have ends : EndsNumber (',' :: (more ++ rest)) := by
    rintro _ ⟨⟩
    decide
  have read := takes fuel (',' :: (more ++ rest)) (by omega) ends
  have later := others fuel rest (by omega)
  simp only [List.append_assoc, List.cons_append, parseItems, read, skipBlanks_cons ',' rfl, later,
    Option.map_some]

theorem Takes.consMember {content text more : List Char} {value : Json}
    {members : List (List Char × Json)} (key : IsContent content) (takes : Takes text value)
    (others : TakesMembers more members) :
    TakesMembers (quoted content ++ ':' :: (text ++ ',' :: more)) ((content, value) :: members) := by
  intro fuel rest enough
  simp only [List.length_append, List.length_cons] at enough
  obtain ⟨fuel, rfl⟩ := Nat.exists_eq_add_one_of_ne_zero (show fuel ≠ 0 by omega)
  have ends : EndsNumber (',' :: (more ++ rest)) := by
    rintro _ ⟨⟩
    decide
  have read := takes fuel (',' :: (more ++ rest)) (by omega) ends
  have later := others fuel rest (by omega)
  have scanned := key (':' :: (text ++ ',' :: (more ++ rest)))
  simp only [quoted, List.cons_append, List.append_assoc, List.nil_append, parseMembers,
    skipBlanks_cons '"' rfl, scanned, skipBlanks_cons ':' rfl, read, skipBlanks_cons ',' rfl, later,
    Option.map_some]

/-- What is taken for items does not begin with a closing bracket, so the array is not the empty one. -/
theorem TakesItems.array {text : List Char} {items : List Json} (takes : TakesItems text items) :
    Takes ('[' :: text) (.array items) := by
  intro fuel rest enough ends
  rw [List.length_cons] at enough
  obtain ⟨fuel, rfl⟩ := Nat.exists_eq_add_one_of_ne_zero (Nat.ne_zero_of_lt enough)
  have read := takes fuel rest (by omega)
  rw [← parseItems_skipBlanks] at read
  simp only [List.cons_append, parseValue, skipBlanks_cons '[' rfl, Char.reduceEq, if_false, if_true]
  split
  next after closes =>
    rw [closes] at read
    rcases fuel with _ | _ | fuel <;> cases read
  next => rw [read, Option.map_some]

theorem TakesMembers.object {text : List Char} {members : List (List Char × Json)}
    (takes : TakesMembers text members) : Takes ('\x7b' :: text) (.object members) := by
  intro fuel rest enough ends
  rw [List.length_cons] at enough
  obtain ⟨fuel, rfl⟩ := Nat.exists_eq_add_one_of_ne_zero (Nat.ne_zero_of_lt enough)
  have read := takes fuel rest (by omega)
  rw [← parseMembers_skipBlanks] at read
  simp only [List.cons_append, parseValue, skipBlanks_cons '\x7b' rfl, Char.reduceEq, if_false, if_true]
  split
  next after closes =>
    rw [closes] at read
    rcases fuel with _ | fuel <;> cases read
  next => rw [read, Option.map_some]

section Writers

/-! A writer puts the same gap in front of each item or member but the first, and a gap of its own in front
of what closes them. -/

variable {write : Json → List Char} {gap close : List Char} (gapBlank : ∀ char ∈ gap, isBlank char = true)
  (closeBlank : ∀ char ∈ close, isBlank char = true)

include gapBlank closeBlank

theorem takesItems_of_writer (writeItems : List Json → List Char) (nil : writeItems [] = [])
    (cons : ∀ item items,
      writeItems (item :: items) = ',' :: (gap ++ write item ++ writeItems items))
    {item : Json} {items : List Json} (each : ∀ other ∈ item :: items, Takes (write other) other) :
    TakesItems (write item ++ writeItems items ++ close ++ [']']) (item :: items) := by
  induction items generalizing item with
  | nil =>
    rw [nil, List.append_nil, List.append_assoc]
    exact (each item List.mem_cons_self).lastItem closeBlank
  | cons next others ih =>
    have later := (ih fun other listed => each other (List.mem_cons_of_mem _ listed)).behind gapBlank
    rw [cons]
    simpa only [List.append_assoc, List.cons_append] using
      (each item List.mem_cons_self).consItem later

theorem takesMembers_of_writer {space : List Char} (spaceBlank : ∀ char ∈ space, isBlank char = true)
    (writeMembers : List (List Char × Json) → List Char) (nil : writeMembers [] = [])
    (cons : ∀ key value members, writeMembers ((key, value) :: members) =
      ',' :: (gap ++ quoted key ++ ':' :: (space ++ (write value ++ writeMembers members))))
    {key : List Char} {value : Json} {members : List (List Char × Json)}
    (keys : ∀ member ∈ (key, value) :: members, IsContent member.1)
    (each : ∀ member ∈ (key, value) :: members, Takes (write member.2) member.2) :
    TakesMembers (quoted key ++ ':' :: (space ++ (write value ++ writeMembers members ++ close ++
      ['\x7d']))) ((key, value) :: members) := by
  have first : IsContent key := keys _ List.mem_cons_self
  have takes : Takes (space ++ write value) value :=
    (each (key, value) List.mem_cons_self).behind spaceBlank
  induction members generalizing key value with
  | nil =>
    rw [nil, List.append_nil]
    simpa only [List.append_assoc] using takes.lastMember closeBlank first
  | cons next others ih =>
    obtain ⟨name, second⟩ := next
    have keys' : ∀ member ∈ (name, second) :: others, IsContent member.1 :=
      fun member listed => keys member (List.mem_cons_of_mem _ listed)
    have each' : ∀ member ∈ (name, second) :: others, Takes (write member.2) member.2 :=
      fun member listed => each member (List.mem_cons_of_mem _ listed)
    have later := (ih keys' each' (keys' _ List.mem_cons_self)
      ((each' (name, second) List.mem_cons_self).behind spaceBlank)).behind gapBlank
    rw [cons]
    simpa only [List.append_assoc, List.cons_append] using takes.consMember first later

end Writers

/-- The text of a value with blanks behind it is read as that value. -/
theorem parse?_of_takes {text : List Char} {value : Json} (takes : Takes text value)
    (blanks : List Char) (blank : ∀ char ∈ blanks, isBlank char = true) :
    parse? (String.ofList (text ++ blanks)) = some value := by
  have ends : EndsNumber (blanks ++ []) := endsNumber_append blank (by rintro _ ⟨⟩)
  rw [List.append_nil] at ends
  have read := takes (2 * (text ++ blanks).length + 2) blanks
    (by simp only [List.length_append]; omega) ends
  have skipped : skipBlanks blanks = [] := List.dropWhile_eq_nil_iff.2 blank
  simp only [parse?, String.toList_ofList, read, skipped, List.isEmpty_nil, if_true]

/-- Values whose numbers and strings a reader takes as they stand. -/
inductive IsWritten : Json → Prop
  | null : IsWritten .null
  | bool (value : Bool) : IsWritten (.bool value)
  | number {lexeme : List Char} (scans : IsLexeme lexeme) : IsWritten (.number lexeme)
  | string {content : List Char} (scans : IsContent content) : IsWritten (.string content)
  | array {items : List Json} (each : ∀ item ∈ items, IsWritten item) : IsWritten (.array items)
  | object {members : List (List Char × Json)} (keys : ∀ member ∈ members, IsContent member.1)
      (each : ∀ member ∈ members, IsWritten member.2) : IsWritten (.object members)

theorem isWritten_ofNat (value : Nat) : IsWritten (.ofNat value) :=
  .number (isLexeme_decimal value)

theorem isWritten_ofString (text : String) : IsWritten (.ofString text) :=
  .string (isContent_escape text)

theorem isWritten_ofMembers {members : List (String × Json)}
    (each : ∀ member ∈ members, IsWritten member.2) : IsWritten (.ofMembers members) := by
  refine .object ?_ ?_
  · intro member listed
    obtain ⟨original, -, rfl⟩ := List.mem_map.1 listed
    exact isContent_escape original.1
  · intro member listed
    obtain ⟨original, there, rfl⟩ := List.mem_map.1 listed
    exact each original there

theorem isBlank_of_mem_freshLine (depth : Nat) : ∀ char ∈ freshLine depth, isBlank char = true := by
  intro char member
  rcases List.mem_cons.1 member with rfl | space
  · rfl
  · rw [List.eq_of_mem_replicate space]
    rfl

theorem takes_pretty {value : Json} (written : value.IsWritten) (depth : Nat) :
    Takes (value.pretty depth) value := by
  induction written generalizing depth with
  | null => exact takes_null
  | bool value =>
    cases value with
    | true => exact takes_true
    | false => exact takes_false
  | number scans => exact takes_number scans
  | string scans => exact takes_string scans
  | @array items written each =>
    cases items with
    | nil => exact takes_emptyArray
    | cons item items =>
      have inner := takesItems_of_writer (isBlank_of_mem_freshLine (depth + 1))
        (isBlank_of_mem_freshLine depth) (prettyItems (depth + 1)) rfl
        (fun _ _ => rfl) fun other listed => each other listed (depth + 1)
      have taken := (inner.behind (isBlank_of_mem_freshLine (depth + 1))).array
      simpa only [pretty, List.append_assoc] using taken
  | @object members keys written each =>
    cases members with
    | nil => exact takes_emptyObject
    | cons member members =>
      obtain ⟨key, value⟩ := member
      have space : ∀ char ∈ [' '], isBlank char = true := List.forall_mem_singleton.2 rfl
      have inner := takesMembers_of_writer (isBlank_of_mem_freshLine (depth + 1))
        (isBlank_of_mem_freshLine depth) space (prettyMembers (depth + 1)) rfl
        (fun _ _ _ => rfl) keys fun other listed => each other listed (depth + 1)
      have taken := (inner.behind (isBlank_of_mem_freshLine (depth + 1))).object
      simpa only [pretty, List.append_assoc, List.cons_append, List.nil_append] using taken

theorem takes_compact {value : Json} (written : value.IsWritten) : Takes value.compact value := by
  have none : ∀ char ∈ ([] : List Char), isBlank char = true := fun char none => (by cases none)
  induction written with
  | null => exact takes_null
  | bool value =>
    cases value with
    | true => exact takes_true
    | false => exact takes_false
  | number scans => exact takes_number scans
  | string scans => exact takes_string scans
  | @array items written each =>
    cases items with
    | nil => exact takes_emptyArray
    | cons item items =>
      have inner := takesItems_of_writer none none compactItems rfl
        (fun _ _ => rfl) each
      simpa only [compact, List.append_nil] using inner.array
  | @object members keys written each =>
    cases members with
    | nil => exact takes_emptyObject
    | cons member members =>
      obtain ⟨key, value⟩ := member
      have inner := takesMembers_of_writer none none none compactMembers rfl
        (fun _ _ _ => rfl) keys each
      simpa only [compact, List.append_nil, List.nil_append] using inner.object

/-- The text of a value is read as that value. -/
theorem parse?_prettyText {value : Json} (written : value.IsWritten) (blanks : List Char)
    (blank : ∀ char ∈ blanks, isBlank char = true) :
    parse? (value.prettyText ++ String.ofList blanks) = some value := by
  rw [prettyText, ← String.ofList_append]
  exact parse?_of_takes (takes_pretty written 0) blanks blank

/-- So is its shortest text. -/
theorem parse?_compactText {value : Json} (written : value.IsWritten) :
    parse? value.compactText = some value := by
  have read := parse?_of_takes (takes_compact written) [] fun char none => (by cases none)
  rwa [List.append_nil] at read

/-- Bytes that are text are read as that text. -/
theorem parseBytes?_toUTF8 (text : String) : parseBytes? text.toUTF8 = parse? text := by
  have read : String.fromUTF8? text.toUTF8 = some text := dif_pos text.isValidUTF8
  simp only [parseBytes?, textOfBytes, read, Option.getD_some]

end Json

end ComponentSchema
