import ComponentSchema.Proofs.Json.Leaves
import ComponentSchema.Proofs.Lists
import ComponentSchema.Proofs.Words
import ComponentSchema.Schema.File

/-!
Schema files read back.  The reader knows nothing but lines: it takes a text apart where lines end
and where lines are blank, and each block gives one declaration.  What it reads are pieces of single
lines, so it gives a file back exactly if no text that the file takes over as it is has a line
break.
-/

namespace ComponentSchema

def IsOneLine (text : String) : Prop := '\n' ∉ text.toList

instance (text : String) : Decidable (IsOneLine text) := inferInstanceAs (Decidable (¬_))

theorem isOneLine_ofList {chars : List Char} (free : '\n' ∉ chars) :
    IsOneLine (String.ofList chars) := by
  rwa [IsOneLine, String.toList_ofList]

theorem isOneLine_append {front back : String} :
    IsOneLine (front ++ back) ↔ IsOneLine front ∧ IsOneLine back := by
  rw [IsOneLine, String.toList_append, List.mem_append, not_or]
  rfl

theorem IsPlain.isOneLine {text : String} (plain : IsPlain text) : IsOneLine text :=
  fun member => absurd (plain '\n' member) (by decide)

/-- The lines of a text in which every line has its end. -/
def linesOf? : List Char → Option (List (List Char))
  | [] => some []
  | char :: rest =>
    if char = '\n' then (linesOf? rest).map ([] :: ·)
    else
      match linesOf? rest with
      | some (line :: others) => some ((char :: line) :: others)
      | _ => none

theorem linesOf?_append {line : List Char} (free : '\n' ∉ line) (rest : List Char) :
    linesOf? (line ++ '\n' :: rest) = (linesOf? rest).map (line :: ·) := by
  induction line with
  | nil => rfl
  | cons char line ih =>
    rw [List.mem_cons, not_or] at free
    rw [List.cons_append, linesOf?, if_neg (Ne.symm free.1), ih free.2]
    cases linesOf? rest with
    | none => rfl
    | some lines => rfl

theorem linesOf?_flatMap {lines : List (List Char)} (free : ∀ line ∈ lines, '\n' ∉ line) :
    linesOf? (lines.flatMap fun line => line ++ ['\n']) = some lines := by
  induction lines with
  | nil => rfl
  | cons line rest ih =>
    obtain ⟨first, others⟩ := List.forall_mem_cons.1 free
    rw [List.flatMap_cons, List.append_assoc, List.singleton_append, linesOf?_append first,
      ih others, Option.map_some]

theorem notMem_of_linesOf? {text : List Char} {lines : List (List Char)}
    (read : linesOf? text = some lines) : ∀ line ∈ lines, '\n' ∉ line := by
  induction text generalizing lines with
  | nil =>
    cases read
    exact fun line member => (by cases member)
  | cons char rest ih =>
    rw [linesOf?] at read
    split at read
    next =>
      obtain ⟨others, below, rfl⟩ := Option.map_eq_some_iff.1 read
      exact List.forall_mem_cons.2 ⟨List.not_mem_nil, ih below⟩
    next other =>
      split at read
      next line others below =>
        cases read
        obtain ⟨first, later⟩ := List.forall_mem_cons.1 (ih below)
        refine List.forall_mem_cons.2 ⟨fun member => ?_, later⟩
        rcases List.mem_cons.1 member with same | inside
        · exact other same.symm
        · exact first inside
      next => cases read

namespace Statement

def type? : Statement → Option String
  | .id _ => none
  | .member type _ _ => some type

/-- The number at the end of a line, and what is given that number. -/
def numbered? (line : List Char) : Option (List Char × Nat) := do
  let front ← line.dropSuffix? [';']
  let named ← (front.rdropWhile Char.isDigit).dropSuffix? [' ', '=', ' ']
  pure (named, Digits.decimalValue (front.rtakeWhile Char.isDigit))

/-- A statement from its line.  The name is the last word in front of the number, and all before it
is the type; only an id has none. -/
def ofLine? (line : List Char) : Option Statement := do
  let (named, number) ← numbered? line
  let name := String.ofList (named.rtakeWhile (· != ' '))
  match (named.rdropWhile (· != ' ')).dropSuffix? [' '] with
  | some type => some (.member (String.ofList type) name number)
  | none => if name = "id" ∧ number < UInt32.size then some (.id ⟨.ofNat number⟩) else none

/-- The statements of a block, up to the line that closes it. -/
def ofBlock? : List (List Char) → Option (List Statement)
  | [['\x7d']] => some []
  | ('\t' :: line) :: rest => do
    let statement ← ofLine? line
    let others ← ofBlock? rest
    pure (statement :: others)
  | _ => none

end Statement

/-- The keyword and the name in a line that opens a block. -/
def DeclarationKind.ofHeader? (line : List Char) : Option (DeclarationKind × String) := do
  let front ← line.dropSuffix? [' ', '\x7b']
  match front.dropPrefix? "component ".toList with
  | some name => some (.component, String.ofList name)
  | none => (front.dropPrefix? "type ".toList).map fun name => (.type, String.ofList name)

namespace Declaration

def rawTexts (declaration : Declaration) : List String :=
  declaration.remark.toList ++ declaration.statements.filterMap Statement.type?

def ofBlock? (remark : Option String) : List (List Char) → Option Declaration
  | [] => none
  | header :: block => do
    let opened ← DeclarationKind.ofHeader? header
    let statements ← Statement.ofBlock? block
    pure { kind := opened.1, name := opened.2, statements, remark }

/-- A declaration from its lines, of which the first may be a remark. -/
def ofLines? : List (List Char) → Option Declaration
  | ('/' :: '/' :: ' ' :: remark) :: block => ofBlock? (some (String.ofList remark)) block
  | block => ofBlock? none block

end Declaration

namespace SchemaFile

def rawTexts (file : SchemaFile) : List String := file.declarations.flatMap Declaration.rawTexts

/-- A file from its text: the banner and the package, and behind each blank line a declaration. -/
def ofText? (text : String) : Option SchemaFile := do
  let lines ← linesOf? text.toList
  match lines.splitOn [] with
  | [banner, package] :: blocks =>
    if banner = SchemaText.banner.toList then do
      let front ← package.dropPrefix? "package ".toList
      let name ← front.dropSuffix? [';']
      let declarations ← blocks.mapM Declaration.ofLines?
      pure ⟨String.ofList name, declarations⟩
    else none
  | _ => none

end SchemaFile

/-! What is read back: the lines of a file are those of its declarations, and each line tells what
it was made of. -/

section RoundTrip

theorem dropPrefix?_append (front rest : List Char) : (front ++ rest).dropPrefix? front = some rest :=
  List.dropPrefix?_eq_some_iff.2 ⟨front, rfl, beq_self_eq_true front⟩

theorem dropSuffix?_append (rest back : List Char) : (rest ++ back).dropSuffix? back = some rest :=
  List.dropSuffix?_eq_some_iff.2 ⟨back, rfl, beq_self_eq_true back⟩

namespace Statement

theorem numbered?_append (named : List Char) (number : Nat) :
    numbered? (named ++ [' ', '=', ' '] ++ Nat.toDigits 10 number ++ [';']) =
      some (named, number) := by
  have split : named ++ [' ', '=', ' '] ++ Nat.toDigits 10 number =
      (named ++ [' ', '=']) ++ ' ' :: Nat.toDigits 10 number := by simp
  have whole : named ++ [' ', '='] ++ [' '] = named ++ [' ', '=', ' '] := by simp
  have run : ∀ char ∈ Nat.toDigits 10 number, char.isDigit = true :=
    fun char => Nat.isDigit_of_mem_toDigits (by omega) (by omega)
  have stops : ' '.isDigit = false := rfl
  have value : Digits.decimalValue (Nat.toDigits 10 number) = number :=
    Json.decimalValue_decimal number
  obtain ⟨digits, front⟩ := rtakeWhile_append (named ++ [' ', '=']) run stops
  simp only [numbered?, dropSuffix?_append, split, digits, front, whole, value,
    Option.bind_eq_bind, Option.bind_some, Option.pure_def]

/-- The names of members stand at the end of a line as one piece. -/
def IsNamed : Statement → Prop
  | .id _ => True
  | .member _ name _ => IsPlain name

theorem ofLine?_text {statement : Statement} (named : statement.IsNamed) :
    ofLine? statement.text.toList = some statement := by
  cases statement with
  | id value =>
    have line : (Statement.id value).text.toList =
        ['i', 'd'] ++ [' ', '=', ' '] ++ Nat.toDigits 10 value.number.toNat ++ [';'] := by
      simp [text, ComponentId.text, Nat.toString_eq_repr, Nat.toList_repr]
    have bound := value.number.toNat_lt_size
    rw [line, ofLine?, numbered?_append]
    have known : ((['i', 'd'].rdropWhile (· != ' ')).dropSuffix? [' ']) = none := by decide
    have word : ['i', 'd'].rtakeWhile (· != ' ') = ['i', 'd'] := by decide
    simp only [Option.bind_eq_bind, Option.bind_some, known, word]
    rw [if_pos ⟨trivial, bound⟩, UInt32.ofNat_toNat]
  | member type name number =>
    have line : (Statement.member type name number).text.toList =
        (type.toList ++ ' ' :: name.toList) ++ [' ', '=', ' '] ++ Nat.toDigits 10 number ++
          [';'] := by
      simp only [text, String.toList_append, Nat.toString_eq_repr, Nat.toList_repr,
        List.append_assoc]
      rfl
    have spaceless : ∀ char ∈ name.toList, (char != ' ') = true := by
      intro char member
      refine bne_iff_ne.2 fun same => ?_
      have plain : char.isAlphanum = true := named char member
      rw [same] at plain
      exact absurd plain (by decide)
    have stops : (' ' != ' ') = false := rfl
    obtain ⟨word, front⟩ := rtakeWhile_append type.toList spaceless stops
    rw [line, ofLine?, numbered?_append]
    simp only [word, front, dropSuffix?_append, Option.bind_eq_bind, Option.bind_some,
      String.ofList_toList]

def blockLines (statements : List Statement) : List (List Char) :=
  statements.map (fun statement => '\t' :: statement.text.toList) ++ [['\x7d']]

theorem ofBlock?_blockLines {statements : List Statement}
    (named : ∀ statement ∈ statements, statement.IsNamed) :
    ofBlock? (blockLines statements) = some statements := by
  induction statements with
  | nil => rfl
  | cons statement rest ih =>
    obtain ⟨first, others⟩ := List.forall_mem_cons.1 named
    have below := ih others
    unfold blockLines at below ⊢
    rw [List.map_cons, List.cons_append, ofBlock?, ofLine?_text first, below]
    rfl

end Statement

theorem DeclarationKind.ofHeader?_append (kind : DeclarationKind) (name : String) :
    ofHeader? (kind.keyword.toList ++ ' ' :: name.toList ++ [' ', '\x7b']) = some (kind, name) := by
  unfold ofHeader?
  rw [dropSuffix?_append, Option.bind_eq_bind, Option.bind_some]
  cases kind with
  | component =>
    have front : DeclarationKind.component.keyword.toList ++ ' ' :: name.toList =
        "component ".toList ++ name.toList := rfl
    rw [front, dropPrefix?_append]
    simp
  | type =>
    have front : DeclarationKind.type.keyword.toList ++ ' ' :: name.toList =
        "type ".toList ++ name.toList := rfl
    have other : ("type ".toList ++ name.toList).dropPrefix? "component ".toList = none := rfl
    rw [front, other, dropPrefix?_append]
    simp

namespace Declaration

/-- The lines of a declaration, without the blank one in front. -/
def lines (declaration : Declaration) : List (List Char) :=
  (declaration.remark.toList.map fun remark => '/' :: '/' :: ' ' :: remark.toList) ++
    (declaration.kind.keyword.toList ++ ' ' :: declaration.name.toList ++ [' ', '\x7b']) ::
      Statement.blockLines declaration.statements

theorem ofLines?_lines {declaration : Declaration}
    (named : ∀ statement ∈ declaration.statements, statement.IsNamed) :
    ofLines? declaration.lines = some declaration := by
  obtain ⟨kind, name, statements, remark⟩ := declaration
  have block (remark : Option String) : ofBlock? remark
      ((kind.keyword.toList ++ ' ' :: name.toList ++ [' ', '\x7b']) ::
        Statement.blockLines statements) = some ⟨kind, name, statements, remark⟩ := by
    rw [ofBlock?, DeclarationKind.ofHeader?_append, Statement.ofBlock?_blockLines named]
    rfl
  cases remark with
  | some remark =>
    unfold lines
    rw [Option.toList_some, List.map_singleton, List.singleton_append, ofLines?, block,
      String.ofList_toList]
  | none =>
    unfold lines
    rw [Option.toList_none, List.map_nil, List.nil_append, ← block none]
    -- no keyword begins like a remark
    obtain ⟨first, rest, keyword, other⟩ :
        ∃ first rest, kind.keyword.toList = first :: rest ∧ first ≠ '/' := by
      cases kind <;> exact ⟨_, _, rfl, by decide⟩
    unfold ofLines?
    split
    next remarked =>
      simp only [keyword, List.cons_append, List.cons.injEq] at remarked
      exact absurd remarked.1.1 other
    next => rfl

end Declaration

theorem Declaration.nil_notMem_lines (declaration : Declaration) : [] ∉ declaration.lines := by
  simp [lines, Statement.blockLines]

namespace SchemaText

def charLines (text : SchemaText) : List (List Char) := text.lines.map String.toList

theorem toList_render (text : SchemaText) :
    text.render.toList = text.charLines.flatMap fun line => line ++ ['\n'] := by
  simp [render, charLines, String.toList_join, List.flatMap_map]

theorem charLines_blank (text : SchemaText) : text.blank.charLines = text.charLines ++ [[]] := by
  simp [charLines, blank]

theorem charLines_line (text : SchemaText) (content : String) :
    (text.line content).charLines =
      text.charLines ++ [List.replicate text.depth '\t' ++ content.toList] := by
  simp [charLines, line]

theorem charLines_line_of_outside {text : SchemaText} (outside : text.depth = 0) (content : String) :
    (text.line content).charLines = text.charLines ++ [content.toList] := by
  rw [charLines_line, outside, List.replicate_zero, List.nil_append]

/-- Statements are written one after the other at the depth that is there. -/
theorem foldl_line (statements : List Statement) (text : SchemaText) :
    let written := statements.foldl (fun text statement => text.line statement.text) text
    written.depth = text.depth ∧ written.charLines = text.charLines ++
      statements.map fun statement => List.replicate text.depth '\t' ++ statement.text.toList := by
  induction statements generalizing text with
  | nil => exact ⟨rfl, (List.append_nil _).symm⟩
  | cons statement rest ih =>
    obtain ⟨depth, lines⟩ := ih (text.line statement.text)
    refine ⟨depth, ?_⟩
    rw [List.foldl_cons, lines, charLines_line, List.append_assoc]
    rfl

/-- A block outside of others is written with its header and the line that closes it. -/
theorem closed_block {text : SchemaText} (outside : text.depth = 0) (header : String)
    (statements : List Statement) :
    let written := (statements.foldl (fun text statement => text.line statement.text)
      (text.opened header)).closed
    written.depth = 0 ∧ written.charLines = text.charLines ++
      (header.toList ++ [' ', '\x7b']) :: Statement.blockLines statements := by
  obtain ⟨depth, lines⟩ := foldl_line statements (text.opened header)
  have inside : (text.opened header).depth = 1 := congrArg (· + 1) outside
  have head : (text.opened header).charLines =
      text.charLines ++ [header.toList ++ [' ', '\x7b']] := by
    have line := charLines_line_of_outside outside (header ++ " \x7b")
    rwa [String.toList_append] at line
  rw [inside] at depth lines
  rw [head] at lines
  have back : (statements.foldl (fun text statement => text.line statement.text)
      (text.opened header)).depth - 1 = 0 := by rw [depth]
  refine ⟨back, ?_⟩
  rw [closed, charLines_line_of_outside back]
  refine (congrArg (· ++ [['\x7d']]) lines).trans ?_
  simp [Statement.blockLines]

end SchemaText

/-- A declaration outside of blocks is written behind a blank line, and leaves no block open. -/
theorem Declaration.write_eq (declaration : Declaration) {text : SchemaText}
    (outside : text.depth = 0) : (declaration.write text).depth = 0 ∧
      (declaration.write text).charLines = text.charLines ++ [] :: declaration.lines := by
  obtain ⟨kind, name, statements, remark⟩ := declaration
  have header : (kind.keyword ++ " " ++ name).toList =
      kind.keyword.toList ++ ' ' :: name.toList := by simp
  have blank : text.blank.depth = 0 := outside
  cases remark with
  | none =>
    have block := SchemaText.closed_block blank (kind.keyword ++ " " ++ name) statements
    rw [header, SchemaText.charLines_blank, List.append_assoc] at block
    exact block
  | some remark =>
    have remarked : (text.blank.line ("// " ++ remark)).depth = 0 := outside
    have block := SchemaText.closed_block remarked (kind.keyword ++ " " ++ name) statements
    rw [header, SchemaText.charLines_line_of_outside blank, SchemaText.charLines_blank,
      String.toList_append, List.append_assoc, List.append_assoc] at block
    exact block

namespace SchemaFile

def lines (file : SchemaFile) : List (List Char) :=
  [SchemaText.banner.toList, "package ".toList ++ (file.package.toList ++ [';'])] ++
    file.declarations.flatMap fun declaration => [] :: declaration.lines

theorem toList_render (file : SchemaFile) :
    file.render.toList = file.lines.flatMap fun line => line ++ ['\n'] := by
  have written (declarations : List Declaration) (text : SchemaText) (outside : text.depth = 0) :
      (declarations.foldl (fun text declaration => declaration.write text) text).charLines =
        text.charLines ++ declarations.flatMap fun declaration => [] :: declaration.lines := by
    induction declarations generalizing text with
    | nil => exact (List.append_nil _).symm
    | cons declaration rest ih =>
      obtain ⟨depth, lines⟩ := declaration.write_eq outside
      rw [List.foldl_cons, ih _ depth, lines, List.flatMap_cons, List.append_assoc]
  have package : (SchemaText.ofPackage file.package).charLines =
      [SchemaText.banner.toList, "package ".toList ++ (file.package.toList ++ [';'])] := by
    rw [SchemaText.ofPackage, SchemaText.charLines_line_of_outside rfl,
      SchemaText.charLines_line_of_outside rfl]
    have line : (s!"package {file.package};").toList =
        "package ".toList ++ (file.package.toList ++ [';']) := by
      simp only [String.toList_append, List.append_assoc]
      rfl
    rw [line]
    rfl
  rw [render, SchemaText.toList_render, written _ _ rfl, package]
  rfl

/-- Blank lines stand between the declarations of a file, and nowhere else. -/
theorem splitOn_lines (file : SchemaFile) :
    file.lines.splitOn [] =
      [SchemaText.banner.toList, "package ".toList ++ (file.package.toList ++ [';'])] ::
        file.declarations.map Declaration.lines := by
  have split (declarations : List Declaration) (front : List (List Char)) (none : [] ∉ front) :
      (front ++ declarations.flatMap fun declaration => [] :: declaration.lines).splitOn [] =
        front :: declarations.map Declaration.lines := by
    induction declarations generalizing front with
    | nil => rw [List.flatMap_nil, List.append_nil, List.splitOn_eq_singleton none, List.map_nil]
    | cons declaration rest ih =>
      rw [List.flatMap_cons, List.cons_append, List.splitOn_append_cons_self_of_not_mem none,
        ih _ declaration.nil_notMem_lines, List.map_cons]
  refine split file.declarations _ ?_
  simp [SchemaText.banner]

theorem ofText?_render {file : SchemaFile} (free : ∀ line ∈ file.lines, '\n' ∉ line)
    (named : ∀ declaration ∈ file.declarations, ∀ statement ∈ declaration.statements,
      statement.IsNamed) : ofText? file.render = some file := by
  have declarations :
      (file.declarations.map Declaration.lines).mapM Declaration.ofLines? =
        some file.declarations := by
    refine mapM_map_eq_some fun declaration member => ?_
    exact Declaration.ofLines?_lines (named declaration member)
  unfold ofText?
  rw [toList_render, linesOf?_flatMap free, Option.bind_eq_bind, Option.bind_some, splitOn_lines]
  simp only [if_true, dropPrefix?_append, dropSuffix?_append, declarations, Option.bind_eq_bind,
    Option.bind_some, String.ofList_toList, Option.pure_def]

end SchemaFile

end RoundTrip

/-! What is read at all: every text that a read file takes over is a piece of a line. -/

section Pieces

theorem mem_of_mem_splitOn {α : Type} [BEq α] [LawfulBEq α] {items piece : List α} {item : α}
    (stop : α) (listed : piece ∈ items.splitOn stop) (member : item ∈ piece) : item ∈ items := by
  rw [← show [stop].intercalate (items.splitOn stop) = items from List.intercalate_splitOn stop]
  generalize items.splitOn stop = pieces at listed
  induction pieces with
  | nil => cases listed
  | cons first rest ih =>
    cases rest with
    | nil =>
      rw [List.mem_singleton] at listed
      rwa [List.intercalate_singleton, ← listed]
    | cons second others =>
      rw [List.intercalate_cons_cons, List.mem_append]
      rcases List.mem_cons.1 listed with rfl | later
      · exact .inl (List.mem_append_left _ member)
      · exact .inr (ih later)

theorem notMem_of_dropSuffix? {line front back : List Char} (free : '\n' ∉ line)
    (read : line.dropSuffix? back = some front) : '\n' ∉ front := by
  obtain ⟨ending, rfl, -⟩ := List.dropSuffix?_eq_some_iff.1 read
  exact fun member => free (List.mem_append_left _ member)

theorem notMem_rdropWhile {line : List Char} (free : '\n' ∉ line) (p : Char → Bool) :
    '\n' ∉ line.rdropWhile p :=
  fun member => free ((List.rdropWhile_prefix p line).subset member)

namespace Statement

theorem isOneLine_of_ofLine? {line : List Char} {statement : Statement} {type : String}
    (free : '\n' ∉ line) (read : ofLine? line = some statement)
    (typed : statement.type? = some type) : IsOneLine type := by
  obtain ⟨⟨named, number⟩, split, read⟩ := Option.bind_eq_some_iff.1 read
  obtain ⟨front, ended, split⟩ := Option.bind_eq_some_iff.1 split
  obtain ⟨before, equals, split⟩ := Option.bind_eq_some_iff.1 split
  cases split
  have free := notMem_of_dropSuffix? (notMem_rdropWhile (notMem_of_dropSuffix? free ended) _) equals
  dsimp only at read
  split at read
  next before spaced =>
    cases read
    cases typed
    exact isOneLine_ofList (notMem_of_dropSuffix? (notMem_rdropWhile free _) spaced)
  next =>
    split at read
    · cases read
      cases typed
    · cases read

theorem isOneLine_of_ofBlock? {block : List (List Char)} {statements : List Statement}
    (free : ∀ line ∈ block, '\n' ∉ line) (read : ofBlock? block = some statements) :
    ∀ type ∈ statements.filterMap type?, IsOneLine type := by
  intro type member
  obtain ⟨statement, listed, typed⟩ := List.mem_filterMap.1 member
  fun_induction ofBlock? block generalizing statements with
  | case1 =>
    cases read
    cases listed
  | case2 line rest ih =>
    obtain ⟨first, others⟩ := List.forall_mem_cons.1 free
    obtain ⟨found, one, read⟩ := Option.bind_eq_some_iff.1 read
    obtain ⟨later, below, read⟩ := Option.bind_eq_some_iff.1 read
    cases read
    rcases List.mem_cons.1 listed with rfl | inside
    · exact isOneLine_of_ofLine? (fun member => first (List.mem_cons_of_mem _ member)) one typed
    · exact ih others below (List.mem_filterMap.2 ⟨statement, inside, typed⟩) inside
  | case3 => cases read

end Statement

namespace Declaration

theorem isOneLine_of_ofBlock? {remark : Option String} {block : List (List Char)}
    {declaration : Declaration} (remarked : ∀ text ∈ remark, IsOneLine text)
    (free : ∀ line ∈ block, '\n' ∉ line) (read : ofBlock? remark block = some declaration) :
    ∀ text ∈ declaration.rawTexts, IsOneLine text := by
  cases block with
  | nil => cases read
  | cons header block =>
    obtain ⟨opened, -, read⟩ := Option.bind_eq_some_iff.1 read
    obtain ⟨statements, body, read⟩ := Option.bind_eq_some_iff.1 read
    cases read
    intro text member
    rcases List.mem_append.1 member with inside | inside
    · exact remarked text (Option.mem_toList.1 inside)
    · exact Statement.isOneLine_of_ofBlock? (List.forall_mem_cons.1 free).2 body text inside

theorem isOneLine_of_ofLines? {lines : List (List Char)} {declaration : Declaration}
    (free : ∀ line ∈ lines, '\n' ∉ line) (read : ofLines? lines = some declaration) :
    ∀ text ∈ declaration.rawTexts, IsOneLine text := by
  unfold ofLines? at read
  split at read
  next remark block =>
    obtain ⟨first, others⟩ := List.forall_mem_cons.1 free
    refine isOneLine_of_ofBlock? (fun text same => ?_) others read
    cases same
    exact isOneLine_ofList fun member =>
      first (List.mem_cons_of_mem _ (List.mem_cons_of_mem _ (List.mem_cons_of_mem _ member)))
  next => exact isOneLine_of_ofBlock? (fun text none => by cases none) free read

end Declaration

/-- Whatever text a file was read off, no text in the file has a line break. -/
theorem SchemaFile.isOneLine_of_ofText? {text : String} {file : SchemaFile}
    (read : ofText? text = some file) : ∀ raw ∈ file.rawTexts, IsOneLine raw := by
  obtain ⟨lines, ended, read⟩ := Option.bind_eq_some_iff.1 read
  have free := notMem_of_linesOf? ended
  split at read
  next banner package blocks pieces =>
    split at read
    next =>
      obtain ⟨front, -, read⟩ := Option.bind_eq_some_iff.1 read
      obtain ⟨name, -, read⟩ := Option.bind_eq_some_iff.1 read
      obtain ⟨declarations, all, read⟩ := Option.bind_eq_some_iff.1 read
      cases read
      intro raw member
      obtain ⟨declaration, listed, inside⟩ := List.mem_flatMap.1 member
      obtain ⟨block, known, one⟩ := exists_of_mem_mapM all declaration listed
      refine Declaration.isOneLine_of_ofLines? (fun line within => free line ?_) one raw inside
      have piece : block ∈ lines.splitOn [] := by
        rw [pieces]
        exact List.mem_cons_of_mem _ known
      exact mem_of_mem_splitOn [] piece within
    next => cases read
  next => cases read

end Pieces

/-! Reading a file back therefore is a matter of the texts that it takes over. -/

theorem isOneLine_toString (number : Nat) : IsOneLine (toString number) :=
  (isPlain_toString number).isOneLine

theorem Statement.isOneLine_text {statement : Statement} (named : statement.IsNamed)
    (raw : ∀ type ∈ statement.type?, IsOneLine type) : IsOneLine statement.text := by
  cases statement with
  | id value =>
    have digits : IsOneLine value.text := isOneLine_toString _
    rw [text, isOneLine_append, isOneLine_append]
    exact ⟨⟨by decide, digits⟩, by decide⟩
  | member type name number =>
    have name : IsOneLine name := named.isOneLine
    have type : IsOneLine type := raw type rfl
    simp only [text, isOneLine_append]
    exact ⟨⟨⟨⟨⟨type, by decide⟩, name⟩, by decide⟩, isOneLine_toString number⟩, by decide⟩

theorem Declaration.isOneLine_of_mem_lines {declaration : Declaration}
    (plain : IsPlain declaration.name)
    (named : ∀ statement ∈ declaration.statements, statement.IsNamed)
    (raw : ∀ text ∈ declaration.rawTexts, IsOneLine text) :
    ∀ line ∈ declaration.lines, '\n' ∉ line := by
  obtain ⟨remarks, types⟩ := List.forall_mem_append.1 raw
  intro line member
  rcases List.mem_append.1 member with remarked | member
  · obtain ⟨remark, listed, rfl⟩ := List.mem_map.1 remarked
    have free : '\n' ∉ remark.toList := remarks remark listed
    simpa using free
  rcases List.mem_cons.1 member with rfl | member
  · have free : '\n' ∉ declaration.name.toList := plain.isOneLine
    cases declaration.kind with
    | component => simpa [DeclarationKind.keyword] using free
    | type => simpa [DeclarationKind.keyword] using free
  rcases List.mem_append.1 member with stated | closing
  · obtain ⟨statement, listed, rfl⟩ := List.mem_map.1 stated
    have free : '\n' ∉ statement.text.toList :=
      Statement.isOneLine_text (named statement listed) fun type typed =>
        types type (List.mem_filterMap.2 ⟨statement, listed, typed⟩)
    simpa using free
  · rw [List.mem_singleton.1 closing]
    decide

namespace SchemaFile

/-- What is not taken over from the host fits on lines. -/
structure IsLegible (file : SchemaFile) : Prop where
  package : IsOneLine file.package
  names : ∀ declaration ∈ file.declarations, IsPlain declaration.name
  members : ∀ declaration ∈ file.declarations, ∀ statement ∈ declaration.statements,
    statement.IsNamed

/-- The text of a file gives the file back, line by line. -/
def ReadsBack (file : SchemaFile) : Prop := ofText? file.render = some file

/-- A file is read back from its text exactly if the texts that it takes over have no line
breaks. -/
theorem readsBack_iff {file : SchemaFile} (legible : file.IsLegible) :
    file.ReadsBack ↔ ∀ raw ∈ file.rawTexts, IsOneLine raw := by
  refine ⟨isOneLine_of_ofText?, fun raw => ofText?_render (fun line member => ?_) legible.members⟩
  rcases List.mem_append.1 member with heading | body
  · rcases List.mem_cons.1 heading with rfl | last
    · decide
    · rw [List.mem_singleton.1 last]
      have free : '\n' ∉ file.package.toList := legible.package
      simpa using free
  · obtain ⟨declaration, listed, inside⟩ := List.mem_flatMap.1 body
    rcases List.mem_cons.1 inside with rfl | within
    · exact List.not_mem_nil
    · refine Declaration.isOneLine_of_mem_lines (legible.names declaration listed)
        (legible.members declaration listed) (fun text known => raw text ?_) line within
      exact List.mem_flatMap.2 ⟨declaration, listed, known⟩

end SchemaFile

end ComponentSchema
