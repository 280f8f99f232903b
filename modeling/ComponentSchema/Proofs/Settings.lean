import Mathlib
import ComponentSchema.Proofs.Files.Location
import ComponentSchema.Proofs.Lists
import ComponentSchema.Settings

/-!
Settings that are read with an absolute base.  Every path of theirs is absolute from then on, but for a
bare executable name, so it does not matter any more where they are seen from.
-/

namespace ComponentSchema

namespace Path

variable {base path : Path}

theorem isAbsolute_iff : path.isAbsolute = true ↔ ∃ rest, path.toList = '/' :: rest := by
  rw [isAbsolute, beq_iff_eq, List.head?_eq_some_iff]

theorem join_of_isAbsolute (absolute : path.isAbsolute = true) : base.join path = path :=
  if_pos absolute

theorem resolvedAt_of_isAbsolute (absolute : path.isAbsolute = true) : base.resolvedAt path = path :=
  if_pos absolute

/-- A relative path follows the base, with a separator between them if the base lacks it. -/
theorem toList_join (relative : path.isAbsolute = false) (some_ : base.toList ≠ []) :
    (base.join path).toList =
      base.toList ++ ((if base.endsInSeparator then [] else ['/']) ++ path.toList) := by
  have last : base.toList.getLast? = some (base.toList.getLast some_) :=
    List.getLast?_eq_some_getLast some_
  unfold join endsInSeparator
  rw [relative, last]
  by_cases separator : base.toList.getLast some_ = '/'
  · simp [separator]
  · simp [separator]

theorem isAbsolute_join (absolute : base.isAbsolute = true) (path : Path) :
    (base.join path).isAbsolute = true := by
  cases relative : path.isAbsolute with
  | true => rwa [join_of_isAbsolute relative]
  | false =>
    obtain ⟨rest, begins⟩ := isAbsolute_iff.1 absolute
    have some_ : base.toList ≠ [] := by simp [begins]
    rw [isAbsolute_iff, toList_join relative some_, begins]
    exact ⟨_, rfl⟩

/-- What inner pieces say: those that stand for the directory they are in say nothing. -/
def named (inner : List (List Char)) : List Component :=
  (inner.filter fun piece => !isIdle piece).map fun piece =>
    if piece = ['.', '.'] then .up else .name piece

theorem named_append (front back : List (List Char)) : named (front ++ back) = named front ++ named back := by
  rw [named, List.filter_append, List.map_append]
  rfl

theorem here_notMem_named (inner : List (List Char)) : Component.here ∉ named inner := by
  intro member
  obtain ⟨piece, -, same⟩ := List.mem_map.1 member
  split at same <;> cases same

theorem components_of_root {rest : List Char} (begins : path.toList = '/' :: rest) :
    path.components = .root :: named (pieces rest) := by
  rw [components, begins]
  rfl

/-- Of a relative path only a dot at the start is lost where it follows something. -/
theorem named_pieces (relative : path.isAbsolute = false) :
    named (pieces path.toList) = path.components.filter fun part => part ≠ .here := by
  have kept (inner : List (List Char)) :
      (named inner).filter (fun part => part ≠ .here) = named inner := by
    refine List.filter_eq_self.2 fun part member => ?_
    have other : part ≠ .here := by
      rintro rfl
      exact here_notMem_named inner member
    simp [other]
  have parts : path.components = (split path.toList).1.toList ++ named (split path.toList).2 := rfl
  rw [parts, List.filter_append, kept]
  unfold split
  split
  next rest begins =>
    have absolute : path.isAbsolute = true := isAbsolute_iff.2 ⟨rest, begins⟩
    rw [relative] at absolute
    cases absolute
  next dot =>
    rw [dot]
    rfl
  next rest begins =>
    have first : pieces ('.' :: '/' :: rest) = ['.'] :: pieces rest := pieces_separator ['.'] rest
    rw [begins, first]
    rfl
  next => rfl

/-- The components of a relative path follow those of an absolute base. -/
theorem components_join (absolute : base.isAbsolute = true) (relative : path.isAbsolute = false) :
    (base.join path).components =
      base.components ++ path.components.filter fun part => part ≠ .here := by
  obtain ⟨rest, begins⟩ := isAbsolute_iff.1 absolute
  have some_ : base.toList ≠ [] := by simp [begins]
  have joined := toList_join relative some_
  rw [← named_pieces relative, components_of_root begins, List.cons_append]
  by_cases separator : base.endsInSeparator = true
  · rw [if_pos separator, List.nil_append, begins, List.cons_append] at joined
    rw [components_of_root joined]
    rcases List.eq_nil_or_concat rest with rfl | ⟨front, last, rfl⟩
    · rfl
    · have slash : last = '/' := by
        rw [endsInSeparator, begins, beq_iff_eq, List.concat_eq_append, ← List.cons_append,
          List.getLast?_concat] at separator
        exact Option.some.inj separator
      subst slash
      have bare : named (pieces (front ++ ['/'])) = named (pieces front) := by
        rw [pieces_separator, named_append]
        exact List.append_nil _
      rw [List.concat_eq_append, bare, List.append_assoc, List.singleton_append, pieces_separator,
        named_append]
  · rw [if_neg separator, begins, List.cons_append, List.singleton_append] at joined
    rw [components_of_root joined, pieces_separator, named_append]

/-- What becomes of a path that is seen from a base. -/
structure IsSeenFrom (base path seen : Path) : Prop where
  absolute : seen.isAbsolute = true
  kept : path.isAbsolute = true → seen = path
  joined : path.isAbsolute = false → seen = base.join path
  components : path.isAbsolute = false →
    seen.components = base.components ++ path.components.filter fun part => part ≠ .here

theorem isSeenFrom_resolvedAt (absolute : base.isAbsolute = true) (path : Path) :
    IsSeenFrom base path (base.resolvedAt path) := by
  unfold resolvedAt
  cases own : path.isAbsolute with
  | true => exact ⟨own, fun _ => rfl, fun none => absurd (own.symm.trans none) (by decide),
      fun none => absurd (own.symm.trans none) (by decide)⟩
  | false => exact ⟨isAbsolute_join absolute path, fun none => absurd (own.symm.trans none) (by decide),
      fun _ => rfl, fun _ => components_join absolute own⟩

end Path

namespace Settings

variable {text : String} {base : Path} {written settings : Settings}

/-- What a text says, with its paths as they are written. -/
def written? (text : String) : Option Settings :=
  (Toml.parse? text).bind fun members => ofToml? (.table .headed members)

theorem ofText_eq_ok_iff : ofText text base = .ok settings ↔
    ∃ written, written? text = some written ∧ written.resolvedAt base = settings ∧
      settings.fault? = none := by
  unfold ofText written?
  cases (Toml.parse? text).bind fun members => ofToml? (.table .headed members) with
  | none => simp
  | some written =>
    simp only [validate, Option.some.injEq, exists_eq_left']
    cases fault : (written.resolvedAt base).fault? with
    | none =>
      constructor
      · rintro same
        cases same
        exact ⟨rfl, fault⟩
      · rintro ⟨rfl, -⟩
        rfl
    | some reason =>
      constructor
      · intro same
        cases same
      · rintro ⟨rfl, none⟩
        rw [fault] at none
        cases none

theorem fault?_eq_none_iff : settings.fault? = none ↔
    0 < settings.generator.batchSize ∧ settings.compiler.schemaPaths ≠ [] := by
  unfold fault?
  by_cases empty : settings.generator.batchSize = 0
  · simp [empty]
  · simp [empty, Nat.pos_of_ne_zero empty]

/-- What becomes of settings whose paths are seen from a base.  An executable name of one component, or
of none, stays as it is. -/
structure IsSeenFrom (base : Path) (written settings : Settings) : Prop where
  schemaDir : Path.IsSeenFrom base written.generator.schemaDir settings.generator.schemaDir
  database : Path.IsSeenFrom base written.generator.database settings.generator.database
  outputDir : Path.IsSeenFrom base written.compiler.outputDir settings.compiler.outputDir
  schemaPaths : List.Forall₂ (Path.IsSeenFrom base) written.compiler.schemaPaths
    settings.compiler.schemaPaths
  bare : written.compiler.exe.components.length ≤ 1 → settings.compiler.exe = written.compiler.exe
  located : 1 < written.compiler.exe.components.length →
    Path.IsSeenFrom base written.compiler.exe settings.compiler.exe
  batchSize : settings.generator.batchSize = written.generator.batchSize
  slots : settings.generator.slots = written.generator.slots
  neverCookDirs : settings.generator.neverCookDirs = written.generator.neverCookDirs
  additionalArgs : settings.compiler.additionalArgs = written.compiler.additionalArgs

theorem isSeenFrom_resolvedAt (absolute : base.isAbsolute = true) (written : Settings) :
    IsSeenFrom base written (written.resolvedAt base) where
  schemaDir := Path.isSeenFrom_resolvedAt absolute _
  database := Path.isSeenFrom_resolvedAt absolute _
  outputDir := Path.isSeenFrom_resolvedAt absolute _
  schemaPaths := List.forall₂_map_right_iff.2
    (List.forall₂_same.2 fun path _ => Path.isSeenFrom_resolvedAt absolute path)
  bare short := if_neg (Nat.not_lt.2 short)
  located long := by
    have joined : (written.resolvedAt base).compiler.exe = base.resolvedAt written.compiler.exe :=
      if_pos long
    rw [joined]
    exact Path.isSeenFrom_resolvedAt absolute _
  batchSize := rfl
  slots := rfl
  neverCookDirs := rfl
  additionalArgs := rfl

/-- Paths that are absolute are not seen from anywhere else, and a bare name stays bare. -/
theorem IsSeenFrom.resolvedAt_eq (seen : IsSeenFrom base written settings) (other : Path) :
    settings.resolvedAt other = settings := by
  have paths : settings.compiler.schemaPaths.map other.resolvedAt = settings.compiler.schemaPaths := by
    have each : ∀ path ∈ settings.compiler.schemaPaths, other.resolvedAt path = id path := by
      intro path listed
      obtain ⟨origin, -, from_⟩ := exists_of_mem_left seen.schemaPaths.flip path listed
      exact Path.resolvedAt_of_isAbsolute from_.absolute
    rw [List.map_congr_left each, List.map_id]
  have exe : (if settings.compiler.exe.components.length > 1 then
      other.resolvedAt settings.compiler.exe else settings.compiler.exe) = settings.compiler.exe := by
    by_cases short : written.compiler.exe.components.length ≤ 1
    · rw [seen.bare short, if_neg (Nat.not_lt.2 short)]
    · have absolute := (seen.located (Nat.lt_of_not_le short)).absolute
      rw [Path.resolvedAt_of_isAbsolute absolute, ite_self]
  unfold resolvedAt GeneratorSettings.resolvedAt CompilerSettings.resolvedAt
  rw [Path.resolvedAt_of_isAbsolute seen.schemaDir.absolute,
    Path.resolvedAt_of_isAbsolute seen.database.absolute,
    Path.resolvedAt_of_isAbsolute seen.outputDir.absolute, paths, exe]

/-- Settings that are accepted with an absolute base have a batch size and a schema path to work with.  Each
path of theirs is absolute: it is the one that was written if that is absolute, and else the one that follows
the base.  A bare executable name stays one.  Seen from anywhere else, nothing changes any more. -/
theorem ofText_resolves (absolute : base.isAbsolute = true)
    (accepted : ofText text base = .ok settings) :
    0 < settings.generator.batchSize ∧ settings.compiler.schemaPaths ≠ [] ∧
      (∃ written, written? text = some written ∧ IsSeenFrom base written settings) ∧
      ∀ other, settings.resolvedAt other = settings := by
  obtain ⟨written, read, rfl, passed⟩ := ofText_eq_ok_iff.1 accepted
  obtain ⟨positive, some_⟩ := fault?_eq_none_iff.1 passed
  have seen := isSeenFrom_resolvedAt absolute written
  exact ⟨positive, some_, ⟨written, read, seen⟩, seen.resolvedAt_eq⟩

/-- A text with paths of both kinds, and an executable that stands beside it. -/
def mixedText : String :=
  "[generator]\nbatch_size = 7\ndatabase = '/var/ids.json'\n" ++
    "[compiler]\nexe = './compiler'\nschema_paths = ['/abs/schema', 'own//schema/']\n"

/-- What it says to a project. -/
def mixed : Settings where
  generator :=
    { schemaDir := "/project/spatial/schema/unreal/generated", database := "/var/ids.json",
      batchSize := 7 }
  compiler :=
    { exe := "/project/./compiler", schemaPaths := ["/abs/schema", "/project/own//schema/"],
      outputDir := "/project/spatial/build/assembly/schema" }

theorem ofText_resolves_mixed :
    Path.isAbsolute "/project" = true ∧ ofText mixedText "/project" = .ok mixed ∧
      0 < mixed.generator.batchSize ∧ mixed.compiler.schemaPaths ≠ [] ∧
      (∃ written, written? mixedText = some written ∧ IsSeenFrom "/project" written mixed) ∧
      ∀ other, mixed.resolvedAt other = mixed := by
  have absolute : Path.isAbsolute "/project" = true := by decide
  have accepted : ofText mixedText "/project" = .ok mixed := by decide +kernel
  exact ⟨absolute, accepted, ofText_resolves absolute accepted⟩

end Settings

end ComponentSchema
