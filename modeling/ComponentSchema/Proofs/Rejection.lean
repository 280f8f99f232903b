import ComponentSchema.Proofs.Independence
import ComponentSchema.Proofs.Pass.Staging

/-!
Classes that get no schema.  They are listed, sorted and counted with the others, and then a pass goes on
without them: how they are named, which paths they have and what hangs beneath them shows in what was told
and in how many classes were skipped, and nowhere else.
-/

namespace ComponentSchema

/-- A list lacks some items of another, all of which may go. -/
inductive Lacks {α : Type} (mayGo : α → Prop) : List α → List α → Prop
  | nil : Lacks mayGo [] []
  | keep (item : α) {items others : List α} (rest : Lacks mayGo items others) :
    Lacks mayGo (item :: items) (item :: others)
  | drop {item : α} {items others : List α} (goes : mayGo item) (rest : Lacks mayGo items others) :
    Lacks mayGo (item :: items) others

namespace Lacks

variable {α : Type} {mayGo : α → Prop} {items others : List α}

theorem length_le (lacks : Lacks mayGo items others) : others.length ≤ items.length := by
  induction lacks with
  | nil => exact Nat.le_refl 0
  | keep item rest ih => exact Nat.succ_le_succ ih
  | drop goes rest ih => exact Nat.le_succ_of_le ih

/-- Where nothing that may go is kept, it makes no difference that it is gone. -/
theorem filter_eq {keeps : α → Bool} (lacks : Lacks mayGo items others)
    (gone : ∀ item, mayGo item → ¬keeps item) : items.filter keeps = others.filter keeps := by
  induction lacks with
  | nil => rfl
  | keep item rest ih => rw [List.filter_cons, List.filter_cons, ih]
  | drop goes rest ih => rw [List.filter_cons_of_neg (gone _ goes), ih]

/-- So it is with what is asked for, where nothing that may go has it. -/
theorem mem_map_iff {β : Type} {value : α → β} {wanted : β} (lacks : Lacks mayGo items others)
    (apart : ∀ item, mayGo item → value item ≠ wanted) :
    wanted ∈ items.map value ↔ wanted ∈ others.map value := by
  induction lacks with
  | nil => rfl
  | keep item rest ih => rw [List.map_cons, List.map_cons, List.mem_cons, List.mem_cons, ih]
  | drop goes rest ih =>
    rw [List.map_cons, List.mem_cons, or_iff_right (apart _ goes).symm, ih]

end Lacks

/-- A manifest is another without some loaded classes, each of which gets no schema and none of which a
candidate stands for. -/
structure Manifest.Omits (neverCookDirs candidates : List String) (first second : Manifest) : Prop where
  classes : Lacks
    (fun node => (Support.skipReason? neverCookDirs node).isSome ∧ node.path ∉ candidates)
    first.classes second.classes
  levels : first.levels = second.levels
  catalog : first.catalog = second.catalog

namespace Manifest.Omits

variable {neverCookDirs candidates : List String} {first second : Manifest}

theorem unloaded_eq (omits : first.Omits neverCookDirs candidates second) :
    Candidates.unloaded first.classes candidates = Candidates.unloaded second.classes candidates := by
  have known {path : String} (notified : path ∈ candidates) :
      path ∈ first.classes.map Node.path ↔ path ∈ second.classes.map Node.path :=
    omits.classes.mem_map_iff fun node goes same => goes.2 (same ▸ notified)
  refine List.filter_congr fun path notified => ?_
  rw [Bool.eq_iff_iff, Bool.not_eq_true', Bool.not_eq_true', ← Bool.not_eq_true, ← Bool.not_eq_true,
    SortedSet.contains_ofList, SortedSet.contains_ofList, known notified]

/-- What the candidates stand for is the same with and without the classes that are left out. -/
theorem filterMap_resolve?_eq (omits : first.Omits neverCookDirs candidates second) :
    (Candidates.unloaded first.classes candidates).filterMap first.resolve? =
      (Candidates.unloaded second.classes candidates).filterMap second.resolve? := by
  rw [← omits.unloaded_eq]
  refine List.filterMap_congr fun path unloaded => ?_
  have unloaded' := unloaded
  rw [omits.unloaded_eq] at unloaded'
  rw [resolve?_of_notMem (Candidates.mem_unloaded.1 unloaded).2,
    resolve?_of_notMem (Candidates.mem_unloaded.1 unloaded').2, omits.catalog]

theorem classes_eq (omits : first.Omits neverCookDirs candidates second) :
    (Candidates.discover neverCookDirs first.resolve? first.classes candidates).classes =
      (Candidates.discover neverCookDirs second.resolve? second.classes candidates).classes := by
  rw [Candidates.classes_discover, Candidates.classes_discover, omits.filterMap_resolve?_eq,
    omits.classes.filter_eq fun node goes kept => ?_]
  rw [Option.isNone_iff_eq_none.1 kept] at goes
  cases goes.1

theorem skipped_eq (omits : first.Omits neverCookDirs candidates second) :
    (Candidates.discover neverCookDirs first.resolve? first.classes candidates).skipped =
      (Candidates.discover neverCookDirs second.resolve? second.classes candidates).skipped +
        (first.classes.length - second.classes.length) := by
  have all := Candidates.length_discover neverCookDirs first.resolve? first.classes candidates
  have all' := Candidates.length_discover neverCookDirs second.resolve? second.classes candidates
  have fewer := omits.classes.length_le
  -- both count what was found and is not a class, and one of them found fewer
  rw [omits.classes_eq, omits.filterMap_resolve?_eq] at all
  omega

end Manifest.Omits

def Report.skipping (report : Report) (more : Nat) : Report :=
  { report with skipped := report.skipped + more }

namespace Plan

/-- Of what was discovered, the stages look at the classes only, and the report also at how many were
skipped. -/
theorem staged_skipping {settings : Settings} {discovery other : Discovery} {more : Nat}
    (same : discovery.classes = other.classes)
    (skipped : discovery.skipped = other.skipped + more) (source source' : TypeSource)
    (compiler : Compiler) (outcome : LoadOutcome) (levels : List Level) (files : FileSystem) :
    (staged ⟨settings, source, compiler⟩ outcome discovery levels files).map (Except.map report) id =
      ((staged ⟨settings, source', compiler⟩ outcome other levels files).map
        (Except.map report) id).map (Except.map fun report => report.skipping more) id := by
  have emits : emission ⟨settings, source, compiler⟩ = emission ⟨settings, source', compiler⟩ := rfl
  have prepares : emitter ⟨settings, source, compiler⟩ = emitter ⟨settings, source', compiler⟩ := rfl
  have persists : persisted ⟨settings, source, compiler⟩ = persisted ⟨settings, source', compiler⟩ :=
    rfl
  unfold staged
  rw [same, emits, prepares, persists]
  rcases (emitter ⟨settings, source', compiler⟩).prepare files with ⟨failure | _, prepared⟩
  · rfl
  · dsimp only
    rcases emission ⟨settings, source', compiler⟩ outcome.ledger other.classes levels
      ⟨.ofLedger outcome.ledger, prepared⟩ with ⟨error | made, numbering, written⟩
    · rfl
    · dsimp only
      cases (compiler settings.compiler written).result with
      | error error => rfl
      | ok output =>
        dsimp only
        rcases persisted ⟨settings, source', compiler⟩ numbering
          (compiler settings.compiler written).files with ⟨error | ⟨hash, ledger⟩, left⟩
        · rfl
        · simp only [Prod.map_apply, Except.map, id, report, Report.skipping, same, skipped]

theorem ending_of_omits {settings : Settings} {first second : Manifest}
    {queue : Option CandidateQueue}
    (omits : first.Omits settings.generator.neverCookDirs (queue.elim [] CandidateQueue.waiting) second)
    (compiler : Compiler) (reset : Bool) (files : FileSystem) :
    ending ⟨settings, first.source, compiler⟩ reset queue files =
      (ending ⟨settings, second.source, compiler⟩ reset queue files).map (Except.map fun report =>
        report.skipping (first.classes.length - second.classes.length)) id := by
  have found : discovered ⟨settings, first.source, compiler⟩ queue =
      .ok (Candidates.discover settings.generator.neverCookDirs first.resolve? first.classes
        (queue.elim [] CandidateQueue.waiting), Candidates.levels first.levels) := rfl
  have found' : discovered ⟨settings, second.source, compiler⟩ queue =
      .ok (Candidates.discover settings.generator.neverCookDirs second.resolve? second.classes
        (queue.elim [] CandidateQueue.waiting), Candidates.levels second.levels) := rfl
  have reads : readLedger ⟨settings, first.source, compiler⟩ =
      readLedger ⟨settings, second.source, compiler⟩ := rfl
  -- up to the stages that emit, only what was discovered could tell the passes apart
  unfold ending
  rw [found, found', reads]
  dsimp only
  cases settings.validate with
  | error error => rfl
  | ok _ =>
    dsimp only
    cases readLedger ⟨settings, second.source, compiler⟩ reset files with
    | error error => rfl
    | ok outcome =>
      dsimp only
      rw [omits.classes_eq, omits.levels]
      cases Validation.check (Candidates.discover settings.generator.neverCookDirs second.resolve?
        second.classes (queue.elim [] CandidateQueue.waiting)).classes
        (Candidates.levels second.levels) with
      | error findings => rfl
      | ok _ =>
        dsimp only
        exact staged_skipping omits.classes_eq omits.skipped_eq ..

/-- Classes that get no schema leave no trace: without some of them, none of which a candidate stands for,
a pass ends with the same error or the same report, up to how many classes were skipped, and with the same
files. -/
theorem run_of_omits {settings : Settings} {first second : Manifest} {before : Generator}
    (omits : first.Omits settings.generator.neverCookDirs before.waiting second) (compiler : Compiler)
    (reset : Bool) :
    (run ⟨settings, first.source, compiler⟩ reset before).1 =
        (run ⟨settings, second.source, compiler⟩ reset before).1.map (fun report =>
          report.skipping (first.classes.length - second.classes.length)) ∧
      (run ⟨settings, first.source, compiler⟩ reset before).2.files =
        (run ⟨settings, second.source, compiler⟩ reset before).2.files := by
  have one := ending_eq_of_run
    (Prod.eta (run ⟨settings, first.source, compiler⟩ reset before)).symm
  have other := ending_eq_of_run
    (Prod.eta (run ⟨settings, second.source, compiler⟩ reset before)).symm
  rw [ending_of_omits omits compiler reset, other, Prod.map_apply, Prod.mk.injEq] at one
  exact ⟨one.1.symm, one.2.symm⟩

end Plan

/-- A class that is for the editor only, with no usable name, the path of another class, a cull distance and
a nested class. -/
def Node.misfit : Node :=
  (((rootClass "/A.Door" "").withFlags { editorOnly := true }).withCullDistance 100).withChild
    (rootClass "/A.Door" "Door")

/-- One loaded class. -/
def Manifest.lone : Manifest where
  classes := [.plain "/A.Door" "Door"]

/-- The same class with a misfit before and behind it. -/
def Manifest.littered : Manifest where
  classes := [.misfit, .plain "/A.Door" "Door", .misfit]

theorem Manifest.littered_omits : littered.Omits [] ["/C.Wall"] lone where
  classes := .drop ⟨by decide, by decide⟩ (.keep _ (.drop ⟨by decide, by decide⟩ .nil))
  levels := rfl
  catalog := rfl

theorem Plan.run_of_omits_littered :
    (run ⟨small.settings, Manifest.lone.source, small.compiler⟩ false
      (({} : Generator).notifiedOf ["/C.Wall"])).1.isOk = true ∧
    (run ⟨small.settings, Manifest.littered.source, small.compiler⟩ false
        (({} : Generator).notifiedOf ["/C.Wall"])).1 =
      (run ⟨small.settings, Manifest.lone.source, small.compiler⟩ false
        (({} : Generator).notifiedOf ["/C.Wall"])).1.map (fun report => report.skipping 2) ∧
    (run ⟨small.settings, Manifest.littered.source, small.compiler⟩ false
        (({} : Generator).notifiedOf ["/C.Wall"])).2.files =
      (run ⟨small.settings, Manifest.lone.source, small.compiler⟩ false
        (({} : Generator).notifiedOf ["/C.Wall"])).2.files :=
  ⟨by decide +kernel, run_of_omits Manifest.littered_omits small.compiler false⟩

end ComponentSchema
