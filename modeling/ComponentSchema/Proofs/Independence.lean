import ComponentSchema.Proofs.Graph.Validation
import ComponentSchema.Proofs.History
import ComponentSchema.Proofs.Pass.Candidates
import ComponentSchema.Proofs.Pass.Mirroring

/-!
What a pass does not depend on.  However a manifest lists its classes and levels, in whatever order and
how often candidates are notified, and whatever the size of a batch: two passes from the same files
succeed alike, and leave the same files and the same report.
-/

namespace ComponentSchema

open PassTask

def Settings.rebatched (settings : Settings) (size : Nat) : Settings :=
  { settings with generator := { settings.generator with batchSize := size } }

/-- Manifests that list the same classes and the same levels, and have the same catalog. -/
structure Manifest.Lists (first second : Manifest) : Prop where
  classes : first.classes.Perm second.classes
  levels : first.levels.Perm second.levels
  catalog : first.catalog = second.catalog

/-- What is discovered is the same up to the order of classes with one path. -/
structure Discovery.Resembles (first second : Discovery × List Level) : Prop where
  classes : first.1.classes.Perm second.1.classes
  ordered : first.1.classes.Pairwise fun one other => (compareOn Node.path one other).isLE = true
  ordered' : second.1.classes.Pairwise fun one other => (compareOn Node.path one other).isLE = true
  skipped : first.1.skipped = second.1.skipped
  levels : first.2 = second.2

theorem Manifest.Lists.resembles {first second : Manifest} (lists : first.Lists second)
    (neverCookDirs paths : List String) :
    Discovery.Resembles
      (Candidates.discover neverCookDirs first.resolve? first.classes paths,
        Candidates.levels first.levels)
      (Candidates.discover neverCookDirs second.resolve? second.classes paths,
        Candidates.levels second.levels) := by
  have resolved : ∀ path ∈ Candidates.unloaded first.classes paths,
      first.resolve? path = second.resolve? path := by
    intro path unloaded
    have absent := (Candidates.mem_unloaded.1 unloaded).2
    have absent' : path ∉ second.classes.map Node.path := by
      rwa [← (lists.classes.map Node.path).mem_iff]
    rw [resolve?_of_notMem absent, resolve?_of_notMem absent', lists.catalog]
  have gathered := Candidates.gather_perm lists.classes resolved
  have classes := gathered.filter fun node => (Support.skipReason? neverCookDirs node).isNone
  refine ⟨classes, Candidates.pairwise_classes_discover .., Candidates.pairwise_classes_discover ..,
    ?_, Candidates.levels_eq_of_perm lists.levels⟩
  unfold Candidates.discover
  dsimp only
  rw [gathered.length_eq, classes.length_eq]

namespace Plan

theorem discover_mirrors {settings : Settings} {first second : Manifest} (lists : first.Lists second)
    (size : Nat) (compiler : Compiler) :
    Mirrors Discovery.Resembles (discover ⟨settings, first.source, compiler⟩)
      (discover ⟨settings.rebatched size, second.source, compiler⟩) := by
  have loading : Mirrors (fun loaded other => loaded = first.classes ∧ other = second.classes)
      (ofExcept PassError.source first.source.classes)
      (ofExcept PassError.source second.source.classes) := .ofExcept (.ok ⟨rfl, rfl⟩) _
  have listing : Mirrors (fun levels other => levels = first.levels ∧ other = second.levels)
      (ofExcept PassError.source first.source.levels)
      (ofExcept PassError.source second.source.levels) := .ofExcept (.ok ⟨rfl, rfl⟩) _
  refine .bind (.enter .discovering) fun _ _ _ => .bind loading ?_
  rintro _ _ ⟨rfl, rfl⟩
  refine .bind drain_mirrors ?_
  rintro paths _ rfl
  refine .bind (.tell _ _) fun _ _ _ => .bind listing ?_
  rintro _ _ ⟨rfl, rfl⟩
  exact .pure (lists.resembles settings.generator.neverCookDirs paths)

/-- Graphs that are the same up to the order of classes with one path are both rejected, or they are the
same. -/
theorem validate_mirrors {first second : Discovery × List Level}
    (resembles : Discovery.Resembles first second) :
    Mirrors (fun _ _ => first.1.classes = second.1.classes)
      (validate first.1.classes first.2) (validate second.1.classes second.2) := by
  have agree : Agree (fun _ _ => first.1.classes = second.1.classes)
      (Validation.check first.1.classes first.2) (Validation.check second.1.classes second.2) := by
    rw [← resembles.levels]
    -- only classes with one path can come in different orders, and validation rejects these
    by_cases distinct : (first.1.classes.map Node.path).Nodup
    · have same := Candidates.eq_of_perm resembles.classes resembles.ordered resembles.ordered'
        distinct
      rw [← same]
      cases Validation.check first.1.classes first.2 with
      | error findings => exact .error findings findings
      | ok _ => exact .ok rfl
    · have repeated : ¬(second.1.classes.map Node.path).Nodup := by
        rwa [← (resembles.classes.map Node.path).nodup_iff]
      have rejected {classes : List Node} (repeated : ¬(classes.map Node.path).Nodup) :
          ∃ findings, Validation.check classes first.2 = .error findings := by
        rcases checked : Validation.check classes first.2 with findings | _
        · exact ⟨findings, rfl⟩
        · exact absurd (Validation.check_eq_ok_iff.1 checked).1.2 repeated
      obtain ⟨findings, refused⟩ := rejected distinct
      obtain ⟨findings', refused'⟩ := rejected repeated
      rw [refused, refused']
      exact .error findings findings'
  refine .bind (.enter .validating) fun _ _ _ => .bind (.tell _ _) fun _ _ _ => ?_
  exact .ofExcept agree _

theorem pass_mirrors {settings : Settings} {size : Nat} {first second : Manifest}
    (lists : first.Lists second) (positive : settings.generator.batchSize ≠ 0)
    (positive' : size ≠ 0) (compiler : Compiler) (reset : Bool) :
    Mirrors Eq (pass ⟨settings, first.source, compiler⟩ reset)
      (pass ⟨settings.rebatched size, second.source, compiler⟩ reset) := by
  have valid : (settings.rebatched size).validate = settings.validate := by
    have filled : (settings.rebatched size).generator.batchSize ≠ 0 := positive'
    unfold Settings.validate Settings.fault?
    rw [if_neg positive, if_neg filled]
    rfl
  have checking : Mirrors Eq (ofExcept PassError.settings settings.validate)
      (ofExcept PassError.settings (settings.rebatched size).validate) := by
    rw [valid]
    exact .ofExcept (.refl _) _
  have parallels : Parallels ⟨settings, first.source, compiler⟩
      ⟨settings.rebatched size, second.source, compiler⟩ := ⟨rfl, rfl, rfl, rfl⟩
  refine .bind checking fun _ _ _ => .bind (load_mirrors parallels reset) ?_
  rintro outcome _ rfl
  refine .bind (discover_mirrors lists size compiler) ?_
  rintro ⟨discovery, levels⟩ ⟨discovery', levels'⟩ resembles
  have validating : Mirrors (fun _ _ => discovery.classes = discovery'.classes)
      (validate discovery.classes levels) (validate discovery'.classes levels') :=
    validate_mirrors resembles
  have skipped : discovery.skipped = discovery'.skipped := resembles.skipped
  obtain rfl : levels = levels' := resembles.levels
  dsimp only
  refine .bind validating fun _ _ same => ?_
  rw [← same, ← skipped]
  refine .bind (emit_mirrors parallels positive positive' _ _ _) ?_
  rintro emitted _ rfl
  refine .bind (compile_mirrors parallels) fun _ _ _ => ?_
  refine .bind (persist_mirrors parallels emitted.numbering) ?_
  rintro ⟨hash, ledger⟩ _ rfl
  exact .pure rfl

theorem finish_mirrors {result other : Except PassError Report} (agree : Agree Eq result other) :
    Mirrors Eq (finish result) (finish other) := by
  cases agree with
  | error error other =>
    refine .bind (.enter .failed) fun _ _ _ => .bind (.tell _ _) fun _ _ _ => ?_
    exact fun _ _ matching => ⟨.error error other, matching⟩
  | ok alike =>
    subst alike
    exact .bind (.enter .done) fun _ _ _ => .bind (.tell _ _) fun _ _ _ => .pure rfl

theorem run_mirrors {settings : Settings} {size : Nat} {first second : Manifest}
    (lists : first.Lists second) (positive : settings.generator.batchSize ≠ 0)
    (positive' : size ≠ 0) (compiler : Compiler) (reset : Bool) :
    Mirrors Eq (run ⟨settings, first.source, compiler⟩ reset)
      (run ⟨settings.rebatched size, second.source, compiler⟩ reset) := by
  intro generator partner matching
  obtain ⟨agree, still⟩ := pass_mirrors lists positive positive' compiler reset
    { generator with stage := .idle } { partner with stage := .idle }
    ⟨matching.files, matching.waiting⟩
  exact finish_mirrors agree _ _ still

end Plan

def Generator.notifiedOf (generator : Generator) (paths : List String) : Generator :=
  { generator with queue := some (.notifiedOf paths) }

/-- Two passes succeed alike, with the same report and the same files, if their manifests list the same
classes and levels in some order and have the same catalog, the same paths were notified in some order
and with some repeats, and their settings differ in the size of batches only. -/
theorem Plan.run_eq_of_lists {settings : Settings} {size : Nat} {first second : Manifest}
    (lists : first.Lists second) (positive : settings.generator.batchSize ≠ 0)
    (positive' : size ≠ 0) {notified others : List String}
    (candidates : ∀ path, path ∈ notified ↔ path ∈ others) {generator partner : Generator}
    (files : generator.files = partner.files) (compiler : Compiler) (reset : Bool) :
    (run ⟨settings, first.source, compiler⟩ reset (generator.notifiedOf notified)).1.toOption =
        (run ⟨settings.rebatched size, second.source, compiler⟩ reset
          (partner.notifiedOf others)).1.toOption ∧
      (run ⟨settings, first.source, compiler⟩ reset (generator.notifiedOf notified)).2.files =
        (run ⟨settings.rebatched size, second.source, compiler⟩ reset
          (partner.notifiedOf others)).2.files := by
  have waiting : (generator.notifiedOf notified).waiting = (partner.notifiedOf others).waiting := by
    have same := SortedSet.ofList_congr candidates
    exact (CandidateQueue.waiting_notifiedOf notified).trans
      ((congrArg SortedMap.keys same).trans (CandidateQueue.waiting_notifiedOf others).symm)
  obtain ⟨agree, still⟩ := run_mirrors lists positive positive' compiler reset
    (generator.notifiedOf notified) (partner.notifiedOf others) ⟨files, waiting⟩
  exact ⟨agree.toOption_eq, still.files⟩

def Node.plain (path name : String) : Node :=
  (rootClass path name).withFields .state
    [{ path := path ++ ":Open", name := "Open", type := "bool" }]

/-- Two loaded classes, two levels, and a class in the catalog. -/
def Manifest.yard : Manifest where
  classes := [.plain "/A.Door" "Door", .plain "/B.Gate" "Gate"]
  catalog := [.plain "/C.Wall" "Wall"]
  levels := [⟨"Front", "/L.Front"⟩, ⟨"Back", "/L.Back"⟩]

/-- The same classes and levels the other way round. -/
def Manifest.turned : Manifest :=
  { yard with classes := yard.classes.reverse, levels := yard.levels.reverse }

theorem Manifest.yard_lists : yard.Lists turned :=
  ⟨(List.reverse_perm _).symm, (List.reverse_perm _).symm, rfl⟩

theorem Plan.run_eq_of_lists_yard :
    (run ⟨small.settings, Manifest.yard.source, small.compiler⟩ false
          (({} : Generator).notifiedOf ["/C.Wall", "/A.Door"])).1.toOption =
        (run ⟨small.settings.rebatched 1, Manifest.turned.source, small.compiler⟩ false
          (({} : Generator).notifiedOf ["/A.Door", "/C.Wall", "/A.Door"])).1.toOption ∧
      (run ⟨small.settings, Manifest.yard.source, small.compiler⟩ false
          (({} : Generator).notifiedOf ["/C.Wall", "/A.Door"])).2.files =
        (run ⟨small.settings.rebatched 1, Manifest.turned.source, small.compiler⟩ false
          (({} : Generator).notifiedOf ["/A.Door", "/C.Wall", "/A.Door"])).2.files := by
  refine Plan.run_eq_of_lists Manifest.yard_lists (by decide) (by decide) ?_ rfl small.compiler false
  intro path
  simp only [List.mem_cons, List.not_mem_nil, or_false]
  tauto

end ComponentSchema
