import ComponentSchema.Proofs.Independence
import ComponentSchema.Proofs.Pass.Soundness
import ComponentSchema.Proofs.Pass.Walking
import ComponentSchema.Proofs.Repetition

/-!
A pass that is tried again because its compiler failed.  The first attempt took what waited in the queue,
and nothing puts it back.  So the second attempt works without the classes that only the queue told of, and
it comes to the same files and to the same ledger exactly if there were none.
-/

namespace ComponentSchema

namespace Candidates

/-- The classes that a pass has from queued paths alone. -/
def fromQueue (neverCookDirs : List String) (resolve? : String → Option Node) (loaded : List Node)
    (paths : List String) : List Node :=
  ((unloaded loaded paths).filterMap resolve?).filter fun node =>
    (Support.skipReason? neverCookDirs node).isNone

/-- What waits in the queue adds to the classes of a pass, and takes none of them away. -/
theorem classes_discover_perm (neverCookDirs : List String) (resolve? : String → Option Node)
    (loaded : List Node) (paths : List String) :
    (discover neverCookDirs resolve? loaded paths).classes.Perm
      ((discover neverCookDirs resolve? loaded []).classes ++
        fromQueue neverCookDirs resolve? loaded paths) := by
  have sorting (nodes : List Node) :
      ((sorted nodes).filter fun node => (Support.skipReason? neverCookDirs node).isNone).Perm
        (nodes.filter fun node => (Support.skipReason? neverCookDirs node).isNone) :=
    (List.mergeSort_perm nodes _).filter _
  have whole := sorting (loaded ++ (unloaded loaded paths).filterMap resolve?)
  have alone := sorting loaded
  rw [List.filter_append] at whole
  have kept : (discover neverCookDirs resolve? loaded []).classes =
      (sorted loaded).filter fun node => (Support.skipReason? neverCookDirs node).isNone := by
    unfold discover gather unloaded
    rw [List.filter_nil, List.filterMap_nil, List.append_nil]
  rw [kept]
  exact whole.trans (alone.symm.append_right _)

end Candidates

/-- A graph that is valid is so without some of its classes. -/
theorem Validation.check_of_perm {classes kept lost : List Node} {levels : List Level}
    (valid : check classes levels = .ok ()) (perm : classes.Perm (kept ++ lost)) :
    check kept levels = .ok () := by
  obtain ⟨⟨faultless, distinct⟩, rest⟩ := check_eq_ok_iff.1 valid
  refine check_eq_ok_iff.2 ⟨⟨fun node member => ?_, ?_⟩, rest⟩
  · exact faultless node (perm.mem_iff.2 (List.mem_append_left _ member))
  · rw [(perm.map Node.path).nodup_iff, List.map_append] at distinct
    exact (List.nodup_append.1 distinct).1

namespace Plan

def compiledBy (plan : Plan) (compiler : Compiler) : Plan := { plan with compiler }

/-- The classes that a pass has from its queue alone. -/
def fromQueue (plan : Plan) (queue : Option CandidateQueue) : List Node :=
  match plan.source.classes with
  | .ok loaded => Candidates.fromQueue plan.settings.generator.neverCookDirs plan.source.resolve?
      loaded (queue.elim [] CandidateQueue.waiting)
  | .error _ => []

variable {plan : Plan} {reset : Bool} {queue later : Option CandidateQueue}
  {files others : FileSystem} {course second : Course}

/-- Two courses write the same files to the schema tree, and lead to the same ledger wherever the
compiler makes the same descriptor. -/
structure ComesToTheSame (plan : Plan) (first second : Course) : Prop where
  files : plan.schemaFiles second = plan.schemaFiles first
  ledgers : ∀ hash, sealLedger second.numbering hash = sealLedger first.numbering hash

/-- What becomes of classes from the queue when the pass that took them is tried again.  They are gone;
those that were not on record before are not put there now, as they would have been; and all else is the
same exactly if there were none. -/
structure LosesQueued (plan : Plan) (queue : Option CandidateQueue) (first second : Course) :
    Prop where
  classes : first.discovery.classes.Perm (second.discovery.classes ++ plan.fromQueue queue)
  recorded : ∀ node ∈ plan.fromQueue queue,
    ∃ record, first.numbering.ledger.identity? node.path = some record
  unrecorded : ∀ node ∈ plan.fromQueue queue,
    second.numbering.ledger.identity? node.path = second.outcome.ledger.identity? node.path
  same : plan.ComesToTheSame first second ↔ plan.fromQueue queue = []

theorem ReachesCompiling.compiledBy (reaches : plan.ReachesCompiling reset queue files course)
    (compiler : Compiler) : (plan.compiledBy compiler).ReachesCompiling reset queue files course :=
  ⟨⟨reaches.valid, reaches.loaded, reaches.discovered, reaches.validated⟩, reaches.prepares,
    reaches.emits⟩

/-- A pass whose queue is empty discovers all that another one does, but for the classes which that one
has from its queue alone. -/
theorem discovered_of_drained {discovery : Discovery} {levels : List Level}
    (discovered : plan.discovered queue = .ok (discovery, levels))
    (drained : later.elim [] CandidateQueue.waiting = []) :
    ∃ rest, plan.discovered later = .ok (rest, levels) ∧
      discovery.classes.Perm (rest.classes ++ plan.fromQueue queue) ∧
      discovery.classes.Pairwise (fun one other => (compareOn Node.path one other).isLE = true) ∧
      rest.classes.Pairwise fun one other => (compareOn Node.path one other).isLE = true := by
  unfold Plan.discovered at discovered ⊢
  unfold fromQueue
  rw [drained]
  cases loads : plan.source.classes with
  | error error =>
    rw [loads] at discovered
    cases discovered
  | ok loaded =>
    cases lists : plan.source.levels with
    | error error =>
      rw [loads, lists] at discovered
      cases discovered
    | ok listed =>
      rw [loads, lists] at discovered
      cases discovered
      exact ⟨_, rfl, Candidates.classes_discover_perm _ _ _ _,
        Candidates.pairwise_classes_discover _ _ _ _, Candidates.pairwise_classes_discover _ _ _ _⟩

theorem ReachesCompiling.length_schemaFiles
    (reaches : plan.ReachesCompiling reset queue files course) :
    (plan.schemaFiles course).length = course.discovery.classes.length + 2 := by
  have each : (Draft.entries plan.emitter course.numbering.ledger
      ((Draft.ofLedger course.outcome.ledger).named course.discovery.classes)).length =
        ((Draft.ofLedger course.outcome.ledger).named course.discovery.classes).length := by
    refine List.filterMap_length_eq_length.2 fun entry member => ?_
    rw [Option.isSome_map]
    exact reaches.isSome_classKind? entry member
  have named := congrArg List.length
    ((Draft.ofLedger course.outcome.ledger).fst_named course.discovery.classes)
  rw [List.length_map] at named
  unfold schemaFiles
  rw [List.length_append, each, named]
  rfl

/-- Two passes that start from one ledger and discover the same classes emit the same, wherever they
find their files. -/
theorem ReachesCompiling.comesToTheSame (reaches : plan.ReachesCompiling reset queue files course)
    (again : plan.ReachesCompiling reset later others second)
    (outcome : second.outcome = course.outcome)
    (classes : second.discovery.classes = course.discovery.classes)
    (levels : second.levels = course.levels) : plan.ComesToTheSame course second := by
  obtain ⟨-, writes, performs, -⟩ := emission_replays reaches.emits rfl
  have emits := again.emits
  rw [outcome, classes, levels] at emits
  obtain ⟨-, numbering, -⟩ := performs.of_eq_ok emits
  refine ⟨?_, fun hash => by rw [numbering]⟩
  unfold schemaFiles
  rw [outcome, classes, levels, numbering]

section

variable (loaded : plan.readLedger reset others = plan.readLedger reset files)
  (drained : later.elim [] CandidateQueue.waiting = [])

include loaded drained

theorem ReachesEmitting.again (reaches : plan.ReachesEmitting reset queue files course) :
    ∃ again, plan.ReachesEmitting reset later others again := by
  obtain ⟨rest, discovered, perm, -⟩ := discovered_of_drained reaches.discovered drained
  exact ⟨.starting course.outcome rest course.levels others, reaches.valid,
    loaded.trans reaches.loaded, discovered, Validation.check_of_perm reaches.validated perm⟩

theorem ReachesEmitting.eq_again (reaches : plan.ReachesEmitting reset queue files course)
    (again : plan.ReachesEmitting reset later others second) :
    second.outcome = course.outcome ∧ second.levels = course.levels ∧
      course.discovery.classes.Perm (second.discovery.classes ++ plan.fromQueue queue) ∧
        (plan.fromQueue queue = [] → second.discovery.classes = course.discovery.classes) := by
  obtain ⟨rest, discovered, perm, ordered, ordered'⟩ :=
    discovered_of_drained reaches.discovered drained
  obtain ⟨rfl, levels⟩ := again.discovery_levels discovered
  have outcome := again.loaded.symm.trans (loaded.trans reaches.loaded)
  refine ⟨Except.ok.inj outcome, levels, perm, fun none => ?_⟩
  rw [none, List.append_nil] at perm
  exact (Candidates.eq_of_perm perm ordered ordered'
    (Validation.check_eq_ok_iff.1 reaches.validated).1.2).symm

theorem ReachesCompiling.losesQueued (reaches : plan.ReachesCompiling reset queue files course)
    (again : plan.ReachesCompiling reset later others second) :
    plan.LosesQueued queue course second := by
  obtain ⟨outcome, levels, perm, classes⟩ :=
    reaches.toReachesEmitting.eq_again loaded drained again.toReachesEmitting
  have distinct := (Validation.check_eq_ok_iff.1 reaches.validated).1.2
  rw [(perm.map Node.path).nodup_iff, List.map_append] at distinct
  refine ⟨perm, fun node lost => ?_, fun node lost => ?_, fun same => ?_, fun none => ?_⟩
  · have listed := perm.mem_iff.2 (List.mem_append_right _ lost)
    exact reaches.identity?_of_mem (List.mem_map_of_mem listed)
  · -- no class that is left has the path of one that is lost, so nothing is recorded under it
    refine again.identity?_of_notMem fun listed => ?_
    exact List.disjoint_of_nodup_append distinct listed (List.mem_map_of_mem lost)
  · -- each class has a file of its own
    have lengths := congrArg List.length same.files
    rw [reaches.length_schemaFiles, again.length_schemaFiles, perm.length_eq,
      List.length_append] at lengths
    exact List.length_eq_zero_iff.1 (by omega)
  · exact reaches.comesToTheSame again outcome (classes none) levels

/-- What stops the second attempt comes from outside; where nothing was lost, it is the files or the
compiler. -/
theorem ReachesCompiling.stops_again {error : PassError} {final : FileSystem}
    (reaches : plan.ReachesCompiling reset queue files course)
    (ends : plan.Ends reset later others (.error error) final) :
    error.IsOutside ∧ (plan.fromQueue queue = [] →
      error.IsFileWork ∨ ∃ rejected, error = .compilation rejected) := by
  have outside := ends.isOutside_iff.2 (reaches.toReachesEmitting.again loaded drained)
  refine ⟨outside, fun none => ?_⟩
  cases ends with
  | settings _ | load _ _ | source _ _ | validation _ _ _ | corrupt _ _ _ => exact outside.elim
  | preparation _ _ | descriptor _ _ => exact .inl trivial
  | @emission other error workshop again prepares failed =>
    obtain ⟨outcome, levels, -, classes⟩ :=
      reaches.toReachesEmitting.eq_again loaded drained again
    obtain ⟨-, writes, performs, -⟩ := emission_replays reaches.emits rfl
    rw [outcome, levels, classes none] at failed
    obtain ⟨failure, rfl⟩ := performs.of_eq_error failed
    exact .inl trivial
  | compilation _ _ => exact .inr ⟨_, rfl⟩
  | save _ failed =>
    rcases LedgerStore.error_of_save failed with rfl | ⟨failure, rfl⟩
    · exact .inl trivial
    · exact .inl trivial

end

theorem waiting_discover {before after : Generator} {found : Discovery × List Level}
    (discovers : plan.discover before = (.ok found, after)) : after.waiting = [] := by
  obtain ⟨later, same, -, drained⟩ := plan.discover_apply before
  rw [same] at discovers
  cases discovered : plan.discovered before.queue with
  | error error =>
    rw [discovered] at discovers
    cases discovers
  | ok _ =>
    rw [discovered] at discovers
    cases discovers
    unfold Generator.waiting
    rw [drained _ discovered]
    exact waiting_drained before.queue

theorem Path.waiting_eq_nil {before after : Generator} (path : plan.Path before after)
    (drained : before.waiting = []) : after.waiting = [] := by
  induction path with
  | refl => exact drained
  | tail _ step ih =>
    cases step with
    | enter _ | tell _ | prepare _ | write _ _ | compile _ | save _ _ => exact ih
    | drain _ => exact waiting_drained _

/-- The stages up to the discovering one have errors of their own, and nothing puts candidates back. -/
theorem waiting_of_pass {before after : Generator} {error : CompileError}
    (idle : before.stage = .idle)
    (failed : plan.pass reset before = (.error (.compilation error), after)) :
    after.waiting = [] := by
  unfold pass at failed
  rw [Task.bind_apply] at failed
  cases valid : plan.settings.validate with
  | error error =>
    rw [valid] at failed
    cases failed
  | ok _ =>
    rw [valid] at failed
    simp only [PassTask.ofExcept, Task.pure_apply] at failed
    obtain ⟨opened, loads, -⟩ := plan.load_apply reset before
    have opens := (plan.walks_load reset before idle).2
    rw [loads] at opens
    rw [Task.bind_apply, loads] at failed
    cases loaded : plan.readLedger reset before.files with
    | error error =>
      rw [loaded] at failed
      cases failed
    | ok outcome =>
      rw [loaded] at failed opens
      simp only [Except.mapError] at failed
      obtain ⟨told, discovers, -, -⟩ := plan.discover_apply opened
      have tells := (plan.walks_discover opened opens).2
      rw [discovers] at tells
      rw [Task.bind_apply, discovers] at failed
      cases discovered : plan.discovered opened.queue with
      | error error =>
        rw [discovered] at failed
        cases failed
      | ok found =>
        obtain ⟨discovery, levels⟩ := found
        rw [discovered] at failed tells discovers
        simp only [Except.mapError] at failed
        have path := (plan.walks_rest outcome.ledger discovery.classes levels _).path_of_eq tells failed
        exact path.waiting_eq_nil (waiting_discover discovers)

theorem waiting_of_run {before after : Generator} {error : CompileError}
    (failed : plan.run reset before = (.error (.compilation error), after)) :
    after.waiting = [] := by
  have fails := plan.fst_run reset before
  rw [failed] at fails
  have passed : plan.pass reset { before with stage := .idle } = (.error (.compilation error),
      (plan.pass reset { before with stage := .idle }).2) := Prod.ext fails.symm rfl
  rw [run_apply, ← fails] at failed
  cases failed
  have drained := waiting_of_pass rfl passed
  exact drained

theorem Ends.reachesCompiling {error : CompileError} {final : FileSystem}
    (ends : plan.Ends reset queue files (.error (.compilation error)) final) :
    ∃ course, plan.ReachesCompiling reset queue files course := by
  cases ends with
  | compilation reaches _ => exact ⟨_, reaches⟩

/-- A pass whose compiler fails, and which is run again with another one on what it left, finds nothing
in its queue any more.  If it succeeds, the classes that the first attempt had from the queue alone are
lost, and it comes to the files and the ledger that the first one was about to come to exactly if there
were none; and if it fails, then not because of its classes. -/
theorem losesQueued_of_run {before between after : Generator} {error : CompileError}
    {result : Except PassError Report}
    (failed : plan.run reset before = (.error (.compilation error), between))
    (loaded : plan.readLedger reset between.files = plan.readLedger reset before.files)
    (compiler : Compiler) (again : (plan.compiledBy compiler).run reset between = (result, after)) :
    between.waiting = [] ∧ ∃ first,
      (∀ other, (plan.compiledBy other).ReachesCompiling reset before.queue before.files first) ∧
      (∀ report, result = .ok report → ∃ second,
        (plan.compiledBy compiler).ReachesSaving reset between.queue between.files second ∧
          report = Plan.report second ∧ plan.kept after.files = (sealed second).savedFile ∧
            plan.LosesQueued before.queue first second) ∧
      ∀ stopped, result = .error stopped → stopped.IsOutside ∧
        (plan.fromQueue before.queue = [] →
          stopped.IsFileWork ∨ ∃ rejected, stopped = .compilation rejected) := by
  have drained : between.queue.elim [] CandidateQueue.waiting = [] := waiting_of_run failed
  obtain ⟨first, reaches⟩ := (ends_of_run failed).reachesCompiling
  refine ⟨drained, first, reaches.compiledBy, ?_, ?_⟩
  · rintro report rfl
    obtain ⟨second, saves, -, same, found⟩ := course_of_run again
    refine ⟨second, saves, same, kept_eq_some_iff.2 found, ?_⟩
    exact reaches.losesQueued loaded drained (saves.toReachesCompiling.compiledBy plan.compiler)
  · rintro stopped rfl
    have ends := ends_of_run again
    have ledger : (plan.compiledBy compiler).readLedger reset between.files =
        (plan.compiledBy compiler).readLedger reset before.files := loaded
    exact (reaches.compiledBy compiler).stops_again ledger drained ends

/-- A project of one class that is not loaded, with a compiler that accepts nothing. -/
def unloading : Plan where
  settings := small.settings
  source := Manifest.source { classes := [], levels := [], catalog := [.plain "/C.Wall" "Wall"] }
  compiler := rejecting.compiler

theorem losesQueued_of_run_unloading :
    ∃ error between report after first second,
      unloading.run false (({} : Generator).notifiedOf ["/C.Wall"]) =
          (.error (.compilation error), between) ∧
        (unloading.compiledBy small.compiler).run false between = (.ok report, after) ∧
          unloading.LosesQueued (some (.notifiedOf ["/C.Wall"])) first second ∧
            ¬unloading.ComesToTheSame first second := by
  have stops : standing .done (unloading.run false (({} : Generator).notifiedOf ["/C.Wall"])).1 =
      .compiling := by decide +kernel
  have absent : unloading.store.isPresent
      (unloading.run false (({} : Generator).notifiedOf ["/C.Wall"])).2.files = false := by
    decide +kernel
  have succeeds : ((unloading.compiledBy small.compiler).run false
      (unloading.run false (({} : Generator).notifiedOf ["/C.Wall"])).2).1.isOk = true := by
    decide +kernel
  have queued : unloading.fromQueue (some (.notifiedOf ["/C.Wall"])) ≠ [] := by
    rw [← List.isEmpty_eq_false_iff]
    decide +kernel
  rcases failed : unloading.run false (({} : Generator).notifiedOf ["/C.Wall"]) with
    ⟨stopped | report, between⟩
  · rw [failed] at stops absent succeeds
    have loaded : unloading.readLedger false between.files = unloading.readLedger false ∅ := by
      have none : unloading.store.isPresent ∅ = false := by decide +kernel
      rw [readLedger_of_absent absent, readLedger_of_absent none]
    obtain ⟨report, after, again⟩ := Task.exists_of_isOk succeeds
    cases stopped with
    | compilation error =>
      obtain ⟨-, first, -, succeeded, -⟩ :=
        losesQueued_of_run failed loaded small.compiler again
      obtain ⟨second, -, -, -, loses⟩ := succeeded report rfl
      exact ⟨error, between, report, after, first, second, rfl, again, loses,
        fun same => queued (loses.same.1 same)⟩
    | _ => cases stops
  · rw [failed] at stops
    cases stops

end Plan

end ComponentSchema
