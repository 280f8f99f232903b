import ComponentSchema.Proofs.Pass.Candidates
import ComponentSchema.Proofs.Pass.Staging

/-!
Passes one after the other.  Nothing but the file of the ledger leads from one pass to the next, so a
history is told by what each pass that succeeded left in that file.
-/

namespace ComponentSchema

namespace Plan

/-- The bytes of the ledger's file, if there is one to read. -/
def kept (plan : Plan) (files : FileSystem) : Option ByteArray :=
  (files.read plan.store.path).toOption

theorem kept_eq_some_iff {plan : Plan} {files : FileSystem} {bytes : ByteArray} :
    plan.kept files = some bytes ↔ files.read plan.store.path = .ok bytes := by
  unfold kept
  cases files.read plan.store.path with
  | error reason => exact ⟨fun same => (by cases same), fun same => (by cases same)⟩
  | ok found =>
    constructor
    · intro same
      cases same
      rfl
    · intro same
      cases same
      rfl

/-- What a pass finds when it starts: the file as the last pass that succeeded left it, or what a
history begins with where none has. -/
def Finds (plan : Plan) (files : FileSystem) (begins : Plan → FileSystem → Prop) :
    List (Option ByteArray) → Prop
  | [] => begins plan files
  | last :: _ => plan.kept files = last

end Plan

/-- Passes, with or without resets, told by the contents of the file that those of them left that
succeeded, the latest first. -/
inductive History (resets : Bool) (begins : Plan → FileSystem → Prop) :
    List (Option ByteArray) → Prop
  | start : History resets begins []
  | failed {plan : Plan} {reset : Bool} {before after : Generator} {saved : List (Option ByteArray)}
    {error : PassError} (earlier : History resets begins saved) (allowed : reset = true → resets = true)
    (finds : plan.Finds before.files begins saved)
    (run : plan.run reset before = (.error error, after)) : History resets begins saved
  | succeeded {plan : Plan} {reset : Bool} {before after : Generator}
    {saved : List (Option ByteArray)} {report : Report} (earlier : History resets begins saved)
    (allowed : reset = true → resets = true) (finds : plan.Finds before.files begins saved)
    (run : plan.run reset before = (.ok report, after)) :
    History resets begins (plan.kept after.files :: saved)

theorem History.reset_eq_false {reset resets : Bool} (never : resets = false)
    (allowed : reset = true → resets = true) : reset = false := by
  cases reset with
  | false => rfl
  | true => exact absurd (allowed rfl) (by rw [never]; exact Bool.false_ne_true)

def Plan.HasNone (plan : Plan) (files : FileSystem) : Prop := plan.store.isPresent files = false

/-- A history that begins without a ledger, and in which no pass is asked to start afresh. -/
abbrev FreshHistory : List (Option ByteArray) → Prop := History false Plan.HasNone

namespace Ledger

def savedFile (ledger : Ledger) : Option ByteArray := some (LedgerStore.bytesOf ledger)

/-- Files of saved ledgers are read as those ledgers. -/
theorem ofBytes?_savedFiles (ledgers : List Ledger) :
    (ledgers.map savedFile).map (fun file => file.bind ofBytes?) = ledgers.map some := by
  rw [List.map_map]
  refine List.map_congr_left fun ledger _ => ?_
  rw [Function.comp_apply, savedFile, Option.bind_some, ofBytes?_bytesOf]

/-- The ids of a ledger were all issued at or above the baseline, and below its watermark. -/
structure IsIssued (ledger : Ledger) : Prop where
  baseline_le : ComponentId.baseline.number.toNat ≤ ledger.nextId.number.toNat
  range : ∀ key id, ledger.idOf? key = some id →
    ComponentId.baseline.number.toNat ≤ id.number.toNat ∧
      id.number.toNat < ledger.nextId.number.toNat

/-- What was issued before is there later, under a watermark that is no lower. -/
structure Precedes (earlier later : Ledger) : Prop where
  ids : earlier.KeepsIds later
  watermark : earlier.nextId.number ≤ later.nextId.number

theorem isIssued_fresh : fresh.IsIssued := by
  refine ⟨Nat.le_refl _, fun key id stored => ?_⟩
  rw [idOf?_fresh] at stored
  cases stored

theorem nextId_of_isStale {ledger : Ledger} (stale : ledger.isStale = true) :
    ledger.nextId = .baseline := by
  simp only [isStale, Bool.and_eq_true, beq_iff_eq] at stale
  exact stale.2

/-- A ledger that was issued no id yet is not discarded exactly as long as it has no class. -/
theorem identity?_of_not_isStale {ledger : Ledger} (standing : ledger.isStale = false)
    (unissued : ledger.nextId = .baseline) (path : String) : ledger.identity? path = none := by
  simp only [isStale, unissued, beq_self_eq_true, Bool.and_true, Bool.not_eq_false'] at standing
  exact SortedMap.isEmpty_iff.1 standing path

/-- A ledger that would be discarded holds no id: there is none from the baseline up to itself. -/
theorem IsIssued.idOf?_of_isStale {ledger : Ledger} (issued : ledger.IsIssued)
    (stale : ledger.isStale = true) (key : IdKey) : ledger.idOf? key = none := by
  cases stored : ledger.idOf? key with
  | none => rfl
  | some id =>
    have range := issued.range key id stored
    rw [nextId_of_isStale stale] at range
    omega

/-- A fresh start loses nothing of a ledger that would be discarded. -/
theorem IsIssued.precedes_fresh {ledger : Ledger} (issued : ledger.IsIssued)
    (stale : ledger.isStale = true) : ledger.Precedes fresh := by
  refine ⟨fun key id stored => ?_, ?_⟩
  · rw [issued.idOf?_of_isStale stale] at stored
    cases stored
  · rw [nextId_of_isStale stale]
    exact UInt32.le_refl _

theorem Precedes.refl (ledger : Ledger) : ledger.Precedes ledger :=
  ⟨.refl ledger, UInt32.le_refl _⟩

theorem Precedes.trans {first second third : Ledger} (earlier : first.Precedes second)
    (later : second.Precedes third) : first.Precedes third :=
  ⟨earlier.ids.trans later.ids, UInt32.le_trans earlier.watermark later.watermark⟩

/-- Ledgers saved one after the other, the latest first, in which ids are never renumbered and never
used again: what an earlier one assigned the later ones assign the same, watermarks never fall, no id
belongs to two keys anywhere, and a ledger that would be discarded assigned nothing. -/
structure IssueOnce (ledgers : List Ledger) : Prop where
  ordered : ledgers.Pairwise fun later earlier => earlier.Precedes later
  distinct : ∀ first ∈ ledgers, ∀ second ∈ ledgers, ∀ key other id,
    first.idOf? key = some id → second.idOf? other = some id → key = other
  discarded : ∀ ledger ∈ ledgers, ledger.isStale = true → ∀ key, ledger.idOf? key = none

/-- The latest ledger has all ids there ever were, so it alone decides whether one was used twice. -/
theorem issueOnce_of_ordered {ledgers : List Ledger}
    (ordered : ledgers.Pairwise fun later earlier => earlier.Precedes later)
    (each : ∀ ledger ∈ ledgers, ledger.IsSound ∧ ledger.IsIssued) : IssueOnce ledgers := by
  refine ⟨ordered, ?_, fun ledger member => (each ledger member).2.idOf?_of_isStale⟩
  cases ledgers with
  | nil => exact fun ledger member => (by cases member)
  | cons last others =>
    have latest : ∀ ledger ∈ last :: others, ledger.KeepsIds last := by
      intro ledger member
      rcases List.mem_cons.1 member with rfl | older
      · exact .refl ledger
      · exact ((List.pairwise_cons.1 ordered).1 ledger older).ids
    intro first member second member' key other id stored stored'
    exact (each last List.mem_cons_self).1.distinct key other id
      (latest first member key id stored) (latest second member' other id stored')

end Ledger

namespace Plan

variable {plan : Plan} {queue : Option CandidateQueue} {files : FileSystem} {course : Course}

/-- A pass saves a ledger that the one it started from precedes, and every id of it was issued if
those before were. -/
theorem ReachesSaving.precedes {reset : Bool}
    (reaches : plan.ReachesSaving reset queue files course)
    (issued : course.outcome.ledger.IsIssued) :
    course.outcome.ledger.Precedes (sealed course) ∧ (sealed course).IsIssued := by
  obtain ⟨ids, watermark, added⟩ := reaches.ids
  have low := issued.baseline_le
  refine ⟨⟨ids, UInt32.le_iff_toNat_le.2 watermark⟩, ⟨Nat.le_trans low watermark, ?_⟩⟩
  intro key id stored
  refine ⟨?_, UInt32.lt_iff_toNat_lt.1 (reaches.isSound.below key id stored)⟩
  cases known : course.outcome.ledger.idOf? key with
  | none => exact Nat.le_trans low (added key id stored known)
  | some old =>
    have same : old = id := Option.some.inj ((ids key old known).symm.trans stored)
    exact same ▸ (issued.range key old known).1

/-- Where the last pass left a ledger, the next one starts from a ledger which that one precedes. -/
theorem precedes_of_outcome {ledger : Ledger} {outcome : LoadOutcome} (issued : ledger.IsIssued)
    (found : files.read plan.store.path = .ok (LedgerStore.bytesOf ledger))
    (loaded : plan.readLedger false files = .ok outcome) :
    ledger.Precedes outcome.ledger ∧ outcome.ledger.IsIssued := by
  rcases outcome_of_read found loaded with ⟨stale, rfl⟩ | ⟨-, -, rfl⟩
  · exact ⟨issued.precedes_fresh stale, Ledger.isIssued_fresh⟩
  · exact ⟨.refl ledger, issued⟩

theorem outcome_of_absent {outcome : LoadOutcome} (absent : plan.store.isPresent files = false)
    (loaded : plan.readLedger false files = .ok outcome) : outcome = .reset .missing := by
  have load : plan.store.load files = .ok outcome := loaded
  simp only [LedgerStore.load, absent] at load
  cases load
  rfl

end Plan

namespace Plan

/-- What holds of a fresh ledger and of those that were saved holds of the one a pass starts from. -/
theorem outcome_of_finds {plan : Plan} {reset : Bool} {files : FileSystem} {outcome : LoadOutcome}
    {holds : Ledger → Prop} (fresh : holds .fresh) {ledgers : List Ledger}
    (each : ∀ ledger ∈ ledgers, holds ledger)
    (finds : plan.Finds files HasNone (ledgers.map Ledger.savedFile))
    (loaded : plan.readLedger reset files = .ok outcome) : holds outcome.ledger := by
  cases reset with
  | true =>
    simp only [readLedger, if_true] at loaded
    split at loaded
    · cases loaded
    · cases loaded
      exact fresh
  | false =>
    cases ledgers with
    | nil =>
      rw [outcome_of_absent finds loaded]
      exact fresh
    | cons last others =>
      rcases outcome_of_read (kept_eq_some_iff.1 finds) loaded with ⟨-, rfl⟩ | ⟨-, -, rfl⟩
      · exact fresh
      · exact each last List.mem_cons_self

/-- The ledger that a pass in a history starts from was issued in that history. -/
theorem isIssued_of_finds {plan : Plan} {reset : Bool} {files : FileSystem} {outcome : LoadOutcome}
    {ledgers : List Ledger} (each : ∀ ledger ∈ ledgers, ledger.IsSound ∧ ledger.IsIssued)
    (finds : plan.Finds files HasNone (ledgers.map Ledger.savedFile))
    (loaded : plan.readLedger reset files = .ok outcome) : outcome.ledger.IsIssued :=
  outcome_of_finds Ledger.isIssued_fresh (fun ledger member => (each ledger member).2) finds loaded

/-- Without a reset, all ledgers that were saved before precede it. -/
theorem precedes_of_finds {plan : Plan} {files : FileSystem} {outcome : LoadOutcome}
    {ledgers : List Ledger}
    (ordered : ledgers.Pairwise fun later earlier => earlier.Precedes later)
    (each : ∀ ledger ∈ ledgers, ledger.IsSound ∧ ledger.IsIssued)
    (finds : plan.Finds files HasNone (ledgers.map Ledger.savedFile))
    (loaded : plan.readLedger false files = .ok outcome) :
    ∀ ledger ∈ ledgers, ledger.Precedes outcome.ledger := by
  cases ledgers with
  | nil => exact fun ledger member => (by cases member)
  | cons last others =>
    obtain ⟨before, -⟩ := List.pairwise_cons.1 ordered
    obtain ⟨next, -⟩ := precedes_of_outcome (each last List.mem_cons_self).2
      (kept_eq_some_iff.1 finds) loaded
    intro ledger member
    rcases List.mem_cons.1 member with rfl | older
    · exact next
    · exact (before ledger older).trans next

end Plan

/-- What holds of a fresh ledger, and of what a pass saves if it holds of what the pass started from, holds
of all ledgers in a history from no ledger. -/
theorem History.saved_of {resets : Bool} {holds : Ledger → Prop} (fresh : holds .fresh)
    (step : ∀ {plan : Plan} {reset : Bool} {queue : Option CandidateQueue} {files : FileSystem}
      {course : Course}, plan.ReachesSaving reset queue files course →
        holds course.outcome.ledger → holds (Plan.sealed course))
    {saved : List (Option ByteArray)} (history : History resets Plan.HasNone saved) :
    ∃ ledgers : List Ledger, saved = ledgers.map Ledger.savedFile ∧
      ∀ ledger ∈ ledgers, holds ledger := by
  induction history with
  | start => exact ⟨[], rfl, fun ledger member => (by cases member)⟩
  | failed earlier allowed finds run ih => exact ih
  | @succeeded plan reset before after saved report earlier allowed finds run ih =>
    obtain ⟨ledgers, rfl, each⟩ := ih
    obtain ⟨course, reaches, -, -, read⟩ := Plan.course_of_run run
    refine ⟨Plan.sealed course :: ledgers, ?_, List.forall_mem_cons.2 ⟨?_, each⟩⟩
    · rw [List.map_cons, Plan.kept_eq_some_iff.2 read]
      rfl
    · exact step reaches (Plan.outcome_of_finds fresh each finds reaches.loaded)

/-- The files that a history from no ledger tells hold sound ledgers that were issued in it, and without
resets each of them is extended by the later ones. -/
theorem History.issued {resets : Bool} {saved : List (Option ByteArray)}
    (history : History resets Plan.HasNone saved) :
    ∃ ledgers : List Ledger, saved = ledgers.map Ledger.savedFile ∧
      (∀ ledger ∈ ledgers, ledger.IsSound ∧ ledger.IsIssued) ∧
      (resets = false → ledgers.Pairwise fun later earlier => earlier.Precedes later) := by
  induction history with
  | start => exact ⟨[], rfl, fun ledger member => (by cases member), fun _ => .nil⟩
  | failed earlier allowed finds run ih => exact ih
  | @succeeded plan reset before after saved report earlier allowed finds run ih =>
    obtain ⟨ledgers, rfl, each, ordered⟩ := ih
    obtain ⟨course, reaches, -, -, read⟩ := Plan.course_of_run run
    obtain ⟨next, issued⟩ := reaches.precedes (Plan.isIssued_of_finds each finds reaches.loaded)
    refine ⟨Plan.sealed course :: ledgers, ?_, fun ledger member => ?_, fun never => ?_⟩
    · rw [List.map_cons, Plan.kept_eq_some_iff.2 read]
      rfl
    · rcases List.mem_cons.1 member with rfl | older
      · exact ⟨reaches.isSound, issued⟩
      · exact each ledger older
    · obtain rfl : reset = false := History.reset_eq_false never allowed
      refine List.pairwise_cons.2 ⟨fun ledger member => ?_, ordered never⟩
      have start := Plan.precedes_of_finds (ordered never) each finds reaches.loaded
      exact (start ledger member).trans next

/-- The files that passes leave one after the other, from no ledger on, all hold ledgers, in which no
id is ever renumbered or used again. -/
theorem FreshHistory.issueOnce {saved : List (Option ByteArray)} (history : FreshHistory saved) :
    ∃ ledgers : List Ledger,
      saved.map (fun file => file.bind Ledger.ofBytes?) = ledgers.map some ∧
        Ledger.IssueOnce ledgers := by
  obtain ⟨ledgers, rfl, each, ordered⟩ := history.issued
  exact ⟨ledgers, Ledger.ofBytes?_savedFiles ledgers,
    Ledger.issueOnce_of_ordered (ordered rfl) each⟩

/-! ## Projects to try passes on -/

/-- A project of one class with one field, whose compiler makes an empty descriptor. -/
def Plan.small : Plan where
  settings :=
    { generator := { schemaDir := "g", database := "d" }, compiler := { outputDir := "o" } }
  source :=
    { classes := .ok [(Node.rootClass "/A.Door" "Door").withFields .state
        [{ path := "/A.Door:Open", name := "Open", type := "bool" }]]
      levels := .ok []
      resolve? := fun _ => none }
  compiler := fun _ files =>
    { result := .ok ⟨"", ""⟩
      files := (files.put ["o"] { content := .directory }).put ["o", "schema.descriptor"]
        { content := .file .empty } }

theorem Plan.small_succeeds : (small.run false {}).1.isOk = true := by decide +kernel

/-- A project of other classes and levels with the settings and the compiler of the small one. -/
def Plan.site (classes : List Node) (levels : List Level) : Plan :=
  { small with
    source := { classes := .ok classes, levels := .ok levels, resolve? := fun _ => none } }

/-- Classes and levels that are valid and listed in the order of a pass, and classes that all get a
schema. -/
@[mk_iff]
structure Plan.AreOrderly (classes : List Node) (levels : List Level) : Prop where
  ordered : classes.Pairwise fun one other => (compare one.path other.path).isLE = true
  supported : ∀ node ∈ classes,
    (Support.skipReason? small.settings.generator.neverCookDirs node).isNone = true
  inOrder : levels.Pairwise fun one other => Candidates.levelOrder one other = true
  distinct : Candidates.dropRepeats levels = levels
  valid : (Validation.check classes levels).isOk = true

instance (classes : List Node) (levels : List Level) : Decidable (Plan.AreOrderly classes levels) :=
  decidable_of_iff _ (Plan.areOrderly_iff classes levels).symm

theorem Plan.discovered_site {classes : List Node} {levels : List Level}
    (orderly : AreOrderly classes levels) :
    (site classes levels).discovered none = .ok (Candidates.ofListed classes, levels) := by
  have found : (site classes levels).discovered none =
      .ok (Candidates.discover small.settings.generator.neverCookDirs (fun _ => none) classes [],
        Candidates.levels levels) := rfl
  rw [found, Candidates.discover_of_listed _ orderly.ordered orderly.supported,
    Candidates.levels_of_listed orderly.inOrder orderly.distinct]

theorem Plan.classes_of_site {classes : List Node} {levels : List Level} {reset : Bool}
    {files : FileSystem} {course : Course} (orderly : AreOrderly classes levels)
    (reaches : (site classes levels).ReachesEmitting reset none files course) :
    course.discovery.classes = classes ∧ course.levels = levels := by
  obtain ⟨discovery, levels⟩ := reaches.discovery_levels (discovered_site orderly)
  rw [discovery, levels]
  exact ⟨rfl, rfl⟩

theorem Plan.exists_saves_site {classes : List Node} {levels : List Level} {files : FileSystem}
    {outcome : LoadOutcome} {ledger : Ledger} (orderly : AreOrderly classes levels)
    (loaded : (site classes levels).readLedger false files = .ok outcome)
    (leads : ((site classes levels).saves outcome (Candidates.ofListed classes) levels files).1 =
      some ledger) :
    ∃ after, (site classes levels).Saves { files } outcome ledger after ∧
      after.files =
        ((site classes levels).saves outcome (Candidates.ofListed classes) levels files).2 :=
  Plan.exists_saves { files } rfl loaded (discovered_site orderly) orderly.valid leads

/-- The files of a project that has a ledger and nothing else. -/
def Plan.holding (ledger : Ledger) : FileSystem :=
  (∅ : FileSystem).put ["d"] { content := .file (LedgerStore.bytesOf ledger) }

/-- The ledger's file is found there: walking to it never looks at what the ledger is. -/
theorem Plan.found_holding (ledger : Ledger) : FileSystem.entry? (holding ledger) small.store.path =
    some { content := .file (LedgerStore.bytesOf ledger) } := by
  with_unfolding_all rfl

theorem Plan.readLedger_holding {classes : List Node} {levels : List Level} {ledger : Ledger}
    (standing : ledger.isStale = false) (sound : ledger.checkIntegrity.isOk = true) :
    (site classes levels).readLedger false (holding ledger) = .ok (.loaded ledger) := by
  have found : (holding ledger).read small.store.path = .ok (LedgerStore.bytesOf ledger) := by
    with_unfolding_all rfl
  have writable : small.store.isReadOnly (holding ledger) = false := by
    unfold LedgerStore.isReadOnly FileSystem.isReadOnly
    rw [found_holding, Option.any_some]
    dsimp only
    decide
  have same : (site classes levels).store = small.store := rfl
  rw [readLedger, if_neg Bool.false_ne_true, same, LedgerStore.load_of_read found writable,
    standing, if_neg Bool.false_ne_true, Task.eq_ok_of_isOk sound]

/-- A pass of such a project saves a ledger if its stages go through. -/
theorem Plan.exists_saves_holding {classes : List Node} {levels : List Level} {ledger : Ledger}
    (orderly : AreOrderly classes levels) (standing : ledger.isStale = false)
    (sound : ledger.checkIntegrity.isOk = true)
    (succeeds : ((site classes levels).saves (.loaded ledger) (Candidates.ofListed classes) levels
      (holding ledger)).1.isSome = true) :
    ∃ saved after,
      (site classes levels).Saves { files := holding ledger } (.loaded ledger) saved after := by
  obtain ⟨saved, leads⟩ := Option.isSome_iff_exists.1 succeeds
  obtain ⟨after, saves, -⟩ := exists_saves_site orderly (readLedger_holding standing sound) leads
  exact ⟨saved, after, saves⟩

/-! ## A project that grows -/

/-- A class without fields, which gets a name but no id. -/
def Node.door : Node := .rootClass "/A.Door" "Door"

/-- The same class with a field. -/
def Node.gate : Node :=
  door.withFields .state [{ path := "/A.Door:Open", name := "Open", type := "bool" }]

/-- A tool with slots, a grip and a cull distance. -/
def Node.tool : Node :=
  let field : Field := { path := "/A.Tool:Worn", name := "Worn", type := "bool" }
  let grip := (ofSubobject "/A.Tool.Grip" "Grip").withFields .state [field]
  (((subobjectClass "/A.Tool" "Tool").withFields .transferable [field]).withChild
    grip).withCullDistance 400

/-- The tool with one more category of fields for its grip. -/
def Node.refittedTool : Node :=
  let field : Field := { path := "/A.Tool:Worn", name := "Worn", type := "bool" }
  let grip := ((ofSubobject "/A.Tool.Grip" "Grip").withFields .state [field]).withFields
    .ownerRestricted [field]
  (((subobjectClass "/A.Tool" "Tool").withFields .transferable [field]).withChild
    grip).withCullDistance 400

def Node.lamp : Node :=
  ((rootClass "/A.Lamp" "Lamp").withFields .ownerRestricted
    [{ path := "/A.Lamp:Lit", name := "Lit", type := "bool" }]).withCullDistance 900

def Level.front : Level := ⟨"Front", "/L.Front"⟩

def Level.back : Level := ⟨"Back", "/L.Back"⟩

/-- The first state of a project that grows: there is nothing in it that gets an id. -/
def Plan.announcing : Plan := site [.door] []

/-- Then the door has a field, and the tool and a level are new. -/
def Plan.equipping : Plan := site [.gate, .tool] [.front]

/-- Then the door is gone, the tool has got more, and the lamp and another level are new. -/
def Plan.refitting : Plan := site [.lamp, .refittedTool] [.back, .front]

def Ledger.announced : Ledger where
  formatVersion := 2
  nextId := .baseline
  classes := .ofList [("/A.Door", ⟨"Door", .root⟩)]
  descriptorHash := some 3244421341483603138

def Ledger.equipped : Ledger where
  formatVersion := 2
  nextId := ⟨10007⟩
  classes := .ofList [("/A.Door", ⟨"Door", .root⟩), ("/A.Tool", ⟨"Tool", .subobject⟩)]
  components :=
    { state := .ofList [("/A.Door", ⟨10000⟩), ("/A.Tool.Grip", ⟨10004⟩)]
      transferable := .ofList
        [("/A.Tool#1", ⟨10001⟩), ("/A.Tool#2", ⟨10002⟩), ("/A.Tool#3", ⟨10003⟩)] }
  levels := .ofList [("/L.Front", ⟨10005⟩)]
  distances := .ofList [(400, ⟨10006⟩)]
  index := .ofList
    [(⟨10000⟩, "/A.Door"), (⟨10001⟩, "/A.Tool#1"), (⟨10002⟩, "/A.Tool#2"),
      (⟨10003⟩, "/A.Tool#3"), (⟨10004⟩, "/A.Tool.Grip"), (⟨10005⟩, "/L.Front"),
      (⟨10006⟩, "distance:400")]
  descriptorHash := some 3244421341483603138

def Ledger.refitted : Ledger where
  formatVersion := 2
  nextId := ⟨10011⟩
  classes := .ofList
    [("/A.Door", ⟨"Door", .root⟩), ("/A.Lamp", ⟨"Lamp", .root⟩), ("/A.Tool", ⟨"Tool", .subobject⟩)]
  components :=
    { state := .ofList [("/A.Door", ⟨10000⟩), ("/A.Tool.Grip", ⟨10004⟩)]
      ownerRestricted := .ofList [("/A.Lamp", ⟨10007⟩), ("/A.Tool.Grip", ⟨10008⟩)]
      transferable := .ofList
        [("/A.Tool#1", ⟨10001⟩), ("/A.Tool#2", ⟨10002⟩), ("/A.Tool#3", ⟨10003⟩)] }
  levels := .ofList [("/L.Back", ⟨10009⟩), ("/L.Front", ⟨10005⟩)]
  distances := .ofList [(400, ⟨10006⟩), (900, ⟨10010⟩)]
  index := .ofList
    [(⟨10000⟩, "/A.Door"), (⟨10001⟩, "/A.Tool#1"), (⟨10002⟩, "/A.Tool#2"),
      (⟨10003⟩, "/A.Tool#3"), (⟨10004⟩, "/A.Tool.Grip"), (⟨10005⟩, "/L.Front"),
      (⟨10006⟩, "distance:400"), (⟨10007⟩, "/A.Lamp"), (⟨10008⟩, "/A.Tool.Grip"),
      (⟨10009⟩, "/L.Back"), (⟨10010⟩, "distance:900")]
  descriptorHash := some 3244421341483603138

namespace Plan

def announcement : Option Ledger × FileSystem :=
  announcing.saves (.reset .missing) (Candidates.ofListed [.door]) [] ∅

def equipment : Option Ledger × FileSystem :=
  equipping.saves (.reset .stale) (Candidates.ofListed [.gate, .tool]) [.front] announcement.2

def refitment : Option Ledger × FileSystem :=
  refitting.saves (.loaded .equipped) (Candidates.ofListed [.lamp, .refittedTool]) [.back, .front]
    equipment.2

/-- What the three passes save, each on the files that the last one left.  It is worked out at once, so
that no pass is run again for the next one. -/
theorem growth : announcement.1 = some .announced ∧
    equipping.store.isReadOnly announcement.2 = false ∧ equipment.1 = some .equipped ∧
    refitting.store.isReadOnly equipment.2 = false ∧ refitment.1 = some .refitted := by
  decide +kernel

/-- Three passes, the second of which discards what the first one saved, while the third one builds on
the second. -/
theorem exists_saves_growing : ∃ first second third : Generator,
    announcing.Saves {} (.reset .missing) .announced first ∧
      equipping.Saves { files := first.files } (.reset .stale) .equipped second ∧
      refitting.Saves { files := second.files } (.loaded .equipped) .refitted third := by
  obtain ⟨announces, writable, equips, writable', refits⟩ := growth
  have start : announcing.readLedger false ∅ = .ok (.reset .missing) :=
    readLedger_of_absent (by with_unfolding_all rfl)
  obtain ⟨first, announced, left⟩ := exists_saves_site (by with_unfolding_all decide) start announces
  have discards : equipping.readLedger false first.files = .ok (.reset .stale) := by
    refine announced.discards rfl ?_ (by with_unfolding_all rfl)
    rw [left]
    exact writable
  have leads : (equipping.saves (.reset .stale) (Candidates.ofListed [.gate, .tool]) [.front]
      first.files).1 = some .equipped := by
    rw [left]
    exact equips
  obtain ⟨second, equipped, left'⟩ := exists_saves_site (by with_unfolding_all decide) discards leads
  rw [left] at left'
  have loads : refitting.readLedger false second.files = .ok (.loaded .equipped) := by
    refine equipped.loads rfl ?_ (by with_unfolding_all rfl)
    rw [left']
    exact writable'
  have leads' : (refitting.saves (.loaded .equipped) (Candidates.ofListed [.lamp, .refittedTool])
      [.back, .front] second.files).1 = some .refitted := by
    rw [left']
    exact refits
  obtain ⟨third, refitted, -⟩ := exists_saves_site (by with_unfolding_all decide) loads leads'
  exact ⟨first, second, third, announced, equipped, refitted⟩

/-- A pass that saves a ledger adds it to a history. -/
theorem Saves.history {plan : Plan} {before after : Generator} {outcome : LoadOutcome}
    {ledger : Ledger} {saved : List (Option ByteArray)} {begins : Plan → FileSystem → Prop}
    (saves : plan.Saves before outcome ledger after) (earlier : History false begins saved)
    (finds : plan.Finds before.files begins saved) :
    History false begins (ledger.savedFile :: saved) := by
  obtain ⟨report, run⟩ := saves.run
  have left : plan.kept after.files = ledger.savedFile := kept_eq_some_iff.2 saves.found
  rw [← left]
  exact .succeeded earlier id finds run

/-- The history of the project that grows. -/
theorem history_growing {begins : Plan → FileSystem → Prop} (start : begins announcing ∅) :
    History false begins
      [Ledger.refitted.savedFile, Ledger.equipped.savedFile, Ledger.announced.savedFile] := by
  obtain ⟨first, second, third, announced, equipped, refitted⟩ := exists_saves_growing
  have one := announced.history (.start : History false begins []) start
  have two := equipped.history one (kept_eq_some_iff.2 announced.found)
  exact refitted.history two (kept_eq_some_iff.2 equipped.found)

end Plan

theorem FreshHistory.issueOnce_growing :
    FreshHistory
        [Ledger.refitted.savedFile, Ledger.equipped.savedFile, Ledger.announced.savedFile] ∧
      ∃ ledgers : List Ledger,
        [Ledger.refitted.savedFile, Ledger.equipped.savedFile, Ledger.announced.savedFile].map
          (fun file => file.bind Ledger.ofBytes?) = ledgers.map some ∧
            Ledger.IssueOnce ledgers := by
  have absent : Plan.announcing.store.isPresent ∅ = false := by with_unfolding_all rfl
  have history : FreshHistory
      [Ledger.refitted.savedFile, Ledger.equipped.savedFile, Ledger.announced.savedFile] :=
    Plan.history_growing absent
  exact ⟨history, FreshHistory.issueOnce history⟩

end ComponentSchema
