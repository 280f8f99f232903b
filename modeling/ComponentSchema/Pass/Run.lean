import ComponentSchema.CandidateQueue
import ComponentSchema.ContentHash
import ComponentSchema.Pass.Candidates
import ComponentSchema.Pass.Drafting
import ComponentSchema.Pass.Error

/-!
A pass: load the ledger, discover classes, validate them, emit their files, compile, and save the
ledger.  The ledger is only read while loading and only written at the end of persisting, so every
earlier failure leaves it as it was.
-/

namespace ComponentSchema

/-- What a generator works with in every pass. -/
structure Plan where
  settings : Settings
  source : TypeSource
  compiler : Compiler

/-- A generator between and within passes. -/
structure Generator where
  stage : Stage := .idle
  /-- The queue of candidates, if anyone listens. -/
  queue : Option CandidateQueue := none
  files : FileSystem := ∅
  /-- What was told so far. -/
  log : List Event := []

/-- What a pass that succeeded reports. -/
structure Report where
  classes : Nat
  skipped : Nat
  levelComponents : Nat
  distanceComponents : Nat
  newIds : Nat
  clashes : List NameClash
  descriptorHash : UInt64
  nextId : ComponentId
  reset? : Option ResetReason
deriving DecidableEq

/-- Work of a pass. -/
abbrev PassTask (α : Type) := ExceptT PassError (StateM Generator) α

/-- Whether there is nothing to build on: no ledger, or no schema tree. -/
def Settings.needsFullScan (settings : Settings) (files : FileSystem) : Bool :=
  !files.isFile settings.generator.database || !files.isDirectory settings.generator.schemaDir

namespace PassTask

def tell (events : List Event) : PassTask Unit :=
  modify fun generator => { generator with log := generator.log ++ events }

def enter (next : Stage) : PassTask Unit := do
  let generator ← get
  tell [⟨.debug, "pass state", [("from", generator.stage.name), ("to", next.name)]⟩]
  modify fun generator => { generator with stage := next }

/-- Goes on with a value, or fails with an error of the pass. -/
def ofExcept {ε α : Type} (wrap : ε → PassError) : Except ε α → PassTask α
  | .ok value => pure value
  | .error error => throw (wrap error)

def onFiles {ε α : Type} (wrap : ε → PassError) (work : ExceptT ε (StateM FileSystem) α) :
    PassTask α := fun generator =>
  let (result, files) := work generator.files
  (result.mapError wrap, { generator with files })

/-- Does work of emission, and answers with the numbering after it. -/
def emit {α : Type} (numbering : Numbering) (work : Emission α) : PassTask (α × Numbering) :=
  fun generator =>
    let (result, workshop) := work ⟨numbering, generator.files⟩
    ((result.map fun value => (value, workshop.numbering)).mapError .emission,
      { generator with files := workshop.files })

end PassTask

namespace Plan

def store (plan : Plan) : LedgerStore := ⟨plan.settings.generator.database⟩

/-- What emits the schema files. -/
def emitter (plan : Plan) : Emitter :=
  ⟨plan.settings.generator.schemaDir, plan.settings.generator.slots⟩

/-- The ledger on disk, or a fresh one if that is asked for; a ledger that could not be replaced
later is an error in both cases. -/
def readLedger (plan : Plan) (reset : Bool) (files : FileSystem) :
    Except StoreError LoadOutcome :=
  if reset then
    if plan.store.isReadOnly files then .error (.readOnly plan.store.path)
    else .ok (.reset .requested)
  else plan.store.load files

/-- What is told of the ledger a pass starts from. -/
def loadEvent : LoadOutcome → Event
  | .reset reason =>
    ⟨.info, "starting from an empty schema database", [("reason", reason.message)]⟩
  | .loaded ledger =>
    ⟨.debug, "loaded schema database", [("watermark", ledger.nextId.text)]⟩

def load (plan : Plan) (reset : Bool) : PassTask LoadOutcome := do
  PassTask.enter .loading
  let outcome ← PassTask.ofExcept .load (plan.readLedger reset (← get).files)
  PassTask.tell [loadEvent outcome]
  pure outcome

/-- Takes what waits in the queue. -/
def drain : PassTask (List String) := do
  let queue := (← get).queue
  modify fun generator => { generator with queue := queue.map CandidateQueue.drained }
  pure (queue.elim [] CandidateQueue.waiting)

def discover (plan : Plan) : PassTask (Discovery × List Level) := do
  PassTask.enter .discovering
  let loaded ← PassTask.ofExcept .source plan.source.classes
  let paths ← drain
  let discovery := Candidates.discover plan.settings.generator.neverCookDirs
    plan.source.resolve? loaded paths
  PassTask.tell discovery.events
  let levels ← PassTask.ofExcept .source plan.source.levels
  pure (discovery, Candidates.levels levels)

/-- What is told of a class whose schema name is not the host's. -/
def renameEvent (rename : Validation.Rename) : Event :=
  ⟨.warn, "class '" ++ rename.raw ++ "' will be named '" ++ rename.schemaName ++ "' in schema",
    [("class", rename.path)]⟩

/-- What is told while classes are validated. -/
def renameEvents (classes : List Node) : List Event :=
  (classes.filterMap Validation.rename?).map renameEvent

def validate (classes : List Node) (levels : List Level) : PassTask Unit := do
  PassTask.enter .validating
  PassTask.tell (renameEvents classes)
  PassTask.ofExcept .validation (Validation.check classes levels)

def emitBatch (plan : Plan) (progress : Draft × Numbering) (batch : Nat × List Node) :
    PassTask (Draft × Numbering) := do
  let after ← PassTask.emit progress.2 (progress.1.emitAll plan.emitter batch.2)
  PassTask.tell [⟨.debug, "emitted batch",
    [("batch", toString batch.1), ("classes", toString batch.2.length)]⟩]
  pure after

def clashEvent (clash : NameClash) : Event :=
  ⟨.warn, "schema name collision, resolved as: " ++ clash.describe, [("desired", clash.desired)]⟩

/-- What emission leads to. -/
structure Emitted where
  numbering : Numbering
  clashes : List NameClash
  levelComponents : Nat
  distanceComponents : Nat

def emit (plan : Plan) (ledger : Ledger) (classes : List Node) (levels : List Level) :
    PassTask Emitted := do
  PassTask.enter .emitting
  PassTask.onFiles (.emission ∘ .file) plan.emitter.prepare
  let batched := batches plan.settings.generator.batchSize classes
  let (draft, numbering) ← ((List.range batched.length).zip batched).foldlM plan.emitBatch
    ({ registry := .ofLedger ledger }, .ofLedger ledger)
  let clashes := draft.registry.clashes
  PassTask.tell (clashes.map clashEvent)
  let (levelComponents, numbering) ← PassTask.emit numbering (plan.emitter.emitLevels levels)
  let (distanceComponents, numbering) ←
    PassTask.emit numbering (plan.emitter.emitDistances draft.distances)
  pure { numbering, clashes, levelComponents, distanceComponents }

def compile (plan : Plan) : PassTask Unit := do
  PassTask.enter .compiling
  let compilation := plan.compiler plan.settings.compiler (← get).files
  modify fun generator => { generator with files := compilation.files }
  PassTask.tell compilation.events
  let _ ← PassTask.ofExcept .compilation compilation.result
  pure ()

def hashDescriptor (plan : Plan) : PassTask UInt64 := do
  let path := plan.settings.compiler.descriptor
  let bytes ← PassTask.ofExcept (.missingDescriptor path) ((← get).files.read path)
  let hash := contentHash bytes
  PassTask.tell [⟨.info, "compiled schema descriptor hash " ++ hashText hash, []⟩]
  pure hash

def sealLedger (numbering : Numbering) (hash : UInt64) : Ledger :=
  { numbering.settle with
    descriptorHash := some hash, formatVersion := Ledger.currentFormat }.rebuildIndex

/-- Persisting: answers with the hash of the descriptor and the ledger that was saved. -/
def persist (plan : Plan) (numbering : Numbering) : PassTask (UInt64 × Ledger) := do
  PassTask.enter .persisting
  let hash ← plan.hashDescriptor
  let ledger := sealLedger numbering hash
  PassTask.ofExcept (fun findings => .persist (.corrupt plan.store.path findings))
    ledger.checkIntegrity
  PassTask.onFiles .persist (plan.store.save ledger)
  pure (hash, ledger)

/-- All stages up to the end. -/
def pass (plan : Plan) (reset : Bool) : PassTask Report := do
  PassTask.ofExcept .settings plan.settings.validate
  let outcome ← plan.load reset
  let (discovery, levels) ← plan.discover
  validate discovery.classes levels
  let emitted ← plan.emit outcome.ledger discovery.classes levels
  plan.compile
  let (descriptorHash, ledger) ← plan.persist emitted.numbering
  pure {
    classes := discovery.classes.length
    skipped := discovery.skipped
    levelComponents := emitted.levelComponents
    distanceComponents := emitted.distanceComponents
    newIds := emitted.numbering.supply.issued
    clashes := emitted.clashes
    descriptorHash
    nextId := ledger.nextId
    reset? := outcome.reset? }

/-- The last step of a pass, which ends it. -/
def finish : Except PassError Report → PassTask Report
  | .ok report => do
    PassTask.enter .done
    PassTask.tell [⟨.info, "schema generation finished",
      [("classes", toString report.classes), ("new_ids", toString report.newIds)]⟩]
    pure report
  | .error error => do
    PassTask.enter .failed
    PassTask.tell [⟨.warn, "schema generation failed", [("stage", error.stage.name)]⟩]
    throw error

def run (plan : Plan) (reset : Bool) : PassTask Report := fun generator =>
  let (result, after) := plan.pass reset { generator with stage := .idle }
  finish result after

end Plan

end ComponentSchema
