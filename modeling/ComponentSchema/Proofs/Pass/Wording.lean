import ComponentSchema.Proofs.NameRegistry
import ComponentSchema.Proofs.Pass.Repeating
import ComponentSchema.Proofs.Words

/-!
The schema names of classes are words.  A name that is looked for is one if the raw name makes a word,
which validation has seen to, and a name that was found in an earlier pass was recorded then.
-/

namespace ComponentSchema

def NameRegistry.IsWorded (registry : NameRegistry) : Prop :=
  ∀ path name, registry.schemaName? path = some name → IsWord name

/-- Every schema name on record is a word. -/
def Ledger.IsWorded (ledger : Ledger) : Prop :=
  ∀ path record, ledger.identity? path = some record → IsWord record.schemaName

def Node.MakesWord (node : Node) : Prop := IsWord (identifier .type node.name)

namespace NameRegistry

theorem isWord_freeName {registry : NameRegistry} {raw : String}
    (word : IsWord (identifier .type raw)) : IsWord (registry.freeName raw) := by
  unfold freeName
  dsimp only
  split
  next =>
    obtain ⟨place, -, found, -⟩ := registry.firstFree_eq raw registry.taken.size 1
    rw [found]
    exact word.numbered (1 + place)
  next => exact word

theorem IsWorded.isWord_resolve {registry : NameRegistry} (worded : registry.IsWorded)
    (path : String) {raw : String} (word : IsWord (identifier .type raw)) :
    IsWord (registry.resolve path raw).1 := by
  rcases registry.resolve_cases path raw with ⟨name, has, resolved⟩ | ⟨-, told, -, -, resolved⟩
  · rw [resolved]
    exact worded path name has
  · rw [resolved]
    exact isWord_freeName word

/-- The step: the names in use are words after another class is named. -/
theorem IsWorded.resolve {registry : NameRegistry} (worded : registry.IsWorded) (path : String)
    {raw : String} (word : IsWord (identifier .type raw)) :
    (registry.resolve path raw).2.IsWorded := by
  intro other name has
  rw [schemaName?_resolve] at has
  split at has
  next =>
    obtain rfl := Option.some.inj has
    exact worded.isWord_resolve path word
  next => exact worded other name has

theorem isWorded_ofLedger {ledger : Ledger} (worded : ledger.IsWorded) :
    (ofLedger ledger).IsWorded := by
  intro path name has
  rw [agrees_ofLedger ledger path] at has
  obtain ⟨record, stored, rfl⟩ := Option.map_eq_some_iff.1 has
  exact worded path record stored

end NameRegistry

/-- The run: every class of a pass is named by a word. -/
theorem Draft.isWord_of_mem_named {draft : Draft} {nodes : List Node}
    (worded : draft.registry.IsWorded) (words : ∀ node ∈ nodes, node.MakesWord)
    {entry : Node × String} (member : entry ∈ draft.named nodes) : IsWord entry.2 := by
  induction nodes generalizing draft with
  | nil => cases member
  | cons node rest ih =>
    obtain ⟨word, others⟩ := List.forall_mem_cons.1 words
    rcases List.mem_cons.1 member with rfl | later
    · exact worded.isWord_resolve node.path word
    · exact ih (worded.resolve node.path word) others later

/-- What is on record in the end was on record before, or was recorded since. -/
theorem Numbering.of_identity?_recordAll {numbering : Numbering}
    {records : List (String × ClassRecord)} {path : String} {record : ClassRecord}
    (stored : (numbering.recordAll records).ledger.identity? path = some record) :
    numbering.ledger.identity? path = some record ∨ (path, record) ∈ records := by
  induction records generalizing numbering with
  | nil => exact .inl stored
  | cons entry rest ih =>
    have later : ((numbering.recordIdentity entry.1 entry.2.schemaName entry.2.kind).recordAll
        rest).ledger.identity? path = some record := stored
    rcases ih later with before | listed
    · rw [recordIdentity, Ledger.identity?_recordIdentity] at before
      split at before
      next same =>
        cases known : numbering.ledger.identity? entry.1 with
        | some old =>
          rw [known] at before
          exact .inl (same ▸ known.trans before)
        | none =>
          rw [known] at before
          obtain rfl := Option.some.inj before
          exact .inr (same ▸ List.mem_cons_self)
      next => exact .inl before
    · exact .inr (List.mem_cons_of_mem _ listed)

namespace Plan

theorem makesWord_of_check {classes : List Node} {levels : List Level}
    (validated : Validation.check classes levels = .ok ()) : ∀ node ∈ classes, node.MakesWord := by
  intro node member
  have faultless := (Validation.check_eq_ok_iff.1 validated).1.1 node member
  exact (Validation.nodeFaults_none_eq_nil_iff.1 faultless).1.name.isWord_identifier

/-- A pass over valid classes saves words if it found words on record. -/
theorem ReachesSaving.isWorded {plan : Plan} {reset : Bool} {queue : Option CandidateQueue}
    {files : FileSystem} {course : Course} (reaches : plan.ReachesSaving reset queue files course)
    (worded : course.outcome.ledger.IsWorded) : (sealed course).IsWorded := by
  intro path record stored
  have words := makesWord_of_check reaches.validated
  have listed := (identity?_of_emission reaches.emits path).symm.trans stored
  rcases Numbering.of_identity?_recordAll listed with before | new
  · exact worded path record before
  · obtain ⟨entry, named, made⟩ := List.mem_filterMap.1 new
    obtain ⟨kind, -, same⟩ := Option.map_eq_some_iff.1 made
    cases same
    exact Draft.isWord_of_mem_named (NameRegistry.isWorded_ofLedger worded) words named

theorem isWorded_fresh : Ledger.fresh.IsWorded := by
  intro path record stored
  cases stored

end Plan

/-- Whatever the passes before it were, a pass finds only words on record. -/
theorem History.isWorded {resets : Bool} {saved : List (Option ByteArray)}
    (history : History resets Plan.HasNone saved) {plan : Plan} {reset : Bool} {files : FileSystem}
    {outcome : LoadOutcome} (finds : plan.Finds files Plan.HasNone saved)
    (loaded : plan.readLedger reset files = .ok outcome) : outcome.ledger.IsWorded := by
  obtain ⟨ledgers, rfl, each⟩ := history.saved_of Plan.isWorded_fresh fun reaches worded =>
    reaches.isWorded worded
  exact Plan.outcome_of_finds Plan.isWorded_fresh each finds loaded

end ComponentSchema
