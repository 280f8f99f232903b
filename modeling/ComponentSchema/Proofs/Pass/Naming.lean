import ComponentSchema.Pass.Drafting
import ComponentSchema.Proofs.Schema.Replaying

/-!
The names that classes get.  They depend on the names in use only, and those are the names on record, so
a pass over the same classes that starts from the names of the last one gives every class its name
again.
-/

namespace ComponentSchema

namespace NameRegistry

/-- The names in use are the names on record. -/
def Agrees (registry : NameRegistry) (ledger : Ledger) : Prop :=
  ∀ path, registry.schemaName? path = (ledger.identity? path).map ClassRecord.schemaName

theorem byPath_claim (registry : NameRegistry) (path desired schemaName : String) :
    (registry.claim path desired schemaName).byPath = registry.byPath.insert path schemaName := by
  unfold claim
  dsimp only
  split <;> rfl

theorem agrees_ofLedger (ledger : Ledger) : (ofLedger ledger).Agrees ledger := by
  have claimed (entries : List (String × ClassRecord)) (registry : NameRegistry) :
      (entries.foldl (fun registry entry => registry.claim entry.1
        (identifier .type (assetName entry.1)) entry.2.schemaName) registry).byPath =
          (entries.map fun entry => (entry.1, entry.2.schemaName)).foldl
            (fun map entry => map.insert entry.1 entry.2) registry.byPath := by
    induction entries generalizing registry with
    | nil => rfl
    | cons entry rest ih =>
      rw [List.foldl_cons, ih, byPath_claim]
      rfl
  have distinct : (ledger.classes.entries.map fun entry => (entry.1, entry.2.schemaName)).Pairwise
      fun first second => first.1 ≠ second.1 := by
    rw [List.pairwise_map]
    refine ledger.classes.ascending.imp fun less equal => ?_
    rw [equal, Std.ReflOrd.compare_self] at less
    cases less
  intro path
  unfold schemaName? ofLedger
  rw [claimed ledger.classes.entries {}]
  apply Option.ext
  intro name
  rw [← SortedMap.ofList, SortedMap.find?_ofList distinct, Option.map_eq_some_iff, List.mem_map]
  constructor
  · rintro ⟨entry, member, same⟩
    cases same
    exact ⟨entry.2, SortedMap.find?_eq_some_iff.2 member, rfl⟩
  · rintro ⟨record, stored, rfl⟩
    exact ⟨(path, record), SortedMap.find?_eq_some_iff.1 stored, rfl⟩

theorem resolve_of_schemaName? {registry : NameRegistry} {path name : String}
    (known : registry.schemaName? path = some name) (raw : String) :
    registry.resolve path raw = (name, registry) := by
  unfold resolve
  rw [known]

/-- Once it was asked for, the name of a path is in use, and all others are as before. -/
theorem schemaName?_resolve (registry : NameRegistry) (path raw other : String) :
    (registry.resolve path raw).2.schemaName? other =
      if other = path then some (registry.resolve path raw).1
      else registry.schemaName? other := by
  cases known : registry.schemaName? path with
  | some name =>
    rw [resolve_of_schemaName? known]
    split
    next same => rw [same, known]
    next => rfl
  | none =>
    unfold resolve
    rw [known]
    dsimp only
    unfold schemaName?
    rw [byPath_claim, SortedMap.find?_insert]
    simp only [Std.LawfulEqOrd.compare_eq_iff_eq]
    -- telling the holder of a name of another claim puts no name in use
    cases registry.taken.find? (foldCase (identifier .type raw)) with
    | none => rfl
    | some holder =>
      dsimp only
      by_cases same : holder = identifier .type raw
      · rw [if_pos same]
      · rw [if_neg same]
        rfl

/-- Naming a class and recording its identity keep the names in use and on record the same. -/
theorem Agrees.resolve {registry : NameRegistry} {ledger : Ledger} (agrees : registry.Agrees ledger)
    (path raw : String) (kind : ClassKind) :
    (registry.resolve path raw).2.Agrees
      (ledger.recordIdentity path (registry.resolve path raw).1 kind) := by
  intro other
  rw [schemaName?_resolve, Ledger.identity?_recordIdentity]
  split
  · cases stored : ledger.identity? path with
    | none => rfl
    | some record =>
      have known := agrees path
      rw [stored] at known
      rw [resolve_of_schemaName? known]
      rfl
  · exact agrees other

end NameRegistry

namespace Draft

def named : Draft → List Node → List (Node × String)
  | _, [] => []
  | draft, node :: rest => (node, draft.nameOf node) :: named (draft.add node) rest

theorem fst_named (draft : Draft) (nodes : List Node) : (draft.named nodes).map Prod.fst = nodes := by
  induction nodes generalizing draft with
  | nil => rfl
  | cons node rest ih => rw [named, List.map_cons, ih]

theorem schemaName?_add (draft : Draft) (node : Node) :
    (draft.add node).registry.schemaName? node.path = some (draft.nameOf node) := by
  have resolved := draft.registry.schemaName?_resolve node.path node.name node.path
  rwa [if_pos rfl] at resolved

/-- Where all nodes are classes, what is made of each under its kind lies in their order. -/
theorem flatMap_filterMap_classKind? {α β : Type} {named : List (Node × String)}
    (classes : ∀ entry ∈ named, entry.1.classKind?.isSome = true)
    {make : Node × String → ClassKind → α} {parts : α → List β} {own : Node × String → List β}
    (agrees : ∀ entry kind, entry.1.classKind? = some kind → parts (make entry kind) = own entry) :
    (named.filterMap fun entry => entry.1.classKind?.map (make entry)).flatMap parts =
      named.flatMap own := by
  induction named with
  | nil => rfl
  | cons entry rest ih =>
    obtain ⟨kind, isClass⟩ := Option.isSome_iff_exists.1 (classes entry List.mem_cons_self)
    have others := ih fun other member => classes other (List.mem_cons_of_mem _ member)
    rw [List.filterMap_cons, isClass, Option.map_some, List.flatMap_cons, List.flatMap_cons, others,
      agrees entry kind isClass]

def records (named : List (Node × String)) : List (String × ClassRecord) :=
  named.filterMap fun entry =>
    entry.1.classKind?.map fun kind => (entry.1.path, ⟨entry.2, kind⟩)

/-- What is recorded of classes is recorded under their paths. -/
theorem fst_records {named : List (Node × String)}
    (classes : ∀ entry ∈ named, entry.1.classKind?.isSome = true) :
    (records named).map Prod.fst = (named.map Prod.fst).map Node.path := by
  rw [List.map_map, List.map_eq_flatMap, List.map_eq_flatMap]
  exact flatMap_filterMap_classKind? classes fun _ _ _ => rfl

/-- Records the identity of a class and emits its file, under a given name. -/
def emitUnder (emitter : Emitter) (entry : Node × String) : Emission Unit := do
  match entry.1.classKind? with
  | none => throw (.notAClass entry.1.path)
  | some kind =>
    Emission.number (modify fun numbering =>
      numbering.recordIdentity entry.1.path entry.2 kind)
    let _ ← emitter.emitClass entry.1 entry.2

/-- Emits classes under given names, in order. -/
def emitNamed (emitter : Emitter) : List (Node × String) → Emission Unit
  | [] => pure ()
  | entry :: rest => do
    emitUnder emitter entry
    emitNamed emitter rest

theorem emitNext_eq (emitter : Emitter) (draft : Draft) (node : Node) :
    draft.emitNext emitter node = (do
      emitUnder emitter (node, draft.nameOf node)
      pure (draft.add node)) := by
  unfold emitNext emitUnder
  cases node.classKind? with
  | none => rfl
  | some kind => simp only [bind_assoc, pure_bind]

/-- Naming comes apart from emission. -/
theorem emitAll_eq (emitter : Emitter) (draft : Draft) (nodes : List Node) :
    draft.emitAll emitter nodes = (do
      emitNamed emitter (draft.named nodes)
      pure (nodes.foldl add draft)) := by
  unfold emitAll
  induction nodes generalizing draft with
  | nil => rfl
  | cons node rest ih =>
    simp only [List.foldlM_cons, emitNext_eq, bind_assoc, pure_bind, ih, named, emitNamed,
      List.foldl_cons]

open Emission

theorem emitUnder_steady (emitter : Emitter) (entry : Node × String) :
    Steady (records [entry]) (emitUnder emitter entry) := by
  unfold emitUnder records
  cases isClass : entry.1.classKind? with
  | none => exact .throw _ _
  | some kind =>
    simp only [List.filterMap_cons, isClass, Option.map_some, List.filterMap_nil]
    refine (Steady.record entry.1.path ⟨entry.2, kind⟩).bind fun _ => ?_
    exact (emitter.emitClass_steady entry.1 entry.2).bind fun _ => .pure ()

theorem emitNamed_steady (emitter : Emitter) (entries : List (Node × String)) :
    Steady (records entries) (emitNamed emitter entries) := by
  induction entries with
  | nil => exact .pure ()
  | cons entry rest ih =>
    have whole : records (entry :: rest) = records [entry] ++ records rest := by
      unfold records
      rw [← List.filterMap_append, List.singleton_append]
    rw [whole]
    exact (emitUnder_steady emitter entry).bind fun _ => ih

/-- Only classes are emitted. -/
theorem isSome_classKind?_of_emitNamed {emitter : Emitter} {entries : List (Node × String)}
    {before after : Workshop} (run : emitNamed emitter entries before = (.ok (), after)) :
    ∀ entry ∈ entries, entry.1.classKind?.isSome = true := by
  induction entries generalizing before with
  | nil => exact fun entry member => (by cases member)
  | cons first rest ih =>
    obtain ⟨_, between, emitted, others⟩ := Task.bind_eq_ok.1 run
    intro entry member
    rcases List.mem_cons.1 member with rfl | later
    · cases kind : entry.1.classKind? with
      | some kind => rfl
      | none =>
        unfold emitUnder at emitted
        rw [kind] at emitted
        cases emitted
    · exact ih others entry later

/-- The distances seen are those of the classes. -/
theorem distances_foldl_add (nodes : List Node) (draft : Draft) :
    (nodes.foldl add draft).distances =
      (nodes.filterMap Node.cullDistance?).foldl (fun seen distance => seen.insert distance ())
        draft.distances := by
  induction nodes generalizing draft with
  | nil => rfl
  | cons node rest ih =>
    rw [List.foldl_cons, ih, add, List.filterMap_cons]
    cases node.cullDistance? with
    | none => rfl
    | some distance => rfl

theorem recordAll_named_cons (numbering : Numbering) (draft : Draft) {node : Node} (rest : List Node)
    {kind : ClassKind} (isClass : node.classKind? = some kind) :
    numbering.recordAll (records (draft.named (node :: rest))) =
      (numbering.recordIdentity node.path (draft.nameOf node) kind).recordAll
        (records ((draft.add node).named rest)) := by
  simp only [named, records, List.filterMap_cons, isClass, Option.map_some]
  rfl

/-- Every class that is named is on record under its name in the end. -/
theorem identity?_of_mem_named (numbering : Numbering) {draft : Draft} {nodes : List Node}
    (classes : ∀ node ∈ nodes, node.classKind?.isSome = true)
    (agrees : draft.registry.Agrees numbering.ledger) {entry : Node × String}
    (member : entry ∈ draft.named nodes) :
    ∃ record, (numbering.recordAll (records (draft.named nodes))).ledger.identity? entry.1.path =
      some record ∧ record.schemaName = entry.2 := by
  induction nodes generalizing draft numbering with
  | nil => cases member
  | cons node rest ih =>
    obtain ⟨kind, isClass⟩ := Option.isSome_iff_exists.1 (classes node List.mem_cons_self)
    have next : (draft.add node).registry.Agrees
        (numbering.recordIdentity node.path (draft.nameOf node) kind).ledger :=
      agrees.resolve node.path node.name kind
    rw [recordAll_named_cons numbering draft rest isClass]
    rcases List.mem_cons.1 member with rfl | later
    · have known := draft.schemaName?_add node
      rw [next node.path, Option.map_eq_some_iff] at known
      obtain ⟨record, stored, name⟩ := known
      exact ⟨record, Numbering.keepsNames_recordAll _ _ _ _ stored, name⟩
    · exact ih _ (fun node listed => classes node (List.mem_cons_of_mem _ listed)) next later

/-- Where all names that classes get are in use already, they get them again. -/
theorem named_eq (numbering : Numbering) {draft other : Draft} {final : Ledger} {nodes : List Node}
    (classes : ∀ node ∈ nodes, node.classKind?.isSome = true)
    (agrees : draft.registry.Agrees numbering.ledger) (later : other.registry.Agrees final)
    (kept : (numbering.recordAll (records (draft.named nodes))).ledger.KeepsNames final) :
    other.named nodes = draft.named nodes := by
  induction nodes generalizing draft other numbering with
  | nil => rfl
  | cons node rest ih =>
    obtain ⟨kind, isClass⟩ := Option.isSome_iff_exists.1 (classes node List.mem_cons_self)
    obtain ⟨record, stored, name⟩ := identity?_of_mem_named numbering classes agrees
      (show (node, draft.nameOf node) ∈ draft.named (node :: rest) from List.mem_cons_self)
    have given : other.registry.schemaName? node.path = some (draft.nameOf node) := by
      rw [later node.path, kept _ _ stored, Option.map_some, name]
    have resolved := NameRegistry.resolve_of_schemaName? given node.name
    have same : other.nameOf node = draft.nameOf node := by
      unfold nameOf
      rw [resolved]
      rfl
    have still : (other.add node).registry.Agrees final := by
      unfold add
      rw [resolved]
      exact later
    have next : (draft.add node).registry.Agrees
        (numbering.recordIdentity node.path (draft.nameOf node) kind).ledger :=
      agrees.resolve node.path node.name kind
    rw [recordAll_named_cons numbering draft rest isClass] at kept
    rw [named, named, same,
      ih _ (fun node member => classes node (List.mem_cons_of_mem _ member)) next still kept]

end Draft

end ComponentSchema
