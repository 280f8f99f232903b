import ComponentSchema.Proofs.Pass.Candidates
import ComponentSchema.Proofs.Pass.Endings

/-!
What a pass discovers.  The loaded classes are its candidates as often as they are listed, and a notified
path adds the node that the catalog has for it, but only where no loaded class has the path.  Every
candidate is filed in path order or is counted as skipped, and the queue is empty afterwards.
-/

namespace ComponentSchema

def Support.isSupported (neverCookDirs : List String) (node : Node) : Bool :=
  (skipReason? neverCookDirs node).isNone

namespace SortedSet

variable {κ : Type} [Ord κ] [Std.TransOrd κ] [Std.LawfulEqOrd κ]

theorem mem_keys_ofList {members : List κ} {key : κ} :
    key ∈ (ofList members).keys ↔ key ∈ members := by
  rw [SortedMap.mem_keys, ← find?_ofList members key]
  exact ⟨fun ⟨_, stored⟩ => stored, fun stored => ⟨(), stored⟩⟩

theorem keys_ofList_perm [DecidableEq κ] (members : List κ) :
    (ofList members).keys.Perm members.dedup := by
  refine (List.perm_ext_iff_of_nodup (SortedMap.nodup_keys _) (List.nodup_dedup _)).2 fun key => ?_
  rw [mem_keys_ofList, List.mem_dedup]

end SortedSet

namespace Manifest

def catalogued? (manifest : Manifest) (path : String) : Option Node :=
  manifest.catalog.find? fun node => node.path == path

/-- The candidates of a pass: all loaded classes, and what the catalog has for each path that was notified
and that no loaded class has. -/
def candidates (manifest : Manifest) (paths : List String) : List Node :=
  manifest.classes ++
    (paths.dedup.filter fun path => decide (path ∉ manifest.classes.map Node.path)).filterMap
      manifest.catalogued?

theorem path_of_catalogued? {manifest : Manifest} {path : String} {node : Node}
    (found : manifest.catalogued? path = some node) : node.path = path := by
  unfold catalogued? at found
  have same := List.find?_some found
  exact eq_of_beq same

end Manifest

namespace Candidates

theorem unloaded_eq_filter (loaded : List Node) (paths : List String) :
    unloaded loaded paths = paths.filter fun path => decide (path ∉ loaded.map Node.path) := by
  refine List.filter_congr fun path _ => ?_
  rw [Bool.eq_iff_iff, Bool.not_eq_true', ← Bool.not_eq_true, SortedSet.contains_ofList,
    decide_eq_true_eq]

/-- A path that is looked up at all is looked up in the catalog. -/
theorem filterMap_resolve? (manifest : Manifest) (paths : List String) :
    (unloaded manifest.classes paths).filterMap manifest.resolve? =
      (unloaded manifest.classes paths).filterMap manifest.catalogued? :=
  List.filterMap_congr fun _ listed => Manifest.resolve?_of_notMem (mem_unloaded.1 listed).2

/-- What is gathered are the candidates, whatever the order and the repeats of notifications. -/
theorem gather_perm_candidates (manifest : Manifest) (paths : List String) :
    (gather manifest.resolve? manifest.classes (SortedSet.ofList paths).keys).Perm
      (manifest.candidates paths) := by
  unfold gather sorted Manifest.candidates
  rw [filterMap_resolve?, unloaded_eq_filter]
  exact (List.mergeSort_perm _ _).trans
    ((((SortedSet.keys_ofList_perm paths).filter _).filterMap _).append_left _)

/-- A loaded class hides what the catalog has for its path, even where it gets no schema itself. -/
example :
    let manifest : Manifest :=
      { classes := [.rootClass "/A.Gate" "Gate", .rootClass "/A.Door" "SKEL_Door"]
        catalog := [.rootClass "/A.Door" "Door", .rootClass "/A.Bell" "Bell",
          .rootClass "/A.Bell" "Chime"] }
    (manifest.candidates ["/A.Door", "/A.Bell", "/A.Bell"]).map Node.name =
      ["Gate", "SKEL_Door", "Bell"] := by
  decide +kernel

/-- Nodes of one path stay in the order they are listed in. -/
theorem filter_path_sorted (nodes : List Node) (path : String) :
    ((sorted nodes).filter fun node => node.path == path) =
      nodes.filter fun node => node.path == path := by
  have alike : (nodes.filter fun node => node.path == path).Pairwise fun one other =>
      (compareOn Node.path one other).isLE = true := by
    refine List.pairwise_of_forall_mem_list fun one listed other listed' => ?_
    have same := eq_of_beq (List.mem_filter.1 listed).2
    have same' := eq_of_beq (List.mem_filter.1 listed').2
    simp [compareOn, same, same']
  exact (Sorting.filter_mergeSort (compareOn Node.path) _ nodes).trans
    (List.mergeSort_of_pairwise alike)

/-- Of the nodes that different paths stand for, at most one has a given path. -/
theorem filter_path_filterMap {find? : String → Option Node}
    (named : ∀ path node, find? path = some node → node.path = path) {paths : List String}
    (distinct : paths.Nodup) (path : String) :
    ((paths.filterMap find?).filter fun node => node.path == path) =
      if path ∈ paths then (find? path).toList else [] := by
  induction paths with
  | nil => rfl
  | cons first rest ih =>
    obtain ⟨absent, distinct⟩ := List.nodup_cons.1 distinct
    have below := ih distinct
    cases found : find? first with
    | none =>
      rw [List.filterMap_cons_none found, below]
      by_cases same : path = first
      · rw [same, if_neg absent, if_pos List.mem_cons_self, found, Option.toList_none]
      · simp [same]
    | some node =>
      rw [List.filterMap_cons_some found, List.filter_cons, named first node found, below]
      by_cases same : path = first
      · -- the rest cannot have the path once more
        subst same
        simp [absent, found]
      · simp [same, Ne.symm same]

end Candidates

/-- What a pass discovers of a manifest when some paths were notified.  The classes are the candidates that
get a schema, in path order.  Where a loaded class has a path, the classes with that path are the loaded
ones, in the order they are listed in; otherwise there is one at most, from the catalog. -/
structure Discovery.Finds (neverCookDirs : List String) (manifest : Manifest) (paths : List String)
    (discovery : Discovery) : Prop where
  ordered : discovery.classes.Pairwise fun one other => (compareOn Node.path one other).isLE = true
  classes : discovery.classes.Perm
    ((manifest.candidates paths).filter (Support.isSupported neverCookDirs))
  loaded : ∀ path ∈ manifest.classes.map Node.path,
    (discovery.classes.filter fun node => node.path == path) =
      (manifest.classes.filter fun node => node.path == path).filter
        (Support.isSupported neverCookDirs)
  unloaded : ∀ path ∉ manifest.classes.map Node.path,
    (discovery.classes.filter fun node => node.path == path) =
      if path ∈ paths then
        (manifest.catalogued? path).toList.filter (Support.isSupported neverCookDirs)
      else []
  skipped : discovery.skipped =
    (manifest.candidates paths).countP fun node => !Support.isSupported neverCookDirs node

namespace Candidates

theorem filter_path_classes_discover (neverCookDirs : List String) (manifest : Manifest)
    (paths : List String) (path : String) :
    ((discover neverCookDirs manifest.resolve? manifest.classes
      (SortedSet.ofList paths).keys).classes.filter fun node => node.path == path) =
        ((manifest.classes.filter fun node => node.path == path) ++
          if path ∈ paths ∧ path ∉ manifest.classes.map Node.path then
            (manifest.catalogued? path).toList
          else []).filter (Support.isSupported neverCookDirs) := by
  have distinct := (SortedMap.nodup_keys (SortedSet.ofList paths)).filter
    fun path => decide (path ∉ manifest.classes.map Node.path)
  have named (path : String) (node : Node) (found : manifest.catalogued? path = some node) :
      node.path = path := Manifest.path_of_catalogued? found
  have found := filter_path_filterMap named distinct path
  simp only [List.mem_filter, SortedSet.mem_keys_ofList, decide_eq_true_eq] at found
  unfold discover gather
  dsimp only
  rw [List.filter_comm, filter_path_sorted, filterMap_resolve?, unloaded_eq_filter,
    List.filter_append, found]
  rfl

theorem finds_discover (neverCookDirs : List String) (manifest : Manifest) (paths : List String) :
    (discover neverCookDirs manifest.resolve? manifest.classes
      (SortedSet.ofList paths).keys).Finds neverCookDirs manifest paths := by
  have gathered := gather_perm_candidates manifest paths
  have byPath := filter_path_classes_discover neverCookDirs manifest paths
  refine ⟨pairwise_classes_discover .., gathered.filter _, ?_, ?_, ?_⟩
  · intro path listed
    rw [byPath, if_neg fun both => both.2 listed, List.append_nil]
  · intro path unlisted
    have none : (manifest.classes.filter fun node => node.path == path) = [] := by
      rw [List.filter_eq_nil_iff]
      intro node listed same
      exact unlisted (List.mem_map.2 ⟨node, listed, eq_of_beq same⟩)
    rw [byPath, none, List.nil_append]
    by_cases notified : path ∈ paths
    · rw [if_pos ⟨notified, unlisted⟩, if_pos notified]
    · rw [if_neg fun both => notified both.1, if_neg notified, List.filter_nil]
  · have all := List.length_eq_length_filter_add
      (l := gather manifest.resolve? manifest.classes (SortedSet.ofList paths).keys)
      (Support.isSupported neverCookDirs)
    rw [← gathered.countP_eq, List.countP_eq_length_filter]
    exact Nat.sub_eq_of_eq_add' all

end Candidates

namespace Plan

/-- Discovering answers, whatever the manifest and the notifications are, and takes all that waits. -/
theorem discover_notified (settings : Settings) (compiler : Compiler) (manifest : Manifest)
    (paths : List String) (generator : Generator) :
    ∃ discovery levels after,
      discover ⟨settings, manifest.source, compiler⟩
          { generator with queue := some (.notifiedOf paths) } =
        (.ok (discovery, levels), after) ∧
      discovery.Finds settings.generator.neverCookDirs manifest paths ∧
      after.queue = some .empty := by
  obtain ⟨after, discovers, -, drained⟩ := Plan.discover_apply
    ⟨settings, manifest.source, compiler⟩ { generator with queue := some (.notifiedOf paths) }
  have takes := drained _ rfl
  simp only [discovered, Manifest.source, Option.elim_some, Option.map_some,
    CandidateQueue.waiting_notifiedOf] at discovers takes
  rw [CandidateQueue.notifiedOf_eq] at takes
  exact ⟨_, _, after, discovers, Candidates.finds_discover _ manifest paths, takes⟩

end Plan

end ComponentSchema
