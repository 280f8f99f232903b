import ComponentSchema.CandidateQueue
import ComponentSchema.Pass.Candidates
import ComponentSchema.Proofs.SortedMap
import ComponentSchema.Proofs.Lists

/-!
The candidates of a pass, however they are listed.  Sorting forgets the order of levels altogether, and
that of classes up to classes with one path, which validation rejects.  A queued path is looked up in the
catalog only where no loaded class has it, so neither do the order and the repeats of notifications count.
-/

namespace ComponentSchema

namespace SortedSet

variable {κ : Type} [Ord κ] [Std.TransOrd κ] [Std.LawfulEqOrd κ]

theorem find?_ofList (members : List κ) (key : κ) :
    (ofList members).find? key = some () ↔ key ∈ members := by
  have inserted (members : List κ) (set : SortedSet κ) :
      ((members.map fun member => (member, ())).foldl (fun map entry => map.insert entry.1 entry.2)
        set).find? key = some () ↔ set.find? key = some () ∨ key ∈ members := by
    induction members generalizing set with
    | nil => simp
    | cons member rest ih =>
      rw [List.map_cons, List.foldl_cons, ih, SortedMap.find?_insert, List.mem_cons]
      simp only [Std.LawfulEqOrd.compare_eq_iff_eq]
      by_cases same : key = member
      · simp [same]
      · simp [same]
  unfold ofList SortedMap.ofList
  rw [inserted]
  exact or_iff_right fun stored => by cases stored

theorem contains_ofList (members : List κ) (key : κ) :
    (ofList members).contains key = true ↔ key ∈ members := by
  rw [← find?_ofList, SortedMap.contains_iff]
  exact ⟨fun ⟨_, stored⟩ => stored, fun stored => ⟨(), stored⟩⟩

/-- Lists with the same members make the same set. -/
theorem ofList_congr {first second : List κ} (same : ∀ key, key ∈ first ↔ key ∈ second) :
    ofList first = ofList second := by
  apply SortedMap.ext_find?
  intro key
  apply Option.ext
  intro _
  rw [find?_ofList, find?_ofList, same]

end SortedSet

namespace Manifest

/-- The place of a path is that of the first node with it. -/
theorem find?_places (manifest : Manifest) (path : String) : manifest.places.find? path =
    (manifest.classes ++ manifest.catalog).findIdx? fun node => node.path == path := by
  have counted (nodes : List Node) (start : Nat) (places : SortedMap String Nat) :
      ((nodes.zipIdx start).foldl (fun places entry => places.insertIfNew entry.1.path entry.2)
        places).find? path =
          (places.find? path).or ((nodes.findIdx? fun node => node.path == path).map (· + start)) := by
    induction nodes generalizing start places with
    | nil => exact (Option.or_none ..).symm
    | cons node rest ih =>
      rw [List.zipIdx_cons, List.foldl_cons, ih, SortedMap.find?_insertIfNew, List.findIdx?_cons]
      simp only [Std.LawfulEqOrd.compare_eq_iff_eq]
      by_cases same : path = node.path
      · rw [if_pos same, if_pos (beq_iff_eq.2 same.symm), same]
        cases places.find? node.path <;> simp
      · have later : (fun place => place + (start + 1)) = (· + start) ∘ (· + 1) := by
          funext place
          exact (Nat.add_right_comm place 1 start).symm
        rw [if_neg same, if_neg fun alike => same (eq_of_beq alike).symm, Option.map_map, later]
  unfold places
  rw [counted, SortedMap.find?_empty, Option.none_or]
  exact Option.map_id'

/-- Looking a path up at its place finds the first node with it. -/
theorem resolve?_eq_find? (manifest : Manifest) (path : String) : manifest.resolve? path =
    (manifest.classes ++ manifest.catalog).find? fun node => node.path == path := by
  unfold resolve? nodeAt?
  rw [find?_places, List.find?_eq_bind_findIdx?_getElem?]
  rfl

/-- A path that no loaded class has is looked up in the catalog. -/
theorem resolve?_of_notMem {manifest : Manifest} {path : String}
    (absent : path ∉ manifest.classes.map Node.path) :
    manifest.resolve? path = manifest.catalog.find? fun node => node.path == path := by
  have none : (manifest.classes.find? fun node => node.path == path) = none := by
    rw [List.find?_eq_none]
    intro node listed same
    exact absent (List.mem_map.2 ⟨node, listed, eq_of_beq same⟩)
  rw [resolve?_eq_find?, List.find?_append, none, Option.none_or]

end Manifest

namespace Candidates

theorem pairwise_sorted (nodes : List Node) :
    (sorted nodes).Pairwise fun first second => (compareOn Node.path first second).isLE = true :=
  Sorting.pairwise_mergeSort (compareOn Node.path) nodes

/-- The classes of a pass come in path order. -/
theorem pairwise_classes_discover (neverCookDirs : List String) (resolve? : String → Option Node)
    (loaded : List Node) (paths : List String) :
    (discover neverCookDirs resolve? loaded paths).classes.Pairwise fun first second =>
      (compareOn Node.path first second).isLE = true :=
  (pairwise_sorted _).filter _

theorem mem_unloaded {loaded : List Node} {paths : List String} {path : String} :
    path ∈ unloaded loaded paths ↔ path ∈ paths ∧ path ∉ loaded.map Node.path := by
  unfold unloaded
  rw [List.mem_filter, Bool.not_eq_true', ← Bool.not_eq_true, SortedSet.contains_ofList]

theorem unloaded_eq_of_perm {loaded other : List Node} (perm : loaded.Perm other)
    (paths : List String) : unloaded loaded paths = unloaded other paths := by
  unfold unloaded
  rw [SortedSet.ofList_congr fun path => (perm.map Node.path).mem_iff]

/-- Candidates that are listed in another order are the same up to order. -/
theorem gather_perm {resolve? resolve' : String → Option Node} {loaded other : List Node}
    {paths : List String} (perm : loaded.Perm other)
    (resolved : ∀ path ∈ unloaded loaded paths, resolve? path = resolve' path) :
    (gather resolve? loaded paths).Perm (gather resolve' other paths) := by
  have queued : (unloaded loaded paths).filterMap resolve? =
      (unloaded other paths).filterMap resolve' := by
    rw [← unloaded_eq_of_perm perm]
    exact List.filterMap_congr resolved
  unfold gather sorted
  rw [queued]
  exact (List.mergeSort_perm _ _).trans ((perm.append_right _).trans (List.mergeSort_perm _ _).symm)

/-- The levels of a pass do not depend on how they are listed. -/
theorem levels_eq_of_perm {listed other : List Level} (perm : listed.Perm other) :
    levels listed = levels other := by
  unfold levels
  refine congrArg dropRepeats (Sorting.mergeSort_eq_of_perm
    (compareLex (compareOn Level.name) (compareOn Level.path)) ?_ perm)
  rintro ⟨name, path⟩ - ⟨name', path'⟩ - same
  obtain ⟨names, paths⟩ := compareLex_eq_eq.1 same
  exact congrArg₂ Level.mk (Std.LawfulEqOrd.eq_of_compare names)
    (Std.LawfulEqOrd.eq_of_compare paths)

/-- Classes in path order that are the same up to order are the same, if no two of them have one path. -/
theorem eq_of_perm {first second : List Node} (perm : first.Perm second)
    (ordered : first.Pairwise fun one other => (compareOn Node.path one other).isLE = true)
    (ordered' : second.Pairwise fun one other => (compareOn Node.path one other).isLE = true)
    (distinct : (first.map Node.path).Nodup) : first = second := by
  refine Sorting.eq_of_perm (compareOn Node.path) ?_ ordered ordered' perm
  intro one listed other listed' same
  exact List.inj_on_of_nodup_map distinct listed listed' (Std.LawfulEqOrd.eq_of_compare same)

/-- The candidates that get a schema, from the loaded classes that do and from what was looked up. -/
theorem classes_discover (neverCookDirs : List String) (resolve? : String → Option Node)
    (loaded : List Node) (paths : List String) :
    (discover neverCookDirs resolve? loaded paths).classes =
      sorted ((loaded.filter fun node => (Support.skipReason? neverCookDirs node).isNone) ++
        ((unloaded loaded paths).filterMap resolve?).filter fun node =>
          (Support.skipReason? neverCookDirs node).isNone) := by
  rw [← List.filter_append]
  exact Sorting.filter_mergeSort (compareOn Node.path) _ _

/-- Every candidate gets a schema or is skipped. -/
theorem length_discover (neverCookDirs : List String) (resolve? : String → Option Node)
    (loaded : List Node) (paths : List String) :
    (discover neverCookDirs resolve? loaded paths).classes.length +
        (discover neverCookDirs resolve? loaded paths).skipped =
      loaded.length + ((unloaded loaded paths).filterMap resolve?).length := by
  have atMost : (discover neverCookDirs resolve? loaded paths).classes.length ≤
      (gather resolve? loaded paths).length := List.length_filter_le _ _
  have all : (gather resolve? loaded paths).length =
      loaded.length + ((unloaded loaded paths).filterMap resolve?).length := by
    unfold gather sorted
    rw [List.length_mergeSort, List.length_append]
  rw [← all]
  exact Nat.add_sub_cancel' atMost

/-- The discovery of classes that are listed in path order and all get a schema. -/
def ofListed (classes : List Node) : Discovery where
  classes := classes
  skipped := 0
  events := [⟨.info, "discovered candidate classes",
    [("classes", toString classes.length), ("skipped", toString 0)]⟩]

theorem discover_of_listed {neverCookDirs : List String} (resolve? : String → Option Node)
    {classes : List Node}
    (ordered : classes.Pairwise fun one other => (compare one.path other.path).isLE = true)
    (supported : ∀ node ∈ classes, (Support.skipReason? neverCookDirs node).isNone = true) :
    discover neverCookDirs resolve? classes [] = ofListed classes := by
  have gathered : gather resolve? classes [] = classes := by
    have queued : classes ++ (unloaded classes []).filterMap resolve? = classes :=
      List.append_nil classes
    unfold gather sorted
    rw [queued]
    exact List.mergeSort_of_pairwise ordered
  have kept : (classes.filter fun node => (Support.skipReason? neverCookDirs node).isNone) = classes :=
    List.filter_eq_self.2 supported
  have told : classes.filterMap (skipping? neverCookDirs) = [] := by
    rw [List.filterMap_eq_nil_iff]
    intro node listed
    unfold skipping?
    rw [Option.isNone_iff_eq_none.1 (supported node listed), Option.map_none]
  unfold discover ofListed
  simp only [gathered, kept, told, Nat.sub_self]
  rfl

/-- Levels that are listed in order, none of them twice in a row, are the levels of a pass. -/
theorem levels_of_listed {listed : List Level}
    (ordered : listed.Pairwise fun one other => levelOrder one other = true)
    (distinct : dropRepeats listed = listed) : levels listed = listed := by
  unfold levels
  rw [List.mergeSort_of_pairwise ordered, distinct]

end Candidates

namespace CandidateQueue

def notifiedOf (paths : List String) : CandidateQueue :=
  paths.foldl (fun queue path => queue.notify path) .empty

theorem notifiedOf_eq (paths : List String) : notifiedOf paths = .listening paths := by
  have queued (paths before : List String) :
      paths.foldl (fun queue path => notify path queue) (.listening before) =
        .listening (before ++ paths) := by
    induction paths generalizing before with
    | nil => rw [List.foldl_nil, List.append_nil]
    | cons path rest ih => rw [List.foldl_cons, notify, ih, List.append_assoc, List.singleton_append]
  unfold notifiedOf empty
  rw [queued, List.nil_append]

/-- What waits is told by which paths were notified, whatever their order and repeats. -/
theorem waiting_notifiedOf (paths : List String) :
    (notifiedOf paths).waiting = (SortedSet.ofList paths).keys := by
  rw [notifiedOf_eq, waiting]

end CandidateQueue

end ComponentSchema
