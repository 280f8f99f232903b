import Mathlib.Data.List.DropRight
import Mathlib.Data.List.Forall2

/-!
Lists that are read item by item, or from their end.  All of a list is read if each item is, and one
item that cannot be read is enough to refuse the list.

Lists are sorted by a comparison.  Where it tells the items of a list apart, there is only one order for
them, so sorting forgets how they were listed.  Items it does not tell apart stay in the order they were
listed in, so what is left out of a list leaves no trace in the order of the rest.
-/

namespace ComponentSchema

variable {α β : Type} {read : β → Option α} {pieces : List β}

theorem mapM_eq_some_map {value : β → α} (each : ∀ piece ∈ pieces, read piece = some (value piece)) :
    pieces.mapM read = some (pieces.map value) := by
  induction pieces with
  | nil => rfl
  | cons piece rest ih =>
    obtain ⟨first, others⟩ := List.forall_mem_cons.1 each
    rw [List.mapM_cons, first, ih others]
    rfl

theorem mapM_map_eq_some {write : α → β} {items : List α}
    (back : ∀ item ∈ items, read (write item) = some item) :
    (items.map write).mapM read = some items := by
  rw [List.mapM_map]
  have each : ∀ item ∈ items, (read ∘ write) item = some (id item) := back
  rw [mapM_eq_some_map each, List.map_id]

/-- Items that are read were read off some piece each. -/
theorem exists_of_mem_mapM {items : List α} (all : pieces.mapM read = some items) :
    ∀ item ∈ items, ∃ piece ∈ pieces, read piece = some item := by
  induction pieces generalizing items with
  | nil =>
    cases all
    exact fun item member => (by cases member)
  | cons piece rest ih =>
    rw [List.mapM_cons] at all
    obtain ⟨first, one, all⟩ := Option.bind_eq_some_iff.1 all
    obtain ⟨others, below, all⟩ := Option.bind_eq_some_iff.1 all
    cases all
    refine List.forall_mem_cons.2 ⟨⟨piece, List.mem_cons_self, one⟩, fun item member => ?_⟩
    obtain ⟨source, listed, same⟩ := ih below item member
    exact ⟨source, List.mem_cons_of_mem _ listed, same⟩

theorem mapM_eq_none {piece : β} (listed : piece ∈ pieces) (refused : read piece = none) :
    pieces.mapM read = none := by
  induction pieces with
  | nil => cases listed
  | cons first rest ih =>
    rw [List.mapM_cons]
    rcases List.mem_cons.1 listed with rfl | later
    · rw [refused]
      rfl
    · cases one : read first with
      | none => rfl
      | some value =>
        rw [ih later]
        rfl

theorem exists_of_mem_left {relation : α → β → Prop} {items : List α} {others : List β}
    (each : List.Forall₂ relation items others) :
    ∀ item ∈ items, ∃ other ∈ others, relation item other := by
  induction each with
  | nil => exact fun item none => (by cases none)
  | cons first rest ih =>
    refine List.forall_mem_cons.2 ⟨⟨_, List.mem_cons_self, first⟩, fun item listed => ?_⟩
    obtain ⟨other, there, related⟩ := ih item listed
    exact ⟨other, List.mem_cons_of_mem _ there, related⟩

/-- A run at the end of a list begins behind the last item that does not belong to it. -/
theorem rtakeWhile_append {p : α → Bool} (front : List α) {back : List α} {stop : α}
    (each : ∀ item ∈ back, p item = true) (stops : p stop = false) :
    (front ++ stop :: back).rtakeWhile p = back ∧
      (front ++ stop :: back).rdropWhile p = front ++ [stop] := by
  have reversed : (front ++ stop :: back).reverse = back.reverse ++ stop :: front.reverse := by simp
  have each' : ∀ item ∈ back.reverse, p item = true :=
    fun item member => each item (List.mem_reverse.1 member)
  constructor
  · rw [List.rtakeWhile, reversed, List.takeWhile_append_of_pos each', List.takeWhile_cons, stops]
    simp
  · rw [List.rdropWhile, reversed, List.dropWhile_append_of_pos each', List.dropWhile_cons, stops]
    simp

namespace Sorting

variable {α : Type}

/-- A comparison tells the items of a list apart. -/
def Separates (order : α → α → Ordering) (items : List α) : Prop :=
  ∀ first ∈ items, ∀ second ∈ items, order first second = .eq → first = second

variable (order : α → α → Ordering) [Std.TransCmp order]

theorem isLE_total (first second : α) :
    ((order first second).isLE || (order second first).isLE) = true := by
  rw [Bool.or_eq_true]
  by_cases less : (order first second).isLE = true
  · exact .inl less
  · have greater := Std.OrientedCmp.lt_of_not_isLE less
    exact .inr (by rw [greater]; rfl)

theorem pairwise_mergeSort (items : List α) :
    (items.mergeSort fun first second => (order first second).isLE).Pairwise
      fun first second => (order first second).isLE = true :=
  List.pairwise_mergeSort (fun _ _ _ => Std.TransCmp.isLE_trans) (isLE_total order) items

/-- Lists in order that hold the same items are the same. -/
theorem eq_of_perm {first second : List α} (separates : Separates order first)
    (ordered : first.Pairwise fun one other => (order one other).isLE = true)
    (ordered' : second.Pairwise fun one other => (order one other).isLE = true)
    (perm : first.Perm second) : first = second := by
  refine List.Perm.eq_of_pairwise (fun one other listed listed' less greater => ?_) ordered ordered'
    perm
  exact separates one listed other (perm.mem_iff.2 listed')
    (Std.OrientedCmp.isLE_antisymm less greater)

theorem mergeSort_eq_of_perm {first second : List α} (separates : Separates order first)
    (perm : first.Perm second) :
    (first.mergeSort fun one other => (order one other).isLE) =
      second.mergeSort fun one other => (order one other).isLE := by
  have sorted := List.mergeSort_perm first fun one other => (order one other).isLE
  have sorted' := List.mergeSort_perm second fun one other => (order one other).isLE
  refine eq_of_perm order ?_ (pairwise_mergeSort order first) (pairwise_mergeSort order second)
    (sorted.trans (perm.trans sorted'.symm))
  exact fun one listed other listed' =>
    separates one (sorted.mem_iff.1 listed) other (sorted.mem_iff.1 listed')

/-- One more item goes behind all that are less and before all others. -/
theorem exists_mergeSort_cons (item : α) (items : List α) :
    ∃ less others,
      ((item :: items).mergeSort fun first second => (order first second).isLE) =
        less ++ item :: others ∧
      (items.mergeSort fun first second => (order first second).isLE) = less ++ others ∧
      (∀ one ∈ less, ¬(order item one).isLE) ∧ ∀ one ∈ others, (order item one).isLE := by
  obtain ⟨less, others, sorted, rest, before⟩ :=
    @List.mergeSort_cons α (fun first second => (order first second).isLE)
      (fun _ _ _ => Std.TransCmp.isLE_trans) (isLE_total order) item items
  have ordered := pairwise_mergeSort order (item :: items)
  rw [sorted] at ordered
  refine ⟨less, others, sorted, rest, fun one listed => ?_, fun one listed => ?_⟩
  · simpa using before one listed
  · exact List.rel_of_pairwise_cons (List.pairwise_append.1 ordered).2.1 listed

/-- Sorting is stable, so what is kept of a sorted list is what is kept, sorted. -/
theorem filter_mergeSort (keeps : α → Bool) (items : List α) :
    (items.mergeSort fun first second => (order first second).isLE).filter keeps =
      (items.filter keeps).mergeSort fun first second => (order first second).isLE := by
  induction items with
  | nil => rw [List.mergeSort_nil, List.filter_nil, List.mergeSort_nil]
  | cons item rest ih =>
    obtain ⟨less, others, sorted, remaining, before, behind⟩ := exists_mergeSort_cons order item rest
    rw [remaining, List.filter_append] at ih
    rw [sorted, List.filter_append]
    by_cases kept : keeps item = true
    · rw [List.filter_cons_of_pos kept, List.filter_cons_of_pos kept]
      obtain ⟨less', others', sorted', remaining', before', behind'⟩ :=
        exists_mergeSort_cons order item (rest.filter keeps)
      rw [remaining'] at ih
      have cut {less others : List α} (before : ∀ one ∈ less, ¬(order item one).isLE)
          (behind : ∀ one ∈ others, (order item one).isLE) :
          (less ++ others).filter (fun one => (order item one).isLE) = others := by
        rw [List.filter_append, List.filter_eq_nil_iff.2 before, List.filter_eq_self.2 behind,
          List.nil_append]
      have same : others.filter keeps = others' := by
        rw [← cut (fun one listed => before one (List.mem_of_mem_filter listed))
          fun one listed => behind one (List.mem_of_mem_filter listed), ih, cut before' behind']
      rw [same] at ih ⊢
      rw [sorted', List.append_cancel_right ih]
    · rw [List.filter_cons_of_neg kept, List.filter_cons_of_neg kept, ih]

end Sorting

end ComponentSchema
