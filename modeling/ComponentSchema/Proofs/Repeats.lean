import ComponentSchema.Proofs.SortedMap

/-!
How often the items of a list come again.  A walk over the list that recalls what it met meets something
again at each place whose item an earlier place holds, and nowhere else.
-/

namespace ComponentSchema

section

variable {α : Type}

/-- An earlier place of the list holds what this place holds. -/
def RepeatsAt (items : List α) (place : Nat) : Prop :=
  ∃ earlier < place, items[earlier]? = items[place]?

instance [DecidableEq α] (items : List α) (place : Nat) : Decidable (RepeatsAt items place) :=
  inferInstanceAs (Decidable (∃ earlier < place, items[earlier]? = items[place]?))

/-- How many places of a list hold what an earlier place holds. -/
def repeats [DecidableEq α] (items : List α) : Nat :=
  (List.range items.length).countP fun place => decide (RepeatsAt items place)

theorem repeatsAt_append {items : List α} {place : Nat} (inside : place < items.length)
    (more : List α) : RepeatsAt (items ++ more) place ↔ RepeatsAt items place := by
  unfold RepeatsAt
  apply exists_congr
  intro earlier
  apply and_congr_right
  intro before
  rw [List.getElem?_append_left inside, List.getElem?_append_left (before.trans inside)]

theorem repeatsAt_length {items : List α} {item : α} :
    RepeatsAt (items ++ [item]) items.length ↔ item ∈ items := by
  unfold RepeatsAt
  rw [List.getElem?_concat_length, List.mem_iff_getElem?]
  constructor
  · rintro ⟨earlier, before, same⟩
    rw [List.getElem?_append_left before] at same
    exact ⟨earlier, same⟩
  · rintro ⟨earlier, same⟩
    obtain ⟨before, -⟩ := List.getElem?_eq_some_iff.1 same
    exact ⟨earlier, before, by rwa [List.getElem?_append_left before]⟩

variable [DecidableEq α]

theorem repeats_concat (items : List α) (item : α) :
    repeats (items ++ [item]) = repeats items + if item ∈ items then 1 else 0 := by
  have front : (List.range items.length).countP
      (fun place => decide (RepeatsAt (items ++ [item]) place)) = repeats items := by
    apply List.countP_congr
    intro place listed
    rw [decide_eq_true_eq, decide_eq_true_eq, repeatsAt_append (List.mem_range.1 listed)]
  rw [repeats, List.length_append, List.length_singleton, List.range_succ, List.countP_append, front,
    List.countP_singleton]
  simp only [decide_eq_true_eq, repeatsAt_length]

example : repeats ["Arena", "Lobby", "Arena", "Arena"] = 2 := by decide

theorem repeats_eq_zero_iff {items : List α} : repeats items = 0 ↔ items.Nodup := by
  induction items using List.reverseRecOn with
  | nil => exact ⟨fun _ => .nil, fun _ => rfl⟩
  | append_singleton items item ih =>
    rw [repeats_concat, ← List.concat_eq_append, List.nodup_concat]
    by_cases again : item ∈ items
    · simp [again]
    · simp [again, ih]

/-- Nothing is counted exactly if no item tells something and none comes again. -/
theorem count_eq_zero_iff {ι : Type} {tells : ι → Bool} {items : List ι} {keys : List α} :
    items.countP tells + repeats keys = 0 ↔ (∀ item ∈ items, tells item = false) ∧ keys.Nodup := by
  rw [Nat.add_eq_zero_iff, List.countP_eq_zero, repeats_eq_zero_iff]
  simp only [Bool.not_eq_true]

end

namespace SortedMap

variable {κ α : Type} [Ord κ] {seen : SortedMap κ α} {before : List κ} {key : κ}

/-- The keys of a map are those that were met so far. -/
def Recalls (seen : SortedMap κ α) (before : List κ) : Prop :=
  ∀ key, (seen.find? key).isSome = true ↔ key ∈ before

theorem recalls_empty : (∅ : SortedMap κ α).Recalls [] := by
  intro key
  simp

theorem Recalls.again {value : α} (recalls : seen.Recalls before) (known : seen.find? key = some value) :
    seen.Recalls (before ++ [key]) := by
  intro other
  have met : key ∈ before := (recalls key).1 (by rw [known]; rfl)
  rw [recalls other, List.mem_append, List.mem_singleton]
  constructor
  · exact .inl
  · rintro (listed | rfl)
    · exact listed
    · exact met

theorem Recalls.insert [Std.TransOrd κ] [Std.LawfulEqOrd κ] (recalls : seen.Recalls before) (key : κ)
    (value : α) : (seen.insert key value).Recalls (before ++ [key]) := by
  intro other
  simp only [find?_insert, Std.LawfulEqOrd.compare_eq_iff_eq, List.mem_append, List.mem_singleton]
  by_cases same : other = key
  · simp [same]
  · simp [same, recalls other]

theorem Recalls.repeats_concat [DecidableEq κ] (recalls : seen.Recalls before) (key : κ) :
    repeats (before ++ [key]) = repeats before + if (seen.find? key).isSome then 1 else 0 := by
  rw [ComponentSchema.repeats_concat]
  simp only [recalls key]

/-- A walk that recalls the keys it met, and counts an item if that tells something itself and once more if
its key is met again, counts the items that tell something and the repeats. -/
theorem count_walk [DecidableEq κ] {ι : Type} (key : ι → κ) (tells : ι → Bool)
    (count : SortedMap κ α → List ι → Nat) (nil : ∀ seen, count seen [] = 0)
    (cons : ∀ seen item rest, ∃ later : SortedMap κ α,
      (∀ before, seen.Recalls before → later.Recalls (before ++ [key item])) ∧
        count seen (item :: rest) = (if tells item then 1 else 0) +
          (if (seen.find? (key item)).isSome then 1 else 0) + count later rest)
    (items : List ι) : count ∅ items = items.countP tells + repeats (items.map key) := by
  have walked (seen : SortedMap κ α) (before : List κ) (recalls : seen.Recalls before) :
      count seen items + repeats before =
        items.countP tells + repeats (before ++ items.map key) := by
    induction items generalizing seen before with
    | nil => simp [nil]
    | cons item rest ih =>
      obtain ⟨later, onward, counted⟩ := cons seen item rest
      have met := recalls.repeats_concat (key item)
      have behind := ih later (before ++ [key item]) (onward before recalls)
      rw [List.map_cons, List.append_cons, List.countP_cons, counted]
      omega
  have whole := walked ∅ [] recalls_empty
  have nothing : repeats ([] : List κ) = 0 := rfl
  rw [nothing] at whole
  exact whole

end SortedMap

end ComponentSchema
