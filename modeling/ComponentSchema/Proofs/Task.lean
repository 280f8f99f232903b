import Mathlib

/-!
Work on a state that may fail and keeps what it did even then.  Numbering, emission, file work and a
whole pass are all of this form, so the laws of its steps are stated here once.
-/

namespace ComponentSchema

/-- Work on a state that may fail. -/
abbrev Task (ε σ α : Type) := ExceptT ε (StateM σ) α

namespace Task

variable {ε σ α β : Type}

theorem bind_apply (work : Task ε σ α) (next : α → Task ε σ β) (state : σ) :
    (work >>= next) state =
      match work state with
      | (.ok value, after) => next value after
      | (.error error, after) => (.error error, after) := by
  change (ExceptT.bindCont next (work state).1) (work state).2 = _
  rcases work state with ⟨_ | _, _⟩ <;> rfl

@[simp]
theorem pure_apply (value : α) (state : σ) : (pure value : Task ε σ α) state = (.ok value, state) :=
  rfl

@[simp]
theorem get_apply (state : σ) : (get : Task ε σ σ) state = (.ok state, state) := rfl

@[simp]
theorem modify_apply (change : σ → σ) (state : σ) :
    (modify change : Task ε σ Unit) state = (.ok (), change state) := rfl

theorem map_apply (work : Task ε σ α) (change : α → β) (state : σ) :
    (change <$> work) state = ((work state).1.map change, (work state).2) := by
  rw [map_eq_pure_bind, bind_apply]
  rcases work state with ⟨_ | _, _⟩ <;> rfl

theorem tryCatch_apply (work : Task ε σ α) (handle : ε → Task ε σ α) (state : σ) :
    (tryCatch work handle) state =
      match work state with
      | (.ok value, after) => (.ok value, after)
      | (.error error, after) => handle error after := by
  change (ExceptT.tryCatch work handle) state = _
  unfold ExceptT.tryCatch ExceptT.mk
  change (match (work state).1 with
    | .ok value => (Pure.pure (Except.ok value) : StateM σ (Except ε α))
    | .error error => handle error) (work state).2 = _
  rcases work state with ⟨_ | _, _⟩ <;> rfl

theorem exists_of_isOk {result : Except ε α × σ} (succeeds : result.1.isOk = true) :
    ∃ value after, result = (.ok value, after) := by
  rcases result with ⟨error | value, after⟩
  · cases succeeds
  · exact ⟨value, after, rfl⟩

theorem eq_ok_of_isOk {result : Except ε Unit} (succeeds : result.isOk = true) : result = .ok () := by
  cases result with
  | error error => cases succeeds
  | ok _ => rfl

/-- Work in two steps succeeds exactly if both steps do. -/
theorem bind_eq_ok {work : Task ε σ α} {next : α → Task ε σ β} {before after : σ} {result : β} :
    (work >>= next) before = (.ok result, after) ↔
      ∃ value between, work before = (.ok value, between) ∧
        next value between = (.ok result, after) := by
  rw [bind_apply]
  cases ended : work before with
  | mk outcome between =>
    cases outcome with
    | error error =>
      constructor
      · exact fun same => by cases same
      · rintro ⟨value, other, same, -⟩
        cases same
    | ok value =>
      constructor
      · exact fun same => ⟨value, between, rfl, same⟩
      · rintro ⟨value, other, same, rest⟩
        cases same
        exact rest

/-- Work in two steps fails exactly if one of the steps does. -/
theorem bind_eq_error {work : Task ε σ α} {next : α → Task ε σ β} {before after : σ} {error : ε} :
    (work >>= next) before = (.error error, after) ↔
      work before = (.error error, after) ∨
        ∃ value between, work before = (.ok value, between) ∧
          next value between = (.error error, after) := by
  rw [bind_apply]
  cases ended : work before with
  | mk outcome between =>
    cases outcome with
    | error other =>
      constructor
      · intro same
        cases same
        exact .inl rfl
      · rintro (same | ⟨value, between, same, -⟩)
        · cases same
          rfl
        · cases same
    | ok value =>
      constructor
      · exact fun same => .inr ⟨value, between, rfl, same⟩
      · rintro (same | ⟨value, between, same, rest⟩)
        · cases same
        · cases same
          exact rest

/-- The work changes the state only as a relation allows, however it ends. -/
def Keeps (relation : σ → σ → Prop) (work : Task ε σ α) : Prop :=
  ∀ state, relation state (work state).2

namespace Keeps

variable {relation : σ → σ → Prop}

theorem of_eq {work : Task ε σ α} (kept : Keeps relation work) {before after : σ}
    {result : Except ε α} (run : work before = (result, after)) : relation before after := by
  have step := kept before
  rwa [run] at step

theorem pure [Std.Refl relation] (value : α) : Keeps relation (pure value : Task ε σ α) :=
  fun state => Std.Refl.refl state

theorem throw [Std.Refl relation] (error : ε) : Keeps relation (throw error : Task ε σ α) :=
  fun state => Std.Refl.refl state

theorem get [Std.Refl relation] : Keeps relation (get : Task ε σ σ) :=
  fun state => Std.Refl.refl state

theorem modify {change : σ → σ} (changes : ∀ state, relation state (change state)) :
    Keeps relation (modify change : Task ε σ Unit) := changes

/-- What comes next may rely on what is known of the answers of the first step. -/
theorem bind_of_ok [IsTrans σ relation] {answers : α → Prop} {work : Task ε σ α}
    {next : α → Task ε σ β} (first : Keeps relation work)
    (known : ∀ before value after, work before = (.ok value, after) → answers value)
    (second : ∀ value, answers value → Keeps relation (next value)) :
    Keeps relation (work >>= next) := by
  intro state
  have step := first state
  rw [bind_apply]
  cases ended : work state with
  | mk outcome between =>
    rw [ended] at step
    cases outcome with
    | error error => exact step
    | ok value =>
      exact trans_of relation step (second value (known state value between ended) between)

theorem bind [IsTrans σ relation] {work : Task ε σ α} {next : α → Task ε σ β}
    (first : Keeps relation work) (second : ∀ value, Keeps relation (next value)) :
    Keeps relation (work >>= next) :=
  first.bind_of_ok (fun _ _ _ _ => trivial) fun value _ => second value

theorem map {work : Task ε σ α} (change : α → β) (kept : Keeps relation work) :
    Keeps relation (change <$> work) := by
  intro state
  rw [map_apply]
  exact kept state

theorem tryCatch [IsTrans σ relation] {work : Task ε σ α} {handle : ε → Task ε σ α}
    (first : Keeps relation work) (second : ∀ error, Keeps relation (handle error)) :
    Keeps relation (tryCatch work handle) := by
  intro state
  have step := first state
  rw [tryCatch_apply]
  cases ended : work state with
  | mk outcome between =>
    rw [ended] at step
    cases outcome with
    | error error => exact trans_of relation step (second error between)
    | ok value => exact step

theorem ite {condition : Prop} [Decidable condition] {work other : Task ε σ α}
    (first : condition → Keeps relation work) (second : ¬condition → Keeps relation other) :
    Keeps relation (if condition then work else other) := by
  split
  next yes => exact first yes
  next no => exact second no

theorem mapM [Std.Refl relation] [IsTrans σ relation] {work : α → Task ε σ β} {items : List α}
    (each : ∀ item ∈ items, Keeps relation (work item)) : Keeps relation (items.mapM work) := by
  induction items with
  | nil => exact pure []
  | cons first rest ih =>
    rw [List.mapM_cons]
    refine (each first List.mem_cons_self).bind fun value => ?_
    refine (ih fun item member => each item (List.mem_cons_of_mem _ member)).bind fun values => ?_
    exact pure _

theorem foldlM [Std.Refl relation] [IsTrans σ relation] {work : β → α → Task ε σ β}
    {items : List α} (each : ∀ value, ∀ item ∈ items, Keeps relation (work value item))
    (start : β) : Keeps relation (items.foldlM work start) := by
  induction items generalizing start with
  | nil => exact pure start
  | cons first rest ih =>
    rw [List.foldlM_cons]
    refine (each start first List.mem_cons_self).bind fun value => ?_
    exact ih (fun value item member => each value item (List.mem_cons_of_mem _ member)) value

end Keeps

end Task

end ComponentSchema
