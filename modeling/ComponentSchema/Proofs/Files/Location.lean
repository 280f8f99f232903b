import ComponentSchema.Proofs.Files.Walk

/-!
The locations of paths that are put together from others: what is joined to a path leads on from where
that path leads, and a name put behind everything else is the name at the end of the location.
-/

namespace ComponentSchema

namespace Path

theorem pieces_separator (front back : List Char) :
    pieces (front ++ '/' :: back) = pieces front ++ pieces back := by
  induction front with
  | nil => simp [pieces]
  | cons char front ih =>
    obtain ⟨piece, more, parts⟩ := List.exists_cons_of_ne_nil (pieces_ne_nil front)
    rw [parts] at ih
    simp only [List.cons_append, pieces, ih, parts]
    split <;> rfl

theorem pieces_of_notMem {chars : List Char} (plain : '/' ∉ chars) : pieces chars = [chars] := by
  induction chars with
  | nil => rfl
  | cons char rest ih =>
    rw [List.mem_cons, not_or] at plain
    simp only [pieces, if_neg (Ne.symm plain.1), ih plain.2]

/-- Text without a separator goes on with the last piece. -/
theorem pieces_append_of_notMem (front : List Char) {ending : List Char} (plain : '/' ∉ ending) :
    ∃ before last, pieces (front ++ ending) = before ++ [last ++ ending] := by
  induction front with
  | nil => exact ⟨[], [], by rw [List.nil_append, pieces_of_notMem plain]; rfl⟩
  | cons char front ih =>
    obtain ⟨before, last, parts⟩ := ih
    by_cases separator : char = '/'
    · refine ⟨[] :: before, last, ?_⟩
      simp only [List.cons_append, pieces, separator, if_true, parts]
    · cases before with
      | nil => exact ⟨[], char :: last, by simp [pieces, separator, parts]⟩
      | cons piece others => exact ⟨(char :: piece) :: others, last, by simp [pieces, separator, parts]⟩

theorem notMem_of_mem_pieces {chars piece : List Char} (member : piece ∈ pieces chars) :
    '/' ∉ piece := by
  induction chars generalizing piece with
  | nil =>
    rw [List.mem_singleton.1 member]
    exact List.not_mem_nil
  | cons char rest ih =>
    obtain ⟨first, more, parts⟩ := List.exists_cons_of_ne_nil (pieces_ne_nil rest)
    simp only [pieces, parts] at member ih
    split at member
    next separator =>
      rcases List.mem_cons.1 member with rfl | later
      · exact List.not_mem_nil
      · exact ih later
    next other =>
      rcases List.mem_cons.1 member with rfl | later
      · rw [List.mem_cons, not_or]
        exact ⟨fun same => other same.symm, ih List.mem_cons_self⟩
      · exact ih (List.mem_cons_of_mem _ later)

/-- A step to a name of more than two characters adds that name. -/
theorem step_of_length {piece : List Char} (long : 2 < piece.length) (location : Location) :
    step location piece = location ++ [String.ofList piece] := by
  unfold step isIdle
  rw [if_neg, if_neg]
  · rintro rfl
    exact absurd long (by decide)
  · intro idle
    rw [Bool.or_eq_true, beq_iff_eq, beq_iff_eq] at idle
    rcases idle with rfl | rfl <;> exact absurd long (by decide)

/-- What is joined to a path leads on from where that path leads. -/
theorem location_join {base path : Path} (relative : path.isAbsolute = false) :
    (base.join path).location = (pieces path.toList).foldl step base.location := by
  unfold join
  rw [relative]
  simp only [Bool.false_eq_true, if_false]
  have plain (front : List Char) (text : Path) (same : text.toList = front ++ '/' :: path.toList) :
      text.location = (pieces path.toList).foldl step ((pieces front).foldl step []) := by
    rw [location, same, pieces_separator, List.foldl_append]
  split
  next empty =>
    have none : base.toList = [] := List.getLast?_eq_none_iff.1 empty
    rw [location, location, none]
    rfl
  next ending =>
    obtain ⟨front, whole⟩ := List.getLast?_eq_some_iff.1 ending
    have bare : base.location = (pieces front).foldl step [] := by
      rw [location, whole, pieces_separator, List.foldl_append]
      rfl
    rw [bare]
    exact plain front _ (by simp [whole])
  next => exact plain base.toList _ (by simp)

/-- Whatever a name is joined to, the location ends in what the name ends in. -/
theorem getLast?_location_join (base : Path) (name ending : String)
    (plain : '/' ∉ ending.toList) (long : 2 < ending.toList.length) :
    ∃ front, (base.join (name ++ ending)).location.getLast? = some (front ++ ending) := by
  obtain ⟨before, last, parts⟩ := pieces_append_of_notMem name.toList plain
  rw [← String.toList_append] at parts
  have ends (start : Location) : ((pieces (name ++ ending).toList).foldl step start).getLast? =
      some (String.ofList last ++ ending) := by
    rw [parts, List.foldl_append, List.foldl_cons, List.foldl_nil,
      step_of_length (by rw [List.length_append]; omega), List.getLast?_concat,
      String.ofList_append, String.ofList_toList]
  refine ⟨String.ofList last, ?_⟩
  cases absolute : isAbsolute (name ++ ending) with
  | true =>
    unfold join
    rw [absolute, if_pos rfl]
    exact ends []
  | false =>
    rw [location_join absolute]
    exact ends _

/-- The location of a name that is joined to a path. -/
theorem location_join_name (base : Path) {name : String} (plain : '/' ∉ name.toList)
    (long : 2 < name.toList.length) : (base.join name).location = base.location ++ [name] := by
  have relative : isAbsolute name = false := by
    unfold isAbsolute
    cases chars : name.toList with
    | nil => rfl
    | cons first rest =>
      rw [chars, List.mem_cons, not_or] at plain
      simp [Ne.symm plain.1]
  rw [location_join relative, pieces_of_notMem plain, List.foldl_cons, List.foldl_nil,
    step_of_length long, String.ofList_toList]

theorem foldl_step_filter (parts : List (List Char)) (start : Location) :
    (parts.filter fun piece => !isIdle piece).foldl step start = parts.foldl step start := by
  induction parts generalizing start with
  | nil => rfl
  | cons piece rest ih =>
    cases idle : isIdle piece with
    | true =>
      have stays : step start piece = start := if_pos idle
      rw [List.filter_cons_of_neg (by simp [idle]), ih, List.foldl_cons, stays]
    | false => rw [List.filter_cons_of_pos (by simp [idle]), List.foldl_cons, ih, List.foldl_cons]

/-- The inner pieces of a path are all of its pieces that lead anywhere. -/
theorem filter_split (chars : List Char) :
    ((split chars).2.filter fun piece => !isIdle piece) =
      (pieces chars).filter fun piece => !isIdle piece := by
  unfold split
  split
  · rfl
  · rfl
  · rfl
  · rfl

/-- The last component of a path, if it is a name, is its last piece that leads anywhere. -/
theorem getLast?_filter_of_fileName? {path : Path} {name : String}
    (named : path.fileName? = some name) :
    ((pieces path.toList).filter fun piece => !isIdle piece).getLast? = some name.toList ∧
      name.toList ≠ ['.', '.'] := by
  unfold fileName? components at named
  dsimp only at named
  rw [filter_split] at named
  rcases List.eq_nil_or_concat ((pieces path.toList).filter fun piece => !isIdle piece) with
    none | ⟨before, last, parts⟩
  · -- what comes before the inner pieces is no name
    rw [none, List.map_nil, List.append_nil] at named
    unfold split at named
    split at named
    next text ending =>
      split at ending <;> cases ending
    next => cases named
  · rw [List.concat_eq_append] at parts
    rw [parts, List.map_append, List.map_singleton, ← List.append_assoc, List.getLast?_concat] at named
    split at named
    next text ending =>
      split at ending
      next => cases ending
      next inner =>
        cases ending
        cases named
        rw [parts, List.getLast?_concat, String.toList_ofList]
        exact ⟨rfl, inner⟩
    next => cases named

/-- Such a path ends where the step to that name leads. -/
theorem location_of_getLast? {parts before : List (List Char)} {name : String}
    (split : parts = before ++ [name.toList]) (solid : isIdle name.toList = false)
    (inner : name.toList ≠ ['.', '.']) (start : Location) :
    parts.foldl step start = before.foldl step start ++ [name] := by
  rw [split, List.foldl_append, List.foldl_cons, List.foldl_nil]
  unfold step
  rw [solid, if_neg Bool.false_ne_true, if_neg inner, String.ofList_toList]

theorem getLast?_of_fileName? {path : Path} {name : String} (named : path.fileName? = some name) :
    path.location.getLast? = some name ∧ '/' ∉ name.toList := by
  obtain ⟨ends, inner⟩ := getLast?_filter_of_fileName? named
  obtain ⟨listed, solid⟩ := List.mem_filter.1 (List.mem_of_getLast? ends)
  rw [Bool.not_eq_true'] at solid
  obtain ⟨before, parts⟩ := List.getLast?_eq_some_iff.1 ends
  rw [location, ← foldl_step_filter, location_of_getLast? parts solid inner, List.getLast?_concat]
  exact ⟨rfl, notMem_of_mem_pieces listed⟩

theorem trim_concat (parts : List (List Char)) (piece : List Char) :
    trim (parts ++ [piece]) = if isIdle piece then trim parts else parts ++ [piece] := by
  unfold trim
  rw [List.reverse_concat, List.dropWhile_cons]
  split
  · rfl
  · rw [List.reverse_cons, List.reverse_reverse]

theorem trim_prefix_self (parts : List (List Char)) : trim parts <+: parts := by
  induction parts using List.reverseRecOn with
  | nil => exact List.prefix_rfl
  | append_singleton parts piece ih =>
    rw [trim_concat]
    split
    · exact ih.trans (List.prefix_append _ _)
    · exact List.prefix_rfl

/-- What is trimmed leads nowhere. -/
theorem foldl_step_trim (parts : List (List Char)) (start : Location) :
    (trim parts).foldl step start = parts.foldl step start := by
  induction parts using List.reverseRecOn with
  | nil => rfl
  | append_singleton parts piece ih =>
    rw [trim_concat]
    split
    next idle =>
      rw [ih, List.foldl_append, List.foldl_cons, List.foldl_nil]
      exact (if_pos idle).symm
    next => rfl

/-- What is left after trimming ends in a piece that leads on. -/
theorem getLast?_trim (parts : List (List Char)) :
    (trim parts).getLast? = (parts.filter fun piece => !isIdle piece).getLast? := by
  induction parts using List.reverseRecOn with
  | nil => rfl
  | append_singleton parts piece ih =>
    rw [trim_concat, List.filter_append]
    cases idle : isIdle piece with
    | true => simp [idle, ih]
    | false => simp [idle]

theorem pieces_intercalate {parts : List (List Char)} (plain : ∀ piece ∈ parts, '/' ∉ piece)
    (start : Location) :
    (pieces (['/'].intercalate parts)).foldl step start = parts.foldl step start := by
  induction parts generalizing start with
  | nil => rfl
  | cons piece rest ih =>
    have first := plain piece List.mem_cons_self
    cases rest with
    | nil => rw [List.intercalate_singleton, pieces_of_notMem first]
    | cons another others =>
      rw [List.intercalate_cons_cons, List.append_assoc, List.singleton_append, pieces_separator,
        pieces_of_notMem first, List.foldl_append]
      exact ih (fun piece member => plain piece (List.mem_cons_of_mem _ member)) _

/-- The pieces that a path is put together from lead where the path leads. -/
theorem location_unsplit (lead : Option Component) {parts : List (List Char)}
    (plain : ∀ piece ∈ parts, '/' ∉ piece) :
    location (String.ofList (unsplit lead parts)) = parts.foldl step [] := by
  have behind (front : List Char) (idle : (pieces front).foldl step [] = []) :
      location (String.ofList (front ++ '/' :: ['/'].intercalate parts)) = parts.foldl step [] := by
    rw [location, String.toList_ofList, pieces_separator, List.foldl_append, idle,
      pieces_intercalate plain]
  have bare : location (String.ofList (['/'].intercalate parts)) = parts.foldl step [] := by
    rw [location, String.toList_ofList, pieces_intercalate plain]
  unfold unsplit
  split
  · exact behind [] rfl
  · rfl
  · exact behind ['.'] rfl
  · exact bare

theorem notMem_of_mem_split {chars piece : List Char} (member : piece ∈ (split chars).2) :
    '/' ∉ piece := by
  cases idle : isIdle piece with
  | true =>
    rw [isIdle, Bool.or_eq_true, beq_iff_eq, beq_iff_eq] at idle
    rcases idle with rfl | rfl <;> decide
  | false =>
    have listed : piece ∈ (split chars).2.filter fun piece => !isIdle piece :=
      List.mem_filter.2 ⟨member, by rw [idle]; rfl⟩
    rw [filter_split] at listed
    exact notMem_of_mem_pieces (List.mem_filter.1 listed).1

/-- A path that ends in a name leads one step further than the path without that name. -/
theorem location_parent? {path : Path} {name : String} (named : path.fileName? = some name) :
    ∃ parent, path.parent? = some parent ∧ path.location = parent.location ++ [name] := by
  obtain ⟨ends, inner⟩ := getLast?_filter_of_fileName? named
  obtain ⟨-, solid⟩ := List.mem_filter.1 (List.mem_of_getLast? ends)
  rw [Bool.not_eq_true'] at solid
  rw [← filter_split, ← getLast?_trim] at ends
  obtain ⟨before, parts⟩ := List.getLast?_eq_some_iff.1 ends
  have whole : path.location = (trim (split path.toList).2).foldl step [] := by
    rw [foldl_step_trim, ← foldl_step_filter, filter_split, foldl_step_filter]
    rfl
  have plain : ∀ piece ∈ trim before, '/' ∉ piece := by
    intro piece member
    have listed : piece ∈ trim (split path.toList).2 := by
      rw [parts]
      exact List.mem_append_left _ ((trim_prefix_self before).subset member)
    exact notMem_of_mem_split ((trim_prefix_self _).subset listed)
  refine ⟨String.ofList (unsplit (split path.toList).1 (trim before)), ?_, ?_⟩
  · unfold parent?
    dsimp only
    rw [parts]
    split
    next empty _ => exact absurd empty (by simp)
    next empty _ => exact absurd empty (by simp)
    next => rw [List.dropLast_concat]
  · rw [whole, location_of_getLast? parts solid inner, location_unsplit _ plain, foldl_step_trim]

end Path

end ComponentSchema
