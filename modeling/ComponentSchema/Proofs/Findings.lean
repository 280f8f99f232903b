import Mathlib
import ComponentSchema.Findings

/-!
Collected findings.  Filing and merging lose no message and make none up, wherever routes coincide, so
sizes add up; and a check passes exactly if nothing was filed.

A tree of findings is settled by its messages and by what is found below each route.  Merging puts the
messages of the second behind those of the first at every place, also where a place has none, so findings
are a monoid.
-/

namespace ComponentSchema

variable {α ι : Type}

namespace Branches

/-- The findings of a route. -/
def find? : {lower : Option String} → Branches α lower → String → Option (Findings α)
  | _, .nil, _ => none
  | _, .cons other _ below rest, route => if route = other then some below else rest.find? route

theorem ne_of_compare {first second : String} {order : Ordering}
    (compared : compare first second = order) (apart : order ≠ .eq) : first ≠ second := by
  rintro rfl
  exact apart (compared.symm.trans Std.ReflOrd.compare_self)

/-- No route stands at its lower bound or before it. -/
theorem find?_eq_none {bound route : String} (reached : compare bound route ≠ .lt) :
    (branches : Branches α (some bound)) → branches.find? route = none
  | .nil => rfl
  | .cons other above below rest => by
    have before : compare bound other = .lt := above bound rfl
    have elsewhere : route ≠ other := by
      intro same
      rw [same] at reached
      exact reached before
    have behind : compare other route ≠ .lt := fun later =>
      reached (Std.TransCmp.lt_trans before later)
    rw [find?, if_neg elsewhere]
    exact find?_eq_none behind rest

theorem find?_self {route : String} (rest : Branches α (some route)) : rest.find? route = none := by
  apply find?_eq_none
  rw [Std.ReflOrd.compare_self]
  decide

theorem find?_of_lt {lower : Option String} {first route : String}
    {above : ∀ bound ∈ lower, compare bound first = .lt} {below : Findings α}
    {rest : Branches α (some first)} (less : compare route first = .lt) :
    (Branches.cons first above below rest).find? route = none := by
  have behind : compare first route ≠ .lt := by
    rw [Std.OrientedCmp.gt_of_lt less]
    decide
  rw [find?, if_neg (ne_of_compare less (by decide)), find?_eq_none behind]

theorem ext_find? : {lower : Option String} → (first second : Branches α lower) →
    (∀ route, first.find? route = second.find? route) → first = second
  | _, .nil, .nil, _ => rfl
  | _, .nil, .cons route _ below rest, same => by
    have found := same route
    rw [find?, find?, if_pos rfl] at found
    cases found
  | _, .cons route _ below rest, .nil, same => by
    have found := same route
    rw [find?, find?, if_pos rfl] at found
    cases found
  | _, .cons route above below rest, .cons other aboveOther belowOther restOther, same => by
    have routes : route = other := by
      by_contra different
      have found := same route
      have foundOther := same other
      rw [find?, find?, if_pos rfl, if_neg different] at found
      rw [find?, find?, if_pos rfl, if_neg (Ne.symm different)] at foundOther
      -- each route would stand among the branches behind the other
      have before : compare other route = .lt := by
        by_contra reached
        rw [find?_eq_none reached] at found
        cases found
      have behind : compare route other = .lt := by
        by_contra reached
        rw [find?_eq_none reached] at foundOther
        cases foundOther
      rw [Std.OrientedCmp.gt_of_lt before] at behind
      cases behind
    subst routes
    have here := same route
    rw [find?, find?, if_pos rfl, if_pos rfl] at here
    have later : rest = restOther := by
      apply ext_find?
      intro step
      by_cases first : step = route
      · rw [first, find?_self, find?_self]
      · have found := same step
        rw [find?, find?, if_neg first, if_neg first] at found
        exact found
    rw [Option.some.inj here, later]

theorem find?_update (route other : String) (change : Findings α → Findings α) :
    {lower : Option String} → (above : ∀ bound ∈ lower, compare bound route = .lt) →
      (branches : Branches α lower) →
      (branches.update route change above).find? other =
        if other = route then some (change ((branches.find? route).getD ∅)) else branches.find? other
  | _, _, .nil => rfl
  | _, _, .cons first aboveFirst below rest => by
    unfold update
    split
    next less =>
      rw [find?_of_lt less]
      rfl
    next equal =>
      obtain rfl : route = first := Std.LawfulEqOrd.eq_of_compare equal
      rw [find?, find?, find?, if_pos rfl]
      by_cases here : other = route
      · rw [if_pos here, if_pos here]
        rfl
      · rw [if_neg here, if_neg here, if_neg here]
    next greater =>
      have elsewhere : route ≠ first := ne_of_compare greater (by decide)
      rw [find?, find?, find?, if_neg elsewhere, find?_update route other change _ rest]
      by_cases here : other = first
      · rw [if_pos here, if_neg (here ▸ Ne.symm elsewhere), if_pos here]
      · rw [if_neg here, if_neg here]

end Branches

namespace Findings

/-- What is found below a route, where anything was filed or merged there. -/
def below? (findings : Findings α) (route : String) : Option (Findings α) :=
  findings.branches.find? route

theorem ext_below? {first second : Findings α} (alike : first.messages = second.messages)
    (below : ∀ route, first.below? route = second.below? route) : first = second := by
  obtain ⟨messages, branches⟩ := first
  obtain ⟨messages', branches'⟩ := second
  obtain rfl : messages = messages' := alike
  rw [Branches.ext_find? branches branches' below]

theorem messages_within (findings : Findings α) (route : String) (change : Findings α → Findings α) :
    (findings.within route change).messages = findings.messages := by
  cases findings
  rfl

theorem below?_within (findings : Findings α) (route other : String)
    (change : Findings α → Findings α) :
    (findings.within route change).below? other =
      if other = route then some (change ((findings.below? route).getD ∅))
      else findings.below? other := by
  cases findings
  exact Branches.find?_update route other change _ _

theorem within_within (findings : Findings α) (route : String)
    (first second : Findings α → Findings α) :
    (findings.within route first).within route second =
      findings.within route fun below => second (first below) := by
  apply ext_below?
  · rw [messages_within, messages_within, messages_within]
  · intro other
    rw [below?_within, below?_within, below?_within, below?_within, if_pos rfl]
    by_cases here : other = route
    · rw [if_pos here, if_pos here, Option.getD_some]
    · rw [if_neg here, if_neg here, if_neg here]

mutual

/-- What holds of a tree as soon as it holds of everything below its routes holds of every tree. -/
theorem induct_below {P : Findings α → Prop}
    (step : ∀ findings : Findings α,
      (∀ route below, findings.below? route = some below → P below) → P findings) :
    (findings : Findings α) → P findings
  | .node messages branches => step (.node messages branches) (induct_branches step branches)

theorem induct_branches {P : Findings α → Prop}
    (step : ∀ findings : Findings α,
      (∀ route below, findings.below? route = some below → P below) → P findings) :
    {lower : Option String} → (branches : Branches α lower) →
      ∀ route below, branches.find? route = some below → P below
  | _, .nil => by
    intro route below found
    cases found
  | _, .cons other _ below rest => by
    intro route found stored
    rw [Branches.find?] at stored
    by_cases here : route = other
    · rw [if_pos here, Option.some.injEq] at stored
      rw [← stored]
      exact induct_below step below
    · rw [if_neg here] at stored
      exact induct_branches step rest route found stored

end

section Merging

theorem messages_mergeBranches : {lower : Option String} → (branches : Branches α lower) →
    (findings : Findings α) → (findings.mergeBranches branches).messages = findings.messages
  | _, .nil, _ => by rw [mergeBranches]
  | _, .cons route _ below rest, findings => by
    rw [mergeBranches, messages_mergeBranches rest, messages_within]

theorem messages_merge (findings others : Findings α) :
    (findings.merge others).messages = findings.messages ++ others.messages := by
  obtain ⟨messages, branches⟩ := others
  rw [merge, messages_mergeBranches]
  rfl

/-- Branches are merged into what is found below their routes, and leave all else as it is. -/
theorem below?_mergeBranches : {lower : Option String} → (branches : Branches α lower) →
    (findings : Findings α) → (route : String) →
    (findings.mergeBranches branches).below? route =
      match branches.find? route with
      | none => findings.below? route
      | some below => some (((findings.below? route).getD ∅).merge below)
  | _, .nil, _, _ => by
    rw [mergeBranches]
    rfl
  | _, .cons first _ below rest, findings, route => by
    rw [mergeBranches, below?_mergeBranches rest, below?_within, Branches.find?]
    by_cases here : route = first
    · subst here
      rw [Branches.find?_self, if_pos rfl, if_pos rfl]
    · rw [if_neg here, if_neg here]

theorem below?_merge (findings others : Findings α) (route : String) :
    (findings.merge others).below? route =
      match others.below? route with
      | none => findings.below? route
      | some below => some (((findings.below? route).getD ∅).merge below) := by
  obtain ⟨messages, branches⟩ := others
  rw [merge, below?_mergeBranches]
  rfl

theorem merge_empty (findings : Findings α) : findings.merge ∅ = findings := by
  apply ext_below?
  · rw [messages_merge]
    exact List.append_nil _
  · intro route
    rw [below?_merge]
    rfl

theorem empty_merge (findings : Findings α) : (∅ : Findings α).merge findings = findings := by
  apply induct_below _ findings
  intro findings ih
  apply ext_below?
  · rw [messages_merge]
    rfl
  · intro route
    rw [below?_merge]
    cases found : findings.below? route with
    | none => rfl
    | some below => exact congrArg some (ih route below found)

theorem merge_assoc (first second third : Findings α) :
    (first.merge second).merge third = first.merge (second.merge third) := by
  apply induct_below (P := fun third => ∀ first second : Findings α,
    (first.merge second).merge third = first.merge (second.merge third)) _ third
  intro third ih first second
  apply ext_below?
  · simp only [messages_merge, List.append_assoc]
  · intro route
    simp only [below?_merge]
    cases found : third.below? route with
    | none => rfl
    | some below =>
      cases second.below? route with
      | none =>
        apply congrArg some
        rw [Option.getD_none, empty_merge]
      | some between => exact congrArg some (ih route below found _ between)

end Merging

/-- The messages of a route, in the order they were filed in. -/
def messagesAt (findings : Findings α) : List String → List α
  | [] => findings.messages
  | step :: route => ((findings.below? step).getD ∅).messagesAt route

theorem messagesAt_empty (route : List String) : (∅ : Findings α).messagesAt route = [] := by
  induction route with
  | nil => rfl
  | cons step rest ih => exact ih

theorem messagesAt_merge (findings others : Findings α) (route : List String) :
    (findings.merge others).messagesAt route =
      findings.messagesAt route ++ others.messagesAt route := by
  induction route generalizing findings others with
  | nil => exact messages_merge findings others
  | cons step rest ih =>
    rw [messagesAt, messagesAt, messagesAt, below?_merge]
    cases others.below? step with
    | none =>
      rw [Option.getD_none, messagesAt_empty, List.append_nil]
    | some below => exact ih _ below

section Listing

mutual

/-- Every message with its route, the messages of a place before those below it. -/
def routed : Findings α → List (List String × α)
  | .node messages branches =>
    messages.map (fun message => ([], message)) ++ routedBranches branches

def routedBranches : {lower : Option String} → Branches α lower → List (List String × α)
  | _, .nil => []
  | _, .cons route _ below rest =>
    below.routed.map (fun finding => (route :: finding.1, finding.2)) ++ routedBranches rest

end

def routeText (route : List String) : String := " > ".intercalate route

/-- The text of a route that starts at a place. -/
def textFrom (place : Option String) (route : List String) : String :=
  (route.foldl (fun place step => some (nested place step)) place).getD ""

theorem textFrom_none (route : List String) : textFrom none route = routeText route := by
  have continued (place : String) (rest : List String) :
      textFrom (some place) rest = " > ".intercalate (place :: rest) := by
    induction rest generalizing place with
    | nil => rw [String.intercalate_singleton, textFrom, List.foldl_nil, Option.getD_some]
    | cons step rest ih =>
      rw [String.intercalate_cons_cons, ← String.intercalate_cons_append]
      exact ih _
  cases route with
  | nil => rw [routeText, String.intercalate_nil, textFrom, List.foldl_nil, Option.getD_none]
  | cons step rest => exact continued step rest

mutual

theorem flattenFrom_eq (place : Option String) : (findings : Findings α) →
    findings.flattenFrom place =
      findings.routed.map fun finding => (textFrom place finding.1, finding.2)
  | .node messages branches => by
    rw [flattenFrom, routed, List.map_append, List.map_map, flattenBranches_eq place branches]
    rfl

theorem flattenBranches_eq (place : Option String) : {lower : Option String} →
    (branches : Branches α lower) →
    flattenBranches place branches =
      (routedBranches branches).map fun finding => (textFrom place finding.1, finding.2)
  | _, .nil => rfl
  | _, .cons route _ below rest => by
    rw [flattenBranches, routedBranches, List.map_append, List.map_map, flattenBranches_eq place rest,
      flattenFrom_eq (some (nested place route)) below]
    rfl

end

/-- Flattening lists every message with the text of its route. -/
theorem flatten_eq (findings : Findings α) :
    findings.flatten = findings.routed.map fun finding => (routeText finding.1, finding.2) := by
  unfold flatten
  rw [flattenFrom_eq]
  simp only [textFrom_none]

theorem filter_routedBranches_nil : {lower : Option String} → (branches : Branches α lower) →
    (routedBranches branches).filter (fun finding => finding.1 = []) = []
  | _, .nil => rfl
  | _, .cons route _ below rest => by
    rw [routedBranches, List.filter_append, filter_routedBranches_nil rest, List.filter_map]
    simp [Function.comp_def]

theorem filter_routedBranches_cons (step : String) (route : List String) :
    {lower : Option String} → (branches : Branches α lower) →
    (routedBranches branches).filter (fun finding => finding.1 = step :: route) =
      (((branches.find? step).getD ∅).routed.filter fun finding => finding.1 = route).map
        fun finding => (step :: finding.1, finding.2)
  | _, .nil => rfl
  | _, .cons first _ below rest => by
    rw [routedBranches, List.filter_append, filter_routedBranches_cons step route rest,
      Branches.find?, List.filter_map]
    by_cases here : step = first
    · subst here
      rw [if_pos rfl, Branches.find?_self]
      simp [Function.comp_def, routed, routedBranches, EmptyCollection.emptyCollection, empty]
    · rw [if_neg here]
      simp [Function.comp_def, Ne.symm here]

/-- The list of all findings has the messages of each route, in their order. -/
theorem filter_routed (findings : Findings α) (route : List String) :
    (findings.routed.filter fun finding => finding.1 = route) =
      (findings.messagesAt route).map fun message => (route, message) := by
  induction route generalizing findings with
  | nil =>
    obtain ⟨messages, branches⟩ := findings
    rw [routed, List.filter_append, filter_routedBranches_nil, List.append_nil, List.filter_map]
    simp [Function.comp_def, messagesAt, Findings.messages]
  | cons step rest ih =>
    obtain ⟨messages, branches⟩ := findings
    have elsewhere : (messages.map fun message => (([] : List String), message)).filter
        (fun finding => finding.1 = step :: rest) = [] := by
      simp [List.filter_map, Function.comp_def]
    rw [routed, List.filter_append, elsewhere, List.nil_append, filter_routedBranches_cons, ih,
      List.map_map]
    rfl

mutual

theorem size_eq_length_routed : (findings : Findings α) → findings.size = findings.routed.length
  | .node messages branches => by
    rw [size, routed, List.length_append, List.length_map, branchesSize_eq branches]

theorem branchesSize_eq : {lower : Option String} → (branches : Branches α lower) →
    branchesSize branches = (routedBranches branches).length
  | _, .nil => rfl
  | _, .cons route _ below rest => by
    rw [branchesSize, routedBranches, List.length_append, List.length_map,
      size_eq_length_routed below, branchesSize_eq rest]

end

mutual

theorem isEmpty_iff_size_eq_zero : {findings : Findings α} →
    (findings.isEmpty = true ↔ findings.size = 0)
  | .node messages branches => by
    rw [isEmpty, size, Bool.and_eq_true, List.isEmpty_iff, Nat.add_eq_zero_iff,
      List.length_eq_zero_iff, branchesEmpty_iff branches]

theorem branchesEmpty_iff : {lower : Option String} → (branches : Branches α lower) →
    (branchesEmpty branches = true ↔ branchesSize branches = 0)
  | _, .nil => by rw [branchesEmpty, branchesSize, eq_self, eq_self]
  | _, .cons route _ below rest => by
    rw [branchesEmpty, branchesSize, Bool.and_eq_true, Nat.add_eq_zero_iff,
      isEmpty_iff_size_eq_zero, branchesEmpty_iff rest]

end

theorem size_eq_length_flatten (findings : Findings α) :
    findings.size = findings.flatten.length := by
  rw [flatten_eq, List.length_map, size_eq_length_routed]

theorem isEmpty_iff_flatten_eq_nil {findings : Findings α} :
    findings.isEmpty = true ↔ findings.flatten = [] := by
  rw [isEmpty_iff_size_eq_zero, size_eq_length_flatten, List.length_eq_zero_iff]

end Listing

section Counting

theorem size_empty : (∅ : Findings α).size = 0 := rfl

/-- What the branches count after the findings of one route were changed, and what they counted before. -/
theorem branchesSize_update (route : String) (change : Findings α → Findings α) :
    {lower : Option String} → (above : ∀ bound ∈ lower, compare bound route = .lt) →
      (branches : Branches α lower) →
      branchesSize (branches.update route change above) +
          ((branches.find? route).getD ∅).size =
        branchesSize branches + (change ((branches.find? route).getD ∅)).size
  | _, _, .nil => by
    rw [Branches.update, branchesSize, branchesSize, branchesSize, Branches.find?, Option.getD_none,
      size_empty]
    omega
  | _, _, .cons first aboveFirst below rest => by
    unfold Branches.update
    split
    next less =>
      rw [Branches.find?_of_lt less, Option.getD_none, size_empty, branchesSize, branchesSize,
        branchesSize]
      omega
    next equal =>
      obtain rfl : route = first := Std.LawfulEqOrd.eq_of_compare equal
      rw [Branches.find?, if_pos rfl, Option.getD_some, branchesSize, branchesSize]
      omega
    next greater =>
      have elsewhere : route ≠ first := Branches.ne_of_compare greater (by decide)
      have counted := branchesSize_update route change
        (fun _ same => Option.some.inj same ▸ Std.OrientedCmp.lt_of_gt greater) rest
      rw [Branches.find?, if_neg elsewhere, branchesSize, branchesSize]
      omega

theorem size_within (findings : Findings α) (route : String) (change : Findings α → Findings α) :
    (findings.within route change).size + ((findings.below? route).getD ∅).size =
      findings.size + (change ((findings.below? route).getD ∅)).size := by
  obtain ⟨messages, branches⟩ := findings
  have first : ∀ bound ∈ (none : Option String), compare bound route = .lt := by
    intro bound absent
    cases absent
  have counted := branchesSize_update route change first branches
  change messages.length + branchesSize (branches.update route change _) +
    ((branches.find? route).getD ∅).size =
      messages.length + branchesSize branches + (change ((branches.find? route).getD ∅)).size
  omega

mutual

theorem size_merge (findings : Findings α) : (others : Findings α) →
    (findings.merge others).size = findings.size + others.size
  | .node messages branches => by
    obtain ⟨earlier, known⟩ := findings
    rw [merge, size_mergeBranches, size, size, size, Findings.messages, Findings.branches,
      List.length_append]
    omega

theorem size_mergeBranches (findings : Findings α) : {lower : Option String} →
    (branches : Branches α lower) →
    (findings.mergeBranches branches).size = findings.size + branchesSize branches
  | _, .nil => by rw [mergeBranches, branchesSize, Nat.add_zero]
  | _, .cons route _ below rest => by
    have counted := size_within findings route fun found => found.merge below
    rw [size_merge _ below] at counted
    rw [mergeBranches, size_mergeBranches _ rest, branchesSize]
    omega

end

theorem size_add (findings : Findings α) (message : α) :
    (findings.add message).size = findings.size + 1 := by
  obtain ⟨messages, branches⟩ := findings
  rw [add, size, size, List.length_append, List.length_singleton]
  omega

theorem size_addFor (findings : Findings α) (route : String) (message : α) :
    (findings.addFor route message).size = findings.size + 1 := by
  have counted := size_within findings route fun below => below.add message
  rw [size_add] at counted
  unfold addFor
  omega

/-- A walk that files one message for each item counts the items. -/
theorem size_foldl_file (file : Findings α → ι → Findings α)
    (counts : ∀ findings item, (file findings item).size = findings.size + 1) (items : List ι)
    (findings : Findings α) :
    (items.foldl file findings).size = findings.size + items.length := by
  induction items generalizing findings with
  | nil => rfl
  | cons first rest ih =>
    rw [List.foldl_cons, ih, counts, List.length_cons]
    omega

theorem size_foldl_add (messages : List α) (findings : Findings α) :
    (messages.foldl add findings).size = findings.size + messages.length :=
  size_foldl_file add size_add messages findings

theorem size_foldl_addFor (faults : List (String × α)) (findings : Findings α) :
    (faults.foldl (fun findings fault => findings.addFor fault.1 fault.2) findings).size =
      findings.size + faults.length :=
  size_foldl_file _ (fun findings fault => size_addFor findings fault.1 fault.2) faults findings

theorem size_foldl_merge (each : ι → Findings α) (items : List ι) (findings : Findings α) :
    (items.foldl (fun merged item => merged.merge (each item)) findings).size =
      findings.size + (items.map fun item => (each item).size).sum := by
  induction items generalizing findings with
  | nil => rfl
  | cons first rest ih =>
    rw [List.foldl_cons, ih, size_merge, List.map_cons, List.sum_cons]
    omega

end Counting

section Routes

variable (findings : Findings α) (route : String)

/-- Messages of one place, filed below a route. -/
def file (messages : List α) : Findings α := findings.mergeFor route (messages.foldl add ∅)

theorem foldl_add (messages : List α) : messages.foldl add (∅ : Findings α) = .node messages .nil := by
  have filed (earlier : List α) : messages.foldl add (.node earlier .nil : Findings α) =
      .node (earlier ++ messages) .nil := by
    induction messages generalizing earlier with
    | nil => rw [List.append_nil, List.foldl_nil]
    | cons message rest ih =>
      rw [List.foldl_cons, add, ih, List.append_assoc, List.singleton_append]
  exact filed []

theorem file_nil : findings.file route [] = findings := rfl

theorem file_of_ne_nil {messages : List α} (filed : messages ≠ []) :
    findings.file route messages =
      findings.within route fun below => below.merge (.node messages .nil) := by
  obtain ⟨first, rest, rfl⟩ := List.exists_cons_of_ne_nil filed
  unfold file mergeFor
  rw [foldl_add]
  rfl

theorem file_append (first second : List α) :
    (findings.file route first).file route second = findings.file route (first ++ second) := by
  by_cases early : first = []
  · rw [early, file_nil, List.nil_append]
  · by_cases late : second = []
    · rw [late, file_nil, List.append_nil]
    · have both : first ++ second ≠ [] := List.append_ne_nil_of_left_ne_nil early second
      have joined : (.node first .nil : Findings α).merge (.node second .nil) =
          .node (first ++ second) .nil := rfl
      rw [file_of_ne_nil _ _ early, file_of_ne_nil _ _ late, file_of_ne_nil _ _ both, within_within]
      simp only [merge_assoc, joined]

/-- Merging what was filed below a route files it there. -/
theorem merge_file (messages : List α) :
    findings.merge ((∅ : Findings α).file route messages) = findings.file route messages := by
  by_cases nothing : messages = []
  · rw [nothing, file_nil, file_nil, merge_empty]
  · have alone : (∅ : Findings α).merge (.node messages .nil) = .node messages .nil := empty_merge _
    obtain ⟨earlier, branches⟩ := findings
    rw [file_of_ne_nil _ _ nothing, file_of_ne_nil _ _ nothing]
    apply ext_below?
    · rw [messages_merge, messages_within, messages_within]
      exact List.append_nil _
    · intro other
      rw [below?_merge, below?_within, below?_within]
      by_cases here : other = route
      · subst here
        rw [if_pos rfl, if_pos rfl]
        exact congrArg (fun below => some (Findings.merge _ below)) alone
      · rw [if_neg here, if_neg here]
        rfl

theorem size_file (messages : List α) :
    (findings.file route messages).size = findings.size + messages.length := by
  by_cases nothing : messages = []
  · rw [nothing, file_nil]
    rfl
  · have counted := size_within findings route fun below => below.merge (.node messages .nil)
    have own : (.node messages .nil : Findings α).size = messages.length := by
      rw [size, branchesSize, Nat.add_zero]
    rw [size_merge, own] at counted
    rw [file_of_ne_nil _ _ nothing]
    omega

theorem messagesAt_of_isEmpty {findings : Findings α} (empty : findings.isEmpty = true)
    (route : List String) : findings.messagesAt route = [] := by
  have listed := filter_routed findings route
  have nothing : findings.routed = [] := by
    rw [← List.length_eq_zero_iff, ← size_eq_length_routed]
    exact isEmpty_iff_size_eq_zero.1 empty
  rw [nothing, List.filter_nil] at listed
  exact List.map_eq_nil_iff.1 listed.symm

theorem messagesAt_mergeFor (others : Findings α) (rest : List String) :
    (findings.mergeFor route others).messagesAt (route :: rest) =
      findings.messagesAt (route :: rest) ++ others.messagesAt rest := by
  by_cases empty : others.isEmpty = true
  · rw [mergeFor, if_pos empty, messagesAt_of_isEmpty empty, List.append_nil]
  · rw [mergeFor, if_neg empty, messagesAt, below?_within, if_pos rfl, Option.getD_some,
      messagesAt_merge, messagesAt]

theorem messagesAt_mergeFor_of_head? (others : Findings α) {place : List String}
    (elsewhere : place.head? ≠ some route) :
    (findings.mergeFor route others).messagesAt place = findings.messagesAt place := by
  unfold mergeFor
  split
  · rfl
  · cases place with
    | nil => exact messages_within findings route _
    | cons step rest =>
      have other : step ≠ route := fun same => elsewhere (congrArg some same)
      rw [messagesAt, messagesAt, below?_within, if_neg other]

end Routes

theorem conclude_eq_ok_iff {findings : Findings α} :
    findings.conclude = .ok () ↔ findings.isEmpty = true := by
  unfold conclude
  split
  next empty => simp [empty]
  next filed => simp [filed]

/-- A check that fails hands over what was filed, and something was. -/
theorem conclude_eq_error_iff {findings reported : Findings α} :
    findings.conclude = .error reported ↔ findings.size ≠ 0 ∧ reported = findings := by
  unfold conclude
  split
  next empty =>
    have nothing := isEmpty_iff_size_eq_zero.1 empty
    simp [nothing]
  next filed =>
    have something : findings.size ≠ 0 := fun nothing => filed (isEmpty_iff_size_eq_zero.2 nothing)
    rw [Except.error.injEq, and_iff_right something]
    exact eq_comm

/-- There is a report exactly if the check fails. -/
theorem failure?_eq_none_iff {findings : Findings α} {wording : α → String} :
    findings.failure? wording = none ↔ findings.conclude = .ok () := by
  rw [conclude_eq_ok_iff]
  unfold failure?
  split
  next empty => simp [empty]
  next filed => simp [filed]

/-- Findings are a monoid under merging, and no message is lost or made up on the way: each is at its route
behind those that were there, also below a step that another collection is filed under.  Counting the
messages, asking whether there are any and listing them with the texts of their routes are of one mind. -/
theorem merge_keepsMessages (first second third : Findings α) (step : String) :
    (first.merge second).merge third = first.merge (second.merge third) ∧
      first.merge ∅ = first ∧ (∅ : Findings α).merge first = first ∧
      (∀ route, (first.merge second).messagesAt route =
        first.messagesAt route ++ second.messagesAt route) ∧
      (∀ route, (first.mergeFor step second).messagesAt (step :: route) =
        first.messagesAt (step :: route) ++ second.messagesAt route) ∧
      (∀ route, route.head? ≠ some step →
        (first.mergeFor step second).messagesAt route = first.messagesAt route) ∧
      (second.isEmpty = true → first.mergeFor step second = first) ∧
      (first.merge second).size = first.size + second.size ∧
      first.flatten = (first.routed.map fun finding => (routeText finding.1, finding.2)) ∧
      (∀ route, (first.routed.filter fun finding => finding.1 = route) =
        (first.messagesAt route).map fun message => (route, message)) ∧
      first.size = first.flatten.length ∧
      (first.isEmpty = true ↔ first.flatten = []) ∧
      (first.conclude = .ok () ↔ first.flatten = []) ∧
      (first.flatten ≠ [] → first.conclude = .error first) := by
  have concluded : first.conclude = .ok () ↔ first.flatten = [] :=
    conclude_eq_ok_iff.trans isEmpty_iff_flatten_eq_nil
  refine ⟨merge_assoc first second third, merge_empty first, empty_merge first,
    messagesAt_merge first second, messagesAt_mergeFor first step second,
    fun _ => messagesAt_mergeFor_of_head? first step second, fun empty => if_pos empty,
    size_merge first second, flatten_eq first, filter_routed first, size_eq_length_flatten first,
    isEmpty_iff_flatten_eq_nil, concluded, ?_⟩
  intro filed
  rw [conclude_eq_error_iff, size_eq_length_flatten]
  exact ⟨fun nothing => filed (List.length_eq_zero_iff.1 nothing), rfl⟩

/-- Two routes without messages, one beneath the other. -/
def hollow : Findings String := (∅ : Findings String).within "Mesh" fun below => below.within "Skin" id

theorem merge_keepsMessages_hollow :
    hollow ≠ ∅ ∧ hollow.isEmpty = true ∧ (∅ : Findings String).mergeFor "/A.Door" hollow = ∅ ∧
      hollow.merge ((hollow.addFor "Mesh" "no name").merge hollow) =
        (hollow.merge (hollow.addFor "Mesh" "no name")).merge hollow := by
  have empty : hollow.isEmpty = true := by decide
  have different : hollow ≠ ∅ := fun same =>
    Option.some_ne_none _ (congrArg (fun findings => findings.below? "Mesh") same)
  obtain ⟨-, -, -, -, -, -, traceless, -⟩ := merge_keepsMessages ∅ hollow ∅ "/A.Door"
  obtain ⟨associative, -⟩ :=
    merge_keepsMessages hollow (hollow.addFor "Mesh" "no name") hollow "/A.Door"
  exact ⟨different, empty, traceless empty, associative.symm⟩

example :
    (((∅ : Findings String).add "no class").mergeFor "/A.Door"
      (hollow.addFor "Mesh" "no name")).flatten =
      [("", "no class"), ("/A.Door > Mesh", "no name")] := by
  decide

end Findings

end ComponentSchema
