import Mathlib
import ComponentSchema.Support

/-!
The classes that are skipped for the directories that never ship.  A directory is compared with a path as
text, so a class below a listed directory is always skipped, but so is one whose path only begins like it.
Where no path strays in that way, what is skipped is what lies in a listed directory.
-/

namespace ComponentSchema.Support

def Begins (path directory : String) : Prop := directory.toList <+: path.toList

instance (path directory : String) : Decidable (Begins path directory) :=
  inferInstanceAs (Decidable (_ <+: _))

/-- A path lies under a directory: there is a separator where the name of the directory ends, behind it or
as its last character. -/
def LiesUnder (path directory : String) : Prop :=
  Begins path (directory ++ "/") ∨ directory.toList.getLast? = some '/' ∧ Begins path directory

instance (path directory : String) : Decidable (LiesUnder path directory) :=
  inferInstanceAs (Decidable (_ ∨ _ ∧ _))

/-- A path merely begins like a directory: where the name of the directory ends, which is not at a
separator, the path ends too or goes on with the same segment. -/
def Strays (path directory : String) : Prop :=
  directory.toList.getLast? ≠ some '/' ∧
    ∃ rest, path.toList = directory.toList ++ rest ∧ rest.head? ≠ some '/'

def IsFirst (holds : String → Prop) (directories : List String) (directory : String) : Prop :=
  holds directory ∧ ∃ before after, directories = before ++ directory :: after ∧
    ∀ other ∈ before, ¬holds other

/-- A node is skipped for the first listed directory that it lies under, and only for such a one. -/
def KeepsToDirectories (neverCookDirs : List String) (node : Node) : Prop :=
  (∀ directory, skipReason? neverCookDirs node = some (.neverCooked directory) →
    IsFirst (LiesUnder node.path) neverCookDirs directory) ∧
  ((∀ directory ∈ neverCookDirs, ¬LiesUnder node.path directory) →
    skipReason? neverCookDirs node = none)

variable {neverCookDirs : List String} {node : Node} {path directory : String}

theorem LiesUnder.begins (under : LiesUnder path directory) : Begins path directory := by
  rcases under with behind | ⟨-, begins⟩
  · unfold Begins at behind
    rw [String.toList_append] at behind
    exact (List.prefix_append _ _).trans behind
  · exact begins

theorem liesUnder_iff_not_strays (begins : Begins path directory) :
    LiesUnder path directory ↔ ¬Strays path directory := by
  obtain ⟨rest, same⟩ := begins
  have behind : Begins path (directory ++ "/") ↔ rest.head? = some '/' := by
    unfold Begins
    rw [String.toList_append, ← same, List.prefix_append_right_inj]
    exact List.singleton_prefix_iff_head?_eq_some
  have only : (∃ other, path.toList = directory.toList ++ other ∧ other.head? ≠ some '/') ↔
      rest.head? ≠ some '/' := by
    simp only [← same, List.append_cancel_left_eq, exists_eq_left']
  unfold LiesUnder Strays
  rw [behind, only, not_and_or, not_not, not_not, or_comm]
  exact or_congr_left (and_iff_left ⟨rest, same⟩)

theorem beginsWith_iff : beginsWith path directory = true ↔ Begins path directory :=
  List.isPrefixOf_iff_prefix

namespace IsFirst

variable {holds weaker : String → Prop}

theorem mem (first : IsFirst holds neverCookDirs directory) : directory ∈ neverCookDirs := by
  obtain ⟨-, before, after, rfl, -⟩ := first
  exact List.mem_append_right _ List.mem_cons_self

/-- What is first of more is first of fewer, as long as it is one of these. -/
theorem mono (first : IsFirst weaker neverCookDirs directory)
    (implies : ∀ directory, holds directory → weaker directory) (meets : holds directory) :
    IsFirst holds neverCookDirs directory := by
  obtain ⟨-, before, after, listed, none⟩ := first
  exact ⟨meets, before, after, listed, fun one member => none one member ∘ implies one⟩

end IsFirst

/-- The directories come behind all other rules. -/
theorem skipReason?_eq_or (neverCookDirs : List String) (node : Node) :
    skipReason? neverCookDirs node = (skipReason? [] node).or
      ((neverCookDirs.find? (beginsWith node.path)).map .neverCooked) := by
  unfold skipReason?
  cases node.classFlags? with
  | none => rfl
  | some flags =>
    dsimp only
    split_ifs <;> rfl

section

variable (passes : skipReason? [] node = none)

include passes

theorem skipReason?_eq_some_iff :
    skipReason? neverCookDirs node = some (.neverCooked directory) ↔
      IsFirst (Begins node.path) neverCookDirs directory := by
  rw [skipReason?_eq_or, passes, Option.none_or, Option.map_eq_some_iff]
  simp only [SkipReason.neverCooked.injEq, exists_eq_right, List.find?_eq_some_iff_append,
    beginsWith_iff, Bool.not_eq_true', ← Bool.not_eq_true, IsFirst]

theorem skipReason?_eq_none_iff :
    skipReason? neverCookDirs node = none ↔
      ∀ directory ∈ neverCookDirs, ¬Begins node.path directory := by
  rw [skipReason?_eq_or, passes, Option.none_or, Option.map_eq_none_iff, List.find?_eq_none]
  simp only [beginsWith_iff]

theorem exists_neverCooked (skipped : skipReason? neverCookDirs node ≠ none) :
    ∃ directory, skipReason? neverCookDirs node = some (.neverCooked directory) := by
  rw [skipReason?_eq_or, passes, Option.none_or, Ne, Option.map_eq_none_iff] at skipped
  obtain ⟨directory, found⟩ := Option.ne_none_iff_exists'.1 skipped
  rw [skipReason?_eq_or, passes, Option.none_or, found]
  exact ⟨directory, rfl⟩

theorem keepsToDirectories_iff :
    KeepsToDirectories neverCookDirs node ↔
      ∀ directory, IsFirst (Begins node.path) neverCookDirs directory →
        ¬Strays node.path directory := by
  -- entries behind the first match are never looked at, so it alone decides
  constructor
  · rintro ⟨keeps, -⟩ directory first
    have under := (keeps directory ((skipReason?_eq_some_iff passes).2 first)).1
    exact (liesUnder_iff_not_strays first.1).1 under
  · intro straight
    have bounded (directory : String) (first : IsFirst (Begins node.path) neverCookDirs directory) :
        LiesUnder node.path directory :=
      (liesUnder_iff_not_strays first.1).2 (straight directory first)
    constructor
    · intro directory skipped
      have first := (skipReason?_eq_some_iff passes).1 skipped
      exact first.mono (fun _ => LiesUnder.begins) (bounded directory first)
    · intro outside
      by_contra skipped
      obtain ⟨directory, skips⟩ := exists_neverCooked passes skipped
      have first := (skipReason?_eq_some_iff passes).1 skips
      exact outside directory first.mem (bounded directory first)

/-- A class that passes all other rules is skipped for the first listed directory whose text its path
begins with.  So all that lies in a listed directory is skipped; and it is skipped for the first directory
that it lies in, or not at all where it lies in none, exactly if it does not stray into that first one. -/
theorem skipReason?_tells :
    (∀ directory, skipReason? neverCookDirs node = some (.neverCooked directory) ↔
      IsFirst (Begins node.path) neverCookDirs directory) ∧
    (skipReason? neverCookDirs node = none ↔
      ∀ directory ∈ neverCookDirs, ¬Begins node.path directory) ∧
    ((∃ directory ∈ neverCookDirs, LiesUnder node.path directory) →
      ∃ directory, skipReason? neverCookDirs node = some (.neverCooked directory)) ∧
    (KeepsToDirectories neverCookDirs node ↔
      ∀ directory, IsFirst (Begins node.path) neverCookDirs directory →
        ¬Strays node.path directory) := by
  refine ⟨fun directory => skipReason?_eq_some_iff passes, skipReason?_eq_none_iff passes, ?_,
    keepsToDirectories_iff passes⟩
  rintro ⟨directory, listed, under⟩
  refine exists_neverCooked passes fun spared => ?_
  exact (skipReason?_eq_none_iff passes).1 spared directory listed under.begins

end

/-- A class in a directory beside a listed one. -/
def sibling : Node := .rootClass "/Game/Developer/T.T_C" "T_C"

theorem skipReason?_tells_sibling :
    skipReason? [] sibling = none ∧
      (∀ directory, skipReason? ["/Game/Dev"] sibling = some (.neverCooked directory) ↔
        IsFirst (Begins sibling.path) ["/Game/Dev"] directory) ∧
      (skipReason? ["/Game/Dev"] sibling = none ↔
        ∀ directory ∈ ["/Game/Dev"], ¬Begins sibling.path directory) ∧
      ((∃ directory ∈ ["/Game/Dev"], LiesUnder sibling.path directory) →
        ∃ directory, skipReason? ["/Game/Dev"] sibling = some (.neverCooked directory)) ∧
      (KeepsToDirectories ["/Game/Dev"] sibling ↔
        ∀ directory, IsFirst (Begins sibling.path) ["/Game/Dev"] directory →
          ¬Strays sibling.path directory) :=
  ⟨by decide, skipReason?_tells (by decide)⟩

/-- It is skipped all the same, unless the directory is listed with the separator. -/
example :
    ¬LiesUnder sibling.path "/Game/Dev" ∧
      skipReason? ["/Game/Dev"] sibling = some (.neverCooked "/Game/Dev") ∧
      skipReason? ["/Game/Dev/"] sibling = none := by
  decide

end ComponentSchema.Support
