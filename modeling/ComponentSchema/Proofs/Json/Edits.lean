import ComponentSchema.Proofs.Json.Values
import ComponentSchema.Proofs.Lists

/-!
Records as other tooling writes them.  Members that a reader does not know may stand anywhere, under
keys that are spelled in any way, and members may be missing.  Looking a known name up answers as
before, unless that member is missing.
-/

namespace ComponentSchema

namespace Json

/-- The members of a record after an edit.  Members under unknown names are added, those under the
names that are gone are left out, and the values of the others may change. -/
inductive Edits (known : List String) (changes : String → Json → Json → Prop) :
    List String → List (String × Json) → List (List Char × Json) → Prop
  | nil : Edits known changes [] [] []
  | added {gone : List String} {old : List (String × Json)} {new : List (List Char × Json)}
    {content : List Char} {name : String} {value : Json} (decodes : decodeContent? content = some name)
    (unknown : name ∉ known) (scans : IsContent content) (written : value.IsWritten)
    (others : Edits known changes gone old new) :
    Edits known changes gone old ((content, value) :: new)
  | omitted {gone : List String} {old : List (String × Json)} {new : List (List Char × Json)}
    {name : String} {value : Json} (others : Edits known changes gone old new) :
    Edits known changes (name :: gone) ((name, value) :: old) new
  | kept {gone : List String} {old : List (String × Json)} {new : List (List Char × Json)}
    {name : String} {value value' : Json} (changed : changes name value value')
    (others : Edits known changes gone old new) :
    Edits known changes gone ((name, value) :: old) ((escape name, value') :: new)

variable {known gone : List String} {changes : String → Json → Json → Prop}
  {old : List (String × Json)} {new : List (List Char × Json)}

theorem Edits.gone_subset (edits : Edits known changes gone old new) :
    gone ⊆ old.map Prod.fst := by
  induction edits with
  | nil => exact List.nil_subset _
  | added decodes unknown scans written others ih => exact ih
  | omitted others ih => exact List.cons_subset_cons _ ih
  | kept changed others ih => exact List.subset_cons_of_subset _ ih

theorem Edits.isWritten (edits : Edits known changes gone old new)
    (writes : ∀ {name value value'}, (name, value) ∈ old → changes name value value' →
      value'.IsWritten) : (Json.object new).IsWritten := by
  have each : ∀ member ∈ new, IsContent member.1 ∧ member.2.IsWritten := by
    induction edits with
    | nil => exact fun member none => (by cases none)
    | added decodes unknown scans written others ih =>
      exact List.forall_mem_cons.2 ⟨⟨scans, written⟩, ih writes⟩
    | omitted others ih => exact ih fun member => writes (List.mem_cons_of_mem _ member)
    | kept changed others ih =>
      refine List.forall_mem_cons.2 ⟨⟨isContent_escape _, writes List.mem_cons_self changed⟩, ?_⟩
      exact ih fun member => writes (List.mem_cons_of_mem _ member)
  exact .object (fun member listed => (each member listed).1)
    fun member listed => (each member listed).2

theorem asMembers?_cons {content : List Char} {name : String} {value : Json}
    {texts : List (String × Json)} (decodes : decodeContent? content = some name)
    (others : asMembers? (.object new) = some texts) :
    asMembers? (.object ((content, value) :: new)) = some ((name, value) :: texts) := by
  simp only [asMembers?] at others ⊢
  rw [List.mapM_cons, decodes, others]
  rfl

theorem member?_cons_ne {members : List (String × Json)} {other name : String} {value : Json}
    (different : other ≠ name) : member? ((other, value) :: members) name = member? members name := by
  unfold member?
  rw [List.filter_cons_of_neg (by simp [different])]

theorem member?_cons_self {members : List (String × Json)} {name : String} {value : Json}
    (absent : member? members name = some none) :
    member? ((name, value) :: members) name = some (some value) := by
  have alone : members.filter (fun member => member.1 == name) = [] := by
    unfold member? at absent
    split at absent
    next none => exact none
    next => cases absent
    next => cases absent
  unfold member?
  rw [List.filter_cons_of_pos (by simp), alone]

/-- What an edit leaves of the field of a name. -/
structure Leaves (changes : String → Json → Json → Prop) (gone : List String)
    (old : List (String × Json)) (name : String) (field : Option Json) : Prop where
  missing : name ∈ gone ∨ name ∉ old.map Prod.fst → field = none
  found : ∀ value, (name, value) ∈ old → name ∉ gone →
    ∃ value', changes name value value' ∧ field = some value'

section

variable {name here : String} {value value' : Json} {field : Option Json}

theorem Leaves.omit (leaves : Leaves changes gone old name field) (new : here ∉ old.map Prod.fst) :
    Leaves changes (here :: gone) ((here, value) :: old) name field where
  missing lacks := by
    refine leaves.missing ?_
    simp only [List.mem_cons, List.map_cons, not_or] at lacks
    rcases lacks with (rfl | lost) | ⟨-, absent⟩
    · exact .inr new
    · exact .inl lost
    · exact .inr absent
  found value' listed kept := by
    rw [List.mem_cons, not_or] at kept
    rcases List.mem_cons.1 listed with same | inside
    · exact absurd (Prod.mk.inj same).1 kept.1
    · exact leaves.found value' inside kept.2

theorem Leaves.keep (new : name ∉ old.map Prod.fst) (kept : name ∉ gone)
    (changed : changes name value value') :
    Leaves changes gone ((name, value) :: old) name (some value') where
  missing lacks := by
    rcases lacks with lost | absent
    · exact absurd lost kept
    · exact absurd List.mem_cons_self absent
  found other listed _ := by
    rcases List.mem_cons.1 listed with same | inside
    · cases same
      exact ⟨value', changed, rfl⟩
    · exact absurd (List.mem_map_of_mem inside) new

theorem Leaves.keep_other (leaves : Leaves changes gone old name field) (different : here ≠ name) :
    Leaves changes gone ((here, value) :: old) name field where
  missing lacks :=
    leaves.missing (lacks.imp_right fun out inside => out (List.mem_cons_of_mem _ inside))
  found value' listed kept := by
    rcases List.mem_cons.1 listed with same | inside
    · exact absurd (Prod.mk.inj same).1.symm different
    · exact leaves.found value' inside kept

end

/-- Whoever looks a known name up in an edited record finds what the edit leaves there. -/
theorem Edits.exists_texts (edits : Edits known changes gone old new)
    (once : (old.map Prod.fst).Nodup) :
    ∃ texts, asMembers? (.object new) = some texts ∧ ∀ name ∈ known,
      ∃ field, member? texts name = some field ∧ Leaves changes gone old name field := by
  induction edits with
  | nil => exact ⟨[], rfl, fun name _ => ⟨none, rfl, fun _ => rfl, fun value none => by cases none⟩⟩
  | @added gone old new content unknown value decodes strange scans written others ih =>
    obtain ⟨texts, decoded, each⟩ := ih once
    refine ⟨(unknown, value) :: texts, asMembers?_cons decodes decoded, fun name listed => ?_⟩
    have other : unknown ≠ name := by
      rintro rfl
      exact strange listed
    rw [member?_cons_ne other]
    exact each name listed
  | @omitted gone old new lost value others ih =>
    rw [List.map_cons, List.nodup_cons] at once
    obtain ⟨texts, decoded, each⟩ := ih once.2
    refine ⟨texts, decoded, fun name listed => ?_⟩
    obtain ⟨field, looked, leaves⟩ := each name listed
    exact ⟨field, looked, leaves.omit once.1⟩
  | @kept gone old new here value value' changed others ih =>
    rw [List.map_cons, List.nodup_cons] at once
    obtain ⟨texts, decoded, each⟩ := ih once.2
    refine ⟨(here, value') :: texts, asMembers?_cons (decodeContent?_escape here) decoded,
      fun name listed => ?_⟩
    obtain ⟨field, looked, leaves⟩ := each name listed
    by_cases same : here = name
    · subst same
      -- the rest of the record has nothing under this name
      rw [leaves.missing (.inr once.1)] at looked
      exact ⟨some value', member?_cons_self looked,
        .keep once.1 (fun lost => once.1 (others.gone_subset lost)) changed⟩
    · exact ⟨field, (member?_cons_ne same).trans looked, leaves.keep_other same⟩

/-- A reader that looks for the known names finds of each what the edit leaves. -/
theorem Edits.exists_fields (edits : Edits known changes gone old new)
    (once : (old.map Prod.fst).Nodup) :
    ∃ field : String → Option Json, fields? known (.object new) = some (known.map field) ∧
      ∀ name ∈ known, Leaves changes gone old name (field name) := by
  obtain ⟨texts, decoded, each⟩ := edits.exists_texts once
  refine ⟨fun name => (member? texts name).getD none, ?_, fun name listed => ?_⟩
  · simp only [fields?, decoded, Option.bind_eq_bind, Option.bind_some]
    refine mapM_eq_some_map fun name listed => ?_
    obtain ⟨field, looked, -⟩ := each name listed
    rw [looked, Option.getD_some]
  · obtain ⟨field, looked, leaves⟩ := each name listed
    dsimp only
    rwa [looked, Option.getD_some]

section

variable {α : Type} {name : String} {field : Option Json} {decode : Json → Option α} {result : α}

theorem Leaves.defaulted (leaves : Leaves changes gone old name field) (default : α) (value : Json)
    (listed : (name, value) ∈ old)
    (reads : ∀ value', changes name value value' → decode value' = some result) :
    Json.defaulted default decode field = some (if name ∈ gone then default else result) := by
  by_cases lost : name ∈ gone
  · rw [leaves.missing (.inl lost), if_pos lost]
    rfl
  · obtain ⟨value', changed, rfl⟩ := leaves.found value listed lost
    rw [if_neg lost]
    exact reads value' changed

theorem Leaves.required (leaves : Leaves changes gone old name field) (value : Json)
    (listed : (name, value) ∈ old) (kept : name ∉ gone)
    (reads : ∀ value', changes name value value' → decode value' = some result) :
    Json.required decode field = some result := by
  obtain ⟨value', changed, rfl⟩ := leaves.found value listed kept
  exact reads value' changed

theorem Leaves.required_eq_none (leaves : Leaves changes gone old name field) (lost : name ∈ gone) :
    Json.required decode field = none := by
  rw [leaves.missing (.inl lost)]
  rfl

end

/-- An object with the members of another one after an edit. -/
inductive Edited (known : List String) (changes : String → Json → Json → Prop) (gone : List String) :
    Json → Json → Prop
  | object {value : Json} {old : List (String × Json)} {new : List (List Char × Json)}
    (members : asMembers? value = some old) (edits : Edits known changes gone old new) :
    Edited known changes gone value (.object new)

theorem Edited.isWritten {value doc : Json} (edited : Edited known changes gone value doc)
    (written : value.IsWritten)
    (writes : ∀ {name value value'}, value.IsWritten → changes name value value' →
      value'.IsWritten) : doc.IsWritten := by
  obtain ⟨members, edits⟩ := edited
  refine edits.isWritten fun {name value value'} listed changed => writes ?_ changed
  cases written with
  | object keys each =>
    obtain ⟨member, there, decoded⟩ := exists_of_mem_mapM members _ listed
    obtain ⟨_, -, same⟩ := Option.map_eq_some_iff.1 decoded
    cases same
    exact each member there
  | _ => cases members

end Json

end ComponentSchema
