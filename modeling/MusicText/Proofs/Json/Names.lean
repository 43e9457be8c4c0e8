import MusicText.Json.Value

/-!
Contract: names within objects.

Owns: the values whose objects have distinct names, members that are set one after the other, and
what is given for a name by members with distinct names.

Does not own: the objects that are read; see `MusicText.Proofs.Json.Reading`.
-/

namespace MusicText.Json

open MusicText.Text

/-- Whether every object within a value has distinct names. -/
inductive WellNamed : Json → Prop
  | null : WellNamed .null
  | boolean (value : Bool) : WellNamed (.boolean value)
  | integer (value : Int) : WellNamed (.integer value)
  | fraction (value : Binary64) : WellNamed (.fraction value)
  | string (value : Text) : WellNamed (.string value)
  | array {items : List Json} (inner : ∀ item ∈ items, WellNamed item) : WellNamed (.array items)
  | object {members : List (Text × Json)} (distinct : (members.map Prod.fst).Nodup)
      (inner : ∀ member ∈ members, WellNamed member.2) : WellNamed (.object members)

theorem map_fst_setMember (name : Text) (value : Json) (members : List (Text × Json)) :
    (setMember name value members).map Prod.fst
      = if name ∈ members.map Prod.fst then members.map Prod.fst
        else members.map Prod.fst ++ [name] := by
  induction members with
  | nil => rfl
  | cons entry rest inductionHypothesis =>
      rw [setMember]
      by_cases same : entry.1 = name
      · rw [if_pos same, if_pos (by simp [same]), List.map_cons, List.map_cons, same]
      · have apart : name ≠ entry.1 := fun equal => same equal.symm
        simp only [if_neg same, List.map_cons, inductionHypothesis, List.mem_cons, apart, false_or]
        split <;> rfl

theorem mem_setMember {name : Text} {value : Json} {members : List (Text × Json)}
    {entry : Text × Json} (member : entry ∈ setMember name value members) :
    entry = (name, value) ∨ entry ∈ members := by
  induction members with
  | nil => exact Or.inl (List.mem_singleton.1 member)
  | cons first rest inductionHypothesis =>
      rw [setMember] at member
      split at member
      · exact (List.mem_cons.1 member).imp_right (List.mem_cons_of_mem _)
      · rcases List.mem_cons.1 member with rfl | inRest
        · exact Or.inr List.mem_cons_self
        · exact (inductionHypothesis inRest).imp_right (List.mem_cons_of_mem _)

namespace WellNamed

theorem distinct {members : List (Text × Json)} (named : WellNamed (.object members)) :
    (members.map Prod.fst).Nodup := by
  cases named with
  | object distinct => exact distinct

theorem of_mem {members : List (Text × Json)} {member : Text × Json}
    (named : WellNamed (.object members)) (within : member ∈ members) : WellNamed member.2 := by
  cases named with
  | object _ inner => exact inner member within

theorem setMember {name : Text} {value : Json} {members : List (Text × Json)}
    (named : WellNamed (.object members)) (inner : WellNamed value) :
    WellNamed (.object (setMember name value members)) := by
  apply WellNamed.object
  · rw [map_fst_setMember]
    split
    · exact named.distinct
    · rename_i fresh
      apply List.nodup_append.2 ⟨named.distinct, by simp, ?_⟩
      rintro known member other last rfl
      exact fresh (List.mem_singleton.1 last ▸ member)
  · intro entry member
    rcases mem_setMember member with rfl | known
    · exact inner
    · exact named.of_mem known

/-- Members that are set one after the other end up with distinct names. -/
theorem foldl_setMember {entries members : List (Text × Json)}
    (inner : ∀ entry ∈ entries, WellNamed entry.2) (named : WellNamed (.object members)) :
    WellNamed (.object
      (entries.foldl (fun known entry => Json.setMember entry.1 entry.2 known) members)) := by
  induction entries generalizing members with
  | nil => exact named
  | cons entry rest inductionHypothesis =>
      obtain ⟨first, others⟩ := List.forall_mem_cons.1 inner
      exact inductionHypothesis others (named.setMember first)

end WellNamed

/-! ### Members by name -/

/-- Whether a value is given for a name by members, or is the default as they give none. -/
def IsGiven (members : List (Text × Json)) (name : Text) (default value : Json) : Prop :=
  (name, value) ∈ members ∨ name ∉ members.map Prod.fst ∧ value = default

variable {members : List (Text × Json)} {name : Text} {value : Json}

theorem mem_iff_lookup_eq_some (distinct : (members.map Prod.fst).Nodup) :
    (name, value) ∈ members ↔ members.lookup name = some value := by
  induction members with
  | nil => simp
  | cons entry rest inductionHypothesis =>
      obtain ⟨known, first⟩ := entry
      obtain ⟨fresh, distinctRest⟩ := List.nodup_cons.1 distinct
      rw [List.mem_cons, lookup_entry]
      by_cases same : name = known
      · subst same
        have absent : (name, value) ∉ rest := by
          intro member
          exact fresh (List.mem_map.2 ⟨_, member, rfl⟩)
        simp [absent, eq_comm]
      · simp [same, inductionHypothesis distinctRest]

theorem not_mem_iff_lookup_eq_none :
    name ∉ members.map Prod.fst ↔ members.lookup name = none := by
  simp only [List.lookup_eq_none_iff, List.mem_map, not_exists, not_and, bne_iff_ne, ne_eq]
  exact forall₂_congr fun entry _ => not_congr eq_comm

theorem isGiven_iff {default : Json} (distinct : (members.map Prod.fst).Nodup) :
    IsGiven members name default value ↔ (members.lookup name).getD default = value := by
  rw [IsGiven, mem_iff_lookup_eq_some distinct, not_mem_iff_lookup_eq_none]
  cases members.lookup name with
  | none => simp [eq_comm]
  | some known => simp

theorem isGiven_nil_iff {default : Json} : IsGiven [] name default value ↔ value = default := by
  simp [IsGiven]

/-- With distinct names, the first member is the default for the others. -/
theorem isGiven_cons_iff {other : Text} {default given : Json}
    (distinct : (((name, value) :: members).map Prod.fst).Nodup) :
    IsGiven ((name, value) :: members) other default given
      ↔ IsGiven members other (if other = name then value else default) given := by
  obtain ⟨fresh, distinctRest⟩ := List.nodup_cons.1 distinct
  rw [isGiven_iff distinct, isGiven_iff distinctRest, lookup_entry]
  by_cases same : other = name
  · subst same
    rw [if_pos rfl, if_pos rfl, not_mem_iff_lookup_eq_none.1 fresh]
    rfl
  · rw [if_neg same, if_neg same]

end MusicText.Json
