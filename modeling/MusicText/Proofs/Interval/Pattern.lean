import Mathlib.Data.List.Forall2
import MusicText.Intervals

/-!
Contract: the half-steps of a pattern.

Owns: lists that are read member by member, the half-steps of a pattern, told from its tokens one
by one, and the fault of a pattern that has none.

Does not own: the reading of one token; see `MusicText.Intervals`.
-/

namespace MusicText

/-- A list is read exactly when each of its members is. -/
theorem mapM_eq_ok_iff {α β : Type} {read : α → Except Fault β} {texts : List α}
    {values : List β} :
    texts.mapM read = .ok values
      ↔ List.Forall₂ (fun text value => read text = .ok value) texts values := by
  induction texts generalizing values with
  | nil => cases values <;> simp [pure, Except.pure]
  | cons text rest inductionHypothesis =>
      rw [List.mapM_cons]
      cases own : read text with
      | error fault => cases values <;> simp [own, bind, Except.bind]
      | ok value =>
          cases behind : rest.mapM read <;> cases values <;>
            simp [bind, Except.bind, pure, Except.pure, ← inductionHypothesis, own, behind]

namespace Intervals

variable {tokens : List Text} {root : Option Note}

theorem halfsteps_cons (token : Text) (rest : List Text) (root : Option Note) :
    halfsteps ⟨token :: rest, root⟩
      = match Interval.halfsteps token with
        | .error fault => .error fault
        | .ok step => (halfsteps ⟨rest, root⟩).map (step :: ·) := by
  simp only [halfsteps, List.mapM_cons]
  cases Interval.halfsteps token with
  | error fault => rfl
  | ok step =>
      show Except.bind (rest.mapM Interval.halfsteps) _ = _
      cases rest.mapM Interval.halfsteps <;> rfl

/-- A pattern has half-steps exactly when each of its tokens has. -/
theorem halfsteps_eq_ok_iff {steps : List Int} :
    halfsteps ⟨tokens, root⟩ = .ok steps
      ↔ List.Forall₂ (fun token step => Interval.halfsteps token = .ok step) tokens steps :=
  mapM_eq_ok_iff

/-- The fault of a pattern is that of the first token that has no half-steps. -/
theorem halfsteps_eq_error_iff {fault : Fault} :
    halfsteps ⟨tokens, root⟩ = .error fault
      ↔ ∃ earlier token later, tokens = earlier ++ token :: later
        ∧ (∀ other ∈ earlier, ∃ step, Interval.halfsteps other = .ok step)
        ∧ Interval.halfsteps token = .error fault := by
  constructor
  · intro refused
    induction tokens with
    | nil => simp [halfsteps, pure, Except.pure] at refused
    | cons token rest inductionHypothesis =>
        rw [halfsteps_cons] at refused
        cases own : Interval.halfsteps token with
        | error other =>
            simp only [own, Except.error.injEq] at refused
            exact ⟨[], token, rest, rfl, by simp, refused ▸ own⟩
        | ok step =>
            have behind : halfsteps ⟨rest, root⟩ = .error fault := by
              cases read : halfsteps ⟨rest, root⟩ <;> simp_all [Except.map]
            obtain ⟨earlier, first, later, rfl, done, stopped⟩ := inductionHypothesis behind
            refine ⟨token :: earlier, first, later, rfl, ?_, stopped⟩
            exact List.forall_mem_cons.2 ⟨⟨step, own⟩, done⟩
  · rintro ⟨earlier, token, later, rfl, done, stopped⟩
    induction earlier with
    | nil => rw [List.nil_append, halfsteps_cons, stopped]
    | cons first rest inductionHypothesis =>
        obtain ⟨⟨step, own⟩, others⟩ := List.forall_mem_cons.1 done
        rw [List.cons_append, halfsteps_cons, own]
        simp only [inductionHypothesis others, Except.map]

theorem exists_halfsteps_iff :
    (∃ steps, halfsteps ⟨tokens, root⟩ = .ok steps)
      ↔ ∀ token ∈ tokens, ∃ step, Interval.halfsteps token = .ok step := by
  simp only [halfsteps_eq_ok_iff]
  induction tokens with
  | nil => simp
  | cons token rest inductionHypothesis =>
      rw [List.forall_mem_cons, ← inductionHypothesis]
      constructor
      · rintro ⟨_, pairs⟩
        cases pairs with
        | cons own behind => exact ⟨⟨_, own⟩, _, behind⟩
      · rintro ⟨⟨step, own⟩, steps, behind⟩
        exact ⟨step :: steps, .cons own behind⟩

end Intervals

end MusicText
