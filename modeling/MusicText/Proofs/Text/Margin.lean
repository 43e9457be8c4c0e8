import Mathlib.Data.List.TakeWhile
import MusicText.Pitch.Tone
import MusicText.Proofs.Text.Capital
import MusicText.Proofs.Text.Cutting

/-!
Contract: blanks at the end of a text.

Owns: what of a text does not depend on the blanks behind it: the text within its margins,
the cut at a mark, and the count of accidentals.

Does not own: which blanks a token may have at its end; see `MusicText.Proofs.Token.Core`.
-/

namespace MusicText

namespace Text

variable {margin : CodePoint → Bool} {trailing : Text}

theorem trim_append (marginal : ∀ c ∈ trailing, margin c) (text : Text) :
    trim margin (text ++ trailing) = trim margin text := by
  have nothing : trailing.dropWhile margin = [] := List.dropWhile_eq_nil_iff.2 marginal
  have reversed : ∀ c ∈ trailing.reverse, margin c :=
    fun c member => marginal c (List.mem_reverse.1 member)
  unfold trim
  rw [List.dropWhile_append]
  split
  · rename_i empty
    rw [nothing, List.isEmpty_iff.1 empty]
  · rw [List.reverse_append, List.dropWhile_append_of_pos reversed]

/-- A text is what is left without its margins, with margins on both sides. -/
theorem exists_margins (margin : CodePoint → Bool) (text : Text) :
    ∃ before after, text = before ++ trim margin text ++ after
      ∧ (∀ c ∈ before, margin c) ∧ ∀ c ∈ after, margin c := by
  have all : ∀ {part : Text}, ∀ c ∈ part.takeWhile margin, margin c :=
    fun _ member => List.mem_takeWhile_imp member
  let kept := text.dropWhile margin
  refine ⟨text.takeWhile margin, (kept.reverse.takeWhile margin).reverse, ?_, all, ?_⟩
  · have right : trim margin text ++ (kept.reverse.takeWhile margin).reverse = kept := by
      rw [trim, ← List.reverse_append, List.takeWhile_append_dropWhile, List.reverse_reverse]
    rw [List.append_assoc, right, List.takeWhile_append_dropWhile]
  · intro c member
    exact all c (List.mem_reverse.1 member)

theorem trim_between {before core after : Text} (leading : ∀ c ∈ before, margin c)
    (solid : ∀ c ∈ core, margin c = false) (following : ∀ c ∈ after, margin c) :
    trim margin (before ++ core ++ after) = core := by
  rw [trim_append following, trim, List.dropWhile_append_of_pos leading]
  exact trim_eq_self solid

theorem strip_append (blank : ∀ c ∈ trailing, isBlank c) (text : Text) :
    strip (text ++ trailing) = strip text :=
  trim_append blank text

theorem cutAt?_append_of_unmarked {mark : CodePoint} (absent : mark ∉ trailing) (text : Text) :
    cutAt? mark (text ++ trailing)
      = (cutAt? mark text).map fun sides => (sides.1, sides.2 ++ trailing) := by
  induction text with
  | nil => exact cutAt?_eq_none_iff.2 absent
  | cons c rest inductionHypothesis =>
      rw [List.cons_append, cutAt?, cutAt?, inductionHypothesis]
      split
      · rfl
      · simp [Option.map_map, Function.comp_def]

theorem ne_of_isBlank {c d : CodePoint} (blank : isBlank c) (solid : isBlank d = false) :
    c ≠ d := by
  rintro rfl
  simp [blank] at solid

theorem upper_of_isBlank (blank : ∀ c ∈ trailing, isBlank c) : upper trailing = trailing := by
  induction trailing with
  | nil => rfl
  | cons c rest inductionHypothesis =>
      obtain ⟨own, others⟩ := List.forall_mem_cons.1 blank
      rw [upper, List.flatMap_cons, capital_of_isBlank own]
      exact congrArg (c :: ·) (inductionHypothesis others)

end Text

namespace Accidental

open MusicText.Text

/-- Blanks are no accidentals. -/
theorem netMarks_append {trailing : Text} (blank : ∀ c ∈ trailing, isBlank c) (text : Text) :
    netMarks (text ++ trailing) = netMarks text := by
  unfold netMarks
  rw [upper_append, List.foldl_append, upper_of_isBlank blank]
  generalize (upper text).foldl _ _ = count
  induction trailing with
  | nil => rfl
  | cons c rest inductionHypothesis =>
      obtain ⟨own, others⟩ := List.forall_mem_cons.1 blank
      have noFlat : c ≠ 'B' := ne_of_isBlank own (by decide)
      have noSharp : c ≠ '#' := ne_of_isBlank own (by decide)
      rw [List.foldl_cons, if_neg noFlat, if_neg noSharp]
      exact inductionHypothesis others

end Accidental

end MusicText
