import Mathlib.Data.List.Pairwise
import MusicText.Proofs.Token.Sequence

/-!
Contract: texts in which some characters are overwritten by spaces.

Owns: the overwriting of chosen places, and the tokens of a text whose tokens are overwritten
from some place on.

Does not own: which places are chosen; see `MusicText.Proofs.Token.Foreign` and
`MusicText.Proofs.Parse.Spacing`.

A space in place of a blank between tokens changes nothing, and spaces at the end of a token
cut it short. As no text gets longer or shorter, every token stays where it stands.
-/

namespace MusicText.Token

open MusicText.Text

/-! ### Texts with spaces at chosen places -/

/-- A text with a space at every chosen place. -/
def blankOut (chosen : Nat → Bool) (text : Text) : Text :=
  text.mapIdx fun place c => if chosen place then .scalar ' ' else c

variable (chosen : Nat → Bool)

theorem length_blankOut (text : Text) : (blankOut chosen text).length = text.length :=
  List.length_mapIdx

theorem blankOut_cons (c : CodePoint) (rest : Text) :
    blankOut chosen (c :: rest)
      = (if chosen 0 then .scalar ' ' else c) :: blankOut (fun place => chosen (place + 1)) rest :=
  List.mapIdx_cons

theorem blankOut_append (before after : Text) :
    blankOut chosen (before ++ after)
      = blankOut chosen before ++ blankOut (fun place => chosen (place + before.length)) after :=
  List.mapIdx_append

variable {chosen}

theorem blankOut_eq_take_append {kept : Nat} {text : Text}
    (fits : ∀ place < text.length, (chosen place = true ↔ kept ≤ place)) :
    blankOut chosen text = text.take kept ++ List.replicate (text.length - kept) (.scalar ' ') := by
  apply List.ext_getElem
  · simp only [length_blankOut, List.length_append, List.length_take, List.length_replicate]
    omega
  · intro place inside inOther
    rw [length_blankOut] at inside
    simp only [blankOut, List.getElem_mapIdx, fits place inside]
    by_cases beyond : kept ≤ place
    · rw [if_pos beyond, List.getElem_append_right (by simp; omega), List.getElem_replicate]
    · rw [if_neg beyond, List.getElem_append_left (by simp; omega), List.getElem_take]

namespace Placed

/-! ### Tokens in front of spaces -/

theorem sequenceFrom_replicate_space (count position : Nat) (text : Text) :
    sequenceFrom position (List.replicate count (.scalar ' ') ++ text)
      = sequenceFrom (position + count) text := by
  induction count generalizing position with
  | zero => rfl
  | succ count inductionHypothesis =>
      rw [List.replicate_succ, List.cons_append, sequenceFrom_blank isBlank_space,
        inductionHypothesis, show position + 1 + count = position + (count + 1) by omega]

/-- Whether a text is empty or begins with a space, so that it ends a token in front of it. -/
def Ends (behind : Text) : Prop :=
  behind = [] ∨ ∃ rest, behind = .scalar ' ' :: rest

theorem sequenceFrom_append {c : CodePoint} {token behind : Text} (solid : isBlank c = false)
    (unspaced : ∀ d ∈ c :: token, isPart d) (ends : Ends behind) (position : Nat) :
    sequenceFrom position (c :: token ++ behind)
      = ⟨position, c :: token⟩ :: sequenceFrom (position + (c :: token).length) behind := by
  rcases ends with rfl | ⟨rest, rfl⟩
  · rw [List.append_nil, sequenceFrom_token solid, first_eq_self unspaced,
      List.drop_of_length_le (Nat.le_succ _), sequenceFrom_nil, sequenceFrom_nil]
  · have taken : first (c :: token ++ .scalar ' ' :: rest) = c :: token :=
      first_append_space unspaced
    have behind : (c :: token ++ .scalar ' ' :: rest).drop ((c :: token).length + 1) = rest := by
      simp
    rw [sequenceFrom_blank isBlank_space, Nat.add_assoc]
    rw [List.cons_append] at taken behind ⊢
    rw [sequenceFrom_token solid, taken, behind]

theorem exists_behind_first (text : Text) :
    ∃ behind, text = first text ++ behind ∧ Ends behind
      ∧ behind.drop 1 = text.drop ((first text).length + 1) := by
  rcases eq_first_or_eq_append text with ⟨whole, nothing⟩ | whole
  · exact ⟨[], by simpa using whole, Or.inl rfl, nothing.symm⟩
  · exact ⟨_, whole, Or.inr ⟨_, rfl⟩, rfl⟩

theorem Ends.replicate_append {behind : Text} (ends : Ends behind) (count : Nat) :
    Ends (List.replicate count (.scalar ' ') ++ behind) := by
  cases count with
  | zero => exact ends
  | succ count => exact Or.inr ⟨_, rfl⟩

theorem Ends.blankOut {behind : Text} (ends : Ends behind) : Ends (blankOut chosen behind) := by
  rcases ends with rfl | ⟨rest, rfl⟩
  · exact Or.inl rfl
  · right
    rw [blankOut_cons]
    exact ⟨_, by rw [ite_self]⟩

theorem Ends.sequenceFrom_blankOut {behind : Text} (ends : Ends behind) (position : Nat) :
    sequenceFrom position (Token.blankOut chosen behind)
      = sequenceFrom (position + 1)
          (Token.blankOut (fun place => chosen (place + 1)) (behind.drop 1)) := by
  rcases ends with rfl | ⟨rest, rfl⟩
  · exact (sequenceFrom_nil _).trans (sequenceFrom_nil _).symm
  · rw [blankOut_cons, ite_self, sequenceFrom_blank isBlank_space]
    rfl

/-! ### Tokens that are cut short -/

/-- A token cut off behind its first characters, if any are left. -/
def shorten (kept : Text → Nat) (token : Placed) : Option Placed :=
  if kept token.text = 0 then none else some ⟨token.position, token.text.take (kept token.text)⟩

/-- A token with spaces from some place on is cut short, and nothing behind it is moved. -/
theorem sequenceFrom_take_append {c : CodePoint} {token behind : Text} (solid : isBlank c = false)
    (unspaced : ∀ d ∈ c :: token, isPart d) (ends : Ends behind) (kept : Text → Nat)
    (position : Nat) :
    sequenceFrom position ((c :: token).take (kept (c :: token))
        ++ (List.replicate ((c :: token).length - kept (c :: token)) (.scalar ' ') ++ behind))
      = (shorten kept ⟨position, c :: token⟩).toList
        ++ sequenceFrom (position + (c :: token).length) behind := by
  unfold shorten
  cases count : kept (c :: token) with
  | zero => simpa using sequenceFrom_replicate_space _ position behind
  | succ last =>
      have part : ∀ d ∈ c :: token.take last, isPart d := fun d member =>
        unspaced d (List.take_subset (last + 1) (c :: token) member)
      have moved : position + (c :: token.take last).length
          + ((c :: token).length - (last + 1)) = position + (c :: token).length := by
        simp only [List.length_cons, List.length_take]
        omega
      rw [List.take_succ_cons, sequenceFrom_append solid part (ends.replicate_append _),
        sequenceFrom_replicate_space, moved]
      rfl

/-- In a text with spaces at chosen places, the tokens are those of the text, each cut short
where the choice begins. The characters between tokens may be chosen at will. -/
theorem sequenceFrom_blankOut {kept : Text → Nat} {position : Nat} {music : Text}
    (fits : ∀ token ∈ sequenceFrom position music, ∀ place < token.text.length,
      (chosen (token.position + place) = true ↔ kept token.text ≤ place)) :
    sequenceFrom position (blankOut (fun place => chosen (position + place)) music)
      = (sequenceFrom position music).filterMap (shorten kept) := by
  induction position, music using sequence_induction with
  | empty position =>
      rw [sequenceFrom_nil]
      exact sequenceFrom_nil position
  | blank position c rest blank inductionHypothesis =>
      rw [sequenceFrom_blank blank] at fits ⊢
      have shifted : ∀ place, chosen (position + (place + 1)) = chosen (position + 1 + place) :=
        fun place => congrArg chosen (by omega)
      have still : isBlank (if chosen (position + 0) then .scalar ' ' else c) := by
        split
        · exact isBlank_space
        · exact blank
      rw [blankOut_cons, sequenceFrom_blank still]
      simp only [shifted]
      exact inductionHypothesis fits
  | token position c rest solid inductionHypothesis =>
      -- The choice cuts the head token short by its own part only. Whatever is chosen behind
      -- it, a space or the end of the text still follows there.
      obtain ⟨behind, whole, ends, dropped⟩ := exists_behind_first (c :: rest)
      rw [first_cons solid] at whole dropped
      have unspaced : ∀ d ∈ c :: first rest, isPart d := by
        rw [← first_cons solid]
        exact fun _ => isPart_of_mem_first
      rw [sequenceFrom_token solid, first_cons solid, ← dropped] at fits ⊢
      rw [first_cons solid, ← dropped] at inductionHypothesis
      generalize first rest = token at *
      have own : ∀ place < (c :: token).length,
          (chosen (position + place) = true ↔ kept (c :: token) ≤ place) :=
        fits ⟨position, c :: token⟩ (by simp)
      have later := inductionHypothesis fun other inBehind =>
        fits other (List.mem_cons_of_mem _ inBehind)
      have shifted : ∀ place, chosen (position + (place + 1 + (c :: token).length))
          = chosen (position + ((c :: token).length + 1) + place) :=
        fun place => congrArg chosen (by omega)
      rw [whole, blankOut_append, blankOut_eq_take_append own, List.append_assoc,
        sequenceFrom_take_append solid unspaced ends.blankOut, ends.sequenceFrom_blankOut]
      simp only [shifted]
      rw [Nat.add_assoc, later, List.filterMap_cons]
      cases shorten kept ⟨position, c :: token⟩ <;> rfl

/-- The choice is made in terms of places of the whole text here. -/
theorem sequence_blankOut {kept : Text → Nat} {music : Text}
    (fits : ∀ token ∈ sequence music, ∀ place, token.Covers place →
      (chosen place = true ↔ token.position + kept token.text ≤ place)) :
    sequence (blankOut chosen music) = (sequence music).filterMap (shorten kept) := by
  have fitsFrom : ∀ token ∈ sequenceFrom 0 music, ∀ place < token.text.length,
      (chosen (token.position + place) = true ↔ kept token.text ≤ place) := by
    intro token member place inside
    have covers : token.Covers (token.position + place) :=
      ⟨Nat.le_add_right _ _, Nat.add_lt_add_left inside _⟩
    rw [fits token member _ covers, Nat.add_le_add_iff_left]
  have shortened := sequenceFrom_blankOut fitsFrom
  simp only [Nat.zero_add] at shortened
  exact shortened

/-! ### The token at a place -/

instance (token : Placed) (place : Nat) : Decidable (token.Covers place) :=
  inferInstanceAs (Decidable (_ ∧ _))

/-- No place belongs to two tokens. -/
theorem eq_of_covers {token other : Placed} {position place : Nat} {music : Text}
    (member : token ∈ sequenceFrom position music)
    (otherMember : other ∈ sequenceFrom position music) (covers : token.Covers place)
    (otherCovers : other.Covers place) : token = other := by
  have behind := pairwise_sequenceFrom position music
  have notBoth : ∀ earlier later : Placed, earlier.position + earlier.text.length < later.position →
      later.Covers place → ¬ earlier.Covers place := by
    rintro earlier later apart ⟨begun, -⟩ ⟨-, notEnded⟩
    omega
  have unique : ∀ ⦃one⦄, one ∈ sequenceFrom position music →
      ∀ ⦃two⦄, two ∈ sequenceFrom position music →
        one.Covers place → two.Covers place → one = two := by
    apply List.Pairwise.forall_of_forall_of_flip
    · exact fun _ _ _ _ => rfl
    · exact behind.imp fun apart first second => absurd first (notBoth _ _ apart second)
    · exact behind.imp fun apart second first => absurd first (notBoth _ _ apart second)
  exact unique member otherMember covers otherCovers

end Placed

end MusicText.Token
