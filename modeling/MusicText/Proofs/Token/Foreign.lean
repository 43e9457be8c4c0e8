import MusicText.Proofs.Token.Effect
import MusicText.Proofs.Token.Spacing

/-!
Contract: tokens that no recogniser accepts.

Owns: which tokens are foreign, the text in which they are overwritten by spaces, and its
tokens.

Does not own: what a parse makes of a foreign token; see
`MusicText.Proofs.Parse.Leniency`.
-/

namespace MusicText.Token

open MusicText.Text MusicText.Token.Placed

/-- Whether no usual recogniser accepts a text. -/
def isForeign (text : Text) : Bool :=
  Parser.usualRecognisers.all fun recogniser => !recogniser.accepts text

theorem recogniserOf?_eq_none_iff {options : Options} {text : Text} :
    (Parser.usual options).recogniserOf? text = none ↔ isForeign text := by
  simp [Parser.recogniserOf?, Parser.usual, isForeign]

theorem isForeign_iff {text : Text} :
    isForeign text ↔ Value.markerOf? text = none ∧ Signature.beginsWithKey text = false
      ∧ Signature.beginsWithMeter text = false := by
  simp [isForeign, Parser.usualRecognisers, Value.recogniser, Signature.recogniser]

theorem isForeign_of_beginning {text token : Text} (begins : text <+: token)
    (foreign : isForeign token) : isForeign text := by
  have noMark : ∀ mark : Text, mark.isPrefixOf token = false → mark.isPrefixOf text = false := by
    intro mark absent
    by_contra found
    have marked := (List.isPrefixOf_iff_prefix.1 (eq_true_of_ne_false found)).trans begins
    rw [List.isPrefixOf_iff_prefix.2 marked] at absent
    cases absent
  rw [isForeign_iff] at foreign ⊢
  obtain ⟨valueless, noKey, noMeter⟩ := foreign
  refine ⟨?_, noMark _ noKey, noMark _ noMeter⟩
  cases text with
  | nil => rfl
  | cons c rest =>
      obtain ⟨behind, rfl⟩ := begins
      exact valueless

theorem effect_of_foreign {options : Options} {token : Text} {context : Context}
    (foreign : isForeign token) :
    effect options token context = (Parser.usual options).passUnknown token context := by
  obtain ⟨valueless, noKey, noMeter⟩ := isForeign_iff.1 foreign
  simp [effect, valueless, noKey, noMeter]

theorem isForeign_first (remaining : Text) : isForeign (first remaining) = isForeign remaining := by
  simp only [isForeign, Parser.usualRecognisers, List.all_cons, List.all_nil, Value.recogniser,
    Signature.recogniser, markerOf?_first, beginsWithKey_first, beginsWithMeter_first]

/-- The foreign tokens among some tokens. -/
def foreignOnly (tokens : List Placed) : List Placed :=
  tokens.filter fun token => isForeign token.text

/-- The tokens that are not foreign. -/
def familiarOnly (tokens : List Placed) : List Placed :=
  tokens.filter fun token => !isForeign token.text

/-- Whether a place of a text belongs to a foreign token. -/
def isForeignAt (music : Text) (place : Nat) : Bool :=
  (sequence music).any fun token => isForeign token.text && decide (token.Covers place)

/-- A text in which every foreign token is overwritten by as many spaces. -/
def overwriteForeign (music : Text) : Text :=
  blankOut (isForeignAt music) music

theorem isForeignAt_of_covers {music : Text} {token : Placed} {place : Nat}
    (member : token ∈ sequence music) (covers : token.Covers place) :
    isForeignAt music place = isForeign token.text := by
  rw [Bool.eq_iff_iff, isForeignAt, List.any_eq_true]
  constructor
  · rintro ⟨other, otherMember, found⟩
    obtain ⟨foreign, otherCovers⟩ := Bool.and_eq_true_iff.1 found
    rwa [eq_of_covers member otherMember covers (of_decide_eq_true otherCovers)]
  · intro foreign
    exact ⟨token, member, by simp [foreign, covers]⟩

/-- The tokens that are not foreign stay where they are. -/
theorem sequence_overwriteForeign (music : Text) :
    sequence (overwriteForeign music) = familiarOnly (sequence music) := by
  let kept : Text → Nat := fun text => if isForeign text then 0 else text.length
  have fits : ∀ token ∈ sequence music, ∀ place, token.Covers place →
      (isForeignAt music place = true ↔ token.position + kept token.text ≤ place) := by
    intro token member place covers
    obtain ⟨begun, notEnded⟩ := covers
    rw [isForeignAt_of_covers member ⟨begun, notEnded⟩]
    cases foreign : isForeign token.text with
    | true => simpa [kept, foreign] using begun
    | false => simpa [kept, foreign] using notEnded
  have whole : shorten kept = Option.guard fun token => !isForeign token.text := by
    funext token
    simp only [shorten, kept, Option.guard]
    by_cases foreign : isForeign token.text = true
    · simp [foreign]
    · have nonempty : token.text ≠ [] := by
        intro nothing
        rw [nothing] at foreign
        exact foreign (by decide)
      simp [foreign, nonempty]
  rw [overwriteForeign, sequence_blankOut fits, whole, List.filterMap_eq_filter, familiarOnly]

end MusicText.Token
