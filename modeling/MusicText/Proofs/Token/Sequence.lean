import Mathlib.Data.List.TakeWhile
import MusicText.Proofs.Text.Cutting
import MusicText.Token.Recogniser

/-!
Contract: the tokens of a text.

Owns: the tokens as what the spaces of a text separate, with the positions where they
begin; the equations by which they are met from left to right; and what every token has
around it.

Does not own: what tokens mean; see `MusicText.Proofs.Token.Effect`.

A text is cut at every space U+0020, the blanks in front of each piece are dropped, and a
piece of which nothing is left is no token. Blanks inside a token or at its end stay.
-/

namespace MusicText.Token

open MusicText.Text

/-- The space U+0020, which ends a token. -/
def isSpace (c : CodePoint) : Bool :=
  c == ' '

theorem isSpace_eq_not_isPart (c : CodePoint) : isSpace c = !isPart c := by
  simp [isSpace, isPart, bne]

theorem isPart_of_not_isBlank {c : CodePoint} (solid : isBlank c = false) : isPart c := by
  have different : c ≠ .scalar ' ' := by
    rintro rfl
    exact absurd isBlank_space (by simp [solid])
  simpa [isPart] using different

/-! ### The token at the beginning of a text -/

theorem isPart_of_mem_first {text : Text} {c : CodePoint} (member : c ∈ first text) :
    isPart c :=
  List.mem_takeWhile_imp member

theorem isSpace_of_mem_first {text : Text} {c : CodePoint} (member : c ∈ first text) :
    isSpace c = false := by
  simp [isSpace_eq_not_isPart, isPart_of_mem_first member]

theorem first_eq_self {text : Text} (unspaced : ∀ c ∈ text, isPart c) : first text = text :=
  List.takeWhile_eq_self_iff.2 unspaced

theorem first_first (text : Text) : first (first text) = first text :=
  first_eq_self fun _ member => isPart_of_mem_first member

theorem first_cons {c : CodePoint} (solid : isBlank c = false) (rest : Text) :
    first (c :: rest) = c :: first rest :=
  List.takeWhile_cons_of_pos (isPart_of_not_isBlank solid)

/-- The space ends a token, whatever follows it. -/
theorem first_append_space {text rest : Text} (unspaced : ∀ c ∈ text, isPart c) :
    first (text ++ .scalar ' ' :: rest) = text := by
  rw [first, List.takeWhile_append_of_pos unspaced]
  simp [isPart]

/-- A text is its first token, behind which it ends or a space and the rest follow. -/
theorem eq_first_or_eq_append (text : Text) :
    (text = first text ∧ text.drop ((first text).length + 1) = []) ∨
      text = first text ++ .scalar ' ' :: text.drop ((first text).length + 1) := by
  have parts : first text ++ text.dropWhile isPart = text := List.takeWhile_append_dropWhile
  have behind : text.drop ((first text).length + 1) = (text.dropWhile isPart).drop 1 := by
    calc text.drop ((first text).length + 1)
        = (first text ++ text.dropWhile isPart).drop ((first text).length + 1) :=
          congrArg (List.drop _) parts.symm
      _ = (text.dropWhile isPart).drop 1 := by simp
  cases remaining : text.dropWhile isPart with
  | nil =>
      left
      rw [behind, remaining]
      exact ⟨by simpa [remaining] using parts.symm, rfl⟩
  | cons c rest =>
      right
      have stopped : isPart c = false := by
        simpa [remaining] using List.head?_dropWhile_not isPart text
      have space : c = .scalar ' ' := by simpa [isPart] using stopped
      rw [remaining, space] at parts
      rw [behind, remaining]
      exact parts.symm

/-- The first piece of a text is its first token, and the others are those behind the
space. -/
theorem pieces_eq (text : Text) :
    (pieces isSpace text = [first text] ∧ text.drop ((first text).length + 1) = []) ∨
      pieces isSpace text
        = first text :: pieces isSpace (text.drop ((first text).length + 1)) := by
  rcases eq_first_or_eq_append text with ⟨whole, behind⟩ | whole
  · refine Or.inl ⟨?_, behind⟩
    calc pieces isSpace text = pieces isSpace (first text) := congrArg _ whole
      _ = [first text] := pieces_of_unmarked fun _ => isSpace_of_mem_first
  · right
    calc pieces isSpace text
        = pieces isSpace (first text ++ .scalar ' ' :: text.drop ((first text).length + 1)) :=
          congrArg _ whole
      _ = first text :: pieces isSpace (text.drop ((first text).length + 1)) :=
          pieces_append_mark (fun _ => isSpace_of_mem_first) rfl

/-! ### The tokens of a text with their positions -/

/-- A token with the position where it begins. -/
structure Placed where
  position : Nat
  text : Text
  deriving DecidableEq, Repr

namespace Placed

/-- The tokens of pieces that stand one behind the other, the first at a position. -/
def ofPieces (position : Nat) : List Text → List Placed
  | [] => []
  | piece :: rest =>
      let text := piece.dropWhile isBlank
      let others := ofPieces (position + piece.length + 1) rest
      if text = [] then others
      else ⟨position + (piece.length - text.length), text⟩ :: others

/-- The tokens of a text that begins at a position of a whole. -/
def sequenceFrom (position : Nat) (music : Text) : List Placed :=
  ofPieces position (pieces isSpace music)

/-- The tokens of a text in order. -/
def sequence (music : Text) : List Placed :=
  sequenceFrom 0 music

/-- Whether a place of the text belongs to a token. -/
def Covers (token : Placed) (place : Nat) : Prop :=
  token.position ≤ place ∧ place < token.position + token.text.length

theorem map_text_ofPieces (position : Nat) (texts : List Text) :
    (ofPieces position texts).map text
      = (texts.map (·.dropWhile isBlank)).filter (· ≠ []) := by
  induction texts generalizing position with
  | nil => rfl
  | cons piece rest inductionHypothesis =>
      simp only [ofPieces, List.map_cons]
      by_cases vanished : piece.dropWhile isBlank = []
      · rw [if_pos vanished, inductionHypothesis, List.filter_cons_of_neg (by simp [vanished])]
      · rw [if_neg vanished, List.map_cons, inductionHypothesis,
          List.filter_cons_of_pos (by simp [vanished])]

theorem sequenceFrom_nil (position : Nat) : sequenceFrom position [] = [] := by
  simp [sequenceFrom, pieces, ofPieces]

theorem sequenceFrom_blank {c : CodePoint} (blank : isBlank c) (position : Nat) (rest : Text) :
    sequenceFrom position (c :: rest) = sequenceFrom (position + 1) rest := by
  unfold sequenceFrom
  rw [pieces]
  by_cases space : isSpace c
  · simp [space, ofPieces]
  · cases shape : pieces isSpace rest with
    | nil => exact absurd shape (pieces_ne_nil isSpace rest)
    | cons piece others =>
        have shorter : (piece.dropWhile isBlank).length ≤ piece.length :=
          List.length_dropWhile_le isBlank piece
        simp only [space, Bool.false_eq_true, if_false, ofPieces,
          List.dropWhile_cons_of_pos blank, List.length_cons]
        rw [show position + (piece.length + 1) + 1 = position + 1 + piece.length + 1 by omega,
          show position + (piece.length + 1 - (piece.dropWhile isBlank).length)
            = position + 1 + (piece.length - (piece.dropWhile isBlank).length) by omega]

/-- A character that is not blank begins a token, which ends in front of the next space. -/
theorem sequenceFrom_token {c : CodePoint} (solid : isBlank c = false) (position : Nat)
    (rest : Text) :
    sequenceFrom position (c :: rest) =
      ⟨position, first (c :: rest)⟩ ::
        sequenceFrom (position + ((first (c :: rest)).length + 1))
          ((c :: rest).drop ((first (c :: rest)).length + 1)) := by
  have kept : (first (c :: rest)).dropWhile isBlank = first (c :: rest) := by
    rw [first_cons solid, List.dropWhile_cons_of_neg (by simp [solid])]
  have nonempty : first (c :: rest) ≠ [] := by simp [first_cons solid]
  have head : ∀ others : List Text, ofPieces position (first (c :: rest) :: others)
      = ⟨position, first (c :: rest)⟩
        :: ofPieces (position + ((first (c :: rest)).length + 1)) others := by
    intro others
    simp [ofPieces, kept, nonempty, Nat.add_assoc]
  unfold sequenceFrom
  rcases pieces_eq (c :: rest) with ⟨only, behind⟩ | more
  · rw [only, behind, head]
    simp [pieces, ofPieces]
  · rw [more, head]

/-- Texts are run through from left to right, either past a blank, or past a token with the
space behind it. -/
theorem sequence_induction {motive : Nat → Text → Prop}
    (empty : ∀ position, motive position [])
    (blank : ∀ position c rest, isBlank c → motive (position + 1) rest →
      motive position (c :: rest))
    (token : ∀ position c rest, isBlank c = false →
      motive (position + ((first (c :: rest)).length + 1))
        ((c :: rest).drop ((first (c :: rest)).length + 1)) →
      motive position (c :: rest))
    (position : Nat) (music : Text) : motive position music := by
  match music with
  | [] => exact empty position
  | c :: rest =>
      cases isBlankHead : isBlank c with
      | true =>
          exact blank position c rest isBlankHead
            (sequence_induction empty blank token (position + 1) rest)
      | false =>
          exact token position c rest isBlankHead
            (sequence_induction empty blank token _ _)
termination_by music.length
decreasing_by
  · simp only [List.length_drop, List.length_cons]
    omega
  · simp

/-- Where a token stands: behind the beginning of the text or a blank, from a character that
is not blank up to the next space. -/
theorem exists_around {token : Placed} {position : Nat} {music : Text}
    (member : token ∈ sequenceFrom position music) :
    ∃ before c after, music = before ++ c :: after ∧ isBlank c = false
      ∧ (before = [] ∨ ∃ earlier blank, before = earlier ++ [blank] ∧ isBlank blank)
      ∧ token = ⟨position + before.length, first (c :: after)⟩ := by
  induction position, music using sequence_induction with
  | empty position => simp [sequenceFrom_nil] at member
  | blank position c rest blank inductionHypothesis =>
      rw [sequenceFrom_blank blank] at member
      obtain ⟨before, d, after, rfl, solid, separated, rfl⟩ := inductionHypothesis member
      refine ⟨c :: before, d, after, by simp, solid, Or.inr ?_, by simp; omega⟩
      rcases separated with rfl | ⟨earlier, last, rfl, lastBlank⟩
      · exact ⟨[], c, rfl, blank⟩
      · exact ⟨c :: earlier, last, rfl, lastBlank⟩
  | token position c rest solid inductionHypothesis =>
      rw [sequenceFrom_token solid, List.mem_cons] at member
      rcases member with rfl | member
      · exact ⟨[], c, rest, rfl, solid, Or.inl rfl, rfl⟩
      · obtain ⟨before, d, after, behind, solidBehind, separated, rfl⟩ :=
          inductionHypothesis member
        -- A later token exists only if a space ends the first one; what is around the later
        -- token grows by the first token and that space.
        rcases eq_first_or_eq_append (c :: rest) with ⟨-, nothing⟩ | whole
        · simp [nothing] at behind
        · rw [behind] at whole
          refine ⟨first (c :: rest) ++ .scalar ' ' :: before, d, after, by simpa using whole,
            solidBehind, Or.inr ?_, by simp; omega⟩
          rcases separated with rfl | ⟨earlier, last, rfl, lastBlank⟩
          · exact ⟨first (c :: rest), .scalar ' ', rfl, isBlank_space⟩
          · exact ⟨first (c :: rest) ++ .scalar ' ' :: earlier, last, by simp, lastBlank⟩

theorem le_position {token : Placed} {position : Nat} {music : Text}
    (member : token ∈ sequenceFrom position music) : position ≤ token.position := by
  obtain ⟨before, c, after, -, -, -, rfl⟩ := exists_around member
  exact Nat.le_add_right _ _

/-- Every token begins behind the end of those before it. -/
theorem pairwise_sequenceFrom (position : Nat) (music : Text) :
    (sequenceFrom position music).Pairwise fun earlier later =>
      earlier.position + earlier.text.length < later.position := by
  induction position, music using sequence_induction with
  | empty position =>
      rw [sequenceFrom_nil]
      exact List.Pairwise.nil
  | blank position c rest blank inductionHypothesis =>
      rw [sequenceFrom_blank blank]
      exact inductionHypothesis
  | token position c rest solid inductionHypothesis =>
      rw [sequenceFrom_token solid]
      refine List.Pairwise.cons ?_ inductionHypothesis
      intro later member
      have behind := le_position member
      show position + (first (c :: rest)).length < later.position
      omega

theorem unspaced_of_mem {token : Placed} {position : Nat} {music : Text}
    (member : token ∈ sequenceFrom position music) : ∀ c ∈ token.text, isPart c := by
  obtain ⟨before, c, after, -, -, -, rfl⟩ := exists_around member
  exact fun _ => isPart_of_mem_first

theorem unspaced_sequence (music : Text) :
    ∀ token ∈ sequence music, ∀ c ∈ token.text, isPart c :=
  fun _ member => unspaced_of_mem member

theorem text_eq_first_drop {token : Placed} {music : Text} (member : token ∈ sequence music) :
    token.text = first (music.drop token.position) := by
  obtain ⟨before, c, after, rfl, -, -, rfl⟩ := exists_around member
  simp

/-- Every character that is not blank belongs to exactly one token. -/
theorem existsUnique_covers (position : Nat) {place : Nat} {music : Text} {c : CodePoint}
    (there : music[place]? = some c) (solid : isBlank c = false) :
    ∃! token, token ∈ sequenceFrom position music ∧ token.Covers (position + place) := by
  induction position, music using sequence_induction generalizing place with
  | empty position => simp at there
  | blank position d rest blank inductionHypothesis =>
      cases place with
      | zero =>
          obtain rfl : d = c := by simpa using there
          simp [blank] at solid
      | succ place =>
          have behind : rest[place]? = some c := by simpa using there
          rw [sequenceFrom_blank blank, show position + (place + 1) = position + 1 + place by omega]
          exact inductionHypothesis behind
  | token position d rest solidHead inductionHypothesis =>
      rw [sequenceFrom_token solidHead]
      rcases Nat.lt_trichotomy place (first (d :: rest)).length with inside | atEnd | behind
      · refine ⟨⟨position, first (d :: rest)⟩, ⟨by simp, by simp [Covers, inside]⟩, ?_⟩
        rintro other ⟨member, covers⟩
        rcases List.mem_cons.1 member with rfl | later
        · rfl
        · have := le_position later
          have := covers.1
          omega
      · -- The place right behind the token is that of a space, which is blank.
        rcases eq_first_or_eq_append (d :: rest) with ⟨whole, -⟩ | whole
        · rw [whole, atEnd] at there
          simp at there
        · rw [whole, atEnd] at there
          obtain rfl : .scalar ' ' = c := by simpa using there
          simp [isBlank_space] at solid
      · have whole : (first (d :: rest)).length + 1 + (place - ((first (d :: rest)).length + 1))
            = place := by omega
        have shifted : ((d :: rest).drop ((first (d :: rest)).length + 1))[place
            - ((first (d :: rest)).length + 1)]? = some c := by
          rw [List.getElem?_drop, whole, there]
        obtain ⟨token, ⟨member, covers⟩, unique⟩ := inductionHypothesis shifted
        have samePlace : position + ((first (d :: rest)).length + 1)
            + (place - ((first (d :: rest)).length + 1)) = position + place := by omega
        rw [samePlace] at covers unique
        refine ⟨token, ⟨List.mem_cons_of_mem _ member, covers⟩, ?_⟩
        rintro other ⟨otherMember, otherCovers⟩
        rcases List.mem_cons.1 otherMember with rfl | later
        · have := otherCovers.2
          simp only at this
          omega
        · exact unique other ⟨later, otherCovers⟩

/-- Words without blanks that are joined by single spaces are the tokens of the whole. -/
theorem map_text_sequence_unwords {words : List Text}
    (solid : ∀ word ∈ words, word ≠ [] ∧ ∀ c ∈ word, isBlank c = false) :
    (sequence (unwords words)).map text = words := by
  have kept : ∀ word ∈ words, word.dropWhile isBlank = word := by
    intro word member
    cases word with
    | nil => rfl
    | cons c rest =>
        exact List.dropWhile_cons_of_neg (by simp [(solid _ member).2 c (by simp)])
  have unspaced : ∀ word ∈ words, ∀ c ∈ word, isSpace c = false := by
    intro word member c inWord
    rw [isSpace_eq_not_isPart, isPart_of_not_isBlank ((solid word member).2 c inWord)]
    rfl
  rw [sequence, sequenceFrom, map_text_ofPieces]
  cases words with
  | nil => rfl
  | cons word rest =>
      have joined : pieces isSpace (unwords (word :: rest)) = word :: rest :=
        pieces_intercalate (c := ' ') rfl (by simp) unspaced
      rw [joined, List.map_congr_left kept, List.map_id', List.filter_eq_self]
      intro other member
      simpa using (solid other member).1

end Placed

end MusicText.Token
