import MusicText.Key
import MusicText.Proofs.Interval.Naming

/-!
Contract: the third of a chord and the mode of its key.

Owns: what a token denotes, the plain way of writing it, and the mode of a chord told from the
thirds that its tokens denote.

Does not own: the notes of a chord; see `MusicText.Proofs.Chord.Reading`.

Half-steps are read from any token with a degree, in whatever way its accidentals are written. The
mode is read from the text of the tokens, so it sees the thirds that are written plainly and no
others.
-/

namespace MusicText

open MusicText.Text

namespace Interval

/-- Whether a token denotes a degree that is altered by so many half-steps: this is its number,
and these are its sharps less its flats. -/
structure Denotes (token : Text) (number : Nat) (alteration : Int) : Prop where
  degree_eq : degree token = .ok number
  netMarks_eq : Accidental.netMarks token = alteration

theorem Denotes.unique {token : Text} {number other : Nat} {alteration otherAlteration : Int}
    (denotes : Denotes token number alteration) (again : Denotes token other otherAlteration) :
    number = other ∧ alteration = otherAlteration :=
  ⟨Except.ok.inj (denotes.degree_eq.symm.trans again.degree_eq),
    denotes.netMarks_eq.symm.trans again.netMarks_eq⟩

def SameInterval (token other : Text) : Prop :=
  ∃ number alteration, Denotes token number alteration ∧ Denotes other number alteration

theorem SameInterval.denotes_iff {token other : Text} {number : Nat} {alteration : Int}
    (same : SameInterval token other) :
    Denotes token number alteration ↔ Denotes other number alteration := by
  obtain ⟨_, _, first, second⟩ := same
  constructor
  · intro denotes
    obtain ⟨rfl, rfl⟩ := first.unique denotes
    exact second
  · intro denotes
    obtain ⟨rfl, rfl⟩ := second.unique denotes
    exact first

/-- The plain token of an altered degree: one flat or one sharp for each half-step, in front of
the number. -/
def plainToken (number : Nat) (alteration : Int) : Text :=
  List.replicate alteration.natAbs (if alteration < 0 then Tone.noteFlat else '#')
    ++ Decimal.ofNat number

/-- Whether a token is written plainly. -/
def Plain (token : Text) : Prop :=
  ∃ number alteration, token = plainToken number alteration

theorem netMarks_plainToken (number : Nat) (alteration : Int) :
    Accidental.netMarks (plainToken number alteration) = alteration := by
  rw [plainToken, netMarks_append_ofNat, Accidental.netMarks_eq_count, List.count_replicate,
    List.count_replicate, List.count_replicate]
  by_cases flat : alteration < 0
  · rw [if_pos flat, if_neg (by decide), if_pos (by decide), if_neg (by decide)]
    omega
  · rw [if_neg flat, if_pos (by decide), if_neg (by decide), if_neg (by decide)]
    omega

theorem degree_plainToken (number : Nat) (alteration : Int) :
    degree (plainToken number alteration) = Numeral.readRun (Decimal.ofNat number) := by
  have unnumbered : ∀ c ∈ List.replicate alteration.natAbs
      (if alteration < 0 then Tone.noteFlat else '#'), isDecimalDigit c = false := by
    intro c member
    rw [List.eq_of_mem_replicate member]
    split <;> decide
  rw [degree, plainToken, degreeDigits_append unnumbered isDecimalDigit_of_mem_ofNat]

/-- A plain token denotes what it is the plain token of, and nothing else. -/
theorem eq_plainToken {token : Text} {number : Nat} {alteration : Int} (plain : Plain token)
    (denotes : Denotes token number alteration) : token = plainToken number alteration := by
  obtain ⟨own, ownAlteration, rfl⟩ := plain
  have sameAlteration := denotes.netMarks_eq
  rw [netMarks_plainToken] at sameAlteration
  have read := denotes.degree_eq
  rw [degree_plainToken, Numeral.readRun, Numeral.valueOf_ofNat] at read
  split at read
  · cases read
  · rw [Except.ok.inj read, sameAlteration]

theorem denotes_plainToken {number : Nat} {alteration : Int}
    (short : number < 10 ^ Numeral.digitLimit) :
    Denotes (plainToken number alteration) number alteration :=
  ⟨by rw [degree_plainToken, Numeral.readRun_ofNat short], netMarks_plainToken number alteration⟩

end Interval

namespace Chord

open MusicText.Interval

theorem exists_plain_iff {tokens : List Text} {number : Nat} {alteration : Int}
    (short : number < 10 ^ Numeral.digitLimit) :
    (∃ token ∈ tokens, Plain token ∧ Denotes token number alteration)
      ↔ plainToken number alteration ∈ tokens := by
  constructor
  · rintro ⟨token, member, plain, denotes⟩
    rwa [eq_plainToken plain denotes] at member
  · intro member
    exact ⟨_, member, ⟨number, alteration, rfl⟩, denotes_plainToken short⟩

theorem three_short : 3 < 10 ^ Numeral.digitLimit :=
  Nat.lt_of_lt_of_le (by decide : 3 < 10 ^ 1) (Nat.pow_le_pow_right (by decide) (by decide))

theorem isMinor_iff (chord : Chord) :
    chord.isMinor ↔ ∃ token ∈ chord.tokens, Plain token ∧ Denotes token 3 (-1) := by
  rw [exists_plain_iff three_short, isMinor, List.contains_iff_mem]
  rfl

theorem isMajor_iff (chord : Chord) :
    chord.isMajor ↔ ∃ token ∈ chord.tokens, Plain token ∧ Denotes token 3 0 := by
  rw [exists_plain_iff three_short, isMajor, List.contains_iff_mem]
  rfl

theorem mode_ofChord_eq_minor_iff (chord : Chord) :
    (Key.ofChord chord).mode = .minor ↔ chord.isMinor := by
  cases third : chord.isMinor <;> simp [Key.ofChord, third]

theorem mode_ofChord_eq_major_iff (chord : Chord) :
    (Key.ofChord chord).mode = .major ↔ ¬ chord.isMinor := by
  cases third : chord.isMinor <;> simp [Key.ofChord, third]

/-- Whether every third among some tokens, in whatever way it is altered, is written plainly. -/
def PlainThirds (tokens : List Text) : Prop :=
  ∀ token ∈ tokens, ∀ alteration, Denotes token 3 alteration → Plain token

theorem exists_denotes_iff {tokens : List Text} (plain : PlainThirds tokens) (alteration : Int) :
    (∃ token ∈ tokens, Denotes token 3 alteration)
      ↔ ∃ token ∈ tokens, Plain token ∧ Denotes token 3 alteration := by
  constructor
  · rintro ⟨token, member, denotes⟩
    exact ⟨token, member, plain token member alteration denotes, denotes⟩
  · rintro ⟨token, member, -, denotes⟩
    exact ⟨token, member, denotes⟩

theorem exists_denotes_congr {tokens others : List Text}
    (same : List.Forall₂ SameInterval tokens others) (number : Nat) (alteration : Int) :
    (∃ token ∈ tokens, Denotes token number alteration)
      ↔ ∃ token ∈ others, Denotes token number alteration := by
  induction same with
  | nil => rfl
  | cons first _ inductionHypothesis =>
      simp only [List.mem_cons, exists_eq_or_imp, first.denotes_iff, inductionHypothesis]

/-- A chord is minor exactly when some token denotes a flat third in the plain way, and major
exactly when some token denotes a third without alteration in the plain way; its key is minor or
major as the chord is minor or not. So where no third is written in another way, it is the thirds
that the half-steps are read from which decide the mode, and two patterns of the same degrees and
alterations have keys of the same mode. -/
theorem plain_third_decides_mode (chord : Chord) :
    (chord.isMinor ↔ ∃ token ∈ chord.tokens, Plain token ∧ Denotes token 3 (-1))
      ∧ (chord.isMajor ↔ ∃ token ∈ chord.tokens, Plain token ∧ Denotes token 3 0)
      ∧ ((Key.ofChord chord).mode = .minor ↔ chord.isMinor)
      ∧ ((Key.ofChord chord).mode = .major ↔ ¬ chord.isMinor)
      ∧ (PlainThirds chord.tokens →
          (chord.isMinor ↔ ∃ token ∈ chord.tokens, Denotes token 3 (-1))
            ∧ (chord.isMajor ↔ ∃ token ∈ chord.tokens, Denotes token 3 0)
            ∧ ((Key.ofChord chord).mode = .minor ↔ ∃ token ∈ chord.tokens, Denotes token 3 (-1))
            ∧ ∀ other : Chord, PlainThirds other.tokens →
                List.Forall₂ SameInterval chord.tokens other.tokens →
                (Key.ofChord other).mode = (Key.ofChord chord).mode) := by
  refine ⟨chord.isMinor_iff, chord.isMajor_iff, mode_ofChord_eq_minor_iff chord,
    mode_ofChord_eq_major_iff chord, ?_⟩
  intro plain
  have minor : chord.isMinor ↔ ∃ token ∈ chord.tokens, Denotes token 3 (-1) := by
    rw [exists_denotes_iff plain, isMinor_iff]
  have major : chord.isMajor ↔ ∃ token ∈ chord.tokens, Denotes token 3 0 := by
    rw [exists_denotes_iff plain, isMajor_iff]
  refine ⟨minor, major, (mode_ofChord_eq_minor_iff chord).trans minor, ?_⟩
  intro other otherPlain same
  have otherMinor : other.isMinor ↔ chord.isMinor := by
    rw [minor, exists_denotes_congr same, exists_denotes_iff otherPlain, isMinor_iff]
  cases mode : (Key.ofChord chord).mode with
  | minor => rwa [mode_ofChord_eq_minor_iff, otherMinor, ← mode_ofChord_eq_minor_iff]
  | major => rwa [mode_ofChord_eq_major_iff, otherMinor, ← mode_ofChord_eq_major_iff]

theorem plain_third_decides_mode_sample :
    let chord : Chord := ⟨⟨60, none⟩, ["1", "b3", "B7"].map String.toText⟩
    let other : Chord := ⟨⟨62, none⟩, ["01", "b3", "b7"].map String.toText⟩
    PlainThirds chord.tokens ∧ PlainThirds other.tokens
      ∧ List.Forall₂ SameInterval chord.tokens other.tokens
      ∧ (∃ token ∈ chord.tokens, Denotes token 3 (-1))
      ∧ (Key.ofChord chord).mode = .minor ∧ (Key.ofChord other).mode = .minor := by
  intro chord other
  have plainly : ∀ tokens : List Text,
      (∀ token ∈ tokens, degree token = .ok 3 → token = plainToken 3 (-1)) →
        PlainThirds tokens := by
    intro tokens written token member alteration denotes
    exact ⟨3, -1, written token member denotes.degree_eq⟩
  have plain : PlainThirds chord.tokens := plainly _ (by decide +kernel)
  have otherPlain : PlainThirds other.tokens := plainly _ (by decide +kernel)
  have same : List.Forall₂ SameInterval chord.tokens other.tokens :=
    .cons ⟨1, 0, ⟨by rfl, by rfl⟩, ⟨by rfl, by rfl⟩⟩
      (.cons ⟨3, -1, ⟨by rfl, by rfl⟩, ⟨by rfl, by rfl⟩⟩
        (.cons ⟨7, -1, ⟨by rfl, by rfl⟩, ⟨by rfl, by rfl⟩⟩ .nil))
  have flat : ∃ token ∈ chord.tokens, Denotes token 3 (-1) :=
    ⟨"b3".toText, by decide, by rfl, by rfl⟩
  obtain ⟨-, -, -, -, decides⟩ := plain_third_decides_mode chord
  obtain ⟨-, -, minor, others⟩ := decides plain
  exact ⟨plain, otherPlain, same, flat, minor.2 flat,
    (others other otherPlain same).trans (minor.2 flat)⟩

/-- A flat third that is written with a capital is one for the half-steps, but not for the mode. -/
theorem not_forall_isMinor_iff :
    ¬ ∀ (chord : Chord) (steps : List Int), chord.intervals.halfsteps = .ok steps →
      (chord.isMinor ↔ ∃ token ∈ chord.tokens, Denotes token 3 (-1)) := by
  intro claim
  let chord : Chord := ⟨⟨60, some "C".toText⟩, ["1", "B3", "5"].map String.toText⟩
  have resolves : chord.intervals.halfsteps = .ok [0, 3, 7] := by rfl
  have flat : Denotes "B3".toText 3 (-1) := ⟨by rfl, by rfl⟩
  have minor : chord.isMinor := (claim chord _ resolves).2 ⟨_, by decide, flat⟩
  exact absurd minor (by decide)

end Chord

end MusicText
