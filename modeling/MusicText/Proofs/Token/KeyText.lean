import MusicText.Proofs.Key.Fifths
import MusicText.Proofs.Pitch.Accidental
import MusicText.Proofs.Text.Cutting

/-!
Contract: which texts are keys.

Owns: the texts that count accidentals behind a `K` and the texts that name a chord, that no text
is of both kinds, and what is read from each.

Does not own: the names themselves; see `MusicText.Proofs.Chord.Reading`.

A text is taken for a count as soon as one accidental stands behind its `K`. The count then goes
over all of the text and leaves out what is no accidental, so `K#maj` is read like `K#`. Only a
text that is accidentals throughout is documented as a count.
-/

namespace MusicText.Token.Signature

open MusicText.Text

/-! ### Counts of accidentals -/

/-- Sharps are written one way, flats two. -/
def IsAccidental (c : CodePoint) : Prop :=
  c = '#' ∨ c = 'b' ∨ c = 'B'

instance (c : CodePoint) : Decidable (IsAccidental c) :=
  inferInstanceAs (Decidable (_ ∨ _ ∨ _))

/-- The number of sharps less the number of flats. -/
def netCount (text : Text) : Int :=
  text.count (.scalar '#') - text.count (.scalar 'b') - text.count (.scalar 'B')

/-- Whether a text begins with a `K` and an accidental. -/
def BeginsRun (text : Text) : Prop :=
  ∃ mark rest, text = .scalar 'K' :: mark :: rest ∧ IsAccidental mark

/-- Whether a text is a `K` with accidentals behind it, at least one and nothing else. -/
def IsRun (text : Text) : Prop :=
  ∃ marks, text = .scalar 'K' :: marks ∧ marks ≠ [] ∧ ∀ c ∈ marks, IsAccidental c

/-- Whether the documentation allows a text for a key: accidentals behind a `K`, at most seven on
balance, or the name of a chord. -/
def IsDocumented (text : Text) : Prop :=
  (IsRun text ∧ (netCount text).natAbs ≤ 7) ∨ ∃ key, Key.ofName text = .ok key

variable {text : Text}

theorem IsRun.beginsRun (run : IsRun text) : BeginsRun text := by
  obtain ⟨marks, rfl, nonempty, accidentals⟩ := run
  cases marks with
  | nil => exact absurd rfl nonempty
  | cons mark rest => exact ⟨mark, rest, rfl, accidentals mark List.mem_cons_self⟩

theorem countsAccidentals_cons_cons (c d : CodePoint) (rest : Text) :
    countsAccidentals (c :: d :: rest)
      = (c == 'K' && (capital d == "#".toText || capital d == "B".toText)) := by
  by_cases counting : c = 'K'
  · subst counting
    rfl
  · rw [beq_eq_false_iff_ne.2 counting, Bool.false_and]
    unfold countsAccidentals
    split
    · rename_i same
      exact absurd (List.cons.inj same).1 counting
    · rfl

theorem countsAccidentals_iff : countsAccidentals text = true ↔ BeginsRun text := by
  rcases text with _ | ⟨c, _ | ⟨mark, rest⟩⟩
  · simp [countsAccidentals, BeginsRun]
  · simp [countsAccidentals, BeginsRun]
  · -- No other character has one of these capitals, not even as a part of several.
    have marked : (capital mark == "#".toText || capital mark == "B".toText) = true
        ↔ IsAccidental mark := by
      rw [Bool.or_eq_true, beq_iff_eq, beq_iff_eq, Accidental.capital_eq_sharp_iff,
        Accidental.capital_eq_flat_iff, IsAccidental]
    rw [countsAccidentals_cons_cons, Bool.and_eq_true, beq_iff_eq, marked]
    constructor
    · rintro ⟨rfl, accidental⟩
      exact ⟨mark, rest, rfl, accidental⟩
    · rintro ⟨_, _, same, accidental⟩
      cases same
      exact ⟨rfl, accidental⟩

theorem BeginsRun.ne_nil (begins : BeginsRun text) : text ≠ [] := by
  obtain ⟨mark, rest, rfl, -⟩ := begins
  exact List.cons_ne_nil _ _

/-- No step is written `K`, so what counts accidentals names no chord. -/
theorem ofName_of_beginsRun (begins : BeginsRun text) :
    Key.ofName text = .error (.notAChord text) := by
  obtain ⟨mark, rest, rfl, -⟩ := begins
  obtain ⟨kept, stripped⟩ : ∃ kept, strip (.scalar 'K' :: mark :: rest) = .scalar 'K' :: kept :=
    exists_trim_cons (by decide) _
  have undivided : Chord.divide? (.scalar 'K' :: kept) = none := rfl
  rw [Key.ofName, Chord.ofName, stripped, undivided]
  rfl

/-! ### What is read -/

theorem readKey_of_beginsRun (begins : BeginsRun text) : readKey text = countedKey text := by
  rw [readKey, if_neg begins.ne_nil, if_pos (countsAccidentals_iff.2 begins)]

theorem exists_countedKey (small : (netCount text).natAbs ≤ 7) :
    ∃ signature : KeySignature, signature.mode = .major ∧ signature.count = netCount text
      ∧ countedKey text = .ok (⟨(⟨signature.tonic, none⟩ : Note.Spelling).note, .major⟩,
          [.accidentalsCounted text (netCount text) signature.tonic.name]) := by
  obtain ⟨signature, found, mode, count⟩ :=
    KeySignature.exists_ofCount? (netCount text) (by omega) (by omega) .major
  refine ⟨signature, mode, count, ?_⟩
  have counted : Accidental.netMarks text = netCount text := Accidental.netMarks_eq_count text
  simp only [countedKey, counted, found, Key.ofName_name]

theorem countedKey_of_large (large : 7 < (netCount text).natAbs) :
    countedKey text = .error (.ofDefect (.tooManyAccidentals (netCount text) text) text) := by
  have counted : Accidental.netMarks text = netCount text := Accidental.netMarks_eq_count text
  have missing : KeySignature.ofCount? (netCount text) .major = none :=
    dif_neg (Nat.not_le.2 large)
  simp only [countedKey, counted, missing]

theorem readKey_of_named {key : Key} (named : Key.ofName text = .ok key) :
    readKey text = .ok (key, []) := by
  have nonempty : text ≠ [] := by
    rintro rfl
    cases named
  have uncounted : ¬ countsAccidentals text = true := by
    intro counts
    cases (ofName_of_beginsRun (countsAccidentals_iff.1 counts)).symm.trans named
  simp only [readKey, if_neg nonempty, if_neg uncounted, named]

/-- What there is to read: the major key of a count, the key of a name, or a faulty token. -/
inductive Reads (text : Text) : Except Failure (Key × List Remark) → Prop
  | counted (signature : KeySignature) (begins : BeginsRun text)
      (small : (netCount text).natAbs ≤ 7) (mode : signature.mode = .major)
      (count : signature.count = netCount text) :
      Reads text (.ok (⟨(⟨signature.tonic, none⟩ : Note.Spelling).note, .major⟩,
        [.accidentalsCounted text (netCount text) signature.tonic.name]))
  | named (key : Key) (spelled : Key.ofName text = .ok key) : Reads text (.ok (key, []))
  | missing (empty : text = []) : Reads text (.error (.ofDefect .keyMissing keyMark))
  | refused (defect : TokenDefect) (nonempty : text ≠ []) :
      Reads text (.error (.ofDefect defect text))

theorem reads_readKey (text : Text) : Reads text (readKey text) := by
  by_cases begins : BeginsRun text
  · rw [readKey_of_beginsRun begins]
    rcases Nat.lt_or_ge 7 (netCount text).natAbs with large | small
    · rw [countedKey_of_large large]
      exact .refused _ begins.ne_nil
    · obtain ⟨signature, mode, count, read⟩ := exists_countedKey small
      rw [read]
      exact .counted signature begins small mode count
  · have uncounted : ¬ countsAccidentals text = true := mt countsAccidentals_iff.1 begins
    by_cases empty : text = []
    · rw [readKey, if_pos empty]
      exact .missing empty
    · cases named : Key.ofName text with
      | ok key =>
          rw [readKey_of_named named]
          exact .named key named
      | error fault =>
          simp only [readKey, if_neg empty, if_neg uncounted, named]
          exact .refused _ empty

/-! ### Acceptance -/

theorem exists_readKey_of_beginsRun (begins : BeginsRun text)
    (small : (netCount text).natAbs ≤ 7) :
    ∃ signature : KeySignature, signature.mode = .major ∧ signature.count = netCount text
      ∧ readKey text = .ok (⟨(⟨signature.tonic, none⟩ : Note.Spelling).note, .major⟩,
          [.accidentalsCounted text (netCount text) signature.tonic.name]) := by
  rw [readKey_of_beginsRun begins]
  exact exists_countedKey small

theorem exists_readKey_iff :
    (∃ key remarks, readKey text = .ok (key, remarks))
      ↔ (BeginsRun text ∧ (netCount text).natAbs ≤ 7) ∨ ∃ key, Key.ofName text = .ok key := by
  constructor
  · rintro ⟨key, remarks, read⟩
    have reads := reads_readKey text
    rw [read] at reads
    cases reads with
    | counted signature begins small => exact Or.inl ⟨begins, small⟩
    | named key named => exact Or.inr ⟨key, named⟩
  · rintro (⟨begins, small⟩ | ⟨key, named⟩)
    · obtain ⟨signature, -, -, read⟩ := exists_readKey_of_beginsRun begins small
      exact ⟨_, _, read⟩
    · exact ⟨key, [], readKey_of_named named⟩

theorem exists_defect_of_unread (unread : ¬ ∃ key remarks, readKey text = .ok (key, remarks)) :
    ∃ defect part, readKey text = .error (.ofDefect defect part) := by
  cases read : readKey text with
  | ok result => exact absurd ⟨result.1, result.2, read⟩ unread
  | error failure =>
      have reads := reads_readKey text
      rw [read] at reads
      cases reads with
      | missing => exact ⟨_, _, rfl⟩
      | refused defect => exact ⟨defect, text, rfl⟩

/-- The texts that are read and the documented ones differ in the counts that go on with something
else, and in nothing more. -/
theorem exists_readKey_iff_isDocumented :
    ((∃ key remarks, readKey text = .ok (key, remarks)) ↔ IsDocumented text)
      ↔ (BeginsRun text → (netCount text).natAbs ≤ 7 → IsRun text) := by
  rw [exists_readKey_iff, IsDocumented]
  constructor
  · intro same begins small
    rcases same.1 (Or.inl ⟨begins, small⟩) with ⟨run, -⟩ | ⟨key, named⟩
    · exact run
    · cases (ofName_of_beginsRun begins).symm.trans named
  · intro runs
    constructor
    · rintro (⟨begins, small⟩ | named)
      · exact Or.inl ⟨runs begins small, small⟩
      · exact Or.inr named
    · rintro (⟨run, small⟩ | named)
      · exact Or.inl ⟨run.beginsRun, small⟩
      · exact Or.inr named

/-- A text is read as a key exactly when it begins with a `K` and an accidental and has at most
seven accidentals on balance, or names a chord. No text does both. In the one case it is the major
key with so many accidentals, in the other the key of the name; every other text is refused as a
faulty token. A text is read exactly if it is documented, unless it is such a count and has more
than accidentals behind its `K`. -/
theorem readKey_accepts (text : Text) :
    ((∃ key remarks, readKey text = .ok (key, remarks))
        ↔ (BeginsRun text ∧ (netCount text).natAbs ≤ 7) ∨ ∃ key, Key.ofName text = .ok key)
      ∧ (BeginsRun text → Key.ofName text = .error (.notAChord text))
      ∧ (BeginsRun text → (netCount text).natAbs ≤ 7 →
          ∃ signature : KeySignature, signature.mode = .major ∧ signature.count = netCount text
            ∧ readKey text = .ok (⟨(⟨signature.tonic, none⟩ : Note.Spelling).note, .major⟩,
                [.accidentalsCounted text (netCount text) signature.tonic.name]))
      ∧ (∀ key, Key.ofName text = .ok key → readKey text = .ok (key, []))
      ∧ ((¬ ∃ key remarks, readKey text = .ok (key, remarks)) →
          ∃ defect part, readKey text = .error (.ofDefect defect part))
      ∧ (((∃ key remarks, readKey text = .ok (key, remarks)) ↔ IsDocumented text)
          ↔ (BeginsRun text → (netCount text).natAbs ≤ 7 → IsRun text)) := by
  refine ⟨exists_readKey_iff, ofName_of_beginsRun, exists_readKey_of_beginsRun, ?named,
    exists_defect_of_unread, exists_readKey_iff_isDocumented⟩
  case named =>
    intro key named
    exact readKey_of_named named

theorem readKey_accepts_sample :
    BeginsRun "K#b#x".toText ∧ (netCount "K#b#x".toText).natAbs ≤ 7
      ∧ (∃ signature : KeySignature, signature.mode = .major ∧ signature.count = 1
          ∧ readKey "K#b#x".toText = .ok (⟨(⟨signature.tonic, none⟩ : Note.Spelling).note, .major⟩,
              [.accidentalsCounted "K#b#x".toText 1 signature.tonic.name]))
      ∧ Key.ofName "Amin".toText = .ok ⟨⟨69, some "A".toText⟩, .minor⟩
      ∧ readKey "Amin".toText = .ok (⟨⟨69, some "A".toText⟩, .minor⟩, []) := by
  have begins : BeginsRun "K#b#x".toText := ⟨'#', "b#x".toText, rfl, by decide⟩
  have small : (netCount "K#b#x".toText).natAbs ≤ 7 := by decide
  have named : Key.ofName "Amin".toText = .ok ⟨⟨69, some "A".toText⟩, .minor⟩ := by rfl
  obtain ⟨-, -, counts, -⟩ := readKey_accepts "K#b#x".toText
  obtain ⟨-, -, -, names, -⟩ := readKey_accepts "Amin".toText
  exact ⟨begins, small, counts begins small, named, names _ named⟩

/-- A quality behind the accidentals is passed over. -/
theorem not_forall_readKey_iff_isDocumented :
    ¬ ∀ text, (∃ key remarks, readKey text = .ok (key, remarks)) ↔ IsDocumented text := by
  intro all
  have begins : BeginsRun "K#maj".toText := ⟨'#', "maj".toText, rfl, by decide⟩
  have small : (netCount "K#maj".toText).natAbs ≤ 7 := by decide
  obtain ⟨signature, -, -, read⟩ := exists_readKey_of_beginsRun begins small
  rcases (all _).1 ⟨_, _, read⟩ with ⟨⟨marks, spelled, -, accidentals⟩, -⟩ | ⟨key, named⟩
  · obtain ⟨-, rfl⟩ := List.cons.inj spelled
    exact absurd (accidentals 'm' (by decide)) (by decide)
  · cases (ofName_of_beginsRun begins).symm.trans named

end MusicText.Token.Signature
