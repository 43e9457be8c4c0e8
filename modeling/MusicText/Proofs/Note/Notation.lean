import MusicText.Proofs.Numeral.Reading
import MusicText.Proofs.Pitch.Folding
import MusicText.Proofs.Pitch.Marked

/-!
Contract: the notation of notes.

Owns: tones with an octave and the texts that write them, described without their reader, the note
that each of them is read as with the bounds of its value, and the notation of a tone with an
octave of at most two digits.

Does not own: the octave that a note is printed with; see `MusicText.Proofs.Note.Printing`.

Marks are no digits, so a name falls apart in one way only: a letter, all the marks behind it, and
the rest, which is the octave or nothing.
-/

namespace MusicText

open MusicText.Text

namespace Step

theorem ofLetter?_eq_some_iff {letter : CodePoint} {step : Step} :
    ofLetter? letter = some step ↔ letter = step.letter ∨ letter = step.smallLetter := by
  constructor
  · intro found
    have fits := List.find?_some found
    rcases of_decide_eq_true fits with capital | small
    · exact Or.inl capital.symm
    · exact Or.inr small.symm
  · rintro (rfl | rfl) <;> cases step <;> rfl

end Step

namespace Note

theorem isMark_of_mem_marks (accidental : Accidental) :
    ∀ mark ∈ accidental.marks Tone.noteFlat, isMark mark := by
  cases accidental <;> decide

theorem isMark_of_isDigit {c : CodePoint} (digit : c.isDigit) : isMark c = false := by
  have noSharp : c ≠ '#' := Numeral.ne_of_isDigit digit (by decide)
  have noFlat : c ≠ Tone.noteFlat := Numeral.ne_of_isDigit digit (by decide)
  simp [isMark, noSharp, noFlat]

/-- A tone, with the octave if it is mentioned. -/
structure Spelling where
  tone : Tone
  octave : Option Nat
  deriving DecidableEq, Repr

namespace Spelling

/-- The octave, which is the default one when none is mentioned. -/
def octaveOrDefault (spelling : Spelling) : Nat :=
  spelling.octave.getD defaultOctave

/-- The pitch that is spelled. Pitches count octaves from one below. -/
def pitch (spelling : Spelling) : Pitch :=
  ⟨spelling.tone.intonation, spelling.octaveOrDefault - 1⟩

/-- The height that is spelled, before folding. -/
def height (spelling : Spelling) : Int :=
  12 * spelling.octaveOrDefault + spelling.tone.halfsteps

def note (spelling : Spelling) : Note :=
  ⟨Pitch.fold spelling.height, some spelling.tone.name⟩

/-! ### Texts that write a note -/

/-- Whether digits mention an octave: there are one or two of them, or none for no octave. -/
inductive MentionsOctave : Text → Option Nat → Prop
  | omitted : MentionsOctave [] none
  | given {digits : Text} (nonempty : digits ≠ []) (short : digits.length ≤ 2)
      (numeric : ∀ c ∈ digits, c.isDigit) : MentionsOctave digits (some (decimalValue digits))

/-- Whether a text writes a spelling. Apart from blanks around it, it consists of the letter of the
step in either case, the marks of the accidental, and the octave if one is mentioned. -/
def IsWrittenAs (spelling : Spelling) (text : Text) : Prop :=
  ∃ letter digits, strip text = letter :: (spelling.tone.accidental.marks Tone.noteFlat ++ digits)
    ∧ (letter = spelling.tone.step.letter ∨ letter = spelling.tone.step.smallLetter)
    ∧ MentionsOctave digits spelling.octave

theorem MentionsOctave.isDigit {digits : Text} {octave : Option Nat}
    (mentions : MentionsOctave digits octave) : ∀ c ∈ digits, c.isDigit := by
  cases mentions with
  | omitted => simp
  | given nonempty short numeric => exact numeric

theorem MentionsOctave.octave_lt {digits : Text} {octave : Option Nat}
    (mentions : MentionsOctave digits octave) : octave.getD defaultOctave < 100 := by
  cases mentions with
  | omitted => decide
  | @given digits nonempty short numeric =>
      exact Nat.lt_of_lt_of_le (Numeral.decimalValue_lt numeric)
        (Nat.pow_le_pow_right (by decide) short)

/-! ### Reading -/

theorem readOctave?_eq_some_iff {digits : Text} {octave : Option Nat} :
    Name.readOctave? digits = some octave ↔ MentionsOctave digits octave := by
  constructor
  · intro read
    match digits with
    | [] =>
        obtain rfl := Option.some.inj read
        exact .omitted
    | [only] =>
        simp only [Name.readOctave?] at read
        split at read
        · obtain rfl := Option.some.inj read
          exact .given (by simp) (by simp) (by simpa)
        · cases read
    | [tens, units] =>
        simp only [Name.readOctave?] at read
        split at read
        · obtain rfl := Option.some.inj read
          exact .given (by simp) (by simp) (by simpa)
        · cases read
    | _ :: _ :: _ :: _ => cases read
  · rintro (_ | ⟨nonempty, short, numeric⟩)
    · rfl
    · match digits with
      | [] => exact absurd rfl nonempty
      | [only] => simp [Name.readOctave?, numeric only]
      | [tens, units] => simp [Name.readOctave?, numeric tens, numeric units]
      | _ :: _ :: _ :: rest => simp at short

/-- The marks of a name end where its digits begin. -/
theorem read?_eq_some_iff {text : Text} {name : Name} :
    Name.read? text = some name
      ↔ ∃ (step : Step) (letter : CodePoint) (marks digits : Text), text = letter :: (marks ++ digits)
        ∧ (letter = step.letter ∨ letter = step.smallLetter)
        ∧ (∀ mark ∈ marks, isMark mark) ∧ MentionsOctave digits name.octave
        ∧ name.tone = step.letter :: marks := by
  constructor
  · intro read
    cases text with
    | nil => cases read
    | cons letter rest =>
        simp only [Name.read?] at read
        split at read
        · rename_i step octave isStep isOctave
          obtain rfl := Option.some.inj read
          exact ⟨step, letter, rest.takeWhile isMark, rest.dropWhile isMark,
            by rw [List.takeWhile_append_dropWhile], Step.ofLetter?_eq_some_iff.1 isStep,
            fun _ => List.mem_takeWhile_imp, readOctave?_eq_some_iff.1 isOctave, rfl⟩
        · cases read
  · rintro ⟨step, letter, marks, digits, rfl, isStep, isMarks, mentions, tone⟩
    have boundary : ∀ c ∈ digits.head?, isMark c = false := fun c first =>
      isMark_of_isDigit (mentions.isDigit c (List.mem_of_mem_head? first))
    simp only [Name.read?, takeWhile_append_boundary isMarks boundary,
      dropWhile_append_boundary isMarks boundary, Step.ofLetter?_eq_some_iff.2 isStep,
      readOctave?_eq_some_iff.2 mentions, ← tone]

/-- The number of a spelled pitch is what its height is folded to. -/
theorem number_pitch {spelling : Spelling} (small : spelling.octaveOrDefault < 100) :
    spelling.pitch.number = .ok spelling.note.value := by
  rw [pitch, Pitch.number_intonation (by omega) (by omega), note, height, Int.sub_add_cancel]

/-! ### Values -/

theorem value_note_mem (spelling : Spelling) :
    0 ≤ spelling.note.value ∧ spelling.note.value ≤ 127 :=
  ⟨Pitch.fold_nonneg spelling.height, Pitch.fold_le spelling.height⟩

/-- Neither octaves nor their folding change a pitch class. -/
theorem value_note_emod (spelling : Spelling) :
    spelling.note.value % 12 = spelling.tone.halfsteps % 12 := by
  rw [note, Pitch.fold_emod, height]
  omega

theorem value_note_of_mem {spelling : Spelling} (lower : 0 ≤ spelling.height)
    (upper : spelling.height ≤ 127) : spelling.note.value = spelling.height :=
  Pitch.fold_of_mem lower upper

end Spelling

theorem pitchClass_note (spelling : Spelling) :
    spelling.note.pitchClass = PitchClass.ofTone spelling.tone := by
  apply Fin.ext
  simp only [pitchClass, PitchClass.ofInt, PitchClass.ofTone, spelling.value_note_emod]

theorem ofText_of_isWrittenAs {text : Text} {spelling : Spelling}
    (written : spelling.IsWrittenAs text) : ofText text = .ok spelling.note := by
  obtain ⟨letter, digits, divided, isStep, mentions⟩ := written
  have read : Name.read? (strip text) = some ⟨spelling.tone.name, spelling.octave⟩ :=
    Spelling.read?_eq_some_iff.2 ⟨spelling.tone.step, letter, _, digits, divided, isStep,
      isMark_of_mem_marks spelling.tone.accidental, mentions, rfl⟩
  have number : spelling.pitch.number = .ok spelling.note.value :=
    Spelling.number_pitch mentions.octave_lt
  simp only [ofText, read, Intonation.ofNoteName_name]
  show spelling.pitch.number.map _ = _
  rw [number]
  rfl

/-- A name whose tone can be read writes a note. -/
theorem exists_isWrittenAs {text : Text} {name : Name} {tone : Intonation}
    (read : Name.read? (strip text) = some name) (sounds : Intonation.ofNoteName name.tone = .ok tone) :
    ∃ spelling : Spelling, spelling.IsWrittenAs text := by
  obtain ⟨step, letter, marks, digits, divided, isStep, isMarks, mentions, own⟩ :=
    Spelling.read?_eq_some_iff.1 read
  rw [own, Intonation.ofNoteName_eq_ok_iff isMarks] at sounds
  obtain ⟨accidental, rfl, -⟩ := sounds
  exact ⟨⟨⟨step, accidental⟩, name.octave⟩, letter, digits, divided, isStep, mentions⟩

/-- A text that writes no note is refused. -/
theorem ofText_of_unwritten {text : Text}
    (unwritten : ¬ ∃ spelling : Spelling, spelling.IsWrittenAs text) :
    ofText text = .error (.notANote text) := by
  cases read : Name.read? (strip text) with
  | none => simp only [ofText, read]
  | some name =>
      cases sounds : Intonation.ofNoteName name.tone with
      | error fault => simp only [ofText, read, sounds]
      | ok tone => exact absurd (exists_isWrittenAs read sounds) unwritten

/-- A text is read as a note exactly when it writes one. -/
theorem ofText_eq_ok_iff {text : Text} {note : Note} :
    ofText text = .ok note
      ↔ ∃ spelling : Spelling, spelling.IsWrittenAs text ∧ note = spelling.note := by
  constructor
  · intro accepted
    by_cases written : ∃ spelling : Spelling, spelling.IsWrittenAs text
    · obtain ⟨spelling, written⟩ := written
      exact ⟨spelling, written,
        Except.ok.inj (accepted.symm.trans (ofText_of_isWrittenAs written))⟩
    · rw [ofText_of_unwritten written] at accepted
      cases accepted
  · rintro ⟨spelling, written, rfl⟩
    exact ofText_of_isWrittenAs written

theorem eq_notANote_of_ofText {text : Text} {fault : Fault} (refused : ofText text = .error fault) :
    fault = .notANote text := by
  by_cases written : ∃ spelling : Spelling, spelling.IsWrittenAs text
  · obtain ⟨spelling, written⟩ := written
    rw [ofText_of_isWrittenAs written] at refused
    cases refused
  · exact Except.error.inj (refused.symm.trans (ofText_of_unwritten written))

/-! ### Writing -/

theorem isBlank_of_mem_name {tone : Tone} {c : CodePoint} (member : c ∈ tone.name) :
    isBlank c = false := by
  obtain ⟨step, accidental⟩ := tone
  revert c
  cases step <;> cases accidental <;> decide

theorem isWrittenAs_name (tone : Tone) : (⟨tone, none⟩ : Spelling).IsWrittenAs tone.name := by
  refine ⟨tone.step.letter, [], ?_, Or.inl rfl, .omitted⟩
  rw [strip, trim_eq_self fun _ => isBlank_of_mem_name, List.append_nil]
  rfl

theorem isBlank_of_mem_name_append {tone : Tone} {octave : Nat} :
    ∀ c ∈ tone.name ++ Decimal.ofNat octave, isBlank c = false := by
  intro c member
  rcases List.mem_append.1 member with inName | inDigits
  · exact isBlank_of_mem_name inName
  · exact Numeral.isBlank_of_isDigit (Decimal.isDigit_of_mem_ofNat inDigits)

/-- An octave below a hundred is mentioned by its decimal digits. -/
theorem isWrittenAs_name_append {tone : Tone} {octave : Nat} (small : octave < 100) :
    (⟨tone, some octave⟩ : Spelling).IsWrittenAs (tone.name ++ Decimal.ofNat octave) := by
  have numeric : ∀ c ∈ Decimal.ofNat octave, c.isDigit := fun _ => Decimal.isDigit_of_mem_ofNat
  have short : (Decimal.ofNat octave).length ≤ 2 :=
    (Decimal.length_ofNat_le_iff (by decide)).2 small
  have mentions := Spelling.MentionsOctave.given (Decimal.ofNat_ne_nil octave) short numeric
  rw [Decimal.decimalValue_ofNat] at mentions
  refine ⟨tone.step.letter, Decimal.ofNat octave, ?_, Or.inl rfl, mentions⟩
  rw [strip, trim_eq_self isBlank_of_mem_name_append]
  rfl

/-- The name of a tone is the name of a note without an octave. -/
theorem ofText_name (tone : Tone) :
    ofText tone.name = .ok (⟨tone, none⟩ : Spelling).note :=
  ofText_of_isWrittenAs (isWrittenAs_name tone)

end Note

end MusicText
