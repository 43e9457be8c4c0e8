import MusicText.Key
import MusicText.Proofs.Chord.Reading

/-!
Contract: names of keys that read back.

Owns: the key of a tone name with the abbreviation of a mode.

Does not own: the note of a tone name, see `MusicText.Proofs.Note.Notation`; which names are read
at all, see `MusicText.Proofs.Chord.Reading`.
-/

namespace MusicText

open MusicText.Text

namespace Key

/-- The tokens of the chord that stands for a mode in key names. -/
def tokensOfMode : Mode → List Text
  | .major => [['1'], ['3'], ['5']]
  | .minor => [['1'], ['b', '3'], ['5']]

theorem qualityTokens?_abbreviation (mode : Mode) :
    Chord.qualityTokens? (upper mode.abbreviation) = some (tokensOfMode mode) := by
  cases mode <;> rfl

theorem ofChord_tokensOfMode (root : Note) (mode : Mode) :
    ofChord ⟨root, tokensOfMode mode⟩ = ⟨root, mode⟩ := by
  cases mode <;> rfl

theorem isBlank_of_mem_abbreviation (mode : Mode) : ∀ c ∈ mode.abbreviation, isBlank c = false := by
  cases mode <;> decide

theorem fallsApart_name (tone : Tone) (mode : Mode) :
    Chord.FallsApart (tone.name ++ mode.abbreviation) tone.step.letter
      ⟨tone.accidental.marks Tone.noteFlat, [], mode.abbreviation⟩ := by
  have solid : ∀ c ∈ tone.name ++ mode.abbreviation, isBlank c = false := by
    intro c member
    rcases List.mem_append.1 member with inName | inMode
    · exact Note.isBlank_of_mem_name inName
    · exact isBlank_of_mem_abbreviation mode c inMode
  refine ⟨?_, ⟨⟨tone, none⟩, Or.inl rfl, rfl, .omitted⟩, ?_⟩
  · rw [strip, trim_eq_self solid, Chord.Division.text, List.append_nil]
    rfl
  · exact Chord.mem_qualities_iff.2 ⟨_, qualityTokens?_abbreviation mode⟩

/-- The name of a tone with the abbreviation of a mode is the name of their key. -/
theorem ofName_name (tone : Tone) (mode : Mode) :
    ofName (tone.name ++ mode.abbreviation)
      = .ok ⟨(⟨tone, none⟩ : Note.Spelling).note, mode⟩ := by
  obtain ⟨root, tokens, rootRead, known, read⟩ := (fallsApart_name tone mode).ofName_eq
  obtain rfl : (⟨tone, none⟩ : Note.Spelling).note = root := by
    rw [List.append_nil] at rootRead
    exact Except.ok.inj ((Note.ofText_name tone).symm.trans rootRead)
  obtain rfl := Option.some.inj ((qualityTokens?_abbreviation mode).symm.trans known)
  rw [ofName, read]
  exact congrArg Except.ok (ofChord_tokensOfMode _ mode)

end Key

end MusicText
