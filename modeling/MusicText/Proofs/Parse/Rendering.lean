import MusicText.Proofs.Event.Notation
import MusicText.Proofs.Parse.Single

/-!
Contract: keys that are shown and read back.

Owns: the agreement of a key with what is read from its name.

Does not own: the common names that events are written with; see `MusicText.Proofs.Event.Notation`.
The parse of a single token; see `MusicText.Proofs.Parse.Single`.

A key is shown with the tone that its root was spelled with. Read back, the tone is the same, and
the octave is the default one: keys are compared by pitch class, which no octave changes.
-/

namespace MusicText

open MusicText.Text MusicText.Token MusicText.Token.Placed

namespace Parser

variable {options : Options}

/-- Music that is one token without blanks reports its event between the start and the end. -/
theorem run_of_accepted {token : Text} {initial next : Context} {happening : Event}
    (valid : Context.ofOptions options = .ok initial) (nonempty : token ≠ [])
    (solid : ∀ c ∈ token, isBlank c = false) (remarks : List Remark)
    (accepted : effect options token initial
      = .accepted next (remarks.map .remark ++ [.call (.event happening)]) token) :
    ((usual options).run token).result = .ok next
      ∧ ((usual options).run token).calls = [.start, .event happening, .finish] := by
  have single : IsSingle (token ++ []) := isSingle_append nonempty solid (by simp)
  rw [List.append_nil] at single
  exact run_single_of_accepted valid single remarks accepted

end Parser

namespace Key

/-- A key with a provided root in either mode reads back from its name, by itself and as a token.
The token reports the key's pitch class and mode and nothing else, and leaves a
key of the same pitch class, mode and spelling in force. -/
theorem run_reads_back_rendered {root : Note} (provided : root.Provided) (mode : Mode)
    {options : Options} {initial : Context} (valid : Context.ofOptions options = .ok initial) :
    let key : Key := ⟨root, mode⟩
    let run := (Parser.usual options).run (Signature.keyMark ++ key.toText)
    (∃ again, Key.ofName key.toText = .ok again ∧ again.agrees key)
      ∧ run.calls = [.start, .event (.key root.pitchClass.toInt mode.code), .finish]
      ∧ ∃ reached, run.result = .ok reached
        ∧ reached.key.agrees key
        ∧ reached.key.root.toneName = root.toneName
        ∧ reached.meter = initial.meter := by
  intro key run
  obtain ⟨tone, spelled⟩ := provided.exists_spells
  let again : Key := ⟨(⟨tone, none⟩ : Note.Spelling).note, mode⟩
  have shown : key.toText = tone.name ++ mode.abbreviation := by
    rw [toText, spelled.toneName_eq]
  have sameClass : again.root.pitchClass = root.pitchClass := by
    rw [spelled.pitchClass_eq]
    exact Note.pitchClass_note _
  have agrees : again.agrees key := by
    simp [Key.agrees, key, again, sameClass]
  have solid : ∀ c ∈ Signature.keyMark ++ key.toText, isBlank c = false := by
    intro c member
    rw [shown] at member
    exact Signature.isBlank_of_mem_keyToken member
  have accepted : effect options (Signature.keyMark ++ key.toText) initial
      = .accepted { initial with key := again }
          ([].map .remark ++ [.call (.event (Signature.keyEvent again))])
          (Signature.keyMark ++ key.toText) := by
    apply effect_key
    · exact fun c member => isPart_of_not_isBlank (solid c member)
    · rw [shown]
      exact Signature.readKey_name tone mode
  obtain ⟨result, calls⟩ := Parser.run_of_accepted valid
    (by simp [Signature.keyMark]) solid [] accepted
  refine ⟨⟨again, ?named, agrees⟩, ?told, _, result, agrees, ?spelled, rfl⟩
  case named =>
    rw [shown]
    exact ofName_name tone mode
  case told =>
    rw [Signature.keyEvent, sameClass] at calls
    exact calls
  case spelled =>
    rw [spelled.toneName_eq]
    rfl

theorem run_reads_back_rendered_sample :
    let key : Key := ⟨⟨119, some "Cb".toText⟩, .minor⟩
    let run := (Parser.usual {}).run "KEY:Cbmin".toText
    Note.ofText "Cb99".toText = .ok key.root
      ∧ Context.ofOptions {} = .ok ⟨⟨⟨60, some "C".toText⟩, .major⟩, ⟨4, 4, by decide, by decide⟩,
          .builtIn⟩
      ∧ run.calls = [.start, .event (.key 11 (-1)), .finish]
      ∧ ∃ reached, run.result = .ok reached ∧ reached.key.agrees key := by
  intro key run
  have accepted : Note.ofText "Cb99".toText = .ok key.root := by rfl
  have valid : Context.ofOptions {} = .ok ⟨⟨⟨60, some "C".toText⟩, .major⟩,
      ⟨4, 4, by decide, by decide⟩, .builtIn⟩ := by rfl
  obtain ⟨-, calls, reached, result, agrees, -⟩ :=
    run_reads_back_rendered (.read accepted) .minor valid
  exact ⟨accepted, valid, calls, reached, result, agrees⟩

end Key

end MusicText
