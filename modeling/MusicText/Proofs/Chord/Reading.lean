import MusicText.Proofs.Chord.Division
import MusicText.Proofs.Interval.Pattern

/-!
Contract: which names are chords.

Owns: the chord that is read from a name that falls apart, the notes of its pattern, and the
refusal of every other name.

Does not own: the parts of a name; see `MusicText.Proofs.Chord.Division`.
-/

namespace MusicText.Chord

open MusicText.Text

/-! ### Patterns of the table -/

theorem mem_qualities_iff {quality : Text} :
    quality ∈ qualities.map Prod.fst ↔ ∃ tokens, qualityTokens? quality = some tokens := by
  rw [← Option.isSome_iff_exists, qualityTokens?, List.lookup_isSome_iff, List.mem_map]
  simp only [beq_iff_eq, eq_comm (a := quality)]

/-- Every pattern of the table begins with the unison, and all its tokens have half-steps. -/
theorem unison_qualities : ∀ entry ∈ qualities, entry.2.head? = some "1".toText
    ∧ ∀ token ∈ entry.2, (Interval.halfsteps token).toOption.isSome := by
  decide +kernel

theorem mem_of_qualityTokens? {quality : Text} {tokens : List Text}
    (known : qualityTokens? quality = some tokens) : (quality, tokens) ∈ qualities := by
  obtain ⟨before, behind, table, -⟩ := List.lookup_eq_some_iff.1 known
  rw [table]
  simp

theorem exists_notes_of_known {quality : Text} {tokens : List Text}
    (known : qualityTokens? quality = some tokens) (root : Note) :
    ∃ first later, notes ⟨root, tokens⟩ = .ok (first :: later) ∧ first.value = root.value := by
  obtain ⟨unison, resolved⟩ := unison_qualities _ (mem_of_qualityTokens? known)
  have readable : ∀ token ∈ tokens, ∃ step, Interval.halfsteps token = .ok step := by
    intro token member
    have known := resolved token member
    cases read : Interval.halfsteps token with
    | error fault => simp [read, Except.toOption] at known
    | ok step => exact ⟨step, rfl⟩
  obtain ⟨steps, resolves⟩ : ∃ steps, Intervals.halfsteps ⟨tokens, some root⟩ = .ok steps :=
    Intervals.exists_halfsteps_iff.2 readable
  obtain ⟨rest, rfl⟩ : ∃ rest, tokens = "1".toText :: rest := by
    cases tokens with
    | nil => cases unison
    | cons token rest => exact ⟨rest, congrArg (· :: rest) (Option.some.inj unison)⟩
  cases Intervals.halfsteps_eq_ok_iff.1 resolves with
  | @cons _ step _ others first later =>
      obtain rfl : step = 0 := (Except.ok.inj first).symm
      refine ⟨⟨root.value + 0, none⟩, others.map fun step => ⟨root.value + step, none⟩, ?_,
        Int.add_zero root.value⟩
      simp only [notes, intervals, Intervals.notes, Intervals.resolve, resolves, Except.map,
        List.map_cons]

/-! ### Reading -/

variable {name : Text} {letter : CodePoint} {division : Division}

/-- The chord of a name that falls apart has the note of its first parts for a root, and the
tokens of its quality. -/
theorem FallsApart.ofName_eq (apart : FallsApart name letter division) :
    ∃ root tokens, Note.ofText (letter :: (division.marks ++ division.digits)) = .ok root
      ∧ qualityTokens? (upper division.quality) = some tokens
      ∧ ofName name = .ok ⟨root, tokens⟩ := by
  obtain ⟨spelling, parts⟩ := apart.root
  obtain ⟨tokens, known⟩ := mem_qualities_iff.1 apart.known
  have read := Note.ofText_of_isWrittenAs parts.isWrittenAs
  refine ⟨spelling.note, tokens, read, known, ?_⟩
  simp only [ofName, apart.divide?_eq, known, read]

/-- Why a name may be refused: it cannot be divided, its quality is not known, or what stands in
front of the quality is no note. -/
inductive Refuses (name : Text) : Fault → Prop
  | undivided : Refuses name (.notAChord name)
  | unknown (quality : Text) : Refuses name (.unknownQuality quality name)
  | rootless (root : Text) : Refuses name (.notANote root)

theorem fallsApart_or_refused (name : Text) :
    (∃ letter division, FallsApart name letter division)
      ∨ ∃ fault, ofName name = .error fault ∧ Refuses name fault := by
  cases divided : divide? (strip name) with
  | none =>
      right
      refine ⟨.notAChord name, ?_, .undivided⟩
      simp only [ofName, divided]
  | some parts =>
      obtain ⟨letter, division⟩ := parts
      cases known : qualityTokens? (upper division.quality) with
      | none =>
          right
          refine ⟨.unknownQuality (upper division.quality) name, ?_, .unknown _⟩
          simp only [ofName, divided, known]
      | some tokens =>
          cases read : Note.ofText (letter :: (division.marks ++ division.digits)) with
          | error fault =>
              right
              obtain rfl := Note.eq_notANote_of_ofText read
              refine ⟨.notANote (letter :: (division.marks ++ division.digits)), ?_, .rootless _⟩
              simp only [ofName, divided, known, read]
          | ok root =>
              left
              exact ⟨letter, division,
                fallsApart_of_divide? divided (mem_qualities_iff.2 ⟨tokens, known⟩) read⟩

/-- A name is read as a chord exactly when it falls apart into a letter, the marks of an
accidental, at most two digits and a rest whose capitals are a known quality. It does so in one
way only. The root of the chord is the note that is read from the first three parts, its pattern
is that of the quality with this root, and the first of its notes is the root. Every other name is
refused. -/
theorem ofName_accepts_divided (name : Text) :
    ((∃ chord, ofName name = .ok chord) ↔ ∃ letter division, FallsApart name letter division)
      ∧ (∀ letter division, FallsApart name letter division →
          (∀ otherLetter other, FallsApart name otherLetter other →
            otherLetter = letter ∧ other = division)
          ∧ ∃ root tokens, Note.ofText (letter :: (division.marks ++ division.digits)) = .ok root
            ∧ qualityTokens? (upper division.quality) = some tokens
            ∧ ofName name = .ok ⟨root, tokens⟩
            ∧ intervals ⟨root, tokens⟩ = ⟨tokens, some root⟩
            ∧ ∃ first later, notes ⟨root, tokens⟩ = .ok (first :: later) ∧ first.sounds root)
      ∧ ((¬ ∃ letter division, FallsApart name letter division) →
          ∃ fault, ofName name = .error fault ∧ Refuses name fault) := by
  refine ⟨⟨?divided, ?read⟩, ?parts, ?refused⟩
  case divided =>
    rintro ⟨chord, read⟩
    apply (fallsApart_or_refused name).resolve_right
    rintro ⟨fault, refused, -⟩
    cases read.symm.trans refused
  case read =>
    rintro ⟨letter, division, apart⟩
    obtain ⟨root, tokens, -, -, read⟩ := apart.ofName_eq
    exact ⟨⟨root, tokens⟩, read⟩
  case parts =>
    intro letter division apart
    refine ⟨fun _ _ => apart.unique, ?_⟩
    obtain ⟨root, tokens, rootRead, known, read⟩ := apart.ofName_eq
    obtain ⟨first, later, resolved, same⟩ := exists_notes_of_known known root
    exact ⟨root, tokens, rootRead, known, read, rfl, first, later, resolved, beq_iff_eq.2 same⟩
  case refused => exact (fallsApart_or_refused name).resolve_left

theorem ofName_accepts_divided_sample :
    let division : Division := ⟨"b".toText, "4".toText, "Dom7".toText⟩
    FallsApart " bb4Dom7".toText 'b' division
      ∧ (∃ root tokens, Note.ofText "bb4".toText = .ok root
        ∧ qualityTokens? "DOM7".toText = some tokens
        ∧ ofName " bb4Dom7".toText = .ok ⟨root, tokens⟩
        ∧ ∃ first later, notes ⟨root, tokens⟩ = .ok (first :: later) ∧ first.sounds root)
      ∧ ∃ fault, ofName "C#bmaj".toText = .error fault ∧ Refuses "C#bmaj".toText fault := by
  intro division
  have apart : FallsApart " bb4Dom7".toText 'b' division :=
    ⟨by rfl, ⟨⟨⟨.b, .flat⟩, some 4⟩, Or.inr rfl, rfl,
      .given (by decide) (by decide) (by decide)⟩, by decide +kernel⟩
  obtain ⟨-, reads, -⟩ := ofName_accepts_divided " bb4Dom7".toText
  obtain ⟨-, root, tokens, rootRead, known, read, -, resolved⟩ := reads 'b' division apart
  obtain ⟨accepts, -, refuses⟩ := ofName_accepts_divided "C#bmaj".toText
  have refused : ofName "C#bmaj".toText = .error (.notANote "C#b".toText) := by rfl
  refine ⟨apart, ⟨root, tokens, rootRead, known, read, resolved⟩, refuses ?_⟩
  intro wrong
  obtain ⟨chord, accepted⟩ := accepts.2 wrong
  cases refused.symm.trans accepted

end MusicText.Chord
