import MusicText.Proofs.Parse.Fold

/-!
Contract: why and where a parse fails.

Owns: the tokens whose number is too long to be read, the failures that a token can have,
the first token that fails, and what a failed parse has told its listener.

Does not own: the wording of failures; see `MusicText.Failure`.

A parse fails at one token. The failure names that token's place and an end of its text,
unless the token is an over-long number.
-/

namespace MusicText

open MusicText.Text MusicText.Token MusicText.Token.Placed

namespace Token

/-- A marker with more ASCII digits behind it than a number may have. -/
def Overlong (token : Text) : Prop :=
  ∃ (marker : Marker) (digits : Text), token = marker.letter :: digits
    ∧ (∀ digit ∈ digits, digit.isDigit) ∧ 4300 < digits.length

/-- The failures of a token: a plain fault exactly when the token is overlong, else a defect
that is shown by an end of the token. -/
def FailsWith (token : Text) (failure : Failure) : Prop :=
  (Overlong token ∧ failure = .fault (.integerTooLong token.tail.length)) ∨
    (¬ Overlong token ∧ ∃ defect part, failure = .ofDefect defect part
      ∧ part ≠ [] ∧ part <:+ token)

/-! ### Values -/

theorem isNumber_iff {identifier : Text} :
    Value.isNumber identifier ↔ identifier ≠ [] ∧ ∀ c ∈ identifier, c.isDigit := by
  simp [Value.isNumber]

theorem overlong_cons_iff {marker : Marker} {identifier : Text} :
    Overlong (marker.letter :: identifier)
      ↔ Value.isNumber identifier ∧ 4300 < identifier.length := by
  constructor
  · rintro ⟨other, digits, spelled, allDigits, long⟩
    obtain ⟨-, rfl⟩ := List.cons.inj spelled
    have nonempty : identifier ≠ [] := by
      rintro rfl
      simp at long
    exact ⟨isNumber_iff.2 ⟨nonempty, allDigits⟩, long⟩
  · rintro ⟨number, long⟩
    exact ⟨marker, identifier, rfl, (isNumber_iff.1 number).2, long⟩

/-- A built-in identifier stands for a number. -/
theorem exists_integer_of_value?_builtIn {name : Text} {value : Json}
    (found : Definitions.builtIn.value? name = some value) : ∃ number, value = .integer number := by
  simp only [Definitions.value?, Definitions.builtIn, List.lookup_nil, Option.map_eq_some_iff]
    at found
  obtain ⟨program, -, rfl⟩ := found
  exact ⟨program, rfl⟩

theorem failsWith_of_value {marker : Marker} {identifier : Text} {failure : Failure}
    (refused : Value.valueOf .builtIn identifier = .error failure) :
    FailsWith (marker.letter :: identifier) failure := by
  obtain ⟨nonempty, unresolved⟩ := resolve_of_valueOf_error refused
  unfold Value.resolve at unresolved
  by_cases number : Value.isNumber identifier
  · left
    rw [if_pos number] at unresolved
    cases read : Numeral.readRun identifier with
    | ok value => simp [read] at unresolved
    | error fault =>
        obtain ⟨long, rfl⟩ := Numeral.readRun_eq_error read
        simp only [read, Except.error.injEq] at unresolved
        exact ⟨overlong_cons_iff.2 ⟨number, long⟩, unresolved.symm⟩
  · right
    refine ⟨fun overlong => number (overlong_cons_iff.1 overlong).1, ?_⟩
    rw [if_neg number] at unresolved
    simp only at unresolved
    cases found : Definitions.builtIn.value? (Value.nameOf identifier) with
    | none =>
        simp only [found, Except.error.injEq] at unresolved
        exact ⟨_, identifier, unresolved.symm, nonempty, List.suffix_cons _ _⟩
    | some value =>
        obtain ⟨program, rfl⟩ := exists_integer_of_value?_builtIn found
        simp [found, Definitions.toInteger] at unresolved

/-! ### Keys and meters -/

theorem not_overlong_of_mark {c : CodePoint} {rest : Text}
    (foreign : ∀ marker : Marker, c ≠ marker.letter) : ¬ Overlong (c :: rest) := by
  rintro ⟨marker, digits, spelled, -⟩
  exact foreign marker (List.cons.inj spelled).1

theorem failsWith_of_key {text : Text} {failure : Failure}
    (refused : Signature.readKey text = .error failure) :
    FailsWith (Signature.keyMark ++ text) failure := by
  right
  refine ⟨not_overlong_of_mark fun marker => by cases marker <;> decide, ?_⟩
  have reads := Signature.reads_readKey text
  rw [refused] at reads
  cases reads with
  | missing empty => exact ⟨_, Signature.keyMark, rfl, by decide, by simp [empty]⟩
  | refused defect nonempty => exact ⟨defect, text, rfl, nonempty, List.suffix_append _ _⟩

theorem failsWith_of_meter {token : Text} (marked : Signature.meterMark <+: token)
    (defect : TokenDefect) : FailsWith token (.ofDefect defect token) := by
  obtain ⟨rest, rfl⟩ := marked
  right
  exact ⟨not_overlong_of_mark fun marker => by cases marker <;> decide, defect, _, rfl,
    by simp [Signature.meterMark], List.suffix_refl _⟩

/-! ### Tokens -/

variable {options : Options} {token : Text} {context : Context}

theorem failsWith_of_foreign (nonempty : token ≠ [])
    (foreign : (Parser.usual options).recogniserOf? token = none) (defect : TokenDefect) :
    FailsWith token (.ofDefect defect token) := by
  right
  refine ⟨?_, defect, token, rfl, nonempty, List.suffix_refl _⟩
  rintro ⟨marker, digits, rfl, -⟩
  have valued : (Value.markerOf? (marker.letter :: digits)).isSome := by
    simp [Value.markerOf?, Marker.ofLetter?_eq_some_iff.2 rfl]
  simp [recogniserOf?_of_value options _ valued] at foreign

/-- How a token fails as long as nothing is defined beyond the built-in identifiers. -/
theorem Does.failsWith {outcome : Outcome} {failure : Failure}
    (does : Does options token context outcome) (nonempty : token ≠ [])
    (builtIn : context.definitions = .builtIn) (refused : outcome.result = .error failure) :
    FailsWith token failure := by
  cases does with
  | value | key | meter | unknown => simp [Outcome.accepted] at refused
  | valueRefused marker identifier other spelled read =>
      obtain rfl : other = failure := by simpa [Outcome.refused] using refused
      rw [builtIn] at read
      exact spelled ▸ failsWith_of_value read
  | keyRefused text other spelled read =>
      obtain rfl : other = failure := by simpa [Outcome.refused] using refused
      exact spelled ▸ failsWith_of_key read
  | meterRefused defect spelled =>
      obtain rfl : .ofDefect defect token = failure := by simpa [Outcome.refused] using refused
      exact failsWith_of_meter spelled defect
  | unknownRefused foreign strict =>
      obtain rfl : .ofDefect (.unknownToken token) token = failure := by
        simpa [Outcome.refused] using refused
      exact failsWith_of_foreign nonempty foreign _

/-- Tokens define nothing. -/
theorem Does.definitions_eq {outcome : Outcome} (does : Does options token context outcome) :
    outcome.context.definitions = context.definitions := by
  cases does <;> rfl

end Token

namespace Parser

variable {options : Options}

/-- The first token that fails in a fold: those before it are read, and nothing is told of it
or of those behind it. -/
theorem exists_first_failing {tokens : List Placed} {context : Context} {failure : Failure}
    (unspaced : ∀ token ∈ tokens, ∀ c ∈ token.text, isPart c)
    (failed : ((usual options).readAll tokens context).result = .error failure) :
    ∃ earlier token later reached cause, tokens = earlier ++ token :: later
      ∧ ((usual options).readAll earlier context).result = .ok reached
      ∧ reached.definitions = context.definitions
      ∧ ((usual options).readToken token.text reached).result = .error cause
      ∧ failure = cause.placed token.position
      ∧ ((usual options).readAll tokens context).events
          = ((usual options).readAll earlier context).events := by
  induction tokens generalizing context with
  | nil => simp [readAll_nil] at failed
  | cons token rest inductionHypothesis =>
      obtain ⟨outcome, does, same⟩ := does_readToken options (unspaced token (by simp)) context
      cases read : ((usual options).readToken token.text context).result with
      | error cause =>
          have silent : outcome = .refused context cause :=
            does.of_error ((congrArg Outcome.result same).symm.trans read)
          refine ⟨[], token, rest, context, cause, rfl, rfl, rfl, read, ?_, ?_⟩
          · rw [readAll_cons_of_error _ read] at failed
            exact (Except.error.inj failed).symm
          · have untold : ((usual options).readToken token.text context).notices.filter
                (!·.isClaim) = [] := by
              have filtered := congrArg Outcome.notices same
              rwa [silent] at filtered
            rw [readAll_cons_of_error _ read, readAll_nil, Run.events, Run.events,
              ← Run.calls_withoutClaims, Run.withoutClaims, untold]
            rfl
      | ok consumed =>
          have kept : ((usual options).readToken token.text context).context.definitions
              = context.definitions :=
            (congrArg (·.context.definitions) same).trans does.definitions_eq
          rw [readAll_cons_of_ok _ read] at failed
          -- The failing token lies behind this one; the definitions are still those of the start.
          obtain ⟨earlier, next, later, reached, cause, rfl, done, builtIn, stopped, placed,
              told⟩ :=
            inductionHypothesis
              (fun other inRest => unspaced other (List.mem_cons_of_mem _ inRest)) failed
          refine ⟨token :: earlier, next, later, reached, cause, rfl, ?_, builtIn.trans kept,
            stopped, placed, ?_⟩
          · rw [readAll_cons_of_ok _ read]
            exact done
          · rw [readAll_cons_of_ok _ read, readAll_cons_of_ok _ read, Run.events_after,
              Run.events_after, told]
            rfl

/-- A failed parse with valid defaults fails at one token: those before it are read, it is
refused in the state that they leave, and the listener is told of the start and of the
events before it only. The token begins with a character that is not blank, at the
beginning or behind a blank. The failure names the place of the token and an end of its
text, unless the token is overlong. -/
theorem run_fails_at_token {key : Key} {meter : Meter} {music : Text} {failure : Failure}
    (keyRead : Context.initialKey options = .ok key)
    (meterRead : Context.initialMeter options = .ok meter)
    (failed : ((usual options).run music).result = .error failure) :
    ∃ earlier token later reached cause,
      let before := (usual options).readAll earlier ⟨key, meter, .builtIn⟩
      let told := .start :: before.events.map .event
      sequence music = earlier ++ token :: later
        ∧ (∃ c, music[token.position]? = some c ∧ isBlank c = false)
        ∧ (token.position = 0 ∨ ∃ c, music[token.position - 1]? = some c ∧ isBlank c)
        ∧ token.text = first (music.drop token.position)
        ∧ before.result = .ok reached
        ∧ ((usual options).readToken token.text reached).result = .error cause
        ∧ ((usual options).run music).calls = told
        ∧ (∀ listener : Listener, listener.Endures ((usual options).run music) →
            (listener.hear ((usual options).run music)).listener = listener.receiveAll told
              ∧ (listener.hear ((usual options).run music)).result = .error failure)
        ∧ (Overlong token.text → failure = .fault (.integerTooLong token.text.tail.length))
        ∧ (¬ Overlong token.text → ∃ defect part,
            failure = .token ⟨defect, part, token.position⟩ ∧ part ≠ [] ∧ part <:+ token.text) := by
  have unspaced : ∀ token ∈ sequence music, ∀ c ∈ token.text, isPart c :=
    fun _ member => unspaced_of_mem member
  have foldFailed := (result_run keyRead meterRead music).symm.trans failed
  obtain ⟨earlier, token, later, reached, cause, tokens, done, builtIn, stopped, rfl, told⟩ :=
    exists_first_failing unspaced foldFailed
  have member : token ∈ sequence music := by simp [tokens]
  obtain ⟨before, c, after, split, solid, separated, placed⟩ := exists_around member
  have nonempty : token.text ≠ [] := by simp [placed, first_cons solid]
  have position : token.position = before.length := by simp [placed]
  have calls : ((usual options).run music).calls = .start ::
      ((usual options).readAll earlier ⟨key, meter, .builtIn⟩).events.map .event := by
    rw [calls_run keyRead meterRead, foldFailed, told]
    simp [Except.isOk, Except.toBool]
  obtain ⟨outcome, does, same⟩ := does_readToken options (unspaced token member) reached
  have causes : FailsWith token.text cause :=
    does.failsWith nonempty builtIn ((congrArg Outcome.result same).symm.trans stopped)
  refine ⟨earlier, token, later, reached, cause, tokens, ⟨c, ?_, solid⟩, ?_,
    text_eq_first_drop member, done, stopped, calls, ?_, ?_, ?_⟩
  · simp [split, position]
  · rcases separated with rfl | ⟨init, blank, rfl, isBlankLast⟩
    · exact Or.inl (by simp [position])
    · exact Or.inr ⟨blank, by simp [split, position], isBlankLast⟩
  · intro listener endures
    have heard := Listener.hear_of_endures endures
    rw [calls, failed] at heard
    exact heard
  · intro overlong
    rcases causes with ⟨-, rfl⟩ | ⟨short, -⟩
    · rfl
    · exact absurd overlong short
  · intro short
    rcases causes with ⟨overlong, -⟩ | ⟨-, defect, part, rfl, partNonempty, isSuffix⟩
    · exact absurd overlong short
    · exact ⟨defect, part, rfl, partNonempty, isSuffix⟩

theorem run_fails_at_token_sample :
    Context.initialKey {} = .ok ⟨⟨60, some "C".toText⟩, .major⟩
      ∧ Context.initialMeter {} = .ok ⟨4, 4, by decide, by decide⟩
      ∧ ((usual {}).run "V1 \nTIME:3 I7".toText).result
          = .error (.token ⟨.separatorMissing "3".toText, "TIME:3".toText, 4⟩)
      ∧ ∃ earlier token later, sequence "V1 \nTIME:3 I7".toText = earlier ++ token :: later
          ∧ ((usual {}).run "V1 \nTIME:3 I7".toText).calls = .start ::
              ((usual {}).readAll earlier
                ⟨⟨⟨60, some "C".toText⟩, .major⟩, ⟨4, 4, by decide, by decide⟩,
                  .builtIn⟩).events.map .event := by
  have failed : ((usual {}).run "V1 \nTIME:3 I7".toText).result
      = .error (.token ⟨.separatorMissing "3".toText, "TIME:3".toText, 4⟩) :=
    (result_run (by rfl) (by rfl) _).trans (by rfl)
  refine ⟨by rfl, by rfl, failed, ?_⟩
  obtain ⟨earlier, token, later, reached, cause, tokens, -, -, -, -, -, calls, -⟩ :=
    run_fails_at_token (by rfl) (by rfl) failed
  exact ⟨earlier, token, later, tokens, calls⟩

end Parser

end MusicText
