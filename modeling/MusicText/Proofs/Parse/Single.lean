import MusicText.Proofs.Parse.Fold

/-!
Contract: the parse of music that is one token.

Owns: the token of such music, and the parse as the effect of this token between the start and
the end.

Does not own: the effects of tokens; see `MusicText.Proofs.Token.Effect`.

Blanks other than the space may stand within a token and at its end, but none at its beginning.
-/

namespace MusicText.Parser

open MusicText.Text MusicText.Token MusicText.Token.Placed

/-- Whether a text is one token: it holds no space, and does not begin with a blank. -/
structure IsSingle (text : Text) : Prop where
  unspaced : ∀ c ∈ text, isPart c
  begins : ∃ c ∈ text.head?, isBlank c = false

/-- A mark of some kind of tokens makes a token of every text without spaces. -/
theorem isSingle_append {mark : Text} (nonempty : mark ≠ [])
    (solid : ∀ c ∈ mark, isBlank c = false) {text : Text} (unspaced : ∀ c ∈ text, isPart c) :
    IsSingle (mark ++ text) := by
  cases mark with
  | nil => exact absurd rfl nonempty
  | cons c others =>
      refine ⟨?_, c, rfl, solid c List.mem_cons_self⟩
      intro d member
      rcases List.mem_append.1 member with inMark | inText
      · exact isPart_of_not_isBlank (solid d inMark)
      · exact unspaced d inText

variable {options : Options} {token : Text} {initial : Context}

theorem sequence_eq_singleton (single : IsSingle token) : sequence token = [⟨0, token⟩] := by
  obtain ⟨unspaced, c, begins, solid⟩ := single
  cases token with
  | nil => simp at begins
  | cons d rest =>
      obtain rfl : d = c := Option.some.inj begins
      have nothing : (d :: rest).drop ((d :: rest).length + 1) = [] := by simp
      rw [Placed.sequence, sequenceFrom_token solid, first_eq_self unspaced, nothing, sequenceFrom_nil]

/-- Music that is one token reports the token's event between the start and the end. -/
theorem run_single_of_accepted {next : Context} {happening : Event}
    (valid : Context.ofOptions options = .ok initial) (single : IsSingle token)
    (remarks : List Remark)
    (accepted : effect options token initial
      = .accepted next (remarks.map .remark ++ [.call (.event happening)]) token) :
    ((usual options).run token).result = .ok next
      ∧ ((usual options).run token).calls = [.start, .event happening, .finish] := by
  obtain ⟨⟨consumed, done⟩, after, told⟩ :=
    readToken_of_accepted options single.unspaced remarks accepted
  obtain ⟨result, calls⟩ := run_eq_readAll_of_valid valid token
  have fold : (usual options).readAll (sequence token) initial
      = ⟨((usual options).readToken token initial).notices, .ok next⟩ := by
    rw [sequence_eq_singleton single, readAll_cons_of_ok _ done, readAll_nil, after, Run.after,
      List.append_nil]
  rw [after] at told
  rw [fold] at result calls
  refine ⟨result, ?_⟩
  rw [calls, told]
  rfl

/-- Music that is one refused token fails at its beginning and reports nothing but the start. -/
theorem run_single_of_refused {failure : Failure} (valid : Context.ofOptions options = .ok initial)
    (single : IsSingle token) (refused : effect options token initial = .refused initial failure) :
    ((usual options).run token).result = .error (failure.placed 0)
      ∧ ((usual options).run token).calls = [.start] := by
  have same := withoutClaim_readToken options token initial
  rw [first_eq_self single.unspaced, refused] at same
  have failed : ((usual options).readToken token initial).result = .error failure :=
    congrArg Outcome.result same
  obtain ⟨result, calls⟩ := run_eq_readAll_of_valid valid token
  have fold : (usual options).readAll (sequence token) initial
      = ⟨((usual options).readToken token initial).notices, .error (failure.placed 0)⟩ := by
    rw [sequence_eq_singleton single, readAll_cons_of_error _ failed]
  have silent : (⟨((usual options).readToken token initial).notices,
      .error (failure.placed 0)⟩ : Run).events = [] :=
    events_of_withoutClaim_eq same _ (.ok initial)
  rw [fold] at result calls
  refine ⟨result, ?_⟩
  rw [calls, silent]
  rfl

end MusicText.Parser
