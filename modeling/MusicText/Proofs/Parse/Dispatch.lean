import MusicText.Parser

/-!
Contract: the dispatches of a parse, for recognisers of any kind.

Owns: the loop of a parse told by positions in the whole music, the dispatches that it makes, and
their order.

Does not own: the usual recognisers, for which the dispatches are the tokens of the music; see
`MusicText.Proofs.Parse.Fold`.

Nothing is assumed of what a recogniser accepts, says or claims to have consumed. The loop takes
at least one character behind every dispatch and never goes beyond the end, so it comes to an end
whatever numbers it is given.
-/

namespace MusicText

open MusicText.Text

/-- A dispatch: where the remaining music begins, the state that it is read in, and what comes
of it. -/
structure Dispatch where
  position : Nat
  context : Context
  outcome : Outcome

namespace Parser

/-- What a parser may make of the remaining music. The first recogniser that accepts the music
reads it, and no other does. -/
inductive Handles (parser : Parser) (remaining : Text) (context : Context) : Outcome → Prop
  | read {before after : List Recogniser} {recogniser : Recogniser}
      (listed : parser.recognisers = before ++ recogniser :: after)
      (passed : ∀ other ∈ before, other.accepts remaining = false)
      (accepts : recogniser.accepts remaining = true) :
      Handles parser remaining context
        { recogniser.read remaining context with
          notices :=
            .remark (.tokenClaimed recogniser.name (remaining.take openingLength))
              :: (recogniser.read remaining context).notices }
  | refused (foreign : ∀ other ∈ parser.recognisers, other.accepts remaining = false)
      (strict : parser.options.isStrict = true) :
      Handles parser remaining context
        (.refused context
          (.ofDefect (.unknownToken (Token.first remaining)) (Token.first remaining)))
  | skipped (foreign : ∀ other ∈ parser.recognisers, other.accepts remaining = false)
      (lenient : parser.options.isStrict = false) :
      Handles parser remaining context
        (.accepted context [.remark (.tokenUnknown (Token.first remaining))]
          (Token.first remaining))

/-- The loop of a parse from a position to its end, with the dispatches that it makes and the
run that they add up to. -/
inductive Walks (parser : Parser) (music : Text) :
    Nat → Context → List Dispatch → Run → Prop
  | ended (context : Context) :
      Walks parser music music.length context [] ⟨[.call .finish], .ok context⟩
  | passed {position : Nat} {c : CodePoint} {context : Context} {dispatches : List Dispatch}
      {run : Run} (there : music[position]? = some c) (blank : isBlank c = true)
      (rest : Walks parser music (position + 1) context dispatches run) :
      Walks parser music position context dispatches run
  | failed {position : Nat} {c : CodePoint} {context : Context} {outcome : Outcome}
      {failure : Failure} (there : music[position]? = some c) (solid : isBlank c = false)
      (handles : parser.Handles (music.drop position) context outcome)
      (failed : outcome.result = .error failure) :
      Walks parser music position context [⟨position, context, outcome⟩]
        ⟨outcome.notices, .error (failure.placed position)⟩
  | went {position : Nat} {c : CodePoint} {context : Context} {outcome : Outcome}
      {consumed : Int} {dispatches : List Dispatch} {run : Run}
      (there : music[position]? = some c) (solid : isBlank c = false)
      (handles : parser.Handles (music.drop position) context outcome)
      (done : outcome.result = .ok consumed)
      (rest : Walks parser music (min (position + (max consumed 1).toNat) music.length)
        outcome.context dispatches run) :
      Walks parser music position context (⟨position, context, outcome⟩ :: dispatches)
        (run.after outcome.notices)

variable {parser : Parser} {music remaining : Text} {position : Nat} {context : Context}
  {dispatches : List Dispatch} {run : Run}

/-! ### One dispatch -/

theorem handles_iff {outcome : Outcome} :
    parser.Handles remaining context outcome ↔ outcome = parser.readToken remaining context := by
  constructor
  · intro handles
    cases handles with
    | @read before after recogniser listed passed accepts =>
        have found : parser.recogniserOf? remaining = some recogniser := by
          rw [recogniserOf?, List.find?_eq_some_iff_append]
          exact ⟨accepts, before, after, listed, by simpa using passed⟩
        rw [readToken, found]
    | refused foreign strict =>
        have found : parser.recogniserOf? remaining = none := by
          rw [recogniserOf?, List.find?_eq_none]
          simpa using foreign
        rw [readToken, found]
        simp only [passUnknown, strict, if_true]
    | skipped foreign lenient =>
        have found : parser.recogniserOf? remaining = none := by
          rw [recogniserOf?, List.find?_eq_none]
          simpa using foreign
        rw [readToken, found]
        simp only [passUnknown, lenient, Bool.false_eq_true, if_false]
  · rintro rfl
    cases found : parser.recogniserOf? remaining with
    | some recogniser =>
        obtain ⟨accepts, before, after, listed, passed⟩ := List.find?_eq_some_iff_append.1 found
        rw [readToken, found]
        exact .read listed (by simpa using passed) accepts
    | none =>
        have foreign : ∀ other ∈ parser.recognisers, other.accepts remaining = false := by
          simpa using List.find?_eq_none.1 found
        rw [readToken, found]
        by_cases strict : parser.options.isStrict
        · simp only [passUnknown, strict, if_true]
          exact .refused foreign strict
        · simp only [passUnknown, strict, Bool.false_eq_true, if_false]
          exact .skipped foreign (Bool.eq_false_iff.2 strict)

/-! ### The loop ends -/

theorem runFrom_nil (parser : Parser) (position : Nat) (context : Context) :
    parser.runFrom position [] context = ⟨[.call .finish], .ok context⟩ := by
  rw [runFrom]

/-- Whatever tells no positions apart behind the end goes on where the loop goes on, which never
goes beyond the end. -/
theorem drop_clamped {View : Type} (view : Nat → Text → View)
    (alike : ∀ one two, view one [] = view two []) (music : Text) (position distance : Nat) :
    view (position + distance) ((music.drop position).drop distance)
      = view (min (position + distance) music.length)
          (music.drop (min (position + distance) music.length)) := by
  rw [List.drop_drop]
  by_cases inside : position + distance ≤ music.length
  · rw [Nat.min_eq_left inside]
  · rw [Nat.min_eq_right (by omega), List.drop_length, List.drop_eq_nil_of_le (by omega)]
    exact alike _ _

theorem runFrom_advance (parser : Parser) (music : Text) (position : Nat) (consumed : Int)
    (context : Context) :
    parser.runFrom (position + advance consumed) ((music.drop position).drop (advance consumed))
        context
      = parser.runFrom (min (position + (max consumed 1).toNat) music.length)
          (music.drop (min (position + (max consumed 1).toNat) music.length)) context := by
  refine drop_clamped (fun place rest => parser.runFrom place rest context) ?_ music position
    (advance consumed)
  intro one two
  rw [runFrom_nil, runFrom_nil]

theorem drop_eq_cons {c : CodePoint} (there : music[position]? = some c) :
    music.drop position = c :: music.drop (position + 1) := by
  obtain ⟨inside, rfl⟩ := List.getElem?_eq_some_iff.1 there
  exact List.drop_eq_getElem_cons inside

/-- The loop has one run from each position, which is that of the parse. -/
theorem Walks.run_eq (walks : parser.Walks music position context dispatches run) :
    run = parser.runFrom position (music.drop position) context := by
  induction walks with
  | ended context => rw [List.drop_length, runFrom_nil]
  | passed there blank rest inductionHypothesis =>
      rw [drop_eq_cons there, runFrom, if_pos blank]
      exact inductionHypothesis
  | failed there solid handles failed =>
      rw [handles_iff.1 handles] at failed ⊢
      rw [drop_eq_cons there] at failed ⊢
      rw [runFrom, if_neg (by simp [solid])]
      simp only [failed]
  | @went position c context outcome consumed dispatches run there solid handles done rest
      inductionHypothesis =>
      obtain rfl := handles_iff.1 handles
      rw [inductionHypothesis, ← runFrom_advance]
      rw [drop_eq_cons there] at done ⊢
      symm
      rw [runFrom, if_neg (by simp [solid])]
      simp only [done]

/-- From every position the loop comes to an end. -/
theorem exists_walks (parser : Parser) (music : Text) {position : Nat}
    (inside : position ≤ music.length) (context : Context) :
    ∃ dispatches run, parser.Walks music position context dispatches run := by
  -- Every round leaves less of the music, whatever a recogniser says that it consumed.
  induction left : music.length - position using Nat.strongRecOn generalizing position context with
  | ind left inductionHypothesis =>
      by_cases atEnd : position = music.length
      · subst atEnd
        exact ⟨[], _, .ended context⟩
      · have within : position < music.length := by omega
        have there : music[position]? = some music[position] := List.getElem?_eq_getElem within
        by_cases blank : isBlank music[position]
        · obtain ⟨dispatches, run, rest⟩ :=
            inductionHypothesis (music.length - (position + 1)) (by omega) within context rfl
          exact ⟨dispatches, run, .passed there blank rest⟩
        · have solid : isBlank music[position] = false := Bool.eq_false_iff.2 blank
          have handles := handles_iff.2 (rfl : parser.readToken (music.drop position) context = _)
          cases result : (parser.readToken (music.drop position) context).result with
          | error failure => exact ⟨_, _, .failed there solid handles result⟩
          | ok consumed =>
              obtain ⟨dispatches, run, rest⟩ := inductionHypothesis
                (music.length - min (position + (max consumed 1).toNat) music.length) (by omega)
                (Nat.min_le_right _ _) (parser.readToken (music.drop position) context).context rfl
              exact ⟨_, _, .went there solid handles result rest⟩

theorem not_there {c : CodePoint} (there : music[music.length]? = some c) : False := by
  rw [List.getElem?_eq_none (Nat.le_refl _)] at there
  cases there

theorem not_blank_and_solid {c other : CodePoint} (there : music[position]? = some c)
    (blank : isBlank c = true) (thereToo : music[position]? = some other)
    (solid : isBlank other = false) : False := by
  obtain rfl := Option.some.inj (there.symm.trans thereToo)
  rw [blank] at solid
  cases solid

/-- From no position can the loop go in two ways. -/
theorem Walks.unique {others : List Dispatch} {otherRun : Run}
    (walks : parser.Walks music position context dispatches run)
    (walksToo : parser.Walks music position context others otherRun) : others = dispatches := by
  induction walks generalizing others otherRun with
  | ended context =>
      cases walksToo with
      | ended => rfl
      | passed there | failed there | went there => exact (not_there there).elim
  | passed there blank rest inductionHypothesis =>
      cases walksToo with
      | ended => exact (not_there there).elim
      | passed _ _ restToo => exact inductionHypothesis restToo
      | failed thereToo solid | went thereToo solid =>
          exact (not_blank_and_solid there blank thereToo solid).elim
  | failed there solid handles failed =>
      cases walksToo with
      | ended => exact (not_there there).elim
      | passed thereToo blank => exact (not_blank_and_solid thereToo blank there solid).elim
      | failed _ _ handlesToo =>
          rw [handles_iff.1 handles, handles_iff.1 handlesToo]
      | went _ _ handlesToo done =>
          rw [handles_iff.1 handlesToo, ← handles_iff.1 handles, failed] at done
          cases done
  | went there solid handles done rest inductionHypothesis =>
      cases walksToo with
      | ended => exact (not_there there).elim
      | passed thereToo blank => exact (not_blank_and_solid thereToo blank there solid).elim
      | failed _ _ handlesToo failed =>
          rw [handles_iff.1 handlesToo, ← handles_iff.1 handles, done] at failed
          cases failed
      | went _ _ handlesToo doneToo restToo =>
          obtain rfl := (handles_iff.1 handlesToo).trans (handles_iff.1 handles).symm
          obtain rfl := Except.ok.inj (doneToo.symm.trans done)
          rw [inductionHypothesis restToo]

/-! ### The order of the dispatches -/

theorem Walks.handles (walks : parser.Walks music position context dispatches run) :
    ∀ dispatch ∈ dispatches,
      parser.Handles (music.drop dispatch.position) dispatch.context dispatch.outcome := by
  induction walks with
  | ended context => simp
  | passed there blank rest inductionHypothesis => exact inductionHypothesis
  | failed there solid handles failed => exact List.forall_mem_singleton.2 handles
  | went there solid handles done rest inductionHypothesis =>
      exact List.forall_mem_cons.2 ⟨handles, inductionHypothesis⟩

/-- Dispatches are made at solid characters only, and none behind the position reached. -/
theorem Walks.solid (walks : parser.Walks music position context dispatches run) :
    ∀ dispatch ∈ dispatches, position ≤ dispatch.position
      ∧ ∃ c, music[dispatch.position]? = some c ∧ isBlank c = false := by
  induction walks with
  | ended context => simp
  | passed there blank rest inductionHypothesis =>
      intro dispatch member
      obtain ⟨later, solid⟩ := inductionHypothesis dispatch member
      exact ⟨by omega, solid⟩
  | @failed _ c _ _ _ there solid handles failed =>
      exact List.forall_mem_singleton.2 ⟨Nat.le_refl _, c, there, solid⟩
  | @went position c context outcome consumed dispatches run there solid handles done rest
      inductionHypothesis =>
      refine List.forall_mem_cons.2 ⟨⟨Nat.le_refl _, c, there, solid⟩, ?_⟩
      intro dispatch member
      obtain ⟨later, solidThere⟩ := inductionHypothesis dispatch member
      obtain ⟨inside, -⟩ := List.getElem?_eq_some_iff.1 there
      exact ⟨by omega, solidThere⟩

theorem Walks.increasing (walks : parser.Walks music position context dispatches run) :
    dispatches.Pairwise fun earlier later => earlier.position < later.position := by
  induction walks with
  | ended context => exact .nil
  | passed there blank rest inductionHypothesis => exact inductionHypothesis
  | failed there solid handles failed => exact List.pairwise_singleton _ _
  | @went position c context outcome consumed dispatches run there solid handles done rest
      inductionHypothesis =>
      refine List.pairwise_cons.2 ⟨?_, inductionHypothesis⟩
      intro dispatch member
      obtain ⟨later, -⟩ := rest.solid dispatch member
      obtain ⟨inside, -⟩ := List.getElem?_eq_some_iff.1 there
      show position < dispatch.position
      omega

/-- There are no more dispatches than solid characters to come. -/
theorem Walks.length_le (walks : parser.Walks music position context dispatches run) :
    dispatches.length ≤ ((music.drop position).filter fun c => !isBlank c).length := by
  induction walks with
  | ended context => simp
  | passed there blank rest inductionHypothesis =>
      rw [drop_eq_cons there, List.filter_cons_of_neg (by simp [blank])]
      exact inductionHypothesis
  | failed there solid handles failed =>
      rw [drop_eq_cons there, List.filter_cons_of_pos (by simp [solid]), List.length_cons]
      simp
  | @went position c context outcome consumed dispatches run there solid handles done rest
      inductionHypothesis =>
      obtain ⟨inside, -⟩ := List.getElem?_eq_some_iff.1 there
      have beyond : position + 1 ≤ min (position + (max consumed 1).toNat) music.length := by omega
      have fewer := ((List.drop_sublist_drop_left music beyond).filter fun c => !isBlank c).length_le
      rw [drop_eq_cons there, List.filter_cons_of_pos (by simp [solid]), List.length_cons,
        List.length_cons]
      omega

/-! ### What the dispatches add up to -/

theorem Walks.isOk_iff (walks : parser.Walks music position context dispatches run) :
    run.result.isOk ↔ ∀ dispatch ∈ dispatches, dispatch.outcome.result.isOk := by
  induction walks with
  | ended context => simp [Except.isOk, Except.toBool]
  | passed there blank rest inductionHypothesis => exact inductionHypothesis
  | failed there solid handles failed => simp [failed, Except.isOk, Except.toBool]
  | went there solid handles done rest inductionHypothesis =>
      simp only [List.forall_mem_cons, done, Except.isOk, Except.toBool, true_and]
      exact inductionHypothesis

theorem Walks.notices_eq (walks : parser.Walks music position context dispatches run) :
    run.notices = dispatches.flatMap (fun dispatch => dispatch.outcome.notices)
      ++ if run.result.isOk then [.call .finish] else [] := by
  induction walks with
  | ended context => rfl
  | passed there blank rest inductionHypothesis => exact inductionHypothesis
  | failed there solid handles failed => simp [Except.isOk, Except.toBool]
  | went there solid handles done rest inductionHypothesis =>
      rw [List.flatMap_cons, List.append_assoc]
      exact congrArg _ inductionHypothesis

/-- Only what the first accepting recognisers do at the dispatches counts. -/
theorem Walks.transfer {other : Parser}
    (walks : parser.Walks music position context dispatches run)
    (agrees : ∀ dispatch ∈ dispatches,
      other.Handles (music.drop dispatch.position) dispatch.context dispatch.outcome) :
    other.Walks music position context dispatches run := by
  induction walks with
  | ended context => exact .ended context
  | passed there blank rest inductionHypothesis =>
      exact .passed there blank (inductionHypothesis agrees)
  | failed there solid handles failed =>
      exact .failed there solid (agrees _ (List.mem_singleton_self _)) failed
  | went there solid handles done rest inductionHypothesis =>
      obtain ⟨own, others⟩ := List.forall_mem_cons.1 agrees
      exact .went there solid own done (inductionHypothesis others)

/-! ### The parse -/

/-- A parse with any recognisers comes to an end, and the loop makes each of its dispatches at a
position of its own, in one way only. The positions increase and lie within the music, at characters that are
not blank. At each of them the first recogniser that accepts the remaining music reads it, or the
rule for unknown tokens applies. What the other recognisers would have done there makes no
difference. The end is called out once, behind all that the dispatches give notice of, unless one
of them fails. With an invalid default no music is offered at all. -/
theorem run_dispatches_in_order (parser : Parser) (music : Text) :
    let run := parser.run music
    (∀ failure, Context.ofOptions parser.options = .error failure → run = ⟨[], .error failure⟩)
      ∧ ∀ context, Context.ofOptions parser.options = .ok context →
        ∃ dispatches looped, parser.Walks music 0 context dispatches looped
          ∧ (∀ others otherRun,
              parser.Walks music 0 context others otherRun → others = dispatches)
          ∧ run = looped.after [.call .start]
          ∧ (dispatches.Pairwise fun earlier later => earlier.position < later.position)
          ∧ (∀ dispatch ∈ dispatches,
              ∃ c, music[dispatch.position]? = some c ∧ isBlank c = false)
          ∧ dispatches.length ≤ (music.filter fun c => !isBlank c).length
          ∧ (∀ dispatch ∈ dispatches,
              parser.Handles (music.drop dispatch.position) dispatch.context dispatch.outcome)
          ∧ (∀ other : Parser, other.options = parser.options →
              (∀ dispatch ∈ dispatches,
                other.Handles (music.drop dispatch.position) dispatch.context
                  dispatch.outcome) →
              other.run music = run)
          ∧ (run.result.isOk ↔ ∀ dispatch ∈ dispatches, dispatch.outcome.result.isOk)
          ∧ run.notices
            = .call .start :: (dispatches.flatMap (fun dispatch => dispatch.outcome.notices)
                ++ if run.result.isOk then [.call .finish] else []) := by
  intro run
  refine ⟨fun failure invalid => ?_, fun context valid => ?_⟩
  · simp only [run, Parser.run, invalid]
  · obtain ⟨dispatches, looped, walks⟩ := exists_walks parser music (Nat.zero_le _) context
    have run_eq : run = looped.after [.call .start] := by
      rw [walks.run_eq]
      simp only [run, Parser.run, valid, List.drop_zero]
    refine ⟨dispatches, looped, walks, fun _ _ => walks.unique, run_eq, walks.increasing,
      fun dispatch member => (walks.solid dispatch member).2, walks.length_le, walks.handles,
      ?others, ?_, ?_⟩
    case others =>
      intro other sameOptions agrees
      have same := (walks.transfer agrees).run_eq
      rw [run_eq, same]
      simp only [Parser.run, sameOptions, valid, List.drop_zero]
    · rw [run_eq]
      exact walks.isOk_iff
    · rw [run_eq]
      exact congrArg (List.cons _) walks.notices_eq

/-- A recogniser that claims to have gone back, and one that claims to have gone beyond the end. -/
theorem run_dispatches_in_order_sample :
    let claiming (accepts : Text → Bool) (consumed : Int) : Recogniser :=
      ⟨"Claiming".toText, accepts, fun _ => .unknown, fun _ context => ⟨context, [], .ok consumed⟩⟩
    let parser : Parser :=
      ⟨[claiming (·.head? == some 'x') (-5), claiming (fun _ => true) 1000], {}⟩
    let music := " xx\tyxz".toText
    Context.ofOptions parser.options
        = .ok ⟨⟨⟨60, some "C".toText⟩, .major⟩, ⟨4, 4, by decide, by decide⟩, .builtIn⟩
      ∧ ∃ dispatches : List Dispatch, dispatches.length ≤ 5
        ∧ (parser.run music).notices
          = .call .start :: (dispatches.flatMap (fun dispatch => dispatch.outcome.notices)
              ++ [.call .finish]) := by
  intro claiming parser music
  refine ⟨by rfl, ?_⟩
  obtain ⟨dispatches, -, -, -, -, -, -, few, handles, -, succeeds, notices⟩ :=
    (run_dispatches_in_order parser music).2 _ (by rfl)
  have succeeded : (parser.run music).result.isOk := by
    refine succeeds.2 fun dispatch member => ?_
    have handled := handles dispatch member
    generalize dispatch.outcome = outcome at handled ⊢
    cases handled with
    | read listed passed accepts =>
        have one : _ ∈ parser.recognisers := listed ▸ List.mem_append_right _ List.mem_cons_self
        obtain rfl | rfl : _ = claiming (·.head? == some 'x') (-5) ∨ _ = claiming _ 1000 := by
          simpa [parser] using one
        · rfl
        · rfl
    | refused foreign strict => simp [parser, claiming] at foreign
    | skipped foreign lenient => rfl
  rw [succeeded] at notices
  exact ⟨dispatches, few, notices⟩

end Parser

end MusicText
