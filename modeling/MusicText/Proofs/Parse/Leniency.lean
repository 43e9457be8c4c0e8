import Mathlib.Data.List.Basic
import MusicText.Proofs.Parse.Fold
import MusicText.Proofs.Token.Foreign

/-!
Contract: strict and lenient parses.

Owns: the warnings of a parse, the tokens that a parse reaches, and what strictness changes
in a parse.

Does not own: the other failures of a parse; see `MusicText.Proofs.Parse.Failure`.

A lenient parse remarks on a foreign token and goes on as if spaces stood there; a strict one
fails at it. Every other token is read alike by both, and read without a warning.
-/

namespace MusicText

open MusicText.Text MusicText.Token MusicText.Token.Placed

/-! ### Warnings -/

namespace Run

/-- The warnings among the remarks of a run. -/
def warnings (run : Run) : List Remark :=
  run.remarks.filter fun remark => remark.severity = .warning

theorem warnings_after (earlier : List Notice) (run : Run) :
    (run.after earlier).warnings = (⟨earlier, run.result⟩ : Run).warnings ++ run.warnings := by
  simp [warnings, remarks, after]

theorem warnings_finished (run : Run) : run.finished.warnings = run.warnings := by
  unfold finished
  split
  · rfl
  · simp [warnings, remarks]

theorem warnings_withoutClaims (run : Run) : run.withoutClaims.warnings = run.warnings := by
  simp only [warnings, remarks, withoutClaims, List.filterMap_filter, List.filter_filterMap]
  congr 1
  funext notice
  cases notice with
  | call content => rfl
  | remark content => cases content <;> rfl

end Run

namespace Token

/-- A token that is not foreign is read without a warning. -/
theorem Does.warnings_eq_nil {options : Options} {token : Text} {context : Context}
    {outcome : Outcome} (does : Does options token context outcome)
    (familiar : isForeign token = false) (result : Except Failure Context) :
    (⟨outcome.notices, result⟩ : Run).warnings = [] := by
  cases does with
  | value | meter | valueRefused | keyRefused | meterRefused | unknownRefused => rfl
  | key text key remarks spelled read =>
      have quiet := severity_of_readKey read
      have told : (⟨remarks.map .remark ++ [.call (.event (Signature.keyEvent key))], result⟩
          : Run).remarks = remarks := by
        rw [Run.remarks, List.filterMap_append, List.filterMap_map]
        exact (List.append_nil _).trans List.filterMap_some
      rw [Outcome.accepted, Run.warnings, told, List.filter_eq_nil_iff]
      intro remark member
      simp [quiet remark member]
  | unknown foreign lenient =>
      rw [recogniserOf?_eq_none_iff, familiar] at foreign
      cases foreign

end Token

namespace Parser

/-! ### Tokens that are reached -/

/-- The tokens that a fold reads, the last of which may be refused. -/
def reached (parser : Parser) : List Placed → Context → List Placed
  | [], _ => []
  | token :: rest, context =>
      let outcome := parser.readToken token.text context
      match outcome.result with
      | .error _ => [token]
      | .ok _ => token :: parser.reached rest outcome.context

/-- The foreign tokens that a parse reaches, in order. -/
def foreignReached (parser : Parser) (music : Text) : List Placed :=
  match Context.ofOptions parser.options with
  | .error _ => []
  | .ok context => foreignOnly (parser.reached (sequence music) context)

variable {options : Options}

/-! ### One token -/

theorem readToken_of_familiar {text : Text} (familiar : isForeign text = false)
    (options other : Options) (context : Context) :
    (usual options).readToken text context = (usual other).readToken text context := by
  have same : (usual options).recogniserOf? text = (usual other).recogniserOf? text := rfl
  unfold readToken
  cases found : (usual options).recogniserOf? text with
  | none =>
      have foreign := recogniserOf?_eq_none_iff.1 found
      simp [familiar] at foreign
  | some recogniser =>
      rw [found] at same
      rw [← same]

theorem readToken_of_foreign {text : Text} (foreign : isForeign text) (options : Options)
    (context : Context) :
    (usual options).readToken text context = (usual options).passUnknown text context := by
  simp only [readToken, recogniserOf?_eq_none_iff.2 foreign]

theorem passUnknown_lenient (lenient : options.isStrict = false) (text : Text) (context : Context) :
    (usual options).passUnknown text context
      = .accepted context [.remark (.tokenUnknown (first text))] (first text) := by
  simp only [passUnknown, usual, lenient, Bool.false_eq_true, if_false]

theorem passUnknown_strict (strict : options.isStrict = true) (text : Text) (context : Context) :
    (usual options).passUnknown text context
      = .refused context (.ofDefect (.unknownToken (first text)) (first text)) := by
  simp only [passUnknown, usual, strict, if_true]

theorem warnings_readToken_of_familiar {token : Text} (unspaced : ∀ c ∈ token, isPart c)
    (familiar : isForeign token = false) (options : Options) (context : Context)
    (result : Except Failure Context) :
    (⟨((usual options).readToken token context).notices, result⟩ : Run).warnings = [] := by
  obtain ⟨outcome, does, same⟩ := does_readToken options unspaced context
  have sameNotices := congrArg Outcome.notices same
  simp only [Outcome.withoutClaim] at sameNotices
  rw [← Run.warnings_withoutClaims, Run.withoutClaims, sameNotices]
  exact (Run.warnings_withoutClaims ⟨outcome.notices, result⟩).trans
    (does.warnings_eq_nil familiar result)

theorem warnings_readToken {token : Text} (unspaced : ∀ c ∈ token, isPart c)
    (lenient : options.isStrict = false) (context : Context) (result : Except Failure Context) :
    (⟨((usual options).readToken token context).notices, result⟩ : Run).warnings
      = if isForeign token then [.tokenUnknown token] else [] := by
  by_cases foreign : isForeign token = true
  · rw [if_pos foreign, readToken_of_foreign foreign, passUnknown_lenient lenient,
      first_eq_self unspaced]
    rfl
  · rw [if_neg foreign]
    exact warnings_readToken_of_familiar unspaced (eq_false_of_ne_true foreign) options context
      result

/-! ### Folds over tokens -/

variable {tokens : List Placed}

theorem reached_cons_of_error {parser : Parser} {token : Placed} {context : Context}
    {failure : Failure}
    (failed : (parser.readToken token.text context).result = .error failure)
    (rest : List Placed) : parser.reached (token :: rest) context = [token] := by
  simp only [reached, failed]

theorem reached_cons_of_ok {parser : Parser} {token : Placed} {context : Context} {consumed : Int}
    (done : (parser.readToken token.text context).result = .ok consumed) (rest : List Placed) :
    parser.reached (token :: rest) context
      = token :: parser.reached rest (parser.readToken token.text context).context := by
  simp only [reached, done]

/-- A fold in which no token fails reaches all of them. -/
theorem reached_of_isOk {parser : Parser} {context : Context}
    (done : (parser.readAll tokens context).result.isOk) :
    parser.reached tokens context = tokens := by
  induction tokens generalizing context with
  | nil => rfl
  | cons token rest inductionHypothesis =>
      cases read : (parser.readToken token.text context).result with
      | error failure =>
          rw [readAll_cons_of_error _ read] at done
          cases done
      | ok consumed =>
          rw [readAll_cons_of_ok _ read] at done
          rw [reached_cons_of_ok read, inductionHypothesis done]

/-- A lenient fold warns of every foreign token that it reaches, and of nothing else. -/
theorem warnings_readAll (lenient : options.isStrict = false)
    (unspaced : ∀ token ∈ tokens, ∀ c ∈ token.text, isPart c) (context : Context) :
    ((usual options).readAll tokens context).warnings
      = (foreignOnly ((usual options).reached tokens context)).map
          fun token => .tokenUnknown token.text := by
  induction tokens generalizing context with
  | nil => rfl
  | cons token rest inductionHypothesis =>
      obtain ⟨own, others⟩ := List.forall_mem_cons.1 unspaced
      have head := warnings_readToken own lenient context
      have split : ∀ later : List Placed,
          (foreignOnly (token :: later)).map (fun token => Remark.tokenUnknown token.text)
            = (if isForeign token.text then [.tokenUnknown token.text] else [])
              ++ (foreignOnly later).map fun token => .tokenUnknown token.text := by
        intro later
        cases foreign : isForeign token.text <;> simp [foreignOnly, foreign]
      cases read : ((usual options).readToken token.text context).result with
      | error failure =>
          rw [readAll_cons_of_error _ read, reached_cons_of_error read, head, split]
          exact (List.append_nil _).symm
      | ok consumed =>
          rw [readAll_cons_of_ok _ read, reached_cons_of_ok read, Run.warnings_after, head, split,
            inductionHypothesis others]

theorem readAll_of_familiar (familiar : ∀ token ∈ tokens, isForeign token.text = false)
    (options other : Options) (context : Context) :
    (usual options).readAll tokens context = (usual other).readAll tokens context := by
  apply List.foldl_ext
  intro run token member
  simp only [readNext, readToken_of_familiar (familiar token member) options other]

theorem readAll_familiarOnly (lenient : options.isStrict = false) (tokens : List Placed)
    (context : Context) :
    ((usual options).readAll (familiarOnly tokens) context).calls
        = ((usual options).readAll tokens context).calls
      ∧ ((usual options).readAll (familiarOnly tokens) context).result
        = ((usual options).readAll tokens context).result := by
  induction tokens generalizing context with
  | nil => exact ⟨rfl, rfl⟩
  | cons token rest inductionHypothesis =>
      by_cases foreign : isForeign token.text = true
      · have without : familiarOnly (token :: rest) = familiarOnly rest :=
          List.filter_cons_of_neg (by simp [foreign])
        have passed : (usual options).readToken token.text context
            = .accepted context [.remark (.tokenUnknown (first token.text))] (first token.text) := by
          rw [readToken_of_foreign foreign, passUnknown_lenient lenient]
        rw [without, readAll_cons_of_ok _ (congrArg Outcome.result passed), passed, Run.calls_after]
        exact inductionHypothesis context
      · have kept : familiarOnly (token :: rest) = token :: familiarOnly rest :=
          List.filter_cons_of_pos (by simp [foreign])
        rw [kept]
        cases read : ((usual options).readToken token.text context).result with
        | error failure =>
            rw [readAll_cons_of_error _ read, readAll_cons_of_error _ read]
            exact ⟨rfl, rfl⟩
        | ok consumed =>
            obtain ⟨sameCalls, sameResult⟩ := inductionHypothesis
              ((usual options).readToken token.text context).context
            rw [readAll_cons_of_ok _ read, readAll_cons_of_ok _ read, Run.calls_after,
              Run.calls_after, sameCalls]
            exact ⟨congrArg (fun result => (⟨_, result⟩ : Run).calls ++ _) sameResult, sameResult⟩

/-- A strict fold fails at the first foreign token that a lenient one reaches, and is the same up
to there. -/
theorem exists_first_foreign {strictly leniently : Options} (strict : strictly.isStrict = true)
    (unspaced : ∀ token ∈ tokens, ∀ c ∈ token.text, isPart c) {context : Context} {token : Placed}
    {later : List Placed}
    (found : foreignOnly ((usual leniently).reached tokens context) = token :: later) :
    ∃ earlier rest, tokens = earlier ++ token :: rest
      ∧ (∀ other ∈ earlier, isForeign other.text = false)
      ∧ ((usual leniently).readAll earlier context).result.isOk
      ∧ (usual strictly).readAll tokens context
        = ⟨((usual leniently).readAll earlier context).notices,
            .error (.token ⟨.unknownToken token.text, token.text, token.position⟩)⟩ := by
  induction tokens generalizing context with
  | nil => cases found
  | cons head rest inductionHypothesis =>
      obtain ⟨own, others⟩ := List.forall_mem_cons.1 unspaced
      have begins : ∃ further, (usual leniently).reached (head :: rest) context = head :: further := by
        cases read : ((usual leniently).readToken head.text context).result with
        | error failure => exact ⟨_, reached_cons_of_error read rest⟩
        | ok consumed => exact ⟨_, reached_cons_of_ok read rest⟩
      by_cases foreign : isForeign head.text = true
      · obtain ⟨further, begins⟩ := begins
        rw [begins, foreignOnly, List.filter_cons_of_pos (by exact foreign)] at found
        obtain ⟨rfl, -⟩ := List.cons.inj found
        have refused : (usual strictly).readToken head.text context
            = .refused context (.ofDefect (.unknownToken head.text) head.text) := by
          rw [readToken_of_foreign foreign, passUnknown_strict strict, first_eq_self own]
        refine ⟨[], rest, rfl, by simp, rfl, ?_⟩
        rw [readAll_cons_of_error _ (congrArg Outcome.result refused), refused]
        rfl
      · have familiar : isForeign head.text = false := eq_false_of_ne_true foreign
        have same := readToken_of_familiar familiar strictly leniently context
        cases read : ((usual leniently).readToken head.text context).result with
        | error failure =>
            rw [reached_cons_of_error read, foreignOnly,
              List.filter_cons_of_neg (by exact foreign)] at found
            cases found
        | ok consumed =>
            rw [reached_cons_of_ok read, foreignOnly,
              List.filter_cons_of_neg (by exact foreign)] at found
            obtain ⟨earlier, behind, rfl, allFamiliar, done, failed⟩ :=
              inductionHypothesis others found
            have readBefore := readAll_cons_of_ok (usual leniently) read earlier
            refine ⟨head :: earlier, behind, rfl, List.forall_mem_cons.2 ⟨familiar, allFamiliar⟩,
              ?_, ?_⟩
            · rw [readBefore]
              exact done
            · rw [readAll_cons_of_ok _ (same ▸ read), same, failed, readBefore]
              rfl

theorem runFrom_of_familiar {strictly leniently : Options} (position : Nat) (music : Text)
    (context : Context)
    (familiar : ∀ token ∈ (usual leniently).reached (sequenceFrom position music) context,
      isForeign token.text = false) :
    (usual strictly).runFrom position music context
      = (usual leniently).runFrom position music context := by
  induction position, music using sequence_induction generalizing context with
  | empty position => rw [runFrom, runFrom]
  | blank position c rest blank inductionHypothesis =>
      rw [sequenceFrom_blank blank] at familiar
      rw [runFrom, runFrom, if_pos blank, if_pos blank]
      exact inductionHypothesis context familiar
  | token position c rest solid inductionHypothesis =>
      -- The parse is offered all the remaining music and the fold only its first token, which is
      -- foreign or not together with it.
      rw [sequenceFrom_token solid] at familiar
      have agrees := readToken_agrees leniently (c :: rest) context
      have sameResult := congrArg Outcome.result agrees
      have sameContext := congrArg Outcome.context agrees
      simp only [Outcome.withoutClaim] at sameResult sameContext
      have same : isForeign (first (c :: rest)) = false →
          (usual strictly).readToken (c :: rest) context
            = (usual leniently).readToken (c :: rest) context := by
        intro own
        rw [isForeign_first] at own
        exact readToken_of_familiar own strictly leniently context
      cases read : ((usual leniently).readToken (c :: rest) context).result with
      | error failure =>
          rw [reached_cons_of_error (sameResult ▸ read)] at familiar
          have alike := same (familiar _ List.mem_cons_self)
          rw [runFrom_of_error leniently solid read, runFrom_of_error strictly solid (alike ▸ read),
            alike]
      | ok consumed =>
          rw [reached_cons_of_ok (sameResult ▸ read), ← sameContext] at familiar
          obtain ⟨own, others⟩ := List.forall_mem_cons.1 familiar
          have alike := same own
          rw [runFrom_of_ok leniently solid read, runFrom_of_ok strictly solid (alike ▸ read),
            alike, inductionHypothesis _ others]

/-! ### Strict and lenient parses -/

/-- A lenient parse warns of every foreign token that it reaches, and of nothing else. -/
theorem warnings_run (lenient : options.isStrict = false) (music : Text) :
    ((usual options).run music).warnings
      = ((usual options).foreignReached music).map fun token => .tokenUnknown token.text := by
  cases started : Context.ofOptions options with
  | error failure =>
      rw [run_of_invalid (by exact started)]
      simp only [foreignReached, usual, started]
      rfl
  | ok context =>
      obtain ⟨key, meter, keyRead, meterRead, rfl⟩ := exists_of_ofOptions_ok started
      have agrees := congrArg Run.warnings (withoutClaims_run keyRead meterRead music)
      rw [Run.warnings_withoutClaims, Run.warnings_after, Run.warnings_withoutClaims,
        Run.warnings_finished, warnings_readAll lenient (unspaced_sequence music)] at agrees
      simp only [foreignReached, usual, started] at agrees ⊢
      exact agrees

theorem run_overwriteForeign {strictly leniently : Options}
    (same : Context.ofOptions strictly = Context.ofOptions leniently)
    (lenient : leniently.isStrict = false) (music : Text) :
    ((usual strictly).run (overwriteForeign music)).calls = ((usual leniently).run music).calls
      ∧ ((usual strictly).run (overwriteForeign music)).result
        = ((usual leniently).run music).result := by
  apply run_congr id (congrArg Except.isOk) same
  intro context
  have familiar : ∀ token ∈ familiarOnly (sequence music), isForeign token.text = false :=
    fun token member => by simpa using (List.mem_filter.1 member).2
  rw [sequence_overwriteForeign, readAll_of_familiar familiar strictly leniently]
  exact readAll_familiarOnly lenient (sequence music) context

theorem run_of_foreignReached_nil {strictly leniently : Options}
    (same : Context.ofOptions strictly = Context.ofOptions leniently) {music : Text}
    (none : (usual leniently).foreignReached music = []) :
    (usual strictly).run music = (usual leniently).run music := by
  cases started : Context.ofOptions leniently with
  | error failure =>
      rw [run_of_invalid (by exact same.trans started), run_of_invalid (by exact started)]
  | ok context =>
      simp only [foreignReached, usual, started] at none
      rw [run_of_valid (by exact same.trans started), run_of_valid (by exact started)]
      congr 1
      apply runFrom_of_familiar
      intro token member
      have kept := List.filter_eq_nil_iff.1 none token member
      exact eq_false_of_ne_true kept

theorem run_of_foreignReached_cons {strictly leniently : Options}
    (same : Context.ofOptions strictly = Context.ofOptions leniently)
    (strict : strictly.isStrict = true) {music : Text} {token : Placed} {later : List Placed}
    (found : (usual leniently).foreignReached music = token :: later) :
    ∃ context earlier rest, Context.ofOptions leniently = .ok context
      ∧ sequence music = earlier ++ token :: rest
      ∧ (∀ other ∈ earlier, isForeign other.text = false)
      ∧ ((usual leniently).readAll earlier context).result.isOk
      ∧ ((usual strictly).run music).calls
        = .start :: ((usual leniently).readAll earlier context).events.map .event
      ∧ ((usual strictly).run music).result
        = .error (.token ⟨.unknownToken token.text, token.text, token.position⟩) := by
  cases started : Context.ofOptions leniently with
  | error failure => simp [foreignReached, usual, started] at found
  | ok context =>
      simp only [foreignReached, usual, started] at found
      obtain ⟨result, calls⟩ := run_eq_readAll_of_valid (same.trans started) music
      obtain ⟨earlier, rest, tokens, familiar, done, failed⟩ :=
        exists_first_foreign strict (unspaced_sequence music) found
      rw [failed] at result calls
      refine ⟨context, earlier, rest, rfl, tokens, familiar, done, ?_, result⟩
      rw [calls]
      exact congrArg _ (List.append_nil _)

/-- Strict and lenient parses differ at foreign tokens only. The lenient parse does what the
strict one does when every foreign token is overwritten by spaces, and it warns of each
foreign token that it reaches and of nothing else. If it reaches none, the strict parse is
the same; otherwise that fails at the first of them, behind the events of the
tokens before it. -/
theorem strict_run_agrees_with_lenient (options : Options) {yes no : Json}
    (strict : yes.isTrue = true) (lenient : no.isTrue = false) (music : Text) :
    let strictly := usual { options with strict := yes }
    let leniently := usual { options with strict := no }
    let overwritten := strictly.run (overwriteForeign music)
    let unknown := leniently.foreignReached music
    (leniently.run music).calls = overwritten.calls
      ∧ (leniently.run music).result = overwritten.result
      ∧ (∀ listener : Listener,
          (listener.hear (leniently.run music)).listener = (listener.hear overwritten).listener
            ∧ (listener.hear (leniently.run music)).result
              = (listener.hear overwritten).result)
      ∧ (leniently.run music).warnings = unknown.map (fun token => .tokenUnknown token.text)
      ∧ (leniently.run music).warnings.map Remark.message
          = unknown.map (fun token => "Unknown token: ".toText ++ token.text)
      ∧ (unknown = [] → strictly.run music = leniently.run music)
      ∧ ∀ token later, unknown = token :: later →
          ∃ context earlier rest, Context.ofOptions options = .ok context
            ∧ sequence music = earlier ++ token :: rest
            ∧ (∀ other ∈ earlier, isForeign other.text = false)
            ∧ (leniently.readAll earlier context).result.isOk
            ∧ (strictly.run music).calls
              = .start :: (leniently.readAll earlier context).events.map .event
            ∧ (strictly.run music).result
              = .error (.token ⟨.unknownToken token.text, token.text, token.position⟩) := by
  intro strictly leniently overwritten unknown
  have same : Context.ofOptions { options with strict := yes }
      = Context.ofOptions { options with strict := no } := rfl
  obtain ⟨calls, result⟩ := run_overwriteForeign same lenient music
  have warned : (leniently.run music).warnings
      = unknown.map fun token => .tokenUnknown token.text :=
    warnings_run (by exact lenient) music
  refine ⟨calls.symm, result.symm, ?heard, warned, ?worded, ?none, ?some⟩
  case heard =>
    intro listener
    exact ⟨Listener.hear_congr calls.symm listener,
      Listener.result_hear_congr calls.symm id result.symm listener⟩
  case worded =>
    rw [warned, List.map_map]
    rfl
  case none =>
    intro nothing
    exact run_of_foreignReached_nil same nothing
  case some =>
    intro token later found
    exact run_of_foreignReached_cons same strict found

theorem strict_run_agrees_with_lenient_sample :
    let music := "V1 o\tps I7".toText
    let strictly := usual { strict := .boolean true }
    let leniently := usual { strict := .boolean false }
    (Json.boolean true).isTrue = true ∧ (Json.boolean false).isTrue = false
      ∧ overwriteForeign music = "V1      I7".toText
      ∧ leniently.foreignReached music = [⟨3, "o\tps".toText⟩]
      ∧ (leniently.run music).warnings = [.tokenUnknown "o\tps".toText]
      ∧ (strictly.run music).result
        = .error (.token ⟨.unknownToken "o\tps".toText, "o\tps".toText, 3⟩) := by
  intro music strictly leniently
  have unknown : leniently.foreignReached music = [⟨3, "o\tps".toText⟩] := by rfl
  obtain ⟨-, -, -, warned, -, -, fails⟩ := strict_run_agrees_with_lenient {}
    (show (Json.boolean true).isTrue = true from rfl)
    (show (Json.boolean false).isTrue = false from rfl) music
  obtain ⟨-, -, -, -, -, -, -, -, failed⟩ := fails _ _ unknown
  refine ⟨rfl, rfl, by rfl, unknown, ?_, failed⟩
  exact warned.trans (congrArg _ unknown)

end Parser

end MusicText
