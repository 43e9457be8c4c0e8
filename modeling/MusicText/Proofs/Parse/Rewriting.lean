import MusicText.Proofs.Event.Notation
import MusicText.Proofs.Parse.Fold

/-!
Contract: parses whose events are written down and parsed again.

Owns: the fold over the tokens of readable events, the readability of all events that a parse
reports, and the agreement of a parse with the parse of what it wrote.

Does not own: the token of a single event; see `MusicText.Proofs.Event.Notation`.
-/

namespace MusicText.Parser

open MusicText.Text MusicText.Token MusicText.Token.Placed

variable (options : Options)

/-- The token of a readable event is read, and calls out the event and nothing else. -/
theorem readToken_written {happening : Event} (readable : happening.Readable)
    (context : Context) :
    let outcome := (usual options).readToken happening.written context
    (∃ consumed, outcome.result = .ok consumed)
      ∧ (⟨outcome.notices, .ok outcome.context⟩ : Run).events = [happening] := by
  intro outcome
  obtain ⟨next, accepted⟩ := effect_written options context readable
  obtain ⟨done, -, told⟩ := readToken_of_accepted options
    (fun _ member => Event.isPart_of_mem_written member) [] accepted
  exact ⟨done, told⟩

/-- Tokens of readable events are all read, and report the events in order. -/
theorem readAll_written {events : List Event} {tokens : List Placed}
    (readable : ∀ happening ∈ events, happening.Readable)
    (spelled : tokens.map Placed.text = events.map Event.written) (context : Context) :
    (∃ reached, ((usual options).readAll tokens context).result = .ok reached)
      ∧ ((usual options).readAll tokens context).events = events := by
  induction events generalizing tokens context with
  | nil =>
      obtain rfl : tokens = [] := by simpa using spelled
      exact ⟨⟨context, rfl⟩, rfl⟩
  | cons happening rest inductionHypothesis =>
      cases tokens with
      | nil => simp at spelled
      | cons token others =>
          obtain ⟨spelledFirst, spelledRest⟩ := List.cons.inj spelled
          obtain ⟨⟨consumed, done⟩, told⟩ :=
            readToken_written options (readable happening (by simp)) context
          rw [← spelledFirst] at done told
          obtain ⟨⟨reached, finished⟩, toldBehind⟩ :=
            inductionHypothesis (fun other member => readable other (by simp [member]))
              spelledRest ((usual options).readToken token.text context).context
          rw [readAll_cons_of_ok _ done]
          refine ⟨⟨reached, finished⟩, ?_⟩
          rw [Run.events_after, toldBehind]
          exact congrArg (· ++ rest) told

variable {options}

/-- A parse reports readable events only. -/
theorem readable_of_mem_events {key : Key} {meter : Meter} {music : Text} {happening : Event}
    (keyRead : Context.initialKey options = .ok key)
    (meterRead : Context.initialMeter options = .ok meter)
    (member : happening ∈ ((usual options).run music).events) : happening.Readable := by
  have unspaced : ∀ token ∈ sequence music, ∀ c ∈ token.text, isPart c :=
    fun _ inSequence => unspaced_of_mem inSequence
  rw [Run.events_of_calls_eq (calls_run keyRead meterRead music)] at member
  have called : .event happening
      ∈ ((usual options).readAll (sequence music) ⟨key, meter, .builtIn⟩).calls := by
    rw [calls_readAll options _ unspaced]
    exact List.mem_map.2 ⟨happening, member, rfl⟩
  obtain ⟨token, -, reached, outcome, does, told⟩ := exists_does_of_call options unspaced called
  exact does.readable told

/-- Readable events that are written one after the other are parsed with any valid defaults,
and are told in order between the start and the end. -/
theorem run_unwords_written {events : List Event} {key : Key} {meter : Meter}
    (keyRead : Context.initialKey options = .ok key)
    (meterRead : Context.initialMeter options = .ok meter)
    (readable : ∀ happening ∈ events, happening.Readable) :
    let again := (usual options).run (unwords (events.map Event.written))
    (∃ reached, again.result = .ok reached)
      ∧ again.calls = .start :: (events.map .event ++ [.finish]) := by
  intro again
  have spelled : (sequence (unwords (events.map Event.written))).map Placed.text
      = events.map Event.written := by
    apply map_text_sequence_unwords
    intro word member
    obtain ⟨happening, -, rfl⟩ := List.mem_map.1 member
    exact ⟨Event.written_ne_nil happening, fun _ => Event.isBlank_of_mem_written⟩
  obtain ⟨⟨reached, done⟩, told⟩ :=
    readAll_written options readable spelled ⟨key, meter, .builtIn⟩
  refine ⟨⟨reached, (result_run keyRead meterRead _).trans done⟩, ?_⟩
  rw [calls_run keyRead meterRead, done, told]
  rfl

/-- The events of a parse that succeeds are in range, and a collector records exactly these. If
they are written down with single spaces between them, then a parse of that text with any
valid defaults, strict or not, succeeds as well, and a collector records the same events. -/
theorem run_reads_back_written {key : Key} {meter : Meter} {music : Text} {reached : Context}
    (keyRead : Context.initialKey options = .ok key)
    (meterRead : Context.initialMeter options = .ok meter)
    (done : ((usual options).run music).result = .ok reached) (earlier : List Event) :
    let events := ((usual options).run music).events
    ((Listener.collector earlier).hear ((usual options).run music)).listener = .collector events
      ∧ ((Listener.collector earlier).hear ((usual options).run music)).result = .ok reached
      ∧ (∀ happening ∈ events, happening.InRange)
      ∧ ∀ (other : Options) (otherKey : Key) (otherMeter : Meter) (kept : List Event),
          Context.initialKey other = .ok otherKey → Context.initialMeter other = .ok otherMeter →
          let again := (usual other).run (unwords (events.map Event.written))
          again.calls = .start :: (events.map .event ++ [.finish])
            ∧ ((Listener.collector kept).hear again).listener = .collector events
            ∧ ∃ context, ((Listener.collector kept).hear again).result = .ok context := by
  intro events
  have readable : ∀ happening ∈ events, happening.Readable :=
    fun _ => readable_of_mem_events keyRead meterRead
  have heard := Listener.hear_of_endures
    (Listener.collector_endures earlier ((usual options).run music))
  have calls := calls_run keyRead meterRead music
  have told : events = _ := Run.events_of_calls_eq calls
  refine ⟨?recorded, heard.2.trans done, fun _ member => (readable _ member).inRange, ?again⟩
  case recorded =>
    rw [heard.1, calls, Listener.receiveAll_collector, told]
  case again =>
    intro other otherKey otherMeter kept otherKeyRead otherMeterRead again
    obtain ⟨⟨context, finished⟩, toldAgain⟩ :=
      run_unwords_written otherKeyRead otherMeterRead readable
    have heardAgain := Listener.hear_of_endures (Listener.collector_endures kept again)
    refine ⟨toldAgain, ?_, context, heardAgain.2.trans finished⟩
    rw [heardAgain.1, toldAgain]
    exact Listener.receiveAll_collector kept events true

theorem run_reads_back_written_sample :
    let music := "V[PERCUSSION] oops I200 L KEY:K## TIME:6/08".toText
    let events : List Event := [.track 9, .instrument (-56), .layer (-1), .key 2 1, .meter 6 8]
    (∃ reached, ((usual {}).run music).result = .ok reached)
      ∧ ((usual {}).run music).events = events
      ∧ unwords (events.map Event.written) = "V9 I200 L255 KEY:Dmaj TIME:6/8".toText
      ∧ ((usual { strict := .boolean true }).run (unwords (events.map Event.written))).calls
          = .start :: (events.map .event ++ [.finish]) := by
  intro music events
  have done : ((usual {}).run music).result = .ok _ :=
    (result_run (by rfl) (by rfl) music).trans (by rfl)
  have told : ((usual {}).run music).events = events :=
    (Run.events_of_calls_eq (calls_run (by rfl) (by rfl) music)).trans (by rfl)
  obtain ⟨-, -, -, rewritten⟩ := run_reads_back_written (by rfl) (by rfl) done []
  have again := rewritten { strict := .boolean true } _ _ [] (by rfl) (by rfl)
  rw [told] at again
  exact ⟨⟨_, done⟩, told, by rfl, again.1⟩

end MusicText.Parser
