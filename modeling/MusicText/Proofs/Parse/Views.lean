import MusicText.CommandLine.Report
import MusicText.Proofs.Listener.Pairing
import MusicText.Proofs.Parse.Fold

/-!
Contract: the views of a parse that succeeds.

Owns: what a list of events says last, the state of a parse as what its events say last, and
the agreement of the state with the events that are collected and with the score that is built.

Does not own: how a score is made of events; see `MusicText.Proofs.Score.Building`.

One token changes the state exactly as its event says. What holds of one token is carried through
the parse because the last word of two stretches of events is that of the second, unless
it is silent.
-/

namespace MusicText

open MusicText.Text MusicText.Token MusicText.Token.Placed

/-! ### The last word -/

namespace Event

/-- The pitch class and the code of the mode that an event sets. -/
def key? : Event → Option (Int × Int)
  | .key position mode => some (position, mode)
  | .instrument _ | .layer _ | .track _ | .meter _ _ => none

/-- The two parts of the meter that an event sets. -/
def meter? : Event → Option (Int × Int)
  | .meter numerator denominator => some (numerator, denominator)
  | .instrument _ | .layer _ | .track _ | .key _ _ => none

/-- What the last event that says something says, else what held before. -/
def latest {Value : Type} (read : Event → Option Value) (events : List Event) (before : Value) :
    Value :=
  (events.filterMap read).getLast?.getD before

theorem latest_append {Value : Type} (read : Event → Option Value) (earlier later : List Event)
    (before : Value) :
    latest read (earlier ++ later) before = latest read later (latest read earlier before) := by
  simp only [latest, List.filterMap_append, List.getLast?_append]
  cases (later.filterMap read).getLast? <;> rfl

end Event

namespace Context

/-- The key in force as an event tells it. -/
def keyCode (context : Context) : Int × Int :=
  (context.key.root.pitchClass.toInt, context.key.mode.code)

/-- The meter in force as an event tells it. -/
def meterParts (context : Context) : Int × Int :=
  (context.meter.numerator, context.meter.denominator)

/-- Whether a state is the one before some events, but for the key and the meter that they
set last. -/
structure Reflects (initial : Context) (events : List Event) (reached : Context) : Prop where
  keyCode_eq : reached.keyCode = Event.latest Event.key? events initial.keyCode
  meterParts_eq : reached.meterParts = Event.latest Event.meter? events initial.meterParts
  key_eq_of_silent : events.filterMap Event.key? = [] → reached.key = initial.key
  meter_eq_of_silent : events.filterMap Event.meter? = [] → reached.meter = initial.meter

theorem reflects_nil (context : Context) : context.Reflects [] context :=
  ⟨rfl, rfl, fun _ => rfl, fun _ => rfl⟩

theorem Reflects.append {initial middle reached : Context} {earlier later : List Event}
    (first : initial.Reflects earlier middle) (second : middle.Reflects later reached) :
    initial.Reflects (earlier ++ later) reached := by
  refine ⟨?_, ?_, ?_, ?_⟩
  · rw [Event.latest_append, ← first.keyCode_eq, second.keyCode_eq]
  · rw [Event.latest_append, ← first.meterParts_eq, second.meterParts_eq]
  · intro silent
    rw [List.filterMap_append, List.append_eq_nil_iff] at silent
    rw [second.key_eq_of_silent silent.2, first.key_eq_of_silent silent.1]
  · intro silent
    rw [List.filterMap_append, List.append_eq_nil_iff] at silent
    rw [second.meter_eq_of_silent silent.2, first.meter_eq_of_silent silent.1]

end Context

/-! ### One token, and all tokens -/

/-- A token that is not refused leaves the state that its event tells of. -/
theorem Token.Does.reflects {options : Options} {token : Text} {context : Context}
    {outcome : Outcome} {consumed : Int} (does : Does options token context outcome)
    (done : outcome.result = .ok consumed) :
    context.Reflects (⟨outcome.notices, .ok outcome.context⟩ : Run).events outcome.context := by
  cases does with
  | value marker identifier value spelled read =>
      have told : (⟨[.call (.event (marker.event value))], .ok context⟩ : Run).events
          = [marker.event value] := rfl
      simp only [Outcome.accepted, told]
      cases marker <;> exact ⟨rfl, rfl, fun _ => rfl, fun _ => rfl⟩
  | key text key remarks spelled read =>
      have told : (⟨remarks.map .remark ++ [.call (.event (Signature.keyEvent key))],
          .ok { context with key := key }⟩ : Run).events = [Signature.keyEvent key] := by
        simp [Run.events, Run.calls, Call.event?]
      simp only [Outcome.accepted, told]
      exact ⟨rfl, rfl, fun silent => by simp [Signature.keyEvent, Event.key?] at silent,
        fun _ => rfl⟩
  | meter numerator denominator meter spelled read =>
      exact ⟨rfl, rfl, fun _ => rfl,
        fun silent => by simp [Outcome.accepted, Run.events, Run.calls, Call.event?,
          Signature.meterEvent, Event.meter?] at silent⟩
  | unknown => exact context.reflects_nil
  | valueRefused | keyRefused | meterRefused | unknownRefused => cases done

namespace Parser

variable {options : Options}

/-- The tokens of a fold leave the state that their events tell of. -/
theorem reflects_readAll {tokens : List Placed} {context reached : Context}
    (unspaced : ∀ token ∈ tokens, ∀ c ∈ token.text, isPart c)
    (done : ((usual options).readAll tokens context).result = .ok reached) :
    context.Reflects ((usual options).readAll tokens context).events reached := by
  induction tokens generalizing context with
  | nil =>
      obtain rfl : context = reached := Except.ok.inj done
      exact context.reflects_nil
  | cons token rest inductionHypothesis =>
      cases read : ((usual options).readToken token.text context).result with
      | error failure =>
          rw [readAll_cons_of_error _ read] at done
          cases done
      | ok consumed =>
          obtain ⟨outcome, does, same⟩ := does_readToken options (unspaced token (by simp)) context
          have sameContext := congrArg Outcome.context same
          simp only [Outcome.withoutClaim] at sameContext
          have first := does.reflects ((congrArg Outcome.result same).symm.trans read)
          rw [readAll_cons_of_ok _ read] at done ⊢
          rw [Run.events_after, events_of_withoutClaim_eq same _ (.ok outcome.context)]
          rw [sameContext] at done ⊢
          exact first.append (inductionHypothesis
            (fun other inRest => unspaced other (List.mem_cons_of_mem _ inRest)) done)

theorem exists_initial_of_run {music : Text} {reached : Context}
    (done : ((usual options).run music).result = .ok reached) :
    ∃ initial, Context.ofOptions options = .ok initial := by
  cases valid : Context.ofOptions options with
  | ok initial => exact ⟨initial, rfl⟩
  | error failure =>
      rw [run_of_invalid valid] at done
      cases done

/-- A parse that succeeds leaves the state that its events tell of, over the defaults. -/
theorem reflects_run {initial reached : Context} {music : Text}
    (valid : Context.ofOptions options = .ok initial)
    (done : ((usual options).run music).result = .ok reached) :
    initial.Reflects ((usual options).run music).events reached := by
  obtain ⟨result, calls⟩ := run_eq_readAll_of_valid valid music
  rw [Run.events_of_calls_eq calls]
  exact reflects_readAll (unspaced_sequence music) (result.symm.trans done)

end Parser

/-! ### The three views -/

namespace CommandLine

open Listener

theorem listener_hear_audience {options : Options} {initial : Context} {music : Text}
    (valid : Context.ofOptions options = .ok initial)
    (endures : audience.Endures ((Parser.usual options).run music)) :
    (audience.hear ((Parser.usual options).run music)).listener
      = pair ((Parser.usual options).run music).events
          (.ofEvents ((Parser.usual options).run music).events) := by
  obtain ⟨-, calls⟩ := Parser.run_eq_readAll_of_valid valid music
  rw [← Run.events_of_calls_eq calls] at calls
  rw [(hear_of_endures endures).1, calls]
  exact receiveAll_pair [] _ .fresh _

/-- When a parse succeeds for the listener of the command line, then the events that it has
collected are those of the parse, and they tell everything else: the key and the meter in
force are those that they set last, or the defaults; the builder is in the voice and the
layer that they set last, or in 0; and a fresh builder that is given these events one by one
is not interrupted and becomes the same builder, with the same score. -/
theorem hear_audience_views {options : Options} {music : Text} {reached : Context}
    (done : (audience.hear ((Parser.usual options).run music)).result = .ok reached) :
    ∃ initial events state,
      Context.ofOptions options = .ok initial
        ∧ (audience.hear ((Parser.usual options).run music)).listener = pair events state
        ∧ events = ((Parser.usual options).run music).events
        ∧ initial.Reflects events reached
        ∧ state.track = Event.latest Event.track? events 0
        ∧ state.layer = Event.latest Event.layer? events 0
        ∧ let fed := (Listener.builder .fresh).follow ((events.map Call.event).map .call)
          fed.interruption = none ∧ fed.next = .builder state := by
  obtain ⟨endures, finished⟩ := of_hear_ok done
  obtain ⟨initial, valid⟩ := Parser.exists_initial_of_run finished
  exact ⟨initial, ((Parser.usual options).run music).events, .ofEvents _, valid,
    listener_hear_audience valid endures, rfl, Parser.reflects_run valid finished, rfl, rfl,
    follow_builder_events (pair_endures_iff.1 endures)⟩

theorem hear_audience_views_sample :
    let run := (Parser.usual {}).run "V1 KEY:Gmaj L2 TIME:3/4 I7 V3".toText
    let events : List Event :=
      [.track 1, .key 7 1, .layer 2, .meter 3 4, .instrument 7, .track 3]
    (∃ reached, (audience.hear run).result = .ok reached ∧ reached.keyCode = (7, 1)
        ∧ reached.meterParts = (3, 4))
      ∧ ∃ state, (audience.hear run).listener = pair events state
        ∧ state.track = 3 ∧ state.layer = 2 := by
  intro run events
  have told : run.events = events :=
    (Run.events_of_calls_eq (Parser.calls_run (by rfl) (by rfl) _)).trans (by rfl)
  have endures : audience.Endures run := by
    apply pair_endures_iff.2
    rw [told]
    decide
  have done : (audience.hear run).result = .ok _ :=
    (hear_of_endures endures).2.trans ((Parser.result_run (by rfl) (by rfl) _).trans (by rfl))
  obtain ⟨initial, collected, state, -, heard, same, reflects, track, layer, -⟩ :=
    hear_audience_views done
  obtain rfl : collected = events := same.trans told
  exact ⟨⟨_, done, reflects.keyCode_eq.trans (by rfl), reflects.meterParts_eq.trans (by rfl)⟩,
    state, heard, track.trans (by rfl), layer.trans (by rfl)⟩

end CommandLine

end MusicText
