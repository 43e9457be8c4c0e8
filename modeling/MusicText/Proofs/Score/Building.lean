import Mathlib.Data.List.Nodup
import MusicText.Proofs.Listener.Hearing
import MusicText.Proofs.Numeral.Reading
import MusicText.Proofs.Score.Arrival
import MusicText.Proofs.Score.KeyCall
import MusicText.Proofs.Score.Listing
import MusicText.Proofs.Score.Placing

/-!
Contract: the builder of a score against the events that it receives.

Owns: the builder that a list of events should lead to, the step by one event, the run over
any calls, and the warnings on the way.

Does not own: what the events ask for; see `MusicText.Proofs.Score.Arrival`. Nor how the places
of the voices lead to their parts; see `MusicText.Proofs.Score.Placing`.

A part is created when its voice is first needed. What a score rejects needs no part, so it
leaves the builder as it was. The builder that events should lead to ties the score, the places,
the current voice and the current layer together, and every step goes from one such builder to the
next.
-/

namespace MusicText

open MusicText.Score

namespace ScoreBuilder

/-- What a builder makes of an event on which there is a verdict. -/
def obey (builder : ScoreBuilder) : Event.Verdict → Reaction ScoreBuilder
  | .accepted element => builder.insert element
  | .rejected warning => ⟨builder, [warning], none⟩
  | .interrupted cause => ⟨builder, [], some cause⟩

theorem receiveEvent_of_verdict (builder : ScoreBuilder) {happening : Event}
    {verdict : Event.Verdict} (judged : happening.verdict? = some verdict) :
    builder.receiveEvent happening = builder.obey verdict := by
  cases happening with
  | layer value | track value => cases judged
  | key position mode =>
      obtain rfl : .ofKey position mode = verdict := Option.some.inj judged
      rfl
  | instrument program =>
      obtain rfl : .ofProgram program = verdict := Option.some.inj judged
      simp only [receiveEvent, Event.Verdict.ofProgram]
      cases Instrument.Sound.ofProgram program <;> rfl
  | meter numerator denominator =>
      obtain rfl : .ofParts numerator denominator = verdict := Option.some.inj judged
      simp only [receiveEvent, Event.Verdict.ofParts]
      cases Measure.ofParts numerator denominator with
      | ok measure => rfl
      | error fault => cases fault <;> rfl

/-! ### The step by one event -/

/-- The part that the events of a score give a voice. -/
def partOf (events : List Event) (track : Int) : Part :=
  { Part.ofVoice track with elements := arrivals track events }

/-- The builder that events should lead to. -/
def ofEvents (events : List Event) : ScoreBuilder :=
  arranged (voices events) (partOf events) (currentTrack events) (currentLayer events)

theorem add_partOf {events : List Event} {happening : Event} {element : ScoreElement}
    (accepted : happening.element? = some element) (track : Int) :
    (if track = currentTrack events then (partOf events track).add element else partOf events track)
      = partOf (events ++ [happening]) track := by
  simp only [partOf, Part.add, arrivals_concat, accepted, Option.toList_some]
  by_cases current : track = currentTrack events
  · rw [if_pos current, if_pos current.symm]
  · rw [if_neg current, if_neg (Ne.symm current), List.append_nil]

theorem partOf_concat_of_no_element {events : List Event} {happening : Event}
    (nothing : happening.element? = none) : partOf (events ++ [happening]) = partOf events := by
  funext track
  simp [partOf, arrivals_concat, nothing]

variable (events : List Event)

theorem partOf_of_unopened (track : Int) (unopened : track ∉ voices events) :
    partOf events track = .ofVoice track := by
  rw [partOf, arrivals_eq_nil unopened]
  rfl

theorem next_insert {happening : Event} {element : ScoreElement}
    (accepted : happening.element? = some element) :
    ((ofEvents events).insert element).next = ofEvents (events ++ [happening]) := by
  obtain ⟨unmoved, sameLayer, opens⟩ :=
    Event.needs_current_of_element accepted (currentTrack events)
  have opened : (ofEvents events).openPart.next
      = arranged (voices (events ++ [happening])) (partOf events) (currentTrack events)
          (currentLayer events) := by
    rw [voices_concat_of_opens opens]
    exact next_openPart_arranged (partOf_of_unopened events (currentTrack events))
  have known : currentTrack events ∈ voices (events ++ [happening]) := by
    rw [mem_voices, openings_concat, opens]
    simp
  show changePart (Part.add element) (ofEvents events).openPart.next = _
  rw [opened, changePart_arranged _ nodup_voices known]
  simp only [add_partOf accepted, ofEvents, currentTrack_concat, currentLayer_concat, unmoved,
    sameLayer, Option.getD_none]

theorem next_changeTrack (value : Int) :
    (openPart { ofEvents events with track := value }).next
      = ofEvents (events ++ [.track value]) := by
  have opens : (Event.track value).opens? (currentTrack events) = some value := rfl
  have opened : (openPart { ofEvents events with track := value }).next
      = arranged (voices (events ++ [.track value])) (partOf events) value
          (currentLayer events) := by
    rw [voices_concat_of_opens opens]
    exact next_openPart_arranged (partOf_of_unopened events value)
  have sameParts : partOf (events ++ [.track value]) = partOf events :=
    partOf_concat_of_no_element rfl
  rw [opened, ofEvents, sameParts, currentTrack_concat, currentLayer_concat]
  rfl

/-- Other events change the layer at most. -/
theorem ofEvents_concat_of_idle {happening : Event} (nothing : happening.element? = none)
    (unmoved : happening.track? = none) :
    ofEvents (events ++ [happening])
      = { ofEvents events with layer := happening.layer?.getD (currentLayer events) } := by
  have idle := Event.opens?_of_no_element nothing unmoved (currentTrack events)
  simp only [ofEvents, arranged, voices_concat_of_idle idle, partOf_concat_of_no_element nothing,
    currentTrack_concat, currentLayer_concat, unmoved, Option.getD_none]

/-- The builder is what the events ask for, one event after the other. -/
theorem next_receiveEvent (happening : Event) :
    ((ofEvents events).receiveEvent happening).next = ofEvents (events ++ [happening]) := by
  rcases happening.changes_or_judged with
    ⟨value, rfl⟩ | ⟨value, rfl⟩ | ⟨unmoved, sameLayer, verdict, judged⟩
  · exact next_changeTrack events value
  · rw [ofEvents_concat_of_idle events rfl rfl]
    rfl
  · rw [receiveEvent_of_verdict _ judged]
    cases verdict with
    | accepted element =>
        apply next_insert events
        simp [Event.element?, judged]
    | rejected _ | interrupted _ =>
        have nothing : happening.element? = none := by simp [Event.element?, judged]
        rw [ofEvents_concat_of_idle events nothing unmoved, sameLayer]
        rfl

/-! ### Warnings -/

/-- The warnings among some remarks. -/
def warnings (remarks : List Remark) : List Remark :=
  remarks.filter (·.severity = .warning)

theorem warnings_openPart (builder : ScoreBuilder) : warnings builder.openPart.remarks = [] := by
  unfold openPart
  split <;> rfl

theorem interruption_openPart (builder : ScoreBuilder) : builder.openPart.interruption = none := by
  unfold openPart
  split <;> rfl

/-- A builder warns of an event exactly when the score rejects it. -/
theorem warnings_receiveEvent (builder : ScoreBuilder) (happening : Event) :
    warnings (builder.receiveEvent happening).remarks = happening.rejection?.toList := by
  rcases happening.changes_or_judged with ⟨value, rfl⟩ | ⟨value, rfl⟩ | ⟨-, -, verdict, judged⟩
  · exact warnings_openPart { builder with track := value }
  · rfl
  · rw [receiveEvent_of_verdict builder judged, Event.rejection?, judged]
    cases verdict with
    | accepted element => exact warnings_openPart builder
    | interrupted cause => rfl
    | rejected warning => simp [obey, warnings, Event.severity_of_rejected judged]

/-! ### The run over all calls -/

/-- What a builder becomes by calls, and its remarks on them. -/
def attend (builder : ScoreBuilder) (calls : List Call) : ScoreBuilder × List Remark :=
  calls.foldl
    (fun past call =>
      ((past.1.receive call).next, past.2 ++ (past.1.receive call).remarks))
    (builder, [])

theorem attend_concat (builder : ScoreBuilder) (calls : List Call) (call : Call) :
    builder.attend (calls ++ [call])
      = (((builder.attend calls).1.receive call).next,
          (builder.attend calls).2 ++ ((builder.attend calls).1.receive call).remarks) := by
  simp only [attend, List.foldl_append, List.foldl_cons, List.foldl_nil]

theorem receiveAll_builder (builder : ScoreBuilder) (calls : List Call) :
    Listener.receiveAll (.builder builder) calls = .builder (builder.attend calls).1 := by
  induction calls using List.reverseRecOn with
  | nil => rfl
  | append_singleton calls call inductionHypothesis =>
      rw [Listener.receiveAll_append, inductionHypothesis, attend_concat]
      rfl

/-- After any calls the builder is what the events since the last start ask for. -/
theorem attend_fresh (calls : List Call) :
    (fresh.attend calls).1 = ofEvents (Call.sinceStart calls) := by
  -- The induction takes calls off at the end, where a start drops all that came before it.
  induction calls using List.reverseRecOn with
  | nil => rfl
  | append_singleton calls call inductionHypothesis =>
      rw [attend_concat, inductionHypothesis]
      cases call with
      | start =>
          rw [Call.sinceStart_start]
          rfl
      | event happening =>
          rw [Call.sinceStart_event]
          exact next_receiveEvent (Call.sinceStart calls) happening
      | finish =>
          rw [Call.sinceStart_finish]
          rfl

/-- The warnings on any calls are those on the events that a score rejects, in order. -/
theorem warnings_attend (builder : ScoreBuilder) (calls : List Call) :
    warnings (builder.attend calls).2
      = (calls.filterMap Call.event?).filterMap Event.rejection? := by
  induction calls using List.reverseRecOn with
  | nil => rfl
  | append_singleton calls call inductionHypothesis =>
      rw [attend_concat, warnings, List.filter_append, ← warnings, ← warnings,
        inductionHypothesis, List.filterMap_append, List.filterMap_append]
      congr 1
      cases call with
      | start | finish => rfl
      | event happening =>
          rw [show receive _ (.event happening) = receiveEvent _ happening from rfl,
            warnings_receiveEvent]
          cases rejected : happening.rejection? <;> simp [Call.event?, rejected]

/-- A fresh builder that receives any calls has the parts that the events since the last start
ask for. The score has one part for every voice that is needed, in the order of first need. The
builder knows the place of each, finds there the part that the score has, and finds none for
other voices. A part is identified by its voice and named by its identifier. It has the accepted
elements that arrived while its voice was current, and lists them by their kinds. The warnings are
those on rejected events, in order. An event that is rejected leaves the builder as it is, with
one warning. A meter whose length cannot be computed does so too, but without a warning, and its
fault leaves the call. No key is refused, and each brings the one key that answers it. -/
theorem attend_refines_arrivals (calls : List Call) :
    let events := Call.sinceStart calls
    let builder := (fresh.attend calls).1
    Listener.receiveAll (.builder fresh) calls = .builder builder
      ∧ (voices events).Nodup
      ∧ builder.places = (voices events).zipIdx
      ∧ builder.score.parts.length = (voices events).length
      ∧ (builder.score.parts.map Part.id).Nodup
      ∧ (∀ track, builder.part? track = none ↔ track ∉ openings events)
      ∧ (∀ (place : Nat) (track : Int), (voices events)[place]? = some track →
          ∃ part, builder.score.parts[place]? = some part ∧ builder.part? track = some part
            ∧ part.id = "Voice ".toText ++ Decimal.ofInt track
            ∧ part.name = part.id
            ∧ part.elements = arrivals track events
            ∧ part.listing = (arrivals track events).filter ScoreElement.isInstrument
                ++ (arrivals track events).filter ScoreElement.isKey
                ++ (arrivals track events).filter ScoreElement.isMeter)
      ∧ builder.track = currentTrack events
      ∧ builder.layer = currentLayer events
      ∧ warnings (fresh.attend calls).2
          = (calls.filterMap Call.event?).filterMap Event.rejection?
      ∧ (∀ happening warning, happening.verdict? = some (.rejected warning) →
          warning.severity = .warning
            ∧ builder.receive (.event happening) = ⟨builder, [warning], none⟩)
      ∧ (∀ happening cause, happening.verdict? = some (.interrupted cause) →
          builder.receive (.event happening) = ⟨builder, [], some cause⟩
            ∧ ∃ numerator denominator, happening = .meter numerator denominator
              ∧ Measure.ofParts numerator denominator = .error (.arithmetic cause))
      ∧ ∀ position code,
          (builder.receive (.event (.key position code))).interruption = none
            ∧ ∀ key, (Event.key position code).element? = some (.key key)
                ↔ key.Answers position code := by
  intro events builder
  have state : builder = ofEvents events := attend_fresh calls
  have found : ∀ track, builder.part? track
      = if track ∈ voices events then some (partOf events track) else none := by
    intro track
    rw [state]
    exact part?_arranged (voices events) (partOf events) _ _ track
  refine ⟨receiveAll_builder fresh calls, nodup_voices, ?places, ?length, ?distinct, ?unknown,
    ?parts, ?track, ?layer, warnings_attend fresh calls, ?rejected, ?interrupted, ?keys⟩
  case places => rw [state, ofEvents, arranged]
  case length => rw [state, ofEvents, arranged, List.length_map]
  case distinct =>
    rw [state, ofEvents, arranged, List.map_map]
    refine List.Nodup.map ?_ nodup_voices
    intro track other same
    exact Decimal.ofInt_injective (List.append_cancel_left same)
  case unknown =>
    intro track
    rw [found, ← mem_voices]
    simp
  case parts =>
    intro place track placed
    have opened : track ∈ voices events := List.mem_of_getElem? placed
    refine ⟨partOf events track, ?_, ?_, rfl, rfl, rfl, Part.listing_eq _⟩
    · rw [state, ofEvents, arranged, List.getElem?_map, placed, Option.map_some]
    · rw [found, if_pos opened]
  case track => rw [state, ofEvents, arranged]
  case layer => rw [state, ofEvents, arranged]
  case rejected =>
    intro happening warning judged
    exact ⟨Event.severity_of_rejected judged, receiveEvent_of_verdict builder judged⟩
  case interrupted =>
    intro happening cause judged
    exact ⟨receiveEvent_of_verdict builder judged, Event.eq_meter_of_interrupted judged⟩
  case keys =>
    intro position code
    refine ⟨interruption_openPart builder, fun key => ?_⟩
    rw [← SoundingKey.keyOf_eq_iff]
    simp [Event.element?, Event.verdict?, Event.Verdict.ofKey]

theorem attend_refines_arrivals_sample :
    let calls : List Call :=
      [.event (.track 9), .start, .event (.key 7 1), .event (.track 5), .event (.instrument 0),
        .event (.instrument 128), .event (.track 0), .event (.meter 3 4), .event (.meter 3 0),
        .event (.instrument 1)]
    let builder := (fresh.attend calls).1
    builder.places = [(0, 0), (5, 1)]
      ∧ builder.part? 9 = none
      ∧ (∃ part, builder.part? 0 = some part ∧ builder.score.parts[0]? = some part
        ∧ part.id = "Voice 0".toText
        ∧ part.listing.map ScoreElement.rank = [0, 1, 2])
      ∧ (∃ key : SoundingKey, (Event.key 7 1).element? = some (.key key)
        ∧ key = ⟨⟨.g, .natural⟩, .major, 1⟩)
      ∧ warnings (fresh.attend calls).2 = [.soundMissing 128 (.noSound 128)]
      ∧ builder.receive (.event (.instrument 128))
          = ⟨builder, [.soundMissing 128 (.noSound 128)], none⟩
      ∧ builder.receive (.event (.meter 3 0)) = ⟨builder, [], some .divisionByZero⟩ := by
  intro calls builder
  obtain ⟨-, -, places, -, -, unknown, parts, -, -, warned, rejected, interrupted, keys⟩ :=
    attend_refines_arrivals calls
  obtain ⟨part, standing, known, id, -, -, listing⟩ := parts 0 0 (by rfl)
  have g : SoundingKey.Answers 7 1 ⟨⟨.g, .natural⟩, .major, 1⟩ := by
    constructor <;> decide
  exact ⟨places.trans (by rfl), (unknown 9).2 (by decide),
    ⟨part, known, standing, id.trans (by rfl), by rw [listing]; rfl⟩,
    ⟨_, ((keys 7 1).2 _).2 g, rfl⟩,
    warned.trans (by rfl), (rejected (.instrument 128) _ (by rfl)).2,
    (interrupted (.meter 3 0) _ (by rfl)).1⟩

/-- Not every meter that makes no measure is warned of: the length of one over zero cannot be
computed. -/
theorem not_forall_refused_warned :
    ¬ ∀ (calls : List Call) (numerator denominator : Int),
      (∀ measure, Measure.ofParts numerator denominator ≠ .ok measure) →
        ∃ warning : Remark, warning.severity = .warning
          ∧ (fresh.attend calls).1.receive (.event (.meter numerator denominator))
            = ⟨(fresh.attend calls).1, [warning], none⟩ := by
  intro claim
  have refused : Measure.ofParts 3 0 = .error (.arithmetic .divisionByZero) := by rfl
  obtain ⟨warning, -, warned⟩ := claim [] 3 0 (by simp [refused])
  have silent : fresh.receive (.event (.meter 3 0)) = ⟨fresh, [], some .divisionByZero⟩ := by rfl
  cases silent.symm.trans warned

end ScoreBuilder

end MusicText
