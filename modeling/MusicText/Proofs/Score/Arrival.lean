import Mathlib.Data.List.Basic
import Mathlib.Data.List.Induction
import MusicText.Score

/-!
Contract: what a list of events asks of a score, told from the events alone.

Owns: the voice and the layer behind a list of events, the elements that events bring, the
voices that they open, and what arrives while a voice is current.

Does not own: the builder that works on one event at a time; see
`MusicText.Proofs.Score.Building`.

Every place of a list of events is looked at by itself: the event that stands there, and the
voice that is current there, which is the one of the last track event before it.
-/

namespace MusicText

/-- The events behind the last start among some calls. -/
def Call.sinceStart (calls : List Call) : List Event :=
  (calls.reverse.takeWhile (· ≠ .start)).reverse.filterMap Call.event?

namespace Event

def track? : Event → Option Int
  | .track value => some value
  | .instrument _ | .layer _ | .key _ _ | .meter _ _ => none

def layer? : Event → Option Int
  | .layer value => some value
  | .instrument _ | .track _ | .key _ _ | .meter _ _ => none

/-- What a score makes of an instrument, a key or a meter. -/
inductive Verdict
  /-- It becomes an element of the current part. -/
  | accepted (element : ScoreElement)
  /-- It is left out with a warning. -/
  | rejected (warning : Remark)
  /-- Its length cannot be computed. -/
  | interrupted (cause : ArithmeticFault)
  deriving DecidableEq, Repr

namespace Verdict

/-- The verdict on an instrument. -/
def ofProgram (program : Int) : Verdict :=
  match Instrument.Sound.ofProgram program with
  | .ok sound => accepted (.instrument sound)
  | .error fault => rejected (.soundMissing program fault)

/-- The verdict on a key, which is always accepted. -/
def ofKey (position mode : Int) : Verdict :=
  accepted (.key (ScoreBuilder.keyOf position mode))

def ofParts (numerator denominator : Int) : Verdict :=
  match Measure.ofParts numerator denominator with
  | .ok measure => accepted (.meter measure)
  | .error (.arithmetic cause) => interrupted cause
  | .error fault => rejected (.meterRefused numerator denominator fault)

end Verdict

/-- The verdict on an event. Changes of voice and layer need none. -/
def verdict? : Event → Option Verdict
  | .instrument program => some (.ofProgram program)
  | .key position mode => some (.ofKey position mode)
  | .meter numerator denominator => some (.ofParts numerator denominator)
  | .layer _ | .track _ => none

/-- The element that a score accepts from an event. -/
def element? (happening : Event) : Option ScoreElement :=
  match happening.verdict? with
  | some (.accepted element) => some element
  | _ => none

/-- The warning on an event that a score rejects. -/
def rejection? (happening : Event) : Option Remark :=
  match happening.verdict? with
  | some (.rejected warning) => some warning
  | _ => none

/-- The voice whose part an event needs while some voice is current. -/
def opens? (current : Int) : Event → Option Int
  | .track value => some value
  | happening => happening.element?.map fun _ => current

variable {happening : Event}

/-- An event changes the voice, or changes the layer, or is judged. -/
theorem changes_or_judged (happening : Event) :
    (∃ value, happening = .track value) ∨ (∃ value, happening = .layer value)
      ∨ (happening.track? = none ∧ happening.layer? = none
        ∧ ∃ verdict, happening.verdict? = some verdict) := by
  cases happening with
  | track value => exact Or.inl ⟨value, rfl⟩
  | layer value => exact Or.inr (Or.inl ⟨value, rfl⟩)
  | instrument program | key position mode | meter numerator denominator =>
      exact Or.inr (Or.inr ⟨rfl, rfl, _, rfl⟩)

/-- An element needs the part of the current voice, and changes neither voice nor layer. -/
theorem needs_current_of_element {element : ScoreElement}
    (accepted : happening.element? = some element) (current : Int) :
    happening.track? = none ∧ happening.layer? = none
      ∧ happening.opens? current = some current := by
  cases happening with
  | layer value | track value => simp [element?, verdict?] at accepted
  | instrument program | key position mode | meter numerator denominator =>
      exact ⟨rfl, rfl, by simp [opens?, accepted]⟩

theorem opens?_of_no_element (nothing : happening.element? = none)
    (unmoved : happening.track? = none) (current : Int) : happening.opens? current = none := by
  cases happening with
  | track value => simp [track?] at unmoved
  | layer value => rfl
  | instrument program | key position mode | meter numerator denominator =>
      simp [opens?, nothing]

theorem severity_of_rejected {warning : Remark}
    (rejected : happening.verdict? = some (.rejected warning)) : warning.severity = .warning := by
  cases happening with
  | layer value | track value | key position mode => cases rejected
  | instrument program =>
      have found : Verdict.ofProgram program = .rejected warning := Option.some.inj rejected
      unfold Verdict.ofProgram at found
      split at found <;> cases found
      rfl
  | meter numerator denominator =>
      have found : Verdict.ofParts numerator denominator = .rejected warning :=
        Option.some.inj rejected
      unfold Verdict.ofParts at found
      split at found <;> cases found
      rfl

/-- Only a meter whose length cannot be computed interrupts. -/
theorem eq_meter_of_interrupted {cause : ArithmeticFault}
    (interrupted : happening.verdict? = some (.interrupted cause)) :
    ∃ numerator denominator, happening = .meter numerator denominator
      ∧ Measure.ofParts numerator denominator = .error (.arithmetic cause) := by
  cases happening with
  | layer value | track value | key position mode => cases interrupted
  | instrument program =>
      have found : Verdict.ofProgram program = .interrupted cause := Option.some.inj interrupted
      unfold Verdict.ofProgram at found
      split at found <;> cases found
  | meter numerator denominator =>
      have found : Verdict.ofParts numerator denominator = .interrupted cause :=
        Option.some.inj interrupted
      unfold Verdict.ofParts at found
      split at found
      · cases found
      · rename_i computed
        cases found
        exact ⟨numerator, denominator, rfl, computed⟩
      · cases found

end Event

namespace Score

/-- What the events of a list say, each behind those before it. -/
def readings {Value : Type} (read : List Event → Event → Option Value) (events : List Event) :
    List Value :=
  (List.range events.length).filterMap fun place =>
    events[place]?.bind (read (events.take place))

/-- The voice of the last track event, or voice 0. -/
def currentTrack (events : List Event) : Int :=
  (events.filterMap Event.track?).getLast?.getD 0

/-- The layer of the last layer event, or layer 0. -/
def currentLayer (events : List Event) : Int :=
  (events.filterMap Event.layer?).getLast?.getD 0

/-- The voices whose parts are needed, in order and as often as they are. -/
def openings (events : List Event) : List Int :=
  readings (fun earlier => Event.opens? (currentTrack earlier)) events

/-- The voices of a score in the order in which their parts are first needed. -/
def voices (events : List Event) : List Int :=
  (openings events).eraseDups

/-- The accepted elements that arrive while a voice is current, in order. -/
def arrivals (track : Int) (events : List Event) : List ScoreElement :=
  readings (fun earlier happening =>
    if currentTrack earlier = track then happening.element? else none) events

end Score

/-! ### One more call -/

namespace Call

variable (calls : List Call)

theorem sinceStart_start : sinceStart (calls ++ [.start]) = [] := by
  simp [sinceStart]

theorem sinceStart_event (happening : Event) :
    sinceStart (calls ++ [.event happening]) = sinceStart calls ++ [happening] := by
  simp [sinceStart, Call.event?]

theorem sinceStart_finish : sinceStart (calls ++ [.finish]) = sinceStart calls := by
  simp [sinceStart, Call.event?]

end Call

/-! ### One more event -/

namespace Score

/-- One more event is read behind all the others, which say what they said. -/
theorem readings_concat {Value : Type} (read : List Event → Event → Option Value)
    (events : List Event) (happening : Event) :
    readings read (events ++ [happening])
      = readings read events ++ (read events happening).toList := by
  have before : ∀ place ∈ List.range events.length,
      (events ++ [happening])[place]?.bind (read ((events ++ [happening]).take place))
        = events[place]?.bind (read (events.take place)) := by
    intro place member
    have inside : place < events.length := List.mem_range.1 member
    rw [List.getElem?_append_left inside, List.take_append_of_le_length (Nat.le_of_lt inside)]
  have last : (events ++ [happening])[events.length]?.bind
      (read ((events ++ [happening]).take events.length)) = read events happening := by
    simp
  rw [readings, List.length_append, List.length_singleton, List.range_succ, List.filterMap_append,
    List.filterMap_congr before, List.filterMap_cons, List.filterMap_nil, last, readings]
  cases read events happening <;> rfl

variable (events : List Event) (happening : Event)

theorem currentTrack_concat :
    currentTrack (events ++ [happening]) = happening.track?.getD (currentTrack events) := by
  unfold currentTrack
  rw [List.filterMap_append]
  cases happening <;> simp [Event.track?]

theorem currentLayer_concat :
    currentLayer (events ++ [happening]) = happening.layer?.getD (currentLayer events) := by
  unfold currentLayer
  rw [List.filterMap_append]
  cases happening <;> simp [Event.layer?]

theorem openings_concat :
    openings (events ++ [happening])
      = openings events ++ (happening.opens? (currentTrack events)).toList :=
  readings_concat _ events happening

theorem arrivals_concat (track : Int) :
    arrivals track (events ++ [happening])
      = arrivals track events
        ++ if currentTrack events = track then happening.element?.toList else [] := by
  rw [arrivals, readings_concat]
  split <;> rfl

/-- A voice that is needed for the first time stands behind the others. -/
theorem eraseDups_concat (tracks : List Int) (track : Int) :
    (tracks ++ [track]).eraseDups = tracks.eraseDups ++ if track ∈ tracks then [] else [track] := by
  rw [List.eraseDups_append]
  by_cases known : track ∈ tracks
  · simp [List.removeAll, known]
  · simp [List.removeAll, known, List.eraseDups_cons]

variable {events happening}

theorem mem_voices {track : Int} : track ∈ voices events ↔ track ∈ openings events :=
  List.mem_eraseDups

/-- The voice of an event comes behind the others, unless it is among them. -/
theorem voices_concat_of_opens {track : Int}
    (opened : happening.opens? (currentTrack events) = some track) :
    voices (events ++ [happening])
      = voices events ++ if track ∈ voices events then [] else [track] := by
  rw [voices, openings_concat, opened, Option.toList_some, eraseDups_concat]
  simp only [voices, List.mem_eraseDups]

theorem voices_concat_of_idle (idle : happening.opens? (currentTrack events) = none) :
    voices (events ++ [happening]) = voices events := by
  rw [voices, openings_concat, idle, Option.toList_none, List.append_nil, voices]

/-- No voice has two parts. -/
theorem nodup_voices : (voices events).Nodup := by
  unfold voices
  generalize openings events = tracks
  induction tracks using List.reverseRecOn with
  | nil => simp
  | append_singleton tracks track inductionHypothesis =>
      rw [eraseDups_concat]
      by_cases known : track ∈ tracks
      · rw [if_pos known, List.append_nil]
        exact inductionHypothesis
      · rw [if_neg known, List.nodup_append]
        refine ⟨inductionHypothesis, by simp, ?_⟩
        intro other member last isLast
        rintro rfl
        rw [List.mem_eraseDups] at member
        exact known (by simpa [List.mem_singleton.1 isLast] using member)

/-- Nothing arrives for a voice whose part is never needed. -/
theorem arrivals_eq_nil {track : Int} (unopened : track ∉ voices events) :
    arrivals track events = [] := by
  induction events using List.reverseRecOn with
  | nil => rfl
  | append_singleton events happening inductionHypothesis =>
      rw [mem_voices, openings_concat, List.mem_append, not_or] at unopened
      rw [arrivals_concat, inductionHypothesis (mt mem_voices.1 unopened.1),
        List.nil_append]
      cases accepted : happening.element? with
      | none => simp
      | some element =>
          have opened := (Event.needs_current_of_element accepted (currentTrack events)).2.2
          have other : currentTrack events ≠ track := by simpa [opened, eq_comm] using unopened.2
          rw [if_neg other]

end Score

end MusicText
