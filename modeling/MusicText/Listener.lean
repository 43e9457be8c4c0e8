import MusicText.Parser
import MusicText.Score

/-!
Contract: listeners of a parse.

Owns: the kinds of listeners, what each makes of a call, and a parse with a listener.

Does not own: listeners that are shared under names; see `MusicText.Session`.
-/

namespace MusicText

/-- A listener. A group hands every call to its members in order. -/
inductive Listener
  /-- Takes no notice. -/
  | silent
  /-- Keeps the events since the last start. -/
  | collector (events : List Event)
  /-- Keeps all calls. -/
  | recorder (calls : List Call)
  /-- Builds a score. -/
  | builder (state : ScoreBuilder)
  | group (members : List Listener)
  deriving Repr

namespace Listener

def kindName : Listener → Text
  | .silent => "ParserListener".toText
  | .collector _ => "EventCollector".toText
  | .recorder _ => "Recorder".toText
  | .builder _ => "StreamBuilder".toText
  | .group _ => "ListenerGroup".toText

/-- The events that a collector keeps after a call. -/
def collect (events : List Event) : Call → List Event
  | .start => []
  | .event happening => events ++ [happening]
  | .finish => events

mutual

/-- What a listener makes of a call. -/
def receive (call : Call) : Listener → Reaction Listener
  | .silent => .quiet .silent
  | .collector events => .quiet (.collector (collect events call))
  | .recorder calls => .quiet (.recorder (calls ++ [call]))
  | .builder state => (state.receive call).map .builder
  | .group members => (receiveEach call members).map .group

/-- What the members of a group make of a call, one after the other. Behind a member that
interrupts no other receives the call. -/
def receiveEach (call : Call) : List Listener → Reaction (List Listener)
  | [] => .quiet []
  | member :: rest =>
      let reaction := receive call member
      match reaction.interruption with
      | some _ => reaction.map (· :: rest)
      | none => ((receiveEach call rest).map (reaction.next :: ·)).after reaction.remarks

end

/-- What a listener makes of the notices of a parse, with all remarks in order: those of
the parse, and those of the listener on the calls. -/
def follow (listener : Listener) : List Notice → Reaction Listener
  | [] => .quiet listener
  | .remark content :: rest => (follow listener rest).after [content]
  | .call content :: rest => (receive content listener).andThen fun next => follow next rest

/-- What a listener becomes by a sequence of calls, without remarks. -/
def receiveAll (listener : Listener) (calls : List Call) : Listener :=
  calls.foldl (fun current call => (receive call current).next) listener

end Listener

/-- A parse as a listener witnesses it: what becomes of the listener, all remarks, and how
the parse ends. -/
structure Hearing where
  listener : Listener
  remarks : List Remark
  result : Except Failure Context

namespace Listener

/-- A listener hears a parse. When it interrupts, the parse fails there. -/
def hear (listener : Listener) (run : Run) : Hearing :=
  let reaction := listener.follow run.notices
  ⟨reaction.next, reaction.remarks, run.resultWith reaction.interruption⟩

end Listener

end MusicText
