import MusicText.Listener

/-!
Contract: sessions, in which one parser serves several named listeners.

Owns: named listeners, the list of those that are attached, and what a session does
with a text, with a call, and with the list.

Does not own: groups that hold their members themselves; see `MusicText.Listener`.

A listener is attached by its name. One that is attached twice receives every call
twice; one that is not attached receives none.
-/

namespace MusicText

open MusicText.Text

/-- A parser with named listeners, of which some are attached, in order. -/
structure Session where
  parser : Parser
  listeners : List (Text × Listener)
  attached : List Text

namespace Session

/-- Why a session does not do what is asked of it. -/
inductive Refusal
  /-- The listener cannot be detached, because it is not attached. -/
  | notAttached
  /-- No listener has this name. -/
  | unknownListener (name : Text)
  /-- A listener of this kind builds no parts. -/
  | withoutParts (kind : Text)
  deriving DecidableEq, Repr

/-- The wording of a refusal. -/
def Refusal.message : Refusal → Text
  | .notAttached => "list.remove(x): x not in list".toText
  | .unknownListener name => quoted name
  | .withoutParts kind => "'".toText ++ kind ++ "' object has no attribute 'get_part'".toText

def tell (call : Call) (name : Text) :
    List (Text × Listener) → Reaction (List (Text × Listener))
  | [] => .quiet []
  | (known, listener) :: rest =>
      if known = name then (listener.receive call).map fun next => (known, next) :: rest
      else (tell call name rest).map fun others => (known, listener) :: others

/-- Hands a call to the listeners of several names, one after the other, until one
interrupts. -/
def tellEach (call : Call) :
    List Text → List (Text × Listener) → Reaction (List (Text × Listener))
  | [], listeners => .quiet listeners
  | name :: rest, listeners => (tell call name listeners).andThen (tellEach call rest)

/-- Hands a call to all attached listeners. -/
def dispatch (session : Session) (call : Call) : Reaction Session :=
  (tellEach call session.attached session.listeners).map fun listeners =>
    { session with listeners := listeners }

/-- Hands the notices of a parse to the attached listeners, and gathers all remarks in
order. -/
def follow (session : Session) : List Notice → Reaction Session
  | [] => .quiet session
  | .remark content :: rest => (session.follow rest).after [content]
  | .call content :: rest => (session.dispatch content).andThen fun next => next.follow rest

/-- Parses music for the attached listeners. -/
def parse (session : Session) (music : Text) :
    Session × List Remark × Except Failure Context :=
  let run := session.parser.run music
  let reaction := session.follow run.notices
  (reaction.next, reaction.remarks, run.resultWith reaction.interruption)

def listener (session : Session) (name : Text) : Except Refusal Listener :=
  match session.listeners.lookup name with
  | some listener => .ok listener
  | none => .error (.unknownListener name)

/-- Attaches a listener behind those that are attached. -/
def attach (session : Session) (name : Text) : Except Refusal Session :=
  (session.listener name).map fun _ => { session with attached := session.attached ++ [name] }

/-- Attaches several listeners, in order. -/
def attachAll (session : Session) : List Text → Except Refusal Session
  | [] => .ok session
  | name :: rest =>
      match session.attach name with
      | .error refusal => .error refusal
      | .ok next => next.attachAll rest

/-- Detaches a listener where it is attached first. -/
def detach (session : Session) (name : Text) : Except Refusal Session :=
  match session.listener name with
  | .error refusal => .error refusal
  | .ok _ =>
      if name ∈ session.attached then
        .ok { session with attached := session.attached.erase name }
      else .error .notAttached

/-- The part that a named builder has for a voice, if it has one. -/
def part? (session : Session) (name : Text) (track : Int) : Except Refusal (Option Part) :=
  match session.listener name with
  | .error refusal => .error refusal
  | .ok (.builder state) => .ok (state.part? track)
  | .ok other => .error (.withoutParts other.kindName)

end Session

end MusicText
