import MusicText.Journal

/-!
Contract: what a call makes of a listener.

Owns: the state that a listener goes into, its remarks, and the fault that may interrupt
it.

Does not own: what listeners do; see `MusicText.Score` and `MusicText.Listener`.
-/

namespace MusicText

/-- What becomes of a state by a call: the next state, the remarks that are made, and
the fault that interrupts whoever made the call. -/
structure Reaction (State : Type) where
  next : State
  remarks : List Remark
  interruption : Option ArithmeticFault

namespace Reaction

variable {State Other : Type}

/-- A reaction without remarks. -/
def quiet (next : State) : Reaction State :=
  ⟨next, [], none⟩

/-- The reaction of a whole that contains the state. -/
def map (change : State → Other) (reaction : Reaction State) : Reaction Other :=
  ⟨change reaction.next, reaction.remarks, reaction.interruption⟩

/-- A reaction with an earlier remark in front. -/
def after (earlier : List Remark) (reaction : Reaction State) : Reaction State :=
  { reaction with remarks := earlier ++ reaction.remarks }

/-- Goes on with a later reaction, unless the first one is an interruption. -/
def andThen (reaction : Reaction State) (later : State → Reaction State) : Reaction State :=
  match reaction.interruption with
  | some _ => reaction
  | none => (later reaction.next).after reaction.remarks

theorem andThen_of_interrupted {reaction : Reaction State} {later : State → Reaction State}
    {fault : ArithmeticFault} (interrupted : reaction.interruption = some fault) :
    reaction.andThen later = reaction := by
  simp [andThen, interrupted]

theorem andThen_quiet (next : State) (later : State → Reaction State) :
    (quiet next).andThen later = later next := by
  simp [andThen, quiet, after]

end Reaction

end MusicText
