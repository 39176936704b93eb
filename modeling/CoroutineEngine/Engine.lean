import CoroutineEngine.Coroutine.Error

/-!
# The two activities of the engine

Releasing a handle can close a coroutine, which runs its body; running a body can release handles and
resume other bodies. The engine is therefore built around these two activities: everything else is
written for a given `Engine` and is not recursive, and `Engine.ofDepth` ties the knot up to a depth of
nesting.
-/

namespace CoroutineEngine

/-- What a body can reach of its coroutine: the coroutine itself while it lives, its code, and its
frame. -/
structure Context where
  coroutine : CoroutineId
  code : Code
  frame : Frame

/-- How a run of a program ends: it suspends and waits, or it is over. -/
inductive Exit (L : Language)
  | suspended (value : Value) (a : Activation L)
  | completed (result : Reply)

/-- The activities that everything else is built from: `release` gives up the handle of a value, and
`run` lets a program go on from what is delivered to it. -/
structure Engine (L : Language) where
  release : Value → Effect L Unit
  run : Option Context → Activation L → Transfer → Effect L (Exit L)

namespace Engine

variable {L : Language} {α : Type}

/-- The engine in which nothing happens any more: all it can let go of is the empty value. -/
def halted : Engine L where
  release v := if v.isNone then pure () else .stop
  run _ _ _ := .stop

/-- Releases values in order; a panic does not keep the later ones from being released. -/
def releaseAll (E : Engine L) : List Value → Effect L Unit
  | [] => pure ()
  | v :: vs => (E.release v).andFinally (E.releaseAll vs)

/-- Releases an exception. -/
def releaseException (E : Engine L) (e : Exception) : Effect L Unit := E.release (.exception e)

/-- Releases what may be there. -/
def releaseOption (E : Engine L) (v : Option Value) : Effect L Unit := E.releaseAll v.toList

/-- Releases an exception that may be there. -/
def releaseException? (E : Engine L) (e : Option Exception) : Effect L Unit :=
  E.releaseAll (e.toList.map .exception)

/-- Releases a triple that may be there. -/
def releasePending? (E : Engine L) (p : Option PendingException) : Effect L Unit :=
  E.releaseAll ((p.map (·.owned)).getD [])

/-- Releases what a request gave. -/
def releaseReply (E : Engine L) : Reply → Effect L Unit
  | .ok v => E.release v
  | .error e => E.releaseException e

/-- Runs a computation while a handle is held, and releases the handle whichever way it ends. -/
def holding (E : Engine L) (v : Value) (x : Effect L α) : Effect L α := x.andFinally (E.release v)

/-- Runs a computation that owns handles; if it panics, they are released. -/
def owning (E : Engine L) (vs : List Value) (x : Effect L α) : Effect L α :=
  x.onPanic (E.releaseAll vs)

end Engine

end CoroutineEngine
