import CoroutineEngine.World.Objects

/-!
# The ambient state of a thread

The error slot, the handled exception, the frame stack and the hook. Every access borrows the state for
its duration; an access while it is borrowed panics. Displaced values are handed to the caller, who
releases them when the borrow has ended.
-/

namespace CoroutineEngine

variable {L : Language} {α : Type}

/-- What an access to a borrowed state panics with. -/
def alreadyBorrowed : String := "already borrowed: BorrowMutError"

/-- Uses the ambient state. -/
def withAmbient (f : Ambient L → α × Ambient L) : Effect L α := fun w =>
  if w.ambient.borrowed then (.panic alreadyBorrowed, w)
  else
    let (a, ambient) := f w.ambient
    (.ok a, { w with ambient })

/-! ## The error slot -/

/-- Takes the error out of its slot. -/
def fetchError : Effect L (Option PendingException) :=
  withAmbient fun a => (a.error, { a with error := none })

/-- Puts an error into the slot, or clears it; gives back what was there. -/
def swapError (error : Option PendingException) : Effect L (Option PendingException) :=
  withAmbient fun a => (a.error, { a with error })

/-- Whether an error is set. -/
def errorOccurred : Effect L Bool := withAmbient fun a => (a.error.isSome, a)

/-- The error in the slot, with a handle of its own. -/
def currentError : Effect L (Option PendingException) := do
  let error ← withAmbient fun a => (a.error, a)
  if let some p := error then
    retainAll p.owned
  return error

/-! ## The handled exception -/

/-- The exception that is being handled, with a handle of its own. -/
def handledException : Effect L (Option Exception) := do
  let handled ← withAmbient fun a => (a.handled, a)
  if let some e := handled then
    retain (.exception e)
  return handled

/-- Makes an exception the handled one; gives back the previous one. -/
def swapHandled (handled : Option Exception) : Effect L (Option Exception) :=
  withAmbient fun a => (a.handled, { a with handled })

/-! ## The frame stack -/

/-- The top frame. -/
def currentFrame : Effect L (Option Frame) := withAmbient fun a => (a.top, a)

/-- Makes a frame the top; gives back the previous one. -/
def swapTop (top : Option Frame) : Effect L (Option Frame) :=
  withAmbient fun a => (a.top, { a with top })

/-- Links a frame to the frame it returns to; gives back the previous link. -/
def swapBack (f : Frame) (back : Option Frame) : Effect L (Option Frame) :=
  .modifyGet fun w => ((w.frame f).back, w.modifyFrame f fun r => { r with back })

/-- Enters a plain activation of a code. -/
def pushFrame (code : Code) : Effect L Frame := do
  let frame ← makeFrame code
  let _ ← swapBack frame (← currentFrame)
  let _ ← swapTop (some frame)
  return frame

/-- Leaves the top activation. -/
def popFrame : Effect L (Option Frame) := do
  match ← currentFrame with
  | none => return none
  | some top =>
    let caller ← swapBack top none
    let _ ← swapTop caller
    return some top

/-! ## The hook -/

/-- Installs a hook, or removes it; gives back the previous one. -/
def swapHook (hook : Option (Hook L)) : Effect L (Option (Hook L)) :=
  withAmbient fun a => (a.hook, { a with hook, asked := hook :: a.asked })

/-- Takes the hook out of its place. -/
def takeHook : Effect L (Option (Hook L)) := withAmbient fun a => (a.hook, { a with hook := none })

/-- Puts a hook back unless another one was installed; the one that is not needed is given back. -/
def reinstallHook (hook : Hook L) : Effect L (Option (Hook L)) :=
  withAmbient fun a =>
    match a.hook with
    | none => (none, { a with hook := some hook })
    | some _ => (some hook, a)

/-- Runs a computation while the state is borrowed. -/
def whileBorrowed (x : Effect L Unit) : Effect L Unit := do
  .modify fun w => { w with ambient := { w.ambient with borrowed := true } }
  x.andFinally (.modify fun w => { w with ambient := { w.ambient with borrowed := false } })

end CoroutineEngine
