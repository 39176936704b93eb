import CoroutineEngine.Coroutine.Protocol
import CoroutineEngine.Coroutine.Unraisable

/-!
# Finalization and teardown

Releasing a coroutine happens in two phases. When the last handle of a suspended coroutine is released,
the coroutine is closed while that handle still keeps it alive; a body that stores a new handle somewhere
keeps the coroutine alive. This happens at most once. When no handle is left, the coroutine is torn down:
if it is still suspended it is closed once more, then it gives up what it owns, in a fixed order. Errors
of either close go to the unraisable channel, and the error slot is as before.
-/

namespace CoroutineEngine

variable {L : Language}

/-- Closes a coroutine on behalf of a releaser that has nobody to report to. -/
def closeUnraisable (E : Engine L) (c : CoroutineId) : Effect L Unit := do
  modifyCoroutine c fun r => { r with finalized := true }
  let saved ← fetchError
  E.owning ((saved.map (·.owned)).getD []) do
    match ← close E c with
    | .ok v => E.release v
    | .error e => writeUnraisable E (← .gets (·.coroutineRepr c)) e
  E.releasePending? (← swapError saved)

/-- Gives up what a coroutine without handles still owns when its teardown is over or has panicked: the
fiber, the primed exception, the delegate, the handled exception, the inputs. -/
def releaseRemains (E : Engine L) (c : CoroutineId) : Effect L Unit := do
  let r ← updateCoroutine c fun r =>
    (r, { r.noteFreed with
      fiber := none, pending := none, frame := none, awaiting := none, handled := none
      inputs := ⟨[], [], true⟩ })
  Effect.andFinally (r.fiber.elim (pure ()) (releaseFiber E)) <|
    E.releaseAll <|
      (r.pending.map (·.owned)).getD [] ++ r.awaiting.toList ++ r.handled.toList.map .exception
        ++ r.inputs.parameters ++ r.inputs.closure.map .cell

/-- Gives up the inputs and the fiber of a coroutine, and withdraws it from the registry. -/
def relinquish (E : Engine L) (c : CoroutineId) : Effect L Unit := do
  E.releaseAll (← updateCoroutine c fun r =>
    let (parameters, inputs) := r.inputs.releaseParameters
    (parameters, { r with inputs }))
  E.releaseAll (← updateCoroutine c fun r =>
    let (cells, inputs) := r.inputs.releaseClosure
    (cells.map .cell, { r with inputs }))
  let fiber ← updateCoroutine c fun r => (r.fiber, { r.noteFreed with frame := none, fiber := none })
  fiber.elim (pure ()) (releaseFiber E)
  let _ ← untrackObject (.coroutine c)
  logCoroutine .debug "coroutine released" c []

/-- Tears a coroutine down that has no handle left. -/
def teardown (E : Engine L) (c : CoroutineId) : Effect L Unit := do
  modifyCoroutine c CoroutineRecord.noteTeardown
  Effect.andFinally
    (do
      let saved ← fetchError
      E.owning ((saved.map (·.owned)).getD []) do
        if (← recordOf c).isSuspended then
          modifyCoroutine c CoroutineRecord.noteFarewell
          closeUnraisable E c
        relinquish E c
      E.releasePending? (← swapError saved))
    (releaseRemains E c)

/-- Closes a suspended coroutine whose last handle is being released, unless that was done before. -/
def finalize (E : Engine L) (c : CoroutineId) : Effect L Unit := do
  let r ← recordOf c
  if r.handles = 1 ∧ !r.finalized ∧ r.isSuspended then
    logCoroutine .debug "finalizing unclosed coroutine" c []
    modifyCoroutine c CoroutineRecord.noteFinalization
    closeUnraisable E c
    if 1 < (← recordOf c).handles then
      logCoroutine .debug "coroutine revived during finalization" c []

/-- Gives one handle up, and tears the coroutine down if it was the last. A coroutine that was torn down
has no handle to give up. -/
def dropHandle (E : Engine L) (c : CoroutineId) : Effect L Unit := do
  let handles ← updateCoroutine c fun r => (r.handles, { r with handles := r.handles - 1 })
  if handles = 1 then
    (teardown E c).onPanic (modifyCoroutine c CoroutineRecord.noteCollapse)

/-- Releases a handle of a coroutine. -/
def releaseCoroutine (E : Engine L) (c : CoroutineId) : Effect L Unit :=
  (finalize E c).andFinally (dropHandle E c)

/-- Gives a handle of a wrapper up, and withdraws the wrapper from the registry if it was the last; says how
many are left, and whose wrapper it is. -/
def leaveWrapper (x : WrapperId) : Effect L (Nat × CoroutineId) := do
  let (left, c) ← .modifyGet fun w =>
    let r := w.wrapper x
    let left := r.handles - 1
    ((left, r.coroutine), w.modifyWrapper x fun r => { r with handles := left })
  if left = 0 then
    let _ ← untrackObject (.wrapper x)
  return (left, c)

/-- Gives up the handle of a value. An object without handles releases what it owns, in order. -/
def releaseHandle (E : Engine L) (v : Value) : Effect L Unit := do
  match v with
  | .tuple identity items =>
    let left ← .modifyGet fun w =>
      let left := w.tuples.get identity - 1
      (left, { w with tuples := w.tuples.modify identity fun _ => left })
    if left = 0 then
      E.releaseAll items
  | .exception e =>
    let (left, owned) ← .modifyGet fun w =>
      let r := w.exception e
      let left := r.handles - 1
      ((left, r.owned), w.modifyException e fun r => { r with handles := left })
    if left = 0 then
      E.releaseAll owned
  | .cell c =>
    let (left, content) ← .modifyGet fun w =>
      let r := w.cell c
      let left := r.handles - 1
      ((left, r.content), w.modifyCell c fun r => { r with handles := left })
    if left = 0 then
      E.releaseOption content
  | .wrapper x =>
    let (left, c) ← leaveWrapper x
    if left = 0 then
      releaseCoroutine E c
  | .coroutine c => releaseCoroutine E c
  | _ => pure ()

end CoroutineEngine
