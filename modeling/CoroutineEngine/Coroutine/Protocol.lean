import CoroutineEngine.Coroutine.Normalize
import CoroutineEngine.World.Ambience

/-!
# The send, throw and close protocol

Every request goes through `send`: a throw primes an exception and resumes without a value, a close
throws the cancellation signal. Around each switch the frame of the coroutine is put on top of the
driver's frame stack and the ambient error state is swapped; both are put back on the way out, also when
the body panics.
-/

namespace CoroutineEngine

variable {L : Language} {α : Type}

/-- Changes the record of a coroutine and gives a result. -/
def updateCoroutine (c : CoroutineId) (f : CoroutineRecord L → α × CoroutineRecord L) :
    Effect L α :=
  .modifyGet fun w =>
    let (a, r) := f (w.coroutine c)
    (a, w.modifyCoroutine c fun _ => r)

/-! ## Fibers -/

/-- Maps a stack for a fiber. -/
def mapStack (size : Nat) : Effect L (Option FiberError) :=
  match Stack.grant size with
  | .overflow => .panic Stack.overflowMessage
  | .outOfMemory => pure (some (.stackAllocation size Stack.outOfMemory))
  | .granted => do
    log .trace "fiber created" [("stack_size", .ofNat size)]
    return none

/-- Asks for a fiber, which is refused as often as the supply was told to. -/
def createFiber (c : CoroutineId) : Effect L (Except FiberError (Fiber L)) := do
  let supply ← updateCoroutine c fun r => (r.supply, r.noteAsk)
  match supply.failures with
  | n + 1 =>
    modifyCoroutine c fun r => { r with supply := { supply with failures := n } }
    return .error (.stackAllocation 0 "exhausted")
  | 0 =>
    match ← mapStack supply.stackSize with
    | some error => return .error error
    | none => return .ok { stackSize := supply.stackSize, lossIn := supply.lossIn, stack := .fresh }

/-- Frees the stack of a fiber; a suspended body is unwound first. -/
def releaseFiber (E : Engine L) (f : Fiber L) : Effect L Unit := do
  let note (suspended : Bool) : Effect L Unit :=
    log .trace "fiber released" [("stack_size", .ofNat f.stackSize), ("suspended", .bool suspended)]
  match f.stack with
  | .released => pure ()
  | .fresh | .completed => note false
  | .suspended a =>
    note true
    E.releaseAll a.owned

/-- Gives up a fiber of a coroutine that is out of its place. -/
def discardFiber (E : Engine L) (c : CoroutineId) (f : Fiber L) : Effect L Unit := do
  modifyCoroutine c CoroutineRecord.noteDiscarded
  releaseFiber E f

/-- Counts a switch towards the loss of the fiber; on the last one the stack is released. -/
def approachLoss (E : Engine L) (f : Fiber L) : Effect L (Fiber L) := do
  match f.lossIn with
  | none => return f
  | some 1 =>
    releaseFiber E f
    return { f with lossIn := none, stack := .released }
  | some n => return { f with lossIn := some (n - 1) }

/-- Lets the body of a coroutine go on, and notes what it finds and what it leaves. -/
def continueBody (E : Engine L) (context : Context) (a : Activation L) (t : Transfer) :
    Effect L (Exit L) := do
  .modify fun w =>
    w.modifyCoroutine context.coroutine
      (·.noteResumption (t.exception.map (·.kind)) w.ambient.error.isSome w.ambient.handled)
  let exit ← E.run (some context) a t
  .modify fun w =>
    w.modifyCoroutine context.coroutine (·.noteSwitch w.ambient.handled w.finished)
  return exit

/-- Enters a fiber. An exception that is thrown in before the start is raised without running the
body. -/
def enterFiber (E : Engine L) (context : Context) (f : Fiber L) (t : Transfer) :
    Effect L (Except FiberError (Exit L)) := do
  match f.stack with
  | .released =>
    E.releaseAll t.owned
    return .error .released
  | .completed =>
    E.releaseAll t.owned
    return .error .completed
  | .suspended a => return .ok (← continueBody E context a t)
  | .fresh =>
    match t.exception with
    | some p =>
      let e ← p.instantiate
      E.owning [.exception e] (E.release t.value)
      return .ok (.completed (.error e))
    | none =>
      match ← .gets fun w => w.programs[context.code.entry]? with
      | none =>
        E.release t.value
        return .ok (.completed (.ok .none))
      | some program =>
        modifyCoroutine context.coroutine CoroutineRecord.noteEntry
        return .ok (← continueBody E context (.new (L.start program)) t)

/-- The fiber after a switch. -/
def Fiber.after (f : Fiber L) : Except FiberError (Exit L) → Fiber L
  | .error _ => f
  | .ok (.suspended _ a) => { f with stack := .suspended a }
  | .ok (.completed _) => { f with stack := .completed }

/-- The fiber after a panic inside a switch: its stack is gone. -/
def Fiber.afterPanic (f : Fiber L) : Fiber L :=
  { f with stack := if f.lossIn = some 1 then .released else .completed }

/-- The handles that a switch gave to the driver. -/
def outcomeOwned : Except FiberError (Exit L) → List Value
  | .error _ => []
  | .ok (.suspended v _) => [v]
  | .ok (.completed (.ok v)) => [v]
  | .ok (.completed (.error e)) => [.exception e]

/-! ## Switches -/

/-- The driver's side of a switch: its frame, its error, and the exception it handles. -/
structure DriverState where
  caller : Option Frame
  error : Option PendingException
  handled : Option Exception

/-- The handles that the driver's side owns. -/
def DriverState.owned (d : DriverState) : List Value :=
  (d.error.map (·.owned)).getD [] ++ d.handled.toList.map .exception

/-- Puts the frame of a coroutine on top and parks the driver's error state; the body finds its own
handled exception and an empty error slot. -/
def enterSwitch (c : CoroutineId) (frame : Frame) : Effect L DriverState := do
  let caller ← swapTop (some frame)
  let _ ← swapBack frame caller
  let own ← updateCoroutine c fun r => (r.handled, { r with handled := none })
  let error ← fetchError
  let handled ← swapHandled own
  modifyCoroutine c fun r => { r with running := true }
  logCoroutine .trace "switch into coroutine" c []
  return { caller, error, handled }

/-- Finishes a coroutine: drops the frame, the parameters, the delegate and any primed exception. -/
def finish (E : Engine L) (c : CoroutineId) : Effect L Unit := do
  let parameters ← updateCoroutine c fun r =>
    let (parameters, inputs) := r.inputs.releaseParameters
    (parameters, { r.noteFinish with status := .finished, frame := none, inputs })
  E.releaseAll parameters
  E.releaseOption (← updateCoroutine c fun r => (r.awaiting, { r with awaiting := none }))
  E.releasePending? (← updateCoroutine c fun r => (r.pending, { r with pending := none }))
  logCoroutine .debug "coroutine finished" c []

/-- Discards an error that the body left in the slot. -/
def discardStray (E : Engine L) : Effect L Unit := do
  if let some stray ← fetchError then
    log .debug "discarding error left by coroutine body" [("kind", .text stray.kind.name)]
    E.releasePending? (some stray)

/-- Gives the driver its error state and its frame back, and keeps the body's handled exception for its
next resumption. -/
def restoreDriver (E : Engine L) (c : CoroutineId) (frame : Frame) (driver : DriverState) :
    Effect L Unit := do
  modifyCoroutine c fun r => { r with running := false }
  E.owning driver.owned (discardStray E)
  let displaced ← swapError driver.error
  E.owning (driver.handled.toList.map .exception) (E.releasePending? displaced)
  let own ← swapHandled driver.handled
  let previous ← updateCoroutine c fun r => (r.handled, { r with handled := own })
  E.releaseException? previous
  let _ ← swapBack frame none
  let _ ← swapTop driver.caller

/-- Undoes `enterSwitch`. A coroutine whose body panicked is finished. -/
def leaveSwitch (E : Engine L) (c : CoroutineId) (frame : Frame) (driver : DriverState)
    (panicked : Bool) : Effect L Unit := do
  restoreDriver E c frame driver
  if panicked then
    logCoroutine .warn "coroutine body panicked" c []
    finish E c

/-- Switches into the fiber of a coroutine and back. If the body panics, its fiber is gone. -/
def switchInto (E : Engine L) (c : CoroutineId) (code : Code) (frame : Frame) (fiber : Fiber L)
    (t : Transfer) : Effect L (Except FiberError (Exit L) × Fiber L) := do
  let driver ← enterSwitch c frame
  let (outcome, fiber) ← Effect.onPanic
    (do
      let fiber ← approachLoss E fiber
      let outcome ← enterFiber E ⟨c, code, frame⟩ fiber t
      return (outcome, fiber.after outcome))
    (do
      leaveSwitch E c frame driver true
      discardFiber E c fiber.afterPanic)
  Effect.onPanic (leaveSwitch E c frame driver false)
    (do
      E.releaseAll (outcomeOwned outcome)
      discardFiber E c fiber)
  return (outcome, fiber)

/-! ## Requests -/

/-- Creates the frame and the fiber of a coroutine that was never resumed. -/
def materialize (c : CoroutineId) : Effect L (Option FiberError) := do
  let frame ← makeFrame (← recordOf c).code
  match ← createFiber c with
  | .error error =>
    logCoroutine .warn "fiber allocation failed" c [("error", .text error.message)]
    return some error
  | .ok fiber =>
    modifyCoroutine c fun r =>
      { r.noteFiber with fiber := some fiber, frame := some frame, status := .running }
    logCoroutine .debug "coroutine started" c []
    return none

/-- What the end of a body gives its driver: the exhaustion signal with the result, or the exception,
which notes the frame it leaves. An exhaustion signal that leaves the body becomes an error, if the code
asks for it. -/
def surface (code : Code) (frame : Frame) : Reply → Effect L Reply
  | .ok v => do
    return .error (← makeStopIteration v)
  | .error e => do
    pushTraceback e frame
    if e.cls.isSubclassOf .stopIteration && code.generatorStop then
      let wrapped ← CoroutineError.leakedStopIteration.raise
      retain (.exception e)
      let _ ← attachCause wrapped e
      let _ ← attachContext wrapped e
      return .error wrapped
    return .error e

/-- Resumes a started coroutine with a transfer. -/
def resume (E : Engine L) (c : CoroutineId) (t : Transfer) : Effect L Reply := do
  let r ← recordOf c
  match r.frame, r.fiber with
  | some frame, some fiber =>
    modifyCoroutine c fun r => { r.noteEntrance with fiber := none }
    let (outcome, fiber) ← switchInto E c r.code frame fiber t
    modifyCoroutine c fun r => { r with fiber := some fiber }
    match outcome with
    | .ok (.suspended v _) => return .ok v
    | .ok (.completed result) =>
      E.owning (outcomeOwned outcome) (finish E c)
      surface r.code frame result
    | .error error =>
      logCoroutine .warn "switch into coroutine failed" c [("error", .text error.message)]
      modifyCoroutine c fun r => r.noteFault.noteLoss
      finish E c
      return .error (← CoroutineError.contextLost.raise)
  | _, _ =>
    modifyCoroutine c CoroutineRecord.noteLoss
    refuse E .contextLost t.owned

/-- Resumes a started coroutine with the primed exception, or with a value, which it takes over. -/
def resumeWith (E : Engine L) (c : CoroutineId) (v : Value) : Effect L Reply := do
  match ← updateCoroutine c fun r => (r.pending, { r with pending := none }) with
  | some p =>
    E.owning p.owned (E.release v)
    resume E c (.ofPending p)
  | none => resume E c (.ofValue v)

/-- Resumes a coroutine with a value, which it takes over. -/
def send (E : Engine L) (c : CoroutineId) (v : Value) : Effect L Reply := do
  let r ← recordOf c
  if r.status = .unused ∧ !v.isNone then
    refuse E .sendToUnstarted [v]
  else if r.status = .finished then
    let e ← makeStopIteration .none
    E.owning [.exception e] (E.release v)
    return .error e
  else if r.running then
    refuse E .alreadyExecuting [v]
  else
    modifyCoroutine c CoroutineRecord.noteVisit
    match ← (if r.status = .unused then materialize c else pure none) with
    | some error => refuse E (.allocation error) [v]
    | none => resumeWith E c v

/-- Raises a triple at the suspension point of a coroutine; no triple stays primed, unless a panic stands
in the way of the switch. -/
def throwPending (E : Engine L) (c : CoroutineId) (p : PendingException) : Effect L Reply := do
  let r ← recordOf c
  if r.running then
    refuse E .alreadyExecuting p.owned
  else if r.status = .finished then
    return .error (← p.instantiate)
  else
    E.releasePending? (← updateCoroutine c fun r => (r.pending, { r with pending := some p }))
    let reply ← send E c .none
    let left ← updateCoroutine c fun r => (r.pending, { r with pending := none })
    E.owning [reply.owned] (E.releasePending? left)
    return reply

/-- Cancels a started coroutine. Yielding again is an error; any other end is the body's own. -/
def close (E : Engine L) (c : CoroutineId) : Effect L Reply := do
  let r ← recordOf c
  if r.status ≠ .running then
    return .ok .none
  match ← throwPending E c (.ofClass .generatorExit) with
  | .ok v => refuse E .ignoredGeneratorExit [v]
  | .error e =>
    if e.cls.isSubclassOf .generatorExit || e.cls.isSubclassOf .stopIteration then
      E.releaseException e
      return .ok .none
    return .error e

/-- Raises what a class, an argument and a traceback describe. Takes the three over; the class and the
traceback are held until the request is over. -/
def throw (E : Engine L) (c : CoroutineId) (kind value traceback : Value) : Effect L Reply :=
  E.holding kind <| E.holding traceback do
    match ← normalizeThrow E kind value traceback with
    | .error e => return .error e
    | .ok p => throwPending E c p

/-- Raises an instance, which it takes over. -/
def throwException (E : Engine L) (c : CoroutineId) (e : Exception) : Effect L Reply := do
  throwPending E c (← pendingOf e)

end CoroutineEngine
