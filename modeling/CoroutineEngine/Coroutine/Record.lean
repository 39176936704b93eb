import CoroutineEngine.Client.Language
import CoroutineEngine.Exception.Pending
import CoroutineEngine.Fiber.Stack

/-!
# Coroutines and what they own

The record of a coroutine: its status, the inputs handed over when it was built, the fiber that its
body runs on, and what waits between two switches.
-/

namespace CoroutineEngine

/-! ## Inputs -/

/-- The inputs of a body: parameters, released when the body finishes, and closure cells, released at
teardown. -/
structure Inputs where
  parameters : List Value
  closure : List CellId
  parametersReleased : Bool
  deriving Inhabited

namespace Inputs

/-- Inputs that nothing was released from. -/
def new (parameters : List Value) (closure : List CellId) : Inputs := ⟨parameters, closure, false⟩

/-- Gives up the parameters. -/
def releaseParameters (i : Inputs) : List Value × Inputs :=
  (i.parameters, { i with parameters := [], parametersReleased := true })

/-- Gives up the closure cells. -/
def releaseClosure (i : Inputs) : List CellId × Inputs :=
  (i.closure, { i with closure := [] })

/-- The kinds of what is still held: cells first, then the parameters. -/
def kinds (i : Inputs) : List String :=
  i.closure.map (fun _ => "cell") ++ i.parameters.map (·.typeName)

end Inputs

/-! ## Activations -/

/-- A delegation in progress: the awaited value, held twice while it lasts, once by the delegation and
once by the body, and the local that takes the result. -/
structure Delegation where
  delegate : Value
  operand : Value
  target : Option String
  deriving Inhabited

/-- What a body waits for: to be started, to get a value for a local, or for a delegate to return. -/
inductive Waiting
  | start
  | delivery (target : Option String)
  | delegate (d : Delegation)
  deriving Inhabited

/-- The handles that a wait owns. -/
def Waiting.owned : Waiting → List Value
  | start | delivery _ => []
  | delegate d => [d.delegate, d.operand]

/-- The activation of a body: its control state, its locals in the order of first assignment, the
values it holds besides (the newest first), and what it waits for. -/
structure Activation (L : Language) where
  state : L.State
  locals : List (String × Value)
  held : List Value
  waiting : Waiting

namespace Activation

variable {L : Language}

/-- The activation of a program that starts. -/
def new (state : L.State) : Activation L := ⟨state, [], [], .start⟩

/-- What the activation owns, in the order of release: the delegation, the held values, the locals. -/
def owned (a : Activation L) : List Value := a.waiting.owned ++ a.held ++ a.locals.map (·.2)

/-- The value of a local. -/
def local? (a : Activation L) (name : String) : Option Value := a.locals.lookup name

/-- Stores a value under a name, at its old place if it had one, and gives the old value back. -/
def assign : List (String × Value) → String → Value → List (String × Value) × Option Value
  | [], name, v => ([(name, v)], none)
  | (n, old) :: rest, name, v =>
    if n = name then ((n, v) :: rest, some old)
    else
      let (rest', previous) := assign rest name v
      ((n, old) :: rest', previous)

end Activation

/-! ## Fibers -/

/-- The state of a fiber that is not being executed. -/
inductive Stack (L : Language)
  | fresh
  | suspended (a : Activation L)
  | completed
  | released

/-- A fiber of a coroutine. `lossIn` counts down to the switch on which the fiber is lost. -/
structure Fiber (L : Language) where
  stackSize : Nat
  lossIn : Option Nat
  stack : Stack L

/-- A fiber that cannot be entered any more: its body is over, or its stack is released. -/
def Fiber.isDead {L : Language} (f : Fiber L) : Bool :=
  match f.stack with
  | .completed | .released => true
  | .fresh | .suspended _ => false

/-- Where a coroutine gets its fiber: stacks of `stackSize` bytes, of which the first `failures` are
refused, on fibers that are lost at the switch `lossIn`. -/
structure FiberSupply where
  stackSize : Nat
  failures : Nat
  lossIn : Option Nat
  deriving Inhabited

/-! ## Coroutines -/

/-- The status of a coroutine; it only moves forward. -/
inductive Status
  | unused
  | running
  | finished
  deriving DecidableEq, Inhabited, Repr

namespace Status

/-- The status in a sentence. -/
def display : Status → String
  | unused => "unused"
  | running => "running"
  | finished => "finished"

/-- The status as the name of a state. -/
def debug : Status → String
  | unused => "Unused"
  | running => "Running"
  | finished => "Finished"

/-- The place of a status in the life of a coroutine. -/
def rank : Status → Nat
  | unused => 0
  | running => 1
  | finished => 2

end Status

/-- What has happened to a coroutine so far. This is ghost state, for statements about whole runs: it is
noted, and never read.

* `parameters`, `closure`: those that the coroutine was built with.
* `entries`: the entries of its body.
* `losses`: the requests that were answered that its execution context was lost while it still held its
  inputs. `intrusions`: those among them that were made while the coroutine was being left.
* `visits`: the requests that were let in, the closes because the last handle was released, and the
  teardown of a coroutine that was not finished.
* `resumptions`: how often the body was let go on. `delivered`: the class of the exception that was last
  delivered to the body, unless that was a value.
* `left`: the exception that the body handled when it was last switched out. `surprises`: the resumptions
  at which it found another one, or an error in the slot. `outlived`: the coroutines that were finished
  when it was last switched out.
* `finalizations`, `farewells`: the closes because the last handle was released, and those by the
  teardown. `teardowns`: how often the coroutine was torn down. `collapses`: the teardowns that a panic
  came out of.
* `lateAsks`: the fibers that were asked for when the coroutine was not unused. `fibers`: those that were
  obtained. `misentries`: the switches into a fiber that must not be switched into. `faults`: the switches
  that failed. `freed`: the fibers that were given up. `finishes`: how often the coroutine finished.
* `trespasses`: what nobody who holds a coroutine can cause: that it is torn down while a switch into its
  fiber is in flight, and that it is started after it was torn down. -/
structure History where
  parameters : List Value
  closure : List CellId
  entries : Nat
  losses : Nat
  intrusions : Nat
  visits : Nat
  resumptions : Nat
  delivered : Option ExceptionClass
  left : Option Exception
  surprises : Nat
  finalizations : Nat
  farewells : Nat
  teardowns : Nat
  collapses : Nat
  outlived : List CoroutineId
  lateAsks : Nat
  fibers : Nat
  misentries : Nat
  faults : Nat
  freed : Nat
  finishes : Nat
  trespasses : Nat
  deriving Inhabited

namespace History

/-- The history of a coroutine that was just built. -/
def new (parameters : List Value) (closure : List CellId) : History where
  parameters
  closure
  entries := 0
  losses := 0
  intrusions := 0
  visits := 0
  resumptions := 0
  delivered := none
  left := none
  surprises := 0
  finalizations := 0
  farewells := 0
  teardowns := 0
  collapses := 0
  outlived := []
  lateAsks := 0
  fibers := 0
  misentries := 0
  faults := 0
  freed := 0
  finishes := 0
  trespasses := 0

end History

/-- The record of a coroutine. `handles` counts its strong handles; at zero it is torn down. `running`
is set while a switch into the fiber is in flight, and the fiber is then absent. `handled` is the
exception that the body handles, while it is switched out. -/
structure CoroutineRecord (L : Language) where
  handles : Nat
  name : Text
  qualname : Text
  code : Code
  status : Status
  running : Bool
  finalized : Bool
  fiber : Option (Fiber L)
  supply : FiberSupply
  pending : Option PendingException
  frame : Option Frame
  awaiting : Option Value
  handled : Option Exception
  inputs : Inputs
  reportChildren : Bool
  history : History
  deriving Inhabited

namespace CoroutineRecord

variable {L : Language}

/-- Started, not finished, and not switched in. -/
def isSuspended (r : CoroutineRecord L) : Bool := r.status == .running && !r.running

/-- The parameters have been given up, by the end of the body or by teardown. -/
def released (r : CoroutineRecord L) : Bool := r.inputs.parametersReleased

/-- One more handle. A coroutine that was torn down has no handle to copy. -/
def retained (r : CoroutineRecord L) : CoroutineRecord L :=
  { r with handles := if r.handles = 0 then 0 else r.handles + 1 }

/-- A switch into the fiber is in flight: the fiber is out of its place, and was not given up. -/
def isInFlight (r : CoroutineRecord L) : Bool :=
  r.fiber.isNone && decide (r.history.freed < r.history.fibers)

/-- Notes that the body is entered. -/
def noteEntry (r : CoroutineRecord L) : CoroutineRecord L :=
  { r with history := { r.history with entries := r.history.entries + 1 } }

/-- Notes that a request is let in. -/
def noteVisit (r : CoroutineRecord L) : CoroutineRecord L :=
  { r with history := { r.history with visits := r.history.visits + 1 } }

/-- Notes that the body is resumed: what is delivered to it, whether an error is set, and which exception
is handled. -/
def noteResumption (r : CoroutineRecord L) (delivered : Option ExceptionClass) (errorSet : Bool)
    (handled : Option Exception) : CoroutineRecord L :=
  { r with
    history :=
      { r.history with
        resumptions := r.history.resumptions + 1
        delivered
        surprises := r.history.surprises + if errorSet || handled != r.history.left then 1 else 0 } }

/-- Notes which exception the body handles as it is switched out, and which coroutines are finished. -/
def noteSwitch (r : CoroutineRecord L) (handled : Option Exception) (finished : List CoroutineId) :
    CoroutineRecord L :=
  { r with history := { r.history with left := handled, outlived := finished } }

/-- Notes that a fiber is asked for. -/
def noteAsk (r : CoroutineRecord L) : CoroutineRecord L :=
  { r with
    history :=
      { r.history with lateAsks := r.history.lateAsks + if r.status = .unused then 0 else 1 } }

/-- Notes that a fiber is obtained. -/
def noteFiber (r : CoroutineRecord L) : CoroutineRecord L :=
  { r with
    history :=
      { r.history with
        fibers := r.history.fibers + 1
        trespasses := r.history.trespasses + if r.handles = 0 then 1 else 0 } }

/-- The fiber in its place must not be switched into: it is dead, it was given up, or its coroutine is
executing or finished. -/
def isBarred (r : CoroutineRecord L) : Bool :=
  match r.fiber with
  | none => false
  | some f => f.isDead || r.history.freed != 0 || r.running || r.status == .finished

/-- Notes that the fiber is about to be switched into. -/
def noteEntrance (r : CoroutineRecord L) : CoroutineRecord L :=
  { r with
    history := { r.history with misentries := r.history.misentries + if r.isBarred then 1 else 0 } }

/-- Notes that a switch has failed. -/
def noteFault (r : CoroutineRecord L) : CoroutineRecord L :=
  { r with history := { r.history with faults := r.history.faults + 1 } }

/-- Notes that the fiber is given up, if there is one in its place. -/
def noteFreed (r : CoroutineRecord L) : CoroutineRecord L :=
  { r with history := { r.history with freed := r.history.freed + r.fiber.toList.length } }

/-- Notes that a panic comes out of the teardown. -/
def noteCollapse (r : CoroutineRecord L) : CoroutineRecord L :=
  { r with history := { r.history with collapses := r.history.collapses + 1 } }

/-- Notes that the fiber, which is out of its place, is given up. -/
def noteDiscarded (r : CoroutineRecord L) : CoroutineRecord L :=
  { r with history := { r.history with freed := r.history.freed + 1 } }

/-- Notes that the coroutine finishes. -/
def noteFinish (r : CoroutineRecord L) : CoroutineRecord L :=
  { r with history := { r.history with finishes := r.history.finishes + 1 } }

/-- Notes that the coroutine is closed because its last handle is released. -/
def noteFinalization (r : CoroutineRecord L) : CoroutineRecord L :=
  { r with
    history :=
      { r.history with
        visits := r.history.visits + 1
        finalizations := r.history.finalizations + 1 } }

/-- Notes that the coroutine is closed by its teardown. -/
def noteFarewell (r : CoroutineRecord L) : CoroutineRecord L :=
  { r with history := { r.history with farewells := r.history.farewells + 1 } }

/-- Notes that the coroutine is torn down. -/
def noteTeardown (r : CoroutineRecord L) : CoroutineRecord L :=
  { r with
    history :=
      { r.history with
        visits := r.history.visits + if r.status = .finished then 0 else 1
        teardowns := r.history.teardowns + 1
        trespasses := r.history.trespasses + if r.isInFlight then 1 else 0 } }

/-- The body was switched out, and its fiber is not back in its place yet. -/
def isBeingLeft (r : CoroutineRecord L) : Bool := r.isSuspended && r.fiber.isNone

/-- Notes that a request is answered that the execution context is lost. -/
def noteLoss (r : CoroutineRecord L) : CoroutineRecord L :=
  { r with
    history :=
      { r.history with
        losses := r.history.losses + if r.released then 0 else 1
        intrusions := r.history.intrusions + if !r.released && r.isBeingLeft then 1 else 0 } }

end CoroutineRecord

end CoroutineEngine
