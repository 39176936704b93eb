import CoroutineEngine.Client.Operation
import CoroutineEngine.Coroutine.Record

/-!
# Counting fibers

A fiber by itself, without a coroutine: it takes integers and hands out integers. The first input is
the total; for each summand it hands out the total plus the summand and adds the next input to the
total; in the end it completes with the total.

Results:
* `switch_released`, `switch_completed`: a released or completed fiber is never entered again.
-/

namespace CoroutineEngine

/-! ## Definitions -/

/-- The state of a counting fiber: not entered, waiting with a total and the summands that are left,
completed, or released. -/
inductive CountingState
  | fresh
  | waiting (total : Int64) (summands : List Int64)
  | completed
  | released
  deriving DecidableEq, Inhabited, Repr

/-- A counting fiber. -/
structure CountingFiber where
  summands : List Int64
  stackSize : Nat
  byFactory : Bool
  state : CountingState
  deriving Inhabited, Repr

/-- What a switch into a counting fiber gives. -/
inductive CountingSwitch
  | suspended (n : Int64)
  | completed (s : String)
  deriving DecidableEq, Repr

namespace CountingFiber

/-- Goes on with a total: hands out the next value, or completes. -/
def proceed (f : CountingFiber) (total : Int64) (summands : List Int64) :
    CountingSwitch × CountingFiber :=
  match summands with
  | [] => (.completed ("done:" ++ toString total.toInt), { f with state := .completed })
  | k :: rest => (.suspended (total + k), { f with state := .waiting total rest })

/-- Switches into the fiber with an input. -/
def switch (f : CountingFiber) (input : Int64) : Except FiberError (CountingSwitch × CountingFiber) :=
  match f.state with
  | .released => .error .released
  | .completed => .error .completed
  | .fresh => .ok (f.proceed input f.summands)
  | .waiting total rest => .ok (f.proceed (total + input) rest)

/-- Whether the fiber was entered; a released fiber no longer knows. -/
def isStarted (f : CountingFiber) : Bool :=
  match f.state with
  | .fresh | .released => false
  | .waiting .. | .completed => true

/-- Whether the fiber can no longer be entered. -/
def isCompleted (f : CountingFiber) : Bool :=
  match f.state with
  | .fresh | .waiting .. => false
  | .completed | .released => true

/-- Whether the fiber waits for an input. -/
def isSuspended (f : CountingFiber) : Bool := f.isStarted && !f.isCompleted

/-- The text of a fiber's state. -/
def debug (f : CountingFiber) : String :=
  "StackFiber \x7b stack_size: " ++ toString f.stackSize ++ ", started: " ++ toString f.isStarted
    ++ ", completed: " ++ toString f.isCompleted ++ " \x7d"

/-! ## Helpers -/

theorem switch_released (f : CountingFiber) (n : Int64) (h : f.state = .released) :
    f.switch n = .error .released := by
  simp [switch, h]

theorem switch_completed (f : CountingFiber) (n : Int64) (h : f.state = .completed) :
    f.switch n = .error .completed := by
  simp [switch, h]

end CountingFiber

end CoroutineEngine
