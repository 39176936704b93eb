import CoroutineEngine.Value
import CoroutineEngine.Client.Operation

/-!
# Languages of clients

A body is a client of the engine: a state machine that is told what became of its last command and
names the next one. The engine is written for every such machine, so what holds of the engine holds
for every body. Values that a body holds are kept by the engine in the body's activation, under names
(locals) and on a stack (held values); the machine refers to them and never owns a handle itself.
-/

namespace CoroutineEngine

/-- What became of a command. The exception of `raised` lies on top of the held values. -/
inductive Answer
  | start
  | value (v : Value)
  | done
  | truth (b : Bool)
  | raised (e : Exception)

/-- A command of a client.

* `yield`, `await`: suspend with a value, or delegate to an awaitable; the value delivered or returned
  goes to the local `target`, or is released.
* `perform`: any operation of the engine; a value goes to `target`, the data that a body is given
  become an event.
* `test`: whether a value is true. `caught`: whether the top held exception is of a class.
* `hold`: puts a value on the held values. `discard i`: releases the i-th held value from the top.
* `bind`: copies the top held value to a local.
* `enter`: makes the top held exception the handled one and holds the previous one in its place.
  `leave i`: makes the i-th held value the handled exception again.
* `raise`: raises what a `raise` statement with a class or instance and an argument raises.
* `pass`: nothing.
* `finish`: ends with the top held value as result. `fail`: ends by raising the top held exception.
* `panic`: dies. -/
inductive Command (S : Type)
  | yield (value : Expr) (target : Option String)
  | await (value : Expr) (target : Option String)
  | perform (op : Operation S) (target : Option String)
  | test (condition : Expr)
  | caught (cls : Expr)
  | hold (value : Expr)
  | discard (depth : Nat)
  | bind (target : String)
  | enter
  | leave (depth : Nat)
  | raise (value arg : Expr)
  | pass
  | finish
  | fail
  | panic (message : String)

/-- A language of client programs. `reaction` gives the program that an unraisable-error hook of a
mode runs after it has noted the report. -/
structure Language where
  Script : Type
  State : Type
  start : Script → State
  next : State → Answer → Command Script × State
  reaction : String → Script

end CoroutineEngine
