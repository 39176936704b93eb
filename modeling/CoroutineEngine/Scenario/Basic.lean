import CoroutineEngine.Report.Level

/-!
# Scenarios

Small runs that show the protocol of coroutines at work.

Results:
* `ofName?_name`: every scenario is found under its name, whether case is ignored or not.
-/

namespace CoroutineEngine

/-! ## Definitions -/

/-- A scenario: a countdown that ends with a result; closing a body that lets itself be closed and one
that does not; throwing into a body that recovers once; delegating to another coroutine; dropping a
suspended coroutine whose cleanup fails. -/
inductive Scenario
  | countdown
  | close
  | throw
  | await
  | leak
  deriving DecidableEq, Repr

namespace Scenario

/-- The name of a scenario. -/
def name : Scenario → String
  | countdown => "countdown"
  | close => "close"
  | throw => "throw"
  | await => "await"
  | leak => "leak"

/-- What a scenario shows. -/
def summary : Scenario → String
  | countdown => "Yield a countdown, then return"
  | close => "Close a cooperative and a stubborn coroutine"
  | throw => "Throw into a body that recovers once"
  | await => "Delegate to an inner coroutine with await"
  | leak => "Drop a suspended coroutine without closing it"

/-- All scenarios. -/
def all : List Scenario := [countdown, close, throw, await, leak]

/-- The scenario of a name. -/
def ofName? (ignoreCase : Bool) (s : String) : Option Scenario :=
  all.find? fun scenario =>
    if ignoreCase then LogLevel.lowered s == scenario.name else s == scenario.name

/-! ## Helpers -/

theorem ofName?_name (ignoreCase : Bool) (s : Scenario) : ofName? ignoreCase s.name = some s := by
  cases ignoreCase <;> cases s <;> simp [ofName?, all, name, LogLevel.lowered]

end Scenario

end CoroutineEngine
