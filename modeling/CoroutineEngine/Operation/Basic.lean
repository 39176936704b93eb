import CoroutineEngine.Client.Evaluation
import CoroutineEngine.Coroutine.Lifecycle

/-!
# The answers of operations

An operation gives a value or data, or raises an exception. An operand of the wrong type is refused.
-/

namespace CoroutineEngine

variable {L : Language} {α : Type}

/-- What an operation gives. -/
inductive Given
  | value (v : Value)
  | data (d : Datum)

/-- The answer of an operation. -/
abbrev Answered := Except Exception Given

namespace Answered

/-- The handles that an answer owns. -/
def owned : Answered → List Value
  | .ok (.value v) => [v]
  | .ok (.data _) => []
  | .error e => [.exception e]

/-- The answer of a request. -/
def ofReply : Reply → Answered
  | .ok v => .ok (.value v)
  | .error e => .error e

/-- The empty value. -/
def nothing : Answered := .ok (.value .none)

/-- An object that may be absent. -/
def ofOption (make : α → Value) (a : Option α) : Answered := .ok (.value (.ofOption make a))

/-- Data. -/
def ofData (d : Datum) : Answered := .ok (.data d)

/-- The answer to a request that gives nothing: the empty value, or its exception. -/
def ofUnit : Except Exception Unit → Answered
  | .ok () => nothing
  | .error e => .error e

end Answered

/-- The message about an operand of the wrong type. -/
def badOperandMessage : String := "script: bad operand"

/-- Refuses operands, one of which has the wrong type, and releases them. -/
def badOperand (E : Engine L) (operands : List Value) : Effect L (Except Exception α) := do
  let e ← makeError .typeError badOperandMessage
  E.owning [.exception e] (E.releaseAll operands)
  return .error e

/-- The coroutine that a value drives: a coroutine itself, or the one behind a wrapper. -/
def World.driven? (w : World L) : Value → Option CoroutineId
  | .coroutine c => some c
  | .wrapper x => some (w.wrapper x).coroutine
  | _ => none

/-- The class behind a value. -/
def Value.asClass? : Value → Option ExceptionClass
  | exceptionClass c => some c
  | _ => Option.none

/-- The cell behind a value. -/
def Value.asCell? : Value → Option CellId
  | cell c => some c
  | _ => Option.none

/-- The frame behind a value. -/
def Value.asFrame? : Value → Option Frame
  | frame f => some f
  | _ => Option.none

/-- The code behind a value. -/
def Value.asCode? : Value → Option Code
  | code c => some c
  | _ => Option.none

/-- An exception, or nothing where the empty value is given. -/
def Value.asOptional? (as? : Value → Option α) (v : Value) : Option (Option α) :=
  if v.isNone then some Option.none else (as? v).map some

/-- An operation on an object: the operand is evaluated first and held until the operation is over. -/
def onOperand (E : Engine L) (scope : Scope) (operand : Expr) (as? : World L → Value → Option α)
    (f : α → Effect L Answered) : Effect L Answered := do
  let v ← evaluate E scope operand
  match ← .gets fun w => as? w v with
  | some a => E.holding v (f a)
  | none => badOperand E [v]

/-- The code of a source, made on the spot or evaluated. -/
def codeOf (E : Engine L) (scope : Scope) : CodeSource L.Script → Effect L (Except Exception Code)
  | .spec spec => do
    return .ok (← makeCode spec)
  | .value e => do
    let v ← evaluate E scope e
    match v with
    | .code c => return .ok c
    | other => badOperand E [other]

end CoroutineEngine
