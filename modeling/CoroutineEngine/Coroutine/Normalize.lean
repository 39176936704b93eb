import CoroutineEngine.Engine

/-!
# The arguments of a throw

A class, an argument and a traceback become one consistent triple, as a raise statement makes it.
-/

namespace CoroutineEngine

variable {L : Language} {α : Type}

/-- Refuses a request: the error is made, then the operands are released. -/
def refuse (E : Engine L) (error : CoroutineError) (operands : List Value) :
    Effect L (Except Exception α) := do
  let e ← error.raise
  E.owning [.exception e] (E.releaseAll operands)
  return .error e

/-- The traceback argument of a throw; anything but a traceback or nothing is an error. -/
def tracebackOperand? : Value → Option (Option Traceback)
  | .none => some none
  | .traceback t => some (some t)
  | _ => none

/-- The instance that a class and an argument give: the argument itself if it is an instance of the
class, and otherwise a new instance, whose arguments are none, the items of a tuple, or the one value.
Takes the argument over. -/
def instanceOf (E : Engine L) (cls : ExceptionClass) (value : Value) : Effect L Exception :=
  match value with
  | .none => makeException cls []
  | .tuple _ items => do
    retainAll items
    let e ← makeException cls items
    E.owning [.exception e] (E.release value)
    return e
  | .exception e => if e.cls.isSubclassOf cls then pure e else makeException cls [value]
  | other => makeException cls [other]

/-- The triple that `throw(kind, value, traceback)` raises. Takes `value` over. The traceback is checked
first; one that is given becomes the instance's. -/
def normalizeThrow (E : Engine L) (kind value traceback : Value) :
    Effect L (Except Exception PendingException) := do
  match tracebackOperand? traceback with
  | none => refuse E .badTraceback [value]
  | some traceback =>
    let withTraceback (e : Exception) : Effect L (Except Exception PendingException) := do
      if traceback.isSome then
        setTraceback e traceback
      return .ok (← pendingOf e)
    match kind with
    | .exceptionClass cls => withTraceback (← instanceOf E cls value)
    | .exception e =>
      if value.isNone then
        retain kind
        withTraceback e
      else refuse E .instanceWithValue [value]
    | other => refuse E (.notAnException other.typeName) [value]

end CoroutineEngine
