import CoroutineEngine.Value

/-!
# Exceptions on their way

A pending exception is the triple of class, instance and traceback that waits to be raised; its
instance may still be missing, and is then made on delivery. A transfer is what a driver hands to a
body on each switch.
-/

namespace CoroutineEngine

/-- An exception waiting to be raised. -/
structure PendingException where
  kind : ExceptionClass
  value : Option Exception
  traceback : Option Traceback
  deriving Inhabited, Repr

namespace PendingException

/-- A triple with a class alone. -/
def ofClass (kind : ExceptionClass) : PendingException := ⟨kind, none, none⟩

/-- The handles that a triple owns. -/
def owned (p : PendingException) : List Value := p.value.toList.map .exception

/-- Whether the waiting exception belongs to a class. -/
def isA (p : PendingException) (cls : ExceptionClass) : Bool := p.kind.isSubclassOf cls

end PendingException

/-- What a driver hands to a body: a value, or an exception to raise where the body waits. -/
structure Transfer where
  value : Value
  exception : Option PendingException
  deriving Inhabited

namespace Transfer

/-- A plain value. -/
def ofValue (v : Value) : Transfer := ⟨v, none⟩

/-- An exception, with the empty value beside it. -/
def ofPending (p : PendingException) : Transfer := ⟨.none, some p⟩

/-- The handles that a transfer owns. -/
def owned (t : Transfer) : List Value := t.value :: (t.exception.map (·.owned)).getD []

end Transfer

end CoroutineEngine
