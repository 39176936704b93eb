import CoroutineEngine.Exception.Class

/-!
# Values

What drivers and bodies exchange. A value is a scalar, an immutable tuple, or a handle to an object
that the world keeps: an exception instance, a cell, a frame, a coroutine or a wrapper. A handle
carries the part of its object that never changes (the class of an exception, the code of a frame);
what changes is looked up in the world.

Two comparisons exist. `equals` compares scalars, texts and tuples by content and objects by
identity; `identical` also tells apart two texts or tuples that were made separately.
-/

namespace CoroutineEngine

/-! ## Definitions -/

/-- A text with the identity of its making. -/
structure Text where
  identity : Nat
  content : String
  deriving DecidableEq, Inhabited, Repr

/-- A cell shared between owners. -/
structure CellId where
  index : Nat
  deriving DecidableEq, Inhabited, Repr

/-- A coroutine. -/
structure CoroutineId where
  index : Nat
  deriving DecidableEq, Inhabited, Repr

/-- An awaiter of a coroutine. -/
structure WrapperId where
  index : Nat
  deriving DecidableEq, Inhabited, Repr

/-- A code descriptor: names, first line, and whether an exhaustion signal that leaves the body is
turned into an error. `entry` is the number of the program that runs, and the identity. -/
structure Code where
  entry : Nat
  name : Text
  qualname : Text
  firstLine : UInt32
  generatorStop : Bool
  deriving DecidableEq, Inhabited, Repr

/-- An activation record. Its line and its caller are kept by the world. -/
structure Frame where
  index : Nat
  code : Code
  deriving DecidableEq, Inhabited, Repr

/-- An exception instance. Its arguments, causes and traceback are kept by the world. -/
structure Exception where
  index : Nat
  cls : ExceptionClass
  deriving DecidableEq, Inhabited, Repr

/-- One line of a traceback. -/
structure TracebackEntry where
  identity : Nat
  name : String
  line : UInt32
  deriving DecidableEq, Inhabited, Repr

/-- A traceback, outermost entry first; it is never empty. -/
structure Traceback where
  head : TracebackEntry
  tail : List TracebackEntry
  deriving DecidableEq, Inhabited, Repr

namespace Traceback

/-- The entries, outermost first. -/
def entries (t : Traceback) : List TracebackEntry := t.head :: t.tail

/-- What is left without the outermost entry. -/
def next? (t : Traceback) : Option Traceback :=
  match t.tail with
  | [] => none
  | head :: tail => some ⟨head, tail⟩

/-- A new outermost entry in front of what was there. -/
def push (entry : TracebackEntry) : Option Traceback → Traceback
  | none => ⟨entry, []⟩
  | some t => ⟨entry, t.entries⟩

/-- Tracebacks are one object iff their outermost entries are. -/
def isSame (a b : Traceback) : Bool := a.head.identity == b.head.identity

/-- The traceback of a list of entries; an empty list has none. -/
def ofList : List TracebackEntry → Option Traceback
  | [] => none
  | head :: tail => some ⟨head, tail⟩

end Traceback

/-- A value. -/
inductive Value
  | none
  | bool (b : Bool)
  | int (i : Int64)
  | float (x : Float)
  | str (text : Text)
  | tuple (identity : Nat) (items : List Value)
  | exceptionClass (cls : ExceptionClass)
  | exception (e : Exception)
  | traceback (t : Traceback)
  | cell (c : CellId)
  | code (c : Code)
  | frame (f : Frame)
  | coroutine (c : CoroutineId)
  | wrapper (w : WrapperId)
  deriving Inhabited

namespace Value

/-- The name of a value's type, as error messages show it. -/
def typeName : Value → String
  | none => "NoneType"
  | bool _ => "bool"
  | int _ => "int"
  | float _ => "float"
  | str _ => "str"
  | tuple _ _ => "tuple"
  | exceptionClass _ => "type"
  | exception _ => "exception"
  | traceback _ => "traceback"
  | cell _ => "cell"
  | code _ => "code"
  | frame _ => "frame"
  | coroutine _ => "compiled_coroutine"
  | wrapper _ => "compiled_coroutine_wrapper"

/-- The integer of a value: a truth value counts as 0 or 1. -/
def asInt? : Value → Option Int64
  | int i => some i
  | bool b => some (if b then 1 else 0)
  | _ => Option.none

/-- The text of a string value. -/
def asText? : Value → Option String
  | str t => some t.content
  | _ => Option.none

/-- The instance behind an exception value. -/
def asException? : Value → Option Exception
  | exception e => some e
  | _ => Option.none

/-- The coroutine behind a coroutine value. -/
def asCoroutine? : Value → Option CoroutineId
  | coroutine c => some c
  | _ => Option.none

/-- Whether it is the empty value. -/
def isNone : Value → Bool
  | none => true
  | _ => false

/-- Whether it is the truth value `true`. -/
def isTrue : Value → Bool
  | bool b => b
  | _ => false

mutual

/-- Equality: by content for scalars, texts and tuples, by identity for objects. -/
def equals : Value → Value → Bool
  | none, none => true
  | bool a, bool b => a == b
  | int a, int b => a == b
  | float a, float b => a == b
  | str a, str b => a.content == b.content
  | tuple _ a, tuple _ b => equalItems a b
  | exceptionClass a, exceptionClass b => a == b
  | exception a, exception b => a.index == b.index
  | traceback a, traceback b => a.isSame b
  | cell a, cell b => a == b
  | code a, code b => a.entry == b.entry
  | frame a, frame b => a.index == b.index
  | coroutine a, coroutine b => a == b
  | wrapper a, wrapper b => a == b
  | _, _ => false

/-- Equality of two lists of values, item by item. -/
def equalItems : List Value → List Value → Bool
  | [], [] => true
  | a :: as, b :: bs => equals a b && equalItems as bs
  | _, _ => false

end

/-- Identity: texts and tuples are identical iff they were made together, all else iff equal. -/
def identical : Value → Value → Bool
  | str a, str b => a.identity == b.identity
  | tuple a _, tuple b _ => a == b
  | a, b => equals a b

end Value

end CoroutineEngine
