import CoroutineEngine.World.Objects

/-!
# Errors of the engine

What the engine itself raises, with the class and the message that a driver sees.
-/

namespace CoroutineEngine

/-! ## Definitions -/

/-- What kind of mistake an error reports. -/
inductive ErrorCategory
  | protocolViolation
  | argumentError
  | allocationFailure
  | leakedExhaustionSignal
  deriving DecidableEq, Repr

/-- The name of a category. -/
def ErrorCategory.display : ErrorCategory → String
  | protocolViolation => "ProtocolViolation"
  | argumentError => "ArgumentError"
  | allocationFailure => "AllocationFailure"
  | leakedExhaustionSignal => "LeakedExhaustionSignal"

/-- An error of the engine. -/
inductive CoroutineError
  | alreadyExecuting
  | sendToUnstarted
  | ignoredGeneratorExit
  | contextLost
  | instanceWithValue
  | notAnException (typeName : String)
  | notAwaitable (typeName : String)
  | badTraceback
  | notAString (name : String)
  | allocation (cause : FiberError)
  | leakedStopIteration
  deriving DecidableEq, Repr

namespace CoroutineError

/-- The category of an error. -/
def category : CoroutineError → ErrorCategory
  | alreadyExecuting | sendToUnstarted | ignoredGeneratorExit | contextLost => .protocolViolation
  | instanceWithValue | notAnException _ | notAwaitable _ | badTraceback | notAString _ =>
    .argumentError
  | allocation _ => .allocationFailure
  | leakedStopIteration => .leakedExhaustionSignal

/-- The class of the exception that the error is raised as. -/
def exceptionClass : CoroutineError → ExceptionClass
  | alreadyExecuting => .valueError
  | sendToUnstarted | instanceWithValue | notAnException _ | notAwaitable _ | badTraceback
  | notAString _ => .typeError
  | allocation _ => .memoryError
  | ignoredGeneratorExit | contextLost | leakedStopIteration => .runtimeError

/-- The message of the error. -/
def message : CoroutineError → String
  | alreadyExecuting => "coroutine already executing"
  | sendToUnstarted => "can't send non-None value to a just-started coroutine"
  | ignoredGeneratorExit => "coroutine ignored GeneratorExit"
  | contextLost => "coroutine execution context was lost"
  | instanceWithValue => "instance exception may not have a separate value"
  | notAnException typeName =>
    "exceptions must be classes or instances deriving from BaseException, not " ++ typeName
  | notAwaitable typeName => "object " ++ typeName ++ " can't be used in 'await' expression"
  | badTraceback => "throw() third argument must be a traceback object"
  | notAString name => name ++ " must be set to a string object"
  | allocation _ => "coroutine cannot be allocated"
  | leakedStopIteration => "coroutine raised StopIteration"

/-- The cause underneath, if there is one. -/
def source? : CoroutineError → Option FiberError
  | allocation cause => some cause
  | _ => none

/-- The error as an exception. -/
def raise {L : Language} (error : CoroutineError) : Effect L Exception :=
  makeError error.exceptionClass error.message

/-- One error of each kind, in the order of their listing. -/
def samples : List CoroutineError :=
  [alreadyExecuting, sendToUnstarted, ignoredGeneratorExit, contextLost, instanceWithValue,
    notAnException "int", notAwaitable "str", badTraceback, notAString "__name__",
    allocation .released, allocation .completed, leakedStopIteration]

/-- The sentence of the exception that an error is raised as. -/
def sentence (error : CoroutineError) : String :=
  error.exceptionClass.name ++ ": " ++ error.message

end CoroutineError

/-- The result of a request: a value, or the exception that it raises. -/
abbrev Reply := Except Exception Value

/-- The handle that a reply owns. -/
def Reply.owned : Reply → Value
  | .ok v => v
  | .error e => .exception e

end CoroutineEngine
