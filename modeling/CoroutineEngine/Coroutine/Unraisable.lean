import CoroutineEngine.Engine
import CoroutineEngine.Report.Inspection
import CoroutineEngine.World.Ambience

/-!
# Errors that nobody can receive

An error that a finalizer leaves behind has no caller. It goes to the hook, if one is installed, and to
the log otherwise. The hook is taken out of its place while it handles a report, and put back unless
another one was installed meanwhile.
-/

namespace CoroutineEngine

variable {L : Language}

/-- The local under which the program of a hook finds the exception. -/
def reportedException : String := "exception"

/-- Lets a hook handle a report: it notes the report and runs its program. -/
def runHook (E : Engine L) (hook : Hook L) (object : String) (e : Exception) : Effect L Unit := do
  let errorSet ← errorOccurred
  let display ← rendered (·.exceptionText e)
  let debug ← rendered (·.reportDebug object e)
  emit (.unraisable object display errorSet debug hook.mode)
  retain (.exception e)
  let a : Activation L :=
    { Activation.new (L.start hook.program) with locals := [(reportedException, .exception e)] }
  match ← E.run none a (.ofValue .none) with
  | .completed result => E.releaseReply result
  | .suspended v a => E.releaseAll (v :: a.owned)

/-- Whether log lines of a level are wanted. -/
def World.logs (w : World L) (level : LogLevel) : Bool :=
  match w.logLevel with
  | some wanted => decide (wanted.gravity ≤ level.gravity)
  | none => false

/-- Notes in the log that an exception was ignored. -/
def logIgnored (object : String) (e : Exception) : Effect L Unit := do
  if ← .gets (·.logs .warn) then
    let text ← rendered (·.exceptionText e)
    log .warn ("Exception ignored in finalizer: " ++ text) [("object", .text object)]

/-- Reports an error that has no caller, and releases it. A hook that is not put back is released while
the state is borrowed. -/
def writeUnraisable (E : Engine L) (object : String) (e : Exception) : Effect L Unit :=
  E.holding (.exception e) do
    match ← takeHook with
    | none => logIgnored object e
    | some hook =>
      E.owning hook.owned (runHook E hook object e)
      match ← reinstallHook hook with
      | none => pure ()
      | some displaced => whileBorrowed (E.releaseAll displaced.owned)

end CoroutineEngine
