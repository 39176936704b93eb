import CoroutineEngine.Effect

/-!
# Making and changing objects

Fresh texts, tuples, exceptions, cells, frames, codes and classes, each with one handle that belongs to
the caller, and the changes an exception instance allows.
-/

namespace CoroutineEngine

variable {L : Language}

/-! ## Handles -/

/-- One more handle of the object behind a value. -/
def retain (v : Value) : Effect L Unit := .modify (·.retain v)

/-- One more handle of each object. -/
def retainAll : List Value → Effect L Unit
  | [] => pure ()
  | v :: vs => do
    retain v
    retainAll vs

/-- The record of a coroutine. -/
def recordOf (c : CoroutineId) : Effect L (CoroutineRecord L) := .gets (·.coroutine c)

/-- Changes the record of a coroutine. -/
def modifyCoroutine (c : CoroutineId) (f : CoroutineRecord L → CoroutineRecord L) : Effect L Unit :=
  .modify (·.modifyCoroutine c f)

/-! ## Fresh objects -/

/-- A fresh identity. -/
def freshIdentity : Effect L Nat :=
  .modifyGet fun w => (w.serial, { w with serial := w.serial + 1 })

/-- A text made just now. -/
def makeText (s : String) : Effect L Text := do
  return ⟨← freshIdentity, s⟩

/-- A string value made just now. -/
def makeString (s : String) : Effect L Value := do
  return .str (← makeText s)

/-- A tuple that takes its items over. -/
def makeTuple (items : List Value) : Effect L Value :=
  .modifyGet fun w => (.tuple w.tuples.size items, { w with tuples := w.tuples.push 1 })

/-- An instance of a class that takes its arguments over. -/
def makeException (cls : ExceptionClass) (args : List Value) : Effect L Exception :=
  .modifyGet fun w =>
    (⟨w.exceptions.size, cls⟩,
      { w with exceptions := w.exceptions.push ⟨1, args, none, none, false, none⟩ })

/-- An instance of a class with a message. -/
def makeError (cls : ExceptionClass) (message : String) : Effect L Exception := do
  makeException cls [← makeString message]

/-- The exhaustion signal with a result; the empty result is left out. -/
def makeStopIteration (result : Value) : Effect L Exception :=
  makeException .stopIteration (if result.isNone then [] else [result])

/-- A cell that takes its content over. -/
def makeCell (content : Option Value) : Effect L CellId :=
  .modifyGet fun w => (⟨w.cells.size⟩, { w with cells := w.cells.push ⟨1, content⟩ })

/-- A frame at the first line of its code, with no caller. -/
def makeFrame (code : Code) : Effect L Frame :=
  .modifyGet fun w =>
    (⟨w.frames.size, code⟩, { w with frames := w.frames.push ⟨code.firstLine, none⟩ })

/-- A code object; the qualified name defaults to the name, the first line to 1. -/
def makeCode (spec : CodeSpec L.Script) : Effect L Code := do
  let name ← makeText spec.name
  let qualname ← makeText (spec.qualname.getD spec.name)
  .modifyGet fun w =>
    ({ entry := w.programs.size, name, qualname, firstLine := spec.firstLine.getD 1,
       generatorStop := spec.generatorStop.getD true },
      { w with programs := w.programs.push spec.body })

/-- A class that derives from a base. -/
def makeClass (name : String) (base : ExceptionClass) : Effect L ExceptionClass := do
  return .derived name (← freshIdentity) base

/-- A traceback of given lines, outermost first. -/
def makeTraceback : List (String × UInt32) → Effect L (Option Traceback)
  | [] => pure none
  | (name, line) :: rest => do
    let next ← makeTraceback rest
    return some (Traceback.push ⟨← freshIdentity, name, line⟩ next)

/-! ## Exceptions -/

/-- Attaches a cause and hides the context. An instance takes one cause only; the handle of a second one
is given back. -/
def attachCause (e cause : Exception) : Effect L (Option Exception) :=
  .modifyGet fun w =>
    match (w.exception e).cause with
    | none => (none, w.modifyException e fun r => { r with cause := some cause, suppressContext := true })
    | some _ => (some cause, w.modifyException e fun r => { r with suppressContext := true })

/-- Attaches a context. An instance takes one context only; the handle of a second one is given back. -/
def attachContext (e context : Exception) : Effect L (Option Exception) :=
  .modifyGet fun w =>
    match (w.exception e).context with
    | none => (none, w.modifyException e fun r => { r with context := some context })
    | some _ => (some context, w)

/-- Replaces the traceback of an instance. -/
def setTraceback (e : Exception) (traceback : Option Traceback) : Effect L Unit :=
  .modify (·.modifyException e fun r => { r with traceback })

/-- Notes that an exception leaves a frame. -/
def pushTraceback (e : Exception) (frame : Frame) : Effect L Unit := do
  let identity ← freshIdentity
  .modify fun w =>
    let entry := ⟨identity, frame.code.qualname.content, (w.frame frame).line⟩
    w.modifyException e fun r => { r with traceback := some (.push entry r.traceback) }

/-- The value of an exhaustion signal: its first argument. -/
def stopValue (e : Exception) : Effect L Value := do
  let v ← Effect.gets fun w => (w.exception e).args.headD .none
  retain v
  return v

/-- The triple of an instance: its class, itself and its traceback. -/
def pendingOf (e : Exception) : Effect L PendingException :=
  .gets fun w => ⟨e.cls, some e, (w.exception e).traceback⟩

/-- The instance that a triple raises: the one it has, or a new one without arguments. A traceback of
the triple becomes the instance's. -/
def PendingException.instantiate (p : PendingException) : Effect L Exception := do
  let e ← match p.value with
    | some e => pure e
    | none => makeException p.kind []
  if p.traceback.isSome then
    setTraceback e p.traceback
  return e

/-! ## Events -/

/-- Notes an event. -/
def emit (event : Event) : Effect L Unit := .modify fun w => { w with events := w.events.push event }

/-- How grave a level is. -/
def LogLevel.gravity : LogLevel → Nat
  | trace => 0
  | debug => 1
  | info => 2
  | warn => 3
  | error => 4

/-- Notes a log line, if lines of its level are wanted. -/
def log (level : LogLevel) (message : String) (fields : List (String × Datum)) : Effect L Unit :=
  .modify fun w =>
    match w.logLevel with
    | some wanted =>
      if wanted.gravity ≤ level.gravity then
        { w with events := w.events.push (.log level message fields) }
      else w
    | none => w

/-- Notes a log line about a coroutine. -/
def logCoroutine (level : LogLevel) (message : String) (c : CoroutineId)
    (fields : List (String × Datum)) : Effect L Unit := do
  let qualname ← Effect.gets fun w => (w.coroutine c).qualname.content
  log level message (("qualname", .text qualname) :: fields)

/-! ## Registry -/

/-- Enrolls an object with the registry. -/
def trackObject (id : TrackedId) (kind : String) : Effect L Unit := do
  .modify fun w => { w with registry := w.registry.track id }
  log .trace "gc track" [("kind", .text kind)]

/-- Withdraws an object from the registry, and says whether it was enrolled. -/
def untrackObject (id : TrackedId) : Effect L Bool := do
  let removed ← Effect.modifyGet fun w =>
    (w.registry.isTracked id, { w with registry := w.registry.untrack id })
  log .trace "gc untrack" [("removed", .bool removed)]
  return removed

end CoroutineEngine
