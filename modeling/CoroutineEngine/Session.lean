import CoroutineEngine.Coroutine.Body
import CoroutineEngine.Script.Machine

/-!
# Sessions

A session puts one operation after another to a fresh engine. Each step reports its result, the events it
caused, and a glance at the state after it; in the end everything that is left is released.
-/

namespace CoroutineEngine.Session

open CoroutineEngine.Script (language)

/-! ## Definitions -/

/-- A step: an operation, the slot that takes its value, and the slot that takes its exception. -/
structure Step where
  op : Operation Script.Block
  target : Option String
  errorTarget : Option String

/-- What a step gave. -/
inductive Result
  | value (p : Picture)
  | data (d : Datum)
  | raised (p : Picture)
  | panicked (message : String)

/-- The state after a step: the depth of the frame stack, the error, the handled exception, and the
number of tracked objects. -/
structure Glance where
  depth : Nat
  error : Option String
  handled : Option String
  tracked : Nat

/-- The report of a step, or of the end, which has no result. -/
structure Report (α : Type) where
  result : α
  events : List Event
  glance : Glance

/-- The reports of a session. -/
structure Transcript where
  steps : List (Report Result)
  ending : Report Unit

/-- A session: its steps, the mode of the hook it starts with, and the log lines it wants. -/
structure Plan where
  steps : List Step
  hookMode : String
  logLevel : Option LogLevel

variable {L : Language}

/-! ## Reports -/

/-- The text of a pending error: its instance, or its class if there is no instance yet. -/
def errorText (w : World L) (p : PendingException) : Option String :=
  match p.value with
  | some e => w.exceptionText e
  | none => some ("<" ++ p.kind.name ++ ">")

/-- A glance at the state; nothing if one of its texts has no end. -/
def glance? (w : World L) : Option Glance := do
  let depth ← w.frameDepth w.ambient.top
  let error ← match w.ambient.error with
    | some p => some <$> errorText w p
    | none => some none
  let handled ← match w.ambient.handled with
    | some e => some <$> w.exceptionText e
    | none => some none
  return ⟨depth, error, handled, w.registry.count⟩

/-- Reports a computation: its result, its events, and the state after it. -/
def reporting {α : Type} (x : Effect L α) : Effect L (Report α) := do
  let before ← .gets (·.events.size)
  let result ← x
  let events ← .gets fun w => (w.events.extract before w.events.size).toList
  match ← .gets glance? with
  | some glance => return { result, events, glance }
  | none => .stop

/-! ## Steps -/

/-- Stores a value in a slot, or releases it. -/
def keep (E : Engine L) (slot : Option String) (v : Value) : Effect L Unit :=
  match slot with
  | some slot => storeSlot E slot v
  | none => E.release v

/-- Performs a step. What it gives is looked at before it is stored or released. -/
def runStep (E : Engine language) (step : Step) : Effect language Result := do
  let attempt : Effect language Result := do
    match ← perform E .outer step.op with
    | .ok (.value v) =>
      let p ← pictureOf v
      keep E step.target v
      return .value p
    | .ok (.data d) => return .data d
    | .error e =>
      let p ← pictureOf (.exception e)
      keep E step.errorTarget (.exception e)
      return .raised p
  .tick
  match ← attempt.catching with
  | .ok result => return result
  | .error message => return .panicked message

/-- Performs steps one after another. -/
def runSteps (E : Engine language) : List Step → Effect language (List (Report Result))
  | [] => pure []
  | step :: rest => do
    let report ← reporting (runStep E step)
    let reports ← runSteps E rest
    return report :: reports

/-! ## The end -/

/-- Releases the slots in the order of their names, also those that releases create. -/
def releaseSlots (E : Engine L) : Nat → Effect L Unit
  | 0 => .stop
  | fuel + 1 => do
    match ← .gets (·.slots) with
    | [] => return
    | (_, v) :: rest =>
      .modify fun w => { w with slots := rest }
      let _ ← (E.release v).catching
      releaseSlots E fuel

/-- Drops the fibers in the order of their names. -/
def dropFibers : List String → Effect L Unit
  | [] => pure ()
  | name :: rest => do
    dropFiber name
    dropFibers rest

/-- Releases everything that a session left. -/
def finish (E : Engine L) (fuel : Nat) : Effect L Unit := do
  releaseSlots E fuel
  dropFibers (← .gets fun w => w.fibers.map (·.1))
  let clear : Effect L Unit := do
    E.releasePending? (← swapError none)
    E.releaseException? (← swapHandled none)
    let _ ← swapTop none
  let _ ← clear.catching

/-- Runs a session. -/
def run (E : Engine language) (fuel : Nat) (plan : Plan) : Effect language Transcript := do
  .modify fun w => { w with logLevel := plan.logLevel }
  let _ ← swapHook (hookOf? language plan.hookMode)
  let steps ← runSteps E plan.steps
  let ending ← reporting (finish E fuel)
  return { steps, ending }

/-- More steps and deeper nesting than any session needs. -/
def ample : Nat := 1000000000000

/-- The transcript of a session on a fresh engine; nothing if the session never ends. -/
def transcript? (plan : Plan) : Option Transcript :=
  match run (Engine.ofDepth language ample) ample plan (World.fresh ample) with
  | (.ok t, _) => some t
  | _ => none

end CoroutineEngine.Session
