import CoroutineEngine.Operation.Basic

/-!
# Operations on counting fibers

A counting fiber has a guard on its stack, which notes when the entry point ends or the stack is
released.
-/

namespace CoroutineEngine

variable {L : Language}

/-! ## Fibers -/

/-- Stores a fiber under a name, or removes it. -/
def storeFiber (name : String) (f : Option CountingFiber) : Effect L Unit :=
  .modify fun w =>
    { w with fibers :=
        match f with
        | some f => (w.fibers.insert name f).1
        | none => (w.fibers.remove name).1 }

/-- Frees the stack of a fiber. The guard notes it unless the entry point has ended before. -/
def releaseStack (name : String) (f : CountingFiber) : Effect L CountingFiber := do
  match f.state with
  | .released => return f
  | state =>
    log .trace "fiber released"
      [("stack_size", .ofNat f.stackSize), ("suspended", .bool f.isSuspended)]
    if state ≠ .completed then
      emit (.unwound name)
    return { f with state := .released }

/-- Drops the fiber of a name, if there is one. -/
def dropFiber (name : String) : Effect L Unit := do
  if let some f ← .gets (·.fibers.lookup name) then
    storeFiber name none
    let _ ← releaseStack name f

/-- Makes a fiber, in place of one of the same name. Without a stack its entry point is given up at
once. -/
def performMakeFiber (name : String) (spec : FiberSpec) : Effect L Answered := do
  dropFiber name
  match ← Effect.onPanic (mapStack spec.stackSize) (emit (.unwound name)) with
  | some error =>
    emit (.unwound name)
    return .ofData (.record [("error", .text error.message)])
  | none =>
    storeFiber name (some ⟨spec.summands, spec.stackSize, spec.byFactory, .fresh⟩)
    return .ofData (.text "created")

/-- Switches into a fiber. -/
def performSwitch (name : String) (input : Int64) : Effect L Answered := do
  match ← .gets (·.fibers.lookup name) with
  | none => return .ofData .null
  | some f =>
    match f.switch input with
    | .error error => return .ofData (.record [("error", .text error.message)])
    | .ok (.suspended n, f) =>
      storeFiber name (some f)
      return .ofData (.record [("suspended", .int n.toInt)])
    | .ok (.completed s, f) =>
      emit (.unwound name)
      storeFiber name (some f)
      return .ofData (.record [("completed", .text s)])

/-- Frees the stack of a fiber. -/
def performReleaseFiber (name : String) : Effect L Answered := do
  if let some f ← .gets (·.fibers.lookup name) then
    storeFiber name (some (← releaseStack name f))
  return .ofData .null

/-- Data about a fiber. -/
def performInspectFiber (name : String) : Effect L Answered := do
  match ← .gets (·.fibers.lookup name) with
  | none => return .ofData .null
  | some f =>
    let own : Datum :=
      if f.byFactory then .null else .list [.ofNat f.stackSize, .text f.debug]
    return .ofData (.list [.bool f.isStarted, .bool f.isCompleted, own])

end CoroutineEngine
