import CoroutineEngine.Operation.Perform

/-!
# Running bodies

A body is run command by command. What it holds lives in its activation: while it runs, a panic releases
all of it, and when it is over the engine releases what is left, still on the body's side.
-/

namespace CoroutineEngine

variable {L : Language}

/-! ## Steps -/

/-- How a command leaves a body: with the answer to go on from, or out of the run. -/
inductive Progress (L : Language)
  | next (a : Activation L) (answer : Answer)
  | ended (exit : Exit L)

/-- Puts a value where a command wants it: under a name, after which the old value is released, or
nowhere. -/
def deliverTo (E : Engine L) (a : Activation L) (target : Option String) (v : Value) :
    Effect L (Activation L) := do
  match target with
  | none =>
    E.owning a.owned (E.release v)
    return a
  | some name =>
    let (locals, previous) := Activation.assign a.locals name v
    let a := { a with locals }
    E.owning a.owned (E.releaseOption previous)
    return a

/-- Goes on with a value. -/
def proceedWith (E : Engine L) (a : Activation L) (target : Option String) (v : Value) :
    Effect L (Progress L) := do
  return .next (← deliverTo E a target v) (.value v)

/-- Goes on with an exception, which the body holds. -/
def proceedRaising (a : Activation L) (e : Exception) : Effect L (Progress L) :=
  pure (.next { a with held := .exception e :: a.held } (.raised e))

/-- Goes on with a value or an exception. -/
def proceedReply (E : Engine L) (a : Activation L) (target : Option String) :
    Reply → Effect L (Progress L)
  | .ok v => proceedWith E a target v
  | .error e => proceedRaising a e

/-- Ends a body with a result; what it still owns is released. -/
def endBody (E : Engine L) (a : Activation L) (result : Reply) : Effect L (Progress L) := do
  E.owning [result.owned] (E.releaseAll a.owned)
  return .ended (.completed result)

/-! ## Delegation -/

/-- Ends a delegation: the coroutine awaits nothing any more, the delegate and the operand are released,
and the body goes on with the result. -/
def endDelegation (E : Engine L) (context : Option Context) (a : Activation L) (d : Delegation)
    (result : Reply) : Effect L (Progress L) := do
  let a := { a with waiting := .start }
  E.owning (result.owned :: d.delegate :: d.operand :: a.owned) do
    if let some k := context then
      if ← .gets (·.isAlive k.coroutine) then
        E.releaseOption (← updateCoroutine k.coroutine fun r =>
          (r.awaiting, { r with awaiting := none }))
  E.owning (result.owned :: d.operand :: a.owned) (E.release d.delegate)
  E.owning (result.owned :: a.owned) (E.release d.operand)
  proceedReply E a d.target result

/-- Goes on after a step of the delegate: what it yields goes to the driver, its exhaustion ends the
delegation with its result, and any other exception ends it by being raised. -/
def afterDelegate (E : Engine L) (context : Option Context) (a : Activation L) (d : Delegation) :
    Reply → Effect L (Progress L)
  | .ok v => pure (.ended (.suspended v { a with waiting := .delegate d }))
  | .error e => do
    if e.cls.isSubclassOf .stopIteration then
      let v ← stopValue e
      E.owning (v :: d.delegate :: d.operand :: a.owned) (E.releaseException e)
      endDelegation E context a d (.ok v)
    else
      endDelegation E context a d (.error e)

/-- Starts to delegate to an awaitable, which the body holds meanwhile. -/
def startDelegation (E : Engine L) (context : Option Context) (a : Activation L) (operand : Value)
    (target : Option String) : Effect L (Progress L) := do
  match ← .gets (·.driven? operand) with
  | none =>
    let e ← (CoroutineError.notAwaitable operand.typeName).raise
    E.owning (.exception e :: a.owned) (E.release operand)
    proceedRaising a e
  | some delegate =>
    retain operand
    let d : Delegation := ⟨operand, operand, target⟩
    let waiting := { a with waiting := .delegate d }
    let reply ← E.owning waiting.owned do
      if let some k := context then
        if ← .gets (·.isAlive k.coroutine) then
          retain operand
          E.releaseOption (← updateCoroutine k.coroutine fun r =>
            (r.awaiting, { r with awaiting := some operand }))
      send E delegate .none
    afterDelegate E context { a with waiting := .start } d reply

/-- Passes a transfer on to the delegate. The cancellation signal closes it and is then raised here. -/
def passOn (E : Engine L) (context : Option Context) (a : Activation L) (d : Delegation)
    (t : Transfer) : Effect L (Progress L) := do
  let waiting := { a with waiting := .delegate d }
  match ← .gets (·.driven? d.delegate) with
  | none =>
    E.releaseAll t.owned
    endDelegation E context a d (.ok .none)
  | some delegate =>
    match ← E.owning waiting.owned (t.deliver E) with
    | .ok v => afterDelegate E context a d (← E.owning waiting.owned (send E delegate v))
    | .error e =>
      if e.cls.isSubclassOf .generatorExit then
        match ← E.owning (.exception e :: waiting.owned) (close E delegate) with
        | .ok v =>
          E.owning (.exception e :: waiting.owned) (E.release v)
          endDelegation E context a d (.error e)
        | .error other =>
          E.owning (.exception other :: waiting.owned) (E.releaseException e)
          endDelegation E context a d (.error other)
      else
        afterDelegate E context a d (← E.owning waiting.owned (throwException E delegate e))

/-! ## Commands -/

/-- The exception behind a held value. -/
def heldException? (a : Activation L) : Option Exception := a.held.head?.bind (·.asException?)

/-- Takes the i-th held value from the top away. -/
def takeHeld (a : Activation L) (depth : Nat) : Activation L × Option Value :=
  ({ a with held := a.held.eraseIdx depth }, a.held[depth]?)

/-- Executes a command of a body. -/
def execute (E : Engine L) (context : Option Context) (a : Activation L) :
    Command L.Script → Effect L (Progress L)
  | .yield value target => do
    let v ← E.owning a.owned (evaluate E ⟨context, a.locals⟩ value)
    return .ended (.suspended v { a with waiting := .delivery target })
  | .await value target => do
    startDelegation E context a (← E.owning a.owned (evaluate E ⟨context, a.locals⟩ value)) target
  | .perform op target => do
    match ← E.owning a.owned (perform E ⟨context, a.locals⟩ op) with
    | .ok (.value v) => proceedWith E a target v
    | .ok (.data d) =>
      if context.isSome then
        emit (.info d)
      return .next a .done
    | .error e => proceedRaising a e
  | .test condition => do
    let v ← E.owning a.owned (evaluate E ⟨context, a.locals⟩ condition)
    E.owning a.owned (E.release v)
    return .next a (.truth v.isTrue)
  | .caught cls => do
    let c ← E.owning a.owned (evaluate E ⟨context, a.locals⟩ cls)
    E.owning a.owned (E.release c)
    return .next a (.truth (isInstanceOf (a.held.headD .none) c))
  | .hold value => do
    let v ← E.owning a.owned (evaluate E ⟨context, a.locals⟩ value)
    return .next { a with held := v :: a.held } .done
  | .discard depth => do
    let (a, v) := takeHeld a depth
    E.owning a.owned (E.releaseOption v)
    return .next a .done
  | .bind target => do
    let v := a.held.headD .none
    retain v
    return .next (← deliverTo E a (some target) v) .done
  | .enter => do
    match heldException? a with
    | none => return .next a .done
    | some e =>
      let (a, _) := takeHeld a 0
      let previous ← E.owning a.owned (swapHandled (some e))
      return .next { a with held := .ofOption .exception previous :: a.held } .done
  | .leave depth => do
    let (a, previous) := takeHeld a depth
    let current ← E.owning a.owned (swapHandled (previous.bind (·.asException?)))
    E.owning a.owned (E.releaseException? current)
    return .next a .done
  | .raise value arg => do
    let scope : Scope := ⟨context, a.locals⟩
    let raised ← E.owning a.owned do
      let kind ← evaluate E scope value
      let arg ← evaluate E scope arg
      E.holding kind do
        match ← normalizeThrow E kind arg .none with
        | .error e => return e
        | .ok p => p.instantiate
    proceedRaising a raised
  | .pass => return .next a .done
  | .finish => do
    let (a, v) := takeHeld a 0
    endBody E a (.ok (v.getD .none))
  | .fail => do
    match heldException? a with
    | none => endBody E a (.ok .none)
    | some e => endBody E (takeHeld a 0).1 (.error e)
  | .panic message => E.owning a.owned (.panic message)

/-! ## Runs -/

/-- Runs a body from an answer until it suspends or is over, for at most `fuel` commands. -/
def proceed (E : Engine L) (context : Option Context) :
    Nat → Activation L → Answer → Effect L (Exit L)
  | 0, _, _ => .stop
  | fuel + 1, a, answer => do
    .tick
    let (command, state) := L.next a.state answer
    match ← execute E context { a with state } command with
    | .ended exit => return exit
    | .next a answer => proceed E context fuel a answer

/-- Goes on from some progress. -/
def proceedFrom (E : Engine L) (context : Option Context) (fuel : Nat) :
    Progress L → Effect L (Exit L)
  | .ended exit => pure exit
  | .next a answer => proceed E context fuel a answer

/-- Lets a body go on from what is delivered to it. -/
def runBody (E : Engine L) (context : Option Context) (fuel : Nat) (a : Activation L)
    (t : Transfer) : Effect L (Exit L) := do
  match a.waiting with
  | .start =>
    E.owning a.owned (E.releaseAll t.owned)
    proceed E context fuel a .start
  | .delivery target =>
    let reply ← E.owning a.owned (t.deliver E)
    proceedFrom E context fuel (← proceedReply E { a with waiting := .start } target reply)
  | .delegate d =>
    proceedFrom E context fuel (← passOn E context { a with waiting := .start } d t)

/-! ## The engine -/

/-- The engine up to a depth of nesting. -/
def Engine.ofDepth (L : Language) : Nat → Engine L
  | 0 => .halted
  | n + 1 =>
    { release := fun v => releaseHandle (Engine.ofDepth L n) v
      run := fun context a t => runBody (Engine.ofDepth L n) context n a t }

end CoroutineEngine
