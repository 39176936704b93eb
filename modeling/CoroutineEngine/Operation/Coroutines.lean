import CoroutineEngine.Coroutine.Attributes
import CoroutineEngine.Coroutine.Builder
import CoroutineEngine.Operation.Basic

/-!
# Operations on coroutines
-/

namespace CoroutineEngine

variable {L : Language}

/-! ## Building -/

/-- The cells among values, if all are cells. -/
def cellsOf? (vs : List Value) : Option (List CellId) := vs.mapM (·.asCell?)

/-- A text that may be given. -/
def makeText? : Option String → Effect L (Option Text)
  | none => pure none
  | some s => some <$> makeText s

/-- Builds the coroutine of a specification. -/
def buildCoroutine (E : Engine L) (scope : Scope) (spec : CoroutineSpec L.Script) :
    Effect L Answered := do
  match ← codeOf E scope spec.code with
  | .error e => return .error e
  | .ok code =>
    let parameters ← evaluateAll E scope spec.parameters
    let cells ← evaluateAll E scope spec.closure
    match cellsOf? cells with
    | none => badOperand E (parameters ++ cells)
    | some closure =>
      let c ← makeCoroutine
        { code, parameters, closure
          name := ← makeText? spec.name
          qualname := ← makeText? spec.qualname
          stackSize := spec.stackSize
          reportChildren := spec.reportChildren
          failures := spec.failures.getD 0
          lossIn := spec.lostAt.filter (0 < ·) }
      return .ok (.value (.coroutine c))

/-- Makes a wrapper of a coroutine. -/
def wrapCoroutine (E : Engine L) (scope : Scope) (on : Expr) : Effect L Answered :=
  onOperand E scope on (fun _ => Value.asCoroutine?) fun c => do
    retain (.coroutine c)
    return .ok (.value (.wrapper (← makeWrapper c)))

/-! ## Driving -/

/-- Sends a value. -/
def performSend (E : Engine L) (scope : Scope) (on value : Expr) : Effect L Answered :=
  onOperand E scope on World.driven? fun c => do
    return .ofReply (← send E c (← evaluate E scope value))

/-- Throws what a triple of operands describes. -/
def performThrow (E : Engine L) (scope : Scope) (on : Expr) (triple : TripleSpec) :
    Effect L Answered :=
  onOperand E scope on World.driven? fun c => do
    let kind ← evaluate E scope triple.kind
    let value ← evaluate E scope triple.value
    let traceback ← evaluate E scope triple.traceback
    return .ofReply (← throw E c kind value traceback)

/-- Throws an instance. -/
def performThrowException (E : Engine L) (scope : Scope) (on value : Expr) : Effect L Answered :=
  onOperand E scope on World.driven? fun c => do
    match ← evaluate E scope value with
    | .exception e => return .ofReply (← throwException E c e)
    | other => badOperand E [other]

/-- Closes. -/
def performClose (E : Engine L) (scope : Scope) (on : Expr) : Effect L Answered :=
  onOperand E scope on World.driven? fun c => do
    return .ofReply (← close E c)

/-- The coroutine behind a wrapper. -/
def World.wrapped? (w : World L) : Value → Option CoroutineId
  | .wrapper x => some (w.wrapper x).coroutine
  | _ => none

/-- One step of a wrapper. -/
def performStep (E : Engine L) (scope : Scope) (on : Expr) : Effect L Answered :=
  onOperand E scope on World.wrapped? fun c => do
    return .ofReply (← send E c .none)

/-- The next element of a wrapper's iteration: a yielded value or an exception; nothing when the
coroutine is exhausted. -/
def nextElement (E : Engine L) (c : CoroutineId) : Effect L (Option Reply) := do
  match ← send E c .none with
  | .ok v => return some (.ok v)
  | .error e =>
    if e.cls.isSubclassOf .stopIteration then
      E.releaseException e
      return none
    return some (.error e)

/-- Data about an element of an iteration, which is released. -/
def elementData (E : Engine L) : Option Reply → Effect L Datum
  | none => pure .null
  | some reply => do
    let p ← pictureOf reply.owned
    E.releaseReply reply
    match reply with
    | .ok _ => return .record [("ok", .picture p)]
    | .error _ => return .record [("raise", .picture p)]

/-- Some elements of a wrapper's iteration. -/
def elements (E : Engine L) (c : CoroutineId) : Nat → Effect L (List Datum)
  | 0 => pure []
  | n + 1 => do
    let d ← elementData E (← nextElement E c)
    let rest ← elements E c n
    return d :: rest

/-- Iterates over a wrapper. -/
def performIterate (E : Engine L) (scope : Scope) (on : Expr) (steps : Nat) : Effect L Answered :=
  onOperand E scope on World.wrapped? fun c => do
    return .ofData (.list (← elements E c steps))

/-! ## Attributes -/

/-- Reads an attribute. -/
def performGet (E : Engine L) (scope : Scope) (on : Expr) (name : String) : Effect L Answered :=
  onOperand E scope on (fun _ => Value.asCoroutine?) fun c => do
    return .ofReply (← getAttribute c name)

/-- Writes with a value. -/
def performWrite (E : Engine L) (scope : Scope) (on value : Expr)
    (write : CoroutineId → Value → Effect L (Except Exception Unit)) : Effect L Answered :=
  onOperand E scope on (fun _ => Value.asCoroutine?) fun c => do
    return .ofUnit (← write c (← evaluate E scope value))

/-! ## Weak references -/

/-- A weak reference in a sentence. -/
def weakText (alive : Bool) : String := recordText "WeakCoroutine" [("alive", toString alive)]

/-- Keeps a weak reference under a name. -/
def performDowngrade (E : Engine L) (scope : Scope) (on : Expr) (weak : String) :
    Effect L Answered :=
  onOperand E scope on (fun _ => Value.asCoroutine?) fun c => do
    .modify fun w => { w with weaks := (w.weaks.insert weak c).1 }
    return .ofData (.text (weakText (← .gets (·.isAlive c))))

/-- A handle of the coroutine behind a weak reference, if it is alive. -/
def performUpgrade (weak : String) : Effect L Answered := do
  match ← .gets (·.weaks.lookup weak) with
  | none => return .nothing
  | some c =>
    if ← .gets (·.isAlive c) then
      retain (.coroutine c)
      return .ok (.value (.coroutine c))
    return .nothing

/-- Whether the coroutine behind a weak reference is alive. -/
def performIsAlive (weak : String) : Effect L Answered := do
  match ← .gets (·.weaks.lookup weak) with
  | none => return .ofData .null
  | some c =>
    let alive ← .gets (·.isAlive c)
    return .ofData (.list [.bool alive, .text (weakText alive)])

/-- The number of handles of the coroutine or cell in a slot. -/
def handleCount (slot : String) : Effect L Answered := do
  return .ofData <| ← .gets fun w =>
    match w.slots.lookup slot with
    | some (.coroutine c) => .ofNat (w.coroutine c).handles
    | some (.cell c) => .ofNat (w.cell c).handles
    | _ => .null

end CoroutineEngine
