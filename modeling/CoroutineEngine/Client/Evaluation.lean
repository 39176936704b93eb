import CoroutineEngine.Client.Expr
import CoroutineEngine.Engine
import CoroutineEngine.Report.Inspection
import CoroutineEngine.Text.Count
import CoroutineEngine.World.Ambience

/-!
# Evaluating expressions

The value of an expression, with a handle that belongs to the caller. What is absent evaluates to the
empty value.
-/

namespace CoroutineEngine

variable {L : Language}

/-- What a client sees of itself: the coroutine it is the body of, if it is one, and its locals. -/
structure Scope where
  context : Option Context
  locals : List (String × Value)

/-- The scope of a client that is no body. -/
def Scope.outer : Scope := ⟨none, []⟩

/-! ## Properties -/

/-- The value of an optional object. -/
def Value.ofOption {α : Type} (make : α → Value) : Option α → Value
  | some a => make a
  | Option.none => none

/-- The item of a list that a decimal text numbers. -/
def indexed (items : List Value) (index : String) : Value :=
  match Count.ofString? Count.limit64 index with
  | some i => items.getD i .none
  | none => .none

/-- A property of a value that needs no new object. -/
def World.property (w : World L) (v : Value) (name : String) : Value :=
  match v, name with
  | .exception e, "cause" => .ofOption .exception (w.exception e).cause
  | .exception e, "context" => .ofOption .exception (w.exception e).context
  | .exception e, "class" => .exceptionClass e.cls
  | .exception e, "stop_value" => (w.exception e).args.headD .none
  | .exception e, "tb" => .ofOption .traceback (w.exception e).traceback
  | .exception e, index => indexed (w.exception e).args index
  | .traceback t, "next" => .ofOption .traceback t.next?
  | .exceptionClass c, "base" => .ofOption .exceptionClass c.base
  | .frame f, "back" => .ofOption .frame (w.frame f).back
  | .frame f, "code" => .code f.code
  | .coroutine c, "code" => .code (w.coroutine c).code
  | .coroutine c, "frame" => .ofOption .frame (w.coroutine c).frame
  | .coroutine c, "await" => (w.coroutine c).awaiting.getD .none
  | .wrapper x, "coroutine" => .coroutine (w.wrapper x).coroutine
  | .cell c, "content" => (w.cell c).content.getD .none
  | .tuple _ items, index => indexed items index
  | _, _ => .none

/-- A property of a value, with a handle of its own. -/
def propertyOf (v : Value) (name : String) : Effect L Value := do
  match v, name with
  | .exception e, "message" => makeString (← rendered (·.message e))
  | _, _ =>
    let found ← .gets (·.property v name)
    retain found
    return found

/-! ## Inputs -/

/-- A parameter of the coroutine that a body belongs to, unless the coroutine was torn down. -/
def World.parameter? (w : World L) (k : Context) (index : Nat) : Option Value :=
  if w.isAlive k.coroutine then (w.coroutine k.coroutine).inputs.parameters[index]? else none

/-- A closure cell of the coroutine that a body belongs to, unless the coroutine was torn down. -/
def World.closureCell? (w : World L) (k : Context) (index : Nat) : Option CellId :=
  if w.isAlive k.coroutine then (w.coroutine k.coroutine).inputs.closure[index]? else none

/-! ## Expressions -/

/-- A value that is read from where it is kept: one more handle. -/
def readValue (read : World L → Option Value) : Effect L Value := do
  let v ← .gets fun w => (read w).getD .none
  retain v
  return v

/-- Wraps a value in tuples of one. -/
def nestValue : Nat → Value → Effect L Value
  | 0, v => pure v
  | n + 1, v => do
    nestValue n (← makeTuple [v])

/-- Whether one optional integer is below another; an absent one is the lowest. -/
def belowInt : Option Int64 → Option Int64 → Bool
  | none, none => false
  | none, some _ => true
  | some _, none => false
  | some a, some b => decide (a < b)

/-- Whether a value is an instance of a class given as a value. -/
def isInstanceOf : Value → Value → Bool
  | .exception e, .exceptionClass c => e.cls.isSubclassOf c
  | _, _ => false

/-- Decides something about two values and releases them. -/
def decideOn (E : Engine L) (a b : Value) (test : Value → Value → Bool) : Effect L Value := do
  E.releaseAll [a, b]
  return .bool (test a b)

mutual

/-- The value of an expression, as a client sees it. -/
def evaluate (E : Engine L) (scope : Scope) :
    Expr → Effect L Value
  | .none => pure .none
  | .bool b => pure (.bool b)
  | .int i => pure (.int i)
  | .str s => makeString s
  | .tuple items => do
    makeTuple (← evaluateAll E scope items)
  | .slot name => readValue (·.slots.lookup name)
  | .localVar name => readValue fun _ => scope.locals.lookup name
  | .float bits => pure (.float (Float.ofBits bits))
  | .builtinClass name => pure (.ofOption .exceptionClass (ExceptionClass.ofName? name))
  | .exception cls args => do
    let c ← evaluate E scope cls
    let args ← evaluateAll E scope args
    match c with
    | .exceptionClass c => return .exception (← makeException c args)
    | other =>
      E.releaseAll (other :: args)
      return .none
  | .stopIteration value => do
    return .exception (← makeStopIteration (← evaluate E scope value))
  | .generatorExit => do
    return .exception (← makeException .generatorExit [])
  | .traceback entries => do
    return .ofOption .traceback (← makeTraceback entries)
  | .emptyCell => do
    return .cell (← makeCell none)
  | .cell content => do
    return .cell (← makeCell (some (← evaluate E scope content)))
  | .nest depth value => do
    nestValue depth (← evaluate E scope value)
  | .repeated s times => makeString ("".intercalate (List.replicate times s))
  | .range size => makeTuple ((List.range size).map fun i => .int (Int64.ofNat i))
  | .add a b => do
    let x ← evaluate E scope a
    let y ← evaluate E scope b
    E.releaseAll [x, y]
    return .int (x.asInt?.getD 0 + y.asInt?.getD 0)
  | .display value => do
    let v ← evaluate E scope value
    let text ← makeString (← rendered (·.display v))
    E.release v
    return text
  | .joined a b => do
    let x ← evaluate E scope a
    let y ← evaluate E scope b
    let text ← makeString ((← rendered (·.display x)) ++ (← rendered (·.display y)))
    E.releaseAll [x, y]
    return text
  | .equal a b => do
    decideOn E (← evaluate E scope a) (← evaluate E scope b)
      Value.equals
  | .identical a b => do
    decideOn E (← evaluate E scope a) (← evaluate E scope b)
      Value.identical
  | .less a b => do
    decideOn E (← evaluate E scope a) (← evaluate E scope b)
      fun a b => belowInt a.asInt? b.asInt?
  | .not value => do
    let v ← evaluate E scope value
    E.release v
    return .bool !v.isTrue
  | .isInstance value cls => do
    decideOn E (← evaluate E scope value) (← evaluate E scope cls) isInstanceOf
  | .handled => do
    return .ofOption .exception (← handledException)
  | .topFrame => do
    return .ofOption .frame (← currentFrame)
  | .property value name => do
    let v ← evaluate E scope value
    let found ← propertyOf v name
    E.release v
    return found
  | .parameter index => readValue fun w => scope.context.bind (w.parameter? · index)
  | .closureCell index =>
    readValue fun w => scope.context.bind fun k => (w.closureCell? k index).map .cell
  | .self =>
    readValue fun w => scope.context.bind fun k =>
      if w.isAlive k.coroutine then some (.coroutine k.coroutine) else none
  | .ownFrame => pure (.ofOption (fun k : Context => .frame k.frame) scope.context)
  | .ownCode => pure (.ofOption (fun k : Context => .code k.code) scope.context)

/-- The values of some expressions, from left to right. -/
def evaluateAll (E : Engine L) (scope : Scope) :
    List Expr → Effect L (List Value)
  | [] => pure []
  | e :: rest => do
    let v ← evaluate E scope e
    let vs ← evaluateAll E scope rest
    return v :: vs

end

end CoroutineEngine
