import CoroutineEngine.Operation.Basic

/-!
# Operations on values, slots and objects
-/

namespace CoroutineEngine

variable {L : Language}

/-! ## Slots -/

/-- Stores a value in a slot, then releases what was there. -/
def storeSlot (E : Engine L) (slot : String) (v : Value) : Effect L Unit := do
  let previous ← .modifyGet fun w =>
    let (slots, previous) := w.slots.insert slot v
    (previous, { w with slots })
  E.releaseOption previous

/-- Stores the value of an expression in a slot. -/
def performSetSlot (E : Engine L) (scope : Scope) (slot : String) (value : Expr) :
    Effect L Answered := do
  storeSlot E slot (← evaluate E scope value)
  return .nothing

/-- Removes a slot, then releases what was there. -/
def performDropSlot (E : Engine L) (slot : String) : Effect L Answered := do
  let found ← .modifyGet fun w =>
    let (slots, found) := w.slots.remove slot
    (found, { w with slots })
  E.releaseOption found
  return .ok (.value (.bool found.isSome))

/-! ## Values -/

/-- Says a value. -/
def performSay (E : Engine L) (scope : Scope) (value : Expr) : Effect L Answered := do
  let v ← evaluate E scope value
  emit (.said (← pictureOf v))
  E.release v
  return .nothing

/-- Data that is read off a value, which is then released. -/
def performRead (E : Engine L) (scope : Scope) (value : Expr) (read : World L → Value → Option Datum) :
    Effect L Answered := do
  let v ← evaluate E scope value
  let data ← inspected fun w => read w v
  E.release v
  return .ofData data

/-- Compares two values. -/
def performCompare (E : Engine L) (scope : Scope) (a b : Expr) : Effect L Answered := do
  let x ← evaluate E scope a
  let y ← evaluate E scope b
  E.releaseAll [x, y]
  return .ofData (.list [.bool (x.equals y), .bool (x.identical y)])

/-! ## Classes -/

/-- Defines a class. -/
def performDefineClass (E : Engine L) (scope : Scope) (name : String) (base : Expr) :
    Effect L Answered := do
  match ← evaluate E scope base with
  | .exceptionClass base => return .ok (.value (.exceptionClass (← makeClass name base)))
  | other => badOperand E [other]

/-- Compares two classes. -/
def performCompareClasses (E : Engine L) (scope : Scope) (a b : Expr) : Effect L Answered := do
  let x ← evaluate E scope a
  let y ← evaluate E scope b
  match x, y with
  | .exceptionClass x, .exceptionClass y =>
    return .ofData (.list [.bool (x.isSubclassOf y), .bool (x == y)])
  | x, y => badOperand E [x, y]

/-! ## Exceptions -/

/-- Attaches an exception to another one; says whether it was taken. -/
def performAttach (E : Engine L) (scope : Scope) (on value : Expr)
    (attach : Exception → Exception → Effect L (Option Exception)) : Effect L Answered :=
  onOperand E scope on (fun _ => Value.asException?) fun e => do
    match ← evaluate E scope value with
    | .exception other =>
      let rejected ← attach e other
      E.releaseException? rejected
      return .ofData (.bool rejected.isNone)
    | other => badOperand E [other]

/-- The traceback behind a value. -/
def Value.asTraceback? : Value → Option Traceback
  | traceback t => some t
  | _ => Option.none

/-- Replaces the traceback of an exception, or clears it. -/
def performSetTraceback (E : Engine L) (scope : Scope) (on value : Expr) : Effect L Answered :=
  onOperand E scope on (fun _ => Value.asException?) fun e => do
    let v ← evaluate E scope value
    match v.asOptional? Value.asTraceback? with
    | some traceback =>
      setTraceback e traceback
      return .nothing
    | none => badOperand E [v]

/-- Notes that an exception leaves a frame. -/
def performPushTraceback (E : Engine L) (scope : Scope) (on value : Expr) : Effect L Answered :=
  onOperand E scope on (fun _ => Value.asException?) fun e => do
    match ← evaluate E scope value with
    | .frame f =>
      pushTraceback e f
      return .nothing
    | other => badOperand E [other]

/-! ## Cells -/

/-- Changes the content of a cell; gives back the old one. -/
def swapCell (c : CellId) (content : Option Value) : Effect L (Option Value) :=
  .modifyGet fun w => ((w.cell c).content, w.modifyCell c fun r => { r with content })

/-- Stores a value in a cell. -/
def performSetCell (E : Engine L) (scope : Scope) (on value : Expr) : Effect L Answered :=
  onOperand E scope on (fun _ => Value.asCell?) fun c => do
    let v ← evaluate E scope value
    return .ok (.value ((← swapCell c (some v)).getD .none))

/-- Unbinds a cell. -/
def performClearCell (E : Engine L) (scope : Scope) (on : Expr) : Effect L Answered :=
  onOperand E scope on (fun _ => Value.asCell?) fun c => do
    return .ok (.value ((← swapCell c none).getD .none))

/-- Whether two values are one cell. -/
def performSameCell (E : Engine L) (scope : Scope) (on value : Expr) : Effect L Answered :=
  onOperand E scope on (fun _ => Value.asCell?) fun c => do
    match ← evaluate E scope value with
    | .cell other =>
      E.release (.cell other)
      return .ofData (.bool (c == other))
    | other => badOperand E [other]

/-! ## Frames -/

/-- Makes a frame of a code. -/
def performMakeFrame (E : Engine L) (scope : Scope) (code : CodeSource L.Script) :
    Effect L Answered := do
  match ← codeOf E scope code with
  | .error e => return .error e
  | .ok code => return .ok (.value (.frame (← makeFrame code)))

/-- Moves a frame to a line. -/
def moveFrame (f : Frame) (line : UInt32) : Effect L Unit :=
  .modify (·.modifyFrame f fun r => { r with line })

/-- Moves a frame to the line that a value gives. -/
def performSetFrameLine (E : Engine L) (scope : Scope) (on value : Expr) : Effect L Answered :=
  onOperand E scope on (fun _ => Value.asFrame?) fun f => do
    let v ← evaluate E scope value
    match v.asInt? with
    | some n =>
      moveFrame f (UInt32.ofInt n.toInt)
      return .nothing
    | none => badOperand E [v]

/-- Links a frame to another one, or unlinks it; gives back the old link. -/
def performSetFrameBack (E : Engine L) (scope : Scope) (on value : Expr) : Effect L Answered :=
  onOperand E scope on (fun _ => Value.asFrame?) fun f => do
    let v ← evaluate E scope value
    match v.asOptional? Value.asFrame? with
    | some back => return .ofOption .frame (← swapBack f back)
    | none => badOperand E [v]

/-! ## Inputs -/

/-- The picture of a value that may be absent. -/
def optionPicture (v : Option Value) : Effect L Datum := do
  return .picture (← pictureOf (v.getD .none))

/-- What inputs hold: one parameter, one cell, the counts, and whether the parameters were released. -/
def inputsRow (inputs : Inputs) (index : Nat) : Effect L Datum := do
  let parameter ← optionPicture inputs.parameters[index]?
  let cell ← optionPicture (inputs.closure[index]?.map .cell)
  return .list [parameter, cell, .ofNat inputs.parameters.length, .ofNat inputs.closure.length,
    .bool inputs.parametersReleased]

/-- Releases the parameters of some inputs, then their cells, then the parameters again, and says what
they hold each time. -/
def performTryInputs (E : Engine L) (scope : Scope) (parameters closure : List Expr) (index : Nat) :
    Effect L Answered := do
  let parameters ← evaluateAll E scope parameters
  let cells ← evaluateAll E scope closure
  match cells.mapM (·.asCell?) with
  | none => badOperand E (parameters ++ cells)
  | some closure =>
    let inputs := Inputs.new parameters closure
    let row₁ ← inputsRow inputs index
    let (released₁, inputs) := inputs.releaseParameters
    E.releaseAll released₁
    let row₂ ← inputsRow inputs index
    let (releasedCells, inputs) := inputs.releaseClosure
    E.releaseAll (releasedCells.map .cell)
    let row₃ ← inputsRow inputs index
    let (released₂, _) := inputs.releaseParameters
    E.releaseAll released₂
    return .ofData (.list [row₁, .ofNat released₁.length, row₂, .ofNat releasedCells.length, row₃,
      .ofNat released₂.length])

end CoroutineEngine
