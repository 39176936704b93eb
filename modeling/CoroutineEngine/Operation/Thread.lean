import CoroutineEngine.Operation.Objects

/-!
# Operations on the ambient state, the registry and the settings
-/

namespace CoroutineEngine

variable {L : Language}

/-! ## Triples -/

/-- The triple of three values, which it takes over: none if the kind is the empty value, and otherwise a
class with an optional instance and traceback, or the triple of an instance. A value that is no
instance, or no traceback, stands for none. -/
def tripleOfValues (E : Engine L) (kind value traceback : Value) :
    Effect L (Except Exception (Option PendingException)) := do
  match kind with
  | .none =>
    E.releaseAll [value, traceback]
    return .ok none
  | .exception e =>
    E.releaseAll [value, traceback]
    return .ok (some (← pendingOf e))
  | .exceptionClass cls =>
    if value.asException?.isNone then
      E.release value
    return .ok (some ⟨cls, value.asException?, traceback.asTraceback?⟩)
  | _ => badOperand E [kind, value, traceback]

/-- The triple of three operands. -/
def tripleOf (E : Engine L) (scope : Scope) (triple : TripleSpec) :
    Effect L (Except Exception (Option PendingException)) := do
  let kind ← evaluate E scope triple.kind
  let value ← evaluate E scope triple.value
  let traceback ← evaluate E scope triple.traceback
  tripleOfValues E kind value traceback

/-- Shows a triple as an event and makes its instance. -/
def showPending (p : PendingException) : Effect L Answered := do
  emit (.pending (← inspected (·.pendingData p)))
  return .ok (.value (.exception (← p.instantiate)))

/-- Normalizes the arguments of a throw and makes the instance. -/
def performNormalize (E : Engine L) (scope : Scope) (triple : TripleSpec) : Effect L Answered := do
  let kind ← evaluate E scope triple.kind
  let value ← evaluate E scope triple.value
  let traceback ← evaluate E scope triple.traceback
  E.holding kind <| E.holding traceback do
    match ← normalizeThrow E kind value traceback with
    | .error e => return .error e
    | .ok p => showPending p

/-- Makes a triple and its instance. -/
def performMakePending (E : Engine L) (scope : Scope) (triple : TripleSpec) :
    Effect L Answered := do
  match ← tripleOf E scope triple with
  | .error e => return .error e
  | .ok none => badOperand E []
  | .ok (some p) => showPending p

/-- What a transfer delivers: its value, or its exception. -/
def Transfer.deliver (E : Engine L) (t : Transfer) : Effect L Reply := do
  match t.exception with
  | none => return .ok t.value
  | some p =>
    let e ← p.instantiate
    E.owning [.exception e] (E.release t.value)
    return .error e

/-- Shows a transfer as an event and delivers it. -/
def showTransfer (E : Engine L) (t : Transfer) : Effect L Answered := do
  emit (.transfer (← rendered (·.transferDebug t)))
  return .ofReply (← t.deliver E)

/-- Makes a transfer of a triple, or of a value where no kind is given, and delivers it. -/
def performMakeTransfer (E : Engine L) (scope : Scope) (triple : TripleSpec) :
    Effect L Answered := do
  let kind ← evaluate E scope triple.kind
  let value ← evaluate E scope triple.value
  let traceback ← evaluate E scope triple.traceback
  if kind.isNone then
    E.release traceback
    showTransfer E (.ofValue value)
  else
    match ← tripleOfValues E kind value traceback with
    | .error e => return .error e
    | .ok none => showTransfer E (.ofValue .none)
    | .ok (some p) => showTransfer E (.ofPending p)

/-! ## The error slot and the handled exception -/

/-- Sets the error to the triple of an instance. -/
def performSetError (E : Engine L) (scope : Scope) (value : Expr) : Effect L Answered := do
  match ← evaluate E scope value with
  | .exception e =>
    E.releasePending? (← swapError (some (← pendingOf e)))
    return .nothing
  | other => badOperand E [other]

/-- Takes the error out of its slot, as an instance. -/
def performFetchError : Effect L Answered := do
  match ← fetchError with
  | none => return .nothing
  | some p => return .ok (.value (.exception (← p.instantiate)))

/-- Data about the error in its slot. -/
def performCurrentError (E : Engine L) : Effect L Answered := do
  let occurred ← errorOccurred
  match ← currentError with
  | none => return .ofData (.list [.bool occurred, .null])
  | some p =>
    let data ← inspected (·.pendingData p)
    E.releasePending? (some p)
    return .ofData (.list [.bool occurred, data])

/-- Puts a triple into the error slot, or clears it. -/
def performRestoreError (E : Engine L) (scope : Scope) (triple : TripleSpec) :
    Effect L Answered := do
  match ← tripleOf E scope triple with
  | .error e => return .error e
  | .ok p =>
    E.releasePending? (← swapError p)
    return .nothing

/-- Makes an exception the handled one, or none; gives back the previous one. -/
def performSetHandled (E : Engine L) (scope : Scope) (value : Expr) : Effect L Answered := do
  let v ← evaluate E scope value
  match v.asOptional? Value.asException? with
  | some handled => return .ofOption .exception (← swapHandled handled)
  | none => badOperand E [v]

/-- Enters a handler for an exception; gives back the exception handled before. -/
def performEnterHandler (E : Engine L) (scope : Scope) (value : Expr) : Effect L Answered := do
  match ← evaluate E scope value with
  | .exception e => return .ofOption .exception (← swapHandled (some e))
  | other => badOperand E [other]

/-- Leaves a handler: the exception handled before is handled again. -/
def performLeaveHandler (E : Engine L) (scope : Scope) (value : Expr) : Effect L Answered := do
  let v ← evaluate E scope value
  match v.asOptional? Value.asException? with
  | some previous =>
    E.releaseException? (← swapHandled previous)
    return .nothing
  | none => badOperand E [v]

/-! ## The frame stack -/

/-- Enters a plain activation. -/
def performPushFrame (E : Engine L) (scope : Scope) (code : CodeSource L.Script) :
    Effect L Answered := do
  match ← codeOf E scope code with
  | .error e => return .error e
  | .ok code => return .ok (.value (.frame (← pushFrame code)))

/-- Leaves the top activation. -/
def performPopFrame : Effect L Answered := do
  return .ofOption .frame (← popFrame)

/-- Replaces the top frame; gives back the previous one. -/
def performSetTopFrame (E : Engine L) (scope : Scope) (value : Expr) : Effect L Answered := do
  let v ← evaluate E scope value
  match v.asOptional? Value.asFrame? with
  | some top => return .ofOption .frame (← swapTop top)
  | none => badOperand E [v]

/-- The depth of the frame stack and the texts of its frames, from the top. -/
def performListFrames : Effect L Answered := do
  let top ← currentFrame
  return .ofData <| ← inspected fun w =>
    (w.callers? top).map fun frames =>
      .list [.ofNat frames.length, .ofTexts (frames.map w.frameText)]

/-! ## Hooks -/

/-- Reports an exception that nobody can receive. -/
def performWriteUnraisable (E : Engine L) (scope : Scope) (object : String) (value : Expr) :
    Effect L Answered := do
  match ← evaluate E scope value with
  | .exception e =>
    writeUnraisable E object e
    return .nothing
  | other => badOperand E [other]

/-- The mode that stands for no hook. -/
def noHookMode : String := "none"

/-- The hook of a mode. -/
def hookOf? (L : Language) (mode : String) : Option (Hook L) :=
  if mode = noHookMode then none else some ⟨mode, L.reaction mode, []⟩

/-- Installs the hook of a mode; says whether one was installed before. -/
def performInstallHook (E : Engine L) (mode : String) : Effect L Answered := do
  let previous ← swapHook (hookOf? L mode)
  E.releaseAll ((previous.map (·.owned)).getD [])
  return .ofData (.bool previous.isSome)

/-! ## Registry -/

/-- The kind under which clients enroll objects. -/
def foreignKind : String := "driver object"

/-- Enrolls an object; gives the number of enrolled ones. -/
def performTrack (id : Int) : Effect L Answered := do
  trackObject (.foreign id) foreignKind
  return .ofData (.ofNat (← .gets (·.registry.count)))

/-- Withdraws an object; says whether it was enrolled, and how many are left. -/
def performUntrack (id : Int) : Effect L Answered := do
  let removed ← untrackObject (.foreign id)
  return .ofData (.list [.bool removed, .ofNat (← .gets (·.registry.count))])

/-- Whether an object is enrolled. -/
def performIsTracked (id : Int) : Effect L Answered := do
  return .ofData (.bool (← .gets (·.registry.isTracked (.foreign id))))

/-- The counts of the registry. -/
def registryStats : Effect L Answered := do
  return .ofData <| ← .gets fun w =>
    .list [.ofNat w.registry.tracked, .ofNat w.registry.totalTracked,
      .ofNat w.registry.totalUntracked]

/-! ## Settings -/

/-- Changes the settings that coroutines are built under. -/
def performActivate (stackSize : Option Nat) (reportChildren : Option Bool) : Effect L Answered := do
  .modify fun w =>
    { w with settings :=
        ⟨stackSize.getD w.settings.stackSize, reportChildren.getD w.settings.reportChildren⟩ }
  return .nothing

end CoroutineEngine
