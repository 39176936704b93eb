import CoroutineEngine.Proofs.Client

/-!
# Operations and bodies

Every operation, every command of a body and every run of a body is composed of the atoms of clients.

Results:
* `Client.perform`: operations.
* `Client.execute`, `Client.runBody`: commands of a body, and its runs.
-/

namespace CoroutineEngine.Client

open Composed (quiet still pure gets release releaseAll releaseOption releaseException
  releaseException? releasePending? releaseReply owning holding)

variable {L : Language} {α : Type} {k : Option CoroutineId}

/-! ## Operations -/

/-! ### Values and objects -/

theorem storeSlot (slot : String) (v : Value) : Client k fun E : Engine L => storeSlot E slot v :=
  .bind (still (.plain (fun _ => rfl) fun _ _ _ => rfl)) fun _ => releaseOption _

theorem performSetSlot (scope : Scope) (slot : String) (value : Expr) :
    Client k fun E : Engine L => performSetSlot E scope slot value :=
  .bind (evaluate scope value) fun _ => .bind (storeSlot _ _) fun _ => pure _

theorem performDropSlot (slot : String) : Client k fun E : Engine L => performDropSlot E slot :=
  .bind (still (.plain (fun _ => rfl) fun _ _ _ => rfl)) fun _ =>
    .bind (releaseOption _) fun _ => pure _

theorem performSay (scope : Scope) (value : Expr) :
    Client k fun E : Engine L => performSay E scope value :=
  .bind (evaluate scope value) fun _ => .bind (quiet (pictureOf_quiet _)) fun _ =>
    .bind (still (emit_still _)) fun _ => .bind (release _) fun _ => pure _

theorem performRead (scope : Scope) (value : Expr) (read : World L → Value → Option Datum) :
    Client k fun E : Engine L => performRead E scope value read :=
  .bind (evaluate scope value) fun _ => .bind (quiet (inspected_quiet _)) fun _ =>
    .bind (release _) fun _ => pure _

theorem performCompare (scope : Scope) (a b : Expr) :
    Client k fun E : Engine L => performCompare E scope a b :=
  .bind (evaluate scope a) fun _ => .bind (evaluate scope b) fun _ => .bind (releaseAll _) fun _ =>
    pure _

theorem performDefineClass (scope : Scope) (name : String) (base : Expr) :
    Client k fun E : Engine L => performDefineClass E scope name base := by
  refine .bind (evaluate scope base) fun v => ?_
  cases v with
  | exceptionClass c => exact .bind (still (makeClass_still _ _)) fun _ => pure _
  | _ => exact .badOperand _

theorem performCompareClasses (scope : Scope) (a b : Expr) :
    Client k fun E : Engine L => performCompareClasses E scope a b := by
  refine .bind (evaluate scope a) fun x => .bind (evaluate scope b) fun y => ?_
  cases x with
  | exceptionClass x =>
    cases y with
    | exceptionClass y => exact pure _
    | _ => exact .badOperand _
  | _ => exact .badOperand _

theorem performAttach (scope : Scope) (on value : Expr)
    {attach : Exception → Exception → Effect L (Option Exception)}
    (ha : ∀ e e', Still (attach e e')) :
    Client k fun E : Engine L => performAttach E scope on value attach := by
  refine onOperand scope on _ fun e => .bind (evaluate scope value) fun v => ?_
  cases v with
  | exception other =>
    exact .bind (still (ha _ _)) fun _ => .bind (releaseException? _) fun _ => pure _
  | _ => exact .badOperand _

theorem performSetTraceback (scope : Scope) (on value : Expr) :
    Client k fun E : Engine L => performSetTraceback E scope on value := by
  refine onOperand scope on _ fun e => .bind (evaluate scope value) fun v => ?_
  cases v.asOptional? Value.asTraceback? with
  | some t => exact .bind (still (setTraceback_still _ _)) fun _ => pure _
  | none => exact .badOperand _

theorem performPushTraceback (scope : Scope) (on value : Expr) :
    Client k fun E : Engine L => performPushTraceback E scope on value := by
  refine onOperand scope on _ fun e => .bind (evaluate scope value) fun v => ?_
  cases v with
  | frame f => exact .bind (still (pushTraceback_still _ _)) fun _ => pure _
  | _ => exact .badOperand _

theorem swapCell (c : CellId) (content : Option Value) :
    Client k fun _ : Engine L => swapCell c content :=
  still (.plain (fun _ => rfl) fun _ _ _ => rfl)

theorem performSetCell (scope : Scope) (on value : Expr) :
    Client k fun E : Engine L => performSetCell E scope on value :=
  onOperand scope on _ fun _ => .bind (evaluate scope value) fun _ => .bind (swapCell _ _) fun _ =>
    pure _

theorem performClearCell (scope : Scope) (on : Expr) :
    Client k fun E : Engine L => performClearCell E scope on :=
  onOperand scope on _ fun _ => .bind (swapCell _ _) fun _ => pure _

theorem performSameCell (scope : Scope) (on value : Expr) :
    Client k fun E : Engine L => performSameCell E scope on value := by
  refine onOperand scope on _ fun c => .bind (evaluate scope value) fun v => ?_
  cases v with
  | cell other => exact .bind (release _) fun _ => pure _
  | _ => exact .badOperand _

theorem performMakeFrame (scope : Scope) (code : CodeSource L.Script) :
    Client k fun E : Engine L => performMakeFrame E scope code := by
  refine .bind (codeOf scope code) fun r => ?_
  cases r with
  | error e => exact pure _
  | ok code => exact .bind (still (makeFrame_still _)) fun _ => pure _

theorem moveFrame (f : Frame) (line : UInt32) : Client k fun _ : Engine L => moveFrame f line :=
  still (.plain (fun _ => rfl) fun _ _ _ => rfl)

theorem performSetFrameLine (scope : Scope) (on value : Expr) :
    Client k fun E : Engine L => performSetFrameLine E scope on value := by
  refine onOperand scope on _ fun f => .bind (evaluate scope value) fun v => ?_
  cases v.asInt? with
  | some n => exact .bind (moveFrame _ _) fun _ => pure _
  | none => exact .badOperand _

theorem performSetFrameBack (scope : Scope) (on value : Expr) :
    Client k fun E : Engine L => performSetFrameBack E scope on value := by
  refine onOperand scope on _ fun f => .bind (evaluate scope value) fun v => ?_
  cases v.asOptional? Value.asFrame? with
  | some back => exact .bind (still (swapBack_still _ _)) fun _ => pure _
  | none => exact .badOperand _

theorem inputsRow (inputs : Inputs) (index : Nat) :
    Client k fun _ : Engine L => inputsRow inputs index :=
  have picture (v : Option Value) : Client k fun _ : Engine L => optionPicture v :=
    .bind (quiet (pictureOf_quiet _)) fun _ => pure _
  .bind (picture _) fun _ => .bind (picture _) fun _ => pure _

theorem performTryInputs (scope : Scope) (parameters closure : List Expr) (index : Nat) :
    Client k fun E : Engine L => performTryInputs E scope parameters closure index := by
  refine .bind (evaluateAll scope _) fun parameters => .bind (evaluateAll scope _) fun cells => ?_
  cases cells.mapM (·.asCell?) with
  | none => exact .badOperand _
  | some closure =>
    exact .bind (inputsRow _ _) fun _ => .bind (releaseAll _) fun _ => .bind (inputsRow _ _) fun _ =>
      .bind (releaseAll _) fun _ => .bind (inputsRow _ _) fun _ => .bind (releaseAll _) fun _ => pure _

/-! ### The ambient state -/

theorem tripleOfValues (kind value traceback : Value) :
    Client k fun E : Engine L => tripleOfValues E kind value traceback := by
  cases kind with
  | none => exact .bind (releaseAll _) fun _ => pure _
  | exception e =>
    exact .bind (releaseAll _) fun _ => .bind (still (pendingOf_still _)) fun _ => pure _
  | exceptionClass cls =>
    unfold CoroutineEngine.tripleOfValues
    dsimp only
    split
    · exact .bind (release _) fun _ => pure _
    · exact pure _
  | _ => exact .badOperand _

theorem tripleOf (scope : Scope) (triple : TripleSpec) :
    Client k fun E : Engine L => tripleOf E scope triple :=
  .bind (evaluate scope _) fun _ => .bind (evaluate scope _) fun _ => .bind (evaluate scope _) fun _ =>
    tripleOfValues _ _ _

theorem showPending (p : PendingException) : Client k fun _ : Engine L => showPending p :=
  .bind (quiet (inspected_quiet _)) fun _ => .bind (still (emit_still _)) fun _ =>
    .bind (still (instantiate_still _)) fun _ => pure _

theorem performNormalize (scope : Scope) (triple : TripleSpec) :
    Client k fun E : Engine L => performNormalize E scope triple := by
  refine .bind (evaluate scope _) fun _ => .bind (evaluate scope _) fun _ =>
    .bind (evaluate scope _) fun _ => holding _ (holding _ (.bind (normalizeThrow _ _ _) fun r => ?_))
  cases r with
  | error e => exact pure _
  | ok p => exact showPending p

theorem performMakePending (scope : Scope) (triple : TripleSpec) :
    Client k fun E : Engine L => performMakePending E scope triple := by
  refine .bind (tripleOf scope triple) fun r => ?_
  rcases r with e | _ | p
  · exact pure _
  · exact .badOperand _
  · exact showPending p

theorem deliver (t : Transfer) : Client k fun E : Engine L => t.deliver E := by
  unfold Transfer.deliver
  cases t.exception with
  | none => exact pure _
  | some p =>
    exact .bind (still (instantiate_still _)) fun _ => .bind (owning _ (release _)) fun _ => pure _

theorem showTransfer (t : Transfer) : Client k fun E : Engine L => showTransfer E t :=
  .bind (quiet (rendered_quiet _)) fun _ => .bind (still (emit_still _)) fun _ =>
    .bind (deliver t) fun _ => pure _

theorem performMakeTransfer (scope : Scope) (triple : TripleSpec) :
    Client k fun E : Engine L => performMakeTransfer E scope triple := by
  refine .bind (evaluate scope _) fun kind => .bind (evaluate scope _) fun _ =>
    .bind (evaluate scope _) fun _ => ?_
  cases kind.isNone with
  | true => exact .bind (release _) fun _ => showTransfer _
  | false =>
    refine .bind (tripleOfValues _ _ _) fun r => ?_
    rcases r with e | _ | p
    · exact pure _
    · exact showTransfer _
    · exact showTransfer _

theorem performSetError (scope : Scope) (value : Expr) :
    Client k fun E : Engine L => performSetError E scope value := by
  refine .bind (evaluate scope value) fun v => ?_
  cases v with
  | exception e =>
    exact .bind (still (pendingOf_still _)) fun _ => .bind (quiet (swapError_quiet _)) fun _ =>
      .bind (releasePending? _) fun _ => pure _
  | _ => exact .badOperand _

theorem performFetchError : Client k fun _ : Engine L => performFetchError := by
  refine .bind (quiet fetchError_quiet) fun p => ?_
  cases p with
  | none => exact pure _
  | some p => exact .bind (still (instantiate_still _)) fun _ => pure _

theorem performCurrentError : Client k fun E : Engine L => performCurrentError E := by
  refine .bind (quiet errorOccurred_quiet) fun _ => .bind (quiet currentError_quiet) fun p => ?_
  cases p with
  | none => exact pure _
  | some p =>
    exact .bind (quiet (inspected_quiet _)) fun _ => .bind (releasePending? _) fun _ => pure _

theorem performRestoreError (scope : Scope) (triple : TripleSpec) :
    Client k fun E : Engine L => performRestoreError E scope triple := by
  refine .bind (tripleOf scope triple) fun r => ?_
  cases r with
  | error e => exact pure _
  | ok p => exact .bind (quiet (swapError_quiet _)) fun _ => .bind (releasePending? _) fun _ => pure _

theorem performSetHandled (scope : Scope) (value : Expr) :
    Client k fun E : Engine L => performSetHandled E scope value := by
  refine .bind (evaluate scope value) fun v => ?_
  cases v.asOptional? Value.asException? with
  | some handled => exact .bind (quiet (swapHandled_quiet _)) fun _ => pure _
  | none => exact .badOperand _

theorem performEnterHandler (scope : Scope) (value : Expr) :
    Client k fun E : Engine L => performEnterHandler E scope value := by
  refine .bind (evaluate scope value) fun v => ?_
  cases v with
  | exception e => exact .bind (quiet (swapHandled_quiet _)) fun _ => pure _
  | _ => exact .badOperand _

theorem performLeaveHandler (scope : Scope) (value : Expr) :
    Client k fun E : Engine L => performLeaveHandler E scope value := by
  refine .bind (evaluate scope value) fun v => ?_
  cases v.asOptional? Value.asException? with
  | some previous =>
    exact .bind (quiet (swapHandled_quiet _)) fun _ => .bind (releaseException? _) fun _ => pure _
  | none => exact .badOperand _

theorem performPushFrame (scope : Scope) (code : CodeSource L.Script) :
    Client k fun E : Engine L => performPushFrame E scope code := by
  refine .bind (codeOf scope code) fun r => ?_
  cases r with
  | error e => exact pure _
  | ok code => exact .bind (quiet (pushFrame_quiet _)) fun _ => pure _

theorem performPopFrame : Client k fun _ : Engine L => performPopFrame :=
  .bind (quiet popFrame_quiet) fun _ => pure _

theorem performSetTopFrame (scope : Scope) (value : Expr) :
    Client k fun E : Engine L => performSetTopFrame E scope value := by
  refine .bind (evaluate scope value) fun v => ?_
  cases v.asOptional? Value.asFrame? with
  | some top => exact .bind (quiet (swapTop_quiet _)) fun _ => pure _
  | none => exact .badOperand _

theorem performListFrames : Client k fun _ : Engine L => performListFrames :=
  .bind (quiet currentFrame_quiet) fun _ => .bind (quiet (inspected_quiet _)) fun _ => pure _

theorem performWriteUnraisable (scope : Scope) (object : String) (value : Expr) :
    Client k fun E : Engine L => performWriteUnraisable E scope object value := by
  refine .bind (evaluate scope value) fun v => ?_
  cases v with
  | exception e => exact .bind (.atom (.report object e)) fun _ => pure _
  | _ => exact .badOperand _

theorem performInstallHook (mode : String) :
    Client k fun E : Engine L => performInstallHook E mode :=
  .bind (quiet (swapHook_quiet fun _ h => hookOf?_owned mode h)) fun _ =>
    .bind (releaseAll _) fun _ => pure _

/-! ### Registry, settings and fibers -/

theorem performTrack (id : Int) : Client k fun _ : Engine L => performTrack id :=
  .bind (still (trackForeign_still id _)) fun _ => .bind (gets _) fun _ => pure _

theorem performUntrack (id : Int) : Client k fun _ : Engine L => performUntrack id :=
  .bind (still (untrackForeign_still _)) fun _ => .bind (gets _) fun _ => pure _

theorem performMakeFiber (name : String) (spec : FiberSpec) :
    Client k fun _ : Engine L => performMakeFiber name spec := by
  have stack : Still (mapStack spec.stackSize : Effect L (Option FiberError)) := by
    unfold mapStack
    split
    · exact panic_still _
    · exact .pure _
    · exact .bind (log_still _ _ _) fun _ => .pure _
  refine .bind (still (dropFiber_still _)) fun _ =>
    .bind (.onPanic (still stack) (still (emit_still _))) fun failure => ?_
  cases failure with
  | some error => exact .bind (still (emit_still _)) fun _ => pure _
  | none => exact .bind (still (storeFiber_still _ _)) fun _ => pure _

theorem performSwitch (name : String) (input : Int64) :
    Client k fun _ : Engine L => performSwitch name input := by
  refine .bind (gets _) fun f => ?_
  cases f with
  | none => exact pure _
  | some f =>
    dsimp only
    rcases f.switch input with error | ⟨_ | _, f⟩
    · exact pure _
    · exact .bind (still (storeFiber_still _ _)) fun _ => pure _
    · exact .bind (still (emit_still _)) fun _ => .bind (still (storeFiber_still _ _)) fun _ => pure _

theorem performReleaseFiber (name : String) :
    Client k fun _ : Engine L => performReleaseFiber name := by
  refine .bind (gets _) fun f => ?_
  cases f with
  | none => exact pure _
  | some f =>
    exact .bind (still (releaseStack_still _ _)) fun _ => .bind (still (storeFiber_still _ _)) fun _ =>
      pure _

theorem performInspectFiber (name : String) :
    Client k fun _ : Engine L => performInspectFiber name := by
  refine .bind (gets _) fun f => ?_
  cases f with
  | none => exact pure _
  | some f => exact pure _

theorem performSetLine (scope : Scope) (line : UInt32) :
    Client k fun _ : Engine L => performSetLine scope line := by
  unfold CoroutineEngine.performSetLine
  cases scope.context with
  | none => exact pure _
  | some context => exact .bind (moveFrame _ _) fun _ => pure _

/-- Every operation is composed of the atoms of clients. -/
theorem perform (scope : Scope) (op : Operation L.Script) :
    Client k fun E : Engine L => perform E scope op := by
  cases op with
  | makeCode spec => exact .bind (still (makeCode_still _)) fun _ => pure _
  | makeCoroutine spec => exact buildCoroutine scope spec
  | send on value => exact performSend scope on value
  | throw on triple => exact performThrow scope on triple
  | throwException on value => exact performThrowException scope on value
  | close on => exact performClose scope on
  | step on => exact performStep scope on
  | wrap on => exact wrapCoroutine scope on
  | iterate on steps => exact performIterate scope on steps
  | getAttribute on name => exact performGet scope on name
  | setAttribute on name value => exact performWrite scope on value fun c v => setAttribute c name v
  | setName on value => exact performWrite scope on value fun c v => setName c v
  | setQualname on value => exact performWrite scope on value fun c v => setQualname c v
  | downgrade on weak => exact performDowngrade scope on weak
  | upgrade weak => exact performUpgrade weak
  | isAlive weak => exact performIsAlive weak
  | handleCount slot => exact .bind (gets _) fun _ => pure _
  | evaluate value => exact .bind (evaluate scope value) fun _ => pure _
  | setSlot slot value => exact performSetSlot scope slot value
  | dropSlot slot => exact performDropSlot slot
  | say value => exact performSay scope value
  | describe value => exact performRead scope value _
  | compare a b => exact performCompare scope a b
  | defineClass name base => exact performDefineClass scope name base
  | compareClasses a b => exact performCompareClasses scope a b
  | inspect on => exact performRead scope on _
  | setCause on value => exact performAttach scope on value attachCause_still
  | setContext on value => exact performAttach scope on value attachContext_still
  | setTraceback on value => exact performSetTraceback scope on value
  | pushTraceback on value => exact performPushTraceback scope on value
  | setCell on value => exact performSetCell scope on value
  | clearCell on => exact performClearCell scope on
  | sameCell on value => exact performSameCell scope on value
  | makeFrame code => exact performMakeFrame scope code
  | setFrameLine on value => exact performSetFrameLine scope on value
  | setFrameBack on value => exact performSetFrameBack scope on value
  | normalize triple => exact performNormalize scope triple
  | makePending triple => exact performMakePending scope triple
  | makeTransfer triple => exact performMakeTransfer scope triple
  | tryInputs parameters closure index => exact performTryInputs scope parameters closure index
  | setError value => exact performSetError scope value
  | fetchError => exact performFetchError
  | currentError => exact performCurrentError
  | restoreError triple => exact performRestoreError scope triple
  | setHandled value => exact performSetHandled scope value
  | pushFrame code => exact performPushFrame scope code
  | popFrame => exact performPopFrame
  | setTopFrame value => exact performSetTopFrame scope value
  | listFrames => exact performListFrames
  | writeUnraisable object value => exact performWriteUnraisable scope object value
  | installHook mode => exact performInstallHook mode
  | track id => exact performTrack id
  | untrack id => exact performUntrack id
  | isTracked id => exact .bind (gets _) fun _ => pure _
  | registryStats => exact .bind (gets _) fun _ => pure _
  | activate stackSize reportChildren =>
    exact .bind (still (.plain (fun _ => rfl) fun _ _ _ => rfl)) fun _ => pure _
  | makeFiber name spec => exact performMakeFiber name spec
  | switchFiber name value => exact performSwitch name value
  | releaseFiber name => exact performReleaseFiber name
  | inspectFiber name => exact performInspectFiber name
  | setLine line => exact performSetLine scope line
  | enterHandler value => exact performEnterHandler scope value
  | leaveHandler value => exact performLeaveHandler scope value

/-! ## Bodies -/

variable {context : Option Context}

/-- A body is a client of its own coroutine. -/
abbrev Body (context : Option Context) (x : Procedure L α) : Prop :=
  Client (context.map (·.coroutine)) x

theorem deliverTo (a : Activation L) (target : Option String) (v : Value) :
    Client k fun E => deliverTo E a target v := by
  cases target with
  | none => exact .bind (owning _ (release _)) fun _ => pure _
  | some name => exact .bind (owning _ (releaseOption _)) fun _ => pure _

theorem proceedReply (a : Activation L) (target : Option String) (r : Reply) :
    Client k fun E => proceedReply E a target r := by
  cases r with
  | ok v => exact .bind (deliverTo _ _ _) fun _ => pure _
  | error e => exact pure _

theorem endBody (a : Activation L) (result : Reply) : Client k fun E => endBody E a result :=
  .bind (owning _ (releaseAll _)) fun _ => pure _

/-- A body notes what its coroutine awaits, as long as the coroutine lives. -/
theorem noteAwaited (context : Option Context) (v : Option Value) :
    Body context fun E : Engine L => (do
      if let some k := context then
        if ← .gets (·.isAlive k.coroutine) then
          E.releaseOption (← updateCoroutine k.coroutine fun r =>
            (r.awaiting, { r with awaiting := v })) : Effect L Unit) := by
  cases context with
  | none => exact pure _
  | some k =>
    refine .bind (gets _) fun alive => ?_
    cases alive with
    | true => exact .bind (.atom (.await k.coroutine v rfl)) fun _ => releaseOption _
    | false => exact pure _

theorem endDelegation (a : Activation L) (d : Delegation) (result : Reply) :
    Body context fun E => endDelegation E context a d result :=
  .bind (owning _ (noteAwaited context none)) fun _ => .bind (owning _ (release _)) fun _ =>
    .bind (owning _ (release _)) fun _ => proceedReply _ _ _

theorem afterDelegate (a : Activation L) (d : Delegation) (r : Reply) :
    Body context fun E => afterDelegate E context a d r := by
  cases r with
  | ok v => exact pure _
  | error e =>
    unfold CoroutineEngine.afterDelegate
    dsimp only
    split
    · exact .bind (quiet (stopValue_quiet _)) fun _ => .bind (owning _ (releaseException _)) fun _ =>
        endDelegation _ _ _
    · exact endDelegation _ _ _

theorem startDelegation (a : Activation L) (operand : Value) (target : Option String) :
    Body context fun E => startDelegation E context a operand target := by
  refine .bind (gets _) fun delegate => ?_
  cases delegate with
  | none =>
    exact .bind (still (raise_still _)) fun _ => .bind (owning _ (release _)) fun _ => pure _
  | some delegate =>
    refine .bind (.retain _) fun _ => .bind (owning _ ?_) fun reply =>
      afterDelegate _ _ reply
    cases context with
    | none => exact send delegate .none
    | some k =>
      refine .bind (gets _) fun alive => ?_
      cases alive with
      | true =>
        exact .bind (.retain _) fun _ =>
          .bind (.atom (.await k.coroutine (some operand) rfl)) fun _ =>
            .bind (releaseOption _) fun _ => send delegate .none
      | false => exact send delegate .none

theorem passOn (a : Activation L) (d : Delegation) (t : Transfer) :
    Body context fun E => passOn E context a d t := by
  refine .bind (gets _) fun delegate => ?_
  cases delegate with
  | none => exact .bind (releaseAll _) fun _ => endDelegation _ _ _
  | some delegate =>
    refine .bind (owning _ (deliver t)) fun r => ?_
    cases r with
    | ok v => exact .bind (owning _ (send delegate v)) fun r => afterDelegate _ _ r
    | error e =>
      dsimp only
      split
      · refine .bind (owning _ (close delegate)) fun r => ?_
        cases r with
        | ok v => exact .bind (owning _ (release _)) fun _ => endDelegation _ _ _
        | error other => exact .bind (owning _ (releaseException _)) fun _ => endDelegation _ _ _
      · exact .bind (owning _ (throwException delegate e)) fun r => afterDelegate _ _ r

/-- Every command but a delegation is composed of what any client does. -/
theorem executePlain (a : Activation L) {command : Command L.Script}
    (hc : ∀ e target, command ≠ .await e target) : Client k fun E => execute E context a command := by
  have value (e : Expr) :
      Client k fun E : Engine L => E.owning a.owned (CoroutineEngine.evaluate E ⟨context, a.locals⟩ e) :=
    owning _ (evaluate _ e)
  cases command with
  | yield e target => exact .bind (value e) fun _ => pure _
  | await e target => exact absurd rfl (hc e target)
  | perform op target =>
    refine .bind (owning _ (perform _ op)) fun r => ?_
    rcases r with e | v | d
    · exact pure _
    · exact .bind (deliverTo _ _ _) fun _ => pure _
    · dsimp only
      split
      · exact .bind (still (emit_still _)) fun _ => pure _
      · exact pure _
  | test e => exact .bind (value e) fun _ => .bind (owning _ (release _)) fun _ => pure _
  | caught e => exact .bind (value e) fun _ => .bind (owning _ (release _)) fun _ => pure _
  | hold e => exact .bind (value e) fun _ => pure _
  | discard depth => exact .bind (owning _ (releaseOption _)) fun _ => pure _
  | bind target => exact .bind (.retain _) fun _ => .bind (deliverTo _ _ _) fun _ => pure _
  | enter =>
    unfold CoroutineEngine.execute
    cases heldException? a with
    | none => exact pure _
    | some e => exact .bind (owning _ (quiet (swapHandled_quiet _))) fun _ => pure _
  | leave depth =>
    exact .bind (owning _ (quiet (swapHandled_quiet _))) fun _ =>
      .bind (owning _ (releaseException? _)) fun _ => pure _
  | raise value arg =>
    refine .bind (owning _ (.bind (evaluate _ value) fun kind => .bind (evaluate _ arg) fun arg =>
      holding _ (.bind (normalizeThrow _ _ _) fun r => ?_))) fun _ => pure _
    cases r with
    | error e => exact pure _
    | ok p => exact still (instantiate_still _)
  | pass => exact pure _
  | finish => exact endBody _ _
  | fail =>
    unfold CoroutineEngine.execute
    cases heldException? a with
    | none => exact endBody _ _
    | some e => exact endBody _ _
  | panic message => exact owning _ (still (panic_still _))

/-- Every command of a body is composed of the atoms of clients. -/
theorem execute (a : Activation L) (command : Command L.Script) :
    Body context fun E => execute E context a command := by
  cases command with
  | await e target => exact .bind (owning _ (evaluate _ e)) fun _ => startDelegation _ _ _
  | _ => exact executePlain a nofun

theorem proceed (fuel : Nat) (a : Activation L) (answer : Answer) :
    Body context fun E => proceed E context fuel a answer := by
  induction fuel generalizing a answer with
  | zero => exact still (.plain (fun _ => rfl) fun _ _ _ => rfl)
  | succ fuel ih =>
    refine .bind (still tick_still) fun _ => ?_
    refine .bind (execute _ _) fun p => ?_
    cases p with
    | next a answer => exact ih a answer
    | ended exit => exact pure _

theorem proceedFrom (fuel : Nat) (p : Progress L) :
    Body context fun E => proceedFrom E context fuel p := by
  cases p with
  | next a answer => exact proceed fuel a answer
  | ended exit => exact pure _

/-- Every run of a body is composed of the atoms of clients. -/
theorem runBody (fuel : Nat) (a : Activation L) (t : Transfer) :
    Body context fun E => runBody E context fuel a t := by
  unfold CoroutineEngine.runBody
  cases a.waiting with
  | start => exact .bind (owning _ (releaseAll _)) fun _ => proceed fuel a .start
  | delivery target =>
    exact .bind (owning _ (deliver t)) fun reply => .bind (proceedReply _ _ _) fun p =>
      proceedFrom fuel p
  | delegate d => exact .bind (passOn _ _ _) fun p => proceedFrom fuel p

end CoroutineEngine.Client
