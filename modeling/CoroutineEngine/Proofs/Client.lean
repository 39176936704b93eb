import CoroutineEngine.Coroutine.Body
import CoroutineEngine.Proofs.Atoms

/-!
# What clients are composed of

Whatever a driver or a body asks for, the engine does it by releasing handles, by requests on
coroutines, by reporting errors, and by quiet computations. A body besides notes what its own coroutine
awaits.

Results:
* `Client.evaluate`: the value of an expression is computed in this way.
* `Client.performSend`, `Client.performThrow`, `Client.performClose`: so are the operations on
  coroutines.
-/

namespace CoroutineEngine

variable {L : Language} {α β : Type}

/-! ## Definitions -/

/-- What clients are composed of; `k` is the coroutine that the client is the body of. -/
inductive ClientAtom (k : Option CoroutineId) : ∀ {α : Type}, Procedure L α → Prop
  | quiet {α : Type} {x : Effect L α} : Quiet x → ClientAtom k fun _ => x
  | release (v : Value) : ClientAtom k fun E => E.release v
  | send (c : CoroutineId) (v : Value) : ClientAtom k fun E => send E c v
  | throwPending (c : CoroutineId) (p : PendingException) : ClientAtom k fun E => throwPending E c p
  | close (c : CoroutineId) : ClientAtom k fun E => close E c
  | report (object : String) (e : Exception) : ClientAtom k fun E => writeUnraisable E object e
  | await (c : CoroutineId) (v : Option Value) : k = some c →
      ClientAtom k fun _ => updateCoroutine c fun r => (r.awaiting, { r with awaiting := v })

/-- A procedure of a client. -/
abbrev Client (k : Option CoroutineId) (x : Procedure L α) : Prop := Composed (ClientAtom k) x

/-- The coroutine that a client is the body of. -/
def Scope.coroutine? (scope : Scope) : Option CoroutineId := scope.context.map (·.coroutine)

/-! ## Helpers -/

instance {k : Option CoroutineId} : QuietAtoms (L := L) (ClientAtom k) where
  discreet hx := .quiet hx.quiet
  quiet := .quiet
  release := .release

namespace Client

open Composed (quiet still pure gets release releaseAll releaseOption releaseException
  releaseException? releasePending? releaseReply owning holding)

variable {k : Option CoroutineId}

/-! ### Expressions -/

theorem decideOn (a b : Value) (test : Value → Value → Bool) :
    Client k fun E : Engine L => decideOn E a b test :=
  .bind (releaseAll _) fun _ => pure _

mutual

theorem evaluate (scope : Scope) :
    ∀ e : Expr, Client k fun E : Engine L => evaluate E scope e
  | .none | .bool _ | .int _ | .float _ | .builtinClass _ | .ownFrame | .ownCode => by
    unfold CoroutineEngine.evaluate
    exact pure _
  | .str _ | .repeated _ _ => by
    unfold CoroutineEngine.evaluate
    exact still (makeString_still _)
  | .range _ => by
    unfold CoroutineEngine.evaluate
    exact still (makeTuple_still _)
  | .tuple items => by
    unfold CoroutineEngine.evaluate
    exact .bind (evaluateAll scope items) fun _ => still (makeTuple_still _)
  | .slot _ | .localVar _ | .parameter _ | .closureCell _ | .self => by
    unfold CoroutineEngine.evaluate
    exact quiet (readValue_quiet _)
  | .exception cls args => by
    unfold CoroutineEngine.evaluate
    refine .bind (evaluate scope cls) fun c => .bind (evaluateAll scope args) fun args => ?_
    cases c with
    | exceptionClass c => exact .bind (still (makeException_still _ _)) fun _ => pure _
    | _ => exact .bind (releaseAll _) fun _ => pure _
  | .stopIteration value => by
    unfold CoroutineEngine.evaluate
    exact .bind (evaluate scope value) fun _ =>
      .bind (still (makeStopIteration_still _)) fun _ => pure _
  | .generatorExit => by
    unfold CoroutineEngine.evaluate
    exact .bind (still (makeException_still _ _)) fun _ => pure _
  | .traceback _ => by
    unfold CoroutineEngine.evaluate
    exact .bind (still (makeTraceback_still _)) fun _ => pure _
  | .emptyCell => by
    unfold CoroutineEngine.evaluate
    exact .bind (still (makeCell_still _)) fun _ => pure _
  | .cell content => by
    unfold CoroutineEngine.evaluate
    exact .bind (evaluate scope content) fun _ => .bind (still (makeCell_still _)) fun _ => pure _
  | .nest _ value => by
    unfold CoroutineEngine.evaluate
    exact .bind (evaluate scope value) fun _ => still (nestValue_still _ _)
  | .add a b => by
    unfold CoroutineEngine.evaluate
    exact .bind (evaluate scope a) fun _ => .bind (evaluate scope b) fun _ =>
      .bind (releaseAll _) fun _ => pure _
  | .display value => by
    unfold CoroutineEngine.evaluate
    exact .bind (evaluate scope value) fun _ => .bind (quiet (rendered_quiet _)) fun _ =>
      .bind (still (makeString_still _)) fun _ => .bind (release _) fun _ => pure _
  | .joined a b => by
    unfold CoroutineEngine.evaluate
    exact .bind (evaluate scope a) fun _ => .bind (evaluate scope b) fun _ =>
      .bind (quiet (rendered_quiet _)) fun _ => .bind (quiet (rendered_quiet _)) fun _ =>
        .bind (still (makeString_still _)) fun _ => .bind (releaseAll _) fun _ => pure _
  | .equal a b | .identical a b | .less a b | .isInstance a b => by
    unfold CoroutineEngine.evaluate
    exact .bind (evaluate scope a) fun _ => .bind (evaluate scope b) fun _ => decideOn _ _ _
  | .not value => by
    unfold CoroutineEngine.evaluate
    exact .bind (evaluate scope value) fun _ => .bind (release _) fun _ => pure _
  | .handled => by
    unfold CoroutineEngine.evaluate
    exact .bind (quiet handledException_quiet) fun _ => pure _
  | .topFrame => by
    unfold CoroutineEngine.evaluate
    exact .bind (quiet currentFrame_quiet) fun _ => pure _
  | .property value _ => by
    unfold CoroutineEngine.evaluate
    exact .bind (evaluate scope value) fun _ => .bind (quiet (propertyOf_quiet _ _)) fun _ =>
      .bind (release _) fun _ => pure _

theorem evaluateAll (scope : Scope) :
    ∀ es : List Expr, Client k fun E : Engine L => evaluateAll E scope es
  | [] => by
    unfold CoroutineEngine.evaluateAll
    exact pure _
  | e :: es => by
    unfold CoroutineEngine.evaluateAll
    exact .bind (evaluate scope e) fun _ => .bind (evaluateAll scope es) fun _ => pure _

end

theorem onOperand (scope : Scope) (operand : Expr) (as? : World L → Value → Option α)
    {f : α → Procedure L Answered} (hf : ∀ a, Client k (f a)) :
    Client k fun E => onOperand E scope operand as? fun a => f a E := by
  refine .bind (evaluate scope operand) fun v => .bind (gets _) fun a => ?_
  cases a with
  | some a => exact holding v (hf a)
  | none => exact .badOperand [v]

theorem codeOf (scope : Scope) (source : CodeSource L.Script) :
    Client k fun E : Engine L => codeOf E scope source := by
  cases source with
  | spec spec => exact .bind (still (makeCode_still _)) fun _ => pure _
  | value e =>
    refine .bind (evaluate scope e) fun v => ?_
    cases v with
    | code c => exact pure _
    | _ => exact .badOperand _

/-! ### Requests -/

section

variable {Atom : ∀ {α : Type}, Procedure L α → Prop} [BasicAtoms Atom]

theorem instanceOf (cls : ExceptionClass) (value : Value) :
    Composed Atom fun E : Engine L => instanceOf E cls value := by
  cases value with
  | none => exact still (makeException_still _ _)
  | tuple identity items =>
    exact .bind (.retainAll _) fun _ => .bind (still (makeException_still _ _)) fun _ =>
      .bind (owning _ (release _)) fun _ => pure _
  | exception e =>
    unfold CoroutineEngine.instanceOf
    dsimp only
    split
    · exact pure _
    · exact still (makeException_still _ _)
  | _ => exact still (makeException_still _ _)

theorem normalizeThrow (kind value traceback : Value) :
    Composed Atom fun E : Engine L => normalizeThrow E kind value traceback := by
  unfold CoroutineEngine.normalizeThrow
  cases tracebackOperand? traceback with
  | none => exact .refuse _ _
  | some traceback =>
    have withTraceback (e : Exception) :
        Composed Atom fun _ : Engine L => (do
          if traceback.isSome then
            setTraceback e traceback
          return .ok (← pendingOf e) : Effect L (Except Exception PendingException)) := by
      split
      · exact .bind (still (setTraceback_still _ _)) fun _ => .bind (still (pendingOf_still _))
          fun _ => pure _
      · exact .bind (still (pendingOf_still _)) fun _ => pure _
    cases kind with
    | exceptionClass cls => exact .bind (instanceOf _ _) fun _ => withTraceback _
    | exception e =>
      dsimp only
      split
      · exact .bind (.retain _) fun _ => withTraceback _
      · exact .refuse _ _
    | _ => exact .refuse _ _

end

theorem send (c : CoroutineId) (v : Value) : Client k fun E : Engine L => send E c v :=
  .atom (.send c v)

theorem throwPending (c : CoroutineId) (p : PendingException) :
    Client k fun E : Engine L => throwPending E c p := .atom (.throwPending c p)

theorem close (c : CoroutineId) : Client k fun E : Engine L => close E c := .atom (.close c)

theorem throw (c : CoroutineId) (kind value traceback : Value) :
    Client k fun E : Engine L => throw E c kind value traceback := by
  refine holding _ (holding _ (.bind (normalizeThrow _ _ _) fun r => ?_))
  cases r with
  | error e => exact pure _
  | ok p => exact throwPending c p

theorem throwException (c : CoroutineId) (e : Exception) :
    Client k fun E : Engine L => throwException E c e :=
  .bind (still (pendingOf_still _)) fun _ => throwPending c _

/-! ### Operations on coroutines -/

theorem buildCoroutine (scope : Scope) (spec : CoroutineSpec L.Script) :
    Client k fun E : Engine L => buildCoroutine E scope spec := by
  refine .bind (codeOf scope _) fun r => ?_
  cases r with
  | error e => exact pure _
  | ok code =>
    refine .bind (evaluateAll scope _) fun parameters => .bind (evaluateAll scope _) fun cells => ?_
    cases cellsOf? cells with
    | none => exact .badOperand _
    | some closure =>
      exact .bind (still (makeText?_still _)) fun _ => .bind (still (makeText?_still _)) fun _ =>
        .bind (quiet (makeCoroutine_quiet _)) fun _ => pure _

theorem wrapCoroutine (scope : Scope) (on : Expr) :
    Client k fun E : Engine L => wrapCoroutine E scope on :=
  onOperand scope on _ fun _ => .bind (.retain _) fun _ =>
    .bind (still (makeWrapper_still _)) fun _ => pure _

theorem performSend (scope : Scope) (on value : Expr) :
    Client k fun E : Engine L => performSend E scope on value :=
  onOperand scope on _ fun c => .bind (evaluate scope value) fun v => .bind (send c v) fun _ => pure _

theorem performThrow (scope : Scope) (on : Expr) (triple : TripleSpec) :
    Client k fun E : Engine L => performThrow E scope on triple :=
  onOperand scope on _ fun c => .bind (evaluate scope _) fun _ => .bind (evaluate scope _) fun _ =>
    .bind (evaluate scope _) fun _ => .bind (throw c _ _ _) fun _ => pure _

theorem performThrowException (scope : Scope) (on value : Expr) :
    Client k fun E : Engine L => performThrowException E scope on value := by
  refine onOperand scope on _ fun c => .bind (evaluate scope value) fun v => ?_
  cases v with
  | exception e => exact .bind (throwException c e) fun _ => pure _
  | _ => exact .badOperand _

theorem performClose (scope : Scope) (on : Expr) :
    Client k fun E : Engine L => performClose E scope on :=
  onOperand scope on _ fun c => .bind (close c) fun _ => pure _

theorem performStep (scope : Scope) (on : Expr) :
    Client k fun E : Engine L => performStep E scope on :=
  onOperand scope on _ fun c => .bind (send c _) fun _ => pure _

theorem nextElement (c : CoroutineId) : Client k fun E : Engine L => nextElement E c := by
  refine .bind (send c .none) fun r => ?_
  cases r with
  | ok v => exact pure _
  | error e =>
    dsimp only
    split
    · exact .bind (releaseException e) fun _ => pure _
    · exact pure _

theorem elementData (r : Option Reply) : Client k fun E : Engine L => elementData E r := by
  cases r with
  | none => exact pure _
  | some r =>
    refine .bind (quiet (pictureOf_quiet _)) fun _ => .bind (releaseReply r) fun _ => ?_
    cases r with
    | ok v => exact pure _
    | error e => exact pure _

theorem elements (c : CoroutineId) (n : Nat) : Client k fun E : Engine L => elements E c n := by
  induction n with
  | zero => exact pure _
  | succ n ih =>
    exact .bind (nextElement c) fun _ => .bind (elementData _) fun _ => .bind ih fun _ => pure _

theorem performIterate (scope : Scope) (on : Expr) (steps : Nat) :
    Client k fun E : Engine L => performIterate E scope on steps :=
  onOperand scope on _ fun c => .bind (elements c steps) fun _ => pure _

theorem performGet (scope : Scope) (on : Expr) (name : String) :
    Client k fun E : Engine L => performGet E scope on name :=
  onOperand scope on _ fun c => .bind (quiet (getAttribute_quiet c name)) fun _ => pure _

theorem assignName (label : String) (value : Value) {set : Text → Effect L Unit}
    (hs : ∀ t, Quiet (set t)) : Client k fun E : Engine L => assignName E label value set := by
  cases value with
  | str text => exact .bind (quiet (hs text)) fun _ => pure _
  | _ => exact .refuse _ _

theorem setName (c : CoroutineId) (value : Value) :
    Client k fun E : Engine L => setName E c value :=
  assignName _ _ fun _ => modifyCoroutine_quiet c fun _ => ⟨rfl, Nat.le_refl _, id⟩

theorem setQualname (c : CoroutineId) (value : Value) :
    Client k fun E : Engine L => setQualname E c value :=
  assignName _ _ fun _ => modifyCoroutine_quiet c fun _ => ⟨rfl, Nat.le_refl _, id⟩

theorem setAttribute (c : CoroutineId) (name : String) (value : Value) :
    Client k fun E : Engine L => setAttribute E c name value := by
  unfold CoroutineEngine.setAttribute
  cases writeError? name with
  | none =>
    dsimp only
    split
    · exact setName c value
    · exact setQualname c value
  | some err =>
    exact .bind (still (makeError_still _ _)) fun _ => .bind (owning _ (release _)) fun _ => pure _

theorem performWrite (scope : Scope) (on value : Expr)
    {write : CoroutineId → Value → Procedure L (Except Exception Unit)}
    (hw : ∀ c v, Client k (write c v)) :
    Client k fun E : Engine L => performWrite E scope on value fun c v => write c v E :=
  onOperand scope on _ fun c => .bind (evaluate scope value) fun v => .bind (hw c v) fun _ => pure _

theorem performDowngrade (scope : Scope) (on : Expr) (weak : String) :
    Client k fun E : Engine L => performDowngrade E scope on weak :=
  onOperand scope on _ fun _ => .bind (still (.plain (fun _ => rfl) fun _ _ _ => rfl)) fun _ =>
    .bind (gets _) fun _ => pure _

theorem performUpgrade (weak : String) : Client k fun _ : Engine L => performUpgrade weak := by
  refine .bind (gets _) fun c => ?_
  cases c with
  | none => exact pure _
  | some c =>
    refine .bind (gets _) fun alive => ?_
    cases alive with
    | true => exact .bind (.retain _) fun _ => pure _
    | false => exact pure _

theorem performIsAlive (weak : String) : Client k fun _ : Engine L => performIsAlive weak := by
  refine .bind (gets _) fun c => ?_
  cases c with
  | none => exact pure _
  | some c => exact .bind (gets _) fun _ => pure _

end Client

end CoroutineEngine
