import CoroutineEngine.Client.Language
import CoroutineEngine.Proofs.Likeness.Pairing

/-!
# Bodies that keep to themselves

A private expression names only what a body has: its locals, its inputs, itself, what it handles, what can be reached
from there, and the slots within its reach; no frame but its own. A private command is one with private operands and
private programs. It does whatever a client can do, but for what tells of other frames and of counts of handles. What
concerns a whole thread is within the reach of some bodies only: the hook, the settings, new classes, and fibers.
-/

namespace CoroutineEngine

/-! ## Definitions -/

/-- What bodies may use besides what they have: some of the slots and of the weak references, and the thread. -/
structure Reach where
  slots : String → Bool
  weaks : String → Bool
  thread : Bool

/-- Bodies use nothing but what they have. -/
def Reach.own : Reach := ⟨fun _ => false, fun _ => false, false⟩

section

variable (R : Reach)

mutual

/-- Names only what is within reach. -/
def Expr.isPrivate : Expr → Bool
  | .slot name => R.slots name
  | .topFrame => false
  | .tuple items => Expr.arePrivate items
  | .exception cls args => cls.isPrivate && Expr.arePrivate args
  | .stopIteration e | .cell e | .nest _ e | .display e | .not e => e.isPrivate
  | .property e name => e.isPrivate && name != "back"
  | .add a b | .joined a b | .equal a b | .identical a b | .less a b | .isInstance a b => a.isPrivate && b.isPrivate
  | .none | .bool _ | .int _ | .str _ | .localVar _ | .float _ | .builtinClass _ | .generatorExit | .traceback _
  | .emptyCell | .repeated .. | .range _ | .handled | .parameter _ | .closureCell _ | .self | .ownFrame | .ownCode =>
    true

/-- Name only what is within reach. -/
def Expr.arePrivate : List Expr → Bool
  | [] => true
  | e :: es => e.isPrivate && Expr.arePrivate es

end

/-- The three operands of a triple are private. -/
def TripleSpec.isPrivate (t : TripleSpec) : Bool := t.kind.isPrivate R && t.value.isPrivate R && t.traceback.isPrivate R

variable {S : Type} (safe : S → Prop)

/-- A code that is made on the spot runs a safe program, one that is given is given by a private expression. -/
def CodeSource.IsPrivate : CodeSource S → Prop
  | .spec code => safe code.body
  | .value e => e.isPrivate R

/-- Builds a coroutine with a safe program from what is within reach. -/
structure CoroutineSpec.IsPrivate (spec : CoroutineSpec S) : Prop where
  code : spec.code.IsPrivate R safe
  parameters : Expr.arePrivate R spec.parameters
  closure : Expr.arePrivate R spec.closure

/-- Has to do with what is within reach, and does not tell of other frames and of counts of handles. -/
def Operation.IsPrivate : Operation S → Prop
  | .makeCode spec => safe spec.body
  | .makeCoroutine spec => spec.IsPrivate R safe
  | .makeFrame code | .pushFrame code => code.IsPrivate R safe
  | .throw on triple => on.isPrivate R && triple.isPrivate R
  | .send on e | .throwException on e | .setAttribute on _ e | .setName on e | .setQualname on e | .setCause on e
  | .setContext on e | .setTraceback on e | .pushTraceback on e | .setCell on e | .sameCell on e | .setFrameLine on e
  | .compare on e | .compareClasses on e => on.isPrivate R && e.isPrivate R
  | .close e | .step e | .wrap e | .iterate e _ | .getAttribute e _ | .evaluate e | .say e | .describe e | .clearCell e
  | .setError e | .setHandled e | .enterHandler e | .leaveHandler e | .writeUnraisable _ e => e.isPrivate R
  | .normalize triple | .makePending triple | .makeTransfer triple | .restoreError triple => triple.isPrivate R
  | .tryInputs parameters closure _ => Expr.arePrivate R parameters && Expr.arePrivate R closure
  | .setSlot name e => R.slots name && e.isPrivate R
  | .dropSlot name => R.slots name
  | .downgrade on name => on.isPrivate R && R.weaks name
  | .upgrade name | .isAlive name => R.weaks name
  | .defineClass _ e => R.thread && e.isPrivate R
  | .installHook _ | .activate .. | .makeFiber .. | .switchFiber .. | .releaseFiber _ | .inspectFiber _ => R.thread
  | .fetchError | .currentError | .track _ | .untrack _ | .isTracked _ | .registryStats | .setLine _ => True
  | .handleCount _ | .inspect _ | .setFrameBack .. | .popFrame | .setTopFrame _ | .listFrames => False

/-- Has private operands. -/
def Command.IsPrivate : Command S → Prop
  | .yield e _ | .await e _ | .test e | .caught e | .hold e => e.isPrivate R
  | .perform op _ => op.IsPrivate R safe
  | .raise e arg => e.isPrivate R && arg.isPrivate R
  | .discard _ | .bind _ | .enter | .leave _ | .pass | .finish | .fail | .panic _ => True

end

/-- Answers that differ in paired numbers at most. -/
inductive Answer.Like (ρ : Pairing) : Answer → Answer → Prop
  | start : Like ρ .start .start
  | value {v v' : Value} (h : v.Like ρ v') : Like ρ (.value v) (.value v')
  | done : Like ρ .done .done
  | truth (b : Bool) : Like ρ (.truth b) (.truth b)
  | raised {e e' : Exception} (h : e.Like ρ e') : Like ρ (.raised e) (.raised e')

/-- Control states from which a body issues private commands only, whatever it is answered; and it goes by what an
answer is, not by which number an object has. The programs of hooks that it installs are such, too. -/
structure Privacy (L : Language) where
  reach : Reach
  safe : L.State → Prop
  command : ∀ {s : L.State}, safe s → ∀ a, (L.next s a).1.IsPrivate reach fun p => safe (L.start p)
  next : ∀ {s : L.State}, safe s → ∀ a, safe (L.next s a).2
  indifferent : ∀ {s : L.State}, safe s → ∀ {ρ : Pairing} {a a' : Answer}, a.Like ρ a' → L.next s a' = L.next s a
  reaction : reach.thread → ∀ mode, safe (L.start (L.reaction mode))

end CoroutineEngine
