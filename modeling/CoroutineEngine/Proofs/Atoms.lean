import CoroutineEngine.Proofs.Laws
import CoroutineEngine.Proofs.Objects

/-!
# Quiet computations and releases as atoms

Whatever else a procedure is composed of, it contains quiet computations, and it releases handles. Some
procedures are told of in terms of the ambient state; the quiet computations in them leave it alone.

Results:
* `Composed.releaseAll`, `Composed.owning`, `Composed.holding`: the ways in which procedures give up
  handles.
* `Composed.refuse`, `Composed.badOperand`: refused requests.
-/

namespace CoroutineEngine

variable {L : Language} {α β : Type}

/-! ## Definitions -/

/-- Atoms among which are the quiet computations that leave the ambient state alone, and the release of a
handle. -/
class BasicAtoms (Atom : ∀ {α : Type}, Procedure L α → Prop) : Prop where
  discreet {α : Type} {x : Effect L α} : Discreet x → Atom fun _ => x
  release (v : Value) : Atom fun E => E.release v

/-- Atoms among which are all quiet computations, and the release of a handle. -/
class QuietAtoms (Atom : ∀ {α : Type}, Procedure L α → Prop) : Prop extends BasicAtoms Atom where
  quiet {α : Type} {x : Effect L α} : Quiet x → Atom fun _ => x

/-! ## Helpers -/

namespace Composed

variable {Atom : ∀ {α : Type}, Procedure L α → Prop} [BasicAtoms Atom]

theorem quiet {Atom : ∀ {α : Type}, Procedure L α → Prop} [QuietAtoms Atom] {x : Effect L α}
    (hx : Quiet x) : Composed Atom fun _ => x := .atom (QuietAtoms.quiet hx)

theorem gets {Atom : ∀ {α : Type}, Procedure L α → Prop} [QuietAtoms Atom] (f : World L → α) :
    Composed Atom fun _ => .gets f := quiet (.gets f)

theorem still {x : Effect L α} (hx : Still x) : Composed Atom fun _ => x :=
  .atom (BasicAtoms.discreet hx.discreet)

theorem retain (v : Value) : Composed Atom fun _ : Engine L => retain v :=
  .atom (BasicAtoms.discreet (retain_discreet v))

theorem retainAll (vs : List Value) : Composed Atom fun _ : Engine L => retainAll vs :=
  .atom (BasicAtoms.discreet (retainAll_discreet vs))

theorem pure (a : α) : Composed Atom fun _ : Engine L => (Pure.pure a : Effect L α) :=
  still (.pure a)

theorem reads {f : World L → α} (hf : Unbiased f) : Composed Atom fun _ => .gets f :=
  still (.reads hf)

theorem release (v : Value) : Composed Atom fun E => E.release v := .atom (BasicAtoms.release v)

theorem releaseAll (vs : List Value) : Composed Atom fun E => E.releaseAll vs := by
  induction vs with
  | nil => exact pure ()
  | cons v vs ih => exact .andFinally (release v) ih

theorem releaseOption (v : Option Value) : Composed Atom fun E => E.releaseOption v := releaseAll _

theorem releaseException (e : Exception) : Composed Atom fun E => E.releaseException e := release _

theorem releaseException? (e : Option Exception) : Composed Atom fun E => E.releaseException? e :=
  releaseAll _

theorem releasePending? (p : Option PendingException) : Composed Atom fun E => E.releasePending? p :=
  releaseAll _

theorem releaseReply (r : Reply) : Composed Atom fun E => E.releaseReply r := by
  cases r with
  | ok v => exact release v
  | error e => exact releaseException e

theorem owning (vs : List Value) {x : Procedure L α} (hx : Composed Atom x) :
    Composed Atom fun E => E.owning vs (x E) := .onPanic hx (releaseAll vs)

theorem holding (v : Value) {x : Procedure L α} (hx : Composed Atom x) :
    Composed Atom fun E => E.holding v (x E) := .andFinally hx (release v)

theorem refuse (error : CoroutineError) (vs : List Value) :
    Composed Atom fun E => (refuse E error vs : Effect L (Except Exception α)) :=
  .bind (still (raise_still _)) fun _ => .bind (owning _ (releaseAll _)) fun _ => pure _

theorem badOperand (vs : List Value) :
    Composed Atom fun E => (badOperand E vs : Effect L (Except Exception α)) :=
  .bind (still (makeError_still _ _)) fun _ => .bind (owning _ (releaseAll _)) fun _ => pure _

end Composed

end CoroutineEngine
