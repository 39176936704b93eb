import CoroutineEngine.Coroutine.Body
import CoroutineEngine.Proofs.Atoms

/-!
# What requests are composed of

A request on a coroutine changes the record of that coroutine alone; it runs the coroutine's body, and
otherwise it releases handles, reports errors and does quiet things. The same holds of finalization and
teardown.

Results:
* `Request.send`, `Request.throwPending`, `Request.close`: requests.
* `Holder.releaseCoroutine`: the release of a handle of a coroutine.
* `Release.releaseHandle`: the release of any handle comes down to releases of coroutines.
-/

namespace CoroutineEngine

variable {L : Language} {α β : Type}

/-! ## Definitions -/

/-- What the handles of a coroutine decide over its life. -/
structure Tenure where
  handles : Nat
  finalized : Bool
  finalizations : Nat
  farewells : Nat
  teardowns : Nat
  collapses : Nat

/-- The tenure of a coroutine. -/
def CoroutineRecord.tenure (r : CoroutineRecord L) : Tenure :=
  ⟨r.handles, r.finalized, r.history.finalizations, r.history.farewells, r.history.teardowns,
    r.history.collapses⟩

/-- A computation that changes at most the record of one coroutine, and forgets no visit to it. -/
def Held (c : CoroutineId) (x : Effect L α) : Prop :=
  ∀ w, ∃ f, (x w).2 = w.modifyCoroutine c f ∧
    (w.coroutine c).history.visits ≤ (f (w.coroutine c)).history.visits

/-- A computation that changes at most the record of one coroutine, and decides nothing over its life. -/
def Owned (c : CoroutineId) (x : Effect L α) : Prop :=
  ∀ w, ∃ f, (x w).2 = w.modifyCoroutine c f ∧
    (w.coroutine c).history.visits ≤ (f (w.coroutine c)).history.visits ∧
    (f (w.coroutine c)).tenure = (w.coroutine c).tenure

/-- What requests on a coroutine `c` are composed of; without a coroutine, what reporting is composed
of. -/
inductive RequestAtom (c : Option CoroutineId) : ∀ {α : Type}, Procedure L α → Prop
  | quiet {α : Type} {x : Effect L α} : Quiet x → RequestAtom c fun _ => x
  | release (v : Value) : RequestAtom c fun E => E.release v
  | report (object : String) (e : Exception) : RequestAtom c fun E => writeUnraisable E object e
  | own {α : Type} (i : CoroutineId) {x : Effect L α} : c = some i → Owned i x →
      RequestAtom c fun _ => x
  | run (k : Option Context) (a : Activation L) (t : Transfer) :
      (∀ x, k = some x → c = some x.coroutine) → RequestAtom c fun E => E.run k a t

/-- A procedure that serves a request on a coroutine. -/
abbrev Request (c : Option CoroutineId) (x : Procedure L α) : Prop := Composed (RequestAtom c) x

/-- What finalization and teardown of a coroutine are composed of: they also decide over its life, and
withdraw it from the registry. -/
inductive HolderAtom (c : CoroutineId) : ∀ {α : Type}, Procedure L α → Prop
  | request {α : Type} {x : Procedure L α} : RequestAtom (some c) x → HolderAtom c x
  | held {α : Type} {x : Effect L α} : Held c x → HolderAtom c fun _ => x
  | withdraw : HolderAtom c fun _ => untrackObject (.coroutine c)

/-- A procedure of those who hold a coroutine. -/
abbrev Holder (c : CoroutineId) (x : Procedure L α) : Prop := Composed (HolderAtom c) x

/-- Atoms among which are the changes of the record of a coroutine `c`. -/
class OwnAtoms (Atom : ∀ {α : Type}, Procedure L α → Prop) (c : outParam CoroutineId) : Prop
    extends BasicAtoms Atom where
  own {α : Type} {x : Effect L α} : Owned c x → Blind x → Atom fun _ => x

/-- Atoms among which is moreover the withdrawal of the coroutine from the registry. -/
class WithdrawingAtoms (Atom : ∀ {α : Type}, Procedure L α → Prop) (c : outParam CoroutineId) : Prop
    extends OwnAtoms Atom c where
  withdraw : Atom fun _ => untrackObject (.coroutine c)

/-- Atoms of which moreover the switches into the coroutine are composed. -/
class SwitchAtoms (Atom : ∀ {α : Type}, Procedure L α → Prop) (c : outParam CoroutineId) : Prop
    extends OwnAtoms Atom c where
  switchInto (code : Code) (frame : Frame) (fiber : Fiber L) (t : Transfer) :
    Composed Atom fun E => switchInto E c code frame fiber t

/-- What the release of a handle is composed of. -/
inductive ReleaseAtom : ∀ {α : Type}, Procedure L α → Prop
  | discreet {α : Type} {x : Effect L α} : Discreet x → ReleaseAtom fun _ => x
  | release (v : Value) : ReleaseAtom fun E => E.release v
  | coroutine (c : CoroutineId) : ReleaseAtom fun E => releaseCoroutine E c

/-! ## Helpers -/

instance {c : Option CoroutineId} : QuietAtoms (L := L) (RequestAtom c) where
  discreet hx := .quiet hx.quiet
  quiet := .quiet
  release := .release

instance {c : CoroutineId} : OwnAtoms (L := L) (RequestAtom (some c)) c where
  own hx _ := .own c rfl hx

instance {c : CoroutineId} : QuietAtoms (L := L) (HolderAtom c) where
  discreet hx := .request (.quiet hx.quiet)
  quiet hx := .request (.quiet hx)
  release v := .request (.release v)

instance {c : CoroutineId} : WithdrawingAtoms (L := L) (HolderAtom c) c where
  own hx _ := .request (.own c rfl hx)
  withdraw := .withdraw

instance : BasicAtoms (L := L) ReleaseAtom where
  discreet := .discreet
  release := .release

/-- What is composed of atoms of one kind is composed of those of a wider kind. -/
theorem Composed.mono {Atom Atom' : ∀ {α : Type}, Procedure L α → Prop}
    (h : ∀ {α : Type} {x : Procedure L α}, Atom x → Atom' x) {x : Procedure L α}
    (hx : Composed Atom x) : Composed Atom' x := by
  induction hx with
  | atom hx => exact .atom (h hx)
  | bind _ _ hx hf => exact .bind hx hf
  | andFinally _ _ hx hc => exact .andFinally hx hc
  | onPanic _ _ hx hc => exact .onPanic hx hc

theorem Composed.holder {c : CoroutineId} {x : Procedure L α} (hx : Request (some c) x) :
    Holder c x := hx.mono .request

theorem Owned.held {c : CoroutineId} {x : Effect L α} (hx : Owned c x) : Held c x := fun w =>
  let ⟨f, hf, hv, _⟩ := hx w
  ⟨f, hf, hv⟩

theorem updateCoroutine_held (c : CoroutineId) {f : CoroutineRecord L → α × CoroutineRecord L}
    (hf : ∀ r, r.history.visits ≤ (f r).2.history.visits) : Held c (updateCoroutine c f) :=
  fun w => ⟨fun _ => (f (w.coroutine c)).2, rfl, hf _⟩

theorem modifyCoroutine_held (c : CoroutineId) {f : CoroutineRecord L → CoroutineRecord L}
    (hf : ∀ r, r.history.visits ≤ (f r).history.visits) : Held c (modifyCoroutine c f) :=
  fun _ => ⟨f, rfl, hf _⟩

theorem updateCoroutine_owned (c : CoroutineId) {f : CoroutineRecord L → α × CoroutineRecord L}
    (hf : ∀ r, r.history.visits ≤ (f r).2.history.visits ∧ (f r).2.tenure = r.tenure) :
    Owned c (updateCoroutine c f) :=
  fun w => ⟨fun _ => (f (w.coroutine c)).2, rfl, hf _⟩

theorem modifyCoroutine_owned (c : CoroutineId) {f : CoroutineRecord L → CoroutineRecord L}
    (hf : ∀ r, r.history.visits ≤ (f r).history.visits ∧ (f r).tenure = r.tenure) :
    Owned c (modifyCoroutine c f) :=
  fun _ => ⟨f, rfl, hf _⟩

theorem updateCoroutine_blind (c : CoroutineId) (f : CoroutineRecord L → α × CoroutineRecord L) :
    Blind (updateCoroutine c f) := fun _ _ _ => rfl

theorem modifyCoroutine_blind (c : CoroutineId) (f : CoroutineRecord L → CoroutineRecord L) :
    Blind (modifyCoroutine c f) := fun _ _ _ => rfl

namespace Request

open Composed (quiet still pure reads release releaseAll releaseOption releaseException
  releaseException? releasePending? owning holding)

variable {c : CoroutineId}

section

variable {Atom : ∀ {α : Type}, Procedure L α → Prop} [OwnAtoms Atom c]

/-- A change of the record that is neither a visit nor decides anything over the coroutine's life. -/
theorem update {f : CoroutineRecord L → α × CoroutineRecord L}
    (hf : ∀ r, r.history.visits ≤ (f r).2.history.visits ∧ (f r).2.tenure = r.tenure) :
    Composed Atom fun _ : Engine L => updateCoroutine c f :=
  .atom (OwnAtoms.own (updateCoroutine_owned c hf) (updateCoroutine_blind c f))

theorem modify {f : CoroutineRecord L → CoroutineRecord L}
    (hf : ∀ r, r.history.visits ≤ (f r).history.visits ∧ (f r).tenure = r.tenure) :
    Composed Atom fun _ : Engine L => modifyCoroutine c f :=
  .atom (OwnAtoms.own (modifyCoroutine_owned c hf) (modifyCoroutine_blind c f))

theorem visit : Composed Atom fun _ : Engine L => modifyCoroutine c CoroutineRecord.noteVisit :=
  modify fun _ => ⟨Nat.le_succ _, rfl⟩

theorem record : Composed Atom fun _ : Engine L => recordOf c := reads fun _ _ _ => rfl

/-! ### The beginning and the end -/

theorem mapStack_still (size : Nat) : Still (mapStack size : Effect L (Option FiberError)) := by
  unfold mapStack
  split
  · exact panic_still _
  · exact .pure _
  · exact .bind (log_still _ _ _) fun _ => .pure _

theorem createFiber : Composed Atom fun _ : Engine L => createFiber c := by
  refine .bind (update fun _ => ⟨Nat.le_refl _, rfl⟩) fun supply => ?_
  split
  · exact .bind (modify fun _ => ⟨Nat.le_refl _, rfl⟩) fun _ => pure _
  · refine .bind (still (mapStack_still _)) fun failure => ?_
    cases failure with
    | some error => exact pure _
    | none => exact pure _

theorem materialize : Composed Atom fun _ : Engine L => materialize c := by
  refine .bind record fun r => .bind (still (makeFrame_still _)) fun _ =>
    .bind createFiber fun fiber => ?_
  cases fiber with
  | error e => exact .bind (still (logCoroutine_still _ _ _ _)) fun _ => pure _
  | ok fiber =>
    exact .bind (modify fun _ => ⟨Nat.le_refl _, rfl⟩) fun _ => .bind (still (logCoroutine_still _ _ _ _)) fun _ => pure _

theorem finish : Composed Atom fun E : Engine L => finish E c :=
  .bind (update fun _ => ⟨Nat.le_refl _, rfl⟩) fun _ => .bind (releaseAll _) fun _ => .bind (update fun _ => ⟨Nat.le_refl _, rfl⟩) fun _ =>
    .bind (releaseOption _) fun _ => .bind (update fun _ => ⟨Nat.le_refl _, rfl⟩) fun _ => .bind (releasePending? _) fun _ =>
      still (logCoroutine_still _ _ _ _)

end

/-! ### Fibers -/

theorem releaseFiber {Atom : ∀ {α : Type}, Procedure L α → Prop} [BasicAtoms Atom] (f : Fiber L) :
    Composed Atom fun E => releaseFiber E f := by
  unfold CoroutineEngine.releaseFiber
  cases f.stack with
  | released => exact pure _
  | fresh => exact still (log_still _ _ _)
  | completed => exact still (log_still _ _ _)
  | suspended a => exact .bind (still (log_still _ _ _)) fun _ => releaseAll _

theorem discardFiber (f : Fiber L) : Request (some c) fun E => discardFiber E c f :=
  .bind (modify fun _ => ⟨Nat.le_refl _, rfl⟩) fun _ => releaseFiber f

theorem approachLoss {k : Option CoroutineId} (f : Fiber L) :
    Request k fun E => approachLoss E f := by
  unfold CoroutineEngine.approachLoss
  split
  · exact pure _
  · exact .bind (releaseFiber f) fun _ => pure _
  · exact pure _

/-- The body goes on, and what it finds and leaves is noted. -/
theorem continueBody (code : Code) (frame : Frame) (a : Activation L) (t : Transfer) :
    Request (some c) fun E => continueBody E ⟨c, code, frame⟩ a t := by
  refine .bind (.atom (.own c rfl fun w => ⟨_, rfl, Nat.le_refl _, rfl⟩)) fun _ =>
    .bind (.atom (.run _ a t ?_)) fun _ =>
      .bind (.atom (.own c rfl fun w => ⟨_, rfl, Nat.le_refl _, rfl⟩)) fun _ => pure _
  rintro x hx
  rw [← Option.some.inj hx]

theorem enterFiber (code : Code) (frame : Frame) (f : Fiber L) (t : Transfer) :
    Request (some c) fun E => enterFiber E ⟨c, code, frame⟩ f t := by
  unfold CoroutineEngine.enterFiber
  cases f.stack with
  | released => exact .bind (releaseAll _) fun _ => pure _
  | completed => exact .bind (releaseAll _) fun _ => pure _
  | suspended a => exact .bind (continueBody _ _ _ _) fun _ => pure _
  | fresh =>
    dsimp only
    cases t.exception with
    | some p =>
      exact .bind (still (instantiate_still _)) fun _ => .bind (owning _ (release _)) fun _ => pure _
    | none =>
      refine .bind (reads fun _ _ _ => rfl) fun program => ?_
      cases program with
      | none => exact .bind (release _) fun _ => pure _
      | some program =>
        exact .bind (modify fun _ => ⟨Nat.le_refl _, rfl⟩) fun _ =>
          .bind (continueBody _ _ _ _) fun _ => pure _

/-! ### Switches -/

theorem enterSwitch (frame : Frame) : Request (some c) fun _ : Engine L => enterSwitch c frame :=
  .bind (quiet (swapTop_quiet _)) fun _ => .bind (still (swapBack_still _ _)) fun _ =>
    .bind (update fun _ => ⟨Nat.le_refl _, rfl⟩) fun _ => .bind (quiet fetchError_quiet) fun _ =>
      .bind (quiet (swapHandled_quiet _)) fun _ => .bind (modify fun _ => ⟨Nat.le_refl _, rfl⟩) fun _ =>
        .bind (still (logCoroutine_still _ _ _ _)) fun _ => pure _

theorem discardStray {k : Option CoroutineId} : Request k fun E : Engine L => discardStray E := by
  refine .bind (quiet fetchError_quiet) fun stray => ?_
  cases stray with
  | none => exact pure _
  | some stray => exact .bind (still (log_still _ _ _)) fun _ => releasePending? _

theorem restoreDriver (frame : Frame) (driver : DriverState) :
    Request (some c) fun E : Engine L => restoreDriver E c frame driver :=
  .bind (modify fun _ => ⟨Nat.le_refl _, rfl⟩) fun _ => .bind (owning _ discardStray) fun _ =>
    .bind (quiet (swapError_quiet _)) fun _ => .bind (owning _ (releasePending? _)) fun _ =>
      .bind (quiet (swapHandled_quiet _)) fun _ => .bind (update fun _ => ⟨Nat.le_refl _, rfl⟩) fun _ =>
        .bind (releaseException? _) fun _ => .bind (still (swapBack_still _ _)) fun _ =>
          .bind (quiet (swapTop_quiet _)) fun _ => pure _

theorem leaveSwitch (frame : Frame) (driver : DriverState) (panicked : Bool) :
    Request (some c) fun E : Engine L => leaveSwitch E c frame driver panicked := by
  refine .bind (restoreDriver _ _) fun _ => ?_
  cases panicked with
  | true => exact .bind (still (logCoroutine_still _ _ _ _)) fun _ => finish
  | false => exact pure _

theorem switchInto (code : Code) (frame : Frame) (fiber : Fiber L) (t : Transfer) :
    Request (some c) fun E => switchInto E c code frame fiber t :=
  .bind (enterSwitch frame) fun driver =>
    .bind
      (.onPanic
        (.bind (approachLoss fiber) fun fiber => .bind (enterFiber code frame fiber t) fun _ => pure _)
        (.bind (leaveSwitch frame driver true) fun _ => discardFiber _))
      fun _ =>
        .bind (.onPanic (leaveSwitch frame driver false)
          (.bind (releaseAll _) fun _ => discardFiber _)) fun _ => pure _

instance : SwitchAtoms (L := L) (RequestAtom (some c)) c where
  switchInto := switchInto

/-! ### Requests -/

section

variable {Atom : ∀ {α : Type}, Procedure L α → Prop}

theorem surface [BasicAtoms Atom] (code : Code) (frame : Frame) (r : Reply) :
    Composed Atom fun _ : Engine L => surface code frame r := by
  cases r with
  | ok v => exact .bind (still (makeStopIteration_still _)) fun _ => pure _
  | error e =>
    refine .bind (still (pushTraceback_still _ _)) fun _ => ?_
    split
    · exact .bind (still (raise_still _)) fun _ => .bind (.retain _) fun _ =>
        .bind (still (attachCause_still _ _)) fun _ => .bind (still (attachContext_still _ _))
          fun _ => pure _
    · exact pure _

variable [SwitchAtoms Atom c]

theorem resume (t : Transfer) : Composed Atom fun E : Engine L => resume E c t := by
  refine .bind record fun r => ?_
  cases r.frame with
  | none => exact .bind (modify fun _ => ⟨Nat.le_refl _, rfl⟩) fun _ => .refuse _ _
  | some frame =>
    cases r.fiber with
    | none => exact .bind (modify fun _ => ⟨Nat.le_refl _, rfl⟩) fun _ => .refuse _ _
    | some fiber =>
      refine .bind (modify fun _ => ⟨Nat.le_refl _, rfl⟩) fun _ => .bind (SwitchAtoms.switchInto _ _ _ _) fun p => .bind (modify fun _ => ⟨Nat.le_refl _, rfl⟩) fun _ => ?_
      rcases p with ⟨_ | _ | _, fiber⟩
      · exact .bind (still (logCoroutine_still _ _ _ _)) fun _ => .bind (modify fun _ => ⟨Nat.le_refl _, rfl⟩) fun _ =>
          .bind finish fun _ => .bind (still (raise_still _)) fun _ => pure _
      · exact pure _
      · exact .bind (owning _ finish) fun _ => surface _ _ _

theorem resumeWith (v : Value) : Composed Atom fun E : Engine L => resumeWith E c v := by
  refine .bind (update fun _ => ⟨Nat.le_refl _, rfl⟩) fun p => ?_
  cases p with
  | none => exact resume _
  | some p => exact .bind (owning _ (release _)) fun _ => resume _

/-- What a send does when it is let in. -/
theorem admitted (fresh : Prop) [Decidable fresh] (v : Value) :
    Composed Atom fun E : Engine L => (do
      match ← (if fresh then CoroutineEngine.materialize c else Pure.pure none) with
      | some error => CoroutineEngine.refuse E (.allocation error) [v]
      | none => CoroutineEngine.resumeWith E c v : Effect L Reply) := by
  refine .bind ?_ fun failure => ?_
  · split
    · exact materialize
    · exact pure _
  · cases failure with
    | some error => exact .refuse _ _
    | none => exact resumeWith v

theorem send (v : Value) : Composed Atom fun E : Engine L => send E c v := by
  refine .bind record fun r => ?_
  split
  · exact .refuse _ _
  · split
    · exact .bind (still (makeStopIteration_still _)) fun _ => .bind (owning _ (release _)) fun _ =>
        pure _
    · split
      · exact .refuse _ _
      · exact .bind visit fun _ => admitted _ v

theorem throwPending (p : PendingException) :
    Composed Atom fun E : Engine L => throwPending E c p := by
  refine .bind record fun r => ?_
  split
  · exact .refuse _ _
  · split
    · exact .bind (still (instantiate_still _)) fun _ => pure _
    · exact .bind (update fun _ => ⟨Nat.le_refl _, rfl⟩) fun _ => .bind (releasePending? _) fun _ =>
        .bind (send _) fun _ => .bind (update fun _ => ⟨Nat.le_refl _, rfl⟩) fun _ =>
          .bind (owning _ (releasePending? _)) fun _ => pure _

theorem close : Composed Atom fun E : Engine L => close E c := by
  refine .bind record fun r => ?_
  split
  · exact pure _
  · refine .bind (throwPending _) fun reply => ?_
    cases reply with
    | ok v => exact .refuse _ _
    | error e =>
      dsimp only
      split
      · exact .bind (releaseException _) fun _ => pure _
      · exact pure _

end

/-! ### Finalization -/

/-- What a close on behalf of a releaser does when it is noted. -/
theorem unraisable : Request (some c) fun E : Engine L => (do
    let saved ← fetchError
    E.owning ((saved.map (·.owned)).getD []) do
      match ← CoroutineEngine.close E c with
      | .ok v => E.release v
      | .error e => writeUnraisable E (← .gets (·.coroutineRepr c)) e
    E.releasePending? (← swapError saved) : Effect L Unit) := by
  refine .bind (quiet fetchError_quiet) fun saved => .bind (owning _ (.bind close fun reply => ?_))
    fun _ => .bind (quiet (swapError_quiet _)) fun _ => releasePending? _
  cases reply with
  | ok v => exact release _
  | error e => exact .bind (Composed.gets _) fun _ => .atom (.report _ e)

variable {Atom : ∀ {α : Type}, Procedure L α → Prop}

theorem releaseFiber? [BasicAtoms Atom] (f : Option (Fiber L)) :
    Composed Atom fun E => f.elim (Pure.pure ()) (CoroutineEngine.releaseFiber E) := by
  cases f with
  | none => exact pure ()
  | some f => exact releaseFiber f

theorem releaseRemains [OwnAtoms Atom c] : Composed Atom fun E : Engine L => releaseRemains E c :=
  .bind (update fun _ => ⟨Nat.le_refl _, rfl⟩) fun _ => .andFinally (releaseFiber? _) (releaseAll _)

theorem relinquish [WithdrawingAtoms Atom c] : Composed Atom fun E : Engine L => relinquish E c :=
  .bind (update fun _ => ⟨Nat.le_refl _, rfl⟩) fun _ => .bind (releaseAll _) fun _ =>
    .bind (update fun _ => ⟨Nat.le_refl _, rfl⟩) fun _ => .bind (releaseAll _) fun _ =>
      .bind (update fun _ => ⟨Nat.le_refl _, rfl⟩) fun _ => .bind (releaseFiber? _) fun _ =>
        .bind (.atom WithdrawingAtoms.withdraw) fun _ => still (logCoroutine_still _ _ _ _)

end Request

namespace Holder

open Composed (quiet still pure gets releasePending? owning)

variable {c : CoroutineId}

/-- A change of the record. -/
theorem update {f : CoroutineRecord L → α × CoroutineRecord L}
    (hf : ∀ r, r.history.visits ≤ (f r).2.history.visits) :
    Holder c fun _ : Engine L => updateCoroutine c f := .atom (.held (updateCoroutine_held c hf))

theorem modify {f : CoroutineRecord L → CoroutineRecord L}
    (hf : ∀ r, r.history.visits ≤ (f r).history.visits) :
    Holder c fun _ : Engine L => modifyCoroutine c f := .atom (.held (modifyCoroutine_held c hf))

theorem record : Holder c fun _ : Engine L => recordOf c := gets _

theorem closeUnraisable : Holder c fun E : Engine L => closeUnraisable E c :=
  .bind (modify fun _ => Nat.le_refl _) fun _ => Request.unraisable.holder

/-- What a teardown does when it is noted. -/
theorem dissolved : Holder c fun E : Engine L =>
    Effect.andFinally
      (do
        let saved ← fetchError
        E.owning ((saved.map (·.owned)).getD []) do
          if (← recordOf c).isSuspended then
            modifyCoroutine c CoroutineRecord.noteFarewell
            CoroutineEngine.closeUnraisable E c
          CoroutineEngine.relinquish E c
        E.releasePending? (← swapError saved) : Effect L Unit)
      (CoroutineEngine.releaseRemains E c) := by
  refine .andFinally (.bind (quiet fetchError_quiet) fun saved =>
    .bind (owning _ (.bind record fun r => ?_)) fun _ =>
      .bind (quiet (swapError_quiet _)) fun _ => releasePending? _) Request.releaseRemains.holder
  split
  · exact .bind (modify fun _ => Nat.le_refl _) fun _ =>
      .bind closeUnraisable fun _ => Request.relinquish
  · exact Request.relinquish

theorem teardown : Holder c fun E : Engine L => teardown E c :=
  .bind (modify fun _ => Nat.le_add_right _ _) fun _ => dissolved

/-- What a finalization does when it is noted. -/
theorem finalized : Holder c fun E : Engine L => (do
    CoroutineEngine.closeUnraisable E c
    if 1 < (← recordOf c).handles then
      logCoroutine .debug "coroutine revived during finalization" c [] : Effect L Unit) := by
  refine .bind closeUnraisable fun _ => .bind record fun r => ?_
  split
  · exact still (logCoroutine_still _ _ _ _)
  · exact pure _

theorem finalize : Holder c fun E : Engine L => finalize E c := by
  refine .bind record fun r => ?_
  split
  · exact .bind (still (logCoroutine_still _ _ _ _)) fun _ =>
      .bind (modify fun _ => Nat.le_succ _) fun _ => finalized
  · exact pure _

theorem dropHandle : Holder c fun E : Engine L => dropHandle E c := by
  refine .bind (update fun _ => Nat.le_refl _) fun left => ?_
  split
  · exact .onPanic teardown (modify fun _ => Nat.le_refl _)
  · exact pure _

/-- The release of a handle of a coroutine. -/
theorem releaseCoroutine : Holder c fun E : Engine L => releaseCoroutine E c :=
  .andFinally finalize dropHandle

end Holder

namespace Release

open Composed (quiet still pure release releaseAll releaseOption)

/-- The release of any handle comes down to the release of what the object owns, and of coroutines. -/
theorem releaseHandle (v : Value) :
    Composed (@ReleaseAtom L) fun E => CoroutineEngine.releaseHandle E v := by
  cases v with
  | tuple identity items =>
    refine .bind (still (.plain (fun _ => rfl) fun _ _ _ => rfl)) fun left => ?_
    split
    · exact releaseAll _
    · exact pure _
  | exception e =>
    refine .bind (still ⟨fun _ => rfl, fun _ => rfl,
      fun w => .modifyException w e ⟨rfl, fun _ => rfl, fun _ => rfl⟩, fun _ _ _ => rfl⟩) fun p => ?_
    dsimp only
    split
    · exact releaseAll _
    · exact pure _
  | cell c =>
    refine .bind (still (.plain (fun _ => rfl) fun _ _ _ => rfl)) fun p => ?_
    dsimp only
    split
    · exact releaseOption _
    · exact pure _
  | wrapper x =>
    refine .bind (still (leaveWrapper_still x)) fun p => ?_
    dsimp only
    split
    · exact .atom (.coroutine _)
    · exact pure _
  | coroutine c => exact .atom (.coroutine c)
  | _ => exact pure _

end Release

end CoroutineEngine
