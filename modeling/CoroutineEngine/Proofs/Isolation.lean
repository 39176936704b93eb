import CoroutineEngine.Proofs.Restoration
import CoroutineEngine.Proofs.Twins

/-!
# Bodies and the errors of their drivers

A body finds an empty error slot and what it was left with, whatever its driver has set and handles. So
two runs that differ in nothing else go on alike.

Results:
* `Impartial.switchInto`: a switch ends alike, and so does every request.
* `Impartial.releaseHandle`: so does the release of a handle, unless a finalizer panics.
* `bodies_isolated`: bodies find what they were left with, and cannot tell apart what their drivers handle.
-/

namespace CoroutineEngine

variable {L : Language} {α β : Type}

/-! ## Definitions -/

/-- From a world, a computation neither looks at what is handled nor changes it. -/
def Disregards (x : Effect L α) (w : World L) : Prop :=
  ∀ handled, x (w.withErrors w.ambient.error handled) =
    ((x w).1, (x w).2.withErrors (x w).2.ambient.error handled)

/-- A computation that is cut where it panics. -/
def Effect.cutAtPanic (x : Effect L α) : Effect L α := fun w =>
  match x w with
  | (.panic _, w') => (.stop, w')
  | ending => ending

open Classical in
/-- A computation that is cut unless it disregards what is handled. -/
noncomputable def Effect.cutIfNosy (x : Effect L α) : Effect L α := fun w =>
  if Disregards x w then x w else (.stop, w)

/-- The engine as it serves a driver: on the driver's side the run is cut where a finalizer panics, and
where a hook looks at what is handled or changes it. Bodies run as they are. -/
noncomputable def Engine.serving (L : Language) : Nat → Engine L
  | 0 => .halted
  | n + 1 =>
    { release v := (releaseHandle (Engine.serving L n) v).cutAtPanic
      run
        | none, a, t => ((Engine.ofDepth L (n + 1)).run none a t).cutIfNosy
        | some k, a, t => (Engine.ofDepth L (n + 1)).run (some k) a t }

/-- The errors that a driver has: the one that is set, and the one that it handles. -/
structure DriverErrors where
  error : Option PendingException
  handled : Option Exception

/-- What a driver does on its own account: requests, releases, and whatever has nothing to do with the
ambient state. -/
inductive ActAtom : ∀ {α : Type}, Procedure L α → Prop
  | discreet {α : Type} {x : Effect L α} : Discreet x → ActAtom fun _ => x
  | release (v : Value) : ActAtom fun E => E.release v
  | request {c : CoroutineId} {x : Procedure L Reply} : DriverRequest c x → ActAtom x

/-- A turn of a driver: what it does, and two possible states of its errors before. -/
structure Turn (L : Language) (α : Type) where
  errors : DriverErrors
  otherwise : DriverErrors
  act : Procedure L α
  acts : Composed ActAtom act

/-- A driver takes one turn after the other, each with certain errors; panics are caught. -/
def drive (errors : Turn L α → DriverErrors) (E : Engine L) :
    List (Turn L α) → Effect L (List (Except String α))
  | [] => pure []
  | turn :: rest => do
    .modify fun w => w.withErrors (errors turn).error (errors turn).handled
    let result ← (turn.act E).catching
    let results ← drive errors E rest
    return result :: results

/-- Bodies are isolated from the errors of their drivers.

* `unsurprised`: as long as hooks leave alone what is handled, no body was ever resumed with an error in
  the slot, or with another exception handled than when it was switched out.
* `unswayed`: two runs that differ in nothing but the driver's errors at each turn have the same results,
  and get to worlds that differ in nothing else: in all that bodies have read, said, stored and keep, they
  are the same. -/
structure Isolated (L : Language) : Prop where
  unsurprised : ∀ {clock : Nat} {v : World L}, Moment { civil := true } (World.fresh clock) v →
    ∀ i, (v.coroutine i).history.surprises = 0
  unswayed : ∀ {clock : Nat} {v : World L}, Moment {} (World.fresh clock) v →
    ∀ {α : Type} (turns : List (Turn L α)) (n : Nat),
      (drive (·.errors) (.serving L n) turns v).1 ≠ .stop →
      ∃ results u error handled,
        drive (·.errors) (.ofDepth L n) turns v = (.ok results, u) ∧
        drive (·.otherwise) (.ofDepth L n) turns v = (.ok results, u.withErrors error handled)

/-- What happens on the driver's side of a coroutine, switches apart. -/
inductive LocalAtom (c : CoroutineId) : ∀ {α : Type}, Procedure L α → Prop
  | discreet {α : Type} {x : Effect L α} : Discreet x → LocalAtom c fun _ => x
  | own {α : Type} {x : Effect L α} : Owned c x → Blind x → LocalAtom c fun _ => x
  | release (v : Value) : LocalAtom c fun E => E.release v
  | withdraw : LocalAtom c fun _ => untrackObject (.coroutine c)

/-- What the requests of a driver are composed of, as far as its errors matter. -/
inductive ServiceAtom (c : CoroutineId) : ∀ {α : Type}, Procedure L α → Prop
  | onSide {α : Type} {x : Procedure L α} : LocalAtom c x → ServiceAtom c x
  | switchInto (code : Code) (frame : Frame) (fiber : Fiber L) (t : Transfer) :
      ServiceAtom c fun E => switchInto E c code frame fiber t

/-- An engine on which releases end alike whatever error is set and whatever is handled, and on which the
programs of hooks disregard what is handled. No release panics. -/
structure Impartial (E : Engine L) : Prop where
  release : ∀ e h v, Unswayed True e h (E.release v)
  hook : ∀ h a t, Unswayed False True h (E.run none a t)
  courteous : Courteous True false E

/-- What two drivers have left differs at most where their worlds do. -/
structure DriverState.Beside (e h : Prop) (d d' : DriverState) : Prop where
  caller : d'.caller = d.caller
  error : e → d'.error = d.error
  handled : h → d'.handled = d.handled

/-! ## Helpers -/

instance {c : CoroutineId} : WithdrawingAtoms (L := L) (LocalAtom c) c where
  discreet := .discreet
  release := .release
  own := .own
  withdraw := .withdraw

instance {c : CoroutineId} : SwitchAtoms (L := L) (ServiceAtom c) c where
  discreet hx := .onSide (.discreet hx)
  release v := .onSide (.release v)
  own hx hb := .onSide (.own hx hb)
  switchInto code frame fiber t := .atom (.switchInto code frame fiber t)

/-- What the driver leaves depends on the errors, and what the body finds does not. -/
theorem enterSwitch_apply (c : CoroutineId) (frame : Frame) {w : World L} (hw : w.Orderly)
    (error : Option PendingException) (handled : Option Exception) :
    enterSwitch c frame (w.withErrors error handled) =
      (.ok ⟨w.ambient.top, error, handled⟩, (enterSwitch c frame w).2) := by
  have hb := hw.borrowed
  simp only [enterSwitch, swapTop, fetchError, swapHandled, withAmbient, Effect.bind_apply,
    World.withErrors, hb, Bool.false_eq_true, if_false, swapBack, Effect.modifyGet, updateCoroutine]
  rfl

/-- Whatever the drivers have left, the bodies find the same world. -/
theorem enterSwitch_twins {e h : Prop} {R : World L → World L → Prop} {w w' : World L}
    (c : CoroutineId) (frame : Frame) (hw : Beside e h w w') :
    Twins True (fun d v d' v' => v = v' ∧ v.Orderly ∧ d.Beside e h d') R
      (enterSwitch c frame) (enterSwitch c frame) w w' := by
  obtain ⟨error, handled, rfl⟩ := hw.exists_errors
  have hx := enterSwitch_apply c frame hw.orderly w.ambient.error w.ambient.handled
  have ho := ((Courteous.enterSwitch c frame hw.orderly).ok hx).1
  refine ⟨?_⟩
  rw [enterSwitch_apply c frame hw.orderly, show enterSwitch c frame w = _ from hx]
  exact ⟨_, _, rfl, rfl, ho, rfl, hw.error, hw.handled⟩

namespace Impartial

variable {E : Engine L} {firm e h : Prop} {w w' : World L}

/-- What happens on the driver's side ends alike. -/
theorem onSide (hE : Impartial E) {c : CoroutineId} {x : Procedure L α}
    (hx : Composed (LocalAtom c) x) : Unswayed firm e h (x E) := by
  refine Composed.unswayed (fun hx => ?_) hx
  cases hx with
  | discreet hx => exact hx.unswayed
  | own hx hb => exact hx.held.aloof.unswayed hb
  | release v => exact (hE.release e h v).mono fun _ => trivial
  | withdraw =>
    have hmild := untrackObject_mild (L := L) (.coroutine c)
    exact hmild.aloof.unswayed hmild.blind

theorem releaseAll (hE : Impartial E) (vs : List Value) : Unswayed firm e h (E.releaseAll vs) :=
  hE.onSide (c := default) (.releaseAll vs)

/-! ### Switches -/

/-- The errors of two drivers are put back beside each other, whatever the body has left. -/
theorem restoreDriver (hE : Impartial E) (c : CoroutineId) (frame : Frame) {d d' : DriverState}
    (hd : d.Beside e h d') (hw : w.Orderly) :
    Twins True (fun _ v _ v' => Beside e h v v') (Beside e h)
      (restoreDriver E c frame d) (restoreDriver E c frame d') w w := by
  have hc := hE.courteous
  have calm (vs : List Value) {v : World L} (hv : v.Orderly) := hc.releaseAll vs v hv
  have discarded {v : World L} (hv : v.Orderly) :
      Twins True (fun _ u _ u' => u = u' ∧ u.Orderly) (Beside e h) (E.owning d.owned (discardStray E))
        (E.owning d'.owned (discardStray E)) v v := by
    have hstray := hc.discardStray v hv
    exact .unguarded (.one hstray (fun _ _ hu => ⟨rfl, hu.1⟩) fun _ hu => (hu.1 trivial).elim) hstray
      hstray (fun _ hu => hu.1 trivial) fun _ hu => hu.1 trivial
  have freed (displaced : Option PendingException) {v v' : World L} (hv : Beside e True v v') :
      Twins True (fun _ u _ u' => Beside e True u u') (Beside e h)
        (E.owning (d.handled.toList.map .exception) (E.releasePending? displaced))
        (E.owning (d'.handled.toList.map .exception) (E.releasePending? displaced)) v v' := by
    refine .unguarded ((hE.releaseAll _ v v' hv).mono id (fun _ _ _ _ hu => hu.2) fun _ _ hu => ?_)
      (calm _ hv.orderly) (calm _ hv.other) (fun _ hu => hu.1 trivial) fun _ hu => hu.1 trivial
    exact hu.mono id fun _ => trivial
  refine .then_one (Q := ⟨fun _ v => v.Orderly, fun _ => False, fun _ => False⟩)
    ⟨⟨hw.borrowed, hw.hook⟩⟩ (fun _ h => h) fun _ v hv => ?_
  refine .bind (discarded hv) ?_
  rintro _ v₁ _ _ ⟨rfl, hv₁⟩
  refine .bind (swapError_twins (.refl (h := True) hv₁) hd.error) ?_
  rintro _ v₂ _ v₂' ⟨rfl, hv₂⟩
  refine .bind (freed _ hv₂) fun _ v₃ _ v₃' hv₃ => ?_
  refine .bind (swapHandled_twins hv₃ hd.handled) ?_
  rintro _ v₄ _ v₄' ⟨rfl, hv₄⟩
  rw [hd.caller]
  refine (Unswayed.bind (updateCoroutine_unswayed c _) fun previous =>
    .bind (hE.releaseAll _) fun _ => .bind (swapBack_still _ _).unswayed fun _ =>
      .bind (swapTop_unswayed _) fun _ => (Still.pure ()).unswayed) v₄ v₄' hv₄ |>.mono id ?_
        fun _ _ h => h
  exact fun _ _ _ _ hu => hu.2

/-- A switch is left alike. -/
theorem leaveSwitch (hE : Impartial E) (c : CoroutineId) (frame : Frame) {d d' : DriverState}
    (hd : d.Beside e h d') (panicked : Bool) (hw : w.Orderly) :
    Twins True (Same e h) (Beside e h) (leaveSwitch E c frame d panicked)
      (leaveSwitch E c frame d' panicked) w w := by
  refine .bind (hE.restoreDriver c frame hd hw) fun _ v _ v' hv => ?_
  cases panicked with
  | false => exact .pure ⟨rfl, hv⟩
  | true =>
    exact (Unswayed.bind (logCoroutine_still _ _ _ _).unswayed
      fun _ => hE.onSide Request.finish) v v' hv

/-- What goes on inside a switch is the same, since the bodies find the same world; and the switch is
entered and left alike. -/
theorem switchInto (hE : Impartial E) (c : CoroutineId) (code : Code) (frame : Frame)
    (fiber : Fiber L) (t : Transfer) : Unswayed True e h (switchInto E c code frame fiber t) := by
  intro w w' hw
  refine .bind (enterSwitch_twins c frame hw) ?_
  rintro driver v driver' _ ⟨rfl, hv, hd⟩
  have hinside : Request (some c) fun E : Engine L => do
      let fiber ← approachLoss E fiber
      let outcome ← enterFiber E ⟨c, code, frame⟩ fiber t
      return (outcome, fiber.after outcome) :=
    .bind (Request.approachLoss fiber) fun fiber =>
      .bind (Request.enterFiber code frame fiber t) fun _ => .pure _
  have inside := hE.courteous.request hinside v hv
  have freed (fiber : Fiber L) : Unswayed True e h (discardFiber E c fiber) :=
    .bind (modifyCoroutine_unswayed c _) fun _ => hE.onSide (c := c) (Request.releaseFiber fiber)
  have attempt : Twins True (fun a v b v' => a = b ∧ v = v' ∧ v.Orderly)
      (fun v v' => v = v' ∧ v.Orderly) _ _ v v :=
    .one inside (fun _ _ hu => ⟨rfl, rfl, hu.1⟩) fun _ hu => ⟨rfl, hu.2.1⟩
  refine .bind (.onPanic attempt ?_) ?_
  · rintro _ u _ ⟨rfl, hu⟩
    refine .bind ((hE.leaveSwitch c frame hd true hu).mono id (fun _ _ _ _ h => h) fun _ _ _ => trivial)
      ?_
    rintro _ x _ x' ⟨-, hx⟩
    exact (freed fiber.afterPanic).cleanup hx
  · rintro ⟨outcome, fiber⟩ u _ _ ⟨rfl, rfl, hu⟩
    have left := hE.leaveSwitch c frame hd false hu
    refine .bind (.onPanic left fun _ x x' hx => ?_) ?_
    · exact ((hE.releaseAll _).bind fun _ => freed fiber).cleanup hx
    · rintro _ x _ x' ⟨-, hx⟩
      exact .pure ⟨rfl, hx⟩

/-- What the requests of a driver are composed of ends alike. -/
theorem service (hE : Impartial E) {c : CoroutineId} {x : Procedure L α}
    (hx : Composed (ServiceAtom c) x) : Unswayed firm e h (x E) := by
  refine Composed.unswayed (fun hx => ?_) hx
  cases hx with
  | onSide hx => exact hE.onSide (.atom hx)
  | switchInto code frame fiber t => exact (hE.switchInto c code frame fiber t).mono fun _ => trivial

/-! ### Reports -/

theorem runHook (hE : Impartial E) (hook : Hook L) (object : String) (ex : Exception) :
    Unswayed False True h (runHook E hook object ex) := by
  refine .bind errorOccurred_unswayed fun _ =>
    .bind (rendered_discreet (exceptionText_unbiased ex)).unswayed fun _ =>
      .bind (rendered_discreet (reportDebug_unbiased object ex)).unswayed fun _ =>
        .bind (emit_still _).unswayed fun _ => .bind (retain_discreet _).unswayed fun _ =>
          .bind (hE.hook h _ _) fun exit => ?_
  rcases exit with ⟨v, a⟩ | v | e
  · exact hE.releaseAll _
  · exact (hE.release _ _ _).mono fun _ => trivial
  · exact (hE.release _ _ _).mono fun _ => trivial

theorem logIgnored (object : String) (ex : Exception) :
    Unswayed firm e h (logIgnored object ex : Effect L Unit) := by
  refine .bind (Still.reads fun _ _ _ => rfl).unswayed fun warn => ?_
  split
  · exact .bind (rendered_discreet (exceptionText_unbiased ex)).unswayed fun _ =>
      (log_still _ _ _).unswayed
  · exact (Still.pure _).unswayed

/-- A report ends alike where the same error is set. -/
theorem report (hE : Impartial E) (object : String) (ex : Exception) :
    Unswayed False True h (writeUnraisable E object ex) := by
  refine .andFinally (fun w w' hw => ?_) ((hE.release _ _ _).mono fun _ => trivial)
  have taken : Unswayed False True h (takeHook : Effect L (Option (Hook L))) :=
    withAmbient_unswayed (fun _ _ _ => rfl) fun _ hv => ⟨hv.borrowed, nofun⟩
  refine .bind ((taken w w' hw).also (.of_ok (Q := .promise fun hook _ => hook = w.ambient.hook)
    (withAmbient_ok hw.orderly) rfl)) ?_
  rintro hook v _ v' ⟨⟨rfl, hv⟩, hhook⟩
  cases hook with
  | none => exact logIgnored object ex v v' hv
  | some hook =>
    have howned := hw.orderly.hook hook hhook.symm
    refine .bind (((hE.runHook hook object ex).onPanic False.elim) v v' hv) ?_
    rintro _ u _ u' ⟨-, hu⟩
    refine .of_ok (restoreHook_apply E howned hu.orderly) (restoreHook_apply E howned hu.other)
      ⟨rfl, ?_⟩
    obtain ⟨_, _, rfl⟩ := hu.exists_errors
    refine hu.step ⟨hu.orderly.borrowed, fun k hk => ?_⟩ rfl rfl rfl
    rw [← Option.some.inj hk]
    cases hk' : u.ambient.hook with
    | none => exact howned
    | some other => exact hu.orderly.hook other hk'

/-! ### Releases -/

/-- What happens while the error is put aside happens where no error is set. -/
theorem aside (hE : Impartial E) {x : Effect L Unit} (hx : Unswayed False True h x) :
    Unswayed False e h
      (do
        let saved ← fetchError
        E.owning ((saved.map (·.owned)).getD []) x
        E.releasePending? (← swapError saved)) := by
  intro w w' hw
  refine .bind (fetchError_twins hw) ?_
  rintro saved v saved' v' ⟨hsaved, hv⟩
  refine .bind (.onPanic (hx v v' hv) False.elim) ?_
  rintro _ u _ u' ⟨-, hu⟩
  refine .bind (swapError_twins hu hsaved) ?_
  rintro displaced x _ x' ⟨rfl, hx⟩
  exact hE.releaseAll _ x x' hx

theorem closeUnraisable (hE : Impartial E) (c : CoroutineId) :
    Unswayed False e h (closeUnraisable E c) := by
  refine .bind (modifyCoroutine_unswayed c _) fun _ =>
    hE.aside (.bind (hE.service Request.close) fun reply => ?_)
  cases reply with
  | ok v => exact (hE.release _ _ _).mono fun _ => trivial
  | error ex => exact .bind (Still.reads fun _ _ _ => rfl).unswayed fun _ => hE.report _ ex

theorem teardown (hE : Impartial E) (c : CoroutineId) : Unswayed False e h (teardown E c) := by
  refine .bind (modifyCoroutine_unswayed c _) fun _ => .andFinally
    (hE.aside (.bind (Still.reads fun _ _ _ => rfl).unswayed fun r => ?_))
    (hE.onSide Request.releaseRemains)
  split
  · exact .bind (modifyCoroutine_unswayed c _) fun _ =>
      (hE.closeUnraisable c).bind fun _ => hE.onSide Request.relinquish
  · exact hE.onSide Request.relinquish

theorem finalize (hE : Impartial E) (c : CoroutineId) : Unswayed False e h (finalize E c) := by
  refine .bind (Still.reads fun _ _ _ => rfl).unswayed fun r => ?_
  split
  · refine .bind (logCoroutine_still _ _ _ _).unswayed fun _ =>
      .bind (modifyCoroutine_unswayed c _) fun _ => .bind (hE.closeUnraisable c) fun _ =>
        .bind (Still.reads fun _ _ _ => rfl).unswayed fun r => ?_
    split
    · exact (logCoroutine_still _ _ _ _).unswayed
    · exact (Still.pure _).unswayed
  · exact (Still.pure _).unswayed

/-- The release of a handle ends alike, unless a finalizer panics. -/
theorem releaseHandle (hE : Impartial E) (v : Value) : Unswayed False e h (releaseHandle E v) := by
  have coroutine (c : CoroutineId) : Unswayed False e h (releaseCoroutine E c) := by
    refine .andFinally (hE.finalize c) (.bind (updateCoroutine_unswayed c _) fun left => ?_)
    split
    · exact (hE.teardown c).onPanic fun _ => modifyCoroutine_unswayed c _
    · exact (Still.pure _).unswayed
  refine Composed.unswayed (fun hx => ?_) (Release.releaseHandle v)
  cases hx with
  | discreet hx => exact hx.unswayed
  | release v => exact (hE.release e h v).mono fun _ => trivial
  | coroutine c => exact coroutine c

end Impartial

/-! ## Engines -/

namespace Disregards

variable {x : Effect L α} {w : World L}

theorem handled (hx : Disregards x w) : (x w).2.ambient.handled = w.ambient.handled :=
  congrArg (fun r => r.2.ambient.handled) (hx w.ambient.handled)

/-- It does so as well if another exception is handled. -/
theorem other (hx : Disregards x w) (handled : Option Exception) :
    Disregards x (w.withErrors w.ambient.error handled) := by
  intro handled'
  rw [hx handled]
  exact hx handled'

theorem unswayed {firm h : Prop} (hx : Disregards x w) (ho : (x w).2.Orderly) {w' : World L}
    (hw : Beside True h w w') : Twins firm (Same True h) (Beside True h) x x w w' := by
  obtain ⟨error, handled, rfl⟩ := hw.exists_errors
  obtain rfl : error = w.ambient.error := hw.error trivial
  have hh := hx.handled
  have beside : Beside True h (x w).2
      ((x w).2.withErrors (x w).2.ambient.error handled) :=
    ⟨ho, rfl, fun _ => rfl, fun h => (hw.handled h).trans hh.symm⟩
  refine ⟨?_⟩
  rw [hx handled]
  rcases hr : x w with ⟨a | m | _, v⟩ <;> rw [hr] at beside
  · exact ⟨a, _, rfl, rfl, beside⟩
  · exact fun _ => ⟨_, rfl, beside⟩
  · exact trivial

end Disregards

theorem impartial_halted : Impartial (.halted : Engine L) := by
  refine ⟨fun e h v w w' hw => ?_, fun _ _ _ _ _ _ => ⟨trivial⟩, courteous_halted⟩
  show Twins True _ _ (if v.isNone then pure () else .stop) (if v.isNone then pure () else .stop) w w'
  split
  · exact .pure ⟨rfl, hw⟩
  · exact ⟨trivial⟩

section

variable {firm : Prop} {S : α → World L → α → World L → Prop} {R : World L → World L → Prop}
  {x x' : Effect L α} {w w' : World L}

theorem Twins.cutAtPanic (hx : Twins False S R x x' w w') :
    Twins firm S R x.cutAtPanic x'.cutAtPanic w w' := by
  refine ⟨?_⟩
  have h := hx.alike
  rcases hw : x w with ⟨a | m | _, v⟩ <;> rw [hw] at h <;> simp only [Effect.cutAtPanic, hw]
  · obtain ⟨b, v', hv', hs⟩ := h
    exact ⟨b, v', by rw [hv'], hs⟩
  · exact trivial
  · exact trivial

theorem Meets.cutAtPanic {Q : Post L α} (hx : Meets x w ⟨Q.ok, Q.stop, Q.stop⟩) :
    Meets x.cutAtPanic w Q := by
  refine ⟨?_⟩
  have h := hx.holds
  rcases hw : x w with ⟨a | m | _, v⟩ <;> rw [hw] at h <;> simp only [Effect.cutAtPanic, hw] <;>
    exact h

theorem Meets.cutIfNosy {Q : Post L α} (hx : Disregards x w → Meets x w Q) (hstop : Q.stop w) :
    Meets x.cutIfNosy w Q := by
  refine ⟨?_⟩
  unfold Effect.cutIfNosy
  split
  · rename_i h
    exact (hx h).holds
  · exact hstop

theorem Effect.extends_cutAtPanic (x : Effect L α) : x.Extends x.cutAtPanic := by
  intro w hw
  rcases hx : x w with ⟨a | m | _, v⟩ <;> simp_all [Effect.cutAtPanic]

theorem Effect.extends_cutIfNosy (x : Effect L α) : x.Extends x.cutIfNosy := by
  intro w hw
  unfold Effect.cutIfNosy at hw ⊢
  split
  · rfl
  · rename_i h
    rw [if_neg h] at hw
    exact absurd rfl hw

end

theorem restoring_at {s : Prop} {part : Ambient L → β} {x : Effect L α} {w : World L}
    (ho : (x w).2.Orderly) (hpart : part (x w).2.ambient = part w.ambient) :
    Meets x w ((restoring True s part).post w) := by
  refine ⟨?_⟩
  rcases hv : x w with ⟨_ | _ | _, v⟩ <;> rw [hv] at ho hpart
  · exact ⟨ho, hpart⟩
  · exact ⟨trivial, ho, fun _ => hpart⟩
  · exact trivial

theorem Twins.cutIfNosy {firm h : Prop} {x : Effect L α} {w w' : World L} (hx : (x w).2.Orderly)
    (hw : Beside True h w w') :
    Twins firm (Same True h) (Beside True h) x.cutIfNosy x.cutIfNosy w w' := by
  obtain ⟨error, handled, rfl⟩ := hw.exists_errors
  obtain rfl : error = w.ambient.error := hw.error trivial
  refine ⟨?_⟩
  unfold Effect.cutIfNosy
  by_cases hd : Disregards x w
  · rw [if_pos hd, if_pos (hd.other handled)]
    exact (hd.unswayed hx hw).alike
  · rw [if_neg hd]
    exact trivial

/-- Engines of any depth serve their drivers alike, whatever error is set and whatever is handled. -/
theorem impartial_serving (n : Nat) : Impartial (.serving L n) := by
  induction n with
  | zero => exact impartial_halted
  | succ n ih =>
    have ends (k : Option Context) (a : Activation L) (t : Transfer) {w : World L} (hw : w.Orderly) :
        ((Engine.ofDepth L (n + 1)).run k a t w).2.Orderly := by
      have h := ((onward_universal.ofDepth (n + 1)).run k a t w hw).holds
      rcases hr : (Engine.ofDepth L (n + 1)).run k a t w with ⟨a | m | _, v⟩ <;> rw [hr] at h <;>
        exact h.1
    have hook (a : Activation L) (t : Transfer) :
        (restoring True True (Ambient.scene false)).Kept ((Engine.serving L (n + 1)).run none a t) := by
      refine fun w hw => .cutIfNosy (fun hd => ?_) trivial
      exact restoring_at (ends none a t hw) (Prod.ext hd.handled rfl)
    constructor
    · exact fun e h v w w' hw => (ih.releaseHandle v w w' hw).cutAtPanic
    · exact fun h a t w w' hw => .cutIfNosy (ends none a t hw.orderly) hw
    · constructor
      · intro v w hw
        exact .cutAtPanic ((ih.courteous.releaseHandle v w hw).mono (fun _ _ h => h)
          (fun _ _ => trivial) fun _ h => h)
      · intro k a t
        cases k with
        | none => exact (hook a t).usable
        | some k => exact restoring_of fun w hw => ⟨ends (some k) a t hw, rfl⟩
      · exact hook

/-- A run that is not cut on the driver's side is the run of the engine. -/
theorem ofDepth_extends_serving (n : Nat) : (Engine.ofDepth L n).Extends (.serving L n) := by
  induction n with
  | zero => exact ⟨fun _ => .refl _, fun _ _ _ => .refl _⟩
  | succ n ih =>
    constructor
    · intro v w hw
      have hnext : (releaseHandle (.ofDepth L n) v).Extends (releaseHandle (.serving L n) v) :=
        (ih.next n).release v
      have hcut := Effect.extends_cutAtPanic (releaseHandle (.serving L n) v) w hw
      exact (hnext w (by rw [hcut]; exact hw)).trans hcut
    · intro k a t
      cases k with
      | none => exact Effect.extends_cutIfNosy _
      | some k => exact .refl _

/-! ## Drivers -/

theorem Effect.Extends.catching {x x' : Effect L α} (hx : x'.Extends x) :
    x'.catching.Extends x.catching := by
  intro w hw
  simp only [Effect.catching] at hw ⊢
  rcases h : x w with ⟨a | m | _, v⟩ <;> rw [h] at hw
  · rw [hx w (by simp [h]), h]
  · rw [hx w (by simp [h]), h]
  · exact absurd rfl hw

theorem DriverRequest.service {c : CoroutineId} {x : Procedure L Reply} (hx : DriverRequest c x) :
    Composed (ServiceAtom c) x := by
  cases hx with
  | send v => exact Request.send v
  | throw kind value traceback =>
    refine .holding _ (.holding _ (.bind (Client.normalizeThrow _ _ _) fun p => ?_))
    cases p with
    | error e => exact .pure _
    | ok p => exact Request.throwPending p
  | throwException e => exact .bind (.still (pendingOf_still _)) fun p => Request.throwPending p
  | close => exact Request.close

/-- What a driver does on its own account ends alike. -/
theorem Impartial.acts {E : Engine L} (hE : Impartial E) {e h : Prop} {x : Procedure L α}
    (hx : Composed ActAtom x) : Unswayed True e h (x E) := by
  refine Composed.unswayed (fun hx => ?_) hx
  cases hx with
  | discreet hx => exact hx.unswayed
  | release v => exact hE.release e h v
  | request hx => exact hE.service hx.service

theorem acts_extends {E E' : Engine L} (hE : E'.Extends E) {x : Procedure L α}
    (hx : Composed ActAtom x) : (x E').Extends (x E) := by
  refine Composed.extends (fun hx => ?_) hx
  cases hx with
  | discreet _ => exact .refl _
  | release v => exact hE.release v
  | request hx => exact (hx.client (k := none)).extends hE

theorem drive_extends {E E' : Engine L} (hE : E'.Extends E) (errors : Turn L α → DriverErrors)
    (turns : List (Turn L α)) : (drive errors E' turns).Extends (drive errors E turns) := by
  induction turns with
  | nil => exact .refl _
  | cons turn rest ih =>
    exact .bind (.refl _) fun _ => .bind (acts_extends hE turn.acts).catching fun _ =>
      .bind ih fun _ => .refl _

/-- Two runs of a driver that differ in nothing but its errors at each turn have the same results. -/
theorem Impartial.drive {E : Engine L} (hE : Impartial E) (turns : List (Turn L α)) {w w' : World L}
    (hw : Beside False False w w') :
    Twins True (Same False False) (fun _ _ => False) (drive (·.errors) E turns)
      (drive (·.otherwise) E turns) w w' := by
  induction turns generalizing w w' with
  | nil => exact .pure ⟨rfl, hw⟩
  | cons turn rest ih =>
    let set (errors : DriverErrors) (w : World L) : World L := w.withErrors errors.error errors.handled
    have begun : Beside False False (set turn.errors w) (set turn.otherwise w') := by
      obtain ⟨_, _, rfl⟩ := hw.exists_errors
      exact ⟨⟨hw.orderly.borrowed, hw.orderly.hook⟩, rfl, False.elim, False.elim⟩
    refine .bind (.of_ok (S := fun _ v _ v' => Beside False False v v') rfl rfl begun) fun _ v _ v' hv => ?_
    refine .bind (hE.acts turn.acts v v' hv).catching ?_
    rintro result u _ u' ⟨rfl, hu⟩
    refine .bind (ih hu) ?_
    rintro results x _ x' ⟨rfl, hx⟩
    exact .pure ⟨rfl, hx⟩

/-! ## Isolation -/

/-- Bodies find what they were left with, and cannot tell apart which error is set and which exception is
handled on the driver's side. -/
theorem bodies_isolated (L : Language) : Isolated L where
  unsurprised hv i :=
    (hv.keeps (World.fresh_lawful (Watch.terms _ i) i _)).lawful.sound.surprises rfl
  unswayed {clock v} hv α turns n hover := by
    have ho : v.Orderly :=
      (hv.keeps (World.fresh_lawful (Watch.terms _ default) default clock)).lawful.orderly
    have h := ((impartial_serving n).drive turns (.refl ho)).alike
    have same (errors : Turn L α → DriverErrors)
        (hover : (drive errors (.serving L n) turns v).1 ≠ .stop) :=
      drive_extends (ofDepth_extends_serving n) errors turns v hover
    rcases hr : drive (·.errors) (.serving L n) turns v with ⟨results | m | _, u⟩ <;>
      rw [hr] at h hover
    · obtain ⟨_, u', hu', rfl, hu⟩ := h
      refine ⟨results, u, u'.ambient.error, u'.ambient.handled, ?_, ?_⟩
      · rw [same _ (by rw [hr]; exact hover), hr]
      · rw [same _ (by rw [hu']; exact nofun), hu', ← hu.differ]
    · exact (h trivial).elim fun _ h => h.2.elim
    · exact absurd rfl hover

section

open Script (Block)

/-- Tells what it finds handled, before and while it handles an exception itself. -/
def curious : Block :=
  [.yield .handled none,
    .attempt [.raise (.builtinClass "TypeError") .none] [.mk none none true [.yield .handled none]] []]

/-- A driver with two exceptions at hand, and a curious body. -/
def meetCurious (E : Engine Script.language) : Effect Script.language Answered := do
  let _ ← perform E .outer (.setSlot "error" (.exception (.builtinClass "ValueError") []))
  let _ ← perform E .outer (.setSlot "handled" (.exception (.builtinClass "RuntimeError") []))
  perform E .outer (.makeCoroutine (coroutineOf "curious" curious))

/-- The world in which it makes its requests. -/
def beforeCurious : World Script.language := (meetCurious (.watched _ {} 40) (World.fresh 1000)).2

/-- A turn in which it sends nothing, with both exceptions or with none of them. -/
def ask : Turn Script.language Reply where
  errors := ⟨some ⟨.valueError, some ⟨0, .valueError⟩, none⟩, some ⟨1, .runtimeError⟩⟩
  otherwise := ⟨none, none⟩
  act E := send E ⟨0⟩ .none
  acts := .atom (.request (.send .none))

theorem bodies_isolated_curious :
    (drive (·.errors) (.serving _ 40) [ask, ask] beforeCurious).1 ≠ .stop ∧
      ∃ results u error handled,
        drive (·.errors) (.ofDepth _ 40) [ask, ask] beforeCurious = (.ok results, u) ∧
        drive (·.otherwise) (.ofDepth _ 40) [ask, ask] beforeCurious =
          (.ok results, u.withErrors error handled) := by
  have hover : (drive (·.errors) (.serving _ 40) [ask, ask] beforeCurious).1 ≠ .stop := by
    decide +kernel
  have hmoment : Moment {} (World.fresh 1000) beforeCurious :=
    .of (x := meetCurious) 40 .refl (.bind (Client.perform .outer _) fun _ =>
      .bind (Client.perform .outer _) fun _ => Client.perform .outer _)
  exact ⟨hover, (bodies_isolated _).unswayed hmoment [ask, ask] 40 hover⟩

end

end CoroutineEngine
