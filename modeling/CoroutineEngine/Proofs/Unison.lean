import CoroutineEngine.Proofs.Awaiting

/-!
# Requests on two engines

Two engines do the same for everybody as long as a coroutine shows what it awaits. This is shown for the
requests on the coroutine itself: they are refused while the fiber is out of its place, and otherwise they
take the fiber out, let the body go on, and put the fiber back.

Results:
* `Attuned.send`, `Attuned.throwPending`, `Attuned.close`: requests on the coroutine.
* `Attuned.releaseHandle`, `Attuned.client`: releases, and whatever another client does.
-/

namespace CoroutineEngine

variable {L : Language} {α β : Type}

/-! ## Definitions -/

/-- Two engines do the same where a coroutine is; where it is at rest, they do the same for its body also. -/
structure Attuned (strict : Prop) (i : CoroutineId) (m : Phase) (E E' : Engine L) : Prop
    extends Concord strict i m E E' where
  home : m = .resting → Unison strict i E E'

/-- A fiber waits for what is awaited, as long as its body can go on. -/
def Fiber.Agrees (f : Fiber L) (awaited : Option Value) : Prop := ∀ v, f.stack.awaited? = some v → v = awaited

/-! ## Helpers -/

variable {s may : Prop} {i : CoroutineId} {m : Phase} {w v u : World L} {E E' : Engine L}

theorem Unison.attuned (hE : Unison s i E E') (m : Phase) : Attuned s i m E E' := ⟨hE.concord m, fun _ => hE⟩

/-! ### Starting -/

/-- The law of a coroutine that is unused. -/
def unstarted (L : Language) (strict : Prop) (i : CoroutineId) : Law L :=
  about L True i (fun w => Found strict i .resting w ∧ (w.coroutine i).status = .unused)
    fun _ h => ⟨h.1.orderly, h.1.candid⟩

theorem unstarted_passes {x : Effect L α} (hx : ∀ w, Passes i w (x w).2) : (unstarted L s i).Kept x :=
  about_passes (fun h hv => ⟨h.1.passes hv, hv.unused h.2⟩) (fun _ _ => .inl trivial) hx

theorem unstarted_quiet {x : Effect L α} (hx : Quiet x) : (unstarted L s i).Kept x :=
  unstarted_passes fun w => .of_undisturbed (hx w).toUndisturbed

theorem unstarted_createFiber : (unstarted L s i).Kept (createFiber i) := by
  refine .bind (unstarted_passes fun w => .modified (f := fun _ => _) ⟨rfl, rfl, rfl, rfl, id⟩) fun supply => ?_
  split
  · exact .bind (unstarted_passes fun w => .modified ⟨rfl, rfl, rfl, rfl, id⟩) fun _ =>
      unstarted_quiet (.pure _)
  · refine .bind (unstarted_quiet (Request.mapStack_still _).quiet) fun failure => ?_
    cases failure with
    | some error => exact unstarted_quiet (.pure _)
    | none => exact unstarted_quiet (.pure _)

/-- The fiber that a coroutine gets is fresh. -/
theorem createFiber_fresh : Meets (createFiber i) w (.promise fun r _ => ∀ f : Fiber L, r = .ok f → f.stack = .fresh) := by
  refine .then_ok fun supply v _ => ?_
  split
  · exact .then_ok fun _ _ _ => .pure nofun
  · refine .then_ok fun failure _ _ => ?_
    cases failure with
    | some error => exact .pure nofun
    | none =>
      refine .pure fun f hf => ?_
      cases hf
      rfl

/-! ### Steps -/

namespace Accords

variable {x x' : Effect L α} {f f' : α → Effect L β} {P : β → World L → Prop} {Q : World L → Prop}

/-- After a computation that leaves the coroutine where it is. -/
theorem then_showing (hx : (showing L may s i m).Accord x x') (hv : Found s i m v) (ho : Outlasts i w v)
    (next : ∀ a u, Found s i m u → Outlasts i w u → Accords (f a) (f' a) u (Returns i w P Q))
    (panic : ∀ u, may → Found s i m u → Q u) : Accords (x >>= f) (x' >>= f') v (Returns i w P Q) :=
  .then_law hx hv (fun a u hu => next a u hu.1 (ho.trans hu.2))
    (fun u hu => ⟨panic u hu.1 hu.2.1, ho.trans hu.2.2⟩) fun _ hu => ⟨hu.1, ho.trans hu.2⟩

/-- A computation that leaves the coroutine where it is. -/
theorem of_showing {P : α → World L → Prop} (hx : (showing L may s i m).Accord x x')
    (hv : Found s i m v) (ho : Outlasts i w v) (ok : ∀ a u, Found s i m u → P a u)
    (panic : ∀ u, may → Found s i m u → Q u) : Accords x x' v (Returns i w P Q) :=
  (hx v hv).mono (fun a u hu => ⟨ok a u hu.1, ho.trans hu.2⟩)
    (fun u hu => ⟨panic u hu.1 hu.2.1, ho.trans hu.2.2⟩) fun _ hu => ⟨hu.1, ho.trans hu.2⟩

/-- What returns from a later world returns from an earlier one. -/
theorem since {P : α → World L → Prop} (h : Accords x x' v (Returns i v P Q)) (ho : Outlasts i w v) :
    Accords x x' v (Returns i w P Q) :=
  h.mono (fun _ _ hu => ⟨hu.1, ho.trans hu.2⟩) (fun _ hu => ⟨hu.1, ho.trans hu.2⟩)
    fun _ hu => ⟨hu.1, ho.trans hu.2⟩

theorem returns {P P' : α → World L → Prop} {Q' : World L → Prop}
    (h : Accords x x' v (Returns i w P' Q')) (ok : ∀ a u, P' a u → P a u) (panic : ∀ u, Q' u → Q u) :
    Accords x x' v (Returns i w P Q) :=
  h.mono (fun a u hu => ⟨ok a u hu.1, hu.2⟩) (fun u hu => ⟨panic u hu.1, hu.2⟩) fun _ hu => hu

theorem then_returns {P' : α → World L → Prop} {Q' : World L → Prop}
    (h : Accords x x' v (Returns i w P' Q'))
    (next : ∀ a u, P' a u → Outlasts i w u → Accords (f a) (f' a) u (Returns i w P Q))
    (panic : ∀ u, Q' u → Q u) : Accords (x >>= f) (x' >>= f') v (Returns i w P Q) :=
  .bind (h.mono (fun a u hu => next a u hu.1 hu.2) (fun u hu => ⟨panic u hu.1, hu.2⟩) fun _ hu => hu)

theorem of_returns (h : Accords x x' v (Returns i v (fun _ => Found s i m) (Found s i m))) :
    Accords x x' v ((showing L True s i m).post v) :=
  h.mono (fun _ _ h => h) (fun _ h => ⟨trivial, h⟩) fun _ h => h

/-- A cleanup after a panic. -/
theorem cleanup {c c' : Effect L Unit} {P Q : World L → Prop} (h : Accords c c' v (Returns i w (fun _ => P) Q))
    (hQ : ∀ u, Q u → (u.coroutine i).IsCandid) :
    Accords c c' v ⟨fun _ u => P u ∧ Outlasts i w u, fun u => (u.coroutine i).IsCandid ∧ Outlasts i w u,
      fun u => (u.coroutine i).IsCandid ∧ Outlasts i w u⟩ :=
  h.mono (fun _ _ hu => hu) (fun u hu => ⟨hQ u hu.1, hu.2⟩) fun _ hu => hu

theorem then_gets {γ : Type} {g : World L → γ} {f f' : γ → Effect L β} {Q : Post L β}
    (next : Accords (f (g w)) (f' (g w)) w Q) : Accords (.gets g >>= f) (.gets g >>= f') w Q :=
  .then_eq rfl next

/-- After a change of the record, the coroutine is where the changed record fits. -/
theorem then_update {γ : Type} {g : CoroutineRecord L → γ × CoroutineRecord L} {f f' : γ → Effect L β}
    {Q : Post L β} (m' : Phase) (hv : Found s i m v) (hi : v.Has i) (ho : Outlasts i w v)
    (hc : (g (v.coroutine i)).2.IsCandid) (hf : m'.Fits s (g (v.coroutine i)).2)
    (hh : (v.coroutine i).handles = 0 → (g (v.coroutine i)).2.handles = 0)
    (next : ∀ u, Found s i m' u → Outlasts i w u →
      Accords (f (g (v.coroutine i)).1) (f' (g (v.coroutine i)).1) u Q) :
    Accords (updateCoroutine i g >>= f) (updateCoroutine i g >>= f') v Q :=
  have hu := hv.modified (f := fun _ => (g (v.coroutine i)).2) hi hc hf hh
  .then_eq rfl (next _ hu.1 (ho.trans hu.2))

theorem then_modify {g : CoroutineRecord L → CoroutineRecord L} {f f' : Unit → Effect L β} {Q : Post L β}
    (m' : Phase) (hv : Found s i m v) (hi : v.Has i) (ho : Outlasts i w v)
    (hc : (g (v.coroutine i)).IsCandid) (hf : m'.Fits s (g (v.coroutine i)))
    (hh : (v.coroutine i).handles = 0 → (g (v.coroutine i)).handles = 0)
    (next : ∀ u, Found s i m' u → Outlasts i w u → Accords (f ()) (f' ()) u Q) :
    Accords (modifyCoroutine i g >>= f) (modifyCoroutine i g >>= f') v Q :=
  have hu := hv.modified hi hc hf hh
  .then_eq rfl (next _ hu.1 (ho.trans hu.2))

end Accords

/-! ### The way out -/

namespace Concord

variable {x : Procedure L α}

theorem plain (hE : Concord s i m E E') (hx : Request none x) :
    (showing L True s i m).Accord (x E) (x E') :=
  hE.request (c := none) (by simp) hx

theorem discardStray (hE : Concord s i m E E') :
    (showing L (¬ s) s i m).Accord (discardStray E) (discardStray E') := by
  refine .bind (.plain (showing_ambient fetchError_quiet)) fun stray => ?_
  cases stray with
  | none => exact .plain (showing_sure (.pure _))
  | some stray => exact .bind (.plain (showing_sure (log_sure _ _ _))) fun _ => hE.releaseAll _

/-- On the way back to the driver, only releases can panic. -/
theorem restoreDriver (hE : Concord s i m E E') (frame : Frame) (driver : DriverState) :
    (showing L (¬ s) s i m).Accord (restoreDriver E i frame driver) (restoreDriver E' i frame driver) := by
  refine .bind (.plain (showing_modify fun _ => ⟨rfl, rfl, rfl, rfl, id⟩)) fun _ => ?_
  refine .bind (.owning hE.release _ hE.discardStray) fun _ => ?_
  refine .bind (.plain (showing_ambient (swapError_quiet _))) fun _ => ?_
  refine .bind (.owning hE.release _ (hE.releaseAll _)) fun _ => ?_
  refine .bind (.plain (showing_ambient (swapHandled_quiet _))) fun _ => ?_
  refine .bind (.plain (showing_update fun _ => ⟨rfl, rfl, rfl, rfl, id⟩)) fun _ => ?_
  refine .bind (hE.releaseAll _) fun _ => ?_
  refine .bind (.plain (showing_sure (swapBack_sure _ _))) fun _ => ?_
  exact .bind (.plain (showing_ambient (swapTop_quiet _))) fun _ => .plain (showing_sure (.pure _))

/-- A body that did not panic is left without anything else being done. -/
theorem leaveSwitch (hE : Concord s i m E E') (frame : Frame) (driver : DriverState) :
    (showing L (¬ s) s i m).Accord (leaveSwitch E i frame driver false)
      (leaveSwitch E' i frame driver false) :=
  .bind (hE.restoreDriver frame driver) fun _ => .plain (showing_sure (.pure _))

theorem releaseFiber (hE : Concord s i m E E') (f : Fiber L) :
    (showing L True s i m).Accord (releaseFiber E f) (releaseFiber E' f) :=
  hE.plain (Request.releaseFiber f)

theorem discardFiber (hE : Concord s i m E E') (f : Fiber L) :
    (showing L True s i m).Accord (discardFiber E i f) (discardFiber E' i f) :=
  .bind (.plain (showing_modify fun _ => ⟨rfl, rfl, rfl, rfl, id⟩)) fun _ => hE.releaseFiber f

end Concord

namespace Unison

/-- A coroutine finishes: nothing is left that it awaits, unless a release panics. -/
theorem finish (hE : Unison s i E E') (hw : Found s i m v) (hi : v.Has i) (ho : Outlasts i w v) :
    Accords (finish E i) (finish E' i) v
      (Returns i w (fun _ => Found s i (.concluded True)) fun u => ¬ s ∧ Found s i .resting u) := by
  refine .then_update (.concluded False) hw hi ho (.of_finished rfl rfl) ⟨rfl, False.elim⟩ id fun v₁ h₁ ho₁ => ?_
  refine .then_showing ((hE.concord _).releaseAll _) h₁ ho₁ (fun _ v₂ h₂ ho₂ => ?_)
    fun u hs hu => ⟨hs, hu.lenient hs⟩
  refine .then_update (.concluded True) h₂ (World.has_of_started (by rw [h₂.fits.status]; decide)) ho₂
    (.of_finished h₂.fits.status (h₂.candid.finished h₂.fits.status)) ⟨h₂.fits.status, fun _ _ => rfl⟩ id
    fun v₃ h₃ ho₃ => ?_
  refine .then_showing ((hE.concord _).releaseAll _) h₃ ho₃ (fun _ v₄ h₄ ho₄ => ?_)
    fun u hs hu => ⟨hs, hu.lenient hs⟩
  refine .of_showing (?_ : (showing L (¬ s) s i _).Accord _ _) h₄ ho₄ (fun _ _ h => h)
    fun u hs hu => ⟨hs, hu.lenient hs⟩
  exact .bind (.plain (showing_update fun _ => ⟨rfl, rfl, rfl, rfl, id⟩)) fun _ =>
    .bind ((hE.concord _).releaseAll _) fun _ => .plain (showing_sure (logCoroutine_sure _ _ _ _))

/-- The same while handles are owned. -/
theorem finishOwning (hE : Unison s i E E') (hw : Found s i m v) (hi : v.Has i) (ho : Outlasts i w v)
    (vs : List Value) :
    Accords (E.owning vs (CoroutineEngine.finish E i)) (E'.owning vs (CoroutineEngine.finish E' i)) v
      (Returns i w (fun _ => Found s i (.concluded True)) (Found s i .resting)) := by
  refine .onPanic ((hE.finish hw hi ho).mono (fun _ _ h => h) ?_ fun _ h => h)
  rintro u ⟨⟨hs, hu⟩, ho⟩
  exact .cleanup (.of_showing ((hE.concord _).releaseAll _) hu ho (fun _ _ h => h) fun _ _ h => h)
    fun _ hu => hu.candid

end Unison

/-! ### The way in -/

theorem showing_enterSwitch (frame : Frame) : (showing L may s i m).Kept (enterSwitch i frame) :=
  .bind (showing_ambient (swapTop_quiet _)) fun _ =>
    .bind (showing_sure (swapBack_sure _ _)) fun _ =>
      .bind (showing_update fun _ => ⟨rfl, rfl, rfl, rfl, id⟩) fun _ =>
        .bind (showing_ambient fetchError_quiet) fun _ =>
          .bind (showing_ambient (swapHandled_quiet _)) fun _ =>
            .bind (showing_modify fun _ => ⟨rfl, rfl, rfl, rfl, id⟩) fun _ =>
              .bind (showing_sure (logCoroutine_sure _ _ _ _)) fun _ => showing_sure (.pure _)

theorem Concord.approachLoss {e : Option Value} (hE : Concord s i (.away e) E E') {f : Fiber L}
    (hf : f.Agrees e) (hv : Found s i (.away e) v) (ho : Outlasts i w v) :
    Accords (approachLoss E f) (approachLoss E' f) v
      (Returns i w (fun f' u => Found s i (.away e) u ∧ f'.Agrees e) (Found s i (.away e))) := by
  unfold CoroutineEngine.approachLoss
  split
  · exact .pure ⟨⟨hv, hf⟩, ho⟩
  · exact .then_showing (hE.releaseFiber f) hv ho (fun _ u hu ho => .pure ⟨⟨hu, nofun⟩, ho⟩) fun _ _ h => h
  · exact .pure ⟨⟨hv, hf⟩, ho⟩

namespace Unison

variable {e : Option Value}

/-- The body goes on from what is shown, and leaves what is then shown. -/
theorem continueBody (hE : Unison s i E E') (code : Code) (frame : Frame) (a : Activation L) (t : Transfer)
    (hv : Found s i (.away a.waiting.awaited) v) (ho : Outlasts i w v) :
    Accords (continueBody E ⟨i, code, frame⟩ a t) (continueBody E' ⟨i, code, frame⟩ a t) v (Leaves s i w) := by
  refine .then_showing (.plain (showing_note fun _ _ => ⟨rfl, rfl, rfl, rfl, id⟩)) hv ho
    (fun _ v₁ h₁ ho₁ => ?_) fun u _ hu => ⟨_, hu⟩
  refine .then_returns ((hE.body _ a t v₁ rfl h₁).since ho₁) (fun exit v₂ h₂ ho₂ => ?_) fun _ h => h
  exact .then_showing (.plain (showing_note fun _ _ => ⟨rfl, rfl, rfl, rfl, id⟩)) h₂ ho₂
    (fun _ u hu ho => .pure ⟨hu, ho⟩) fun u _ hu => ⟨_, hu⟩

/-- After a switch the fiber waits for what is shown. -/
theorem enterFiber (hE : Unison s i E E') (code : Code) (frame : Frame) {f : Fiber L} (t : Transfer)
    (hf : f.Agrees e) (hv : Found s i (.away e) v) (ho : Outlasts i w v) :
    Accords (enterFiber E ⟨i, code, frame⟩ f t) (enterFiber E' ⟨i, code, frame⟩ f t) v
      (Returns i w (fun outcome u => ∃ e', Found s i (.away e') u ∧ (f.after outcome).Agrees e')
        fun u => ∃ e', Found s i (.away e') u) := by
  have run (a : Activation L) {v : World L} (ha : a.waiting.awaited = e) (hv : Found s i (.away e) v)
      (ho : Outlasts i w v) :
      Accords (CoroutineEngine.continueBody E ⟨i, code, frame⟩ a t >>= fun exit => pure (.ok exit))
        (CoroutineEngine.continueBody E' ⟨i, code, frame⟩ a t >>= fun exit => pure (.ok exit)) v
        (Returns i w (fun outcome u => ∃ e', Found s i (.away e') u ∧ (f.after outcome).Agrees e')
          fun u => ∃ e', Found s i (.away e') u) := by
    subst ha
    refine .then_returns (hE.continueBody code frame a t hv ho) (fun exit u hu ho => ?_) fun _ h => h
    refine .pure ⟨⟨_, hu, ?_⟩, ho⟩
    cases exit with
    | suspended v b => exact fun v hv => (Option.some.inj hv).symm
    | completed result => nofun
  -- the body is not let go on, and nothing is awaited by a fiber that is not fresh
  have refused {γ : Type} (outcome : Except FiberError (Exit L))
      (hafter : (f.after outcome).stack.awaited? = none) {x x' : Effect L γ}
      (hx : (showing L True s i (.away e)).Accord x x') {v : World L} (hv : Found s i (.away e) v)
      (ho : Outlasts i w v) :
      Accords (x >>= fun _ => pure outcome) (x' >>= fun _ => pure outcome) v
        (Returns i w (fun outcome u => ∃ e', Found s i (.away e') u ∧ (f.after outcome).Agrees e')
          fun u => ∃ e', Found s i (.away e') u) :=
    .then_showing hx hv ho
      (fun _ u hu ho => .pure ⟨⟨e, hu, fun v hv => absurd (hafter.symm.trans hv) (by simp)⟩, ho⟩)
      fun u _ hu => ⟨e, hu⟩
  unfold CoroutineEngine.enterFiber
  cases hs : f.stack with
  | released =>
    exact refused (.error .released) ((congrArg _ hs).trans rfl) ((hE.concord _).releaseAll _).spoken hv ho
  | completed =>
    exact refused (.error .completed) ((congrArg _ hs).trans rfl) ((hE.concord _).releaseAll _).spoken hv ho
  | suspended a => exact run a (hf _ (by rw [hs]; rfl)) hv ho
  | fresh =>
    dsimp only
    cases t.exception with
    | some p =>
      refine .then_showing (.plain (showing_quiet (instantiate_still p).quiet)) hv ho
        (fun x v₁ h₁ ho₁ => ?_) fun u _ hu => ⟨e, hu⟩
      exact refused (.ok (.completed (.error x))) rfl
        (.owning (hE.concord _).spoken _ ((hE.concord _).spoken _)) h₁ ho₁
    | none =>
      refine .then_gets ?_
      cases v.programs[code.entry]? with
      | none => exact refused (.ok (.completed (.ok .none))) rfl ((hE.concord _).spoken _) hv ho
      | some program =>
        refine .then_showing (.plain (showing_modify fun r => ⟨rfl, rfl, rfl, rfl, id⟩)) hv ho
          (fun _ v₁ h₁ ho₁ => run (.new (L.start program)) (hf _ (by rw [hs]; rfl)) h₁ ho₁)
          fun u (_ : True) hu => ⟨e, hu⟩

/-- What a body that panics leaves behind: a coroutine that is finished. -/
theorem leavePanicked (hE : Unison s i E E') (frame : Frame) (driver : DriverState) (f : Fiber L)
    (hv : Found s i (.away e) v) (ho : Outlasts i w v) :
    Accords
      (do
        leaveSwitch E i frame driver true
        discardFiber E i f)
      (do
        leaveSwitch E' i frame driver true
        discardFiber E' i f) v
      (Returns i w (fun _ => Found s i .resting) (Found s i .resting)) := by
  have leave : Accords (leaveSwitch E i frame driver true) (leaveSwitch E' i frame driver true) v
      (Returns i w (fun _ => Found s i (.concluded True)) (Found s i .resting)) := by
    refine .then_showing ((hE.concord _).restoreDriver frame driver) hv ho
      (fun _ v₁ h₁ ho₁ => ?_) fun u hs hu => hu.lenient hs
    have logged : (showing L (¬ s) s i (.away e)).Accord _ _ :=
      .plain (showing_sure (logCoroutine_sure .warn "coroutine body panicked" i []))
    refine .then_showing logged h₁ ho₁ (fun _ v₂ h₂ ho₂ => ?_) fun u hs hu => hu.lenient hs
    exact .returns (hE.finish h₂ h₂.has ho₂) (fun _ _ h => h) fun _ h => h.2
  refine .then_returns leave (fun _ v₁ h₁ ho₁ => ?_) fun _ h => h
  exact .of_showing ((hE.concord _).discardFiber f) h₁ ho₁ (fun _ u hu => hu.ended fun _ => trivial)
    fun u _ hu => hu.ended fun _ => trivial

/-- A switch: the fiber that comes back waits for what is shown. -/
theorem switchInto (hE : Unison s i E E') (code : Code) (frame : Frame) {f : Fiber L} (t : Transfer)
    (hf : f.Agrees e) (hv : Found s i (.away e) v) (ho : Outlasts i w v) :
    Accords (switchInto E i code frame f t) (switchInto E' i code frame f t) v
      (Returns i w (fun p u => ∃ e', Found s i (.away e') u ∧ p.2.Agrees e') (Found s i .resting)) := by
  have entered : (showing L (¬ s) s i (.away e)).Accord (enterSwitch i frame) (enterSwitch i frame) :=
    .plain (showing_enterSwitch frame)
  refine .then_showing entered hv ho (fun driver v₁ h₁ ho₁ => ?_) fun u hs hu => hu.lenient hs
  have attempt : Accords
      (do
        let fiber ← approachLoss E f
        let outcome ← CoroutineEngine.enterFiber E ⟨i, code, frame⟩ fiber t
        return (outcome, fiber.after outcome))
      (do
        let fiber ← approachLoss E' f
        let outcome ← CoroutineEngine.enterFiber E' ⟨i, code, frame⟩ fiber t
        return (outcome, fiber.after outcome)) v₁
      (Returns i w (fun p u => ∃ e', Found s i (.away e') u ∧ p.2.Agrees e')
        fun u => ∃ e', Found s i (.away e') u) :=
    .then_returns ((hE.concord _).approachLoss hf h₁ ho₁)
      (fun g v₂ h₂ ho₂ => .then_returns (hE.enterFiber code frame t h₂.2 h₂.1 ho₂)
        (fun _ _ h₃ ho₃ => .pure ⟨h₃, ho₃⟩) fun _ h => h) fun u hu => ⟨e, hu⟩
  refine .bind (.onPanic (attempt.mono ?_ ?_ fun _ h => h))
  · rintro ⟨outcome, g⟩ v₂ ⟨⟨e', h₂, hg⟩, ho₂⟩
    have left : Accords (CoroutineEngine.leaveSwitch E i frame driver false)
        (CoroutineEngine.leaveSwitch E' i frame driver false) v₂
        (Returns i w (fun _ => Found s i (.away e')) fun u => ¬ s ∧ Found s i (.away e') u) :=
      .of_showing ((hE.concord _).leaveSwitch frame driver) h₂ ho₂ (fun _ _ h => h) fun _ hs h => ⟨hs, h⟩
    refine .bind (.onPanic (left.mono ?_ ?_ fun _ h => h))
    · exact fun _ v₃ h₃ => .pure ⟨⟨e', h₃.1, hg⟩, h₃.2⟩
    · rintro v₃ ⟨⟨hs, h₃⟩, ho₃⟩
      have dropped : (showing L True s i (.away e')).Accord
          (do
            E.releaseAll (outcomeOwned outcome)
            CoroutineEngine.discardFiber E i g)
          (do
            E'.releaseAll (outcomeOwned outcome)
            CoroutineEngine.discardFiber E' i g) :=
        .bind ((hE.concord _).releaseAll _).spoken fun _ => (hE.concord _).discardFiber g
      exact .cleanup (.of_showing dropped h₃ ho₃ (fun _ u hu => hu.lenient hs) fun _ _ hu => hu)
        fun _ hu => hu.candid
  · rintro v₂ ⟨⟨e', h₂⟩, ho₂⟩
    exact .cleanup (hE.leavePanicked frame driver _ h₂ ho₂) fun _ hu => hu.candid

end Unison

/-! ## Requests on the coroutine -/

namespace Attuned

/-- A coroutine with a frame, and a fiber in its place, is at rest and was started. -/
theorem at_rest (hv : Found s i m v) {frame : Frame} {f : Fiber L} (hframe : (v.coroutine i).frame = some frame)
    (hfiber : (v.coroutine i).fiber = some f) : m = .resting ∧ (v.coroutine i).status = .running := by
  have hrun : (v.coroutine i).status = .running := by
    cases hs : (v.coroutine i).status with
    | unused => exact absurd (hfiber.symm.trans (hv.candid.unused hs)) (by simp)
    | running => rfl
    | finished => exact absurd (hframe.symm.trans (hv.candid.finished hs)) (by simp)
  cases m with
  | resting => exact ⟨rfl, hrun⟩
  | away e => exact absurd (hfiber.symm.trans hv.fits.fiber) (by simp)
  | concluded c => exact absurd (hrun.symm.trans hv.fits.status) (by decide)

/-- A resumption: the fiber is taken out of its place, and put back. -/
theorem resume (hE : Attuned s i m E E') (t : Transfer) :
    (showing L True s i m).Accord (resume E i t) (resume E' i t) := by
  have lost : (showing L True s i m).Accord
      (do
        modifyCoroutine i CoroutineRecord.noteLoss
        refuse E .contextLost t.owned : Effect L Reply)
      (do
        modifyCoroutine i CoroutineRecord.noteLoss
        refuse E' .contextLost t.owned) :=
    .bind (.plain (showing_modify fun _ => ⟨rfl, rfl, rfl, rfl, id⟩)) fun _ =>
      hE.plain (.refuse .contextLost t.owned)
  have plain {γ : Type} {m' : Phase} {x : Effect L γ} (hx : Sure x) : (showing L True s i m').Accord x x :=
    .plain (showing_sure hx)
  intro v hv
  refine .then_gets ?_
  cases hframe : (v.coroutine i).frame with
  | none => exact lost v hv
  | some frame =>
    cases hfiber : (v.coroutine i).fiber with
    | none => exact lost v hv
    | some f =>
      obtain ⟨rfl, hrun⟩ := at_rest hv hframe hfiber
      have hE := hE.home rfl
      have hi : v.Has i := World.has_of_started (by rw [hrun]; decide)
      refine .of_returns ?_
      refine .then_modify (.away (f.stack.awaited?.getD (v.coroutine i).awaiting)) hv hi (.refl i v)
        (.of_running hrun fun _ _ h => absurd h (by simp)) ⟨hrun, rfl, fun hh => ?_⟩ id fun v₁ h₁ ho₁ => ?_
      · cases hs : f.stack.awaited? with
        | none => rfl
        | some e => exact hv.candid.waiting hh hrun f hfiber e hs
      refine .then_returns (hE.switchInto _ frame t (fun e he => by rw [he]; rfl) h₁ ho₁) ?_ fun _ h => h
      rintro ⟨outcome, g⟩ v₂ ⟨e, h₂, hg⟩ ho₂
      refine .then_modify .resting h₂ h₂.has ho₂ (.of_running h₂.fits.status fun hh g' hg' v hv => ?_)
        (fun _ _ => ⟨fun hfin => absurd (h₂.fits.status.symm.trans hfin) (by decide), fun _ => by simp⟩) id
        fun v₃ h₃ ho₃ => ?_
      · cases hg'
        exact (h₂.fits.shown hh).trans (hg v hv).symm
      rcases outcome with error | ⟨x, b⟩ | result
      · refine .then_showing (plain (logCoroutine_sure _ _ _ _)) h₃ ho₃ (fun _ v₄ h₄ ho₄ => ?_) fun _ _ hu => hu
        have noted : (showing L True s i .resting).Accord
            (modifyCoroutine i (L := L) fun r => r.noteFault.noteLoss) (modifyCoroutine i fun r => r.noteFault.noteLoss) :=
          .plain (showing_modify fun _ => ⟨rfl, rfl, rfl, rfl, id⟩)
        refine .then_showing noted h₄ ho₄ (fun _ v₅ h₅ ho₅ => ?_) fun _ _ hu => hu
        refine .then_returns (hE.finish h₅ (ho₅ hi).1 ho₅) (fun _ v₆ h₆ ho₆ => ?_) fun _ h => h.2
        refine .then_showing (plain (raise_sure _)) h₆ ho₆
          (fun _ _ hu ho => .pure ⟨hu.ended fun _ => trivial, ho⟩) fun _ _ hu => hu.ended fun _ => trivial
      · exact .pure ⟨h₃, ho₃⟩
      · refine .then_returns (hE.finishOwning h₃ (ho₃ hi).1 ho₃ _) (fun _ v₄ h₄ ho₄ => ?_) fun _ h => h
        exact .of_showing (plain (surface_sure _ _ _)) h₄ ho₄ (fun _ _ hu => hu.ended fun _ => trivial)
          fun _ _ hu => hu.ended fun _ => trivial

/-- An unused coroutine gets its frame and its fiber. -/
theorem materialize (hv : Found s i m v) (hu : (v.coroutine i).status = .unused) :
    Accords (materialize i) (materialize i) v ((showing L True s i m).post v) := by
  have hm : m = .resting := by
    cases m with
    | resting => rfl
    | away e => exact absurd (hu.symm.trans hv.fits.status) (by decide)
    | concluded c => exact absurd (hu.symm.trans hv.fits.status) (by decide)
  subst hm
  have found {w u : World L} (h : (unstarted L s i).step w u) : (showing L True s i .resting).step w u :=
    ⟨h.1.1, h.2⟩
  -- the coroutine stays unused until it gets the fiber
  have go {γ δ : Type} {x : Effect L γ} {f : γ → Effect L δ} {u : World L} (hx : (unstarted L s i).Kept x)
      (hu : (unstarted L s i).step v u)
      (next : ∀ a u', (unstarted L s i).step v u' → Meets (f a) u' ((showing L True s i .resting).post v)) :
      Meets (x >>= f) u ((showing L True s i .resting).post v) :=
    .bind ((hx.after hu).mono next (fun _ h => ⟨trivial, h.2.1.1, h.2.2⟩) fun _ h => h)
  refine .refl (go (unstarted_quiet (.gets _)) ⟨⟨hv, hu⟩, .refl i v⟩ fun r v₁ h₁ => ?_)
  refine go (unstarted_quiet (makeFrame_still _).quiet) h₁ fun frame v₂ h₂ => ?_
  refine .bind (((unstarted_createFiber.after h₂).and createFiber_fresh).mono (fun fiber v₃ h => ?_)
    (fun _ h => ⟨trivial, h.1.2.1.1, h.1.2.2⟩) fun _ h => h.1)
  obtain ⟨h₃, hfresh⟩ := h
  cases fiber with
  | error e =>
    exact go (unstarted_quiet (logCoroutine_still _ _ _ _).quiet) h₃ fun _ v₄ h₄ => .pure (found h₄)
  | ok fiber =>
    refine .then_eq rfl (.bind (((showing_quiet (logCoroutine_still _ _ _ _).quiet).after ?_).mono
      (fun _ _ h => .pure h) (fun _ h => h) fun _ h => h))
    by_cases hi : v₃.Has i
    · have hidle := h₃.1.1.candid.idle
      have hmod := h₃.1.1.modified hi
        (f := fun r => { r.noteFiber with fiber := some fiber, frame := some frame, status := .running })
        (.of_running rfl fun hh f hf e he => ?_)
        (show Phase.resting.Fits s _ from fun _ _ => ⟨nofun, fun _ => by simp⟩) id
      · exact ⟨hmod.1, h₃.2.trans hmod.2⟩
      · cases hf
        rw [hfresh fiber rfl] at he
        exact (hidle hh h₃.1.2).trans (Option.some.inj he)
    · show (showing L True s i .resting).step v (v₃.modifyCoroutine i _)
      rw [modifyCoroutine_absent hi]
      exact found h₃

variable {x : Procedure L α}

theorem resumeWith (hE : Attuned s i m E E') (x : Value) :
    (showing L True s i m).Accord (resumeWith E i x) (resumeWith E' i x) := by
  refine .bind (.plain (showing_update fun _ => ⟨rfl, rfl, rfl, rfl, id⟩)) fun p => ?_
  cases p with
  | none => exact hE.resume _
  | some p => exact .bind (.owning hE.spoken _ (hE.spoken _)) fun _ => hE.resume _

theorem send (hE : Attuned s i m E E') (x : Value) :
    (showing L True s i m).Accord (send E i x) (send E' i x) := by
  intro v hv
  refine .then_gets ?_
  split
  · exact hE.plain (.refuse _ _) v hv
  · split
    · refine (Law.Accord.bind (.plain (showing_quiet (makeStopIteration_still _).quiet)) fun e => ?_ :
        (showing L True s i m).Accord _ _) v hv
      exact .bind (.owning hE.spoken _ (hE.spoken _)) fun _ => .plain (showing_sure (.pure _))
    · split
      · exact hE.plain (.refuse _ _) v hv
      · have hpass : Passes i v (v.modifyCoroutine i CoroutineRecord.noteVisit) :=
          .modified ⟨rfl, rfl, rfl, rfl, id⟩
        have hv₁ := hv.passes hpass
        have started : Accords (if (v.coroutine i).status = .unused then CoroutineEngine.materialize i else pure none)
            (if (v.coroutine i).status = .unused then CoroutineEngine.materialize i else pure none)
            (v.modifyCoroutine i CoroutineRecord.noteVisit) ((showing L True s i m).post v) := by
          split
          · exact (materialize hv₁ (hpass.unused ‹_›)).mono (fun _ _ h => ⟨h.1, hpass.outlasts.trans h.2⟩)
              (fun _ h => ⟨trivial, h.2.1, hpass.outlasts.trans h.2.2⟩) fun _ h => ⟨h.1, hpass.outlasts.trans h.2⟩
          · exact .pure ⟨hv₁, hpass.outlasts⟩
        refine .then_eq rfl (.bind (started.mono (fun failure u hu => ?_) (fun _ h => h) fun _ h => h))
        cases failure with
        | some error => exact (hE.plain (.refuse _ _)).after hu
        | none => exact (hE.resumeWith x).after hu

theorem throwPending (hE : Attuned s i m E E') (p : PendingException) :
    (showing L True s i m).Accord (throwPending E i p) (throwPending E' i p) := by
  refine .bind (.plain (showing_quiet (.gets _))) fun r => ?_
  split
  · exact hE.plain (.refuse _ _)
  · split
    · exact .bind (.plain (showing_quiet (instantiate_still p).quiet)) fun _ => .plain (showing_sure (.pure _))
    · refine .bind (.plain (showing_update fun _ => ⟨rfl, rfl, rfl, rfl, id⟩)) fun _ => ?_
      refine .bind (hE.releaseAll _).spoken fun _ => .bind (hE.send .none) fun reply => ?_
      refine .bind (.plain (showing_update fun _ => ⟨rfl, rfl, rfl, rfl, id⟩)) fun left => ?_
      exact .bind (.owning hE.spoken _ (hE.releaseAll _).spoken) fun _ => .plain (showing_sure (.pure _))

theorem close (hE : Attuned s i m E E') : (showing L True s i m).Accord (close E i) (close E' i) := by
  refine .bind (.plain (showing_quiet (.gets _))) fun r => ?_
  split
  · exact .plain (showing_sure (.pure _))
  · refine .bind (hE.throwPending _) fun reply => ?_
    cases reply with
    | ok v => exact hE.plain (.refuse _ _)
    | error e =>
      dsimp only
      split
      · exact .bind (hE.spoken _) fun _ => .plain (showing_sure (.pure _))
      · exact .plain (showing_sure (.pure _))

/-! ### Finalization and teardown -/

theorem closeUnraisable (hE : Attuned s i m E E') :
    (showing L True s i m).Accord (closeUnraisable E i) (closeUnraisable E' i) := by
  refine .bind (.plain (showing_modify fun _ => ⟨rfl, rfl, rfl, rfl, id⟩)) fun _ => ?_
  refine .bind (.plain (showing_quiet fetchError_quiet)) fun saved => ?_
  refine .bind (.owning hE.spoken _ (.bind hE.close fun reply => ?_)) fun _ => ?_
  · cases reply with
    | ok v => exact hE.spoken v
    | error e => exact .bind (.plain (showing_quiet (.gets _))) fun text => hE.report text e
  · exact .bind (.plain (showing_quiet (swapError_quiet _))) fun _ => (hE.releaseAll _).spoken

/-- A record that a teardown has taken the fiber out of. -/
theorem emptied {r r' : CoroutineRecord L} (hh : r.handles = 0) (hm : m.Fits s r) (hs : r'.status = r.status)
    (hb : r'.fiber = none) (he : r'.frame = none) (hh' : r'.handles = r.handles) :
    r'.IsCandid ∧ m.Fits s r' ∧ r'.handles = 0 := by
  have hz : r'.handles = 0 := hh'.trans hh
  refine ⟨⟨fun _ => hb, fun _ => he, fun h => absurd hz h, fun h => absurd hz h⟩, ?_, hz⟩
  cases m with
  | resting => exact fun _ h => absurd hz h
  | away e => exact ⟨hs.trans hm.status, hb, fun h => absurd hz h⟩
  | concluded c => exact ⟨hs.trans hm.status, fun _ h => absurd hz h⟩

theorem relinquish (hE : Attuned s i m E E') :
    (bereft L s i m).Accord (relinquish E i) (relinquish E' i) := by
  have released (vs : List Value) : (bereft L s i m).Accord (E.releaseAll vs) (E'.releaseAll vs) :=
    bereft_of_showing (hE.releaseAll vs).spoken
  have kept {r r' : CoroutineRecord L} (hh : r.handles = 0) (hc : r.IsCandid) (hm : m.Fits s r)
      (hr : r.Steady r') : r'.IsCandid ∧ m.Fits s r' ∧ r'.handles = 0 :=
    ⟨hc.steady hr, hm.steady hr, hr.bare hh⟩
  refine .bind (.plain (bereft_update fun r hh hc hm => kept hh hc hm ⟨rfl, rfl, rfl, rfl, id⟩)) fun _ => ?_
  refine .bind (released _) fun _ => ?_
  refine .bind (.plain (bereft_update fun r hh hc hm => kept hh hc hm ⟨rfl, rfl, rfl, rfl, id⟩)) fun _ => ?_
  refine .bind (released _) fun _ => ?_
  refine .bind (.plain (bereft_update fun r hh _ hm => emptied hh hm rfl rfl rfl rfl)) fun fiber => ?_
  refine .bind (bereft_of_showing (hE.plain (Request.releaseFiber? fiber))) fun _ => ?_
  refine .bind (bereft_of_showing (.plain (showing_harmless (untrackObject_mild _).harmless))) fun _ => ?_
  exact bereft_of_showing (.plain (showing_quiet (logCoroutine_still _ _ _ _).quiet))

theorem releaseRemains (hE : Attuned s i m E E') :
    (bereft L s i m).Accord (releaseRemains E i) (releaseRemains E' i) := by
  refine .bind (.plain (bereft_update fun r hh _ hm => emptied hh hm rfl rfl rfl rfl)) fun r => ?_
  exact .andFinally (bereft_of_showing (hE.plain (Request.releaseFiber? r.fiber)))
    (bereft_of_showing (hE.releaseAll _).spoken)

theorem teardown (hE : Attuned s i m E E') :
    (bereft L s i m).Accord (teardown E i) (teardown E' i) := by
  have noted {f : CoroutineRecord L → CoroutineRecord L} (hf : ∀ r : CoroutineRecord L, r.Steady (f r)) :
      (bereft L s i m).Accord (modifyCoroutine i f) (modifyCoroutine i f) :=
    bereft_of_showing (.plain (showing_modify hf))
  refine .bind (noted fun _ => ⟨rfl, rfl, rfl, rfl, id⟩) fun _ => .andFinally ?_ hE.releaseRemains
  refine .bind (bereft_of_showing (.plain (showing_quiet fetchError_quiet))) fun saved => ?_
  refine .bind (.owning (fun v => bereft_of_showing (hE.spoken v)) _ ?_) fun _ => ?_
  · refine .bind (bereft_of_showing (.plain (showing_quiet (.gets _)))) fun r => ?_
    split
    · exact .bind (noted fun _ => ⟨rfl, rfl, rfl, rfl, id⟩) fun _ =>
        .bind (bereft_of_showing hE.closeUnraisable) fun _ => hE.relinquish
    · exact hE.relinquish
  · exact .bind (bereft_of_showing (.plain (showing_quiet (swapError_quiet _)))) fun _ =>
      bereft_of_showing (hE.releaseAll _).spoken

theorem finalize (hE : Attuned s i m E E') :
    (showing L True s i m).Accord (finalize E i) (finalize E' i) := by
  refine .bind (.plain (showing_quiet (.gets _))) fun r => ?_
  split
  · refine .bind (.plain (showing_quiet (logCoroutine_still _ _ _ _).quiet)) fun _ => ?_
    refine .bind (.plain (showing_modify fun _ => ⟨rfl, rfl, rfl, rfl, id⟩)) fun _ => ?_
    refine .bind hE.closeUnraisable fun _ => .bind (.plain (showing_quiet (.gets _))) fun r => ?_
    split
    · exact .plain (showing_quiet (logCoroutine_still _ _ _ _).quiet)
    · exact .plain (showing_sure (.pure _))
  · exact .plain (showing_sure (.pure _))

theorem dropHandle (hE : Attuned s i m E E') :
    (showing L True s i m).Accord (dropHandle E i) (dropHandle E' i) := by
  intro v hv
  have hpass : Passes i v (v.modifyCoroutine i fun _ =>
      { v.coroutine i with handles := (v.coroutine i).handles - 1 }) :=
    .modified ⟨rfl, rfl, rfl, rfl, fun h => (congrArg (· - 1) h).trans rfl⟩
  refine .then_eq rfl ?_
  split
  · rename_i hone
    obtain ⟨hhas, hr⟩ := modified_of_has (World.has_of_handles (hone ▸ Nat.one_pos))
      fun _ => { v.coroutine i with handles := (v.coroutine i).handles - 1 }
    have hz : ((v.modifyCoroutine i fun _ =>
        { v.coroutine i with handles := (v.coroutine i).handles - 1 }).coroutine i).handles = 0 := by
      rw [hr]
      exact (congrArg (· - 1) hone).trans rfl
    have torn := Law.Accord.onPanic hE.teardown (bereft_of_showing
      (.plain (showing_modify (f := CoroutineRecord.noteCollapse) fun _ => ⟨rfl, rfl, rfl, rfl, id⟩)))
    exact (torn _ ⟨hv.passes hpass, hhas, hz⟩).mono (fun _ _ h => ⟨h.1.1, hpass.outlasts.trans h.2⟩)
      (fun _ h => ⟨trivial, h.2.1.1, hpass.outlasts.trans h.2.2⟩) fun _ h => ⟨h.1, hpass.outlasts.trans h.2⟩
  · exact .pure ⟨hv.passes hpass, hpass.outlasts⟩

theorem releaseCoroutine (hE : Attuned s i m E E') :
    (showing L True s i m).Accord (releaseCoroutine E i) (releaseCoroutine E' i) :=
  .andFinally hE.finalize hE.dropHandle

/-! ## Engines -/

theorem releaseHandle (hE : Attuned s i m E E') (v : Value) :
    (showing L True s i m).Accord (releaseHandle E v) (releaseHandle E' v) := by
  refine Composed.accord (fun hx => ?_) (Release.releaseHandle v)
  cases hx with
  | discreet hx => exact .plain (showing_quiet hx.quiet)
  | release v => exact hE.spoken v
  | coroutine c =>
    by_cases hc : c = i
    · subst hc
      exact hE.releaseCoroutine
    · exact hE.holder hc Holder.releaseCoroutine

/-- Whatever a client does that is not the body of the coroutine. -/
theorem client (hE : Attuned s i m E E') {k : Option CoroutineId} (hk : k ≠ some i) (hx : Client k x) :
    (showing L True s i m).Accord (x E) (x E') := by
  refine Composed.accord (fun hx => ?_) hx
  cases hx with
  | quiet hx => exact .plain (showing_quiet hx)
  | release v => exact hE.spoken v
  | report object e => exact hE.report object e
  | await c v he => exact .plain (showing_other (fun hc => hk (he.trans (congrArg _ hc))) (updateCoroutine_held c fun _ => Nat.le_refl _))
  | send c v =>
    by_cases hc : c = i
    · subst hc
      exact hE.send v
    · exact hE.request (c := some c) (fun h => hc (Option.some.inj h)) (Request.send v)
  | throwPending c p =>
    by_cases hc : c = i
    · subst hc
      exact hE.throwPending p
    · exact hE.request (c := some c) (fun h => hc (Option.some.inj h)) (Request.throwPending p)
  | close c =>
    by_cases hc : c = i
    · subst hc
      exact hE.close
    · exact hE.request (c := some c) (fun h => hc (Option.some.inj h)) Request.close

end Attuned

end CoroutineEngine
