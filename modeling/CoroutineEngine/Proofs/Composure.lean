import CoroutineEngine.Proofs.Onward
import CoroutineEngine.Proofs.Personal
import CoroutineEngine.Proofs.Probing

/-!
# What a coroutine awaits while it finishes

A coroutine that finishes releases its parameters, and whatever runs meanwhile sees it finished already. If its body
ended by itself, it awaits nothing from then on: the last delegation of the body was over. Only after a panic of the
body, or after a switch into it that failed, a delegation is still noted, until the coroutine gives it up.

Results:
* `vacating_watched`: a fiber that is out of its place is put back by nobody but the switch that took it out.
* `Unison.switchInto_left`: what is shown when a switch is over.
* `composing_watched`: at every moment, a coroutine whose body ended by itself awaits nothing.
-/

namespace CoroutineEngine

variable {L : Language} {α β : Type}

/-! ## Definitions -/

namespace CoroutineRecord

/-- The coroutine was started, and its fiber is out of its place. -/
def IsVacant (r : CoroutineRecord L) : Prop := r.status ≠ .unused ∧ r.fiber = none

/-- The fiber of a finished coroutine is in its place, as it is unless a panic came out of it. -/
def IsWhole (r : CoroutineRecord L) : Prop := r.handles ≠ 0 → r.status = .finished → r.fiber ≠ none

/-- A finished coroutine whose fiber is in its place, and into which no switch has failed, awaits nothing. -/
def IsComposed (r : CoroutineRecord L) : Prop :=
  r.handles ≠ 0 → r.status = .finished → r.fiber ≠ none → r.history.faults = 0 → r.awaiting = none

/-- The record is as calm as before. -/
structure Calms (r r' : CoroutineRecord L) : Prop where
  composed : r.IsComposed → r'.IsComposed
  whole : r.IsWhole → r'.IsWhole

end CoroutineRecord

/-- The law of a fiber that is out of its place. -/
def vacating (L : Language) (i : CoroutineId) : Law L :=
  .always World.Orderly (fun w v => (w.coroutine i).IsVacant → (v.coroutine i).IsVacant) (fun _ => id)
    fun _ _ _ h h' => h' ∘ h

/-- The law of a coroutine that is not over. -/
def unended (L : Language) (i : CoroutineId) : Law L :=
  .always World.Orderly (fun w v => (w.coroutine i).status ≠ .finished → (v.coroutine i).status ≠ .finished)
    (fun _ => id) fun _ _ _ h h' => h' ∘ h

/-- The law of a coroutine at rest that awaits nothing once its body has ended by itself. -/
def composing (L : Language) (i : CoroutineId) : Law L where
  start w := Found False i .resting w ∧ (w.coroutine i).IsComposed
  step w v := (Found False i .resting v ∧ (v.coroutine i).IsComposed) ∧ Outlasts i w v ∧
    ((w.coroutine i).IsWhole → (v.coroutine i).IsWhole)
  panic w v := (Found False i .resting v ∧ (v.coroutine i).IsComposed) ∧ Outlasts i w v
  cut w v := (v.coroutine i).IsComposed ∧ Outlasts i w v
  refl h := ⟨h, .refl i _, id⟩
  next h := h.1
  trans h h' := ⟨h'.1, h.2.1.trans h'.2.1, h'.2.2 ∘ h.2.2⟩
  step_panic h h' := ⟨h'.1, h.2.1.trans h'.2⟩
  step_cut h h' := ⟨h'.1, h.2.1.trans h'.2⟩
  panic_next h := h.1
  panic_step h h' := ⟨h'.1, h.2.trans h'.2.1⟩
  panic_cut h h' := ⟨h'.1, h.2.trans h'.2⟩
  cut_of_panic h := ⟨h.1.2, h.2⟩

/-- Where the body was left, the coroutine shows what it awaits then. -/
def LeftShowing (s : Prop) (i : CoroutineId) (outcome : Except FiberError (Exit L)) (w : World L) : Prop :=
  ∀ exit, outcome = .ok exit → Found s i (.away exit.awaited) w

/-- An engine on which a coroutine awaits nothing once its body has ended by itself. -/
structure Composing (i : CoroutineId) (E : Engine L) : Prop extends (composing L i).Aside i E where
  unison : Unison False i E E
  vacant : (vacating L i).Upheld E

/-! ## Helpers -/

variable {s : Prop} {i : CoroutineId} {m : Phase} {r r' : CoroutineRecord L} {w v u : World L} {E : Engine L}

/-- After a computation, as far as it is known how that ends with a result. -/
theorem Meets.then_promise {x : Effect L α} {f : α → Effect L β} {Q : Post L α} {P : β → World L → Prop}
    (hx : Meets x w Q) (next : ∀ a u, Q.ok a u → Meets (f a) u (.promise P)) : Meets (x >>= f) w (.promise P) :=
  .bind (hx.mono next (fun _ _ => trivial) fun _ _ => trivial)

namespace CoroutineRecord

theorem IsVacant.steady (h : r.IsVacant) (hr : r.Steady r') : r'.IsVacant :=
  ⟨hr.status ▸ h.1, hr.fiber.trans h.2⟩

/-- Where the fiber is out of its place, nothing is left to say. -/
theorem IsVacant.composed (h : r.IsVacant) : r.IsComposed := fun _ _ hf => absurd h.2 hf

theorem IsComposed.of_status (hs : r.status ≠ .finished) : r.IsComposed := fun _ h => absurd h hs

theorem IsComposed.of_handles (hh : r.handles = 0) : r.IsComposed := fun h => absurd hh h

theorem Calms.of_steady (h : r.Steady r') (hf : r'.history.faults = r.history.faults) : r.Calms r' where
  composed hr hh hs hfiber hfault := by
    rw [h.awaiting]
    exact hr (hh ∘ h.bare) (h.status ▸ hs) (h.fiber ▸ hfiber) (hf ▸ hfault)
  whole hr hh hs := by
    rw [h.fiber]
    exact hr (hh ∘ h.bare) (h.status ▸ hs)

theorem Calms.of_status (hs : r'.status ≠ .finished) : r.Calms r' :=
  ⟨fun _ => .of_status hs, fun _ _ h => absurd h hs⟩

theorem Calms.refl (r : CoroutineRecord L) : r.Calms r := ⟨id, id⟩

theorem Calms.of_undisturbed (h : Undisturbed w v) : (w.coroutine i).Calms (v.coroutine i) := by
  by_cases hi : w.Has i
  · exact .of_steady ((Passes.of_undisturbed h).old hi).2 (by rw [(h.old i hi).same])
  · exact .of_status (by rw [((Passes.of_undisturbed h).new hi).status]; decide)

theorem Calms.modified {f : CoroutineRecord L → CoroutineRecord L} (h : (w.coroutine i).Calms (f (w.coroutine i))) :
    (w.coroutine i).Calms ((w.modifyCoroutine i f).coroutine i) := by
  by_cases hi : w.Has i
  · rwa [(modified_of_has hi f).2]
  · rw [modifyCoroutine_absent hi]
    exact .refl _

end CoroutineRecord

/-! ### Fibers that are out of their place -/

theorem vacating_own {x : Effect L α} (hx : ∀ w : World L, ∃ f, (x w).2 = w.modifyCoroutine i f ∧
    ((w.coroutine i).IsVacant → (f (w.coroutine i)).IsVacant)) : (vacating L i).Kept x :=
  Law.always_of fun w hw => by
    obtain ⟨f, hf, h⟩ := hx w
    rw [hf]
    refine ⟨⟨hw.borrowed, hw.hook⟩, fun hv => ?_⟩
    rw [(modified_of_has (World.has_of_started hv.1) f).2]
    exact h hv

theorem vacating_update {f : CoroutineRecord L → α × CoroutineRecord L}
    (hf : ∀ r : CoroutineRecord L, r.IsVacant → (f r).2.IsVacant) : (vacating L i).Kept (updateCoroutine i f) :=
  vacating_own fun w => ⟨fun _ => (f (w.coroutine i)).2, rfl, hf _⟩

theorem vacating_passes {x : Effect L α} (hx : ∀ w, Passes i w (x w).2) : (vacating L i).Kept x :=
  Law.always_of fun w hw =>
    ⟨(hx w).orderly hw, fun hv => hv.steady ((hx w).old (World.has_of_started hv.1)).2⟩

theorem vacating_patient : (vacating L i).Patient i where
  orderly h := h
  harmless hx := vacating_passes fun w => .of_undisturbed (hx w)
  other hj hx := vacating_passes fun w => by
    obtain ⟨f, hf, -⟩ := hx w
    rw [hf]
    exact .other hj f
  exchange {w} hook h hk :=
    have hp : Passes i w { w with ambient := { w.ambient with hook } } :=
      .of_undisturbed (.ambient w _ fun ho => ⟨ho.borrowed, hk⟩)
    ⟨hp.orderly h, fun hv => hv.steady (hp.old (World.has_of_started hv.1)).2⟩
  cut h := h
  own hx := vacating_own fun w => by
    obtain ⟨f, hf, h⟩ := hx w
    exact ⟨f, hf, fun hv => ⟨h.status ▸ hv.1, h.fiber.elim (·.trans hv.2) id⟩⟩
  concludes := vacating_update fun _ h => ⟨(show Status.finished ≠ .unused by decide), h.2⟩

/-- A resumption that does not find the fiber. -/
theorem vacating_resume (hE : (vacating L i).Upheld E) (t : Transfer) (hw : w.Orderly)
    (hv : (w.coroutine i).IsVacant) : Meets (resume E i t) w ((vacating L i).post w) := by
  refine .then_gets ?_
  rw [hv.2]
  have lost : (vacating L i).Kept
      (do
        modifyCoroutine i CoroutineRecord.noteLoss
        refuse E .contextLost t.owned : Effect L Reply) :=
    .bind (vacating_patient.modify fun _ => ⟨rfl, rfl, rfl, rfl, rfl, rfl, .inl rfl, .inl rfl⟩) fun _ =>
      vacating_patient.plain hE.aside (.refuse _ _)
  cases (w.coroutine i).frame <;> exact lost w hw

/-- Whoever sends something meanwhile does not get hold of the fiber. -/
theorem vacating_send (hE : (vacating L i).Upheld E) (hO : (onward L).Upheld E) (x : Value) :
    (vacating L i).Kept (send E i x) := by
  intro w hw
  by_cases hv : (w.coroutine i).IsVacant
  · refine .then_gets ?_
    rw [if_neg fun h => hv.1 h.1]
    split
    · exact Law.Kept.bind (vacating_patient.still (makeStopIteration_still _)) (fun _ =>
        .bind (hE.owning _ (hE.release x)) fun _ => .pure _) w hw
    · split
      · exact vacating_patient.plain hE.aside (.refuse _ _) w hw
      · have go {γ δ : Type} {x : Effect L γ} {f : γ → Effect L δ} {u : World L} (hx : (vacating L i).Kept x)
            (hu : (vacating L i).step w u)
            (next : ∀ a u', (vacating L i).step w u' → Meets (f a) u' ((vacating L i).post w)) :
            Meets (x >>= f) u ((vacating L i).post w) :=
          .bind ((hx.after hu).mono next (fun _ h => h) fun _ h => h)
        have resume (t : Transfer) {u : World L} (hu : (vacating L i).step w u) :
            Meets (CoroutineEngine.resume E i t) u ((vacating L i).post w) :=
          Law.post_of_step hu (vacating_resume hE t hu.1 (hu.2 hv))
        refine go (vacating_patient.modify fun _ => ⟨rfl, rfl, rfl, rfl, rfl, rfl, .inl rfl, .inl rfl⟩) ⟨hw, id⟩
          fun _ v₁ h₁ => ?_
        rw [if_neg hv.1]
        refine .then_eq rfl (go (vacating_patient.update fun _ => ?_) h₁ fun p v₂ h₂ => ?_)
        · exact ⟨rfl, rfl, rfl, rfl, rfl, rfl, .inl rfl, .inr rfl⟩
        · cases p with
          | none => exact resume _ h₂
          | some p => exact go (hE.owning _ (hE.release x)) h₂ fun _ v₃ h₃ => resume _ h₃
  · have step {v : World L} (h : v.Orderly ∧ Onward w v) : (vacating L i).step w v := ⟨h.1, fun h => absurd h hv⟩
    exact (onward_universal.request hO (c := some i) (Request.send x) w hw).mono (fun _ _ => step) (fun _ => step)
      fun _ => step

/-- At every depth of nesting, a fiber that is out of its place stays out of it. -/
theorem vacating_watched (W : Watch) (i : CoroutineId) (n : Nat) : (vacating L i).Upheld (.watched L W n) :=
  vacating_patient.watched vacating_patient.notes (fun {m} hE =>
    have throwPending := vacating_patient.serene.throwPending hE.aside
      (vacating_send hE (onward_universal.watched W m) .none) fun _ => vacating_update fun _ => id
    ⟨vacating_send hE (onward_universal.watched W m), throwPending,
      vacating_patient.serene.close throwPending hE.aside,
      vacating_patient.releaseCoroutine throwPending hE.aside⟩) n

/-! ### Switches -/

namespace Unison

/-- When the body is left, what it awaits then is shown. -/
theorem enterFiber_left (hE : Unison s i E E) (code : Code) (frame : Frame) {f : Fiber L} (t : Transfer)
    {e : Option Value} (hf : f.Agrees e) (hv : Found s i (.away e) v) :
    Meets (CoroutineEngine.enterFiber E ⟨i, code, frame⟩ f t) v (.promise (LeftShowing s i)) := by
  have run (a : Activation L) {v : World L} (ha : a.waiting.awaited = e) (hv : Found s i (.away e) v) :
      Meets (CoroutineEngine.continueBody E ⟨i, code, frame⟩ a t >>= fun exit => pure (.ok exit)) v
        (.promise (LeftShowing s i)) := by
    subst ha
    refine .then_promise (hE.continueBody code frame a t hv (.refl i v)).meets fun exit u hu => .pure ?_
    rintro _ ⟨⟩
    exact hu.1
  unfold CoroutineEngine.enterFiber
  cases hs : f.stack with
  | released => exact .then_ok fun _ _ _ => .pure nofun
  | completed => exact .then_ok fun _ _ _ => .pure nofun
  | suspended a => exact run a (hf _ (by rw [hs]; rfl)) hv
  | fresh =>
    obtain rfl : none = e := hf none (by rw [hs]; rfl)
    dsimp only
    cases t.exception with
    | some p =>
      refine .then_promise (showing_quiet (instantiate_still p).quiet v hv) fun x v₁ h₁ => ?_
      have released : (showing L True s i (.away none)).Accord (E.owning [.exception x] (E.release t.value)) _ :=
        .owning (hE.concord _).spoken _ ((hE.concord _).spoken _)
      refine .then_promise (released v₁ h₁.1).meets fun _ u hu => .pure ?_
      rintro _ ⟨⟩
      exact hu.1
    | none =>
      refine .then_gets ?_
      cases v.programs[code.entry]? with
      | none =>
        refine .then_promise ((hE.concord _).spoken _ v hv).meets fun _ u hu => .pure ?_
        rintro _ ⟨⟩
        exact hu.1
      | some program =>
        have entered : (showing L True s i (.away none)).Kept (modifyCoroutine i CoroutineRecord.noteEntry) :=
          showing_modify fun _ => ⟨rfl, rfl, rfl, rfl, id⟩
        exact .then_promise (entered v hv) fun _ u hu => run (.new (L.start program)) rfl hu.1

/-- When a switch is over, the coroutine shows what its body awaits. -/
theorem switchInto_left (hE : Unison s i E E) (code : Code) (frame : Frame) {f : Fiber L} (t : Transfer)
    {e : Option Value} (hf : f.Agrees e) (hv : Found s i (.away e) v) :
    Meets (CoroutineEngine.switchInto E i code frame f t) v (.promise fun p => LeftShowing s i p.1) := by
  have entering : (showing L True s i (.away e)).Kept (enterSwitch i frame) := showing_enterSwitch frame
  refine .then_promise (entering v hv) fun driver v₁ h₁ => ?_
  have attempt : Meets
      (do
        let fiber ← approachLoss E f
        let outcome ← CoroutineEngine.enterFiber E ⟨i, code, frame⟩ fiber t
        return (outcome, fiber.after outcome)) v₁ (.promise fun p => LeftShowing s i p.1) :=
    .then_promise ((hE.concord _).approachLoss hf h₁.1 (.refl i v₁)).meets fun g v₂ h₂ =>
      .then_promise (hE.enterFiber_left code frame t h₂.1.2 h₂.1.1) fun _ _ h₃ => .pure h₃
  refine .then_promise (.owning_ok attempt) ?_
  rintro ⟨outcome, g⟩ v₃ h₃
  cases outcome with
  | error _ => exact .then_ok fun _ _ _ => .pure nofun
  | ok exit =>
    refine .then_promise (.owning_ok (((hE.concord _).leaveSwitch frame driver v₃ (h₃ exit rfl)).meets.mono
      (fun _ _ h => h.1) (fun _ _ => trivial) fun _ _ => trivial)) fun _ u hu => .pure ?_
    rintro _ ⟨⟩
    exact hu

end Unison

/-! ### Starting -/

theorem unended_passes {x : Effect L α} (hx : ∀ w, Passes i w (x w).2) : (unended L i).Kept x :=
  Law.always_of fun w hw => ⟨(hx w).orderly hw, fun hs => by
    by_cases hi : w.Has i
    · exact ((hx w).old hi).2.status ▸ hs
    · rw [((hx w).new hi).status]
      decide⟩

theorem unended_still {x : Effect L α} (hx : Still x) : (unended L i).Kept x :=
  unended_passes fun w => .of_undisturbed (hx.quiet w).toUndisturbed

theorem unended_createFiber : (unended L i).Kept (createFiber i) := by
  refine .bind (unended_passes fun _ => .modified (f := fun _ => _) ⟨rfl, rfl, rfl, rfl, id⟩) fun supply => ?_
  split
  · exact .bind (unended_passes fun _ => .modified ⟨rfl, rfl, rfl, rfl, id⟩) fun _ => .pure _
  · refine .bind (unended_still (Request.mapStack_still _)) fun failure => ?_
    cases failure <;> exact .pure _

theorem unended_materialize : (unended L i).Kept (materialize i) := by
  refine .bind (unended_passes fun w => .of_undisturbed (Quiet.gets _ w).toUndisturbed) fun r =>
    .bind (unended_still (makeFrame_still _)) fun frame => .bind unended_createFiber fun fiber => ?_
  cases fiber with
  | error e => exact .bind (unended_still (logCoroutine_still _ _ _ _)) fun _ => .pure _
  | ok fiber =>
    refine .bind (Law.always_of fun w hw => ⟨⟨hw.borrowed, hw.hook⟩, fun hs => ?_⟩) fun _ =>
      .bind (unended_still (logCoroutine_still _ _ _ _)) fun _ => .pure _
    show ((w.modifyCoroutine i _).coroutine i).status ≠ .finished
    by_cases hi : w.Has i
    · rw [(modified_of_has hi _).2]
      exact (show Status.running ≠ .finished by decide)
    · rwa [modifyCoroutine_absent hi]

/-! ### What a coroutine awaits that is over -/

theorem composing_of {x : Effect L α} (hx : (showing L True False i .resting).Kept x)
    (hc : ∀ w : World L, (w.coroutine i).Calms ((x w).2.coroutine i)) : (composing L i).Kept x := by
  intro w hw
  have h := hc w
  have hm := (hx w hw.1).holds
  refine ⟨?_⟩
  rcases hr : x w with ⟨_ | _ | _, v⟩ <;> rw [hr] at h hm
  · exact ⟨⟨hm.1, h.composed hw.2⟩, hm.2, h.whole⟩
  · exact ⟨⟨hm.2.1, h.composed hw.2⟩, hm.2.2⟩
  · exact ⟨h.composed hw.2, hm.2⟩

theorem composing_update {f : CoroutineRecord L → α × CoroutineRecord L}
    (hf : ∀ r : CoroutineRecord L, r.Steady (f r).2)
    (hc : ∀ r : CoroutineRecord L, (f r).2.history.faults = r.history.faults) :
    (composing L i).Kept (updateCoroutine i f) :=
  composing_of (showing_update hf) fun _ => .modified (f := fun _ => (f _).2) (.of_steady (hf _) (hc _))

theorem composing_modify {f : CoroutineRecord L → CoroutineRecord L} (hf : ∀ r : CoroutineRecord L, r.Steady (f r))
    (hc : ∀ r : CoroutineRecord L, (f r).history.faults = r.history.faults) :
    (composing L i).Kept (modifyCoroutine i f) :=
  composing_of (showing_modify hf) fun _ => .modified (.of_steady (hf _) (hc _))

theorem composing_personal : (composing L i).Personal i where
  orderly h := h.1.orderly
  harmless hx := composing_of (showing_harmless hx) fun w => .of_undisturbed (hx w)
  other hj hx := composing_of (showing_other hj hx) fun w => by
    obtain ⟨f, hf, -⟩ := hx w
    rw [hf, (modified_other w hj f).2]
    exact .refl _
  exchange {w} hook h hk :=
    have hp : Passes i w { w with ambient := { w.ambient with hook } } :=
      .of_undisturbed (.ambient w _ fun ho => ⟨ho.borrowed, hk⟩)
    ⟨⟨h.1.passes hp, h.2⟩, hp.outlasts, id⟩
  cut h := ⟨h.1.2, h.2.1⟩

theorem composing_serene : (composing L i).Serene i where
  toPersonal := composing_personal
  calm hx := by
    refine composing_of (about_passes .passes (fun _ _ => .inl trivial) fun w => ?_) fun w => ?_
    all_goals
      obtain ⟨f, hf, h⟩ := hx w
      rw [hf]
    · exact .modified ⟨h.status, h.inPlace, h.frame, h.awaiting, h.bare⟩
    · exact .modified (.of_steady ⟨h.status, h.inPlace, h.frame, h.awaiting, h.bare⟩ h.faults)

namespace Composing

/-- A coroutine finishes with its fiber in its place. If its body has ended by itself, it awaits nothing. -/
theorem finish (hE : Composing i E) (hv : Found False i .resting v) (hi : v.Has i)
    (hfiber : (v.coroutine i).fiber ≠ none)
    (ha : (v.coroutine i).handles ≠ 0 → (v.coroutine i).history.faults = 0 → (v.coroutine i).awaiting = none) :
    Meets (finish E i) v ((composing L i).post v) := by
  let r : CoroutineRecord L := { (v.coroutine i).noteFinish with
    status := .finished, frame := none, inputs := (v.coroutine i).inputs.releaseParameters.2 }
  have hover : Found False i (.concluded False) (v.modifyCoroutine i fun _ => r) ∧ Outlasts i v _ :=
    hv.modified hi (.of_finished rfl rfl) ⟨rfl, False.elim⟩ id
  have hstep₁ : (composing L i).step v (v.modifyCoroutine i fun _ => r) := by
    refine ⟨⟨hover.1.lenient id, ?_⟩, hover.2, fun _ => ?_⟩ <;> rw [(modified_of_has hi _).2]
    · exact fun hh _ _ => ha hh
    · exact fun _ _ => hfiber
  refine .then_eq rfl (.bind ((((hE.releaseAll _).after hstep₁).and
    ((hE.unison.concord _).releaseAll _ _ hover.1).meets).mono (fun _ u h => ?_) (fun _ h => h.1) fun _ h => h.1))
  obtain ⟨hstep₂, hfound, -⟩ := h
  -- what was still awaited is given up
  have hu : u.Has i := World.has_of_started (by rw [hfound.fits.status]; decide)
  have hclear : Found False i (.concluded True)
      (u.modifyCoroutine i fun _ => { u.coroutine i with awaiting := none }) ∧ Outlasts i u _ :=
    hfound.modified hu (.of_finished hfound.fits.status (hfound.candid.finished hfound.fits.status))
      ⟨hfound.fits.status, fun _ _ => rfl⟩ id
  have hstep₃ : (composing L i).step u (u.modifyCoroutine i fun _ => { u.coroutine i with awaiting := none }) := by
    refine ⟨⟨hclear.1.lenient id, ?_⟩, hclear.2, ?_⟩ <;> rw [(modified_of_has hu _).2]
    · exact fun _ _ _ _ => rfl
    · exact id
  refine .then_eq rfl (Law.Kept.after ?_ ((composing L i).trans hstep₂ hstep₃))
  exact .bind (hE.releaseAll _) fun _ => .bind composing_serene.unprimes fun _ => .bind (hE.releaseAll _) fun _ =>
    composing_serene.still (logCoroutine_still _ _ _ _)

/-- After a switch that has failed, the coroutine gives up what it awaits once it has finished. -/
theorem fail (hE : Composing i E) (hv : Found False i .resting v) (hi : v.Has i)
    (hrun : (v.coroutine i).status ≠ .finished) (hfiber : (v.coroutine i).fiber ≠ none) (error : FiberError) :
    Meets
      (do
        logCoroutine .warn "switch into coroutine failed" i [("error", .text error.message)]
        modifyCoroutine i fun r => r.noteFault.noteLoss
        CoroutineEngine.finish E i
        return .error (← CoroutineError.contextLost.raise) : Effect L Reply) v ((composing L i).post v) := by
  have hstill : Still (logCoroutine .warn "switch into coroutine failed" i [("error", .text error.message)] :
    Effect L Unit) := logCoroutine_still _ _ _ _
  obtain ⟨v₁, hv₁⟩ : ∃ v₁, logCoroutine .warn "switch into coroutine failed" i
    [("error", .text error.message)] v = (.ok (), v₁) := ⟨_, rfl⟩
  have hlog := (composing_personal.still hstill v ⟨hv, .of_status hrun⟩).ok hv₁
  have hsame : v₁.coroutine i = v.coroutine i := by
    have h := hstill.coroutines v
    rw [hv₁] at h
    rw [World.coroutine, h, World.coroutine]
  refine .then_eq hv₁ ?_
  -- the fault is noted, and the coroutine finishes with it
  obtain ⟨hi₂, hr₂⟩ := modified_of_has (hlog.2.1 hi).1 fun r => r.noteFault.noteLoss
  have hpass : Passes i v₁ (v₁.modifyCoroutine i fun r => r.noteFault.noteLoss) :=
    .modified ⟨rfl, rfl, rfl, rfl, id⟩
  have hfound := hlog.1.1.passes hpass
  have hrun₂ : ((v₁.modifyCoroutine i fun r => r.noteFault.noteLoss).coroutine i).status ≠ .finished := by
    rw [hr₂]
    exact hsame ▸ hrun
  have hstep : (composing L i).step v (v₁.modifyCoroutine i fun r => r.noteFault.noteLoss) :=
    ⟨⟨hfound, .of_status hrun₂⟩, hlog.2.1.trans hpass.outlasts, fun _ _ h => absurd h hrun₂⟩
  have finished := hE.finish hfound hi₂ (by rw [hr₂]; exact hsame ▸ hfiber) fun _ hf => by
    rw [hr₂] at hf
    exact absurd hf (Nat.succ_ne_zero _)
  refine .then_eq rfl (Law.post_of_step hstep (.bind (finished.mono (fun _ u hu => ?_) (fun _ h => h) fun _ h => h)))
  exact (Law.Kept.bind (composing_personal.still (raise_still _)) fun _ => .pure _).after hu

/-- The fiber is put back after a switch. -/
theorem landed (hE : Composing i E) {e : Option Value} {outcome : Except FiberError (Exit L)} {g : Fiber L}
    {code : Code} {frame : Frame} (hv : Found False i (.away e) v) (hg : g.Agrees e) (ho : Outlasts i w v)
    (hleft : LeftShowing False i outcome v) :
    Meets
      (do
        modifyCoroutine i fun r => { r with fiber := some g }
        match outcome with
        | .ok (.suspended x _) => return .ok x
        | .ok (.completed result) =>
          E.owning (outcomeOwned outcome) (CoroutineEngine.finish E i)
          surface code frame result
        | .error error =>
          logCoroutine .warn "switch into coroutine failed" i [("error", .text error.message)]
          modifyCoroutine i fun r => r.noteFault.noteLoss
          CoroutineEngine.finish E i
          return .error (← CoroutineError.contextLost.raise) : Effect L Reply) v ((composing L i).post w) := by
  obtain ⟨hi, hr⟩ := modified_of_has hv.has fun r => { r with fiber := some g }
  obtain ⟨hu, ho'⟩ : Found False i .resting (v.modifyCoroutine i fun r => { r with fiber := some g }) ∧
      Outlasts i v _ := by
    refine hv.modified hv.has (.of_running hv.fits.status fun hh g' hg' x hx => ?_) (fun h => h.elim) id
    cases hg'
    exact (hv.fits.shown hh).trans (hg x hx).symm
  refine .then_eq (v := v.modifyCoroutine i fun r => { r with fiber := some g }) rfl ?_
  generalize v.modifyCoroutine i (fun r => { r with fiber := some g }) = u at hi hr hu ho'
  have hrun : (u.coroutine i).status ≠ .finished := by
    rw [hr]
    exact fun h => absurd (hv.fits.status.symm.trans h) (by decide)
  have hfiber : (u.coroutine i).fiber ≠ none := by
    rw [hr]
    nofun
  have hstep : (composing L i).step w u := ⟨⟨hu, .of_status hrun⟩, ho.trans ho', fun _ _ h => absurd h hrun⟩
  refine Law.post_of_step hstep ?_
  rcases outcome with error | ⟨x, b⟩ | result
  · exact hE.fail hu hi hrun hfiber error
  · exact .pure ((composing L i).refl hstep.1)
  · have finished := hE.finish hu hi hfiber fun hh _ => by
      rw [hr] at hh ⊢
      exact (hleft _ rfl).fits.shown hh
    refine .bind ((Law.post_onPanic finished (hE.releaseAll _)).mono (fun _ _ h => ?_) (fun _ h => h) fun _ h => h)
    exact (composing_serene.plain hE.toAside (Request.surface _ _ _)).after h

theorem resume (hE : Composing i E) (t : Transfer) : (composing L i).Kept (resume E i t) := by
  have lost : (composing L i).Kept
      (do
        modifyCoroutine i CoroutineRecord.noteLoss
        refuse E .contextLost t.owned : Effect L Reply) :=
    .bind (composing_modify (fun _ => ⟨rfl, rfl, rfl, rfl, id⟩) fun _ => rfl) fun _ =>
      composing_personal.plain hE.toAside (.refuse _ _)
  intro w hw
  refine .then_gets ?_
  cases hframe : (w.coroutine i).frame with
  | none => exact lost w hw
  | some frame =>
    cases hfiber : (w.coroutine i).fiber with
    | none => exact lost w hw
    | some f =>
      obtain ⟨-, hrun⟩ := Attuned.at_rest hw.1 hframe hfiber
      have hi : w.Has i := World.has_of_started (by rw [hrun]; decide)
      have shown : (w.coroutine i).handles ≠ 0 →
          (w.coroutine i).awaiting = f.stack.awaited?.getD (w.coroutine i).awaiting := fun hh => by
        cases hs : f.stack.awaited? with
        | none => rfl
        | some e => exact hw.1.candid.waiting hh hrun f hfiber e hs
      obtain ⟨h₁, ho₁⟩ : Found False i (.away (f.stack.awaited?.getD (w.coroutine i).awaiting))
          (w.modifyCoroutine i fun r => { r.noteEntrance with fiber := none }) ∧ Outlasts i w _ :=
        hw.1.modified hi (.of_running hrun fun _ _ h => absurd h (by simp)) ⟨hrun, rfl, shown⟩ id
      have hagrees : f.Agrees (f.stack.awaited?.getD (w.coroutine i).awaiting) := fun e he => by rw [he]; rfl
      -- until the fiber is put back, it is out of its place
      have hvacant : ((w.modifyCoroutine i fun r => { r.noteEntrance with fiber := none }).coroutine i).IsVacant :=
        ⟨by rw [h₁.fits.status]; decide, h₁.fits.fiber⟩
      refine .then_eq rfl (.bind ((((hE.unison.switchInto _ frame t hagrees h₁ ho₁).meets.and
        (hE.unison.switchInto_left (w.coroutine i).code frame t hagrees h₁)).and
          (vacating_patient.switchInto hE.vacant _ frame f t _ h₁.orderly)).mono ?_ ?_ ?_))
      · rintro ⟨outcome, g⟩ v ⟨⟨⟨⟨e, h₂, hg⟩, ho₂⟩, hleft⟩, -⟩
        exact hE.landed h₂ hg ho₂ hleft
      · exact fun v h => ⟨⟨h.1.1.1, (h.2.2 hvacant).composed⟩, h.1.1.2⟩
      · exact fun v h => ⟨(h.2.2 hvacant).composed, h.1.1.2⟩

/-- An unused coroutine that gets its fiber is not over. -/
theorem materialize (hv : Found False i .resting v) (hu : (v.coroutine i).status = .unused) :
    Meets (CoroutineEngine.materialize i) v ((composing L i).post v) := by
  have hrun : (v.coroutine i).status ≠ .finished := by
    rw [hu]
    decide
  refine ((Attuned.materialize hv hu).meets.and (unended_materialize v hv.orderly)).mono (fun _ u h => ?_)
    (fun u h => ?_) fun u h => ?_
  · exact ⟨⟨h.1.1, .of_status (h.2.2 hrun)⟩, h.1.2, fun _ _ hs => absurd hs (h.2.2 hrun)⟩
  · exact ⟨⟨h.1.2.1, .of_status (h.2.2 hrun)⟩, h.1.2.2⟩
  · exact ⟨.of_status (h.2.2 hrun), h.1.2⟩

theorem send (hE : Composing i E) (x : Value) : (composing L i).Kept (send E i x) := by
  have resumed : (composing L i).Kept (resumeWith E i x) := by
    refine .bind composing_serene.unprimes fun p => ?_
    cases p with
    | none => exact hE.resume _
    | some p => exact .bind (hE.owning _ (hE.release x)) fun _ => hE.resume _
  intro w hw
  refine .then_gets ?_
  split
  · exact composing_serene.plain hE.toAside (.refuse _ _) w hw
  · split
    · exact Law.Kept.bind (composing_serene.still (makeStopIteration_still _)) (fun _ =>
        .bind (hE.owning _ (hE.release x)) fun _ => .pure _) w hw
    · split
      · exact composing_serene.plain hE.toAside (.refuse _ _) w hw
      · have noted : (composing L i).Kept (modifyCoroutine i CoroutineRecord.noteVisit : Effect L Unit) :=
          composing_serene.noted fun r => ⟨r.finalized, _, rfl, rfl, rfl, rfl⟩
        have hvisit := (noted w hw).ok rfl
        refine .then_eq rfl (Law.post_of_step hvisit (.bind (?_ : Meets _ _ _)))
        have started : Meets (if (w.coroutine i).status = .unused then CoroutineEngine.materialize i else pure none)
            (w.modifyCoroutine i CoroutineRecord.noteVisit)
            ((composing L i).post (w.modifyCoroutine i CoroutineRecord.noteVisit)) := by
          split
          · exact materialize hvisit.1.1 ((Passes.modified ⟨rfl, rfl, rfl, rfl, id⟩).unused ‹_›)
          · exact .pure ((composing L i).refl hvisit.1)
        refine started.mono (fun failure u hu => ?_) (fun _ h => h) fun _ h => h
        cases failure with
        | some error => exact (composing_serene.plain hE.toAside (.refuse _ _)).after hu
        | none => exact resumed.after hu

/-- Nobody holds a coroutine that is torn down. -/
theorem dropHandle (hE : Composing i E) : (composing L i).Kept (dropHandle E i) := by
  intro w hw
  have dropped : (composing L i).Kept (updateCoroutine i fun r : CoroutineRecord L =>
      (r.handles, { r with handles := r.handles - 1 })) :=
    composing_serene.update fun r => ⟨⟨rfl, rfl, rfl, rfl, rfl, rfl, .inl rfl, .inl rfl⟩, rfl, rfl, rfl, rfl,
      fun h => (congrArg (· - 1) h).trans rfl⟩
  have hstep := (dropped w hw).ok rfl
  refine .then_eq rfl (Law.post_of_step hstep ?_)
  split
  · rename_i hone
    obtain ⟨hi, hr⟩ := modified_of_has (World.has_of_handles (hone ▸ Nat.one_pos))
      fun _ => { w.coroutine i with handles := (w.coroutine i).handles - 1 }
    have hz : ((w.modifyCoroutine i fun _ =>
        { w.coroutine i with handles := (w.coroutine i).handles - 1 }).coroutine i).handles = 0 := by
      rw [hr]
      exact (congrArg (· - 1) hone).trans rfl
    have torn := Law.Accord.onPanic (hE.unison.attuned .resting).teardown (bereft_of_showing
      (.plain (showing_modify (f := CoroutineRecord.noteCollapse) fun _ => ⟨rfl, rfl, rfl, rfl, id⟩)))
    refine (torn _ ⟨hstep.1.1, hi, hz⟩).meets.mono (fun _ u h => ?_) (fun u h => ?_) fun u h => ?_
    · exact ⟨⟨h.1.1, .of_handles h.1.2.2⟩, h.2, fun _ hh => absurd h.1.2.2 hh⟩
    · exact ⟨⟨h.2.1.1, .of_handles h.2.1.2.2⟩, h.2.2⟩
    · exact ⟨.of_handles ((h.2 hi).2 hz), h.2⟩
  · exact .pure ((composing L i).refl hstep.1)

theorem serves (hE : Composing i E) : (composing L i).Serves i E :=
  have throwPending := composing_serene.throwPending hE.toAside (hE.send .none) fun _ =>
    composing_update (fun _ => ⟨rfl, rfl, rfl, rfl, id⟩) fun _ => rfl
  ⟨hE.send, throwPending, composing_serene.close throwPending hE.toAside,
    .andFinally (composing_serene.finalize throwPending hE.toAside) hE.dropHandle⟩

end Composing

/-- At every depth of nesting, and at every moment, a coroutine whose body has ended by itself awaits nothing. -/
theorem composing_watched (W : Watch) (i : CoroutineId) (n : Nat) : Composing i (.watched L W n) := by
  have unison (n : Nat) : Unison False i (.watched L W n) (.watched L W n) := by
    have h := (probed_unison (L := L) (W := W) False.elim (pure ()) i n).1
    rwa [probed_silent] at h
  induction n with
  | zero =>
    exact ⟨composing_personal.halted.aside, unison 0, vacating_watched W i 0⟩
  | succ n ih =>
    refine ⟨⟨fun v => ?_, fun k a t hk => ?_⟩, unison _, vacating_watched W i _⟩
    · exact (composing_personal.releaseHandle ih.toAside ih.serves v).under_release composing_personal.cut
    · refine (composing_personal.client ih.toAside ih.serves (fun he => ?_) (Client.runBody n a t)).under_run
        composing_personal.cut
      obtain ⟨k, rfl, rfl⟩ := Option.map_eq_some_iff.mp he
      simp [isBodyOf] at hk

end CoroutineEngine
