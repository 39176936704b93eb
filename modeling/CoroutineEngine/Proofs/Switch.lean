import CoroutineEngine.Proofs.Conduct

/-!
# Switches into the fiber

While a body runs, its fiber is out of its place; the record says so until the fiber is put back.

Results:
* `run_meets`, `enterFiber_meets`: what happens on the fiber.
* `switchInto_meets`: a switch into the fiber and back.
* `resume_meets`: the resumption of a started coroutine.
-/

namespace CoroutineEngine

variable {L : Language} {T : Terms} {i : CoroutineId} {E : Engine L} {r : CoroutineRecord L}
  {w : World L}

/-! ## Definitions -/

/-- What is left in the slot when a body is switched out: nothing, in tidy runs. -/
def LeavesNothing (T : Terms) (r : CoroutineRecord L) (v : World L) : Prop :=
  T.tidy → r.supply.lossIn = none → v.ambient.error = none

/-- A fiber that can be entered with a transfer: one that a body waits in, or a fresh one, which gets no
value to begin with and whose body was not entered before. -/
def Enterable (r : CoroutineRecord L) (f : Fiber L) (t : Transfer) : Prop :=
  f.IsWaiting ∨
    f.stack = .fresh ∧ t.value = .none ∧ (t.exception = none → r.history.entries = 0)

/-- The record as a switch notes it: an entry of the body is noted only on a fresh fiber that nothing
is thrown into. -/
inductive Notes (f : Fiber L) (t : Transfer) (r : CoroutineRecord L) : CoroutineRecord L → Prop
  | same : Notes f t r r
  | entry : f.stack = .fresh → t.exception = none → Notes f t r r.noteEntry

/-- The record at the end of what happens on the fiber. -/
structure OnFiber (T : Terms) (i : CoroutineId) (f : Fiber L) (t : Transfer)
    (r r' : CoroutineRecord L) (v : World L) : Prop where
  found : At i r' v
  sound : r'.IsSound T
  stays : ∃ r₀, Notes f t r r₀ ∧ StaysAway r₀ r'
  handled : r'.handled = none
  slot : LeavesNothing T r v

/-- Where what happens on the fiber may be cut. -/
def CutOnFiber (T : Terms) (i : CoroutineId) (f : Fiber L) (t : Transfer) (r : CoroutineRecord L)
    (v : World L) : Prop := ∃ r₀, Notes f t r r₀ ∧ CutFrom T i r₀ v

/-- What a switch tells of the fiber: a body that suspends waits in it, and only a supply of fibers that
are lost lets a switch fail. -/
def Reports (r : CoroutineRecord L) (outcome : Except FiberError (Exit L)) (f : Fiber L) : Prop :=
  match outcome with
  | .ok (.suspended _ _) => f.IsWaiting ∧ (r.supply.lossIn = none → f.lossIn = none)
  | .ok (.completed _) => True
  | .error _ => r.supply.lossIn ≠ none

/-- The outcome of a switch in which the body suspends. -/
def Suspends (outcome : Except FiberError (Exit L)) : Prop := ∃ u b, outcome = .ok (.suspended u b)

/-- What was handled on the body's side is what the body was left with. -/
def FoundLeft (T : Terms) (r : CoroutineRecord L) (v : World L) : Prop :=
  T.civil → v.ambient.handled = r.history.left

/-! ## On the fiber -/

/-- A note about the coroutine that depends on the world. -/
theorem Meets.then_note {α : Type} {g : World L → CoroutineRecord L → CoroutineRecord L}
    {f : Unit → Effect L α} {Q : Post L α} (h : At i r w)
    (next : ∀ v, At i (g w r) v → v.ambient = w.ambient → Meets (f ()) v Q) :
    Meets (.modify (fun w => w.modifyCoroutine i (g w)) >>= f) w Q :=
  ⟨(next _ (at_modify h (g w)) rfl).holds⟩

/-- A run of the body of the coroutine. -/
theorem run_meets (hE : Faithful T i E) (h : At i r w) (hs : r.IsSound T) (hx : r.IsExecuting)
    (code : Code) (frame : Frame) (a : Activation L) (t : Transfer) :
    Meets (E.run (some ⟨i, code, frame⟩) a t) w
      ⟨fun _ v => ∃ r', At i r' v ∧ r'.IsSound T ∧ r.LeadsTo T r' ∧ LeavesNothing T r v,
        fun v => ∃ r', At i r' v ∧ r'.IsSound T ∧ r.LeadsTo T r' ∧ LeavesNothing T r v,
        CutFrom T i r⟩ := by
  have hbody : isBodyOf (some i) (some (⟨i, code, frame⟩ : Context)) = true := by simp [isBodyOf]
  have hstart : (standing L T i (some i)).start w := by
    refine ⟨⟨h.orderly, ?_⟩, fun _ => ?_⟩ <;> rw [h.record]
    · exact hs
    · exact hx
  have hstep {v : World L} (hv : Follows T i (some i) w v) :
      ∃ r', At i r' v ∧ r'.IsSound T ∧ r.LeadsTo T r' := by
    obtain ⟨hi, hl⟩ := hv.leads h.has
    rw [h.record] at hl
    exact ⟨_, ⟨hi, hv.lawful.orderly, rfl⟩, hv.lawful.sound, hl⟩
  have htidy : Meets (E.run (some ⟨i, code, frame⟩) a t) w
      ⟨fun _ => LeavesNothing T r, LeavesNothing T r, fun _ => True⟩ := by
    by_cases ht : T.tidy
    · exact (hE.tidy ht (some ⟨i, code, frame⟩) a t w hbody).mono (fun _ _ hv _ _ => hv)
        (fun _ hv _ _ => hv) fun _ hv => hv
    · exact .of_all (fun _ _ h => absurd h ht) (fun _ h => absurd h ht) fun _ => trivial
  refine ((hE.run (some ⟨i, code, frame⟩) a t w hstart).and htidy).mono ?_ ?_ ?_
  · rintro _ v ⟨hv, hslot⟩
    obtain ⟨r', hv, hr, hl⟩ := hstep hv
    exact ⟨r', hv, hr, hl, hslot⟩
  · rintro v ⟨hv, hslot⟩
    obtain ⟨r', hv, hr, hl⟩ := hstep hv
    exact ⟨r', hv, hr, hl, hslot⟩
  · rintro v ⟨hv, -⟩
    have hp := hv.precedes h.has
    rw [h.record] at hp
    exact ⟨hv.lawful, hp⟩

theorem noteResumption_sound (hs : r.IsSound T) (delivered : Option ExceptionClass) {errorSet : Bool}
    {handled : Option Exception} (hfound : T.civil → errorSet = false ∧ handled = r.history.left) :
    (r.noteResumption delivered errorSet handled).IsSound T :=
  { hs with
    unused := fun hu => { hs.unused hu with }
    held := hs.held
    losses := hs.losses
    surprises := fun ht => by
      obtain ⟨he, hh⟩ := hfound ht
      simp [CoroutineRecord.noteResumption, he, hh, hs.surprises ht] }

theorem noteResumption_leadsTo (r : CoroutineRecord L) (delivered : Option ExceptionClass)
    (errorSet : Bool) (handled : Option Exception) :
    r.LeadsTo T (r.noteResumption delivered errorSet handled) :=
  .of_fields rfl rfl rfl rfl ⟨rfl, rfl, rfl⟩ ⟨rfl, rfl⟩ .rfl (Nat.le_refl _) rfl rfl rfl rfl rfl

theorem noteSwitch_sound (hs : r.IsSound T) (ha : r.IsAway) (handled : Option Exception)
    (finished : List CoroutineId) : (r.noteSwitch handled finished).IsSound T :=
  { hs with
    unused := fun hu => absurd (ha.1.symm.trans hu) (by decide)
    held := hs.held
    losses := hs.losses
    left := fun _ _ hf => absurd ha.2 hf }

theorem noteSwitch_staysAway (ha : r.IsAway) (handled : Option Exception)
    (finished : List CoroutineId) : StaysAway r (r.noteSwitch handled finished) :=
  ⟨.of_fields rfl rfl rfl rfl ⟨rfl, rfl⟩ (Nat.le_refl _), ha, rfl, .inl rfl, rfl, id, id⟩

/-- The body goes on from where it finds what it was left with, and the next time it will find what it
leaves now. -/
theorem continueBody_meets (hE : Faithful T i E) (h : At i r w) (hs : r.IsSound T)
    (hx : r.IsExecuting) (hh : r.handled = none) (he : w.ambient.error = none)
    (hleft : FoundLeft T r w) (code : Code) (frame : Frame) (a : Activation L) (t : Transfer) :
    Meets (continueBody E ⟨i, code, frame⟩ a t) w
      ⟨fun _ v => ∃ r', At i r' v ∧ r'.IsSound T ∧ StaysAway r r' ∧ r'.handled = none ∧
          LeavesNothing T r v ∧ FoundLeft T r' v,
        fun v => ∃ r', At i r' v ∧ r'.IsSound T ∧ StaysAway r r' ∧ r'.handled = none ∧
          LeavesNothing T r v,
        CutFrom T i r⟩ := by
  have hl₁ := noteResumption_leadsTo (T := T) r (t.exception.map (·.kind)) w.ambient.error.isSome
    w.ambient.handled
  have kept {r₂ : CoroutineRecord L} (hl₂ : r.LeadsTo T r₂) : r₂.handled = none := by
    rcases (hl₂.away hx.1).handled with hh' | hh'
    · exact hh'.trans hh
    · exact hh'.1
  refine .then_note h fun v₁ h₁ _ => ?_
  have hs₁ := noteResumption_sound hs (t.exception.map (·.kind)) fun ht =>
    ⟨show w.ambient.error.isSome = false by rw [he]; rfl, hleft ht⟩
  refine .bind ((run_meets hE h₁ hs₁ hx code frame a t).mono ?_ ?_ fun v hv =>
    hv.of_precedes hl₁.toPrecedes)
  · rintro exit v₂ ⟨r₂, h₂, hs₂, hl₂, hslot⟩
    have hl₂ := hl₁.trans hl₂
    have ha₂ := (hl₂.away hx.1).away
    have hh₂ := kept hl₂
    refine .then_note h₂ fun v₃ h₃ hv₃ => .pure ⟨_, h₃, noteSwitch_sound hs₂ ha₂ _ _,
      (hl₂.staysAway hx.1).trans (noteSwitch_staysAway ha₂ _ _), hh₂, ?_, ?_⟩
    · intro ht hloss
      rw [hv₃]
      exact hslot ht hloss
    · intro _
      rw [hv₃]
      rfl
  · rintro v₂ ⟨r₂, h₂, hs₂, hl₂, hslot⟩
    have hl₂ := hl₁.trans hl₂
    exact ⟨r₂, h₂, hs₂, hl₂.staysAway hx.1, kept hl₂, hslot⟩

theorem noteEntry_sound (hs : r.IsSound T) (hr : r.status ≠ .unused) (he : r.history.entries = 0) :
    r.noteEntry.IsSound T :=
  { hs with
    unused := fun h => absurd h hr
    held := hs.held
    entries := Nat.le_of_eq (by rw [CoroutineRecord.noteEntry, he])
    losses := hs.losses }

/-- Entering the fiber, with an empty slot and what the body was left with, unless the fiber is lost. The
exception that is thrown into a fresh one is raised without running the body. -/
theorem enterFiber_meets (hE : Faithful T i E) (h : At i r w) (hs : r.IsSound T)
    (hx : r.IsExecuting) (hh : r.handled = none) (code : Code) (frame : Frame) {f : Fiber L}
    {t : Transfer}
    (hf : Enterable r f t ∧ w.ambient.error = none ∧ FoundLeft T r w ∨
      r.supply.lossIn ≠ none ∧ f.stack = .released)
    (hl : r.supply.lossIn = none → f.lossIn = none) :
    Meets (enterFiber E ⟨i, code, frame⟩ f t) w
      ⟨fun outcome v => ∃ r', OnFiber T i f t r r' v ∧ Reports r' outcome (f.after outcome) ∧
          (Suspends outcome → FoundLeft T r' v),
        fun v => ∃ r', OnFiber T i f t r r' v, CutOnFiber T i f t r⟩ := by
  have run {r₀ : CoroutineRecord L} {v : World L} (hv : At i r₀ v) (hr : r₀.IsSound T)
      (hn : Notes f t r r₀) (hx : r₀.IsExecuting) (hsup : r₀.supply = r.supply)
      (hh : r₀.handled = none) (he : v.ambient.error = none) (hleft : FoundLeft T r₀ v)
      (a : Activation L) :
      Meets (continueBody E ⟨i, code, frame⟩ a t >>= fun exit => pure (.ok exit)) v
        ⟨fun outcome v => ∃ r', OnFiber T i f t r r' v ∧ Reports r' outcome (f.after outcome) ∧
            (Suspends outcome → FoundLeft T r' v),
          fun v => ∃ r', OnFiber T i f t r r' v, CutOnFiber T i f t r⟩ := by
    have slot {v : World L} (hslot : LeavesNothing T r₀ v) : LeavesNothing T r v := by
      unfold LeavesNothing
      rw [← hsup]
      exact hslot
    refine .bind ((continueBody_meets hE hv hr hx hh he hleft code frame a t).mono ?_ ?_
      fun v hc => ⟨r₀, hn, hc⟩)
    · rintro exit v ⟨r', hv, hr, hl', hh', hslot, hleft'⟩
      refine .pure ⟨r', ⟨hv, hr, ⟨r₀, hn, hl'⟩, hh', slot hslot⟩, ?_, fun _ => hleft'⟩
      cases exit with
      | completed result => exact trivial
      | suspended u b =>
        refine ⟨⟨b, rfl⟩, fun hloss => hl ?_⟩
        rw [← hsup, ← hl'.lossIn]
        exact hloss
    · rintro v ⟨r', hv, hr, hl', hh', hslot⟩
      exact ⟨r', hv, hr, ⟨r₀, hn, hl'⟩, hh', slot hslot⟩
  have stay {v : World L} (hv : At i r v) (he : w.ambient.error = none)
      (hamb : v.ambient = w.ambient) : OnFiber T i f t r r v := by
    refine ⟨hv, hs, ⟨r, .same, .refl r, hx.1, rfl, .inl rfl, rfl, id, id⟩, hh, fun _ _ => ?_⟩
    rw [hamb]
    exact he
  have ended {result : Reply} : Suspends (.ok (.completed result) : Except FiberError (Exit L)) → False :=
    fun ⟨_, _, h⟩ => by simp at h
  unfold enterFiber
  rcases hf with ⟨⟨a, ha⟩ | ⟨ha, hval, hentry⟩, he, hleft⟩ | ⟨hloss, ha⟩ <;> simp only [ha]
  · exact run h hs .same hx rfl hh he hleft a
  · cases hex : t.exception with
    | some p =>
      refine .then_sure (instantiate_sure p) h fun e v hv hamb => ?_
      rw [hval]
      refine .then_eq (Effect.onPanic_ok (hE.empty v)) (.pure ⟨r, stay hv he hamb, trivial, ?_⟩)
      exact fun h => (ended h).elim
    | none =>
      refine .then_gets ?_
      cases w.programs[code.entry]? with
      | none =>
        rw [hval]
        exact .then_eq (hE.empty w) (.pure ⟨r, stay h he rfl, trivial, fun h => (ended h).elim⟩)
      | some program =>
        refine .then_modify h fun v hv hamb => ?_
        have he' : v.ambient.error = none := by rw [hamb]; exact he
        have hleft' : FoundLeft T r.noteEntry v := fun ht => by rw [hamb]; exact hleft ht
        exact run hv (noteEntry_sound hs (by rw [hx.1.1]; decide) (hentry hex)) (.entry ha hex) hx
          rfl hh he' hleft' _
  · have gone {r' : CoroutineRecord L} {v : World L} (hv : At i r' v) (hr : r'.IsSound T)
        (hl' : r.LeadsTo T r') : OnFiber T i f t r r' v := by
      refine ⟨hv, hr, ⟨r, .same, hl'.staysAway hx.1⟩, ?_, fun _ hn => absurd hn hloss⟩
      rcases (hl'.away hx.1).handled with h | h
      · exact h.trans hh
      · exact h.1
    refine .then_gentle (hE.releaseAll _) h hs ?_ ?_ fun v hv => ⟨r, .same, hv⟩
    · intro _ r' v hv hr hl'
      refine .pure ⟨r', gone hv hr hl', ?_, fun ⟨_, _, h⟩ => by simp at h⟩
      show r'.supply.lossIn ≠ none
      rw [hl'.lossIn]
      exact hloss
    · exact fun r' v hv hr hl' _ => ⟨r', gone hv hr hl'⟩

/-- A step towards the loss of the fiber, and the fiber entered. -/
theorem attempt_meets (hE : Faithful T i E) (h : At i r w) (hs : r.IsSound T)
    (hx : r.IsExecuting) (hh : r.handled = none) (he : w.ambient.error = none)
    (hleft : FoundLeft T r w) (code : Code) (frame : Frame) {f : Fiber L}
    {t : Transfer} (hf : Enterable r f t) (hl : r.supply.lossIn = none → f.lossIn = none) :
    Meets
      (do
        let fiber ← approachLoss E f
        let outcome ← enterFiber E ⟨i, code, frame⟩ fiber t
        return (outcome, fiber.after outcome)) w
      ⟨fun p v => ∃ r', OnFiber T i f t r r' v ∧ Reports r' p.1 p.2 ∧
          (Suspends p.1 → FoundLeft T r' v),
        fun v => ∃ r', OnFiber T i f t r r' v, CutOnFiber T i f t r⟩ := by
  have enter {f' : Fiber L} (hstack : f'.stack = f.stack)
      (hl : r.supply.lossIn = none → f'.lossIn = none) :
      Meets
        (do
          let outcome ← enterFiber E ⟨i, code, frame⟩ f' t
          return (outcome, f'.after outcome)) w
        ⟨fun p v => ∃ r', OnFiber T i f t r r' v ∧ Reports r' p.1 p.2 ∧
            (Suspends p.1 → FoundLeft T r' v),
          fun v => ∃ r', OnFiber T i f t r r' v, CutOnFiber T i f t r⟩ := by
    have hf' : Enterable r f' t := by
      rw [Enterable, Fiber.IsWaiting, hstack]
      exact hf
    have notes {r₀ : CoroutineRecord L} : Notes f' t r r₀ → Notes f t r r₀
      | .same => .same
      | .entry hfresh hnone => .entry (hstack ▸ hfresh) hnone
    have back {r' : CoroutineRecord L} {v : World L} (hv : OnFiber T i f' t r r' v) :
        OnFiber T i f t r r' v := by
      obtain ⟨r₀, hn, hlead⟩ := hv.stays
      exact ⟨hv.found, hv.sound, ⟨r₀, notes hn, hlead⟩, hv.handled, hv.slot⟩
    refine .bind ((enterFiber_meets hE h hs hx hh code frame (.inl ⟨hf', he, hleft⟩) hl).mono
      ?_ ?_ ?_)
    · rintro outcome v ⟨r', hv, hrep⟩
      exact .pure ⟨r', back hv, hrep⟩
    · rintro v ⟨r', hv⟩
      exact ⟨r', back hv⟩
    · rintro v ⟨r₀, hn, hv⟩
      exact ⟨r₀, notes hn, hv⟩
  unfold approachLoss
  split
  · exact enter rfl hl
  · -- the fiber is lost on this switch, and nothing is entered
    rename_i hone
    have hloss : r.supply.lossIn ≠ none := fun hn => by
      rw [hl hn] at hone
      exact absurd hone (by simp)
    have handled {r' : CoroutineRecord L} (hl' : r.LeadsTo T r') : r'.handled = none := by
      rcases (hl'.away hx.1).handled with h | h
      · exact h.trans hh
      · exact h.1
    have gone {r' : CoroutineRecord L} {v : World L} (hv : At i r' v) (hr : r'.IsSound T)
        (hl' : StaysAway r r') (hh' : r'.handled = none) : OnFiber T i f t r r' v :=
      ⟨hv, hr, ⟨r, .same, hl'⟩, hh', fun _ hn => absurd hn hloss⟩
    refine .bind ?_
    refine .then_gentle (hE.releaseFiber f) h hs ?_ ?_ fun v hv => ⟨r, .same, hv⟩
    · intro _ r₁ v₁ h₁ hs₁ hl₁
      have hloss₁ : r₁.supply.lossIn ≠ none := by
        rw [hl₁.lossIn]
        exact hloss
      have hl₁' := hl₁.staysAway hx.1
      refine .pure (.bind ((enterFiber_meets hE h₁ hs₁ (hl₁.executing hx) (handled hl₁) code frame
        (.inr ⟨hloss₁, rfl⟩) fun _ => rfl).mono ?_ ?_ ?_))
      · rintro outcome v ⟨r', hv, hrep⟩
        obtain ⟨r₀, hn, hl₀⟩ := hv.stays
        cases hn with
        | same => exact .pure ⟨r', gone hv.found hv.sound (hl₁'.trans hl₀) hv.handled, hrep⟩
        | entry hfresh => exact absurd hfresh (by simp)
      · rintro v ⟨r', hv⟩
        obtain ⟨r₀, hn, hl₀⟩ := hv.stays
        cases hn with
        | same => exact ⟨r', gone hv.found hv.sound (hl₁'.trans hl₀) hv.handled⟩
        | entry hfresh => exact absurd hfresh (by simp)
      · rintro v ⟨r₀, hn, hv⟩
        cases hn with
        | same => exact ⟨r, .same, hv.of_precedes hl₁.toPrecedes⟩
        | entry hfresh => exact absurd hfresh (by simp)
    · exact fun r' v hv hr hl' _ => ⟨r', gone hv hr (hl'.staysAway hx.1) (handled hl')⟩
  · rename_i n _ hn
    refine enter rfl fun hnone => ?_
    rw [hl hnone] at hn
    exact absurd hn (by simp)

/-! ## There and back -/

theorem CoroutineRecord.IsCoherent.pending_none (h : r.IsCoherent T) (hr : r.status ≠ .unused) :
    r.pending = none :=
  h.pending.resolve_right fun hp => hr hp.1

theorem CoroutineRecord.IsAway.not_unused (h : r.IsAway) : r.status ≠ .unused := by
  rw [h.1]
  decide

theorem Reports.of_lossIn {r' : CoroutineRecord L} {outcome : Except FiberError (Exit L)}
    {f : Fiber L} (h : Reports r outcome f) (hr : r'.supply.lossIn = r.supply.lossIn) :
    Reports r' outcome f := by
  unfold Reports at h ⊢
  rw [hr]
  exact h

theorem IsLeft.pending {r' : CoroutineRecord L} (h : IsLeft T r r') : r'.pending = none :=
  h.coherent.pending_none h.away.not_unused

theorem CoroutineRecord.IsCoherent.fibers_one (h : r.IsCoherent T) (hu : r.status ≠ .unused) :
    r.history.fibers = 1 := by
  rw [h.fibers, if_neg hu]

/-- A coroutine that is being left can finish, wherever its fiber is. -/
theorem IsLeft.spent {r' : CoroutineRecord L} (h : IsLeft T r r') {fiber : Option (Fiber L)}
    (hf : fiber = none ∨ r'.history.freed = 0) :
    CoroutineRecord.IsSpent T { r' with fiber } where
  status := h.away.1
  running := h.running
  pending := h.pending
  entries := h.coherent.entries
  losses := h.coherent.losses
  surprises := h.coherent.surprises
  lateAsks := h.coherent.lateAsks
  fibers := h.coherent.fibers_one h.away.not_unused
  misentries := h.coherent.misentries
  faults := h.coherent.faults
  finishes := by
    refine h.coherent.finishes.trans (if_neg ?_)
    rw [h.away.1]
    decide
  freed := by
    have hle : r'.history.freed ≤ 1 := by
      have hfreed := h.coherent.freed
      rw [h.coherent.fibers_one h.away.not_unused] at hfreed
      exact Nat.le_trans (Nat.le_add_right _ _) hfreed
    rcases hf with rfl | h0
    · exact hle
    · cases fiber with
      | none => exact hle
      | some f => exact Nat.le_of_eq (congrArg (· + 1) h0)

/-- No switch into the fiber is in flight any more. -/
structure Landed (r r' : CoroutineRecord L) : Prop where
  bare : r.handles = 0 → r'.handles = 0
  landed : ¬ r'.IsInFlight
  laid : r.IsLaid → r'.IsLaid

/-- A coroutine whose fiber was in its place has it back, or has given it up. -/
theorem Landed.accounts {r' : CoroutineRecord L} (h : Landed r r')
    (hr : r.status ≠ .unused → r.fiber ≠ none) : r.Accounts r' :=
  ⟨h.bare, fun hf => absurd hf h.landed, h.laid, fun hu hf => absurd hf (hr hu)⟩

theorem Landed.then_leads {r' r'' : CoroutineRecord L} (h : Landed r r') (hl : r'.LeadsTo T r'') :
    Landed r r'' :=
  ⟨hl.accounts.bare ∘ h.bare, h.landed ∘ hl.accounts.landed, hl.accounts.laid ∘ h.laid⟩

theorem noteDiscarded_sound (hs : r.IsSound T) (hf : r.IsInFlight) : r.noteDiscarded.IsSound T :=
  { hs with
    unused := fun hu => { hs.unused hu with }
    held := hs.held
    losses := hs.losses
    freed := by
      have hnone : r.fiber.toList.length = 0 := by rw [hf.1]; rfl
      show r.history.freed + 1 + r.fiber.toList.length ≤ r.history.fibers
      rw [hnone]
      exact hf.2 }

theorem noteDiscarded_precedes (r : CoroutineRecord L) : r.Precedes r.noteDiscarded :=
  .of_fields rfl rfl rfl rfl ⟨rfl, rfl⟩ (Nat.le_refl _)

/-- The only fiber is given up. -/
theorem noteDiscarded_landed (hs : r.IsCoherent T) (hu : r.status ≠ .unused) :
    ¬ r.noteDiscarded.IsInFlight := by
  rintro ⟨-, hlt⟩
  have hlt : r.history.freed + 1 < r.history.fibers := hlt
  rw [hs.fibers_one hu] at hlt
  exact absurd hlt (by simp)

theorem Closes.then_discarded {r' r'' : CoroutineRecord L} (h : Closes T r r')
    (hl : r'.noteDiscarded.LeadsTo T r'') (hs : r''.IsSound T) : Closes T r r'' :=
  ⟨hs, h.precedes.trans ((noteDiscarded_precedes r').trans hl.toPrecedes),
    hl.running.trans h.running, fun ht => hl.settled ht (h.settled ht)⟩

/-- A coroutine whose fiber stays out of its place keeps a switch in flight. -/
theorem CoroutineRecord.IsInFlight.stays {r' : CoroutineRecord L} (h : r.IsInFlight)
    (hs : r.IsCoherent T) (hs' : r'.IsCoherent T) (hu : r.status ≠ .unused) (hp : r.Precedes r')
    (hf : r'.fiber = none) (hfreed : r'.history.freed = r.history.freed) : r'.IsInFlight := by
  refine ⟨hf, ?_⟩
  rw [hfreed, hs'.fibers_one (hp.not_unused hu), ← hs.fibers_one hu]
  exact h.2

/-- A fiber that is out of its place is given up. -/
theorem discardFiber_meets (hE : Faithful T i E) (h : At i r w) (hs : r.IsSound T)
    (hu : r.status ≠ .unused) (hf : r.IsInFlight) (f : Fiber L) :
    Meets (discardFiber E i f) w
      ⟨fun _ v => ∃ r', At i r' v ∧ Landed r r' ∧ r'.IsSound T ∧ r.noteDiscarded.LeadsTo T r',
        fun v => ∃ r', At i r' v ∧ Landed r r' ∧ r'.IsSound T ∧ r.noteDiscarded.LeadsTo T r',
        CutFrom T i r⟩ := by
  have hlanded : Landed r r.noteDiscarded :=
    ⟨id, noteDiscarded_landed hs.toIsCoherent hu, fun _ _ _ => ⟨hf.1, noteDiscarded_landed hs.toIsCoherent hu⟩⟩
  refine .then_modify h fun v₁ h₁ _ => ?_
  refine (Meets.of_gentle (hE.releaseFiber f) h₁ (noteDiscarded_sound hs hf)).mono ?_ ?_ ?_
  · exact fun _ v ⟨r', hv, hs', hl⟩ => ⟨r', hv, hlanded.then_leads hl, hs', hl⟩
  · exact fun v ⟨_, r', hv, hs', hl⟩ => ⟨r', hv, hlanded.then_leads hl, hs', hl⟩
  · exact fun v hv => hv.of_precedes (noteDiscarded_precedes r)

/-- The record of a coroutine whose body starts to execute. -/
def CoroutineRecord.entered (r : CoroutineRecord L) : CoroutineRecord L :=
  { r with handled := none, running := true }

theorem entered_sound (hs : r.IsCoherent T) (ha : r.IsAway) : r.entered.IsSound T :=
  { hs with
    running := fun _ => ha
    unused := fun h => absurd h ha.not_unused
    left := fun _ _ hf => absurd ha.2 hf
    kept := fun _ _ _ => .inl rfl }

theorem entered_precedes (r : CoroutineRecord L) : r.Precedes r.entered :=
  .of_fields rfl rfl rfl rfl ⟨rfl, rfl⟩ (Nat.le_refl _)

theorem Notes.of_entered {f : Fiber L} {t : Transfer} {r₀ : CoroutineRecord L}
    (h : Notes f t r.entered r₀) : ∃ r₁, Notes f t r r₁ ∧ r₀ = r₁.entered := by
  cases h with
  | same => exact ⟨r, .same, rfl⟩
  | entry hfresh hnone => exact ⟨r.noteEntry, .entry hfresh hnone, rfl⟩

theorem Notes.away {f : Fiber L} {t : Transfer} {r₀ : CoroutineRecord L} (h : Notes f t r r₀)
    (ha : r.IsAway) : r₀.IsAway := by
  cases h with
  | same => exact ha
  | entry _ _ => exact ha

theorem Notes.lossIn {f : Fiber L} {t : Transfer} {r₀ : CoroutineRecord L} (h : Notes f t r r₀) :
    r₀.supply.lossIn = r.supply.lossIn := by
  cases h <;> rfl

/-- The driver's state is parked, and the body finds an empty slot and what it has handled. -/
theorem enterSwitch_meets (h : At i r w) (frame : Frame) :
    Meets (enterSwitch i frame) w
      ⟨fun _ v => At i r.entered v ∧ v.ambient.error = none ∧ v.ambient.handled = r.handled,
        fun _ => False, fun _ => False⟩ := by
  refine .then_ambient h (fun _ => rfl) (fun _ => rfl) fun v₁ h₁ _ => ?_
  refine .then_sure (swapBack_sure _ _) h₁ fun _ v₂ h₂ _ => ?_
  refine .then_update h₂ fun v₃ h₃ _ => ?_
  refine .then_ambient h₃ (fun _ => rfl) (fun _ => rfl) fun v₄ h₄ e₄ => ?_
  refine .then_ambient h₄ (fun _ => rfl) (fun _ => rfl) fun v₅ h₅ e₅ => ?_
  refine .then_modify h₅ fun v₆ h₆ e₆ => ?_
  refine .then_sure (logCoroutine_sure _ _ _ _) h₆ fun _ v₇ h₇ e₇ => ?_
  refine .pure ⟨h₇, ?_, ?_⟩
  · rw [e₇, e₆, e₅, e₄]
  · rw [e₇, e₆, e₅]

/-- What is kept for the next resumption when the body suspends. -/
def Suspended (T : Terms) (r : CoroutineRecord L) (outcome : Except FiberError (Exit L)) : Prop :=
  Suspends outcome → T.civil → r.KeepsHandled

/-- A switch into the fiber and back. If the body panics, the coroutine is finished. -/
theorem switchInto_meets (hE : Faithful T i E) (h : At i r w) (hs : r.IsCoherent T)
    (ha : r.IsAway) (hflight : r.IsInFlight) (hkeep : T.civil → r.handled = r.history.left) (code : Code) (frame : Frame)
    {f : Fiber L} {t : Transfer}
    (hf : Enterable r f t) (hl : r.supply.lossIn = none → f.lossIn = none) :
    Meets (switchInto E i code frame f t) w
      ⟨fun p v => ∃ r₀ r', Notes f t r r₀ ∧ At i r' v ∧ IsLeft T r₀ r' ∧ Reports r' p.1 p.2 ∧
          Suspended T r' p.1,
        fun v => ∃ r₀ r', Notes f t r r₀ ∧ At i r' v ∧ Closes T r₀ r' ∧ Landed r₀ r',
        CutOnFiber T i f t r⟩ := by
  have back {r₀ r₂ r₃ : CoroutineRecord L} (hl₂ : StaysAway r₀.entered r₂)
      (hl₃ : IsLeft T r₂ r₃) : IsLeft T r₀ r₃ := by
    have hp := ((entered_precedes r₀).trans hl₂.toPrecedes).trans hl₃.precedes
    refine ⟨⟨⟨hp.rank, hp.code, hp.stackSize, hp.lossIn, hp.failures, hp.inputs, hp.parameters,
      hp.entries, hp.trespasses⟩, hl₃.away, hl₃.running, ?_, hl₃.freed.trans hl₂.freed,
      hl₃.laid ∘ hl₂.laid, hl₃.bare ∘ hl₂.bare⟩, hl₃.coherent⟩
    rcases hl₃.frame with hf | hf
    · rcases hl₂.frame with hf' | ⟨hrel, hf'⟩
      · exact .inl (hf.trans hf')
      · exact .inr ⟨hl₃.precedes.released hrel, hf.trans hf'⟩
    · exact .inr hf
  have leave {r₀ r₂ : CoroutineRecord L} {v : World L} (hn : Notes f t r r₀)
      (hv : OnFiber T i f t r.entered r₂ v) (hl₂ : StaysAway r₀.entered r₂) (driver : DriverState) :
      Meets (restoreDriver E i frame driver) v
        ⟨fun _ u => ∃ r', At i r' u ∧ IsLeft T r₀ r' ∧ r'.supply.lossIn = r₂.supply.lossIn ∧
            (T.civil → v.ambient.handled = r₂.history.left → r'.KeepsHandled),
          fun v => ¬ T.strict ∧ ∃ r', At i r' v ∧ r'.IsSound T ∧ IsLeft T r₀ r',
          CutFrom T i r₀⟩ := by
    refine (restoreDriver_meets hE hv.found hv.sound hl₂.away hv.handled ?_ frame driver).mono
      ?_ ?_ ?_
    · exact fun ht hnone => hv.slot ht (hn.lossIn.symm.trans (hl₂.lossIn.symm.trans hnone))
    · rintro _ u ⟨r₃, hu, hl₃, hkeep⟩
      exact ⟨r₃, hu, back hl₂ hl₃, hl₃.lossIn, hkeep⟩
    · rintro u ⟨hd, r₃, hu, hs₃, hl₃⟩
      exact ⟨hd, r₃, hu, hs₃, back hl₂ hl₃⟩
    · exact fun u hu => hu.of_precedes ((entered_precedes r₀).trans hl₂.toPrecedes)
  -- until it is given up, the fiber is out of its place
  have flying {r₀ r₃ : CoroutineRecord L} (hn : Notes f t r r₀) (hl₃ : IsLeft T r₀ r₃) :
      r₃.IsInFlight := by
    have hfreed : r₀.history.freed = r.history.freed := by cases hn <;> rfl
    refine ⟨hl₃.away.2, ?_⟩
    rw [hl₃.freed, hl₃.coherent.fibers_one hl₃.away.not_unused, ← hs.fibers_one ha.not_unused]
    exact hfreed ▸ hflight.2
  refine .bind ((enterSwitch_meets h frame).mono ?_ (fun _ h => h.elim) fun _ h => h.elim)
  rintro driver v₁ ⟨h₁, e₁, hh₁⟩
  have hleft₁ : FoundLeft T r.entered v₁ := fun ht => hh₁.trans (hkeep ht)
  refine .bind (.onPanic ((attempt_meets hE h₁ (entered_sound hs ha) ⟨ha, rfl⟩ rfl e₁ hleft₁ code
    frame hf hl).mono ?_ ?_ ?_))
  · -- the body is switched out
    rintro ⟨outcome, fiber⟩ v₂ ⟨r₂, h₂, hrep, hsus⟩
    obtain ⟨_, hn₁, hl₂⟩ := h₂.stays
    obtain ⟨r₀, hn, rfl⟩ := hn₁.of_entered
    refine .bind (.onPanic (.bind ((leave hn h₂ hl₂ driver).mono ?_ ?_ ?_)))
    · rintro _ v₃ ⟨r₃, h₃, hl₃, hloss, hkeep⟩
      exact .pure (.pure ⟨r₀, r₃, hn, h₃, hl₃, hrep.of_lossIn hloss,
        fun h ht => hkeep ht (hsus h ht)⟩)
    · rintro v₃ ⟨hd, r₃, h₃, hs₃, hl₃⟩
      have closed {r₄ : CoroutineRecord L} (hs₄ : r₄.IsSound T) (hl₄ : r₃.LeadsTo T r₄) :
          Closes T r₀ r₄ :=
        ⟨hs₄, hl₃.precedes.trans hl₄.toPrecedes, hl₄.running.trans hl₃.running,
          fun ht => absurd ht hd⟩
      refine .bind ((Meets.of_gentle (hE.releaseAll _) h₃ hs₃).mono ?_ ?_ ?_)
      · rintro _ v₄ ⟨r₄, h₄, hs₄, hl₄⟩
        obtain ⟨hnone, hfreed⟩ := hl₄.accounts.gone hl₃.away.not_unused hl₃.away.2
        have hf₄ := (flying hn hl₃).stays hs₃.toIsCoherent hs₄.toIsCoherent hl₃.away.not_unused
          hl₄.toPrecedes hnone hfreed
        have hlaid : r₀.IsLaid → r₄.IsLaid := hl₄.accounts.laid ∘ hl₃.laid
        refine (discardFiber_meets hE h₄ hs₄ (hl₄.not_unused hl₃.away.not_unused) hf₄ fiber).mono
          ?_ ?_ fun v hv => ⟨r₀, hn, hv.of_precedes (closed hs₄ hl₄).precedes⟩
        · rintro _ v₅ ⟨r₅, h₅, hland, hs₅, hl₅⟩
          exact ⟨r₀, r₅, hn, h₅, (closed hs₄ hl₄).then_discarded hl₅ hs₅,
            hland.bare ∘ hl₄.accounts.bare ∘ hl₃.bare, hland.landed, hland.laid ∘ hlaid⟩
        · rintro v₅ ⟨r₅, h₅, -, hs₅, hl₅⟩
          exact ⟨r₀, hn, .of_at ((closed hs₄ hl₄).then_discarded hl₅ hs₅).precedes hs₅ h₅⟩
      · rintro v₄ ⟨-, r₄, h₄, hs₄, hl₄⟩
        exact ⟨r₀, hn, .of_at (closed hs₄ hl₄).precedes hs₄ h₄⟩
      · exact fun v hv => ⟨r₀, hn, hv.of_precedes hl₃.precedes⟩
    · exact fun v hv => ⟨r₀, hn, hv⟩
  · -- the body has panicked
    rintro v₂ ⟨r₂, h₂⟩
    obtain ⟨_, hn₁, hl₂⟩ := h₂.stays
    obtain ⟨r₀, hn, rfl⟩ := hn₁.of_entered
    refine .bind (.bind ((leave hn h₂ hl₂ driver).mono ?_ ?_ ?_))
    · rintro _ v₃ ⟨r₃, h₃, hl₃, -⟩
      refine .then_sure (logCoroutine_sure _ _ _ _) h₃ fun _ v₄ h₄ _ => ?_
      refine (finish_meets hE h₄ (hl₃.spent (.inl hl₃.away.2))).mono ?_ ?_ ?_
      · rintro _ v₅ ⟨r₅, h₅, hacc, hc₅⟩
        obtain ⟨hnone, hfreed⟩ := hacc.gone hl₃.away.not_unused hl₃.away.2
        have hu₅ := hc₅.precedes.not_unused hl₃.away.not_unused
        have hf₅ := (flying hn hl₃).stays hl₃.coherent hc₅.sound.toIsCoherent hl₃.away.not_unused
          hc₅.precedes hnone hfreed
        have hc₀ : Closes T r₀ r₅ :=
          ⟨hc₅.sound, hl₃.precedes.trans hc₅.precedes, hc₅.running, hc₅.settled⟩
        refine (discardFiber_meets hE h₅ hc₅.sound hu₅ hf₅ f.afterPanic).mono ?_ ?_
          fun v hv => ⟨r₀, hn, hv.of_precedes hc₀.precedes⟩
        · rintro _ v₆ ⟨r₆, h₆, hland, hs₆, hl₆⟩
          exact ⟨r₀, r₆, hn, h₆, hc₀.then_discarded hl₆ hs₆, hland.bare ∘ hacc.bare ∘ hl₃.bare,
            hland.landed, hland.laid ∘ hacc.laid ∘ hl₃.laid⟩
        · rintro v₆ ⟨r₆, h₆, -, hs₆, hl₆⟩
          exact ⟨r₀, hn, .of_at (hc₀.then_discarded hl₆ hs₆).precedes hs₆ h₆⟩
      · rintro v₅ ⟨-, r₅, h₅, -, hc₅⟩
        exact ⟨r₀, hn, .of_at (hl₃.precedes.trans hc₅.precedes) hc₅.sound h₅⟩
      · exact fun v hv => ⟨r₀, hn, hv.of_precedes hl₃.precedes⟩
    · rintro v₃ ⟨-, r₃, h₃, hs₃, hl₃⟩
      exact ⟨r₀, hn, .of_at hl₃.precedes hs₃ h₃⟩
    · exact fun v hv => ⟨r₀, hn, hv⟩
  · rintro v ⟨_, hn₁, hv⟩
    obtain ⟨r₀, hn, rfl⟩ := hn₁.of_entered
    exact ⟨r₀, hn, hv.of_precedes (entered_precedes r₀)⟩

/-! ## Resumption -/

/-- What is left of a request is the law of the record. -/
def Leads (T : Terms) (i : CoroutineId) (r : CoroutineRecord L) (v : World L) : Prop :=
  ∃ r', At i r' v ∧ r'.IsSound T ∧ r.LeadsTo T r'

/-- The postcondition of a request on a coroutine with this record. -/
def Followed (L : Language) (α : Type) (T : Terms) (i : CoroutineId) (r : CoroutineRecord L) :
    Post L α := ⟨fun _ => Leads T i r, Leads T i r, CutFrom T i r⟩

theorem Meets.followed {α : Type} {x : Effect L α} (hx : (gentle L T i).Kept x) (h : At i r w)
    (hs : r.IsSound T) : Meets x w (Followed L α T i r) :=
  (Meets.of_gentle hx h hs).mono (fun _ _ h => h) (fun _ h => h.2) fun _ h => h

/-- What follows a later record follows the one that it comes from. -/
theorem Meets.of_leads {α : Type} {x : Effect L α} {r r' : CoroutineRecord L} (hl : r.LeadsTo T r')
    (h : Meets x w (Followed L α T i r')) : Meets x w (Followed L α T i r) := by
  refine h.mono ?_ ?_ fun v hv => hv.of_precedes hl.toPrecedes
  · exact fun _ v ⟨r'', hv, hs, hl'⟩ => ⟨r'', hv, hs, hl.trans hl'⟩
  · exact fun v ⟨r'', hv, hs, hl'⟩ => ⟨r'', hv, hs, hl.trans hl'⟩

theorem Meets.then_followed {α β : Type} {x : Effect L α} {f : α → Effect L β}
    {r : CoroutineRecord L} (h : Meets x w (Followed L α T i r))
    (next : ∀ a r' v, At i r' v → r'.IsSound T → r.LeadsTo T r' →
      Meets (f a) v (Followed L β T i r')) : Meets (x >>= f) w (Followed L β T i r) :=
  .bind (h.mono (fun a v ⟨r', hv, hs, hl⟩ => .of_leads hl (next a r' v hv hs hl)) (fun _ h => h)
    fun _ h => h)

/-- The record of a coroutine whose fiber is taken out of its place. -/
def CoroutineRecord.taken (r : CoroutineRecord L) : CoroutineRecord L :=
  { r.noteEntrance with fiber := none }

theorem taken_precedes (r : CoroutineRecord L) : r.Precedes r.taken :=
  .of_fields rfl rfl rfl rfl ⟨rfl, rfl⟩ (Nat.le_refl _)

theorem taken_misentries (hb : r.isBarred = false) (hm : r.history.misentries = 0) :
    r.taken.history.misentries = 0 := by
  simp [CoroutineRecord.taken, CoroutineRecord.noteEntrance, hb, hm]

/-- A fiber is put back into its place. -/
theorem putBack_sound {f : Fiber L} (hs : r.IsCoherent T) (hr : r.running = false)
    (ha : r.IsAway) (hf : f.IsWaiting ∧ (r.supply.lossIn = none → f.lossIn = none))
    (hkeep : T.civil → r.KeepsHandled) (hfreed : r.history.freed = 0) :
    CoroutineRecord.IsSound T { r with fiber := some f } :=
  { hs with
    running := fun h => absurd (hr.symm.trans h) Bool.false_ne_true
    unused := fun h => absurd h ha.not_unused
    fiber := fun g hg _ => Option.some.inj hg ▸ hf
    left := fun ht _ _ => hkeep ht
    kept := fun _ _ h => absurd h.2 (by simp)
    freed := show r.history.freed + 1 ≤ r.history.fibers from
      Nat.le_of_eq (by rw [hfreed, hs.fibers_one ha.not_unused]) }

/-- A request that finds the frame or the fiber missing is made while the body is being left, unless the
coroutine is torn down. -/
theorem noteLoss_sound (hs : r.IsSound T) (hr : r.running = false) (hrun : r.status = .running)
    (hmissing : r.frame = none ∨ r.fiber = none) : r.noteLoss.IsSound T := by
  refine
    { hs with
      unused := fun hu => { hs.unused hu with }
      held := hs.held, entries := hs.entries, losses := ?_ }
  intro hl
  obtain ⟨hlosses, hintrusions⟩ := hs.losses hl
  cases hrel : r.released with
  | true => simpa [CoroutineRecord.noteLoss, hrel] using ⟨hlosses, hintrusions⟩
  | false =>
    have hfiber : r.fiber = none := hmissing.resolve_left (hs.frame hrun hrel)
    have hleft : r.isBeingLeft = true := by
      simp [CoroutineRecord.isBeingLeft, CoroutineRecord.isSuspended, hfiber, hr, hrun]
    refine ⟨by simp [CoroutineRecord.noteLoss, hrel, hleft, hlosses], fun ht => ?_⟩
    refine absurd (hs.kept ht hl ⟨hrun, hfiber⟩) ?_
    simp [hr, hrel]

theorem noteLoss_leadsTo (r : CoroutineRecord L) : r.LeadsTo T r.noteLoss :=
  .of_fields rfl rfl rfl rfl ⟨rfl, rfl, rfl⟩ ⟨rfl, rfl⟩ .rfl (Nat.le_refl _) rfl rfl rfl rfl rfl

/-- How the record in which a switch is noted relates to one from before. -/
structure Begins (r r' : CoroutineRecord L) : Prop extends r.Precedes r' where
  laid : r.IsLaid → r'.IsLaid
  bare : r.handles = 0 → r'.handles = 0

/-- The resumption of a started coroutine, whose fiber is in its place or is found missing. What follows
is told of the record `r₀` of the coroutine at the time of the request, which may have started it. -/
theorem resume_meets (hE : Faithful T i E) (h : At i r w) (hs : r.taken.IsCoherent T)
    (hr : r.running = false) (hrun : r.status = .running)
    (hkeep : T.civil → r.fiber ≠ none → r.KeepsHandled) {t : Transfer}
    (hf : ∀ f, r.fiber = some f → Enterable r f t ∧ (r.supply.lossIn = none → f.lossIn = none))
    {r₀ : CoroutineRecord L} (hr₀ : r₀.running = false) (ha₀ : ¬ r₀.IsAway ∨ r₀ = r)
    (hf₀ : r₀.status ≠ .finished)
    (hnotes : ∀ f r₁, r.fiber = some f → Notes f t r.taken r₁ → Begins r₀ r₁)
    (hmissing : r.frame = none ∨ r.fiber = none → r.IsSound T ∧ r₀ = r)
    (hfreed : r.fiber ≠ none → r.history.freed = 0) :
    Meets (resume E i t) w (Followed L Reply T i r₀) := by
  have refused (hm : r.frame = none ∨ r.fiber = none) :
      Meets
        (do
          modifyCoroutine i CoroutineRecord.noteLoss
          refuse E .contextLost t.owned) w (Followed L Reply T i r₀) := by
    obtain ⟨hs, rfl⟩ := hmissing hm
    refine .then_modify h fun v hv _ => .of_leads (noteLoss_leadsTo _) ?_
    exact .followed (hE.refuse _ _) hv (noteLoss_sound hs hr hrun hm)
  refine .then_record h ?_
  cases hframe : r.frame with
  | none => exact refused (.inl hframe)
  | some frame =>
    cases hfiber : r.fiber with
    | none => exact refused (.inr hfiber)
    | some f =>
      have hplace : r₀.status ≠ .unused → r₀.fiber ≠ none := by
        intro hu hnone
        rcases ha₀ with ha₀ | rfl
        · refine ha₀ ⟨?_, hnone⟩
          cases hs₀ : r₀.status with
          | unused => exact absurd hs₀ hu
          | running => rfl
          | finished => exact absurd hs₀ hf₀
        · exact absurd (hfiber.symm.trans hnone) (by simp)
      have hback {r' : CoroutineRecord L} {v : World L} (hv : At i r' v) (hc : Closes T r₀ r')
          (hl : Landed r₀ r') : Leads T i r₀ v := by
        refine ⟨r', hv, hc.sound, hc.leadsTo hr₀ (fun ha => ?_) hf₀ (hl.accounts hplace)⟩
        exact hplace (by rw [ha.1]; decide) ha.2
      have hfreed₀ := hfreed (by simp [hfiber])
      have hflight : r.taken.IsInFlight := by
        refine ⟨rfl, ?_⟩
        rw [hs.fibers_one (show r.status ≠ .unused by rw [hrun]; decide)]
        exact Nat.lt_of_le_of_lt (Nat.le_of_eq hfreed₀) Nat.one_pos
      refine .then_modify h fun v₁ h₁ _ => ?_
      have hkept : T.civil → r.taken.handled = r.taken.history.left := fun ht =>
        hkeep ht (by simp [hfiber]) (by simp [hframe])
      refine .bind ((switchInto_meets hE (r := r.taken) h₁ hs ⟨hrun, rfl⟩ hflight hkept r.code frame
        (hf f hfiber).1 (hf f hfiber).2).mono ?_ ?_ ?_)
      · rintro ⟨outcome, fiber⟩ v₂ ⟨r₁, r₂, hn, h₂, hl₂, hrep, hsus⟩
        have hbegins := hnotes f r₁ hfiber hn
        have hp₂ := hbegins.toPrecedes.trans hl₂.precedes
        have hfreed₂ : r₂.history.freed = 0 := by
          refine hl₂.freed.trans (Eq.trans ?_ hfreed₀)
          cases hn <;> rfl
        refine .then_modify h₂ fun v₃ h₃ _ => ?_
        -- the fiber is in its place, whatever has become of it
        have hland₃ {r₃ : CoroutineRecord L} (hr₃ : r₃.fiber = some fiber)
            (hh₃ : r₃.handles = r₂.handles) (ht₃ : r₃.history.trespasses = r₂.history.trespasses) :
            Landed r₀ r₃ := by
          refine ⟨fun h => hh₃.trans (hl₂.bare (hbegins.bare h)), fun h => absurd (hr₃.symm.trans h.1) (by simp), fun hlaid h0 ht0 => ?_⟩
          -- the switch was in flight, so somebody has trespassed
          have hlaid₂ := hl₂.laid (hbegins.laid hlaid) (hh₃ ▸ h0) (ht₃ ▸ ht0)
          refine absurd ⟨hl₂.away.2, ?_⟩ hlaid₂.2
          rw [hfreed₂, hl₂.coherent.fibers_one hl₂.away.not_unused]
          exact Nat.one_pos
        have finish {r₃ : CoroutineRecord L} {v₃ : World L} (h₃ : At i r₃ v₃)
            (hp₃ : r₂.Precedes r₃) (hs₃ : r₃.IsSpent T) (hl₃ : Landed r₀ r₃) :
            Meets (finish E i) v₃
              ⟨fun _ v => ∃ r', At i r' v ∧ Closes T r₀ r' ∧ Landed r₀ r',
                fun v => ¬ T.strict ∧ ∃ r', At i r' v ∧ Closes T r₀ r' ∧ Landed r₀ r',
                CutFrom T i r₀⟩ := by
          have hp := hp₂.trans hp₃
          have closed {r' : CoroutineRecord L} (hacc : r₃.Accounts r') (hc : Closes T r₃ r') :
              Closes T r₀ r' ∧ Landed r₀ r' :=
            ⟨⟨hc.sound, hp.trans hc.precedes, hc.running, hc.settled⟩, hacc.bare ∘ hl₃.bare,
              hl₃.landed ∘ hacc.landed, hacc.laid ∘ hl₃.laid⟩
          refine (finish_meets hE h₃ hs₃).mono ?_ ?_ ?_
          · rintro _ v ⟨r', hv, hacc, hc⟩
            exact ⟨r', hv, closed hacc hc⟩
          · rintro v ⟨hd, r', hv, hacc, hc⟩
            exact ⟨hd, r', hv, closed hacc hc⟩
          · exact fun v hv => hv.of_precedes hp
        rcases outcome with error | ⟨u, b⟩ | result
        · refine .then_sure (logCoroutine_sure _ _ _ _) h₃ fun _ v₄ h₄ _ => ?_
          refine .then_modify h₄ fun v₅ h₅ _ => ?_
          refine .bind ((finish h₅ (.of_fields rfl rfl rfl rfl ⟨rfl, rfl⟩ (Nat.le_refl _))
            { hl₂.spent (.inr hfreed₂) with
              losses := fun hnone => absurd hnone hrep, faults := fun hnone => absurd hnone hrep }
            (hland₃ rfl rfl rfl)).mono ?_ ?_ fun _ h => h)
          · rintro _ v₆ ⟨r₆, h₆, hc₆, hl₆⟩
            exact .then_sure (raise_sure _) h₆ fun _ v₇ h₇ _ => .pure (hback h₇ hc₆ hl₆)
          · rintro v₆ ⟨-, r₆, h₆, hc₆, hl₆⟩
            exact hback h₆ hc₆ hl₆
        · refine .pure (hback h₃ ⟨putBack_sound hl₂.coherent hl₂.running hl₂.away hrep
            (hsus ⟨u, b, rfl⟩) hfreed₂,
            hp₂.trans (.of_fields rfl rfl rfl rfl ⟨rfl, rfl⟩ (Nat.le_refl _)), hl₂.running, ?_⟩
            (hland₃ rfl rfl rfl))
          exact fun _ hfin => absurd (hl₂.away.1.symm.trans hfin) (by decide)
        · refine .bind (.onPanic ((finish h₃ (.of_fields rfl rfl rfl rfl ⟨rfl, rfl⟩ (Nat.le_refl _))
            (hl₂.spent (.inr hfreed₂)) (hland₃ rfl rfl rfl)).mono ?_ ?_ fun _ h => h))
          · rintro _ v₄ ⟨r₄, h₄, hc₄, hl₄⟩
            refine .sure (surface_sure _ _ _) h₄ fun _ v₅ h₅ _ => hback h₅ hc₄ hl₄
          · rintro v₄ ⟨hd, r₄, h₄, hc₄, hl₄⟩
            refine (Meets.of_gentle (hE.releaseAll _) h₄ hc₄.sound).mono ?_ ?_ ?_
            · rintro _ v₅ ⟨r₅, h₅, hs₅, hl₅⟩
              exact hback h₅ (hc₄.trans hl₅ hs₅) (hl₄.then_leads hl₅)
            · rintro v₅ ⟨-, r₅, h₅, hs₅, hl₅⟩
              exact .of_at (hc₄.precedes.trans hl₅.toPrecedes) hs₅ h₅
            · exact fun v hv => hv.of_precedes hc₄.precedes
      · rintro v ⟨r₁, r', hn, hv, hc, hl⟩
        have hbegins := hnotes f r₁ hfiber hn
        exact hback hv ⟨hc.sound, hbegins.toPrecedes.trans hc.precedes, hc.running, hc.settled⟩
          ⟨hl.bare ∘ hbegins.bare, hl.landed, hl.laid ∘ hbegins.laid⟩
      · rintro v ⟨r₁, hn, hv⟩
        exact hv.of_precedes (hnotes f r₁ hfiber hn).toPrecedes

end CoroutineEngine
