import CoroutineEngine.Proofs.Upheld

/-!
# Laws about one coroutine

A law about one coroutine need not care for what leaves coroutines alone, nor for what is done with the records of
others. Once requests on the coroutine itself and the releases of its handles keep such a law, everything does. Most
of what these do changes little of the record.

Results:
* `Law.Personal.plain`, `Law.Personal.holder`: what does nothing to the record of the coroutine.
* `Law.Personal.client`: whatever a client asks for.
* `Law.Personal.watched`: engines of any depth.
* `Law.Serene.throwPending`, `Law.Serene.finalize`, `Law.Lenient.releaseCoroutine`: throws, and releases of handles.
* `Law.Patient.switchInto`: switches.
* `Law.Tolerant.send`, `Law.Tolerant.watched`: all requests, on engines of any depth.
-/

namespace CoroutineEngine

variable {L : Language} {α : Type}

/-! ## Definitions -/

/-- A law that is kept by whatever leaves coroutines alone, and by changes of the records of other coroutines. Where
it holds at the end, it holds of a cut there. -/
structure Law.Personal (Λ : Law L) (i : CoroutineId) : Prop where
  orderly : ∀ {w}, Λ.start w → w.Orderly
  harmless : ∀ {α : Type} {x : Effect L α}, Harmless x → Λ.Kept x
  other : ∀ {c : CoroutineId} {α : Type} {x : Effect L α}, c ≠ i → Held c x → Λ.Kept x
  exchange : ∀ {w} (hook : Option (Hook L)), Λ.start w → (∀ k, hook = some k → k.owned = []) →
    Λ.step w { w with ambient := { w.ambient with hook } }
  cut : ∀ {w v}, Λ.step w v → Λ.cut w v

/-- An engine that keeps the law, unless it runs the body of the coroutine. -/
structure Law.Aside (Λ : Law L) (i : CoroutineId) (E : Engine L) : Prop where
  release : ∀ v, Λ.Kept (E.release v)
  run : ∀ k a t, isBodyOf (some i) k = false → Λ.Kept (E.run k a t)

/-- On an engine, the law is kept by what is done with the coroutine itself. -/
structure Law.Serves (Λ : Law L) (i : CoroutineId) (E : Engine L) : Prop where
  send : ∀ v, Λ.Kept (send E i v)
  throwPending : ∀ p, Λ.Kept (throwPending E i p)
  close : Λ.Kept (close E i)
  release : Λ.Kept (releaseCoroutine E i)

/-- What is left alone in the record of a coroutine, unless it starts, finishes, or gets a fiber or an exception. -/
structure CoroutineRecord.Keeps (r r' : CoroutineRecord L) : Prop where
  status : r'.status = r.status
  code : r'.code = r.code
  reportChildren : r'.reportChildren = r.reportChildren
  supply : r'.supply = r.supply
  parameters : r'.history.parameters = r.history.parameters
  closure : r'.history.closure = r.history.closure
  fiber : r'.fiber = r.fiber ∨ r'.fiber = none
  pending : r'.pending = r.pending ∨ r'.pending = none

/-- What is left alone in the record of a coroutine whatever is done with it, except that an exception is primed. -/
structure CoroutineRecord.Abides (r r' : CoroutineRecord L) : Prop where
  code : r'.code = r.code
  reportChildren : r'.reportChildren = r.reportChildren
  parameters : r'.history.parameters = r.history.parameters
  closure : r'.history.closure = r.history.closure
  pending : r'.pending = r.pending ∨ r'.pending = none

/-- What is left alone moreover as long as somebody holds the coroutine, unless a switch is made into it. -/
structure CoroutineRecord.Maintains (r r' : CoroutineRecord L) : Prop extends r.Keeps r' where
  frame : r'.frame = r.frame
  inPlace : r'.fiber = r.fiber
  awaiting : r'.awaiting = r.awaiting
  faults : r'.history.faults = r.history.faults
  bare : r.handles = 0 → r'.handles = 0

/-- A law about a coroutine that does not care for changes of its record that leave so much alone. -/
structure Law.Serene (Λ : Law L) (i : CoroutineId) : Prop extends Λ.Personal i where
  calm : ∀ {α : Type} {x : Effect L α},
    (∀ w, ∃ f, (x w).2 = w.modifyCoroutine i f ∧ (w.coroutine i).Maintains (f (w.coroutine i))) → Λ.Kept x

/-- Such a law that does not care either for the coroutine to give up what it has. -/
structure Law.Lenient (Λ : Law L) (i : CoroutineId) : Prop extends Λ.Personal i where
  own : ∀ {α : Type} {x : Effect L α},
    (∀ w, ∃ f, (x w).2 = w.modifyCoroutine i f ∧ (w.coroutine i).Keeps (f (w.coroutine i))) → Λ.Kept x

/-- Such a law that does not care either for the coroutine to finish. -/
structure Law.Patient (Λ : Law L) (i : CoroutineId) : Prop extends Λ.Lenient i where
  concludes : Λ.Kept (updateCoroutine i fun r =>
    let (parameters, inputs) := r.inputs.releaseParameters
    (parameters, { r.noteFinish with status := .finished, frame := none, inputs }))

/-- A law about a coroutine that cares only for what is left alone whatever is done with the coroutine. -/
structure Law.Tolerant (Λ : Law L) (i : CoroutineId) : Prop extends Λ.Personal i where
  abides : ∀ {α : Type} {x : Effect L α},
    (∀ w, ∃ f, (x w).2 = w.modifyCoroutine i f ∧ (w.coroutine i).Abides (f (w.coroutine i))) → Λ.Kept x

variable {Λ : Law L} {i : CoroutineId} {E : Engine L}

theorem Law.Upheld.aside (hE : Λ.Upheld E) : Λ.Aside i E := ⟨hE.release, fun k a t _ => hE.run k a t⟩

namespace Law.Aside

theorem releaseAll (hE : Λ.Aside i E) (vs : List Value) : Λ.Kept (E.releaseAll vs) := .releaseAll hE.release vs

theorem owning (hE : Λ.Aside i E) (vs : List Value) {x : Effect L α} (hx : Λ.Kept x) : Λ.Kept (E.owning vs x) :=
  hx.onPanic (hE.releaseAll vs)

end Law.Aside

namespace Law.Upheld

theorem releaseAll (hE : Λ.Upheld E) (vs : List Value) : Λ.Kept (E.releaseAll vs) := .releaseAll hE.release vs

theorem owning (hE : Λ.Upheld E) (vs : List Value) {x : Effect L α} (hx : Λ.Kept x) : Λ.Kept (E.owning vs x) :=
  hx.onPanic (hE.releaseAll vs)

end Law.Upheld

namespace Law.Personal

/-! ## What leaves the record alone -/

theorem quiet (h : Λ.Personal i) {x : Effect L α} (hx : Quiet x) : Λ.Kept x := h.harmless hx.harmless

theorem still (h : Λ.Personal i) {x : Effect L α} (hx : Still x) : Λ.Kept x := h.quiet hx.quiet

theorem reported (h : Λ.Personal i) : Λ.Reported where
  orderly := h.orderly
  discreet hx _ := h.quiet hx
  exchange := h.exchange

theorem report (h : Λ.Personal i) (hE : Λ.Aside i E) (object : String) (e : Exception) :
    Λ.Kept (writeUnraisable E object e) :=
  h.reported.report hE.release (fun a t => hE.run none a t rfl) object e

theorem atom (h : Λ.Personal i) (hE : Λ.Aside i E) {c : Option CoroutineId} (hc : c ≠ some i) {x : Procedure L α}
    (hx : RequestAtom c x) : Λ.Kept (x E) := by
  cases hx with
  | quiet hx => exact h.quiet hx
  | release v => exact hE.release v
  | report object e => exact h.report hE object e
  | own j hj hx => exact h.other (fun he => hc (by rw [hj, he])) hx.held
  | run k a t hk =>
    refine hE.run k a t ?_
    cases k with
    | none => rfl
    | some k =>
      have hne : i ≠ k.coroutine := fun he => hc (by rw [hk k rfl, he])
      simpa [isBodyOf] using hne

/-- What does nothing to the record of any coroutine. -/
theorem plain (h : Λ.Personal i) (hE : Λ.Aside i E) {x : Procedure L α} (hx : Request none x) : Λ.Kept (x E) :=
  Composed.kept (fun hx => h.atom hE (by simp) hx) hx

/-- What the holders of other coroutines do. -/
theorem holder (h : Λ.Personal i) (hE : Λ.Aside i E) {c : CoroutineId} (hc : c ≠ i) {x : Procedure L α}
    (hx : Holder c x) : Λ.Kept (x E) := by
  refine Composed.kept (fun hx => ?_) hx
  cases hx with
  | request hx => exact h.atom hE (fun h => hc (Option.some.inj h)) hx
  | held hx => exact h.other hc hx
  | withdraw => exact h.harmless (untrackObject_mild _).harmless

/-! ## Clients and engines -/

/-- What is done with any coroutine keeps the law if it does so on the one that the law is about. -/
theorem anyone (h : Λ.Personal i) (hE : Λ.Aside i E) {x : CoroutineId → Procedure L α} (hx : ∀ c, Holder c (x c))
    (hi : Λ.Kept (x i E)) (c : CoroutineId) : Λ.Kept (x c E) := by
  by_cases hc : c = i
  · subst hc
    exact hi
  · exact h.holder hE hc (hx c)

/-- Whatever a client asks for; the body of the coroutine itself notes what it awaits. -/
theorem client (h : Λ.Personal i) (hE : Λ.Aside i E) (own : Λ.Serves i E) {k : Option CoroutineId}
    (notes : k = some i → ∀ v, Λ.Kept (updateCoroutine i fun r => (r.awaiting, { r with awaiting := v })))
    {x : Procedure L α} (hx : Client k x) : Λ.Kept (x E) := by
  refine Composed.kept (fun hx => ?_) hx
  cases hx with
  | quiet hx => exact h.quiet hx
  | release v => exact hE.release v
  | send c v =>
    exact h.anyone hE (x := fun c E => CoroutineEngine.send E c v) (fun _ => (Request.send v).holder) (own.send v) c
  | throwPending c p =>
    exact h.anyone hE (x := fun c E => CoroutineEngine.throwPending E c p)
      (fun _ => (Request.throwPending p).holder) (own.throwPending p) c
  | close c =>
    exact h.anyone hE (x := fun c E => CoroutineEngine.close E c) (fun _ => Request.close.holder) own.close c
  | report object e => exact h.report hE object e
  | await c v hk =>
    by_cases hc : c = i
    · subst hc
      exact notes hk v
    · exact h.other hc (updateCoroutine_held c fun _ => Nat.le_refl _)

theorem releaseHandle (h : Λ.Personal i) (hE : Λ.Aside i E) (own : Λ.Serves i E) (v : Value) :
    Λ.Kept (releaseHandle E v) := by
  refine Composed.kept (fun hx => ?_) (Release.releaseHandle v)
  cases hx with
  | discreet hx => exact h.quiet hx.quiet
  | release v => exact hE.release v
  | coroutine c =>
    exact h.anyone hE (x := fun c E => releaseCoroutine E c) (fun _ => Holder.releaseCoroutine) own.release c

theorem halted (h : Λ.Personal i) : Λ.Upheld (.halted : Engine L) := by
  have cut {w : World L} (hw : Λ.start w) : Λ.cut w w := h.cut (Λ.refl hw)
  refine ⟨fun v w hw => ?_, fun _ _ _ w hw => ⟨cut hw⟩⟩
  show Meets (if v.isNone then pure () else .stop) w _
  split
  · exact .pure (Λ.refl hw)
  · exact ⟨cut hw⟩

/-- At every depth of nesting, engines keep the law. -/
theorem watched {W : Watch} (h : Λ.Personal i)
    (notes : ∀ v, Λ.Kept (updateCoroutine i fun r => (r.awaiting, { r with awaiting := v })))
    (own : ∀ {n : Nat}, Λ.Upheld (.watched L W n) → Λ.Serves i (.watched L W n)) (n : Nat) :
    Λ.Upheld (.watched L W n) := by
  induction n with
  | zero => exact h.halted
  | succ n ih =>
    exact ⟨fun v => (h.releaseHandle ih.aside (own ih) v).under_release h.cut,
      fun _ a t => (h.client ih.aside (own ih) (fun _ => notes) (Client.runBody n a t)).under_run h.cut⟩

end Law.Personal

/-! ## Requests and releases -/

namespace Law.Serene

theorem update (h : Λ.Serene i) {f : CoroutineRecord L → α × CoroutineRecord L}
    (hf : ∀ r : CoroutineRecord L, r.Maintains (f r).2) : Λ.Kept (updateCoroutine i f) :=
  h.calm fun w => ⟨fun _ => (f (w.coroutine i)).2, rfl, hf _⟩

theorem modify (h : Λ.Serene i) {f : CoroutineRecord L → CoroutineRecord L}
    (hf : ∀ r : CoroutineRecord L, r.Maintains (f r)) : Λ.Kept (modifyCoroutine i f) :=
  h.calm fun _ => ⟨f, rfl, hf _⟩

/-- A primed exception is taken out of its place. -/
theorem unprimes (h : Λ.Serene i) : Λ.Kept (updateCoroutine i fun r => (r.pending, { r with pending := none })) :=
  h.update fun _ => ⟨⟨rfl, rfl, rfl, rfl, rfl, rfl, .inl rfl, .inr rfl⟩, rfl, rfl, rfl, rfl, id⟩

/-- A note that is made of the coroutine. -/
theorem noted (h : Λ.Serene i) {f : CoroutineRecord L → CoroutineRecord L}
    (hf : ∀ r : CoroutineRecord L, ∃ finalized history, f r = { r with finalized, history } ∧
      history.parameters = r.history.parameters ∧ history.closure = r.history.closure ∧
      history.faults = r.history.faults) : Λ.Kept (modifyCoroutine i f) :=
  h.modify fun r => by
    obtain ⟨finalized, history, he, hp, hc, hfaults⟩ := hf r
    rw [he]
    exact ⟨⟨rfl, rfl, rfl, rfl, hp, hc, .inl rfl, .inl rfl⟩, rfl, rfl, rfl, hfaults, id⟩

/-- A throw keeps a law that is kept by a send, and by the priming of an exception. -/
theorem throwPending (h : Λ.Serene i) (hE : Λ.Aside i E) (send : Λ.Kept (send E i .none))
    (prime : ∀ p, Λ.Kept (updateCoroutine i fun r => (r.pending, { r with pending := some p })))
    (p : PendingException) : Λ.Kept (throwPending E i p) := by
  refine .bind (h.quiet (.gets _)) fun r => ?_
  split
  · exact h.plain hE (.refuse _ _)
  · split
    · exact .bind (h.still (instantiate_still p)) fun _ => .pure _
    · exact .bind (prime p) fun _ => .bind (hE.releaseAll _) fun _ => .bind send fun _ => .bind h.unprimes fun _ =>
        .bind (hE.owning _ (hE.releaseAll _)) fun _ => .pure _

variable (throws : ∀ p, Λ.Kept (CoroutineEngine.throwPending E i p))
include throws

theorem close (h : Λ.Serene i) (hE : Λ.Aside i E) : Λ.Kept (CoroutineEngine.close E i) := by
  refine .bind (h.quiet (.gets _)) fun r => ?_
  split
  · exact .pure _
  · refine .bind (throws _) fun reply => ?_
    cases reply with
    | ok v => exact h.plain hE (.refuse _ _)
    | error e =>
      dsimp only
      split
      · exact .bind (hE.release _) fun _ => .pure _
      · exact .pure _

theorem closeUnraisable (h : Λ.Serene i) (hE : Λ.Aside i E) : Λ.Kept (closeUnraisable E i) := by
  refine .bind (h.noted fun r => ⟨true, r.history, rfl, rfl, rfl, rfl⟩) fun _ =>
    .bind (h.quiet fetchError_quiet) fun saved => .bind (hE.owning _ (.bind (h.close throws hE) fun reply => ?_))
      fun _ => .bind (h.quiet (swapError_quiet _)) fun _ => hE.releaseAll _
  cases reply with
  | ok v => exact hE.release v
  | error e => exact .bind (h.quiet (.gets _)) fun _ => h.report hE _ e

theorem finalize (h : Λ.Serene i) (hE : Λ.Aside i E) : Λ.Kept (finalize E i) := by
  refine .bind (h.quiet (.gets _)) fun r => ?_
  split
  · refine .bind (h.still (logCoroutine_still _ _ _ _)) fun _ =>
      .bind (h.noted fun r => ⟨r.finalized, _, rfl, rfl, rfl, rfl⟩) fun _ =>
        .bind (h.closeUnraisable throws hE) fun _ => .bind (h.quiet (.gets _)) fun r => ?_
    split
    · exact h.still (logCoroutine_still _ _ _ _)
    · exact .pure _
  · exact .pure _

end Law.Serene

namespace Law.Lenient

theorem serene (h : Λ.Lenient i) : Λ.Serene i where
  toPersonal := h.toPersonal
  calm hx := h.own fun w => by
    obtain ⟨f, hf, hr⟩ := hx w
    exact ⟨f, hf, hr.toKeeps⟩

theorem update (h : Λ.Lenient i) {f : CoroutineRecord L → α × CoroutineRecord L}
    (hf : ∀ r : CoroutineRecord L, r.Keeps (f r).2) : Λ.Kept (updateCoroutine i f) :=
  h.own fun w => ⟨fun _ => (f (w.coroutine i)).2, rfl, hf _⟩

theorem modify (h : Λ.Lenient i) {f : CoroutineRecord L → CoroutineRecord L}
    (hf : ∀ r : CoroutineRecord L, r.Keeps (f r)) : Λ.Kept (modifyCoroutine i f) :=
  h.own fun _ => ⟨f, rfl, hf _⟩

/-- What the body awaits is noted. -/
theorem notes (h : Λ.Lenient i) (v : Option Value) :
    Λ.Kept (updateCoroutine i fun r => (r.awaiting, { r with awaiting := v })) :=
  h.update fun _ => ⟨rfl, rfl, rfl, rfl, rfl, rfl, .inl rfl, .inl rfl⟩

theorem relinquish (h : Λ.Lenient i) (hE : Λ.Aside i E) : Λ.Kept (relinquish E i) :=
  .bind (h.update fun _ => ⟨rfl, rfl, rfl, rfl, rfl, rfl, .inl rfl, .inl rfl⟩) fun _ =>
    .bind (hE.releaseAll _) fun _ =>
      .bind (h.update fun _ => ⟨rfl, rfl, rfl, rfl, rfl, rfl, .inl rfl, .inl rfl⟩) fun _ =>
        .bind (hE.releaseAll _) fun _ =>
          .bind (h.update fun _ => ⟨rfl, rfl, rfl, rfl, rfl, rfl, .inr rfl, .inl rfl⟩) fun _ =>
            .bind (h.plain hE (Request.releaseFiber? _)) fun _ =>
              .bind (h.harmless (untrackObject_mild _).harmless) fun _ => h.still (logCoroutine_still _ _ _ _)

variable (throws : ∀ p, Λ.Kept (throwPending E i p))
include throws

theorem teardown (h : Λ.Lenient i) (hE : Λ.Aside i E) : Λ.Kept (teardown E i) := by
  have remains : Λ.Kept (releaseRemains E i) :=
    .bind (h.update fun _ => ⟨rfl, rfl, rfl, rfl, rfl, rfl, .inr rfl, .inr rfl⟩) fun _ =>
      .andFinally (h.plain hE (Request.releaseFiber? _)) (hE.releaseAll _)
  refine .bind (h.serene.noted fun r => ⟨r.finalized, _, rfl, rfl, rfl, rfl⟩) fun _ =>
    .andFinally (.bind (h.quiet fetchError_quiet) fun saved =>
      .bind (hE.owning _ (.bind (h.quiet (.gets _)) fun r => ?_)) fun _ =>
        .bind (h.quiet (swapError_quiet _)) fun _ => hE.releaseAll _) remains
  split
  · exact .bind (h.serene.noted fun r => ⟨r.finalized, _, rfl, rfl, rfl, rfl⟩) fun _ =>
      .bind (h.serene.closeUnraisable throws hE) fun _ => h.relinquish hE
  · exact h.relinquish hE

/-- A release of a handle keeps a law that is kept by throws. -/
theorem releaseCoroutine (h : Λ.Lenient i) (hE : Λ.Aside i E) : Λ.Kept (releaseCoroutine E i) := by
  refine .andFinally (h.serene.finalize throws hE) ?_
  refine .bind (h.update fun _ => ⟨rfl, rfl, rfl, rfl, rfl, rfl, .inl rfl, .inl rfl⟩) fun left => ?_
  split
  · exact (h.teardown throws hE).onPanic (h.serene.noted fun r => ⟨r.finalized, _, rfl, rfl, rfl, rfl⟩)
  · exact .pure _

end Law.Lenient

/-! ## Switches -/

namespace Law.Patient

theorem finish (h : Λ.Patient i) (hE : Λ.Upheld E) : Λ.Kept (finish E i) :=
  .bind h.concludes fun _ => .bind (hE.releaseAll _) fun _ => .bind (h.notes none) fun _ =>
    .bind (hE.releaseAll _) fun _ =>
      .bind (h.update fun _ => ⟨rfl, rfl, rfl, rfl, rfl, rfl, .inl rfl, .inr rfl⟩) fun _ =>
        .bind (hE.releaseAll _) fun _ => h.still (logCoroutine_still _ _ _ _)

theorem continueBody (h : Λ.Patient i) (hE : Λ.Upheld E) (code : Code) (frame : Frame) (a : Activation L)
    (t : Transfer) : Λ.Kept (continueBody E ⟨i, code, frame⟩ a t) :=
  .bind (h.own fun _ => ⟨_, rfl, rfl, rfl, rfl, rfl, rfl, rfl, .inl rfl, .inl rfl⟩) fun _ =>
    .bind (hE.run _ a t) fun _ =>
      .bind (h.own fun _ => ⟨_, rfl, rfl, rfl, rfl, rfl, rfl, rfl, .inl rfl, .inl rfl⟩) fun _ => .pure _

theorem enterFiber (h : Λ.Patient i) (hE : Λ.Upheld E) (code : Code) (frame : Frame) (f : Fiber L) (t : Transfer) :
    Λ.Kept (enterFiber E ⟨i, code, frame⟩ f t) := by
  unfold CoroutineEngine.enterFiber
  cases f.stack with
  | released => exact .bind (hE.releaseAll _) fun _ => .pure _
  | completed => exact .bind (hE.releaseAll _) fun _ => .pure _
  | suspended a => exact .bind (h.continueBody hE _ _ _ _) fun _ => .pure _
  | fresh =>
    dsimp only
    cases t.exception with
    | some p =>
      exact .bind (h.still (instantiate_still p)) fun _ => .bind (hE.owning _ (hE.release _)) fun _ => .pure _
    | none =>
      refine .bind (h.quiet (.gets _)) fun program => ?_
      cases program with
      | none => exact .bind (hE.release _) fun _ => .pure _
      | some program =>
        exact .bind (h.modify fun _ => ⟨rfl, rfl, rfl, rfl, rfl, rfl, .inl rfl, .inl rfl⟩) fun _ =>
          .bind (h.continueBody hE _ _ _ _) fun _ => .pure _

theorem enterSwitch (h : Λ.Patient i) (frame : Frame) : Λ.Kept (enterSwitch i frame) :=
  .bind (h.quiet (swapTop_quiet _)) fun _ => .bind (h.still (swapBack_still _ _)) fun _ =>
    .bind (h.update fun _ => ⟨rfl, rfl, rfl, rfl, rfl, rfl, .inl rfl, .inl rfl⟩) fun _ =>
      .bind (h.quiet fetchError_quiet) fun _ => .bind (h.quiet (swapHandled_quiet _)) fun _ =>
        .bind (h.modify fun _ => ⟨rfl, rfl, rfl, rfl, rfl, rfl, .inl rfl, .inl rfl⟩) fun _ =>
          .bind (h.still (logCoroutine_still _ _ _ _)) fun _ => .pure _

theorem leaveSwitch (h : Λ.Patient i) (hE : Λ.Upheld E) (frame : Frame) (driver : DriverState) (panicked : Bool) :
    Λ.Kept (leaveSwitch E i frame driver panicked) := by
  have restored : Λ.Kept (restoreDriver E i frame driver) :=
    .bind (h.modify fun _ => ⟨rfl, rfl, rfl, rfl, rfl, rfl, .inl rfl, .inl rfl⟩) fun _ =>
      .bind (hE.owning _ (h.plain hE.aside Request.discardStray)) fun _ => .bind (h.quiet (swapError_quiet _)) fun _ =>
        .bind (hE.owning _ (hE.releaseAll _)) fun _ => .bind (h.quiet (swapHandled_quiet _)) fun _ =>
          .bind (h.update fun _ => ⟨rfl, rfl, rfl, rfl, rfl, rfl, .inl rfl, .inl rfl⟩) fun _ =>
            .bind (hE.releaseAll _) fun _ => .bind (h.still (swapBack_still _ _)) fun _ =>
              .bind (h.quiet (swapTop_quiet _)) fun _ => .pure _
  refine .bind restored fun _ => ?_
  cases panicked with
  | true => exact .bind (h.still (logCoroutine_still _ _ _ _)) fun _ => h.finish hE
  | false => exact .pure _

/-- Switches into the fiber of the coroutine keep the law. -/
theorem switchInto (h : Λ.Patient i) (hE : Λ.Upheld E) (code : Code) (frame : Frame) (f : Fiber L) (t : Transfer) :
    Λ.Kept (switchInto E i code frame f t) := by
  have discard (g : Fiber L) : Λ.Kept (discardFiber E i g) :=
    .bind (h.modify fun _ => ⟨rfl, rfl, rfl, rfl, rfl, rfl, .inl rfl, .inl rfl⟩) fun _ =>
      h.plain hE.aside (Request.releaseFiber g)
  refine .bind (h.enterSwitch frame) fun driver => .bind (.onPanic ?_ ?_) fun _ => .bind (.onPanic ?_ ?_) fun _ =>
    .pure _
  · exact .bind (h.plain hE.aside (Request.approachLoss f)) fun g =>
      .bind (h.enterFiber hE code frame g t) fun _ => .pure _
  · exact .bind (h.leaveSwitch hE frame driver true) fun _ => discard _
  · exact h.leaveSwitch hE frame driver false
  · exact .bind (hE.releaseAll _) fun _ => discard _

end Law.Patient

/-! ## Requests that start a coroutine -/

namespace Law.Tolerant

theorem update (h : Λ.Tolerant i) {f : CoroutineRecord L → α × CoroutineRecord L}
    (hf : ∀ r : CoroutineRecord L, r.Abides (f r).2) : Λ.Kept (updateCoroutine i f) :=
  h.abides fun w => ⟨fun _ => (f (w.coroutine i)).2, rfl, hf _⟩

theorem modify (h : Λ.Tolerant i) {f : CoroutineRecord L → CoroutineRecord L}
    (hf : ∀ r : CoroutineRecord L, r.Abides (f r)) : Λ.Kept (modifyCoroutine i f) :=
  h.abides fun _ => ⟨f, rfl, hf _⟩

theorem patient (h : Λ.Tolerant i) : Λ.Patient i where
  toPersonal := h.toPersonal
  own hx := h.abides fun w => by
    obtain ⟨f, hf, hr⟩ := hx w
    exact ⟨f, hf, hr.code, hr.reportChildren, hr.parameters, hr.closure, hr.pending⟩
  concludes := h.update fun _ => ⟨rfl, rfl, rfl, rfl, .inl rfl⟩

theorem resume (h : Λ.Tolerant i) (hE : Λ.Upheld E) (t : Transfer) : Λ.Kept (resume E i t) := by
  have lost : Λ.Kept
      (do
        modifyCoroutine i CoroutineRecord.noteLoss
        refuse E .contextLost t.owned : Effect L Reply) :=
    .bind (h.modify fun _ => ⟨rfl, rfl, rfl, rfl, .inl rfl⟩) fun _ => h.plain hE.aside (.refuse _ _)
  refine .bind (h.quiet (.gets _)) fun r => ?_
  cases r.frame with
  | none => exact lost
  | some frame =>
    cases r.fiber with
    | none => exact lost
    | some f =>
      refine .bind (h.modify fun _ => ⟨rfl, rfl, rfl, rfl, .inl rfl⟩) fun _ =>
        .bind (h.patient.switchInto hE _ frame f t) fun p =>
          .bind (h.modify fun _ => ⟨rfl, rfl, rfl, rfl, .inl rfl⟩) fun _ => ?_
      rcases p with ⟨error | ⟨x, b⟩ | result, g⟩
      · exact .bind (h.still (logCoroutine_still _ _ _ _)) fun _ =>
          .bind (h.modify fun _ => ⟨rfl, rfl, rfl, rfl, .inl rfl⟩) fun _ => .bind (h.patient.finish hE) fun _ =>
            .bind (h.still (raise_still _)) fun _ => .pure _
      · exact .pure _
      · exact .bind (hE.owning _ (h.patient.finish hE)) fun _ => h.plain hE.aside (Request.surface _ _ _)

theorem materialize (h : Λ.Tolerant i) : Λ.Kept (materialize i) := by
  have created : Λ.Kept (createFiber i) := by
    refine .bind (h.update fun _ => ⟨rfl, rfl, rfl, rfl, .inl rfl⟩) fun supply => ?_
    split
    · exact .bind (h.modify fun _ => ⟨rfl, rfl, rfl, rfl, .inl rfl⟩) fun _ => .pure _
    · refine .bind (h.still (Request.mapStack_still _)) fun failure => ?_
      cases failure <;> exact .pure _
  refine .bind (h.quiet (.gets _)) fun r =>
    .bind (h.still (makeFrame_still _)) fun frame => .bind created fun fiber => ?_
  cases fiber with
  | error e => exact .bind (h.still (logCoroutine_still _ _ _ _)) fun _ => .pure _
  | ok f =>
    exact .bind (h.modify fun _ => ⟨rfl, rfl, rfl, rfl, .inl rfl⟩) fun _ =>
      .bind (h.still (logCoroutine_still _ _ _ _)) fun _ => .pure _

/-- Whatever is sent, the law is kept. -/
theorem send (h : Λ.Tolerant i) (hE : Λ.Upheld E) (v : Value) : Λ.Kept (send E i v) := by
  refine .bind (h.quiet (.gets _)) fun r => ?_
  split
  · exact h.plain hE.aside (.refuse _ _)
  · split
    · exact .bind (h.still (makeStopIteration_still _)) fun _ => .bind (hE.owning _ (hE.release v)) fun _ => .pure _
    · split
      · exact h.plain hE.aside (.refuse _ _)
      · refine .bind (h.modify fun _ => ⟨rfl, rfl, rfl, rfl, .inl rfl⟩) fun _ => .bind ?_ fun failure => ?_
        · split
          · exact h.materialize
          · exact .pure _
        · cases failure with
          | some error => exact h.plain hE.aside (.refuse _ _)
          | none =>
            refine .bind h.patient.serene.unprimes fun p => ?_
            cases p with
            | none => exact h.resume hE _
            | some p => exact .bind (hE.owning _ (hE.release v)) fun _ => h.resume hE _

variable (throws : ∀ p, Λ.Kept (throwPending E i p))
include throws

theorem serves (h : Λ.Tolerant i) (hE : Λ.Upheld E) : Λ.Serves i E :=
  ⟨h.send hE, throws, h.patient.serene.close throws hE.aside, h.patient.releaseCoroutine throws hE.aside⟩

/-- Whatever a client asks for, such a law is kept if throws keep it. -/
theorem client (h : Λ.Tolerant i) (hE : Λ.Upheld E) {k : Option CoroutineId} {x : Procedure L α} (hx : Client k x) :
    Λ.Kept (x E) := h.toPersonal.client hE.aside (h.serves throws hE) (fun _ => h.patient.notes) hx

omit throws in
/-- So do engines of any depth. -/
theorem watched {W : Watch} (h : Λ.Tolerant i)
    (throws : ∀ {n : Nat}, Λ.Upheld (.watched L W n) → ∀ p, Λ.Kept (throwPending (.watched L W n) i p))
    (n : Nat) : Λ.Upheld (.watched L W n) :=
  h.toPersonal.watched h.patient.notes (fun hE => h.serves (throws hE) hE) n

end Law.Tolerant

end CoroutineEngine
