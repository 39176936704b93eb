import CoroutineEngine.Proofs.Reports
import CoroutineEngine.Proofs.Watch

/-!
# The driver's side of the ambient state

A driver and a body share the ambient state. Around every switch, what the driver left of it is put
aside and put back, also when the body panics; finalizers put the error aside and back once more.

Results:
* `Courteous.switchInto`: around a switch, the driver's side is put back.
* `Courteous.releaseHandle`: a release that does not panic leaves it alone.
* `courteous_watched`: so does the engine, if hooks are civil.
-/

namespace CoroutineEngine

variable {L : Language} {α β γ : Type}

/-! ## Definitions -/

/-- The driver's side, with its top frame only in steady runs, in which hooks leave that alone. -/
def DriverState.seen (steady : Bool) (d : DriverState) : DriverState :=
  { d with caller := if steady then d.caller else none }

namespace Ambient

/-- What a driver leaves when it makes a request. -/
def driver (a : Ambient L) : DriverState := ⟨a.top, a.error, a.handled⟩

/-- The part of it that is told of. -/
def side (steady : Bool) (a : Ambient L) : DriverState := a.driver.seen steady

/-- What hooks leave alone. -/
def scene (steady : Bool) (a : Ambient L) : Option Exception × Option Frame :=
  (a.handled, if steady then a.top else none)

end Ambient

/-- A part of the ambient state is as it was before; `d` says whether a computation may panic, and `s`
whether the part is kept then. -/
def restoring (d s : Prop) (part : Ambient L → β) : Law L where
  start := World.Orderly
  step w v := v.Orderly ∧ part v.ambient = part w.ambient
  panic w v := d ∧ v.Orderly ∧ (s → part v.ambient = part w.ambient)
  cut _ _ := True
  refl h := ⟨h, rfl⟩
  next h := h.1
  trans h h' := ⟨h'.1, h'.2.trans h.2⟩
  step_panic h h' := ⟨h'.1, h'.2.1, fun hs => (h'.2.2 hs).trans h.2⟩
  step_cut _ _ := trivial
  panic_next h := h.2.1
  panic_step h h' := ⟨h.1, h'.1, fun hs => h'.2.trans (h.2.2 hs)⟩
  panic_cut _ _ := trivial
  cut_of_panic _ := trivial

/-- An engine whose releases leave the driver's side alone, and whose hooks leave the scene alone, both
with the top frame in steady runs. In strict runs no release panics. -/
structure Courteous (strict : Prop) (steady : Bool) (E : Engine L) : Prop where
  release : ∀ v, (restoring (¬ strict) False (Ambient.side steady)).Kept (E.release v)
  run : ∀ k a t, (restoring True True fun _ => ()).Kept (E.run k a t)
  hook : ∀ a t, (restoring True True (Ambient.scene steady)).Kept (E.run none a t)

/-- What requests of a driver are composed of. -/
inductive DriverAtom (c : CoroutineId) : ∀ {α : Type}, Procedure L α → Prop
  | aloof {α : Type} {x : Effect L α} : Aloof x → DriverAtom c fun _ => x
  | release (v : Value) : DriverAtom c fun E => E.release v
  | switchInto (code : Code) (frame : Frame) (fiber : Fiber L) (t : Transfer) :
      DriverAtom c fun E => switchInto E c code frame fiber t

/-! ## Helpers -/

section

variable {d d' s s' : Prop} {part : Ambient L → β} {part' : Ambient L → γ} {x : Effect L α}
  {w : World L}

/-- A part of a part is kept as well. -/
theorem Law.Kept.narrow (hx : (restoring d s part).Kept x) (hd : d → d') (hs : d → s' → s)
    (hpart : ∀ a b, part a = part b → part' a = part' b) : (restoring d' s' part').Kept x := by
  intro w hw
  refine (hx w hw).mono ?_ ?_ fun _ h => h
  · exact fun _ v hv => ⟨hv.1, hpart _ _ hv.2⟩
  · exact fun v hv => ⟨hd hv.1, hv.2.1, fun h => hpart _ _ (hv.2.2 (hs hv.1 h))⟩

theorem Law.Kept.usable (hx : (restoring d s part).Kept x) :
    (restoring d s' fun _ => ()).Kept x := by
  intro w hw
  refine (hx w hw).mono ?_ ?_ fun _ h => h
  · exact fun _ v hv => ⟨hv.1, rfl⟩
  · exact fun v hv => ⟨hv.1, hv.2.1, fun _ => rfl⟩

/-- What keeps the part also through a panic, keeps it otherwise. -/
theorem Law.Kept.loosen (hx : (restoring d s part).Kept x) : (restoring True False part).Kept x :=
  hx.narrow (fun _ => trivial) (fun _ => False.elim) fun _ _ => id

theorem restoring_of (hx : ∀ w : World L, w.Orderly →
    (x w).2.Orderly ∧ part (x w).2.ambient = part w.ambient) : (restoring True s part).Kept x := by
  intro w hw
  have h := hx w hw
  refine ⟨?_⟩
  rcases hv : x w with ⟨_ | _ | _, v⟩ <;> rw [hv] at h
  · exact h
  · exact ⟨trivial, h.1, fun _ => h.2⟩
  · exact trivial

theorem Aloof.kept (hx : Aloof x) : (restoring True s part).Kept x :=
  restoring_of fun w hw =>
    ⟨⟨by rw [hx w]; exact hw.borrowed, by rw [hx w]; exact hw.hook⟩, congrArg part (hx w)⟩

theorem Sure.kept (hx : Sure x) : (restoring d s part).Kept x := by
  intro w hw
  obtain ⟨a, ha⟩ := hx.2 w
  exact .of_ok (Prod.ext ha rfl)
    (((hx.1.aloof.kept : (restoring True True part).Kept x) w hw).ok (Prod.ext ha rfl))

theorem Quiet.kept (hx : Quiet x) : (restoring True s fun _ => ()).Kept x :=
  restoring_of fun w hw => ⟨(hx w).orderly hw, rfl⟩

theorem Held.aloof {c : CoroutineId} (hx : Held c x) : Aloof x := by
  intro w
  obtain ⟨f, hf, -⟩ := hx w
  rw [hf]
  rfl

end

theorem scene_of_side {steady : Bool} {a b : Ambient L} (h : a.side steady = b.side steady) : a.scene steady = b.scene steady :=
  Prod.ext (congrArg DriverState.handled h) (congrArg DriverState.caller h)

/-- Reports can be told of: they exchange the hook, which is not part of the scene. -/
theorem restoring_reported {s : Prop} : (restoring True s (Ambient.scene steady : Ambient L → _)).Reported where
  orderly h := h
  discreet _ hx := hx.kept
  exchange _ h hk := ⟨⟨h.borrowed, hk⟩, rfl⟩

instance {c : CoroutineId} : SwitchAtoms (L := L) (DriverAtom c) c where
  discreet hx := .aloof hx.aloof
  release := .release
  own hx _ := .aloof hx.held.aloof
  switchInto code frame fiber t := .atom (.switchInto code frame fiber t)

/-! ## Switches -/

namespace Courteous

variable {s : Prop} {steady : Bool} {E : Engine L} {w : World L}

theorem releaseAll (hE : Courteous s steady E) (vs : List Value) :
    (restoring (¬ s) False (Ambient.side steady)).Kept (E.releaseAll vs) := .releaseAll hE.release vs

theorem released (hE : Courteous s steady E) (v : Value) :
    (restoring True s (Ambient.side steady)).Kept (E.release v) :=
  (hE.release v).narrow (fun _ => trivial) (fun h h' => h h') fun _ _ => id

/-- A release by itself, as far as a part of the driver's side is concerned. -/
theorem freed (hE : Courteous s steady E) {part : Ambient L → β}
    (hpart : ∀ a b : Ambient L, a.side steady = b.side steady → part a = part b) (v : Value) :
    (restoring True s part).Kept (E.release v) :=
  (hE.released v).narrow id (fun _ => id) hpart

theorem report (hE : Courteous s steady E) (object : String) (e : Exception) :
    (restoring True s (Ambient.scene steady)).Kept (writeUnraisable E object e) :=
  restoring_reported.report (hE.freed fun _ _ => scene_of_side)
    (fun a t => (hE.hook a t).narrow id (fun _ _ => trivial) fun _ _ => id) object e

/-- While a request is served, the ambient state can be used. -/
theorem request (hE : Courteous s steady E) {c : Option CoroutineId} {x : Procedure L α}
    (hx : Request c x) : (restoring True False fun _ => ()).Kept (x E) := by
  refine Composed.kept ?_ hx
  intro α x hx
  cases hx with
  | quiet hx => exact hx.kept
  | release v => exact (hE.released v).usable
  | report object e => exact (hE.report object e).usable
  | own _ _ hx => exact hx.held.aloof.kept
  | run k a t _ => exact (hE.run k a t).usable

theorem discardStray (hE : Courteous s steady E) :
    (restoring (¬ s) False (Ambient.scene steady)).Kept (discardStray E) := by
  refine .bind (fun w hw => .of_ok (withAmbient_ok hw) ⟨⟨hw.borrowed, hw.hook⟩, rfl⟩) fun stray => ?_
  cases stray with
  | none => exact .pure ()
  | some stray =>
    exact .bind (log_sure _ _ _).kept fun _ =>
      (hE.releaseAll _).narrow id (fun _ => id) fun _ _ => scene_of_side

/-- On the way out, the driver's side is put back whatever the body has left. -/
theorem restoreDriver (hE : Courteous s steady E) (c : CoroutineId) (frame : Frame) (driver : DriverState)
    (hw : w.Orderly) :
    Meets (restoreDriver E c frame driver) w
      ⟨fun _ v => v.Orderly ∧ v.ambient.driver = driver, fun v => ¬ s ∧ v.Orderly,
        fun _ => True⟩ := by
  have hstray := hE.discardStray.onPanic
    ((hE.releaseAll driver.owned).narrow id (fun _ => id) fun _ _ => scene_of_side)
  refine .then_eq rfl (.then_kept hstray ⟨hw.borrowed, hw.hook⟩ ?_ (fun _ h => ⟨h.1, h.2.1⟩)
    fun _ _ => trivial)
  intro _ w₁ ⟨hw₁, _⟩
  refine .then_eq (withAmbient_ok hw₁) ?_
  refine .then_kept ((hE.releaseAll _).onPanic (hE.releaseAll _)) ⟨hw₁.borrowed, hw₁.hook⟩ ?_
    (fun _ h => ⟨h.1, h.2.1⟩) fun _ _ => trivial
  intro _ w₂ ⟨hw₂, h₂⟩
  refine .then_eq (withAmbient_ok hw₂) (.then_eq rfl ?_)
  refine .then_kept (hE.releaseAll _) ⟨hw₂.borrowed, hw₂.hook⟩ ?_ (fun _ h => ⟨h.1, h.2.1⟩)
    fun _ _ => trivial
  intro _ w₃ ⟨hw₃, h₃⟩
  refine .then_eq rfl (.then_eq (withAmbient_ok ⟨hw₃.borrowed, hw₃.hook⟩) (.pure ?_))
  refine ⟨⟨hw₃.borrowed, hw₃.hook⟩, ?_⟩
  have he₂ : w₂.ambient.error = driver.error := congrArg DriverState.error h₂
  have he₃ : w₃.ambient.error = w₂.ambient.error := congrArg DriverState.error h₃
  have hh₃ : w₃.ambient.handled = driver.handled := congrArg DriverState.handled h₃
  show DriverState.mk driver.caller w₃.ambient.error w₃.ambient.handled = driver
  rw [he₃, he₂, hh₃]

theorem releasedAll (hE : Courteous s steady E) (vs : List Value) :
    (restoring True s (Ambient.side steady)).Kept (E.releaseAll vs) := .releaseAll hE.released vs

theorem finish (hE : Courteous s steady E) (c : CoroutineId) :
    (restoring True s (Ambient.side steady)).Kept (finish E c) :=
  .bind (Aloof.kept fun _ => rfl) fun _ => .bind (hE.releasedAll _) fun _ =>
    .bind (Aloof.kept fun _ => rfl) fun _ => .bind (hE.releasedAll _) fun _ =>
      .bind (Aloof.kept fun _ => rfl) fun _ => .bind (hE.releasedAll _) fun _ =>
        (logCoroutine_still _ _ _ _).aloof.kept

/-- Leaving a switch puts the driver's side back, also if the coroutine is finished then. -/
theorem leaveSwitch (hE : Courteous s steady E) (c : CoroutineId) (frame : Frame) (driver : DriverState)
    (panicked : Bool) (hw : w.Orderly) :
    Meets (leaveSwitch E c frame driver panicked) w
      ⟨fun _ v => v.Orderly ∧ v.ambient.side steady = driver.seen steady,
        fun v => v.Orderly ∧ (s → v.ambient.side steady = driver.seen steady), fun _ => True⟩ := by
  refine .bind ((hE.restoreDriver c frame driver hw).mono ?_ ?_ fun _ h => h)
  · intro _ v ⟨hv, hd⟩
    have hd : v.ambient.side steady = driver.seen steady := congrArg (DriverState.seen steady) hd
    cases panicked with
    | false => exact .pure ⟨hv, hd⟩
    | true =>
      have hlog : (restoring True s (Ambient.side steady)).Kept
          (logCoroutine .warn "coroutine body panicked" c [] : Effect L Unit) :=
        (logCoroutine_still _ _ _ _).aloof.kept
      refine ((hlog.bind fun _ => hE.finish c) v hv).mono ?_ ?_ fun _ h => h
      · exact fun _ u hu => ⟨hu.1, hu.2.trans hd⟩
      · exact fun u hu => ⟨hu.2.1, fun hs => (hu.2.2 hs).trans hd⟩
  · exact fun v hv => ⟨hv.2, fun hs => absurd hs hv.1⟩

theorem releaseFiber (hE : Courteous s steady E) (f : Fiber L) :
    (restoring True s (Ambient.side steady)).Kept (releaseFiber E f) := by
  unfold CoroutineEngine.releaseFiber
  cases f.stack with
  | released => exact .pure _
  | fresh => exact (log_still _ _ _).aloof.kept
  | completed => exact (log_still _ _ _).aloof.kept
  | suspended a => exact .bind (log_still _ _ _).aloof.kept fun _ => hE.releasedAll _

theorem discardFiber (hE : Courteous s steady E) (c : CoroutineId) (f : Fiber L) :
    (restoring True s (Ambient.side steady)).Kept (discardFiber E c f) :=
  .bind (Aloof.kept fun _ => rfl) fun _ => hE.releaseFiber f

theorem enterSwitch (c : CoroutineId) (frame : Frame) (hw : w.Orderly) :
    Meets (enterSwitch c frame) w
      ⟨fun driver v => v.Orderly ∧ driver = w.ambient.driver, fun _ => False, fun _ => False⟩ := by
  have ho {top : Option Frame} {error : Option PendingException} {handled : Option Exception}
      {v : World L} (hv : v.ambient = { w.ambient with error, handled, top }) : v.Orderly :=
    ⟨by rw [hv]; exact hw.borrowed, by rw [hv]; exact hw.hook⟩
  refine .then_eq (withAmbient_ok hw) (.then_eq rfl (.then_eq rfl ?_))
  refine .then_eq (withAmbient_ok (ho rfl)) (.then_eq (withAmbient_ok (ho rfl)) (.then_eq rfl ?_))
  exact .then_eq rfl (.pure ⟨ho ((logCoroutine_still _ _ _ _).aloof _), rfl⟩)

/-- A switch puts the driver's side back, on every way out. -/
theorem switchInto (hE : Courteous s steady E) (c : CoroutineId) (code : Code) (frame : Frame)
    (fiber : Fiber L) (t : Transfer) :
    (restoring True s (Ambient.side steady)).Kept (switchInto E c code frame fiber t) := by
  intro w hw
  refine .bind ((enterSwitch c frame hw).mono ?_ (fun _ h => h.elim) fun _ h => h.elim)
  rintro driver v ⟨hv, rfl⟩
  have hinside : Request (some c) fun E : Engine L => do
      let fiber ← approachLoss E fiber
      let outcome ← enterFiber E ⟨c, code, frame⟩ fiber t
      return (outcome, fiber.after outcome) :=
    .bind (Request.approachLoss fiber) fun fiber =>
      .bind (Request.enterFiber code frame fiber t) fun _ => .pure _
  refine .bind (.onPanic ((hE.request hinside v hv).mono ?_ ?_ fun _ h => h))
  · rintro ⟨outcome, fiber⟩ u ⟨hu, -⟩
    refine .bind (.onPanic ((hE.leaveSwitch c frame _ false hu).mono ?_ ?_ fun _ h => h))
    · exact fun _ x hx => .pure hx
    · rintro x ⟨hx, hd⟩
      refine (((hE.releasedAll _).bind fun _ => hE.discardFiber c fiber) x hx).mono ?_ ?_ fun _ h => h
      · exact fun _ y hy => ⟨trivial, hy.1, fun hs => hy.2.trans (hd hs)⟩
      · exact fun _ _ => trivial
  · rintro u ⟨-, hu, -⟩
    refine .bind ((hE.leaveSwitch c frame _ true hu).mono ?_ ?_ fun _ h => h)
    · rintro _ x ⟨hx, hd⟩
      refine (hE.discardFiber c fiber.afterPanic x hx).mono ?_ ?_ fun _ h => h
      · exact fun _ y hy => ⟨trivial, hy.1, fun _ => hy.2.trans hd⟩
      · exact fun _ _ => trivial
    · exact fun _ _ => trivial

/-! ## Requests -/

/-- What is composed of switches and of what leaves the ambient state alone puts the driver's side
back. -/
theorem driver (hE : Courteous s steady E) {c : CoroutineId} {x : Procedure L α}
    (hx : Composed (DriverAtom c) x) : (restoring True s (Ambient.side steady)).Kept (x E) := by
  refine Composed.kept ?_ hx
  intro α x hx
  cases hx with
  | aloof hx => exact hx.kept
  | release v => exact hE.released v
  | switchInto code frame fiber t => exact hE.switchInto c code frame fiber t

/-! ## Releases -/

/-- An error that is put aside is put back, whatever is in its place then. -/
theorem aside (hE : Courteous s steady E) {x : Effect L Unit}
    (hx : (restoring True False (Ambient.scene steady)).Kept x) :
    (restoring True False (Ambient.side steady)).Kept
      (do
        let saved ← fetchError
        E.owning ((saved.map (·.owned)).getD []) x
        E.releasePending? (← swapError saved)) := by
  intro w hw
  refine .then_eq (withAmbient_ok hw) ?_
  have howning := hx.onPanic (.releaseAll
    (fun v => (hE.freed (fun _ _ => scene_of_side) v).loosen)
    ((w.ambient.error.map (·.owned)).getD []))
  refine .then_kept howning ⟨hw.borrowed, hw.hook⟩ ?_ (fun _ h => ⟨trivial, h.2.1, False.elim⟩)
    fun _ _ => trivial
  intro _ v ⟨hv, hscene⟩
  have hh : v.ambient.handled = w.ambient.handled := congrArg Prod.fst hscene
  have ht : (if steady then v.ambient.top else none) = if steady then w.ambient.top else none :=
    congrArg Prod.snd hscene
  have hback : Ambient.side steady { v.ambient with error := w.ambient.error } =
      w.ambient.side steady := by
    simp only [Ambient.side, Ambient.driver, DriverState.seen, hh, ht]
  refine .then_eq (withAmbient_ok hv) ?_
  refine Meets.mono (hE.releasedAll _ _ ⟨hv.borrowed, hv.hook⟩) ?_ ?_ fun _ h => h
  · exact fun _ u hu => ⟨hu.1, hu.2.trans hback⟩
  · exact fun u hu => ⟨trivial, hu.2.1, False.elim⟩

/-- A finalizer leaves the driver's side alone, unless it panics. -/
theorem closeUnraisable (hE : Courteous s steady E) (c : CoroutineId) :
    (restoring True False (Ambient.side steady)).Kept (closeUnraisable E c) := by
  refine .bind (Aloof.kept fun _ => rfl) fun _ => hE.aside (.bind ?_ fun reply => ?_)
  · exact (hE.driver (c := c) Request.close).narrow id (fun _ => False.elim) fun _ _ => scene_of_side
  · have free (v : Value) : (restoring True False (Ambient.scene steady)).Kept (E.release v) :=
      (hE.freed (fun _ _ => scene_of_side) v).loosen
    cases reply with
    | ok v => exact free v
    | error e =>
      exact .bind (Aloof.gets _).kept fun _ =>
        (hE.report _ e).loosen

theorem releaseFiber? (hE : Courteous s steady E) (f : Option (Fiber L)) :
    (restoring True s (Ambient.side steady)).Kept (f.elim (pure ()) (CoroutineEngine.releaseFiber E)) := by
  cases f with
  | none => exact .pure ()
  | some f => exact hE.releaseFiber f

theorem relinquish (hE : Courteous s steady E) (c : CoroutineId) :
    (restoring True s (Ambient.side steady)).Kept (relinquish E c) :=
  .bind (Aloof.kept fun _ => rfl) fun _ => .bind (hE.releasedAll _) fun _ =>
    .bind (Aloof.kept fun _ => rfl) fun _ => .bind (hE.releasedAll _) fun _ =>
      .bind (Aloof.kept fun _ => rfl) fun _ => .bind (hE.releaseFiber? _) fun _ =>
        .bind (untrackObject_mild _).aloof.kept fun _ => (logCoroutine_still _ _ _ _).aloof.kept

theorem releaseRemains (hE : Courteous s steady E) (c : CoroutineId) :
    (restoring True s (Ambient.side steady)).Kept (releaseRemains E c) :=
  .bind (Aloof.kept fun _ => rfl) fun _ => .andFinally (hE.releaseFiber? _) (hE.releasedAll _)

theorem teardown (hE : Courteous s steady E) (c : CoroutineId) :
    (restoring True False (Ambient.side steady)).Kept (teardown E c) := by
  refine .bind (Aloof.kept fun _ => rfl) fun _ => .andFinally (hE.aside (.narrow
    (.bind (Aloof.gets _).kept fun r => ?_) id (fun _ => id) fun _ _ => scene_of_side))
    (hE.releaseRemains c).loosen
  split
  · exact .bind (Aloof.kept fun _ => rfl) fun _ =>
      (hE.closeUnraisable c).bind fun _ => (hE.relinquish c).loosen
  · exact (hE.relinquish c).loosen

theorem finalize (hE : Courteous s steady E) (c : CoroutineId) :
    (restoring True False (Ambient.side steady)).Kept (finalize E c) := by
  have note (level : LogLevel) (message : String) :
      (restoring True False (Ambient.side steady)).Kept (logCoroutine level message c [] : Effect L Unit) :=
    (logCoroutine_still _ _ _ _).aloof.kept
  refine .bind (Aloof.gets _).kept fun r => ?_
  split
  · refine .bind (note _ _) fun _ => .bind (Aloof.kept fun _ => rfl) fun _ =>
      .bind (hE.closeUnraisable c) fun _ => .bind (Aloof.gets _).kept fun r => ?_
    split
    · exact note _ _
    · exact .pure _
  · exact .pure _

/-- The release of a handle leaves the driver's side alone, unless it panics. -/
theorem releaseHandle (hE : Courteous s steady E) (v : Value) :
    (restoring True False (Ambient.side steady)).Kept (releaseHandle E v) := by
  refine Composed.kept ?_ (Release.releaseHandle v)
  intro α x hx
  cases hx with
  | discreet hx => exact hx.aloof.kept
  | release v => exact (hE.released v).loosen
  | coroutine c =>
    refine (hE.finalize c).andFinally (.bind (Aloof.kept fun _ => rfl) fun left => ?_)
    split
    · exact .onPanic (hE.teardown c) (Aloof.kept fun _ => rfl)
    · exact .pure _

/-! ## Engines -/

/-- While a client does something, the ambient state can be used. -/
theorem client (hE : Courteous s steady E) {k : Option CoroutineId} {x : Procedure L α} (hx : Client k x) :
    (restoring True False fun _ => ()).Kept (x E) := by
  have driven {c : CoroutineId} {x : Procedure L Reply} (hx : Composed (DriverAtom c) x) :
      (restoring True False fun _ => ()).Kept (x E) :=
    (hE.driver hx).usable
  refine Composed.kept ?_ hx
  intro α x hx
  cases hx with
  | quiet hx => exact hx.kept
  | release v => exact (hE.released v).usable
  | send c v => exact driven (c := c) (Request.send v)
  | throwPending c p => exact driven (c := c) (Request.throwPending p)
  | close c => exact driven (c := c) Request.close
  | report object e => exact (hE.report object e).usable
  | await c v _ => exact Aloof.kept fun _ => rfl

theorem under (hE : Courteous s steady E) {W : Watch} (hs : s → W.strict = true)
    (hc : W.civil = true) (ht : steady = true → W.steady = true) (n : Nat) : Courteous s steady ((E.next n).under W) := by
  have hrun (k : Option Context) (a : Activation L) (t : Transfer) :
      (restoring True True fun _ => ()).Kept (runBody E k n a t) :=
    (hE.client (Client.runBody n a t)).usable
  constructor
  · intro v w hw
    refine .under_release ((hE.releaseHandle v w hw).mono ?_ ?_ fun _ h => h)
    · exact fun _ u hu => ⟨trivial, fun _ => hu⟩
    · refine fun u hu => ⟨trivial, fun _ hstrict => ⟨fun h => ?_, hu.2.1, False.elim⟩⟩
      exact Bool.false_ne_true (hstrict.symm.trans (hs h))
  · exact fun k a t => (hrun k a t).under_run fun _ => trivial
  · intro a t w hw
    have scene {u : World L} (ho : W.objects none w u = false) :
        u.ambient.scene steady = w.ambient.scene steady := by
      simp [Watch.objects, hc] at ho
      cases steady with
      | true => simp_all [Ambient.scene]
      | false => simp [Ambient.scene, ho]
    refine .under_run ((hrun none a t w hw).mono ?_ ?_ fun _ h => h)
    · exact fun _ u hu => ⟨trivial, fun ho => ⟨hu.1, scene ho⟩⟩
    · exact fun u hu => ⟨trivial, fun ho _ => ⟨trivial, hu.2.1, fun _ => scene ho⟩⟩

end Courteous

theorem courteous_halted {s : Prop} {steady : Bool} : Courteous s steady (.halted : Engine L) := by
  refine ⟨fun v w hw => ?_, fun _ _ _ _ _ => ⟨trivial⟩, fun _ _ _ _ => ⟨trivial⟩⟩
  show Meets (if v.isNone then pure () else .stop) w _
  split
  · exact .pure ⟨hw, rfl⟩
  · exact ⟨trivial⟩

/-- In runs in which hooks are civil, releases that do not panic leave the driver's side alone. -/
theorem courteous_watched {s : Prop} {steady : Bool} {W : Watch} (hs : s → W.strict = true)
    (hc : W.civil = true) (ht : steady = true → W.steady = true) (n : Nat) :
    Courteous s steady (.watched L W n) := by
  induction n with
  | zero => exact courteous_halted
  | succ n ih => exact ih.under hs hc ht n

end CoroutineEngine
