import CoroutineEngine.Proofs.Accord
import CoroutineEngine.Proofs.Hooks
import CoroutineEngine.Proofs.Onward

/-!
# The borrow of the ambient state

An access borrows the ambient state, and hands out what it displaces when the borrow has ended. What is displaced can
own the last handle of a coroutine, whose release uses the ambient state again: that must not happen any earlier. The
one thing that is released while the state is borrowed is a hook that was replaced while it handled a report.

Results:
* `Law.Parallel.client`: what a client asks for is the same on engines that are the same under a law.
* `AmbientOperation.ends_borrow`: operations on the ambient state, on any engine.
* `borrow_ended`: all runs.
* `replaced_hook_borrows`: the release of a replaced hook.
-/

namespace CoroutineEngine

variable {L : Language} {α : Type}

/-! ## Definitions -/

/-- The operations on the ambient state, with what they are given. -/
inductive AmbientOperation (L : Language)
  | fetchError
  | restoreError (p : Option PendingException)
  | setError (e : Exception)
  | setHandled (e : Option Exception)
  | setTop (f : Option Frame)
  | pushFrame (code : Code)
  | popFrame
  | setHook (hook : Option (Hook L))
  | report (object : String) (e : Exception)

namespace AmbientOperation

/-- An operation on the ambient state, and then the release of what it has displaced or given back. -/
def perform (E : Engine L) : AmbientOperation L → Effect L Unit
  | fetchError => do E.releasePending? (← CoroutineEngine.fetchError)
  | restoreError p => do E.releasePending? (← swapError p)
  | setError e => do E.releasePending? (← swapError (some (← pendingOf e)))
  | setHandled e => do E.releaseException? (← swapHandled e)
  | setTop f => do E.releaseOption ((← swapTop f).map .frame)
  | pushFrame code => do E.release (.frame (← CoroutineEngine.pushFrame code))
  | popFrame => do E.releaseOption ((← CoroutineEngine.popFrame).map .frame)
  | setHook hook => do E.releaseAll (((← swapHook hook).map (·.owned)).getD [])
  | report object e => writeUnraisable E object e

/-- If the operation is a report and the hook that handles it owns something, no other hook is installed when it
returns. -/
def SparesHook (E : Engine L) (w : World L) : AmbientOperation L → Prop
  | report object e => ∀ hook v, w.ambient.hook = some hook → hook.owned ≠ [] →
      E.owning hook.owned (runHook E hook object e)
        { w with ambient := { w.ambient with hook := none } } = (.ok (), v) → v.ambient.hook = none
  | _ => True

/-- The operation installs no hook that owns something. -/
def IsModest : AmbientOperation L → Prop
  | setHook hook => ∀ h, hook = some h → h.owned = []
  | _ => True

end AmbientOperation

/-- The law that nothing is begun while the ambient state is borrowed, and that it is not left borrowed. Whether there
may be panics is given. -/
def unborrowed (L : Language) (may : Prop) : Law L where
  start w := w.ambient.borrowed = false
  step _ v := v.ambient.borrowed = false
  panic _ v := may ∧ v.ambient.borrowed = false
  cut _ _ := True
  refl h := h
  next h := h
  trans _ h := h
  step_panic _ h := h
  step_cut _ h := h
  panic_next h := h.2
  panic_step h h' := ⟨h.1, h'⟩
  panic_cut _ h := h
  cut_of_panic _ := trivial

/-- Two engines do the same where a law lets them start, and keep it. -/
structure Law.Parallel (Λ : Law L) (E E' : Engine L) : Prop where
  release : ∀ v, Λ.Accord (E.release v) (E'.release v)
  run : ∀ k a t, Λ.Accord (E.run k a t) (E'.run k a t)

namespace Engine

/-- An engine that leaves to another one what is begun while the ambient state is borrowed. -/
def unlessBorrowed (E F : Engine L) : Engine L where
  release v w := if w.ambient.borrowed then F.release v w else E.release v w
  run k a t w := if w.ambient.borrowed then F.run k a t w else E.run k a t w

/-- The engine up to a depth of nesting, each level under a watch, and each leaving to another engine what is begun
while the ambient state is borrowed. -/
def wary (W : Watch) (F : Engine L) : Nat → Engine L
  | 0 => .halted
  | n + 1 => (((wary W F n).next n).under W).unlessBorrowed F

end Engine

/-- The borrows of the ambient state end before anything else begins.

* `operations`: an operation on the ambient state does the same on engines that differ in what they do while the state
  is borrowed, whatever the errors, exceptions, frames and hooks own; it leaves the state unborrowed, and panics only
  if a release or a body does. The exception is a report whose hook owns something and is replaced meanwhile.
* `everywhere`: where the hook owns nothing, whatever a driver, a body or a hook does goes the same way on an engine
  that leaves what is begun while the state is borrowed, a release or a body, to any other engine: nothing is.
* `nested`: so do the operations on the ambient state, and all that comes of the releases of what they displace.
* `moments`: at no moment of a run the state is borrowed, and no hook that a client installs owns anything. -/
structure EndsBorrows (L : Language) (W : Watch) : Prop where
  operations : ∀ may (E E' : Engine L), (unborrowed L may).Parallel E E' → ∀ (op : AmbientOperation L) w,
    w.ambient.borrowed = false → op.SparesHook E w → op.perform E' w = op.perform E w ∧
      Meets (op.perform E) w ((unborrowed L may).post w)
  everywhere : ∀ (F : Engine L) n w, w.Orderly → ∀ {α : Type} {k : Option CoroutineId} {x : Procedure L α},
    Client k x → x (.wary W F n) w = x (.watched L W n) w
  nested : ∀ (F : Engine L) n (op : AmbientOperation L) w, w.Orderly → op.IsModest →
    op.perform (.wary W F n) w = op.perform (.watched L W n) w
  moments : ∀ clock v, Moment W (World.fresh clock : World L) v → v.Orderly

/-! ## Engines that do the same under a law -/

variable {W : Watch} {E E' F : Engine L} {Λ : Law L} {w v : World L} {may : Prop}

namespace Law.Parallel

theorem releaseAll (h : Λ.Parallel E E') (vs : List Value) : Λ.Accord (E.releaseAll vs) (E'.releaseAll vs) :=
  .releaseAll h.release vs

section

variable (h : Λ.Parallel E E') (hu : Λ.Universal) (hr : Λ.Reported)

include h hu hr

theorem atom {c : Option CoroutineId} {x : Procedure L α} (hx : RequestAtom c x) : Λ.Accord (x E) (x E') := by
  cases hx with
  | quiet hx => exact .plain (hu.quiet hx)
  | release v => exact h.release v
  | report object e => exact hr.accord h.release (h.run none) object e
  | own _ _ hx => exact .plain (hu.held hx.held)
  | run k a t _ => exact h.run k a t

theorem request {c : Option CoroutineId} {x : Procedure L α} (hx : Request c x) : Λ.Accord (x E) (x E') :=
  Composed.accord (fun hx => h.atom hu hr hx) hx

theorem holder {c : CoroutineId} {x : Procedure L α} (hx : Holder c x) : Λ.Accord (x E) (x E') := by
  refine Composed.accord (fun hx => ?_) hx
  cases hx with
  | request hx => exact h.atom hu hr hx
  | held hx => exact .plain (hu.held hx)
  | withdraw => exact .plain (hu.withdraw c)

theorem releaseHandle (v : Value) : Λ.Accord (releaseHandle E v) (CoroutineEngine.releaseHandle E' v) := by
  refine Composed.accord (fun hx => ?_) (Release.releaseHandle v)
  cases hx with
  | discreet hx => exact .plain (hu.quiet hx.quiet)
  | release v => exact h.release v
  | coroutine c => exact h.holder hu hr Holder.releaseCoroutine

/-- What a client asks for is the same on both engines. -/
theorem client {k : Option CoroutineId} {x : Procedure L α} (hx : Client k x) : Λ.Accord (x E) (x E') := by
  refine Composed.accord (fun hx => ?_) hx
  cases hx with
  | quiet hx => exact .plain (hu.quiet hx)
  | release v => exact h.release v
  | send c v => exact h.request hu hr (c := some c) (Request.send v)
  | throwPending c p => exact h.request hu hr (c := some c) (Request.throwPending p)
  | close c => exact h.request hu hr (c := some c) Request.close
  | report object e => exact hr.accord h.release (h.run none) object e
  | await c v _ => exact .plain (hu.held (updateCoroutine_held c fun _ => Nat.le_refl _))

/-- The engines one level above are the same too. -/
theorem next (n : Nat) : Λ.Parallel (E.next n) (E'.next n) :=
  ⟨h.releaseHandle hu hr, fun _ a t => h.client hu hr (Client.runBody n a t)⟩

omit hr

theorem under (W : Watch) : Λ.Parallel (E.under W) (E'.under W) where
  release v w hw :=
    ⟨by simp only [Engine.under, (h.release v w hw).same], (h.release v).kept.under_release hu.cut w hw⟩
  run k a t w hw :=
    ⟨by simp only [Engine.under, (h.run k a t w hw).same], (h.run k a t).kept.under_run hu.cut w hw⟩

end

/-- What an engine does while the state is borrowed makes no difference to a law that starts only where it is not. -/
theorem unlessBorrowed (h : Λ.Parallel E E') (hΛ : ∀ {w}, Λ.start w → w.ambient.borrowed = false)
    (F : Engine L) : Λ.Parallel E (E'.unlessBorrowed F) where
  release v w hw :=
    ⟨by simpa [Engine.unlessBorrowed, hΛ hw] using (h.release v w hw).same, (h.release v w hw).meets⟩
  run k a t w hw :=
    ⟨by simpa [Engine.unlessBorrowed, hΛ hw] using (h.run k a t w hw).same, (h.run k a t w hw).meets⟩

end Law.Parallel

/-- At every depth, nothing is begun while the state is borrowed. -/
theorem wary_parallel (W : Watch) (F : Engine L) (n : Nat) :
    (onward L).Parallel (.watched L W n) (.wary W F n) := by
  induction n with
  | zero =>
    have hE := onward_universal.halted (L := L)
    exact ⟨fun v => .plain (hE.release v), fun k a t => .plain (hE.run k a t)⟩
  | succ n ih =>
    exact ((ih.next onward_universal onward_reported n).under onward_universal W).unlessBorrowed (·.borrowed) F

/-! ## Operations on any engine -/

/-- What leaves the ambient state alone and does not panic keeps it unborrowed. -/
theorem unborrowed_aloof {x : Effect L α} (hx : Aloof x) (calm : ∀ w m, (x w).1 ≠ .panic m) :
    (unborrowed L may).Kept x := by
  intro w hw
  have ha := hx w
  have hp := calm w
  refine ⟨?_⟩
  rcases hv : x w with ⟨a | m | _, v⟩ <;> rw [hv] at ha hp
  · show v.ambient.borrowed = false
    rw [ha]
    exact hw
  · exact absurd rfl (hp m)
  · trivial

theorem unborrowed_sure {x : Effect L α} (hx : Sure x) : (unborrowed L may).Kept x :=
  unborrowed_aloof hx.1.aloof fun w m h => by
    obtain ⟨a, ha⟩ := hx.2 w
    rw [ha] at h
    cases h

/-- An access to the state gives a result, and the borrow is over then. -/
theorem unborrowed_access {f : Ambient L → α × Ambient L} (hf : ∀ a, (f a).2.borrowed = a.borrowed) :
    (unborrowed L may).Kept (withAmbient f) := by
  intro w hw
  refine ⟨?_⟩
  simp only [withAmbient, show w.ambient.borrowed = false from hw]
  exact (hf _).trans hw

theorem unborrowed_rendered (text : World L → Option String) : (unborrowed L may).Kept (rendered text) :=
  unborrowed_aloof (rendered_aloof text) fun w m => by
    unfold rendered
    split <;> nofun

theorem currentFrame_unborrowed : (unborrowed L may).Kept (currentFrame : Effect L _) := unborrowed_access fun _ => rfl

theorem swapTop_unborrowed (top : Option Frame) : (unborrowed L may).Kept (swapTop top : Effect L _) :=
  unborrowed_access fun _ => rfl

theorem pushFrame_unborrowed (code : Code) : (unborrowed L may).Kept (pushFrame code : Effect L _) :=
  .bind (unborrowed_sure (makeFrame_sure code)) fun _ => .bind currentFrame_unborrowed fun _ =>
    .bind (unborrowed_sure (swapBack_sure _ _)) fun _ => .bind (swapTop_unborrowed _) fun _ => .pure _

theorem popFrame_unborrowed : (unborrowed L may).Kept (popFrame : Effect L _) := by
  refine .bind currentFrame_unborrowed fun top => ?_
  cases top with
  | none => exact .pure _
  | some top => exact .bind (unborrowed_sure (swapBack_sure _ _)) fun _ => .bind (swapTop_unborrowed _) fun _ => .pure _

namespace AmbientOperation

/-- What a hook does keeps the state unborrowed, on engines that do so. -/
theorem runHook_accord (hE : (unborrowed L may).Parallel E E') (hook : Hook L) (object : String) (e : Exception) :
    (unborrowed L may).Accord (runHook E hook object e) (runHook E' hook object e) := by
  refine .bind (.plain (unborrowed_access fun _ => rfl)) fun _ =>
    .bind (.plain (unborrowed_rendered _)) fun _ => .bind (.plain (unborrowed_rendered _)) fun _ =>
      .bind (.plain (unborrowed_sure ((emit_still _).sure fun _ => ⟨_, rfl⟩))) fun _ =>
        .bind (.plain (unborrowed_aloof (retain_discreet _).aloof fun _ _ => nofun)) fun _ =>
          .bind (hE.run _ _ _) fun exit => ?_
  rcases exit with ⟨v, a⟩ | v | e
  · exact hE.releaseAll _
  · exact hE.release _
  · exact hE.release _

theorem logIgnored_kept (object : String) (e : Exception) :
    (unborrowed L may).Kept (logIgnored object e : Effect L Unit) := by
  refine .bind (unborrowed_aloof (fun _ => rfl) fun _ _ => nofun) fun warn => ?_
  split
  · exact .bind (unborrowed_rendered _) fun _ => unborrowed_sure (log_sure _ _ _)
  · exact .pure _

/-- A report, unless it displaces a hook that owns something. -/
theorem report_accord (hE : (unborrowed L may).Parallel E E') (object : String) (e : Exception)
    (hw : w.ambient.borrowed = false) (hs : (report object e).SparesHook E w) :
    Accords (writeUnraisable E object e) (writeUnraisable E' object e) w ((unborrowed L may).post w) := by
  let taken : World L := { w with ambient := { w.ambient with hook := none } }
  have hrelease : (unborrowed L may).Accord (E.release (.exception e)) (E'.release (.exception e)) := hE.release _
  refine .andFinally (.mono (Q := (unborrowed L may).post w) ?_ (fun _ _ h => hrelease.after (w := w) h)
    (fun _ h => hrelease.cleanup (w := w) h) fun _ h => h)
  refine .then_eq (a := w.ambient.hook) (v := taken) (withAmbient_usable hw) ?_
  cases hh : w.ambient.hook with
  | none => exact .refl (logIgnored_kept object e taken hw)
  | some hook =>
    have hrun := (runHook_accord hE hook object e).onPanic (hE.releaseAll hook.owned) taken hw
    refine .bind ⟨hrun.same, (hrun.meets.and (.promise_of fun _ v hv => hv)).mono (fun _ v h => ?_)
      (fun _ h => h.1) fun _ h => h.1⟩
    have hspared : v.ambient.hook = none ∨ hook.owned = [] := by
      by_cases howned : hook.owned = []
      · exact .inr howned
      · exact .inl (hs hook v hh howned h.2)
    exact ⟨(putBack_apply E' hspared h.1).trans (putBack_apply E hspared h.1).symm,
      .of_ok (putBack_apply E hspared h.1) h.1⟩

/-- Operations on the ambient state end its borrow before anything else begins. -/
theorem ends_borrow (hE : (unborrowed L may).Parallel E E') (op : AmbientOperation L)
    (hw : w.ambient.borrowed = false) (hs : op.SparesHook E w) :
    Accords (op.perform E) (op.perform E') w ((unborrowed L may).post w) := by
  have displaced {β : Type} {x : Effect L β} (hx : (unborrowed L may).Kept x) (owned : β → List Value) :
      (unborrowed L may).Accord (do E.releaseAll (owned (← x))) (do E'.releaseAll (owned (← x))) :=
    .bind (.plain hx) fun a => hE.releaseAll (owned a)
  cases op with
  | fetchError => exact displaced (unborrowed_access fun _ => rfl) _ w hw
  | restoreError p => exact displaced (unborrowed_access fun _ => rfl) _ w hw
  | setError e =>
    exact Law.Accord.bind (.plain (unborrowed_sure ((pendingOf_still e).sure fun _ => ⟨_, rfl⟩)))
      (fun p => displaced (unborrowed_access fun _ => rfl) _) w hw
  | setHandled e => exact displaced (unborrowed_access fun _ => rfl) _ w hw
  | setTop f => exact displaced (unborrowed_access fun _ => rfl) _ w hw
  | pushFrame code =>
    exact Law.Accord.bind (.plain (pushFrame_unborrowed code)) (fun _ => hE.release _) w hw
  | popFrame => exact displaced popFrame_unborrowed _ w hw
  | setHook hook => exact displaced (unborrowed_access fun _ => rfl) _ w hw
  | report object e => exact report_accord hE object e hw hs

/-- An operation on the ambient state that installs no hook that owns something is up to any client. -/
theorem client {k : Option CoroutineId} (op : AmbientOperation L) (h : op.IsModest) :
    Client k fun E : Engine L => op.perform E := by
  cases op with
  | fetchError => exact .bind (.quiet fetchError_quiet) fun _ => .releasePending? _
  | restoreError p => exact .bind (.quiet (swapError_quiet p)) fun _ => .releasePending? _
  | setError e =>
    exact .bind (.still (pendingOf_still e)) fun _ => .bind (.quiet (swapError_quiet _)) fun _ => .releasePending? _
  | setHandled e => exact .bind (.quiet (swapHandled_quiet e)) fun _ => .releaseException? _
  | setTop f => exact .bind (.quiet (swapTop_quiet f)) fun _ => .releaseOption _
  | pushFrame code => exact .bind (.quiet (pushFrame_quiet code)) fun _ => .release _
  | popFrame => exact .bind (.quiet popFrame_quiet) fun _ => .releaseOption _
  | setHook hook => exact .bind (.quiet (swapHook_quiet h)) fun _ => .releaseAll _
  | report object e => exact .atom (.report object e)

end AmbientOperation

/-! ## All runs -/

/-- What a client asks for begins nothing while the state is borrowed. -/
theorem Client.wary_eq (F : Engine L) (n : Nat) {k : Option CoroutineId} {x : Procedure L α} (hx : Client k x)
    (hw : w.Orderly) : x (.wary W F n) w = x (.watched L W n) w :=
  ((wary_parallel W F n).client onward_universal onward_reported hx w hw).same

/-- The borrows of the ambient state end before anything else begins. -/
theorem borrow_ended (L : Language) (W : Watch) : EndsBorrows L W where
  operations _ _ _ hE op _ hw hs :=
    have h := AmbientOperation.ends_borrow hE op hw hs
    ⟨h.same, h.meets⟩
  everywhere F n _ hw _ _ _ hx := hx.wary_eq F n hw
  nested F n op _ hw h := (op.client (k := none) h).wary_eq F n hw
  moments _ _ hv := (hv.tended ⟨0⟩).orderly

section

open Script (Block language)

/-- A hook that owns a coroutine, and installs another hook when it handles a report. -/
def possessive (c : CoroutineId) : Hook language := ⟨"replace", language.reaction "replace", [.coroutine c]⟩

/-- Makes an error, builds a coroutine, and gives its handle to a hook. -/
def entrust (E : Engine language) : Effect language Unit := do
  let _ ← makeException .valueError []
  match ← perform E .outer (.makeCoroutine (coroutineOf "owned" [])) with
  | .ok (.value (.coroutine c)) =>
    let _ ← swapHook (some (possessive c))
  | _ => pure ()

/-- The world in which the hook waits for a report. -/
def entrusted : World language := (entrust (.ofDepth _ 40) (World.fresh 1000)).2

/-- A hook that owns the last handle of a coroutine and installs another one while it handles a report, is released
while the state is borrowed, and the release of the coroutine fails. -/
theorem replaced_hook_borrows :
    entrusted.ambient.borrowed = false ∧
      entrusted.ambient.hook.bind (·.owned.head?.bind (·.asCoroutine?)) = some ⟨0⟩ ∧
      (entrusted.coroutine ⟨0⟩).handles = 1 ∧ (entrusted.coroutine ⟨0⟩).status = .unused ∧
      ((AmbientOperation.report "object" ⟨0, .valueError⟩).perform (.ofDepth _ 40) entrusted).1 =
        .panic alreadyBorrowed :=
  ⟨by decide +kernel, by decide +kernel, by decide +kernel, by decide +kernel, by decide +kernel⟩

end

end CoroutineEngine
