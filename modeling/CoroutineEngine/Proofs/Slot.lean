import CoroutineEngine.Proofs.Courtesy

/-!
# The error slot

A request clears the error slot for the body and fills it again afterwards; so does the release of a
handle for the closes that it brings about. If they give a result, the slot is as it was, whatever bodies
and hooks have done.

Results:
* `Considerate.request`: requests leave the slot as it was.
* `Considerate.closeUnraisable`, `Considerate.releaseHandle`: so do finalizers and releases.
* `considerate_watched`, `considerate_ofDepth`: so does the engine.
-/

namespace CoroutineEngine

variable {L : Language} {α : Type}

/-! ## Definitions -/

/-- The law that the error slot is as it was before, if there is a result. -/
def slotKept (L : Language) : Law L :=
  .promise (fun w v => v.ambient.error = w.ambient.error) (fun _ => rfl) fun _ _ _ h h' => h'.trans h

/-- An engine whose releases leave the error slot as it was. -/
def Considerate (E : Engine L) : Prop := ∀ v, (slotKept L).Kept (E.release v)

/-! ## Helpers -/

theorem slotKept_of {x : Effect L α} {w : World L}
    (h : ∀ a v, x w = (.ok a, v) → v.ambient.error = w.ambient.error) :
    Meets x w ((slotKept L).post w) := by
  refine ⟨?_⟩
  rcases hw : x w with ⟨a | m | _, v⟩
  · exact h a v hw
  · exact trivial
  · exact trivial

theorem Aloof.slot {x : Effect L α} (hx : Aloof x) : (slotKept L).Kept x := fun w _ =>
  slotKept_of fun _ v hv => by rw [← hx w, hv]

/-- A use of the ambient state, if it is not borrowed. -/
theorem Meets.then_used {β : Type} {f : Ambient L → β × Ambient L} {g : β → Effect L α} {w : World L}
    {Q : Post L α} (panic : ∀ v, Q.panic v)
    (next : Meets (g (f w.ambient).1) { w with ambient := (f w.ambient).2 } Q) :
    Meets (withAmbient f >>= g) w Q := by
  refine .bind ⟨?_⟩
  unfold withAmbient
  split
  · exact panic _
  · exact next

/-- After any computation. -/
theorem Meets.then_any {β : Type} {x : Effect L β} {f : β → Effect L α} {w : World L} {Q : Post L α}
    (panic : ∀ v, Q.panic v) (stop : ∀ v, Q.stop v) (next : ∀ a v, Meets (f a) v Q) :
    Meets (x >>= f) w Q := .bind (.of_all next panic stop)

namespace Considerate

variable {E : Engine L} {w : World L}

theorem releaseAll (hE : Considerate E) (vs : List Value) : (slotKept L).Kept (E.releaseAll vs) :=
  .releaseAll hE vs

theorem owningAll (hE : Considerate E) (vs us : List Value) :
    (slotKept L).Kept (E.owning vs (E.releaseAll us)) := (hE.releaseAll us).onPanic (hE.releaseAll vs)

/-! ## Switches -/

theorem restoreDriver (hE : Considerate E) (c : CoroutineId) (frame : Frame) (driver : DriverState) :
    Meets (restoreDriver E c frame driver) w
      ⟨fun _ v => v.ambient.error = driver.error, fun _ => True, fun _ => True⟩ := by
  have panic (_ : World L) : True := trivial
  refine .then_eq rfl (.then_any panic panic fun _ v => .then_used panic ?_)
  refine .then_kept (hE.owningAll _ _) trivial ?_ (fun _ _ => trivial) fun _ _ => trivial
  intro _ v₁ h₁
  refine .then_used panic (.then_eq rfl ?_)
  refine .then_kept (hE.releaseAll _) trivial ?_ (fun _ _ => trivial) fun _ _ => trivial
  intro _ v₂ h₂
  exact .then_eq rfl (.then_used panic (.pure (h₂.trans h₁)))

theorem enterSwitch (c : CoroutineId) (frame : Frame) :
    Meets (enterSwitch c frame) w
      ⟨fun driver _ => driver.error = w.ambient.error, fun _ => True, fun _ => True⟩ := by
  have panic (_ : World L) : True := trivial
  refine .then_used panic (.then_eq rfl (.then_eq rfl (.then_used panic (.then_used panic ?_))))
  exact .then_eq rfl (.then_eq rfl (.pure rfl))

/-- A switch gives the driver its error back. -/
theorem switchInto (hE : Considerate E) (c : CoroutineId) (code : Code) (frame : Frame)
    (fiber : Fiber L) (t : Transfer) : (slotKept L).Kept (switchInto E c code frame fiber t) := by
  intro w _
  refine .bind ((enterSwitch c frame).mono ?_ (fun _ _ => trivial) fun _ _ => trivial)
  intro driver v hdriver
  refine .then_any (fun _ => trivial) (fun _ => trivial) fun p u => ?_
  have leave : Meets (leaveSwitch E c frame driver false) u
      ⟨fun _ x => x.ambient.error = driver.error, fun _ => True, fun _ => True⟩ :=
    .bind ((hE.restoreDriver c frame driver).mono (fun _ _ hx => .pure hx) (fun _ h => h) fun _ h => h)
  refine .bind (.onPanic (leave.mono ?_ ?_ fun _ _ => trivial))
  · exact fun _ x hx => .pure (hx.trans hdriver)
  · exact fun _ _ => .of_all (fun _ _ => trivial) (fun _ => trivial) fun _ => trivial

/-! ## Requests -/

/-- What is composed of switches and of what leaves the ambient state alone leaves the slot as it was. -/
theorem driver (hE : Considerate E) {c : CoroutineId} {x : Procedure L α}
    (hx : Composed (DriverAtom c) x) : (slotKept L).Kept (x E) := by
  refine Composed.kept ?_ hx
  intro α x hx
  cases hx with
  | aloof hx => exact hx.slot
  | release v => exact hE v
  | switchInto code frame fiber t => exact hE.switchInto c code frame fiber t

/-! ## Releases -/

/-- An error that is put aside is put back, whatever is in its place then. -/
theorem aside (hE : Considerate E) {x : Option PendingException → Effect L Unit} :
    (slotKept L).Kept
      (do
        let saved ← fetchError
        x saved
        E.releasePending? (← swapError saved)) := by
  intro w _
  refine .then_used (fun _ => trivial) (.then_any (fun _ => trivial) (fun _ => trivial) fun _ v =>
    .then_used (fun _ => trivial) ?_)
  exact (hE.releaseAll _ _ trivial).mono (fun _ u hu => hu) (fun _ _ => trivial) fun _ _ => trivial

/-- A finalizer leaves the slot as it was. -/
theorem closeUnraisable (hE : Considerate E) (c : CoroutineId) :
    (slotKept L).Kept (closeUnraisable E c) :=
  .bind (Aloof.slot fun _ => rfl) fun _ => hE.aside

theorem releaseCoroutine (hE : Considerate E) (c : CoroutineId) :
    (slotKept L).Kept (releaseCoroutine E c) := by
  have note (message : String) :
      (slotKept L).Kept (logCoroutine .debug message c [] : Effect L Unit) :=
    (logCoroutine_still _ _ _ _).aloof.slot
  refine .andFinally (.bind (Aloof.gets _).slot fun r => ?_)
    (.bind (Aloof.slot fun _ => rfl) fun handles => ?_)
  · split
    · refine .bind (note _) fun _ => .bind (Aloof.slot fun _ => rfl) fun _ =>
        .bind (hE.closeUnraisable c) fun _ => .bind (Aloof.gets _).slot fun r => ?_
      split
      · exact note _
      · exact .pure _
    · exact .pure _
  · split
    · refine .onPanic (.bind (Aloof.slot fun _ => rfl) fun _ => .andFinally hE.aside
        (hE.driver (c := c) Request.releaseRemains)) (Aloof.slot fun _ => rfl)
    · exact .pure _

/-- The release of a handle leaves the slot as it was. -/
theorem releaseHandle (hE : Considerate E) (v : Value) : (slotKept L).Kept (releaseHandle E v) := by
  refine Composed.kept ?_ (Release.releaseHandle v)
  intro α x hx
  cases hx with
  | discreet hx => exact hx.aloof.slot
  | release v => exact hE v
  | coroutine c => exact hE.releaseCoroutine c

theorem halted : Considerate (.halted : Engine L) := by
  intro v w _
  show Meets (if v.isNone then pure () else .stop) w _
  split
  · exact .pure rfl
  · exact ⟨trivial⟩

end Considerate

/-! ## Engines -/

/-- Under a watch, releases leave the slot as it was at every depth of nesting. -/
theorem considerate_watched (W : Watch) (n : Nat) : Considerate (.watched L W n) := by
  induction n with
  | zero => exact .halted
  | succ n ih => exact fun v => (ih.releaseHandle v).under_release fun _ => trivial

/-- So they do without a watch. -/
theorem considerate_ofDepth (n : Nat) : Considerate (.ofDepth L n) :=
  Engine.watched_nothing (L := L) n ▸ considerate_watched {} n

end CoroutineEngine
