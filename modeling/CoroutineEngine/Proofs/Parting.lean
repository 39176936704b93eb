import CoroutineEngine.Proofs.Lenience
import CoroutineEngine.Proofs.Tenure

/-!
# The last handles of a coroutine that is over

A coroutine that has finished is not closed any more when its handles are given up. When the last one is, it
gives up what it still owns and is withdrawn from the registry, and a line that it does not belong to rests
meanwhile.

Results:
* `Hosting.dropHandle`, `Hosting.parts`: a handle of a finished coroutine that is given up.
* `lenient_parts`: the same for a release on the lenient engine, which is not left out.
-/

namespace CoroutineEngine

variable {L : Language} {α : Type} {W : Watch} {S : World L → Prop} {E : Engine L}
  {cs : List CoroutineId} {j : CoroutineId} {w v : World L}

/-! ## Definitions -/

/-- The law of a line that rests while a finished coroutine gives up what it owns. -/
def settling (W : Watch) (S : World L → Prop) (cs : List CoroutineId) (j : CoroutineId) : Law L where
  start w := w.Drawn cs ∧ (w.coroutine j).status = .finished
  step w v := Calm W cs w v ∧ (v.coroutine j).status = .finished
  panic w v := W.strict = false ∧ Calm W cs w v ∧ (v.coroutine j).status = .finished
  cut _ v := W.strict = false ∨ S v
  refl h := ⟨(calm W S cs).refl h.1, h.2⟩
  next h := ⟨h.1.drawn, h.2⟩
  trans h h' := ⟨h.1.trans h'.1, h'.2⟩
  step_panic h h' := ⟨h'.1, h.1.trans h'.2.1, h'.2.2⟩
  step_cut _ h := h
  panic_next h := ⟨h.2.1.drawn, h.2.2⟩
  panic_step h h' := ⟨h.1, h.2.1.trans h'.1, h'.2⟩
  panic_cut _ h := h
  cut_of_panic h := .inl h.1

/-! ## Helpers -/

theorem World.has_of_finished (h : (w.coroutine j).status = .finished) : w.Has j :=
  Classical.byContradiction fun hj => by
    rw [World.coroutine_eq_default (Nat.le_of_not_lt hj)] at h
    exact absurd h (show Status.unused ≠ .finished by decide)

theorem Calm.finished (h : Calm W cs w v) (hs : (w.coroutine j).status = .finished) :
    (v.coroutine j).status = .finished := (h.gone j hs).status.trans hs

theorem Calm.untracked (h : Calm W cs w v) (hj : w.Has j) (hu : Untracked j w) : Untracked j v :=
  fun hm => hu (h.grown.withdrawn j hj hm)

/-- A coroutine that is torn down stays so. -/
theorem Calm.dead (h : Calm W cs w v) (hs : (w.coroutine j).status = .finished)
    (hh : (w.coroutine j).handles = 0) : (v.coroutine j).handles = 0 := (h.gone j hs).dead hh

theorem settling_of_calm {x : Effect L α} (hx : (calm W S cs).Kept x) : (settling W S cs j).Kept x :=
  fun w hw => (hx w hw.1).mono (fun _ _ hv => ⟨hv, hv.finished hw.2⟩)
    (fun _ hv => ⟨hv.1, hv.2, hv.2.finished hw.2⟩) fun _ h => h

/-- A finished coroutine outside of the line may give up what it still owns. -/
theorem calm_own (hj : j ∉ cs) (hw : w.Drawn cs) (hs : (w.coroutine j).status = .finished)
    {f : CoroutineRecord L → CoroutineRecord L}
    (hf : (w.coroutine j).Rests False (f (w.coroutine j)) ∧
      (f (w.coroutine j)).history.visits = (w.coroutine j).history.visits) :
    Calm W cs w (w.modifyCoroutine j f) := by
  have hr := (modified_of_has (World.has_of_finished hs) f).2
  have hother (c) (hc : c ≠ j) : (w.modifyCoroutine j f).coroutine c = w.coroutine c :=
    (modified_other w (Ne.symm hc) f).2
  have hg := Grown.modifyCoroutine w j f
  have hcs (c) (hc : c ∈ cs) : (w.coroutine c).Idles W False ((w.modifyCoroutine j f).coroutine c) := by
    rw [hother c fun h => hj (h ▸ hc)]
    exact .refl _ _ _
  refine ⟨hw.of_rests ⟨hw.orderly.borrowed, hw.orderly.hook⟩ hg fun c hc =>
    (hcs c (List.dropLast_subset _ hc)).toRests, hg, hcs, fun c hc => ?_⟩
  by_cases hcj : c = j
  · subst hcj
    rw [hr]
    exact ⟨hf.1, hf.2, fun h => absurd h (by decide)⟩
  · rw [hother c hcj]
    exact .refl _ _ _

theorem settling_own (hj : j ∉ cs) {x : Effect L α}
    (hx : ∀ w : World L, ∃ a f, x w = (.ok a, w.modifyCoroutine j f) ∧
      ((w.coroutine j).status = .finished → (w.coroutine j).Rests False (f (w.coroutine j)) ∧
        (f (w.coroutine j)).history.visits = (w.coroutine j).history.visits)) :
    (settling W S cs j).Kept x := fun w hw => by
  obtain ⟨a, f, hf, hrest⟩ := hx w
  have hcalm := calm_own (W := W) hj hw.1 hw.2 (hrest hw.2)
  exact .of_ok hf ⟨hcalm, hcalm.finished hw.2⟩

theorem settling_update (hj : j ∉ cs) {f : CoroutineRecord L → α × CoroutineRecord L}
    (hf : ∀ r : CoroutineRecord L, r.status = .finished →
      r.Rests False (f r).2 ∧ (f r).2.history.visits = r.history.visits) :
    (settling W S cs j).Kept (updateCoroutine j f) :=
  settling_own hj fun w => ⟨(f (w.coroutine j)).1, fun _ => (f (w.coroutine j)).2, rfl, hf _⟩

/-- A computation with a cleanup that goes on from what it ended in. -/
theorem Meets.served_andFinally {x : Effect L Unit} {c : Effect L Unit} {P Q : World L → Prop}
    (hx : Meets x w (.served W S fun _ => P)) (hc : ∀ v, P v → Meets c v (.served W S fun _ => Q)) :
    Meets (x.andFinally c) w (.served W S fun _ => Q) :=
  .andFinally (hx.mono (fun _ v hv => hc v hv)
    (fun _ hs => .of_all (fun _ _ => hs) (fun _ => .inl hs) fun _ => .inl hs) fun _ h => h)

/-! ## The teardown of a finished coroutine -/

namespace Hosting

theorem settlesAll (hE : Hosting W S E) (hp : cs <+: W.line) (vs : List Value) :
    (settling W S cs j).Kept (E.releaseAll vs) := settling_of_calm (hE.releaseAll hp vs)

theorem settles_sure {x : Effect L α} (hx : Sure x) : (settling W S cs j).Kept x :=
  settling_of_calm (calm_of hx.1.harmless hx.1.coroutines fun w _ => hx.2 w)

theorem settles_fiber (hE : Hosting W S E) (hp : cs <+: W.line) (f : Option (Fiber L)) :
    (settling W S cs j).Kept (f.elim (pure ()) (releaseFiber E)) := by
  cases f with
  | none => exact .pure ()
  | some f =>
    show (settling W S cs j).Kept (releaseFiber E f)
    unfold releaseFiber
    cases f.stack with
    | released => exact .pure _
    | fresh => exact settles_sure (log_sure _ _ _)
    | completed => exact settles_sure (log_sure _ _ _)
    | suspended a => exact .bind (settles_sure (log_sure _ _ _)) fun _ => hE.settlesAll hp _

/-- A finished coroutine gives up what it owns, and is withdrawn from the registry. -/
theorem relinquish (hE : Hosting W S E) (hp : cs <+: W.line) (hj : j ∉ cs)
    (hw : (settling W S cs j).start w) (hn : w.registry.objects.Nodup) :
    Meets (relinquish E j) w (.served W S fun _ v => (settling W S cs j).step w v ∧ Untracked j v) := by
  have through {β : Type} {x : Effect L β} {f : β → Effect L Unit} {v : World L} {P : World L → Prop}
      (hx : (settling W S cs j).Kept x) (hv : (settling W S cs j).step w v)
      (next : ∀ a u, (settling W S cs j).step w u → Meets (f a) u (.served W S fun _ => P)) :
      Meets (x >>= f) v (.served W S fun _ => P) :=
    .then_kept hx ((settling W S cs j).next hv) (fun a u hu => next a u ((settling W S cs j).trans hv hu))
      (fun _ h => h.1) fun _ h => h
  refine through (settling_update hj fun r hs => ⟨?_, rfl⟩) ((settling W S cs j).refl hw) fun _ _ hv => ?_
  · exact { CoroutineRecord.Rests.refl _ r with inputs := fun h => absurd hs h }
  refine through (hE.settlesAll hp _) hv fun _ _ hv => ?_
  refine through (settling_update hj fun r hs => ⟨?_, rfl⟩) hv fun _ _ hv => ?_
  · exact { CoroutineRecord.Rests.refl _ r with inputs := fun h => absurd hs h }
  refine through (hE.settlesAll hp _) hv fun _ _ hv => ?_
  refine through (settling_update hj fun r hs => ⟨?_, rfl⟩) hv fun fiber _ hv => ?_
  · exact { CoroutineRecord.Rests.refl _ r with
      fiber := fun h => absurd hs h, frame := fun h => absurd hs h }
  refine through (hE.settles_fiber hp fiber) hv fun _ v hv => ?_
  have hi : v.Has j := World.has_of_finished hv.2
  have hgone : Meets (untrackObject (.coroutine j) >>= fun _ => logCoroutine .debug "coroutine released" j [])
      v ⟨fun _ u => Untracked j u, fun _ => True, fun _ => True⟩ := by
    refine .bind (.then_eq rfl (Sure.then_meets (log_sure _ _ _) fun _ u _ _ hg => .pure ?_))
    refine (logCoroutine_sure _ _ _ _).meets fun _ x _ _ hg' hm => ?_
    exact ((Registry.mem_untrack (hv.1.grown.nodup hn)).mp
      (hg.withdrawn j hi (hg'.withdrawn j (hg.has hi) hm))).1 rfl
  have hkept : (settling W S cs j).Kept
      (untrackObject (.coroutine j) >>= fun _ => logCoroutine .debug "coroutine released" j []) :=
    .bind (settles_sure (untrackObject_sure _)) fun _ =>
      settles_sure (logCoroutine_sure _ _ _ _)
  exact ((hkept.after hv).and hgone).mono (fun _ _ h => h) (fun _ h => h.1.1) fun _ h => h.1

/-- The teardown of a finished coroutine. -/
theorem teardown (hE : Hosting W S E) (hp : cs <+: W.line) (hj : j ∉ cs)
    (hw : (settling W S cs j).start w) (hn : w.registry.objects.Nodup) :
    Meets (teardown E j) w (.served W S fun _ v => Calm W cs w v ∧ Untracked j v) := by
  have remains : (settling W S cs j).Kept (releaseRemains E j) := by
    refine .bind (settling_update hj fun r hs => ⟨?_, rfl⟩) fun r =>
      .andFinally (hE.settles_fiber hp _) (hE.settlesAll hp _)
    exact { CoroutineRecord.Rests.refl False r with
      fiber := fun h => absurd hs h, frame := fun h => absurd hs h, inputs := fun h => absurd hs h
      awaiting := fun _ h => absurd hs h, settled := fun _ _ => rfl }
  have note : (settling W S cs j).Kept (modifyCoroutine j CoroutineRecord.noteTeardown : Effect L Unit) :=
    settling_own hj fun w => ⟨(), _, rfl, fun hs =>
      ⟨{ CoroutineRecord.Rests.refl _ _ with }, by simp [CoroutineRecord.noteTeardown, hs]⟩⟩
  -- what comes after the withdrawal does not enroll the coroutine again
  have later {x : Effect L Unit} {u : World L} (hx : (settling W S cs j).Kept x)
      (hu : (settling W S cs j).step w u ∧ Untracked j u) :
      Meets x u (.served W S fun _ v => (settling W S cs j).step w v ∧ Untracked j v) :=
    ((hx u ((settling W S cs j).next hu.1)).mono (fun _ _ hv => ⟨(settling W S cs j).trans hu.1 hv,
      hv.1.untracked (World.has_of_finished hu.1.2) hu.2⟩) (fun _ h => h.1) fun _ h => h)
  refine .then_kept note hw (fun _ v hv => ?_) (fun _ h => h.1) fun _ h => h
  refine Meets.mono (Q := .served W S fun _ v => (settling W S cs j).step w v ∧ Untracked j v) ?_
    (fun _ _ h => ⟨h.1.1, h.2⟩) (fun _ h => h) fun _ h => h
  refine .served_andFinally (.then_kept (settling_of_calm (calm_ambient fetchError_quiet))
    ((settling W S cs j).next hv) (fun saved v₁ hv₁ => ?_) (fun _ h => h.1) fun _ h => h)
    fun _ h => later remains h
  have hv₁ := (settling W S cs j).trans hv hv₁
  refine .bind (.served_onPanic (.then_gets ?_))
  have hnot : ¬ (v₁.coroutine j).isSuspended = true := by simp [CoroutineRecord.isSuspended, hv₁.2]
  simp only [if_neg hnot]
  refine (hE.relinquish hp hj ((settling W S cs j).next hv₁) (hv₁.1.grown.nodup hn)).mono
    (fun _ v₂ hv₂ => ?_) (fun _ h => h) fun _ h => h
  exact later (.bind (settling_of_calm (calm_ambient (swapError_quiet _))) fun _ => hE.settlesAll hp _)
    ⟨(settling W S cs j).trans hv₁ hv₂.1, hv₂.2⟩

/-- A handle of a finished coroutine is given up. If it was the last one, the coroutine is withdrawn from the
registry. -/
theorem dropHandle (hE : Hosting W S E) (hp : cs <+: W.line) (hj : j ∉ cs) (hw : w.Drawn cs)
    (hs : (w.coroutine j).status = .finished) (hn : w.registry.objects.Nodup) :
    Meets (dropHandle E j) w (.served W S fun _ v => Calm W cs w v ∧
      (v.coroutine j).handles = (w.coroutine j).handles - 1 ∧
        ((w.coroutine j).handles = 1 → Untracked j v)) := by
  have hi := World.has_of_finished hs
  obtain ⟨-, hr⟩ := modified_of_has hi
    fun _ => { w.coroutine j with handles := (w.coroutine j).handles - 1 }
  have hdrop := calm_own (W := W) (f := fun _ => { w.coroutine j with handles := (w.coroutine j).handles - 1 })
    hj hw hs ⟨{ CoroutineRecord.Rests.refl _ _ with
      handles := fun h => absurd hs h, dead := fun h => by simp [h] }, rfl⟩
  refine .then_eq rfl ?_
  split
  · rename_i hone
    refine .served_onPanic ((hE.teardown hp hj ⟨hdrop.drawn, hdrop.finished hs⟩
      (hdrop.grown.nodup hn)).mono (fun _ u hu => ?_) (fun _ h => h) fun _ h => h)
    refine ⟨hdrop.trans hu.1, ?_, fun _ => hu.2⟩
    rw [hone]
    exact hu.1.dead (hdrop.finished hs) (by rw [hr, hone])
  · rename_i hmany
    exact .pure ⟨hdrop, congrArg CoroutineRecord.handles hr, fun h => absurd h hmany⟩

/-- A finished coroutine is not closed when a handle of it is given up. -/
theorem parts (hE : Hosting W S E) (hp : cs <+: W.line) (hj : j ∉ cs) (hw : w.Drawn cs)
    (hs : (w.coroutine j).status = .finished) (hn : w.registry.objects.Nodup) :
    Meets (releaseCoroutine E j) w (.served W S fun _ v => Calm W cs w v ∧
      (v.coroutine j).handles = (w.coroutine j).handles - 1 ∧
        ((w.coroutine j).handles = 1 → Untracked j v)) := by
  have hnot : ¬ ((w.coroutine j).handles = 1 ∧ (!(w.coroutine j).finalized) = true ∧
      (w.coroutine j).isSuspended = true) := fun h => by
    simp [CoroutineRecord.isSuspended, hs] at h
  refine .served_andFinally (P := fun v => v = w) (.then_gets ?_) ?_
  · simp only [if_neg hnot]
    exact .pure rfl
  · rintro v rfl
    exact hE.dropHandle hp hj hw hs hn

end Hosting

/-! ## On the lenient engine -/

/-- A release that disturbs nobody is let pass. -/
theorem Meets.let_release {v : Value} {P : World L → Prop}
    (h : Meets (E.release v) w ⟨fun _ u => W.disturbed (w.engaged W.line) w u = false ∧ P u,
      fun _ => False, fun _ => False⟩) :
    Meets ((E.under W).skipping.release v) w ⟨fun _ => P, fun _ => False, fun _ => False⟩ := by
  have hx := h.holds
  refine ⟨?_⟩
  simp only [Engine.skipping, Engine.under]
  rcases hw : E.release v w with ⟨_ | _ | _, u⟩ <;> rw [hw] at hx
  · simp only [hx.1, Bool.false_eq_true, if_false]
    exact hx.2
  · exact hx.elim
  · exact hx.elim

/-- Who rests is not disturbed. -/
theorem Calm.undisturbed (h : Calm W cs w v) {es : List CoroutineId} (hes : es ⊆ cs) :
    W.disturbed es w v = false := by
  refine Bool.or_eq_false_iff.mpr ⟨List.any_eq_false.mpr fun c hc => ?_, ?_⟩
  · simp [(h.idles c (hes hc)).visits]
  · rw [Bool.and_eq_false_iff]
    refine (Bool.eq_false_or_eq_true W.exclusive).symm.imp id fun he => ?_
    refine List.any_eq_false.mpr fun c hc => ?_
    simp [(h.idles c (hes hc)).counted he]

/-- A handle of a finished coroutine that is given up where the line has no claim on it. -/
theorem lenient_parts (hW : W.strict = true) (n : Nat) (hp : cs <+: W.line) (hes : w.engaged W.line ⊆ cs)
    (hj : j ∉ cs) (hw : w.Drawn cs) (hs : (w.coroutine j).status = .finished)
    (hn : w.registry.objects.Nodup) :
    Meets ((Engine.lenient L W (n + 1)).release (.coroutine j)) w
      ⟨fun _ v => Calm W cs w v ∧ (v.coroutine j).handles = (w.coroutine j).handles - 1 ∧
        ((w.coroutine j).handles = 1 → Untracked j v), fun _ => False, fun _ => False⟩ := by
  have hstrict : ¬ W.strict = false := by simp [hW]
  refine .let_release (((hosting_lenient W n fun _ => False).parts hp hj hw hs hn).mono ?_
    (fun _ h => absurd h hstrict) fun _ h => h.elim hstrict id)
  exact fun _ v hv => ⟨hv.1.undisturbed hes, hv⟩

end CoroutineEngine
