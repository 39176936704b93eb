import CoroutineEngine.Proofs.Onward
import CoroutineEngine.Proofs.Courtesy

/-!
# Two runs side by side

The same computation, started in two worlds that differ at most in the error that is set and in the
exception that is handled. What neither reads nor changes them ends alike in both.

Results:
* `Twins.bind`, `Twins.onPanic`, `Twins.andFinally`: composed computations side by side.
* `Blind.unswayed`: what goes the same way whatever is set and handled ends alike.
* `Composed.unswayed`: a procedure ends alike if its atoms do.
-/

namespace CoroutineEngine

variable {L : Language} {α β : Type}

/-! ## Definitions -/

/-- Two worlds that differ at most in the error that is set and in the exception that is handled: not in
the error if `e`, and not in the exception if `h`. -/
structure Beside (e h : Prop) (w w' : World L) : Prop where
  orderly : w.Orderly
  differ : w' = w.withErrors w'.ambient.error w'.ambient.handled
  error : e → w'.ambient.error = w.ambient.error
  handled : h → w'.ambient.handled = w.ambient.handled

/-- Two endings are alike: to a result there is one that `S` relates to it, and in a firm comparison to a
panic the same one, in worlds that `R` relates. A run that is cut is like any other. -/
def Alike (firm : Prop) (S : α → World L → α → World L → Prop) (R : World L → World L → Prop) :
    Outcome α × World L → Outcome α × World L → Prop
  | (.ok a, v), other => ∃ b v', other = (.ok b, v') ∧ S a v b v'
  | (.panic m, v), other => firm → ∃ v', other = (.panic m, v') ∧ R v v'
  | (.stop, _), _ => True

/-- Two computations end alike. -/
structure Twins (firm : Prop) (S : α → World L → α → World L → Prop) (R : World L → World L → Prop)
    (x x' : Effect L α) (w w' : World L) : Prop where
  alike : Alike firm S R (x w) (x' w')

/-- The same result, and no other difference than before. -/
def Same (e h : Prop) (a : α) (v : World L) (b : α) (v' : World L) : Prop :=
  a = b ∧ Beside e h v v'

/-- Whatever error is set and whatever exception is handled, a computation ends alike. -/
def Unswayed (firm e h : Prop) (x : Effect L α) : Prop :=
  ∀ w w', Beside e h w w' → Twins firm (Same e h) (Beside e h) x x w w'

/-! ## Helpers -/

namespace Beside

variable {e h e' h' : Prop} {w w' : World L}

theorem refl (hw : w.Orderly) : Beside e h w w := ⟨hw, rfl, fun _ => rfl, fun _ => rfl⟩

theorem exists_errors (hw : Beside e h w w') : ∃ error handled, w' = w.withErrors error handled :=
  ⟨_, _, hw.differ⟩

theorem other (hw : Beside e h w w') : w'.Orderly := by
  obtain ⟨_, _, rfl⟩ := hw.exists_errors
  exact ⟨hw.orderly.borrowed, hw.orderly.hook⟩

theorem mono (hw : Beside e h w w') (he : e' → e) (hh : h' → h) : Beside e' h' w w' :=
  ⟨hw.orderly, hw.differ, fun h => hw.error (he h), fun h => hw.handled (hh h)⟩

/-- A change of the worlds that has nothing to do with the errors. -/
theorem step {v v' : World L} (hw : Beside e h w w') (ho : v.Orderly)
    (he : v.ambient.error = w.ambient.error) (hh : v.ambient.handled = w.ambient.handled)
    (hv : v' = v.withErrors w'.ambient.error w'.ambient.handled) : Beside e h v v' := by
  subst hv
  exact ⟨ho, rfl, fun h => (hw.error h).trans he.symm, fun h => (hw.handled h).trans hh.symm⟩

end Beside

namespace Twins

variable {firm : Prop} {S : α → World L → α → World L → Prop} {R : World L → World L → Prop}
  {x x' : Effect L α} {w w' : World L}

theorem mono {firm' : Prop} {S' : α → World L → α → World L → Prop} {R' : World L → World L → Prop}
    (hx : Twins firm S R x x' w w') (hfirm : firm' → firm)
    (ok : ∀ a v b v', S a v b v' → S' a v b v') (panic : ∀ v v', R v v' → R' v v') :
    Twins firm' S' R' x x' w w' := by
  refine ⟨?_⟩
  have h := hx.alike
  rcases hw : x w with ⟨a | m | _, v⟩ <;> rw [hw] at h
  · obtain ⟨b, v', hv', hs⟩ := h
    exact ⟨b, v', hv', ok _ _ _ _ hs⟩
  · intro hf
    obtain ⟨v', hv', hr⟩ := h (hfirm hf)
    exact ⟨v', hv', panic _ _ hr⟩
  · exact trivial

theorem pure {a b : α} (h : S a w b w') :
    Twins firm S R (Pure.pure a) (Pure.pure b) w w' := ⟨⟨b, w', rfl, h⟩⟩

theorem of_ok {a b : α} {v v' : World L} (hx : x w = (.ok a, v)) (hx' : x' w' = (.ok b, v'))
    (h : S a v b v') : Twins firm S R x x' w w' := by
  refine ⟨?_⟩
  rw [hx]
  exact ⟨b, v', hx', h⟩

theorem bind {S' : β → World L → β → World L → Prop} {f f' : α → Effect L β}
    (hx : Twins firm S R x x' w w')
    (next : ∀ a v b v', S a v b v' → Twins firm S' R (f a) (f' b) v v') :
    Twins firm S' R (x >>= f) (x' >>= f') w w' := by
  refine ⟨?_⟩
  have h := hx.alike
  rcases hw : x w with ⟨a | m | _, v⟩ <;> rw [hw] at h <;> simp only [Effect.bind_apply, hw]
  · obtain ⟨b, v', hv', hs⟩ := h
    rw [hv']
    exact (next a v b v' hs).alike
  · intro hf
    obtain ⟨v', hv', hr⟩ := h hf
    exact ⟨v', by rw [hv'], hr⟩
  · exact trivial

/-- In a firm comparison, the cleanups end alike as well. -/
theorem onPanic {R' : World L → World L → Prop} {c c' : Effect L Unit}
    (hx : Twins firm S R' x x' w w')
    (hc : firm → ∀ v v', R' v v' → Twins True (fun _ u _ u' => R u u') (fun _ _ => True) c c' v v') :
    Twins firm S R (x.onPanic c) (x'.onPanic c') w w' := by
  refine ⟨?_⟩
  have h := hx.alike
  rcases hw : x w with ⟨a | m | _, v⟩ <;> rw [hw] at h <;> simp only [Effect.onPanic, hw]
  · obtain ⟨b, v', hv', hs⟩ := h
    exact ⟨b, v', by rw [hv'], hs⟩
  · by_cases hf : firm
    · obtain ⟨v', hv', hr⟩ := h hf
      have hu := (hc hf v v' hr).alike
      rw [hv']
      rcases hcv : c v with ⟨_ | _ | _, u⟩ <;> rw [hcv] at hu
      · obtain ⟨_, u', hu', hr'⟩ := hu
        exact fun _ => ⟨u', by simp only [hu'], hr'⟩
      · exact trivial
      · exact trivial
    · rcases c v with ⟨_ | _ | _, u⟩
      · exact fun h => absurd h hf
      · exact trivial
      · exact trivial
  · exact trivial

theorem andFinally {c c' : Effect L Unit}
    (hx : Twins firm S R x x' w w')
    (ok : ∀ a v b v', S a v b v' → Twins firm (fun _ u _ u' => S a u b u') R c c' v v')
    (panic : firm → ∀ v v', R v v' → Twins True (fun _ u _ u' => R u u') (fun _ _ => True) c c' v v') :
    Twins firm S R (x.andFinally c) (x'.andFinally c') w w' := by
  refine ⟨?_⟩
  have h := hx.alike
  rcases hw : x w with ⟨a | m | _, v⟩ <;> rw [hw] at h <;> simp only [Effect.andFinally, hw]
  · obtain ⟨b, v', hv', hs⟩ := h
    have hu := (ok a v b v' hs).alike
    rw [hv']
    rcases hcv : c v with ⟨_ | _ | _, u⟩ <;> rw [hcv] at hu
    · obtain ⟨_, u', hu', hr⟩ := hu
      exact ⟨b, u', by simp only [hu'], hr⟩
    · intro hf
      obtain ⟨u', hu', hr⟩ := hu hf
      exact ⟨u', by simp only [hu'], hr⟩
    · exact trivial
  · by_cases hf : firm
    · obtain ⟨v', hv', hr⟩ := h hf
      have hu := (panic hf v v' hr).alike
      rw [hv']
      rcases hcv : c v with ⟨_ | _ | _, u⟩ <;> rw [hcv] at hu
      · obtain ⟨_, u', hu', hr'⟩ := hu
        exact fun _ => ⟨u', by simp only [hu'], hr'⟩
      · exact trivial
      · exact trivial
    · rcases c v with ⟨_ | _ | _, u⟩
      · exact fun h => absurd h hf
      · exact trivial
      · exact trivial
  · exact trivial

/-- One computation, from one world. -/
theorem one {Q : Post L α} (hx : Meets x w Q) (ok : ∀ a v, Q.ok a v → S a v a v)
    (panic : ∀ v, Q.panic v → R v v) : Twins firm S R x x w w := by
  refine ⟨?_⟩
  have h := hx.holds
  rcases hw : x w with ⟨a | m | _, v⟩ <;> rw [hw] at h
  · exact ⟨a, v, rfl, ok a v h⟩
  · exact fun _ => ⟨v, rfl, panic v h⟩
  · exact trivial

/-- What else is known of the first run. -/
theorem also {Q : Post L α} (hx : Twins firm S R x x' w w') (hq : Meets x w Q) :
    Twins firm (fun a v b v' => S a v b v' ∧ Q.ok a v) R x x' w w' := by
  refine ⟨?_⟩
  have h := hx.alike
  have hq := hq.holds
  rcases hw : x w with ⟨a | m | _, v⟩ <;> rw [hw] at h hq
  · obtain ⟨b, v', hv', hs⟩ := h
    exact ⟨b, v', hv', hs, hq⟩
  · exact h
  · exact trivial

/-- A caught panic is a result. -/
theorem catching {e h : Prop} {R' : World L → World L → Prop}
    (hx : Twins True (Same e h) (Beside e h) x x' w w') :
    Twins True (Same e h) R' x.catching x'.catching w w' := by
  refine ⟨?_⟩
  have h := hx.alike
  rcases hw : x w with ⟨a | m | _, v⟩ <;> rw [hw] at h <;> simp only [Effect.catching, hw]
  · obtain ⟨b, v', hv', rfl, hs⟩ := h
    exact ⟨.ok a, v', by rw [hv'], rfl, hs⟩
  · obtain ⟨v', hv', hr⟩ := h trivial
    exact ⟨.error m, v', by rw [hv'], rfl, hr⟩
  · exact trivial

/-- After a computation from one world that does not panic. -/
theorem then_one {Q : Post L α} {S' : β → World L → β → World L → Prop} {f f' : α → Effect L β}
    (hx : Meets x w Q) (panic : ∀ v, ¬ Q.panic v)
    (next : ∀ a v, Q.ok a v → Twins firm S' R (f a) (f' a) v v) :
    Twins firm S' R (x >>= f) (x >>= f') w w := by
  have same : Twins firm (fun a v b v' => a = b ∧ v = v' ∧ Q.ok a v) R x x w w :=
    .one hx (fun _ _ h => ⟨rfl, rfl, h⟩) fun v hv => absurd hv (panic v)
  refine .bind same ?_
  rintro a v _ _ ⟨rfl, rfl, h⟩
  exact next _ _ h

/-- What is left of a computation that does not panic when its cleanup is left out. -/
theorem unguarded {c c' : Effect L Unit} {Q Q' : Post L α} (hx : Twins firm S R x x' w w')
    (hw : Meets x w Q) (hw' : Meets x' w' Q') (hQ : ∀ v, ¬ Q.panic v) (hQ' : ∀ v, ¬ Q'.panic v) :
    Twins firm S R (x.onPanic c) (x'.onPanic c') w w' := by
  have plain {y : Effect L α} {c : Effect L Unit} {u : World L} {P : Post L α} (h : Meets y u P)
      (hP : ∀ v, ¬ P.panic v) : y.onPanic c u = y u := by
    have h := h.holds
    rcases hu : y u with ⟨a | m | _, v⟩ <;> rw [hu] at h <;> simp only [Effect.onPanic, hu]
    exact absurd h (hP v)
  refine ⟨?_⟩
  rw [plain hw hQ, plain hw' hQ']
  exact hx.alike

end Twins

namespace Unswayed

variable {firm e h : Prop} {x : Effect L α}

theorem bind {f : α → Effect L β} (hx : Unswayed firm e h x) (hf : ∀ a, Unswayed firm e h (f a)) :
    Unswayed firm e h (x >>= f) := by
  refine fun w w' hw => .bind (hx w w' hw) ?_
  rintro a v _ v' ⟨rfl, hv⟩
  exact hf _ v v' hv

theorem mono {firm' : Prop} (hx : Unswayed firm e h x) (hfirm : firm' → firm) :
    Unswayed firm' e h x := fun w w' hw =>
  (hx w w' hw).mono hfirm (fun _ _ _ _ h => h) fun _ _ h => h

theorem cleanup {c : Effect L Unit} (hc : Unswayed True e h c) {v v' : World L}
    (hv : Beside e h v v') :
    Twins True (fun _ u _ u' => Beside e h u u') (fun _ _ => True) c c v v' :=
  (hc v v' hv).mono id (fun _ _ _ _ h => h.2) fun _ _ _ => trivial

theorem onPanic {c : Effect L Unit} (hx : Unswayed firm e h x) (hc : firm → Unswayed True e h c) :
    Unswayed firm e h (x.onPanic c) := fun w w' hw =>
  .onPanic (hx w w' hw) fun hf _ _ hv => (hc hf).cleanup hv

theorem andFinally {c : Effect L Unit} (hx : Unswayed firm e h x) (hc : Unswayed firm e h c) :
    Unswayed firm e h (x.andFinally c) := by
  refine fun w w' hw => .andFinally (hx w w' hw) ?_ fun hf v v' hv => ?_
  · rintro a v b v' ⟨rfl, hv⟩
    exact (hc v v' hv).mono id (fun _ _ _ _ h => ⟨rfl, h.2⟩) fun _ _ h => h
  · exact (hc.mono fun _ => hf).cleanup hv

end Unswayed

/-- What goes the same way whatever error is set and whatever exception is handled, and leaves both as they
are. -/
theorem Blind.unswayed {firm e h : Prop} {x : Effect L α} (hx : Blind x)
    (kept : ∀ w, w.Orderly → (x w).2.Orderly ∧ (x w).2.ambient.error = w.ambient.error ∧
      (x w).2.ambient.handled = w.ambient.handled) : Unswayed firm e h x := by
  intro w w' hw
  obtain ⟨ho, he, hh⟩ := kept w hw.orderly
  have hx' := hx w w'.ambient.error w'.ambient.handled
  rw [← hw.differ] at hx'
  refine ⟨?_⟩
  rw [hx']
  rcases hr : x w with ⟨a | m | _, v⟩ <;> rw [hr] at ho he hh
  · exact ⟨a, _, rfl, rfl, hw.step ho he hh rfl⟩
  · exact fun _ => ⟨_, rfl, hw.step ho he hh rfl⟩
  · exact trivial

/-- What has nothing to do with the ambient state. -/
theorem Aloof.unswayed {firm e h : Prop} {x : Effect L α} (hx : Aloof x) (hb : Blind x) :
    Unswayed firm e h x :=
  hb.unswayed fun w hw => by
    rw [hx w]
    exact ⟨⟨by rw [hx w]; exact hw.borrowed, by rw [hx w]; exact hw.hook⟩, rfl, rfl⟩

theorem Discreet.unswayed {firm e h : Prop} {x : Effect L α} (hx : Discreet x) :
    Unswayed firm e h x := hx.aloof.unswayed hx.blind

theorem Still.unswayed {firm e h : Prop} {x : Effect L α} (hx : Still x) :
    Unswayed firm e h x := hx.discreet.unswayed

theorem updateCoroutine_unswayed {firm e h : Prop} (c : CoroutineId)
    (f : CoroutineRecord L → α × CoroutineRecord L) : Unswayed firm e h (updateCoroutine c f) :=
  Aloof.unswayed (fun _ => rfl) (updateCoroutine_blind c f)

theorem modifyCoroutine_unswayed {firm e h : Prop} (c : CoroutineId)
    (f : CoroutineRecord L → CoroutineRecord L) : Unswayed firm e h (modifyCoroutine c f) :=
  Aloof.unswayed (fun _ => rfl) (modifyCoroutine_blind c f)

/-! ### The ambient state -/

/-- A use of the ambient state that does not depend on the errors. -/
theorem withAmbient_unswayed {firm e h : Prop} {f : Ambient L → α × Ambient L}
    (same : ∀ a error handled, f { a with error, handled } = ((f a).1, { (f a).2 with error, handled }))
    (orderly : ∀ w : World L, w.Orderly → { w with ambient := (f w.ambient).2 }.Orderly) :
    Unswayed firm e h (withAmbient f) := by
  intro w w' hw
  have hsame := same w.ambient w.ambient.error w.ambient.handled
  obtain ⟨error, handled, rfl⟩ := hw.exists_errors
  have hother : f (w.withErrors error handled).ambient =
      ((f w.ambient).1, { (f w.ambient).2 with error, handled }) := same w.ambient error handled
  refine ⟨?_⟩
  rw [withAmbient_ok hw.orderly, withAmbient_ok hw.other, hother]
  exact ⟨_, _, rfl, rfl, hw.step (orderly w hw.orderly) (congrArg (fun p => p.2.error) hsame)
    (congrArg (fun p => p.2.handled) hsame) rfl⟩

theorem swapTop_unswayed {firm e h : Prop} (top : Option Frame) :
    Unswayed firm e h (swapTop top : Effect L (Option Frame)) :=
  withAmbient_unswayed (fun _ _ _ => rfl) fun _ hw => ⟨hw.borrowed, hw.hook⟩

section

variable {firm e h : Prop} {R : World L → World L → Prop} {w w' : World L}

/-- The error is put aside: no other one is set. -/
theorem fetchError_twins (hw : Beside e h w w') :
    Twins firm (fun saved v saved' v' => (e → saved' = saved) ∧ Beside True h v v') R
      fetchError fetchError w w' := by
  obtain ⟨error, handled, rfl⟩ := hw.exists_errors
  refine ⟨?_⟩
  rw [fetchError, withAmbient_ok hw.orderly, withAmbient_ok hw.other]
  exact ⟨_, _, rfl, hw.error, ⟨hw.orderly.borrowed, hw.orderly.hook⟩, rfl, fun _ => rfl, hw.handled⟩

/-- Errors are set where none was set, or the same. -/
theorem swapError_twins {error error' : Option PendingException} (hw : Beside True h w w')
    (he : e → error' = error) :
    Twins firm (Same e h) R (swapError error) (swapError error') w w' := by
  refine ⟨?_⟩
  rw [swapError, swapError, withAmbient_ok hw.orderly, withAmbient_ok hw.other]
  refine ⟨_, _, rfl, (hw.error trivial).symm, ⟨hw.orderly.borrowed, hw.orderly.hook⟩, ?_, he, hw.handled⟩
  obtain ⟨_, _, rfl⟩ := hw.exists_errors
  rfl

/-- Exceptions are handled where the same one was handled. -/
theorem swapHandled_twins {handled handled' : Option Exception} (hw : Beside e True w w')
    (hh : h → handled' = handled) :
    Twins firm (Same e h) R (swapHandled handled) (swapHandled handled') w w' := by
  refine ⟨?_⟩
  rw [swapHandled, swapHandled, withAmbient_ok hw.orderly, withAmbient_ok hw.other]
  refine ⟨_, _, rfl, (hw.handled trivial).symm, ⟨hw.orderly.borrowed, hw.orderly.hook⟩, ?_, hw.error, hh⟩
  obtain ⟨_, _, rfl⟩ := hw.exists_errors
  rfl

theorem errorOccurred_unswayed : Unswayed firm True h (errorOccurred : Effect L Bool) := by
  intro w w' hw
  refine ⟨?_⟩
  rw [errorOccurred, withAmbient_ok hw.orderly, withAmbient_ok hw.other]
  exact ⟨_, _, rfl, by rw [hw.error trivial], hw⟩

end

/-- A procedure ends alike if its atoms do. -/
theorem Composed.unswayed {firm e h : Prop} {Atom : ∀ {α : Type}, Procedure L α → Prop} {E : Engine L}
    (atoms : ∀ {α : Type} {x : Procedure L α}, Atom x → Unswayed firm e h (x E))
    {x : Procedure L α} (hx : Composed Atom x) : Unswayed firm e h (x E) := by
  induction hx with
  | atom hx => exact atoms hx
  | bind _ _ hx hf => exact hx.bind hf
  | andFinally _ _ hx hc => exact hx.andFinally hc
  | onPanic _ _ hx hc => exact hx.onPanic fun hf => hc.mono fun _ => hf

/-! ### Texts -/

theorem World.debug?_withErrors (w : World L) (error : Option PendingException)
    (handled : Option Exception) (fuel : Nat) :
    (w.withErrors error handled).debug? fuel = w.debug? fuel := by
  induction fuel with
  | zero => rfl
  | succ fuel ih =>
    funext v
    cases v <;> simp only [World.debug?, ih] <;> rfl

theorem World.display?_withErrors (w : World L) (error : Option PendingException)
    (handled : Option Exception) (fuel : Nat) :
    (w.withErrors error handled).display? fuel = w.display? fuel := by
  induction fuel with
  | zero => rfl
  | succ fuel ih =>
    funext v
    cases v <;> simp only [World.display?, ih, World.debug?_withErrors] <;> rfl

theorem exceptionText_unbiased (e : Exception) : Unbiased fun w : World L => w.exceptionText e := by
  intro w error handled
  simp only [World.exceptionText, World.message, World.display, World.display?_withErrors]
  rfl

theorem reportDebug_unbiased (object : String) (e : Exception) :
    Unbiased fun w : World L => w.reportDebug object e := by
  intro w error handled
  simp only [World.reportDebug, World.debug, World.debug?_withErrors]
  rfl

/-- A text that does not depend on the errors. -/
theorem rendered_discreet {text : World L → Option String} (h : Unbiased text) :
    Discreet (rendered text) := by
  refine ⟨rendered_quiet text, rendered_aloof text, fun w error handled => ?_⟩
  simp only [rendered, h w error handled]
  split <;> rfl

end CoroutineEngine
