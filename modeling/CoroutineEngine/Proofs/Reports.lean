import CoroutineEngine.Proofs.Atoms

/-!
# Reports of errors that nobody can receive

A report takes the hook out of its place, runs its program and puts it back. Nothing else about a report
depends on what the law at hand speaks of.

Results:
* `putBack_apply`: a hook is put back without a release, unless it owns something and another one is in its place.
* `Law.Reported.report`: reports keep a law if releases and the programs of hooks do.
-/

namespace CoroutineEngine

variable {L : Language} {α : Type}

/-! ## Definitions -/

/-- A law of which reports can be told: it is kept by what leaves coroutines and the ambient state alone,
and it allows the hook to be exchanged. -/
structure Law.Reported (Λ : Law L) : Prop where
  orderly : ∀ {w}, Λ.start w → w.Orderly
  discreet : ∀ {α : Type} {x : Effect L α}, Quiet x → Aloof x → Λ.Kept x
  exchange : ∀ {w} (hook : Option (Hook L)), Λ.start w → (∀ k, hook = some k → k.owned = []) →
    Λ.step w { w with ambient := { w.ambient with hook } }

/-! ## Helpers -/

theorem withAmbient_usable {f : Ambient L → α × Ambient L} {w : World L} (h : w.ambient.borrowed = false) :
    withAmbient f w = (.ok (f w.ambient).1, { w with ambient := (f w.ambient).2 }) := by
  simp [withAmbient, h]

theorem withAmbient_ok {f : Ambient L → α × Ambient L} {w : World L} (h : w.Orderly) :
    withAmbient f w = (.ok (f w.ambient).1, { w with ambient := (f w.ambient).2 }) :=
  withAmbient_usable h.borrowed

theorem errorOccurred_aloof : Aloof (errorOccurred : Effect L Bool) := by
  intro w
  simp only [errorOccurred, withAmbient]
  split <;> rfl

/-- Putting a hook back where there is none, or that owns nothing: no handle is released while the state is
borrowed. -/
theorem putBack_apply (E : Engine L) {hook : Hook L} {w : World L}
    (h : w.ambient.hook = none ∨ hook.owned = []) (hw : w.ambient.borrowed = false) :
    (do
      match ← reinstallHook hook with
      | none => pure ()
      | some displaced => whileBorrowed (E.releaseAll displaced.owned) : Effect L Unit) w =
      (.ok (), { w with ambient := { w.ambient with hook := some (w.ambient.hook.getD hook) } }) := by
  have hsame (other : Hook L) (hh : w.ambient.hook = some other) :
      { w.ambient with borrowed := false } = { w.ambient with hook := some other } := by
    rw [← hh, ← hw]
  cases hh : w.ambient.hook with
  | none =>
    have htaken : reinstallHook hook w =
        (.ok none, { w with ambient := { w.ambient with hook := some hook } }) := by
      simp [reinstallHook, withAmbient_usable hw, hh]
    exact Effect.bind_ok htaken _
  | some other =>
    have htaken : reinstallHook hook w = (.ok (some hook), w) := by
      simp [reinstallHook, withAmbient_usable hw, hh]
    have release : E.releaseAll hook.owned = pure () := by
      rw [h.resolve_left (by simp [hh])]
      rfl
    refine (Effect.bind_ok htaken _).trans ?_
    show whileBorrowed (E.releaseAll hook.owned) w = _
    rw [release, Option.getD_some, ← hsame other hh]
    rfl

/-- Putting a hook back that owns nothing. -/
theorem restoreHook_apply (E : Engine L) {hook : Hook L} (h : hook.owned = []) {w : World L}
    (hw : w.Orderly) :
    (do
      match ← reinstallHook hook with
      | none => pure ()
      | some displaced => whileBorrowed (E.releaseAll displaced.owned) : Effect L Unit) w =
      (.ok (), { w with ambient := { w.ambient with hook := some (w.ambient.hook.getD hook) } }) :=
  putBack_apply E (.inr h) hw.borrowed

namespace Law

variable {Λ : Law L} {E : Engine L}

theorem Kept.pure (a : α) : Λ.Kept (pure a : Effect L α) := fun _ hw => .pure (Λ.refl hw)

theorem Kept.releaseAll (release : ∀ v, Λ.Kept (E.release v)) (vs : List Value) :
    Λ.Kept (E.releaseAll vs) := by
  induction vs with
  | nil => exact .pure ()
  | cons v vs ih => exact (release v).andFinally ih

/-- What a hook does keeps a law that releases and the programs of hooks keep. -/
theorem Kept.runHook (discreet : ∀ {α : Type} {x : Effect L α}, Quiet x → Aloof x → Λ.Kept x)
    (release : ∀ v, Λ.Kept (E.release v)) (run : ∀ a t, Λ.Kept (E.run none a t)) (hook : Hook L)
    (object : String) (e : Exception) : Λ.Kept (runHook E hook object e) := by
  have still {α : Type} {x : Effect L α} (hx : Still x) : Λ.Kept x := discreet hx.quiet hx.aloof
  refine .bind (discreet errorOccurred_quiet errorOccurred_aloof) fun _ =>
    .bind (discreet (rendered_quiet _) (rendered_aloof _)) fun _ =>
      .bind (discreet (rendered_quiet _) (rendered_aloof _)) fun _ =>
        .bind (still (emit_still _)) fun _ =>
        .bind (discreet (retain_discreet _).quiet (retain_discreet _).aloof) fun _ => .bind (run _ _) fun exit => ?_
  rcases exit with ⟨v, a⟩ | v | e
  · exact .releaseAll release _
  · exact release _
  · exact release _

/-- What is done if there is no hook keeps a law that computations keep that leave everything alone. -/
theorem Kept.logIgnored (discreet : ∀ {α : Type} {x : Effect L α}, Quiet x → Aloof x → Λ.Kept x)
    (object : String) (e : Exception) : Λ.Kept (logIgnored object e : Effect L Unit) := by
  refine .bind (discreet (.gets _) (.gets _)) fun warn => ?_
  split
  · exact .bind (discreet (rendered_quiet _) (rendered_aloof _)) fun _ =>
      discreet (log_still _ _ _).quiet (log_still _ _ _).aloof
  · exact .pure _

namespace Reported

/-- The report of an error keeps a law that releases and the programs of hooks keep. -/
theorem report (h : Λ.Reported) (release : ∀ v, Λ.Kept (E.release v))
    (run : ∀ a t, Λ.Kept (E.run none a t)) (object : String) (e : Exception) :
    Λ.Kept (writeUnraisable E object e) := by
  refine .andFinally ?_ (release _)
  intro w hw
  have hw' := h.orderly hw
  have hstep := h.exchange none hw fun _ hk => absurd hk (by simp)
  refine .bind (.of_ok (withAmbient_ok hw') ?_)
  dsimp only
  cases hh : w.ambient.hook with
  | none => exact (Kept.logIgnored h.discreet object e).after hstep
  | some hook =>
    have howned := hw'.hook hook hh
    have hrest : Λ.Kept (do
        match ← reinstallHook hook with
        | none => pure ()
        | some displaced => whileBorrowed (E.releaseAll displaced.owned)) := by
      intro v hv
      refine .of_ok (restoreHook_apply E howned (h.orderly hv)) (h.exchange _ hv fun k hk => ?_)
      rw [← Option.some.inj hk]
      cases hv' : v.ambient.hook with
      | none => exact howned
      | some other => exact (h.orderly hv).hook other hv'
    have hrun := (Kept.runHook h.discreet release run hook object e).onPanic (.releaseAll release hook.owned)
    exact (hrun.bind fun _ => hrest).after hstep

end Reported

end Law

end CoroutineEngine
