import CoroutineEngine.Proofs.Upheld

/-!
# Computations that do the same

Two engines may differ and still do the same as long as something holds of the world. What is composed of
atoms that do the same under a law does the same, and keeps the law.

Results:
* `Accords.bind`, `Accords.onPanic`, `Accords.andFinally`: computations that do the same, composed.
* `Composed.accord`: a procedure does the same on two engines if its atoms do.
* `Law.Reported.accord`: reports do the same if releases and the programs of hooks do.
-/

namespace CoroutineEngine

variable {L : Language} {α β : Type}

/-! ## Definitions -/

/-- From a world two computations do the same, and end in what a postcondition says. -/
structure Accords (x x' : Effect L α) (w : World L) (Q : Post L α) : Prop where
  same : x' w = x w
  meets : Meets x w Q

/-- Two computations do the same wherever a law lets them start, and keep it. -/
def Law.Accord (Λ : Law L) (x x' : Effect L α) : Prop := ∀ w, Λ.start w → Accords x x' w (Λ.post w)

/-! ## Single computations -/

namespace Accords

variable {x x' : Effect L α} {f f' : α → Effect L β} {c c' : Effect L Unit} {w : World L}

theorem refl {Q : Post L α} (h : Meets x w Q) : Accords x x w Q := ⟨rfl, h⟩

theorem mono {Q Q' : Post L α} (h : Accords x x' w Q) (ok : ∀ a v, Q.ok a v → Q'.ok a v)
    (panic : ∀ v, Q.panic v → Q'.panic v) (stop : ∀ v, Q.stop v → Q'.stop v) : Accords x x' w Q' :=
  ⟨h.same, h.meets.mono ok panic stop⟩

theorem pure {Q : Post L α} {a : α} (h : Q.ok a w) :
    Accords (Pure.pure a : Effect L α) (Pure.pure a) w Q := refl (.pure h)

theorem bind {Q : Post L β}
    (h : Accords x x' w ⟨fun a v => Accords (f a) (f' a) v Q, Q.panic, Q.stop⟩) :
    Accords (x >>= f) (x' >>= f') w Q := by
  refine ⟨?_, .bind (h.meets.mono (fun _ _ h => h.meets) (fun _ h => h) fun _ h => h)⟩
  have hx := h.meets.holds
  rw [Effect.bind_apply, Effect.bind_apply, h.same]
  rcases hw : x w with ⟨a | m | _, v⟩
  · rw [hw] at hx
    exact hx.same
  · rfl
  · rfl

theorem onPanic {Q : Post L α}
    (h : Accords x x' w ⟨Q.ok, fun v => Accords c c' v ⟨fun _ => Q.panic, Q.stop, Q.stop⟩, Q.stop⟩) :
    Accords (x.onPanic c) (x'.onPanic c') w Q := by
  refine ⟨?_, .onPanic (h.meets.mono (fun _ _ h => h) (fun _ h => h.meets) fun _ h => h)⟩
  have hx := h.meets.holds
  simp only [Effect.onPanic, h.same]
  rcases hw : x w with ⟨a | m | _, v⟩
  · rfl
  · rw [hw] at hx
    simp only [hx.same]
  · rfl

theorem andFinally {Q : Post L α}
    (h : Accords x x' w
      ⟨fun a v => Accords c c' v ⟨fun _ => Q.ok a, Q.panic, Q.stop⟩,
        fun v => Accords c c' v ⟨fun _ => Q.panic, Q.stop, Q.stop⟩, Q.stop⟩) :
    Accords (x.andFinally c) (x'.andFinally c') w Q := by
  refine ⟨?_, .andFinally (h.meets.mono (fun _ _ h => h.meets) (fun _ h => h.meets) fun _ h => h)⟩
  have hx := h.meets.holds
  simp only [Effect.andFinally, h.same]
  rcases hw : x w with ⟨a | m | _, v⟩
  · rw [hw] at hx
    simp only [hx.same]
  · rw [hw] at hx
    simp only [hx.same]
  · rfl

theorem then_eq {Q : Post L β} {a : α} {v : World L} (hx : x w = (.ok a, v))
    (next : Accords (f a) (f' a) v Q) : Accords (x >>= f) (x >>= f') w Q :=
  .bind (.refl (.of_ok hx next))

end Accords

/-! ## Laws -/

/-- After what does the same under a law, the computation goes on from a world that the law relates to the
first. -/
theorem Accords.then_law {Λ : Law L} {x x' : Effect L α} {f f' : α → Effect L β} {w : World L} {Q : Post L β}
    (hx : Λ.Accord x x') (hw : Λ.start w) (next : ∀ a v, Λ.step w v → Accords (f a) (f' a) v Q)
    (panic : ∀ v, Λ.panic w v → Q.panic v) (stop : ∀ v, Λ.cut w v → Q.stop v) :
    Accords (x >>= f) (x' >>= f') w Q := .bind ((hx w hw).mono next panic stop)

namespace Law

variable {Λ : Law L} {x x' : Effect L α} {c c' : Effect L Unit} {E E' : Engine L}

namespace Accord

/-- What does not ask for an engine. -/
theorem plain (hx : Λ.Kept x) : Λ.Accord x x := fun w hw => .refl (hx w hw)

theorem kept (h : Λ.Accord x x') : Λ.Kept x := fun w hw => (h w hw).meets

/-- What does the same also does so as the rest of a longer computation. -/
theorem after (h : Λ.Accord x x') {w v : World L} (hv : Λ.step w v) : Accords x x' v (Λ.post w) :=
  ⟨(h v (Λ.next hv)).same, h.kept.after hv⟩

/-- A cleanup that follows a panic. -/
theorem cleanup (h : Λ.Accord c c') {w v : World L} (hv : Λ.panic w v) :
    Accords c c' v ⟨fun _ => Λ.panic w, Λ.cut w, Λ.cut w⟩ :=
  ⟨(h v (Λ.panic_next hv)).same, h.kept.cleanup hv⟩

theorem bind {f f' : α → Effect L β} (hx : Λ.Accord x x') (hf : ∀ a, Λ.Accord (f a) (f' a)) :
    Λ.Accord (x >>= f) (x' >>= f') := fun w hw =>
  .bind ((hx w hw).mono (fun a _ hv => (hf a).after hv) (fun _ h => h) fun _ h => h)

theorem andFinally (hx : Λ.Accord x x') (hc : Λ.Accord c c') :
    Λ.Accord (x.andFinally c) (x'.andFinally c') := fun w hw =>
  .andFinally ((hx w hw).mono (fun _ _ hv => hc.after hv) (fun _ hv => hc.cleanup hv) fun _ h => h)

theorem onPanic (hx : Λ.Accord x x') (hc : Λ.Accord c c') :
    Λ.Accord (x.onPanic c) (x'.onPanic c') := fun w hw =>
  .onPanic ((hx w hw).mono (fun _ _ h => h) (fun _ hv => hc.cleanup hv) fun _ h => h)

theorem releaseAll (hE : ∀ v, Λ.Accord (E.release v) (E'.release v)) (vs : List Value) :
    Λ.Accord (E.releaseAll vs) (E'.releaseAll vs) := by
  induction vs with
  | nil => exact .plain (.pure ())
  | cons v vs ih => exact (hE v).andFinally ih

theorem owning (hE : ∀ v, Λ.Accord (E.release v) (E'.release v)) (vs : List Value)
    (hx : Λ.Accord x x') : Λ.Accord (E.owning vs x) (E'.owning vs x') := hx.onPanic (releaseAll hE vs)

end Accord

/-- What a hook does is the same if releases and the programs of hooks are. -/
theorem Accord.runHook (discreet : ∀ {α : Type} {x : Effect L α}, Quiet x → Aloof x → Λ.Kept x)
    (release : ∀ v, Λ.Accord (E.release v) (E'.release v))
    (run : ∀ a t, Λ.Accord (E.run none a t) (E'.run none a t)) (hook : Hook L) (object : String)
    (e : Exception) : Λ.Accord (runHook E hook object e) (runHook E' hook object e) := by
  have still {α : Type} {x : Effect L α} (hx : Still x) : Λ.Accord x x :=
    .plain (discreet hx.quiet hx.aloof)
  refine .bind (.plain (discreet errorOccurred_quiet errorOccurred_aloof)) fun _ =>
    .bind (.plain (discreet (rendered_quiet _) (rendered_aloof _))) fun _ =>
      .bind (.plain (discreet (rendered_quiet _) (rendered_aloof _))) fun _ =>
        .bind (still (emit_still _)) fun _ =>
          .bind (.plain (discreet (retain_discreet _).quiet (retain_discreet _).aloof)) fun _ =>
            .bind (run _ _) fun exit => ?_
  rcases exit with ⟨v, a⟩ | v | e
  · exact .releaseAll release _
  · exact release _
  · exact release _

/-- Reports do the same if releases and the programs of hooks do. -/
theorem Reported.accord (h : Λ.Reported) (release : ∀ v, Λ.Accord (E.release v) (E'.release v))
    (run : ∀ a t, Λ.Accord (E.run none a t) (E'.run none a t)) (object : String) (e : Exception) :
    Λ.Accord (writeUnraisable E object e) (writeUnraisable E' object e) := by
  refine .andFinally ?_ (release _)
  intro w hw
  have hw' := h.orderly hw
  have hstep := h.exchange none hw fun _ hk => absurd hk (by simp)
  refine .then_eq (withAmbient_ok hw') ?_
  dsimp only
  cases hh : w.ambient.hook with
  | none => exact (Accord.plain (Kept.logIgnored h.discreet object e)).after hstep
  | some hook =>
    have howned := hw'.hook hook hh
    have hrun := Accord.owning release hook.owned (Accord.runHook h.discreet release run hook object e)
    refine (hrun.bind fun _ => ?_).after hstep
    -- a hook that owns nothing is put back without a release, on either engine
    intro v hv
    have ho := h.orderly hv
    refine ⟨(restoreHook_apply E' howned ho).trans (restoreHook_apply E howned ho).symm,
      .of_ok (restoreHook_apply E howned ho) (h.exchange _ hv fun k hk => ?_)⟩
    rw [← Option.some.inj hk]
    cases hv' : v.ambient.hook with
    | none => exact howned
    | some other => exact ho.hook other hv'

end Law

/-- A procedure does the same on two engines, and keeps a law, if its atoms do. -/
theorem Composed.accord {Atom : ∀ {α : Type}, Procedure L α → Prop} {Λ : Law L} {E E' : Engine L}
    (atoms : ∀ {α : Type} {x : Procedure L α}, Atom x → Λ.Accord (x E) (x E'))
    {x : Procedure L α} (hx : Composed Atom x) : Λ.Accord (x E) (x E') := by
  induction hx with
  | atom hx => exact atoms hx
  | bind _ _ hx hf => exact hx.bind hf
  | andFinally _ _ hx hc => exact hx.andFinally hc
  | onPanic _ _ hx hc => exact hx.onPanic hc

end CoroutineEngine
