import CoroutineEngine.Proofs.Outcomes

/-!
# Laws of procedures

A procedure is a computation that is written for any engine. Almost every procedure is composed of a few
kinds of atoms, and a law that the atoms keep, it keeps.

Results:
* `Composed.kept`: a procedure keeps the laws that its atoms keep.
* `Composed.extends`: on an engine that goes on wherever another one does, a procedure goes on wherever
  it does on the other one, in the same way.
-/

namespace CoroutineEngine

/-! ## Definitions -/

/-- A computation that is written for any engine. -/
abbrev Procedure (L : Language) (α : Type) := Engine L → Effect L α

/-- What is assumed of the world in which a computation starts, and what is promised of the one in which
it is over, by a result (`step`) or by a panic (`panic`), or cut (`cut`). The world after a step or a panic
is one to start in: a panic is followed by cleanups. -/
structure Law (L : Language) where
  start : World L → Prop
  step : World L → World L → Prop
  panic : World L → World L → Prop
  cut : World L → World L → Prop
  refl : ∀ {w}, start w → step w w
  next : ∀ {w v}, step w v → start v
  trans : ∀ {w v u}, step w v → step v u → step w u
  step_panic : ∀ {w v u}, step w v → panic v u → panic w u
  step_cut : ∀ {w v u}, step w v → cut v u → cut w u
  panic_next : ∀ {w v}, panic w v → start v
  panic_step : ∀ {w v u}, panic w v → step v u → panic w u
  panic_cut : ∀ {w v u}, panic w v → cut v u → cut w u
  cut_of_panic : ∀ {w v}, panic w v → cut w v

/-- The law of what holds of the world, and of how it relates to the world before, however a computation
ends. -/
def Law.always {L : Language} (P : World L → Prop) (R : World L → World L → Prop)
    (refl : ∀ w, R w w) (trans : ∀ w v u, R w v → R v u → R w u) : Law L where
  start := P
  step w v := P v ∧ R w v
  panic w v := P v ∧ R w v
  cut w v := P v ∧ R w v
  refl h := ⟨h, refl _⟩
  next h := h.1
  trans h h' := ⟨h'.1, trans _ _ _ h.2 h'.2⟩
  step_panic h h' := ⟨h'.1, trans _ _ _ h.2 h'.2⟩
  step_cut h h' := ⟨h'.1, trans _ _ _ h.2 h'.2⟩
  panic_next h := h.1
  panic_step h h' := ⟨h'.1, trans _ _ _ h.2 h'.2⟩
  panic_cut h h' := ⟨h'.1, trans _ _ _ h.2 h'.2⟩
  cut_of_panic h := h

/-- The law of a relation to the world before that holds if a computation gives a result. -/
def Law.promise {L : Language} (R : World L → World L → Prop) (refl : ∀ w, R w w)
    (trans : ∀ w v u, R w v → R v u → R w u) : Law L where
  start _ := True
  step := R
  panic _ _ := True
  cut _ _ := True
  refl _ := refl _
  next _ := trivial
  trans := trans _ _ _
  step_panic _ _ := trivial
  step_cut _ _ := trivial
  panic_next _ := trivial
  panic_step _ _ := trivial
  panic_cut _ _ := trivial
  cut_of_panic _ := trivial

/-- What a law promises of a computation that starts in a world. -/
def Law.post {L : Language} {α : Type} (Λ : Law L) (w : World L) : Post L α :=
  ⟨fun _ => Λ.step w, Λ.panic w, Λ.cut w⟩

/-- A computation keeps a law. -/
def Law.Kept {L : Language} {α : Type} (Λ : Law L) (x : Effect L α) : Prop :=
  ∀ w, Λ.start w → Meets x w (Λ.post w)

/-- A procedure that is composed of atoms: one after another, or with a cleanup. -/
inductive Composed {L : Language} (Atom : ∀ {α : Type}, Procedure L α → Prop) :
    ∀ {α : Type}, Procedure L α → Prop
  | atom {α : Type} {x : Procedure L α} : Atom x → Composed Atom x
  | bind {α β : Type} {x : Procedure L α} {f : α → Procedure L β} :
      Composed Atom x → (∀ a, Composed Atom (f a)) → Composed Atom fun E => x E >>= fun a => f a E
  | andFinally {α : Type} {x : Procedure L α} {c : Procedure L Unit} :
      Composed Atom x → Composed Atom c → Composed Atom fun E => (x E).andFinally (c E)
  | onPanic {α : Type} {x : Procedure L α} {c : Procedure L Unit} :
      Composed Atom x → Composed Atom c → Composed Atom fun E => (x E).onPanic (c E)

/-- A computation goes on wherever another one does, and in the same way. -/
def Effect.Extends {L : Language} {α : Type} (x' x : Effect L α) : Prop :=
  ∀ w, (x w).1 ≠ .stop → x' w = x w

/-! ## Helpers -/

namespace Law

variable {L : Language} {α β : Type} {Λ : Law L}

/-- What is promised from a later world is promised from an earlier one. -/
theorem post_of_step {x : Effect L α} {w v u : World L} (hv : Λ.step w v)
    (h : Meets x u (Λ.post v)) : Meets x u (Λ.post w) :=
  h.mono (fun _ _ hu => Λ.trans hv hu) (fun _ hu => Λ.step_panic hv hu) fun _ hu => Λ.step_cut hv hu

/-- What keeps a law keeps it also as the rest of a longer computation. -/
theorem Kept.after {x : Effect L α} (hx : Λ.Kept x) {w v : World L} (hv : Λ.step w v) :
    Meets x v (Λ.post w) := post_of_step hv (hx v (Λ.next hv))

/-- A cleanup that follows a panic. -/
theorem Kept.cleanup {c : Effect L Unit} (hc : Λ.Kept c) {w v : World L} (hv : Λ.panic w v) :
    Meets c v ⟨fun _ => Λ.panic w, Λ.cut w, Λ.cut w⟩ :=
  (hc v (Λ.panic_next hv)).mono (fun _ _ hu => Λ.panic_step hv hu)
    (fun _ hu => Λ.panic_cut hv (Λ.cut_of_panic hu)) fun _ hu => Λ.panic_cut hv hu

theorem Kept.bind {x : Effect L α} {f : α → Effect L β} (hx : Λ.Kept x)
    (hf : ∀ a, Λ.Kept (f a)) : Λ.Kept (x >>= f) := fun w hw =>
  .bind ((hx w hw).mono (fun a _ hv => (hf a).after hv) (fun _ h => h) fun _ h => h)

theorem Kept.andFinally {x : Effect L α} {c : Effect L Unit} (hx : Λ.Kept x) (hc : Λ.Kept c) :
    Λ.Kept (x.andFinally c) := fun w hw =>
  .andFinally ((hx w hw).mono (fun _ _ hv => hc.after hv) (fun _ hv => hc.cleanup hv) fun _ h => h)

theorem post_onPanic {x : Effect L α} {c : Effect L Unit} {w v : World L}
    (hx : Meets x v (Λ.post w)) (hc : Λ.Kept c) : Meets (x.onPanic c) v (Λ.post w) :=
  .onPanic (hx.mono (fun _ _ h => h) (fun _ hu => hc.cleanup hu) fun _ h => h)

theorem Kept.onPanic {x : Effect L α} {c : Effect L Unit} (hx : Λ.Kept x) (hc : Λ.Kept c) :
    Λ.Kept (x.onPanic c) := fun w hw => post_onPanic (hx w hw) hc

theorem always_of {P : World L → Prop} {R : World L → World L → Prop} {refl : ∀ w, R w w}
    {trans : ∀ w v u, R w v → R v u → R w u} {x : Effect L α}
    (hx : ∀ w, P w → P (x w).2 ∧ R w (x w).2) : (always P R refl trans).Kept x := by
  intro w hw
  have h := hx w hw
  refine ⟨?_⟩
  rcases hv : x w with ⟨_ | _ | _, v⟩ <;> rw [hv] at h <;> exact h

end Law

/-- After what keeps a law, the computation goes on from a world that the law relates to the first. -/
theorem Meets.then_kept {L : Language} {α β : Type} {Λ : Law L} {x : Effect L α} {f : α → Effect L β}
    {w : World L} {Q : Post L β} (hx : Λ.Kept x) (hw : Λ.start w)
    (next : ∀ a v, Λ.step w v → Meets (f a) v Q) (panic : ∀ v, Λ.panic w v → Q.panic v)
    (stop : ∀ v, Λ.cut w v → Q.stop v) : Meets (x >>= f) w Q :=
  .bind ((hx w hw).mono next panic stop)

/-- A procedure keeps the laws that its atoms keep. -/
theorem Composed.kept {L : Language} {Atom : ∀ {α : Type}, Procedure L α → Prop} {Λ : Law L}
    {E : Engine L} (atoms : ∀ {α : Type} {x : Procedure L α}, Atom x → Λ.Kept (x E))
    {α : Type} {x : Procedure L α} (hx : Composed Atom x) : Λ.Kept (x E) := by
  induction hx with
  | atom hx => exact atoms hx
  | bind _ _ hx hf => exact hx.bind hf
  | andFinally _ _ hx hc => exact hx.andFinally hc
  | onPanic _ _ hx hc => exact hx.onPanic hc

namespace Effect.Extends

variable {L : Language} {α β : Type} {x x' : Effect L α} {c c' : Effect L Unit}

theorem refl (x : Effect L α) : x.Extends x := fun _ _ => rfl

theorem bind {f f' : α → Effect L β} (hx : x'.Extends x) (hf : ∀ a, (f' a).Extends (f a)) :
    Effect.Extends (x' >>= f') (x >>= f) := by
  intro w hw
  simp only [Effect.bind_apply] at hw ⊢
  rcases h : x w with ⟨a | m | _, v⟩ <;> rw [h] at hw
  · rw [hx w (by simp [h]), h]
    exact hf a v hw
  · rw [hx w (by simp [h]), h]
  · exact absurd rfl hw

theorem andFinally (hx : x'.Extends x) (hc : c'.Extends c) :
    Effect.Extends (x'.andFinally c') (x.andFinally c) := by
  intro w hw
  simp only [Effect.andFinally] at hw ⊢
  rcases h : x w with ⟨a | m | _, v⟩ <;> rw [h] at hw
  · rw [hx w (by simp [h]), h]
    have hv : (c v).1 ≠ .stop := by
      intro hs
      rcases hcv : c v with ⟨_ | _ | _, u⟩ <;> simp_all
    simp only [hc v hv]
  · rw [hx w (by simp [h]), h]
    have hv : (c v).1 ≠ .stop := by
      intro hs
      rcases hcv : c v with ⟨_ | _ | _, u⟩ <;> simp_all
    simp only [hc v hv]
  · exact absurd rfl hw

theorem onPanic (hx : x'.Extends x) (hc : c'.Extends c) :
    Effect.Extends (x'.onPanic c') (x.onPanic c) := by
  intro w hw
  simp only [Effect.onPanic] at hw ⊢
  rcases h : x w with ⟨a | m | _, v⟩ <;> rw [h] at hw
  · rw [hx w (by simp [h]), h]
  · rw [hx w (by simp [h]), h]
    have hv : (c v).1 ≠ .stop := by
      intro hs
      rcases hcv : c v with ⟨_ | _ | _, u⟩ <;> simp_all
    simp only [hc v hv]
  · exact absurd rfl hw

end Effect.Extends

/-- On an engine that goes on wherever another one does, a procedure goes on wherever it does on the
other one, in the same way. -/
theorem Composed.extends {L : Language} {Atom : ∀ {α : Type}, Procedure L α → Prop}
    {E E' : Engine L}
    (atoms : ∀ {α : Type} {x : Procedure L α}, Atom x → (x E').Extends (x E))
    {α : Type} {x : Procedure L α} (hx : Composed Atom x) : (x E').Extends (x E) := by
  induction hx with
  | atom hx => exact atoms hx
  | bind _ _ hx hf => exact hx.bind hf
  | andFinally _ _ hx hc => exact hx.andFinally hc
  | onPanic _ _ hx hc => exact hx.onPanic hc

end CoroutineEngine
