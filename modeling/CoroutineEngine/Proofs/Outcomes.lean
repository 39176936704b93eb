import CoroutineEngine.Engine

/-!
# What computations end in

A postcondition says, for each of the three ways a computation can end, what holds of the world then.

Results:
* `Meets.bind`, `Meets.onPanic`, `Meets.andFinally`: postconditions of composed computations.
* `Meets.mono`: a weaker postcondition.
* `Meets.then_ok`, `Meets.owning_ok`, `Meets.finally_ok`: where only the result matters.
-/

namespace CoroutineEngine

/-! ## Definitions -/

/-- What holds when a computation has ended: with a result, by a panic, or by a stop. -/
structure Post (L : Language) (α : Type) where
  ok : α → World L → Prop
  panic : World L → Prop
  stop : World L → Prop

/-- The postcondition holds of an ending. -/
def Post.Holds {L : Language} {α : Type} (Q : Post L α) : Outcome α × World L → Prop
  | (.ok a, w) => Q.ok a w
  | (.panic _, w) => Q.panic w
  | (.stop, w) => Q.stop w

/-- What holds if there is a result. -/
def Post.promise {L : Language} {α : Type} (P : α → World L → Prop) : Post L α :=
  ⟨P, fun _ => True, fun _ => True⟩

/-- From a world, a computation ends in what a postcondition says. -/
structure Meets {L : Language} {α : Type} (x : Effect L α) (w : World L) (Q : Post L α) : Prop where
  holds : Q.Holds (x w)

deriving instance DecidableEq for Outcome

/-- Whether a run was cut can be told from its ending. -/
instance {α : Type} (ending : Outcome α) : Decidable (ending = .stop) :=
  match ending with
  | .ok _ => .isFalse nofun
  | .panic _ => .isFalse nofun
  | .stop => .isTrue rfl

/-! ## Helpers -/

/-- How a computation ends, and where. -/
theorem ends_of {L : Language} {α : Type} {x : Outcome α × World L} {ending : Outcome α}
    (h : x.1 = ending) : x = (ending, x.2) := by
  rw [← h]

namespace Meets

variable {L : Language} {α β : Type} {x : Effect L α} {f : α → Effect L β} {c : Effect L Unit}
  {w : World L}

theorem mono {Q Q' : Post L α} (h : Meets x w Q) (ok : ∀ a v, Q.ok a v → Q'.ok a v)
    (panic : ∀ v, Q.panic v → Q'.panic v) (stop : ∀ v, Q.stop v → Q'.stop v) : Meets x w Q' := by
  refine ⟨?_⟩
  have hx := h.holds
  rcases hw : x w with ⟨a | m | _, v⟩ <;> rw [hw] at hx
  · exact ok a v hx
  · exact panic v hx
  · exact stop v hx

/-- A postcondition that holds of every ending. -/
theorem of_all {Q : Post L α} (ok : ∀ a v, Q.ok a v) (panic : ∀ v, Q.panic v)
    (stop : ∀ v, Q.stop v) : Meets x w Q := by
  refine ⟨?_⟩
  rcases x w with ⟨a | m | _, v⟩
  · exact ok a v
  · exact panic v
  · exact stop v

theorem of_ok {Q : Post L α} {a : α} {v : World L} (hx : x w = (.ok a, v)) (h : Q.ok a v) :
    Meets x w Q := by
  refine ⟨?_⟩
  rw [hx]
  exact h

theorem ok {Q : Post L α} {a : α} {v : World L} (h : Meets x w Q) (hx : x w = (.ok a, v)) :
    Q.ok a v := by
  have hq := h.holds
  rw [hx] at hq
  exact hq

theorem pure {Q : Post L α} {a : α} (h : Q.ok a w) : Meets (Pure.pure a : Effect L α) w Q := ⟨h⟩

/-- The first computation decides from which world and with which result the second one goes on. -/
theorem bind {Q : Post L β} (h : Meets x w ⟨fun a v => Meets (f a) v Q, Q.panic, Q.stop⟩) :
    Meets (x >>= f) w Q := by
  refine ⟨?_⟩
  have hx := h.holds
  rcases hw : x w with ⟨a | m | _, v⟩ <;> rw [hw] at hx <;> simp only [Effect.bind_apply, hw]
  · exact hx.holds
  · exact hx
  · exact hx

/-- A cleanup that does not end with a result ends the run. -/
theorem onPanic {Q : Post L α}
    (h : Meets x w ⟨Q.ok, fun v => Meets c v ⟨fun _ => Q.panic, Q.stop, Q.stop⟩, Q.stop⟩) :
    Meets (x.onPanic c) w Q := by
  refine ⟨?_⟩
  have hx := h.holds
  rcases hw : x w with ⟨a | m | _, v⟩ <;> rw [hw] at hx <;> simp only [Effect.onPanic, hw]
  · exact hx
  · have hc := hx.holds
    rcases hv : c v with ⟨_ | _ | _, u⟩ <;> rw [hv] at hc <;> exact hc
  · exact hx

theorem then_eq {Q : Post L β} {a : α} {v : World L} (hx : x w = (.ok a, v))
    (next : Meets (f a) v Q) : Meets (x >>= f) w Q := .bind (.of_ok hx next)

theorem then_gets {γ : Type} {g : World L → γ} {f : γ → Effect L β} {Q : Post L β}
    (next : Meets (f (g w)) w Q) : Meets (.gets g >>= f) w Q := ⟨next.holds⟩

/-- What two postconditions say holds together. -/
theorem and {Q Q' : Post L α} (h : Meets x w Q) (h' : Meets x w Q') :
    Meets x w
      ⟨fun a v => Q.ok a v ∧ Q'.ok a v, fun v => Q.panic v ∧ Q'.panic v,
        fun v => Q.stop v ∧ Q'.stop v⟩ := by
  refine ⟨?_⟩
  have hx := h.holds
  have hx' := h'.holds
  rcases hw : x w with ⟨a | m | _, v⟩ <;> rw [hw] at hx hx' <;> exact ⟨hx, hx'⟩

theorem andFinally {Q : Post L α}
    (h : Meets x w
      ⟨fun a v => Meets c v ⟨fun _ => Q.ok a, Q.panic, Q.stop⟩,
        fun v => Meets c v ⟨fun _ => Q.panic, Q.stop, Q.stop⟩, Q.stop⟩) :
    Meets (x.andFinally c) w Q := by
  refine ⟨?_⟩
  have hx := h.holds
  rcases hw : x w with ⟨a | m | _, v⟩ <;> rw [hw] at hx <;> simp only [Effect.andFinally, hw]
  · have hc := hx.holds
    rcases hv : c v with ⟨_ | _ | _, u⟩ <;> rw [hv] at hc <;> exact hc
  · have hc := hx.holds
    rcases hv : c v with ⟨_ | _ | _, u⟩ <;> rw [hv] at hc <;> exact hc
  · exact hx

/-! ### What holds if there is a result -/

theorem promise_of {P : α → World L → Prop} (h : ∀ a v, x w = (.ok a, v) → P a v) :
    Meets x w (.promise P) := by
  refine ⟨?_⟩
  rcases hw : x w with ⟨a | m | _, v⟩
  · exact h a v hw
  · exact trivial
  · exact trivial

theorem bind_ok {P : β → World L → Prop}
    (h : Meets x w (.promise fun a v => Meets (f a) v (.promise P))) :
    Meets (x >>= f) w (.promise P) :=
  .bind (h.mono (fun _ _ h => h) (fun _ _ => trivial) fun _ _ => trivial)

/-- After a computation of which nothing is known but what it gives. -/
theorem then_ok {P : β → World L → Prop}
    (next : ∀ a v, x w = (.ok a, v) → Meets (f a) v (.promise P)) :
    Meets (x >>= f) w (.promise P) := bind_ok (promise_of next)

theorem owning_ok {P : α → World L → Prop} (h : Meets x w (.promise P)) :
    Meets (x.onPanic c) w (.promise P) :=
  .onPanic (h.mono (fun _ _ h => h)
    (fun _ _ => .of_all (fun _ _ => trivial) (fun _ => trivial) fun _ => trivial) fun _ h => h)

theorem finally_ok {P : α → World L → Prop}
    (h : Meets x w (.promise fun a v => Meets c v (.promise fun _ => P a))) :
    Meets (x.andFinally c) w (.promise P) :=
  .andFinally (h.mono
    (fun _ _ h => h.mono (fun _ _ h => h) (fun _ _ => trivial) fun _ _ => trivial)
    (fun _ _ => .of_all (fun _ _ => trivial) (fun _ => trivial) fun _ => trivial) fun _ h => h)

end Meets

end CoroutineEngine
