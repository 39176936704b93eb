import CoroutineEngine.World.Basic

/-!
# Effects

A computation of the engine changes the world and ends in one of three ways: with a result, by a panic
that unwinds, or by a stop, after which nothing runs any more (the steps are used up, or a panic
happened while another one was unwinding).

Results:
* `bind_assoc`, `pure_bind`, `bind_pure`: effects compose as expected.
* `andFinally_ok`, `onPanic_ok`: cleaning up after a result.
-/

namespace CoroutineEngine

/-! ## Definitions -/

/-- How a computation ends. -/
inductive Outcome (α : Type)
  | ok (a : α)
  | panic (message : String)
  | stop

/-- A computation of the engine. -/
def Effect (L : Language) (α : Type) : Type := World L → Outcome α × World L

namespace Effect

variable {L : Language} {α β : Type}

/-- Nothing but a result. -/
@[inline] protected def pure (a : α) : Effect L α := fun w => (.ok a, w)

/-- One computation after another. -/
@[inline] protected def bind (x : Effect L α) (f : α → Effect L β) : Effect L β := fun w =>
  match x w with
  | (.ok a, w) => f a w
  | (.panic m, w) => (.panic m, w)
  | (.stop, w) => (.stop, w)

@[always_inline]
instance : Monad (Effect L) where
  pure := Effect.pure
  bind := Effect.bind

/-- Dies with a message. -/
@[inline] def panic (message : String) : Effect L α := fun w => (.panic message, w)

/-- Ends the whole run. -/
@[inline] def stop : Effect L α := fun w => (.stop, w)

/-- The world, or a part of it. -/
@[inline] def gets (f : World L → α) : Effect L α := fun w => (.ok (f w), w)

/-- Changes the world. -/
@[inline] def modify (f : World L → World L) : Effect L Unit := fun w => (.ok (), f w)

/-- Changes the world and gives a result. -/
@[inline] def modifyGet (f : World L → α × World L) : Effect L α := fun w =>
  let (a, w) := f w
  (.ok a, w)

/-- Cleans up after a computation if it panics. A panic of the cleanup stops the run. -/
@[inline] def onPanic (x : Effect L α) (cleanup : Effect L Unit) : Effect L α := fun w =>
  match x w with
  | (.ok a, w) => (.ok a, w)
  | (.panic m, w) =>
    match cleanup w with
    | (.ok _, w) => (.panic m, w)
    | (_, w) => (.stop, w)
  | (.stop, w) => (.stop, w)

/-- Cleans up after a computation whether it gives a result or panics. -/
@[inline] def andFinally (x : Effect L α) (cleanup : Effect L Unit) : Effect L α := fun w =>
  match x w with
  | (.ok a, w) =>
    match cleanup w with
    | (.ok _, w) => (.ok a, w)
    | (.panic m, w) => (.panic m, w)
    | (.stop, w) => (.stop, w)
  | (.panic m, w) =>
    match cleanup w with
    | (.ok _, w) => (.panic m, w)
    | (_, w) => (.stop, w)
  | (.stop, w) => (.stop, w)

/-- Catches a panic. -/
def catching (x : Effect L α) : Effect L (Except String α) := fun w =>
  match x w with
  | (.ok a, w) => (.ok (.ok a), w)
  | (.panic m, w) => (.ok (.error m), w)
  | (.stop, w) => (.stop, w)

/-- Takes one step of the clock; stops the run when none is left. -/
def tick : Effect L Unit := fun w =>
  match w.clock with
  | 0 => (.stop, w)
  | n + 1 => (.ok (), { w with clock := n })

/-! ## Helpers -/

@[simp] theorem pure_apply (a : α) (w : World L) : (pure a : Effect L α) w = (.ok a, w) := rfl

@[simp] theorem gets_apply (f : World L → α) (w : World L) : gets f w = (.ok (f w), w) := rfl

@[simp] theorem modify_apply (f : World L → World L) (w : World L) : modify f w = (.ok (), f w) := rfl

theorem bind_apply (x : Effect L α) (f : α → Effect L β) (w : World L) :
    (x >>= f) w =
      match x w with
      | (.ok a, w) => f a w
      | (.panic m, w) => (.panic m, w)
      | (.stop, w) => (.stop, w) := rfl

theorem bind_ok {x : Effect L α} {w w' : World L} {a : α} (h : x w = (.ok a, w'))
    (f : α → Effect L β) : (x >>= f) w = f a w' := by
  simp [bind_apply, h]

theorem bind_panic {x : Effect L α} {w w' : World L} {m : String} (h : x w = (.panic m, w'))
    (f : α → Effect L β) : (x >>= f) w = (.panic m, w') := by
  simp [bind_apply, h]

theorem andFinally_ok {x : Effect L α} {c : Effect L Unit} {w w' w'' : World L} {a : α}
    (h : x w = (.ok a, w')) (hc : c w' = (.ok (), w'')) : x.andFinally c w = (.ok a, w'') := by
  simp [andFinally, h, hc]

theorem onPanic_ok {x : Effect L α} {c : Effect L Unit} {w w' : World L} {a : α}
    (h : x w = (.ok a, w')) : x.onPanic c w = (.ok a, w') := by
  simp [onPanic, h]

theorem bind_assoc {γ : Type} (x : Effect L α) (f : α → Effect L β) (g : β → Effect L γ) :
    x >>= f >>= g = x >>= fun a => f a >>= g := by
  funext w
  simp only [bind_apply]
  rcases x w with ⟨_ | _ | _, _⟩ <;> rfl

theorem pure_bind (a : α) (f : α → Effect L β) : (pure a >>= f : Effect L β) = f a := rfl

theorem bind_pure (x : Effect L α) : (x >>= pure : Effect L α) = x := by
  funext w
  simp only [bind_apply]
  rcases h : x w with ⟨_ | _ | _, _⟩ <;> rfl

end Effect

end CoroutineEngine
