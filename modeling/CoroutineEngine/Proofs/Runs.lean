import CoroutineEngine.Proofs.Keeping
import CoroutineEngine.Proofs.Tenure
import CoroutineEngine.Script.Machine

/-!
# Runs of a driver

A driver makes one request after another, of any kind and on any coroutine. Between its requests the world
is reached; while a request is being served, the run passes through moments. A run can be cut at every
step of the clock, and what a client does may set the clock, so every step of a body, a finalizer or a
hook is a moment.

Results:
* `Reaches.keeps`: what the law of a coroutine's record says of a whole run.
* `Moment.keeps`: what it says of every moment of a run.
-/

namespace CoroutineEngine

variable {L : Language}

/-! ## Definitions -/

/-- A driver gets from one world to another, on engines of any depth under a watch that does not end the
run. Panics are caught. -/
inductive Reaches (W : Watch) (w : World L) : World L → Prop
  | refl : Reaches W w w
  | step {v : World L} {α : Type} {x : Procedure L α} (n : Nat) :
      Reaches W w v → Client none x → (x (.watched L W n) v).1 ≠ .stop →
      Reaches W w (x (.watched L W n) v).2

/-- A moment of a run: where something that a driver does, is over or is cut. -/
inductive Moment (W : Watch) (w : World L) : World L → Prop
  | of {v : World L} {α : Type} {x : Procedure L α} (n : Nat) :
      Reaches W w v → Client none x → Moment W w (x (.watched L W n) v).2

/-- A coroutine that runs a script, and has no peculiarities. -/
def coroutineOf (name : String) (body : Script.Block) : CoroutineSpec Script.Block where
  code := .spec ⟨name, none, none, none, body⟩
  name := none
  qualname := none
  parameters := []
  closure := []
  stackSize := none
  reportChildren := none
  failures := none
  lostAt := none

/-- Builds a coroutine that runs a script, puts it into a slot, and starts it. -/
def launch (slot : String) (body : Script.Block) (E : Engine Script.language) :
    Effect Script.language Unit := do
  match ← perform E .outer (.makeCoroutine (coroutineOf slot body)) with
  | .ok (.value v) =>
    storeSlot E slot v
    let _ ← perform E .outer (.send (.slot slot) .none)
  | _ => pure ()

/-! ## Helpers -/

variable {W : Watch} {w v u : World L}

namespace Reaches

theorem trans (h : Reaches W w v) (h' : Reaches W v u) : Reaches W w u := by
  induction h' with
  | refl => exact h
  | step n _ hx hstop ih => exact .step n ih hx hstop

/-- Every operation of the engine is a step of a driver. -/
theorem perform (h : Reaches W w v) (n : Nat) (op : Operation L.Script)
    (hstop : (CoroutineEngine.perform (.watched L W n) .outer op v).1 ≠ .stop) :
    Reaches W w (CoroutineEngine.perform (.watched L W n) .outer op v).2 :=
  .step n h (Client.perform .outer op) hstop

theorem moment (h : Reaches W w v) : Moment W w v :=
  .of (x := fun _ => pure ()) 0 h (.pure ())

end Reaches

theorem World.fresh_orderly (clock : Nat) : (World.fresh clock : World L).Orderly :=
  ⟨rfl, fun h hh => absurd hh (by simp [World.fresh, Ambient.fresh])⟩

theorem World.fresh_lawful (T : Terms) (i : CoroutineId) (clock : Nat) :
    Lawful T i (World.fresh clock : World L) := by
  refine ⟨World.fresh_orderly clock, ?_⟩
  rw [World.coroutine_eq_default (Nat.zero_le _)]
  exact CoroutineRecord.newborn_default.sound

theorem launch_client (slot : String) (body : Script.Block) : Client none (launch slot body) := by
  refine .bind (Client.perform .outer _) fun answer => ?_
  rcases answer with e | v | d
  · exact .pure ()
  · exact .bind (Client.storeSlot slot v) fun _ =>
      .bind (Client.perform .outer _) fun _ => .pure ()
  · exact .pure ()

/-- What holds in the beginning, and after whatever a client does, holds all the time. -/
theorem Moment.invariant {P : World L → Prop} (hw : P w)
    (step : ∀ {v : World L} {α : Type} {x : Procedure L α} (n : Nat), P v → Client none x →
      P (x (.watched L W n) v).2) (h : Moment W w v) : P v := by
  have reached {v : World L} (h : Reaches W w v) : P v := by
    induction h with
    | refl => exact hw
    | step n _ hx _ ih => exact step n ih hx
  cases h with
  | of n hv hx => exact step n (reached hv) hx

theorem World.fresh_tended (i : CoroutineId) (clock : Nat) :
    Tended i (World.fresh clock : World L) where
  orderly := World.fresh_orderly clock
  nodup := .nil
  lawful h := absurd h (Nat.not_lt_zero _)
  enrolled h := absurd (World.has_of_handles h) (Nat.not_lt_zero _)

/-- At every moment the accounts of a coroutine are right. -/
theorem Moment.tended {clock : Nat} (h : Moment W (World.fresh clock) v) (i : CoroutineId) :
    Tended i v :=
  h.invariant (P := Tended i) (World.fresh_tended i clock) fun n hv hx =>
    (tends_of_kept ((tending_watched W i n).client hx) hv).tended

/-! ## The law over a run -/

/-- From a world that the law holds of, a run gets only to worlds that the law relates to it. -/
theorem Reaches.keeps {i : CoroutineId} (hw : Lawful (W.terms i) i w) (h : Reaches W w v) :
    Follows (W.terms i) i none w v := by
  induction h with
  | refl => exact .refl hw fun h => (Option.some_ne_none _ h.symm).elim
  | @step v _ x n _ hx hstop ih =>
    have hm := (((faithful_watched W i n).client hx).after ih).holds
    rcases hr : x (.watched L W n) v with ⟨_ | _ | _, u⟩ <;> rw [hr] at hm hstop
    · exact hm
    · exact hm
    · exact absurd rfl hstop

/-- The same holds of every moment, as far as the law speaks of moments. -/
theorem Moment.keeps {i : CoroutineId} (hw : Lawful (W.terms i) i w) (h : Moment W w v) :
    CutAt (W.terms i) i w v := by
  cases h with
  | @of v _ x n hv hx =>
    have hm := (((faithful_watched W i n).client hx).after (hv.keeps hw)).holds
    rcases hr : x (.watched L W n) v with ⟨_ | _ | _, u⟩ <;> rw [hr] at hm
    · exact Follows.cut hm
    · exact Follows.cut hm
    · exact hm

end CoroutineEngine
