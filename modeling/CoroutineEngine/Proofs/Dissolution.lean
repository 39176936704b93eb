import CoroutineEngine.Proofs.Finalization
import CoroutineEngine.Proofs.Heeding
import CoroutineEngine.Proofs.Inputs
import CoroutineEngine.Proofs.Stock

/-!
# What a coroutine gives up, and in which order

A coroutine gives its parameters up when it finishes, or else when it is torn down. Its cells, its frame and its
fiber are given up by the teardown, one after the other; then the coroutine is withdrawn, the error is put back,
and what is left is released. What was given up does not come back, so each of these is released once. From the
moment on at which the last handle is given up, nobody can get a handle any more.

Results:
* `Moment.stocked`, `Reaches.cleared`: what a coroutine has of its inputs, over all runs.
* `relinquishes`, `dissolves`: the teardown step by step.
* `inputs_released`: each input is released once, in its order, and not too early.
-/

namespace CoroutineEngine

variable {L : Language} {α : Type}

/-! ## Definitions -/

namespace CoroutineRecord

/-- The record of a coroutine that finishes. -/
def concluded (r : CoroutineRecord L) : CoroutineRecord L :=
  { r.noteFinish with status := .finished, frame := none, inputs := r.inputs.releaseParameters.2 }

/-- A coroutine has all that it was built with, without the parameters once it is finished. -/
def IsFurnished (r : CoroutineRecord L) : Prop :=
  r.inputs =
    if r.status = .finished then ⟨[], r.history.closure, true⟩
    else .new r.history.parameters r.history.closure

/-- What the coroutine still owns when all else is given up: a primed exception, what it awaits, and what it
handled. -/
def leftovers (r : CoroutineRecord L) : List Value :=
  (r.pending.map (·.owned)).getD [] ++ r.awaiting.toList ++ r.handled.toList.map .exception

end CoroutineRecord

/-- Withdraws a coroutine from the registry. -/
def deregister (c : CoroutineId) : Effect L Unit := do
  let _ ← untrackObject (.coroutine c)
  logCoroutine .debug "coroutine released" c []

/-- Nobody can get a handle of the coroutine: it has none that could be copied, its weak references give nothing,
and neither does its body find it. -/
structure Unavailable (i : CoroutineId) (w : World L) : Prop where
  handles : (w.coroutine i).handles = 0
  upgrade : ∀ weak, w.weaks.lookup weak = some i → performUpgrade weak w = (.ok .nothing, w)
  self : ∀ (E : Engine L) k locals, k.coroutine = i → evaluate E ⟨some k, locals⟩ .self w = (.ok .none, w)

/-- Whatever a client does from here, nobody can get a handle of the coroutine, and its body does not go on unless
it is let go on for somebody who makes a request without a handle. -/
def Sealed (W : Watch) (i : CoroutineId) (w : World L) : Prop :=
  ∀ {α : Type} {k : Option CoroutineId} {x : Procedure L α} (n : Nat), Client k x →
    let u := (x (.watched L W n) w).2
    Unavailable i u ∧ ((u.coroutine i).history.visits = (w.coroutine i).history.visits →
      (u.coroutine i).history.resumptions = (w.coroutine i).history.resumptions)

/-- A step of a teardown gets from one world to another. -/
structure Sheds (W : Watch) (n : Nat) (i : CoroutineId) (x : Procedure L Unit) (w v : World L) : Prop where
  shut : Sealed W i w
  done : x (.watched L W n) w = (.ok (), v)

/-- The worlds in which the steps of a teardown are over. -/
structure Stages (L : Language) where
  parameters : World L
  cells : World L
  fiber : World L
  withdrawal : World L
  error : World L
  stray : World L

/-- The last handle is given up, and the coroutine is closed once more if it is suspended. -/
inductive Bids (E : Engine L) (i : CoroutineId) (w : World L) : World L → Prop
  | silent : (w.coroutine i).isSuspended = false → Bids E i w (w.dissolving i)
  | farewell {v : World L} : (w.coroutine i).isSuspended = true →
      closeUnraisable E i ((w.dissolving i).modifyCoroutine i CoroutineRecord.noteFarewell) = (.ok (), v) →
      Bids E i w v

/-- A teardown from where the close is over. The coroutine gives up the parameters that it still has, then the cells,
then its frame and its fiber. It is withdrawn, the error is put back, and what it still owns is released. A fiber is
found then only if somebody has trespassed. -/
structure Dissolves (W : Watch) (n : Nat) (i : CoroutineId) (saved : Option PendingException) (v : World L)
    (s : Stages L) (u : World L) : Prop where
  furnished : (v.coroutine i).IsFurnished
  parameters : Sheds W n i (fun E => E.releaseAll (v.coroutine i).inputs.parameters)
    (v.modifyCoroutine i fun _ => (v.coroutine i).unloaded) s.parameters
  intact : (s.parameters.coroutine i).inputs = ⟨[], (v.coroutine i).history.closure, true⟩
  cells : Sheds W n i (fun E => E.releaseAll ((v.coroutine i).history.closure.map .cell))
    (s.parameters.modifyCoroutine i fun _ => (s.parameters.coroutine i).uncelled) s.cells
  fiber : Sheds W n i (fun E => (s.cells.coroutine i).fiber.elim (pure ()) (releaseFiber E))
    (s.cells.modifyCoroutine i fun _ => (s.cells.coroutine i).dismantled) s.fiber
  withdrawal : Sheds W n i (fun _ => deregister i) s.fiber s.withdrawal
  error : Sheds W n i (fun E => putBack E saved) s.withdrawal s.error
  emptied : (s.error.coroutine i).inputs = ⟨[], [], true⟩
  fiberless : (s.error.coroutine i).history.trespasses = 0 → (s.error.coroutine i).fiber = none
  unprimed : (s.error.coroutine i).pending = none ∨ (s.error.coroutine i).IsDoomed
  stray : Sheds W n i (fun E => (s.error.coroutine i).fiber.elim (pure ()) (releaseFiber E))
    (s.error.modifyCoroutine i fun _ => (s.error.coroutine i).remains) s.stray
  leftovers : Sheds W n i (fun E => E.releaseAll (s.error.coroutine i).leftovers) s.stray u

/-- What is known of the inputs of a coroutine `i` in runs from a world.

* `built`: the history of the coroutine notes what it was built with.
* `lasting`: that note does not change, what was given up does not come back, and nothing is given up unless the
  coroutine finishes or its last handle is given up.
* `held`: it has all of its parameters or none, and none once it is finished. As long as somebody holds it, it has
  all of its cells, and all of its parameters until it is finished.
* `concluded`: it finishes once. A finished coroutine is not executed, and its body does not go on any more.
* `finish`: wherever it finishes, it gives the parameters that it has up before anything else, and keeps the cells.
* `teardown`: it is torn down once. After the close it gives up what it still has, in order.
* `unavailable`: from the beginning of the teardown on, at each of its steps, nobody can get a handle.
* `buried`: between the requests of a driver, a coroutine that nobody holds has given everything up. -/
structure ReleasesInputs (W : Watch) (i : CoroutineId) (w : World L) : Prop where
  built : ∀ (b : Blueprint) (v : World L), v.coroutines.size = i.index →
    let r := (makeCoroutine b v).2.coroutine i
    r.inputs = .new b.parameters b.closure ∧ r.history = .new b.parameters b.closure
  lasting : ∀ v u, Reaches W w v → Moment W v u → v.Has i → (v.coroutine i).Yields (u.coroutine i)
  held : ∀ v, Moment W w v →
    (v.coroutine i).IsStocked ∧ ((v.coroutine i).handles ≠ 0 → (v.coroutine i).IsFurnished)
  concluded : ∀ v, Moment W w v →
    ((v.coroutine i).history.finishes = if (v.coroutine i).status = .finished then 1 else 0) ∧
      ((v.coroutine i).status = .finished → (v.coroutine i).running = false ∧
        ∀ {α : Type} {k : Option CoroutineId} {x : Procedure L α} (n : Nat), Client k x →
          let u := (x (.watched L W n) v).2
          (u.coroutine i).status = .finished ∧
            (u.coroutine i).history.resumptions = (v.coroutine i).history.resumptions)
  finish : ∀ v, v.Orderly → v.Has i → (v.coroutine i).IsStocked → ∀ n u,
    finish (.watched L W n) i v = (.ok (), u) →
      ∃ v₁, Engine.releaseAll (.watched L W n)
          (if (v.coroutine i).released then [] else (v.coroutine i).history.parameters)
          (v.modifyCoroutine i fun _ => (v.coroutine i).concluded) = (.ok (), v₁) ∧
        ((v₁.coroutine i).handles ≠ 0 → (v₁.coroutine i).inputs = ⟨[], (v.coroutine i).history.closure, true⟩)
  teardown : ∀ v, Moment W w v → (v.coroutine i).handles = 1 → ∀ n u,
    dropHandle (.watched L W n) i v = (.ok (), u) →
      (u.coroutine i).history.teardowns = 1 ∧
        ∃ v₀ s, Bids (.watched L W n) i v v₀ ∧ Dissolves W n i v.ambient.error v₀ s u
  unavailable : ∀ v, Moment W w v → (v.coroutine i).handles = 1 → ∀ n,
    Unavailable i (dropHandle (.watched L W n) i v).2
  buried : ∀ v, Reaches W w v → v.Has i → (v.coroutine i).handles = 0 →
    (v.coroutine i).inputs = ⟨[], [], true⟩

/-! ## Helpers -/

variable {W : Watch} {T : Terms} {n : Nat} {E : Engine L} {i : CoroutineId} {r r' : CoroutineRecord L}
  {w v u : World L}

namespace CoroutineRecord

/-- The inputs of a coroutine whose last handle is not given up. -/
theorem IsFurnished.after (h : r.IsFurnished) (hy : r.Yields r') (hs : r'.IsStocked) (hn : ¬ r.IsForsaken r') :
    r'.IsFurnished := by
  have hclosure : r'.inputs.closure = r'.history.closure := by
    rw [hy.cells.resolve_right hn, hy.closure, h]
    split <;> rfl
  unfold IsFurnished
  split
  · rename_i hf
    have hrel := hs.finished hf
    rw [← hclosure, ← hs.spent hrel]
    exact congrArg (Inputs.mk _ _) hrel
  · rename_i hf
    have hkept : r.released = false := by
      have hnot : r.status ≠ .finished := hf ∘ hy.finished
      rw [released, h, if_neg hnot]
      rfl
    cases hrel : r'.released with
    | false => exact hs.whole hrel
    | true => exact ((hy.spent hkept hrel).elim hf hn).elim

/-- What a coroutine has given up stays so. -/
theorem Yields.inputs (h : r.Yields r') (hs : r'.IsStocked) (hn : ¬ r.IsForsaken r')
    (hr : r.released = true) : r'.inputs = ⟨[], r.inputs.closure, true⟩ := by
  have hclosure := h.cells.resolve_right hn
  have hrel := h.released hr
  rw [← hclosure, ← hs.spent hrel]
  exact congrArg (Inputs.mk _ _) hrel

/-- A coroutine that somebody holds is furnished. -/
theorem IsStocked.furnished (h : r.IsStocked) (hc : r.IsCoherent T) (hh : r.handles ≠ 0) : r.IsFurnished := by
  unfold IsFurnished
  split
  · rename_i hf
    have hrel := h.finished hf
    rw [← h.cells.resolve_right fun hgone => hh hgone.1, ← h.spent hrel]
    exact congrArg (Inputs.mk _ _) hrel
  · rename_i hf
    exact h.whole (hc.unreleased hf hh)

theorem Retains.farewell (r : CoroutineRecord L) : r.Retains r.noteFarewell := ⟨rfl, rfl, rfl, .rfl, .rfl⟩

theorem IsFurnished.farewell (h : r.IsFurnished) : r.noteFarewell.IsFurnished := h

theorem IsSound.farewell (h : r.IsSound T) : r.noteFarewell.IsSound T :=
  have hspares : r.Spares r.noteFarewell := rfl
  hspares.sound id h

/-- A coroutine that has no fiber and that nobody holds gets none, unless somebody trespasses. -/
theorem Accounts.fiberless (h : r.Accounts r') (hc : r.IsCoherent T) (hf : r.fiber = none)
    (ht : r'.history.trespasses = 0) (hh : r.handles = 0) : r'.fiber = none := by
  by_cases hu : r.status = .unused
  · -- an unused coroutine has never had a fiber, so none is in flight
    have hlaid : r.IsLaid := fun _ _ => ⟨hf, fun hfly => by
      have hlt := hfly.2
      rw [hc.fibers, if_pos hu] at hlt
      exact absurd hlt (Nat.not_lt_zero _)⟩
    exact (h.laid hlaid (h.bare hh) ht).1
  · exact (h.gone hu hf).1

end CoroutineRecord

/-- What holds however a computation ends holds in the end. -/
theorem Meets.anyway {x : Effect L α} {P : World L → Prop} (h : Meets x w ⟨fun _ => P, P, P⟩) : P (x w).2 := by
  have hx := h.holds
  rcases hw : x w with ⟨_ | _ | _, v⟩ <;> rw [hw] at hx <;> exact hx

theorem unavailable_of_handles (h : (w.coroutine i).handles = 0) : Unavailable i w := by
  have hdead : ¬ w.isAlive i = true := by simp [World.isAlive, h]
  refine ⟨h, fun weak hweak => ?_, fun E k locals hk => ?_⟩
  · simp only [performUpgrade, Effect.bind_apply, Effect.gets_apply, hweak, if_neg hdead]
    rfl
  · have hread : ((some k).bind fun k : Context =>
        if w.isAlive k.coroutine then some (Value.coroutine k.coroutine) else none) = none := by
      subst hk
      exact if_neg hdead
    unfold evaluate
    refine (Effect.bind_ok rfl _).trans ?_
    simp only [hread]
    rfl

/-- However a client ends, a coroutine rests that was not visited. -/
theorem Heedful.heeded (hE : Heedful i E) {k : Option CoroutineId} {x : Procedure L α} (hx : Client k x)
    (ho : w.Orderly) (hi : w.Has i) : (w.coroutine i).Heeds (k = some i) ((x E w).2.coroutine i) := by
  have hheed : Meets (x E) w ⟨fun _ => Heeded i k w, Heeded i k w, Heeded i k w⟩ :=
    (hE.client hx w ho).mono (fun _ _ hu => hu.2) (fun _ hu => hu.2) fun _ hu => hu.2
  exact (hheed.anyway hi).2

/-- Where nobody holds the coroutine, nobody will. -/
theorem Bare.sealed (h : Bare i w) (ho : w.Orderly) : Sealed W i w := by
  intro α k x n hx
  have hstock : Meets (x (.watched L W n)) w ⟨fun _ => Yielded i w, Yielded i w, Yielded i w⟩ :=
    ((stocking_watched W i n).client hx w ⟨ho, h.stocked⟩).mono (fun _ _ hu => hu.yielded) (fun _ hu => hu.yielded)
      fun _ hu => hu.2
  refine ⟨unavailable_of_handles ((hstock.anyway h.has).2.bare h.handles), fun hv => ?_⟩
  exact congrArg Attention.resumptions (((heedful_watched W i n).heeded hx ho h.has).rests hv).attention

/-! ## Finishing -/

/-- What a coroutine gives up as it finishes. -/
theorem finishes (ho : w.Orderly) (hi : w.Has i) (hs : (w.coroutine i).IsStocked) :
    Meets (finish (.watched L W n) i) w (.promise fun _ _ => ∃ v,
      Engine.releaseAll (.watched L W n)
          (if (w.coroutine i).released then [] else (w.coroutine i).history.parameters)
          (w.modifyCoroutine i fun _ => (w.coroutine i).concluded) = (.ok (), v) ∧
        ((v.coroutine i).handles ≠ 0 → (v.coroutine i).inputs = ⟨[], (w.coroutine i).history.closure, true⟩)) := by
  have hparameters : (w.coroutine i).inputs.parameters =
      if (w.coroutine i).released then [] else (w.coroutine i).history.parameters := by
    cases hr : (w.coroutine i).released with
    | true => exact hs.spent hr
    | false =>
      rw [hs.whole hr]
      rfl
  refine .then_eq rfl (.then_ok fun _ v hv => .promise_of fun _ _ _ => ?_)
  replace hv : Engine.releaseAll (.watched L W n) (w.coroutine i).inputs.parameters
      (w.modifyCoroutine i fun _ => (w.coroutine i).concluded) = (.ok (), v) := hv
  rw [hparameters] at hv
  refine ⟨v, hv, fun hh => ?_⟩
  have hspends : (w.coroutine i).Spends (w.coroutine i).concluded := .finish rfl rfl rfl rfl rfl
  have hstep : Stocks i w (w.modifyCoroutine i fun _ => (w.coroutine i).concluded) := stocks_modified ho hs hspends
  obtain ⟨hi', hr⟩ := modified_of_has hi fun _ => (w.coroutine i).concluded
  have hlater : Stocks i _ v := ((stocking_watched W i n).releaseAll _ _ ((stocking L i).next hstep)).ok hv
  have hyields := (hlater.yielded hi').2
  rw [hr] at hyields
  -- somebody holds the coroutine afterwards, so somebody did all the time
  have hheld : (w.coroutine i).handles ≠ 0 := hh ∘ hyields.bare
  have hclosure := hs.cells.resolve_right fun hgone => hheld hgone.1
  rw [← hclosure]
  exact hyields.inputs hlater.stocked (fun hgone => hh hgone.2) rfl

/-! ## The teardown -/

/-- A coroutine that gives up its last handle has none however the teardown ends. -/
theorem forsaken (hw : (stocking L i).start w) (hone : (w.coroutine i).handles = 1) :
    Meets (dropHandle (.watched L W n) i) w ⟨fun _ u => (u.coroutine i).handles = 0,
      fun u => (u.coroutine i).handles = 0, fun u => (u.coroutine i).handles = 0⟩ := by
  refine .then_eq rfl ?_
  rw [if_pos hone]
  refine .onPanic (((stocking_watched W i n).teardown (Stocking.clearing_abandoned hw hone)).mono
    (fun _ _ hu => hu.2.1.handles) (fun u hu => ⟨?_⟩) fun _ hu => hu.handles)
  exact (modified_same (g := (·.handles)) rfl).trans hu.2.1.handles

/-- Where a coroutine that nobody holds gives up what it has. -/
structure Waning (T : Terms) (i : CoroutineId) (w : World L) : Prop where
  lawful : Lawful T i w
  bare : Bare i w

/-- What keeps both the law of the inputs and that of the record. -/
structure Gentle (T : Terms) (i : CoroutineId) (x : Effect L α) : Prop where
  stocking : (stocking L i).Kept x
  standing : (standing L T i none).Kept x

namespace Gentle

theorem quiet {x : Effect L α} (hx : Quiet x) : Gentle T i x := ⟨stocking_quiet hx, standing_quiet hx⟩

theorem harmless {x : Effect L α} (hx : Harmless x) : Gentle T i x := ⟨stocking_harmless hx, standing_harmless hx⟩

theorem bind {β : Type} {x : Effect L α} {f : α → Effect L β} (hx : Gentle T i x) (hf : ∀ a, Gentle T i (f a)) :
    Gentle T i (x >>= f) := ⟨hx.stocking.bind fun a => (hf a).stocking, hx.standing.bind fun a => (hf a).standing⟩

theorem releaseAll (vs : List Value) : Gentle (W.terms i) i (Engine.releaseAll (.watched L W n) vs) :=
  ⟨(stocking_watched W i n).releaseAll vs, gentle_anyone ((faithful_watched W i n).releaseAll vs)⟩

theorem fiber (f : Option (Fiber L)) :
    Gentle (W.terms i) i (f.elim (pure ()) (releaseFiber (.watched L W n))) := by
  refine ⟨(stocking_watched W i n).fiber f, ?_⟩
  cases f with
  | none => exact standing_quiet (.pure _)
  | some f => exact gentle_anyone ((faithful_watched W i n).releaseFiber f)

theorem deregister : Gentle T i (deregister i : Effect L Unit) :=
  .bind (.harmless (untrackObject_mild _).harmless) fun _ => .quiet (logCoroutine_still _ _ _ _).quiet

theorem putBack (saved : Option PendingException) : Gentle (W.terms i) i (putBack (.watched L W n) saved) :=
  .bind (.quiet (swapError_quiet _)) fun _ => releaseAll _

end Gentle

namespace Waning

/-- Something is done that keeps the laws. -/
theorem after (h : Waning (W.terms i) i w) {x : Procedure L Unit} (hx : Gentle (W.terms i) i (x (.watched L W n)))
    (hd : x (.watched L W n) w = (.ok (), v)) :
    Sheds W n i x w v ∧ Waning (W.terms i) i v ∧ (w.coroutine i).Yields (v.coroutine i) ∧
      (w.coroutine i).LeadsTo (W.terms i) (v.coroutine i) := by
  have hstocks : Stocks i w v := (hx.stocking w ⟨h.lawful.orderly, h.bare.stocked⟩).ok hd
  have hfollows : Follows (W.terms i) i none w v :=
    (hx.standing w ⟨h.lawful, fun h => (Option.some_ne_none _ h.symm).elim⟩).ok hd
  have hwanes := hstocks.yielded.wanes h.bare hstocks.stocked
  exact ⟨⟨h.bare.sealed h.lawful.orderly, hd⟩, ⟨hfollows.lawful, hwanes.toBare⟩,
    (hstocks.yielded h.bare.has).2, (hfollows.leads h.bare.has).2⟩

/-- The record is changed before. -/
theorem give (h : Waning (W.terms i) i w) {x : Procedure L Unit} {f : CoroutineRecord L → CoroutineRecord L}
    (hs : (f (w.coroutine i)).IsSound (W.terms i)) (hw : Wanes i w (w.modifyCoroutine i f))
    (hx : Gentle (W.terms i) i (x (.watched L W n))) (hd : x (.watched L W n) (w.modifyCoroutine i f) = (.ok (), v)) :
    Sheds W n i x (w.modifyCoroutine i f) v ∧ Waning (W.terms i) i v ∧ (f (w.coroutine i)).Yields (v.coroutine i) ∧
      (f (w.coroutine i)).LeadsTo (W.terms i) (v.coroutine i) := by
  obtain ⟨-, hr⟩ := modified_of_has h.bare.has f
  have hsound : ((w.modifyCoroutine i f).coroutine i).IsSound (W.terms i) := by
    rw [hr]
    exact hs
  have hlawful : Lawful (W.terms i) i (w.modifyCoroutine i f) :=
    ⟨⟨h.lawful.orderly.borrowed, h.lawful.orderly.hook⟩, hsound⟩
  have hstep := after ⟨hlawful, hw.toBare⟩ hx hd
  rwa [hr] at hstep

end Waning

theorem settle_meets {saved : Option PendingException} {P : World L → Prop}
    (h : Meets (settle E i saved) v (.promise fun _ => P)) :
    Meets (relinquish E i) v (.promise fun _ v₁ => Meets (putBack E saved) v₁
      (.promise fun _ v₂ => Meets (releaseRemains E i) v₂ (.promise fun _ => P))) := by
  refine .promise_of fun _ v₁ h₁ => .promise_of fun _ v₂ h₂ => .promise_of fun _ u h₃ => h.ok (a := ()) ?_
  simp only [settle, Effect.bind_apply, h₁, h₂, h₃]

/-- The steps of a teardown after the close. -/
theorem relinquishes (hv : Waning (W.terms i) i v) (hf : (v.coroutine i).IsFurnished)
    (saved : Option PendingException) :
    Meets (settle (.watched L W n) i saved) v (.promise fun _ u => ∃ s, Dissolves W n i saved v s u) := by
  refine .bind_ok (.then_eq rfl (.then_ok fun _ v₁ h₁ => .then_eq rfl (.then_ok fun _ v₂ h₂ => .then_eq rfl
    (.then_ok fun _ v₃ h₃ => .promise_of fun _ v₄ h₄ => .then_ok fun _ v₅ h₅ => .then_eq rfl
      (.finally_ok (.promise_of fun _ v₆ h₆ => .promise_of fun _ u hu => ?_))))))
  have hclosure : (v.coroutine i).unloaded.inputs.closure = (v.coroutine i).history.closure := by
    show (v.coroutine i).inputs.closure = _
    rw [hf]
    split <;> rfl
  -- the parameters
  obtain ⟨hparameters, hv₁, hy₁, -⟩ := hv.give (x := fun E => E.releaseAll _) (f := fun _ => (v.coroutine i).unloaded)
    (Faithful.unloaded_sound hv.lawful.sound hv.bare.handles) (Stocking.wanes_unloaded hv.bare).1 (.releaseAll _) h₁
  have hin₁ := hy₁.inputs hv₁.bare.stocked (fun hgone => hgone.1 hv.bare.handles) rfl
  rw [hclosure] at hin₁
  -- the cells
  have hrel₁ : (v₁.coroutine i).released = true := congrArg Inputs.parametersReleased hin₁
  have hun : (v₁.coroutine i).uncelled.inputs = ⟨[], [], true⟩ := by
    show (v₁.coroutine i).inputs.releaseClosure.2 = _
    rw [hin₁]
    rfl
  replace h₂ : Engine.releaseAll (.watched L W n) ((v₁.coroutine i).inputs.closure.map .cell)
      (v₁.modifyCoroutine i fun _ => (v₁.coroutine i).uncelled) = (.ok (), v₂) := h₂
  rw [hin₁] at h₂
  obtain ⟨hcells, hv₂, hy₂, -⟩ := hv₁.give (x := fun E => E.releaseAll _) (f := fun _ => (v₁.coroutine i).uncelled)
    (Faithful.uncelled_sound hv₁.lawful.sound hrel₁) (Stocking.wanes_emptied hv₁.bare hun ⟨rfl, rfl⟩ rfl rfl)
    (.releaseAll _) h₂
  have hin₂ := hy₂.inputs hv₂.bare.stocked (fun hgone => hgone.1 hv₁.bare.handles)
    (congrArg Inputs.parametersReleased hun)
  rw [hun] at hin₂
  -- the frame and the fiber
  have hrel₂ : (v₂.coroutine i).released = true := congrArg Inputs.parametersReleased hin₂
  have hsound := Faithful.dismantled_sound hv₂.lawful.sound hrel₂
  obtain ⟨hfiber, hv₃, hy₃, hl₃⟩ := hv₂.give (x := fun E => (v₂.coroutine i).fiber.elim (pure ()) (releaseFiber E))
    (f := fun _ => (v₂.coroutine i).dismantled) hsound (Stocking.wanes_emptied hv₂.bare hin₂ ⟨rfl, rfl⟩ rfl rfl) (.fiber _) h₃
  obtain ⟨hwithdrawal, hv₄, hy₄, hl₄⟩ := hv₃.after (x := fun _ => deregister i) .deregister h₄
  obtain ⟨herror, hv₅, hy₅, hl₅⟩ := hv₄.after (x := fun E => putBack E saved) (.putBack saved) h₅
  have hin₅ := ((hy₃.trans hy₄).trans hy₅).inputs hv₅.bare.stocked (fun hgone => hgone.1 hv₂.bare.handles) hrel₂
  rw [show (v₂.coroutine i).dismantled.inputs = ⟨[], [], true⟩ from hin₂] at hin₅
  have hnone : (v₅.coroutine i).history.trespasses = 0 → (v₅.coroutine i).fiber = none := fun ht =>
    ((hl₃.trans hl₄).trans hl₅).accounts.fiberless hsound.toIsCoherent rfl ht hv₂.bare.handles
  -- what is left
  obtain ⟨hstray, hv₆, -, -⟩ := hv₅.give (x := fun E => (v₅.coroutine i).fiber.elim (pure ()) (releaseFiber E))
    (f := fun _ => (v₅.coroutine i).remains) (Faithful.remains_sound hv₅.lawful.sound hv₅.bare.handles)
    (Stocking.wanes_emptied hv₅.bare rfl ⟨rfl, rfl⟩ rfl rfl) (.fiber _) h₆
  have hlast : Engine.releaseAll (.watched L W n) (v₅.coroutine i).leftovers v₆ = (.ok (), u) := by
    rw [hin₅] at hu
    simpa [CoroutineRecord.leftovers] using hu
  obtain ⟨hleftovers, -⟩ := hv₆.after (x := fun E => E.releaseAll _) (.releaseAll _) hlast
  refine ⟨⟨v₁, v₂, v₃, v₄, v₅, v₆⟩, hf, hparameters, hin₁, hcells, hfiber, hwithdrawal, herror, hin₅, hnone, ?_, hstray,
    hleftovers⟩
  exact hv₅.lawful.sound.pending.imp_right (·.2)

/-- A coroutine that gives up its last handle is closed if it is suspended, and gives up what it has. -/
theorem dissolves (hw : Lawful (W.terms i) i w) (hs : (w.coroutine i).IsStocked) (hone : (w.coroutine i).handles = 1) :
    Meets (dropHandle (.watched L W n) i) w (.promise fun _ u =>
      ∃ v s, Bids (.watched L W n) i w v ∧ Dissolves W n i w.ambient.error v s u) := by
  have hS := stocking_watched (L := L) W i n
  have hF := faithful_watched (L := L) W i n
  have hi : w.Has i := World.has_of_handles (hone ▸ Nat.one_pos)
  obtain ⟨hi₁, h₁⟩ := modified_of_has hi fun _ => (w.coroutine i).abandoned
  obtain ⟨hi₂, h₂⟩ := modified_of_has hi₁ CoroutineRecord.noteTeardown
  have hr : (w.dissolving i).coroutine i = (w.coroutine i).abandoned.noteTeardown := h₂.trans (by rw [h₁])
  have hspares : (w.coroutine i).Spares (w.coroutine i).abandoned.noteTeardown := rfl
  have hgone : (w.coroutine i).abandoned.handles = 0 := congrArg (· - 1) hone
  have hv : Waning (W.terms i) i (w.dissolving i) := by
    refine ⟨⟨⟨hw.orderly.borrowed, hw.orderly.hook⟩, ?_⟩, hi₂, ?_, ?_⟩ <;> rw [hr]
    · exact hspares.sound (fun _ => hgone) hw.sound
    · exact hgone
    · exact ⟨hs.whole, hs.spent, hs.finished, hs.cells.imp_right fun h => ⟨hgone, h.2⟩⟩
  have hfurnished : ((w.dissolving i).coroutine i).IsFurnished := by
    rw [hr]
    exact hs.furnished hw.sound.toIsCoherent (hone ▸ Nat.one_ne_zero)
  have hsuspended : ((w.dissolving i).coroutine i).isSuspended = (w.coroutine i).isSuspended := by
    rw [hr]
    rfl
  refine .then_eq rfl ?_
  rw [if_pos hone]
  refine .owning_ok (.then_eq rfl (.finally_ok
    (.then_eq (fetchError_apply ⟨hw.orderly.borrowed, hw.orderly.hook⟩) ?_)))
  refine .bind_ok (.owning_ok (.then_gets ?_))
  change Meets (if ((w.dissolving i).coroutine i).isSuspended = true then _ else _) (w.dissolving i) _
  rw [hsuspended]
  split
  · rename_i hsus
    refine .then_eq rfl (.then_ok fun _ v hclose => settle_meets ?_)
    -- the close may finish the coroutine, but nobody gives a handle up in it
    have hnoted : Stocks i (w.dissolving i) ((w.dissolving i).modifyCoroutine i CoroutineRecord.noteFarewell) :=
      stocks_modified hv.lawful.orderly hv.bare.stocked (CoroutineRecord.Retains.farewell _).spends
    obtain ⟨-, hv', hy, -⟩ := hv.give (x := fun E => closeUnraisable E i) (.farewell hv.lawful.sound)
      (hnoted.yielded.wanes hv.bare hnoted.stocked) ⟨hS.closeUnraisable, hF.closeUnraisable⟩ hclose
    have hfurnished' := hfurnished.farewell.after hy hv'.bare.stocked fun h => h.1 hv.bare.handles
    refine (relinquishes hv' hfurnished' _).mono (fun _ u hu => ?_) (fun _ h => h) fun _ h => h
    obtain ⟨s, hu⟩ := hu
    exact ⟨_, s, .farewell hsus hclose, hu⟩
  · rename_i hsus
    refine settle_meets ((relinquishes hv hfurnished _).mono (fun _ u hu => ?_) (fun _ h => h) fun _ h => h)
    obtain ⟨s, hu⟩ := hu
    exact ⟨_, s, .silent (by simpa using hsus), hu⟩

/-! ## Runs -/

theorem World.fresh_stocked (i : CoroutineId) (clock : Nat) :
    (stocking L i).start (World.fresh clock : World L) ∧ Cleared i (World.fresh clock : World L) := by
  refine ⟨⟨World.fresh_orderly clock, ?_⟩, fun hi => absurd hi (Nat.not_lt_zero _)⟩
  rw [World.coroutine_eq_default (Nat.zero_le _)]
  exact CoroutineRecord.newborn_default.stocked

/-- What a coroutine has of its inputs between the requests of a driver. -/
theorem Reaches.stocks (hw : (stocking L i).start w) (h : Reaches W w v) : Stocks i w v := by
  induction h with
  | refl => exact (stocking L i).refl hw
  | @step v _ x n _ hx hstop ih =>
    have hm := (((stocking_watched W i n).client hx).after ih).holds
    rcases hr : x (.watched L W n) v with ⟨_ | _ | _, u⟩ <;> rw [hr] at hm hstop
    · exact hm
    · exact hm
    · exact absurd rfl hstop

/-- What it has of them at every moment. -/
theorem Moment.stocks (hw : (stocking L i).start w) (h : Moment W w v) :
    (v.coroutine i).IsStocked ∧ Yielded i w v := by
  cases h with
  | @of v _ x n hv hx =>
    have hm := (((stocking_watched W i n).client hx).after (hv.stocks hw)).holds
    rcases hr : x (.watched L W n) v with ⟨_ | _ | _, u⟩ <;> rw [hr] at hm
    · exact ⟨hm.stocked, hm.yielded⟩
    · exact ⟨hm.stocked, hm.yielded⟩
    · exact hm

/-- Each input is released once, in its order, and not too early. -/
theorem inputs_released (W : Watch) (i : CoroutineId) (clock : Nat) :
    ReleasesInputs W i (World.fresh clock : World L) where
  built b v hi := by
    have hnew : (makeCoroutine b v).2.coroutine i = b.record v.settings := by
      rw [World.coroutine, makeCoroutine_coroutines, ← hi]
      exact Table.get_push_self _ _
    rw [hnew]
    exact ⟨rfl, rfl⟩
  lasting v u hv hu hi := by
    have hstart := (stocking L i).next (hv.stocks (World.fresh_stocked i clock).1)
    exact ((hu.stocks hstart).2 hi).2
  held v hv := by
    have hlaw := (hv.keeps (World.fresh_lawful (W.terms i) i clock)).lawful
    have hstocked := (hv.stocks (World.fresh_stocked i clock).1).1
    exact ⟨hstocked, hstocked.furnished hlaw.sound.toIsCoherent⟩
  concluded v hv := by
    have hlaw := (hv.keeps (World.fresh_lawful (W.terms i) i clock)).lawful
    refine ⟨hlaw.sound.finishes, fun hf => ⟨?_, fun n hx => ?_⟩⟩
    · cases hrun : (v.coroutine i).running with
      | false => rfl
      | true => exact absurd ((hlaw.sound.running hrun).1.symm.trans hf) (by decide)
    · have hi : v.Has i := Classical.byContradiction fun hi => by
        rw [World.coroutine_eq_default (Nat.le_of_not_lt hi)] at hf
        exact absurd hf (show Status.unused ≠ .finished by decide)
      have hheed := (heedful_watched W i n).heeded hx (hv.tended i).orderly hi
      have hrests := hheed.rests (hheed.finished hf)
      exact ⟨hrests.status.trans hf, congrArg Attention.resumptions hrests.attention⟩
  finish v ho hi hs n u hu := (finishes ho hi hs).ok hu
  teardown v hv hone n u hu := by
    have hlaw := (hv.keeps (World.fresh_lawful (W.terms i) i clock)).lawful
    have hstocked := (hv.stocks (World.fresh_stocked i clock).1).1
    refine ⟨?_, (dissolves hlaw hstocked hone).ok hu⟩
    have htends : Tends i v u := by
      have h := tends_of_kept (tending_watched W i n).dropHandle (hv.tended i)
      rwa [hu] at h
    have hi : v.Has i := World.has_of_handles (hone ▸ Nat.one_pos)
    have hgone : (u.coroutine i).handles = 0 := (forsaken ⟨hlaw.orderly, hstocked⟩ hone).ok hu
    have hcount := (htends.tended.lawful (htends.grown.has hi)).teardowns
    rwa [if_pos (show (u.coroutine i).tenure.handles = 0 from hgone)] at hcount
  unavailable v hv hone n := by
    have hstart : (stocking L i).start v :=
      ⟨(hv.tended i).orderly, (hv.stocks (World.fresh_stocked i clock).1).1⟩
    exact unavailable_of_handles (forsaken hstart hone).anyway
  buried v hv hi hz := by
    have hfresh := World.fresh_stocked (L := L) i clock
    exact (hv.stocks hfresh.1).cleared hfresh.2 hi hz

end CoroutineEngine
