import CoroutineEngine.Proofs.Runs
import CoroutineEngine.Proofs.Slot

/-!
# What a release leaves behind

The release of a handle can close and tear down coroutines, and whatever their bodies do then, they
return, raise or yield again. If it is over with a result, the error slot is as it was, and every coroutine
that was torn down is withdrawn from the registry. A body that panics instead takes the error with it, and
a teardown that its panic ends does not withdraw the coroutine.

Results:
* `release_withdraws`: what holds when the release of a handle is over.
* `panicking_close_disturbs`: two runs in which a body panics while it is closed.
-/

namespace CoroutineEngine

variable {L : Language} {v : World L}

/-! ## Releases -/

/-- When the release of a handle is over, in the midst of any run, the error slot is as it was, and every
coroutine that was alive before is alive or not enrolled any more. -/
theorem release_withdraws {clock : Nat} (hv : Moment {} (World.fresh clock) v) {n : Nat} {x : Value}
    {u : World L} (hover : (Engine.ofDepth L n).release x v = (.ok (), u)) :
    u.ambient.error = v.ambient.error ∧
      ∀ c, v.isAlive c = true →
        u.isAlive c = true ∨ u.registry.isTracked (.coroutine c) = false := by
  refine ⟨((considerate_ofDepth n) x v trivial).ok hover, fun c halive => ?_⟩
  have hkept := (((tending_ofDepth c n).release x) v (hv.tended c)).ok hover
  have hp : 0 < (v.coroutine c).handles := Nat.pos_of_ne_zero (by simpa [World.isAlive] using halive)
  have hi := World.has_of_handles hp
  refine (hkept.2 (fun _ => .inl hp) (hkept.1.grown.has hi)).imp (fun h => ?_) fun h => ?_
  · simpa [World.isAlive] using Nat.ne_of_gt h
  · simpa [Registry.isTracked, Untracked] using h

section

open Script (Block)

/-- A body that dies when it is closed. -/
def mortal : Block :=
  [.attempt [.yield .none none] [.mk none none false [.panic "body died"]] []]

/-- A body that takes a handle of itself when it is closed, and dies when it is closed again. -/
def phoenix : Block :=
  [.attempt [.yield .none none]
    [.mk none none false (.perform (.setSlot "revived" .self) none :: mortal)] []]

/-- Starts a body, and has an error pending. -/
def mourn (body : Block) (E : Engine Script.language) : Effect Script.language Unit := do
  launch "c" body E
  let _ ← perform E .outer (.setError (.exception (.builtinClass "ValueError") []))

/-- Starts a body that takes a handle of itself when the only one is released, and does so. -/
def relapse (E : Engine Script.language) : Effect Script.language Unit := do
  mourn phoenix E
  E.release (.coroutine ⟨0⟩)

theorem mourn_client (body : Block) : Client none (mourn body) :=
  .bind (launch_client _ _) fun _ => .bind (Client.perform .outer _) fun _ => .pure ()

/-- The world after the release of a handle. -/
def World.released (w : World Script.language) : World Script.language :=
  ((Engine.ofDepth _ 40).release (.coroutine ⟨0⟩) w).2

/-- A body that panics when it is closed because its last handle is released, takes the driver's error with
it; one that panics when it is closed by the teardown, leaves a dead coroutine enrolled. -/
theorem panicking_close_disturbs :
    (∃ v : World Script.language, Moment {} (World.fresh 1000) v ∧ v.isAlive ⟨0⟩ = true ∧
      (v.coroutine ⟨0⟩).isSuspended = true ∧ v.ambient.error.isSome = true ∧
      v.released.ambient.error.isSome = false) ∧
    ∃ v : World Script.language, Moment {} (World.fresh 1000) v ∧ v.isAlive ⟨0⟩ = true ∧
      (v.coroutine ⟨0⟩).isSuspended = true ∧ v.released.isAlive ⟨0⟩ = false ∧
      v.released.registry.isTracked (.coroutine ⟨0⟩) = true := by
  refine ⟨⟨_, .of (x := mourn mortal) 40 .refl (mourn_client _), ?_⟩,
    ⟨_, .of (x := relapse) 40 .refl (.bind (mourn_client _) fun _ => .release _), ?_⟩⟩
  · decide +kernel
  · decide +kernel

/-- The world in which the body waits that takes a handle of itself. -/
def bereaved : World Script.language := (mourn phoenix (.watched _ {} 40) (World.fresh 1000)).2

theorem bereaved_moment : Moment {} (World.fresh 1000) bereaved := by
  unfold bereaved
  exact .of (x := mourn phoenix) 40 .refl (mourn_client _)

/-- A body that is closed and takes a handle of itself; the driver's error is as it was. -/
theorem release_withdraws_revived :
    (Engine.ofDepth _ 40).release (.coroutine ⟨0⟩) bereaved = (.ok (), bereaved.released) ∧
      bereaved.isAlive ⟨0⟩ = true ∧ bereaved.released.ambient.error = bereaved.ambient.error ∧
        (bereaved.released.isAlive ⟨0⟩ = true ∨
          bereaved.released.registry.isTracked (.coroutine ⟨0⟩) = false) := by
  have hover : (Engine.ofDepth _ 40).release (.coroutine ⟨0⟩) bereaved =
      (.ok (), bereaved.released) := by
    unfold World.released
    exact ends_of (by decide +kernel)
  have halive : bereaved.isAlive ⟨0⟩ = true := by decide +kernel
  obtain ⟨herror, hgone⟩ := release_withdraws bereaved_moment hover
  exact ⟨hover, halive, herror, hgone _ halive⟩

end

end CoroutineEngine
