import CoroutineEngine.Proofs.Context

/-!
# The frame stack

Around each switch the frame of the coroutine is linked to the driver's frame and put on top, and on the
way out it is unlinked and the driver's frame is put back. A finalizer that panics on the way out, because
an error that the body left is released, cuts this short.

Results:
* `host_stays_linked`: a run in which the frame of a suspended coroutine is left on the stack.
-/

namespace CoroutineEngine

variable {L : Language}

/-! ## A finalizer that panics while its host is being left -/

section

open Script (Block)

/-- Waits; when it is closed, it dies. -/
def doomed : Block :=
  [.attempt [.yield .none none] [.mk none none false [.panic "body died"]] []]

/-- Starts the guest, and then its host. -/
def visitDoomed (E : Engine Script.language) : Effect Script.language Unit := do
  launch "guest" doomed E
  launch "host" host E

/-- While the host is being left, its error is released, and the guest with it, which panics: no request
on the host is in progress any more, but its frame is still on top of the stack. -/
theorem host_stays_linked :
    ∃ v : World Script.language, Reaches {} (World.fresh 1000) v ∧
      (v.coroutine ⟨1⟩).isSuspended = true ∧ (v.coroutine ⟨1⟩).released = false ∧
      (v.coroutine ⟨1⟩).frame ≠ none ∧
      v.callers? v.ambient.top = some (v.coroutine ⟨1⟩).frame.toList := by
  refine ⟨_, .step (x := visitDoomed) 40 .refl ?_ ?_, ?_⟩
  · exact .bind (launch_client _ _) fun _ => launch_client _ _
  · decide +kernel
  · decide +kernel

end

end CoroutineEngine
