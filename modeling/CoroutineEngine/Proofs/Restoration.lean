import CoroutineEngine.Proofs.Runs

/-!
# The driver's side of requests

Around every switch, what the driver left of the ambient state is put aside and put back. So a driver finds
its side of it as it left it, whatever it asked for and however its request ended.

Results:
* `driver_restored`: requests give the driver its side back.
-/

namespace CoroutineEngine

variable {L : Language}

/-! ## Definitions -/

/-- The requests of a driver on a coroutine. -/
inductive DriverRequest (c : CoroutineId) : Procedure L Reply → Prop
  | send (v : Value) : DriverRequest c fun E => send E c v
  | throw (kind value traceback : Value) : DriverRequest c fun E => throw E c kind value traceback
  | throwException (e : Exception) : DriverRequest c fun E => throwException E c e
  | close : DriverRequest c fun E => close E c

/-! ## Helpers -/

theorem DriverRequest.client {c : CoroutineId} {x : Procedure L Reply} (hx : DriverRequest c x)
    {k : Option CoroutineId} : Client k x := by
  cases hx with
  | send v => exact .send c v
  | throw kind value traceback => exact .throw c kind value traceback
  | throwException e => exact .throwException c e
  | close => exact .close c

theorem DriverRequest.composed {c : CoroutineId} {x : Procedure L Reply} (hx : DriverRequest c x) :
    Composed (DriverAtom c) x := by
  cases hx with
  | send v => exact Request.send v
  | throw kind value traceback =>
    refine .holding _ (.holding _ (.bind (Client.normalizeThrow _ _ _) fun p => ?_))
    cases p with
    | error e => exact .pure _
    | ok p => exact Request.throwPending p
  | throwException e => exact .bind (.still (pendingOf_still _)) fun p => Request.throwPending p
  | close => exact Request.close

/-! ## Drivers -/

/-- When a request is over, by a result or by a panic, its driver finds its error, its handled exception
and its top frame as it left them. The driver may be a body or a finalizer in the midst of any run. In
the request itself no finalizer panics, and hooks leave alone what is handled and the top frame. -/
theorem driver_restored {clock : Nat} {v : World L}
    (hv : Moment {} (World.fresh clock) v) {c : CoroutineId}
    {x : Procedure L Reply} (hx : DriverRequest c x) {n : Nat}
    (hover : (x (.watched L { strict := true, civil := true, steady := true } n) v).1 ≠ .stop) :
    x (.ofDepth L n) v = x (.watched L { strict := true, civil := true, steady := true } n) v ∧
      (x (.ofDepth L n) v).2.ambient.driver = v.ambient.driver := by
  have hsame := (hx.client (k := none)).watched_eq { strict := true, civil := true, steady := true } n hover
  refine ⟨hsame, ?_⟩
  have ho : v.Orderly := (hv.keeps (World.fresh_lawful (Watch.terms _ c) c clock)).lawful.orderly
  have hE : Courteous True true (.watched L { strict := true, civil := true, steady := true } n) :=
    courteous_watched (fun _ => rfl) rfl (fun _ => rfl) n
  have h := (hE.driver hx.composed v ho).holds
  rw [hsame]
  rcases hr : x (.watched L { strict := true, civil := true, steady := true } n) v with ⟨_ | _ | _, u⟩ <;>
    rw [hr] at h hover
  · exact h.2
  · exact h.2.2 trivial
  · exact absurd rfl hover

section

open Script (Block)

/-- A body that leaves nothing as it was, and dies. -/
def rude : Block :=
  [.perform (.setError (.exception (.builtinClass "MemoryError") [])) none,
    .perform (.setHandled (.exception (.builtinClass "TypeError") [])) none,
    .perform (.setTopFrame .none) none, .panic "enough"]

/-- A driver that has an error, handles an exception and is inside a frame, and meets a rude body. -/
def meetRude (E : Engine Script.language) : Effect Script.language Answered := do
  let _ ← perform E .outer (.setError (.exception (.builtinClass "ValueError") []))
  let _ ← perform E .outer (.setHandled (.exception (.builtinClass "RuntimeError") []))
  let _ ← perform E .outer (.pushFrame (.spec ⟨"driver", none, none, none, []⟩))
  perform E .outer (.makeCoroutine (coroutineOf "rude" rude))

theorem meetRude_client : Client none meetRude :=
  .bind (Client.perform .outer _) fun _ => .bind (Client.perform .outer _) fun _ =>
    .bind (Client.perform .outer _) fun _ => Client.perform .outer _

/-- The world in which it makes a request. -/
def beforeRude : World Script.language :=
  (meetRude (.watched _ {} 40) (World.fresh 1000)).2

theorem beforeRude_moment : Moment {} (World.fresh 1000) beforeRude := by
  unfold beforeRude
  exact .of (x := meetRude) 40 .refl meetRude_client

theorem driver_restored_after_rude :
    (send (.watched _ { strict := true, civil := true, steady := true } 40) ⟨0⟩ .none beforeRude).1 ≠ .stop ∧
      (send (.ofDepth _ 40) ⟨0⟩ .none beforeRude).2.ambient.driver = beforeRude.ambient.driver := by
  have hover : (send (.watched _ { strict := true, civil := true, steady := true } 40) ⟨0⟩ .none beforeRude).1 ≠ .stop := by
    decide +kernel
  exact ⟨hover, (driver_restored beforeRude_moment (.send .none) hover).2⟩

end

end CoroutineEngine
