import CoroutineEngine.Proofs.Context

/-!
# The fiber of a coroutine

A coroutine asks for a fiber when it is started. While its body runs the fiber is out of its place, and
nobody else can switch into it; it is put back when the body waits, and its stack is freed once, by the
teardown at the latest. The history of the coroutine notes each of these steps.

Results:
* `fiber_kept`: what becomes of the fiber, at every moment of every run.
-/

namespace CoroutineEngine

variable {L : Language}

/-! ## Definitions -/

/-- Every request on a coroutine is refused because it is executing; a throw is, as soon as its arguments
have made a triple. -/
structure Rebuffs (E : Engine L) (i : CoroutineId) (w : World L) : Prop extends Refuses E i w where
  throw : ∀ kind value traceback p v, normalizeThrow E kind value traceback w = (.ok (.ok p), v) →
    CoroutineEngine.throwPending E i p v = refuse E .alreadyExecuting p.owned v
  throwException : ∀ e p v, pendingOf e w = (.ok p, v) →
    CoroutineEngine.throwPending E i p v = refuse E .alreadyExecuting p.owned v

/-- What is known of the fiber of a coroutine `i` in all runs from a world.

* `asked`: the coroutine asks for a fiber only while it is unused, and gets at most one.
* `entered`: nobody switches into a fiber that is dead or was given up, or whose coroutine is executing or
  finished.
* `faultless`: no switch fails, unless the supply loses its fibers.
* `executing`: a coroutine that is running refuses all requests, and its fiber is out of its place.
* `finished`: the coroutine finishes at most once.
* `freed`: a fiber is given up at most once, and only if it was obtained and is not in its place.
* `balanced`: between the requests of a driver, each fiber that was obtained is in its place or was given
  up.
* `buried`: a coroutine without handles was torn down, and has given up its fiber. Nothing is said where
  somebody has trespassed, on a coroutine of which he had no handle. -/
structure KeepsFiber (W : Watch) (i : CoroutineId) (w : World L) : Prop where
  asked : ∀ v, Moment W w v → (v.coroutine i).history.lateAsks = 0 ∧ (v.coroutine i).history.fibers ≤ 1
  entered : ∀ v, Moment W w v → (v.coroutine i).history.misentries = 0
  faultless : ∀ v, Moment W w v → (v.coroutine i).supply.lossIn = none →
    (v.coroutine i).history.faults = 0
  executing : ∀ v, Moment W w v → (v.coroutine i).running = true →
    (v.coroutine i).fiber = none ∧ ∀ n, Rebuffs (.watched L W n) i v
  finished : ∀ v, Moment W w v → (v.coroutine i).history.finishes ≤ 1
  freed : ∀ v, Moment W w v → (v.coroutine i).history.freed + (v.coroutine i).fiber.toList.length ≤
    (v.coroutine i).history.fibers
  balanced : ∀ v, Reaches W w v →
    (v.coroutine i).history.freed + (v.coroutine i).fiber.toList.length = (v.coroutine i).history.fibers
  buried : ∀ v, Reaches W w v → (v.coroutine i).handles = 0 → (v.coroutine i).history.trespasses = 0 →
    (v.coroutine i).fiber = none ∧ (v.coroutine i).history.freed = (v.coroutine i).history.fibers

/-! ## Helpers -/

variable {T : Terms} {i : CoroutineId} {r : CoroutineRecord L} {w v : World L}

/-- If no switch is in flight, the fiber that was obtained is in its place or was given up. -/
theorem CoroutineRecord.IsCoherent.balanced (h : r.IsCoherent T) (hflight : ¬ r.IsInFlight) :
    r.history.freed + r.fiber.toList.length = r.history.fibers := by
  refine Nat.le_antisymm h.freed ?_
  cases hf : r.fiber with
  | none =>
    have hle : r.history.fibers ≤ r.history.freed := Nat.le_of_not_lt fun hlt => hflight ⟨hf, hlt⟩
    exact Nat.le_trans hle (Nat.le_add_right _ _)
  | some f => exact Nat.le_trans h.fibers_le (Nat.le_add_left 1 _)

/-- An executing coroutine goes on executing over whatever another client does, such as looking at the
arguments of a throw. -/
theorem executing_after {W : Watch} (n : Nat) {α : Type} {x : Procedure L α} {a : α}
    (hw : Lawful (W.terms i) i w) (h : (w.coroutine i).IsExecuting) (hx : Client none x)
    (hv : x (.watched L W n) w = (.ok a, v)) : (v.coroutine i).IsExecuting := by
  have hstart : (standing L (W.terms i) i none).start w :=
    ⟨hw, fun h => (Option.some_ne_none _ h.symm).elim⟩
  have hm := ((faithful_watched W i n).client hx w hstart).holds
  rw [hv] at hm
  exact (Follows.leads hm (standing_has h)).2.executing h

theorem CoroutineRecord.IsExecuting.rebuffs {W : Watch} {n : Nat} (hw : Lawful (W.terms i) i w)
    (h : (w.coroutine i).IsExecuting) : Rebuffs (.watched L W n) i w := by
  have later {α : Type} {x : Procedure L α} {a : α} {v : World L} (hx : Client none x)
      (hv : x (.watched L W n) w = (.ok a, v)) : Refuses (.watched L W n) i v :=
    (executing_after n hw h hx hv).refuses _
  refine { h.refuses _ with throw := fun kind value traceback p v hv => ?_, throwException := ?_ }
  · exact (later (Client.normalizeThrow kind value traceback) hv).throwPending p
  · exact fun e p v hv =>
      (later (x := fun _ => pendingOf e) (.still (pendingOf_still e)) hv).throwPending p

/-! ## The fiber -/

/-- In every run, the fiber of a coroutine is asked for and entered, left and freed as it should be. -/
theorem fiber_kept (W : Watch) (i : CoroutineId) (clock : Nat) :
    KeepsFiber W i (World.fresh clock : World L) := by
  have lawful (v : World L) (hv : Moment W (World.fresh clock) v) : Lawful (W.terms i) i v :=
    (hv.keeps (World.fresh_lawful (W.terms i) i clock)).lawful
  have rest (v : World L) (hv : Reaches W (World.fresh clock) v) :
      (v.coroutine i).IsCoherent (W.terms i) ∧ (v.coroutine i).IsAtRest (W.terms i) := by
    have hstep := hv.keeps (World.fresh_lawful (W.terms i) i clock)
    exact ⟨hstep.lawful.sound.toIsCoherent, hstep.atRest (Nat.not_lt_zero _)⟩
  refine ⟨?_, ?_, ?_, ?_, ?_, ?_, ?_, ?_⟩
  · exact fun v hv => ⟨(lawful v hv).sound.lateAsks, (lawful v hv).sound.fibers_le⟩
  · exact fun v hv => (lawful v hv).sound.misentries
  · exact fun v hv => (lawful v hv).sound.faults
  · intro v hv hr
    have ha := (lawful v hv).sound.running hr
    exact ⟨ha.2, fun n => CoroutineRecord.IsExecuting.rebuffs (lawful v hv) ⟨ha, hr⟩⟩
  · intro v hv
    rw [(lawful v hv).sound.finishes]
    split <;> omega
  · exact fun v hv => (lawful v hv).sound.freed
  · exact fun v hv => (rest v hv).1.balanced (rest v hv).2.2.2.1
  · intro v hv h0 ht
    obtain ⟨hf, hflight⟩ := (rest v hv).2.2.2.2 h0 ht
    have hb := (rest v hv).1.balanced hflight
    rw [hf] at hb
    exact ⟨hf, hb⟩

end CoroutineEngine
