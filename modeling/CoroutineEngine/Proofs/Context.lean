import CoroutineEngine.Proofs.Runs

/-!
# Losing the execution context

A request can resume a coroutine if its fiber and its frame are in their places. While a body is being
left, the coroutine is no longer running, but its fiber is not back in its place: a finalizer that runs
then, because an error that the body left is released, can make a request that is answered that the
context is lost. Unless fibers are lost, nothing else loses it.

Results:
* `context_kept`: what requests find, at every moment of every run, and which of them lose the context.
* `host_loses_context`: a run in which a request on a body that is being left loses it.
-/

namespace CoroutineEngine

variable {L : Language}

/-! ## Definitions -/

namespace CoroutineRecord

/-- The body is suspended, and can be resumed: the fiber that it waits in and its frame are in their
places. -/
def IsInPlace (r : CoroutineRecord L) : Prop :=
  r.status = .running ∧ r.running = false ∧ r.frame ≠ none ∧
    ∃ f, r.fiber = some f ∧ f.IsWaiting ∧ f.lossIn = none

/-- What a request finds that is not answered that the context is lost. -/
def IsAnswerable (r : CoroutineRecord L) : Prop :=
  r.status = .unused ∨ r.status = .finished ∨ r.IsExecuting ∨ r.IsInPlace

end CoroutineRecord

/-- Every request on a coroutine is refused because it is executing. -/
structure Refuses (E : Engine L) (i : CoroutineId) (w : World L) : Prop where
  send : ∀ v, send E i v w = refuse E .alreadyExecuting [v] w
  throwPending : ∀ p, throwPending E i p w = refuse E .alreadyExecuting p.owned w
  close : close E i w = refuse E .alreadyExecuting [] w

/-- What is known of the execution context of a coroutine `i` at every moment of the runs from a world,
if its fibers are not lost and it is not torn down.

* `found`: what a request finds.
* `lost`: the context is lost to exactly those requests that are made while the body is being left.
* `tidy`: in runs in which the body leaves no error in the slot, it is never found being left, and its
  context is never lost.
* `executing`: a coroutine that is executing refuses every request. -/
structure KeepsContext (W : Watch) (i : CoroutineId) (w : World L) : Prop where
  found : ∀ v, Moment W w v → (v.coroutine i).supply.lossIn = none →
    (v.coroutine i).released = false →
    (v.coroutine i).IsAnswerable ∨ (v.coroutine i).isBeingLeft = true
  lost : ∀ v, Moment W w v → (v.coroutine i).supply.lossIn = none →
    (v.coroutine i).history.losses = (v.coroutine i).history.intrusions
  tidy : W.tidy = some i → ∀ v, Moment W w v → (v.coroutine i).supply.lossIn = none →
    (v.coroutine i).history.losses = 0 ∧
      ((v.coroutine i).released = false → (v.coroutine i).IsAnswerable)
  executing : ∀ v, Moment W w v → (v.coroutine i).IsExecuting →
    ∀ n, Refuses (.watched L W n) i v

/-! ## Helpers -/

variable {T : Terms} {i : CoroutineId} {r : CoroutineRecord L} {w : World L}

theorem CoroutineRecord.IsSound.found (h : r.IsSound T) (hl : r.supply.lossIn = none)
    (hr : r.released = false) : r.IsAnswerable ∨ r.IsAway ∧ r.running = false := by
  cases hs : r.status with
  | unused => exact .inl (.inl hs)
  | finished => exact .inl (.inr (.inl hs))
  | running =>
    cases hrun : r.running with
    | true => exact .inl (.inr (.inr (.inl ⟨h.running hrun, hrun⟩)))
    | false =>
      cases hf : r.fiber with
      | none => exact .inr ⟨⟨hs, hf⟩, rfl⟩
      | some f =>
        obtain ⟨hwait, hloss⟩ := h.fiber f hf hs
        exact .inl (.inr (.inr (.inr ⟨hs, hrun, h.frame hs hr, f, hf, hwait, hloss hl⟩)))

theorem isBeingLeft_of_away (h : r.IsAway) (hr : r.running = false) : r.isBeingLeft = true := by
  simp [CoroutineRecord.isBeingLeft, CoroutineRecord.isSuspended, h.1, h.2, hr]

/-- An executing coroutine refuses to be sent to, thrown into or closed. -/
theorem CoroutineRecord.IsExecuting.refuses (h : (w.coroutine i).IsExecuting) (E : Engine L) :
    Refuses E i w := by
  obtain ⟨⟨hs, -⟩, hr⟩ := h
  have hthrow (p : PendingException) :
      CoroutineEngine.throwPending E i p w = refuse E .alreadyExecuting p.owned w := by
    simp [CoroutineEngine.throwPending, recordOf, Effect.bind_apply, hr]
  refine ⟨fun v => ?_, hthrow, ?_⟩
  · simp [CoroutineEngine.send, recordOf, Effect.bind_apply, hs, hr]
  · have hrun : ¬ (w.coroutine i).status ≠ .running := fun h => h hs
    simp only [CoroutineEngine.close, recordOf, Effect.bind_apply, Effect.gets_apply, if_neg hrun,
      hthrow]
    rfl

/-! ## The execution context -/

/-- In every run, the context of a coroutine whose fibers are not lost is lost only to requests that are
made while its body is being left. -/
theorem context_kept (W : Watch) (i : CoroutineId) (clock : Nat) :
    KeepsContext W i (World.fresh clock : World L) where
  found v hv hl hr := by
    have hs := (hv.keeps (World.fresh_lawful (W.terms i) i clock)).lawful.sound
    exact (hs.found hl hr).imp_right fun h => isBeingLeft_of_away h.1 h.2
  lost v hv hl := by
    have hs := (hv.keeps (World.fresh_lawful (W.terms i) i clock)).lawful.sound
    exact (hs.losses hl).1
  tidy hW v hv hl := by
    have hs := (hv.keeps (World.fresh_lawful (W.terms i) i clock)).lawful.sound
    refine ⟨(hs.losses hl).1.trans ((hs.losses hl).2 hW), fun hr => ?_⟩
    refine (hs.found hl hr).resolve_right fun h => ?_
    -- in a tidy run nothing happens between the two moments at which a fiber is put back
    refine (hs.kept hW hl h.1).elim ?_ ?_
    · exact fun hrun => absurd (h.2.symm.trans hrun) Bool.false_ne_true
    · exact fun hrel => absurd (hr.symm.trans hrel) Bool.false_ne_true
  executing _ _ h _ := h.refuses _

/-! ## A guest that comes while its host is being left -/

section

open Script (Block)

/-- Waits; when it is closed, it sends to its host. -/
def guest : Block :=
  [.attempt [.yield .none none]
    [.mk none none false [.perform (.send (.slot "host") .none) none]] []]

/-- Leaves an error in the slot that owns the last handle of the guest, and waits. -/
def host : Block :=
  [.perform (.setError (.exception (.builtinClass "ValueError") [.slot "guest"])) none,
    .perform (.dropSlot "guest") none, .yield .none none]

/-- Starts the guest, and then its host. -/
def visit (E : Engine Script.language) : Effect Script.language Unit := do
  launch "guest" guest E
  launch "host" host E

/-- While the host is being left, its error is released, and the guest with it: the guest's request on
the host is answered that the context is lost, although no fiber is. -/
theorem host_loses_context :
    ∃ v : World Script.language, Moment { strict := true, civil := true } (World.fresh 1000) v ∧
      (v.coroutine ⟨1⟩).supply.lossIn = none ∧ (v.coroutine ⟨1⟩).released = false ∧
      (v.coroutine ⟨1⟩).history.losses = 1 := by
  refine ⟨_, .of (x := visit) 40 .refl ?_, ?_⟩
  · exact .bind (launch_client _ _) fun _ => launch_client _ _
  · decide +kernel

end

end CoroutineEngine
