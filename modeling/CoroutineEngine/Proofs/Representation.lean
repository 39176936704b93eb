import CoroutineEngine.Proofs.Runs

/-!
# The representation of a coroutine over its whole life

The cells of a coroutine are written at different moments of a request. This module says how they hang
together at every moment, and what else holds of them while no request on the coroutine is in progress.

Results:
* `representation_kept`: the representation invariant, over all runs in which no finalizer panics.
* `panicking_creation_leaves_primed`: a creation of a fiber that panics leaves a thrown exception primed.
-/

namespace CoroutineEngine

variable {L : Language}

/-! ## Definitions -/

namespace CoroutineRecord

/-- The coroutine was torn down before it was finished: nobody holds a handle of it. -/
def IsTornDown (r : CoroutineRecord L) : Prop := r.released = true ∧ r.status ≠ .finished

/-- How the cells of a coroutine hang together at every moment. -/
structure IsProper (r : CoroutineRecord L) : Prop where
  unused : r.status = .unused → r.fiber = none ∧ r.history.entries = 0
  held : r.status = .unused → ¬ r.IsTornDown → r.inputs.parameters = r.history.parameters
  frame : ¬ r.IsTornDown → (r.frame ≠ none ↔ r.status = .running)
  finished : r.status = .finished → r.frame = none ∧ r.inputs.parameters = []
  pending : ¬ (r.status = .unused ∧ r.IsDoomed) → r.pending = none
  entries : r.history.entries ≤ 1

/-- What holds besides while no request on the coroutine is in progress. -/
structure IsQuiescent (r : CoroutineRecord L) : Prop where
  running : r.running = false
  awaiting : r.status = .finished → r.awaiting = none

end CoroutineRecord

/-- What is kept of the representation of a coroutine `i` in runs from a world.

* `proper`: at every moment, of every body and every finalizer, the cells hang together.
* `forward`: the status only moves forward, and the body of a started coroutine is not entered again.
* `quiescent`: between the requests of a driver no request is in progress.
* `others`: no request is in progress either after what another client does, a body, a finalizer or a
  hook, if none was before; this may be a request on the coroutine.
* `thrown`: a throw that starts the coroutine does not enter its body. -/
structure KeepsRepresentation (W : Watch) (i : CoroutineId) (w : World L) : Prop where
  proper : ∀ v, Moment W w v → (v.coroutine i).IsProper
  forward : ∀ v u, Reaches W w v → Moment W v u → v.Has i →
    (v.coroutine i).Precedes (u.coroutine i)
  quiescent : ∀ v, Reaches W w v → (v.coroutine i).IsQuiescent
  others : ∀ v, Moment W w v → (v.coroutine i).IsQuiescent →
    ∀ {α : Type} {k : Option CoroutineId} {x : Procedure L α} (n : Nat), k ≠ some i → Client k x →
      (x (.watched L W n) v).1 ≠ .stop → ((x (.watched L W n) v).2.coroutine i).IsQuiescent
  thrown : ∀ v, Moment W w v → v.Has i → (v.coroutine i).status = .unused →
    (v.coroutine i).IsGranted → ∀ (n : Nat) (p : PendingException),
      let u := (throwPending (.watched L W n) i p v).2
      (u.coroutine i).status ≠ .unused ∧ (u.coroutine i).history.entries = 0

/-! ## Helpers -/

variable {T : Terms} {r : CoroutineRecord L}

theorem CoroutineRecord.IsSound.proper (h : r.IsSound T) : r.IsProper where
  unused hs := ⟨(h.unused hs).fiber, (h.unused hs).entries⟩
  held hs ht := by
    refine congrArg Inputs.parameters (h.held ?_)
    cases hr : r.released with
    | false => rfl
    | true => exact absurd ⟨hr, by rw [hs]; decide⟩ ht
  frame ht := by
    cases hs : r.status with
    | unused => simp [(h.unused hs).frame]
    | running =>
      refine iff_of_true (h.frame hs ?_) rfl
      cases hr : r.released with
      | false => rfl
      | true => exact absurd ⟨hr, by rw [hs]; decide⟩ ht
    | finished => simp [(h.finished hs).1]
  finished := h.finished
  pending hd := h.pending.resolve_right hd
  entries := h.entries

theorem CoroutineRecord.IsAtRest.quiescent (hT : T.strict) (h : r.IsAtRest T) : r.IsQuiescent :=
  ⟨h.1, h.2.1 hT⟩

theorem CoroutineRecord.LeadsTo.quiescent {r' : CoroutineRecord L} (hT : T.strict)
    (h : r.LeadsTo T r') (hr : r.IsQuiescent) : r'.IsQuiescent :=
  ⟨h.running.trans hr.running, h.settled hT hr.awaiting⟩

/-- Wherever a request ends, its coroutine is lawful and has only moved forward. -/
theorem Meets.followed_by {α : Type} {x : Effect L α} {i : CoroutineId} {w : World L}
    (h : Meets x w (Followed L α T i r)) :
    Lawful T i (x w).2 ∧ r.Precedes ((x w).2.coroutine i) := by
  have hlead {v : World L} (hv : Leads T i r v) : Lawful T i v ∧ r.Precedes (v.coroutine i) := by
    obtain ⟨r', hv, hs, hl⟩ := hv
    have hr' := hv.record
    subst hr'
    exact ⟨⟨hv.orderly, hs⟩, hl.toPrecedes⟩
  have hx := h.holds
  rcases hw : x w with ⟨_ | _ | _, v⟩ <;> rw [hw] at hx
  · exact hlead hx
  · exact hlead hx
  · exact hx

/-! ## The representation -/

/-- The representation of a coroutine is kept in all runs in which no finalizer panics. -/
theorem representation_kept (W : Watch) (hW : W.strict = true) (i : CoroutineId) (clock : Nat) :
    KeepsRepresentation W i (World.fresh clock : World L) where
  proper v hv := (hv.keeps (World.fresh_lawful _ i clock)).lawful.sound.proper
  forward v u hv hu hi :=
    (hu.keeps (hv.keeps (World.fresh_lawful _ i clock)).lawful).precedes hi
  quiescent v hv := by
    have hstep := hv.keeps (World.fresh_lawful (W.terms i) i clock)
    exact (hstep.atRest (Nat.not_lt_zero _)).quiescent (T := W.terms i) hW
  others v hv hq α k x n hk hx hstop := by
    have hlaw := (hv.keeps (World.fresh_lawful (W.terms i) i clock)).lawful
    have hm := ((faithful_watched W i n).client hx v ⟨hlaw, fun h => absurd h hk⟩).holds
    have hrest {u : World L} (hu : Follows (W.terms i) i k v u) :
        (u.coroutine i).IsQuiescent := by
      by_cases hi : v.Has i
      · exact (hu.leads hi).2.quiescent (T := W.terms i) hW hq
      · exact (hu.atRest hi).quiescent (T := W.terms i) hW
    rcases hr : x (.watched L W n) v with ⟨_ | _ | _, u⟩ <;> rw [hr] at hm hstop
    · exact hrest hm
    · exact hrest hm
    · exact absurd rfl hstop
  thrown v hv hi hu hg n p := by
    have hlaw := (hv.keeps (World.fresh_lawful (W.terms i) i clock)).lawful
    obtain ⟨-, hp⟩ := (throwFresh_meets (faithful_watched W i n) ⟨hi, hlaw.orderly, rfl⟩ hlaw.sound
      hu hg p).followed_by
    have hbegun : (v.coroutine i).begun.status ≠ .unused := (show Status.running ≠ .unused by decide)
    exact ⟨hp.not_unused hbegun, (hp.entries hbegun).trans (hlaw.sound.unused hu).entries⟩

theorem representation_kept_fresh :
    ({ strict := true } : Watch).strict = true ∧
      KeepsRepresentation { strict := true } ⟨0⟩ (World.fresh 10 : World Script.language) :=
  ⟨rfl, representation_kept _ rfl _ _⟩

/-! ## The stack that no machine has -/

/-- A throw that asks for more stack than there are addresses panics, and its exception stays primed. -/
theorem throwPending_doomed {E : Engine L} {i : CoroutineId} {r : CoroutineRecord L} {v : World L}
    (hv : At i r v) (hu : r.status = .unused) (hr : r.running = false) (hn : r.pending = none)
    (hd : r.IsDoomed) (p : PendingException) :
    ∃ m u, throwPending E i p v = (.panic m, u) ∧
      At i (CoroutineRecord.noteVisit { r with pending := some p }) u := by
  have hm : Meets (throwPending E i p) v
      ⟨fun _ _ => False, At i (CoroutineRecord.noteVisit { r with pending := some p }), fun _ => False⟩ := by
    refine throw_primed hv hn hr (by rw [hu]; decide) p fun v' hv' => .bind ?_
    exact send_unused hv' hu hr fun u h => launch_doomed h hu hd _ fun _ h => h
  have hx := hm.holds
  rcases hw : throwPending E i p v with ⟨_ | m | _, u⟩ <;> rw [hw] at hx
  · exact hx.elim
  · exact ⟨m, u, rfl, hx⟩
  · exact hx.elim

/-- What is excepted does happen: an exception that was thrown stays primed between the requests. -/
theorem panicking_creation_leaves_primed {W : Watch} {clock : Nat} {v : World L} {i : CoroutineId}
    (hv : Reaches W (World.fresh clock) v) (hi : v.Has i) (hu : (v.coroutine i).status = .unused)
    (hd : (v.coroutine i).IsDoomed) (hn : (v.coroutine i).pending = none) (p : PendingException) :
    ∃ u : World L, Reaches W (World.fresh clock) u ∧ (u.coroutine i).status = .unused ∧
      (u.coroutine i).pending = some p := by
  have hlaw := (hv.keeps (World.fresh_lawful (W.terms i) i clock)).lawful
  have hr : (v.coroutine i).running = false := by
    cases hr : (v.coroutine i).running with
    | false => rfl
    | true => exact absurd (hu.symm.trans (hlaw.sound.running hr).1) (by decide)
  obtain ⟨m, u, hthrown, hx⟩ :=
    throwPending_doomed (E := .watched L W 0) ⟨hi, hlaw.orderly, rfl⟩ hu hr hn hd p
  refine ⟨_, .step 0 hv (Client.throwPending i p) (by rw [hthrown]; nofun), ?_⟩
  rw [hthrown]
  exact ⟨hx.record ▸ hu, congrArg CoroutineRecord.pending hx.record⟩

/-- A coroutine that asks for as many bytes of stack as there are addresses. -/
def boundless : Blueprint where
  code := ⟨0, ⟨0, "boundless"⟩, ⟨0, "boundless"⟩, 1, true⟩
  name := none
  qualname := none
  parameters := []
  closure := []
  stackSize := some Stack.addressLimit
  reportChildren := none
  failures := 0
  lossIn := none

/-- A driver that throws into it finds the exception primed between its requests. -/
theorem boundless_left_primed :
    ∃ v : World Script.language, Reaches { strict := true, civil := true } (World.fresh 0) v ∧
      (v.coroutine ⟨0⟩).status = .unused ∧ (v.coroutine ⟨0⟩).pending ≠ none := by
  have hbuilt : Reaches { strict := true, civil := true } (World.fresh 0 : World Script.language)
      (makeCoroutine boundless (World.fresh 0)).2 :=
    .step (x := fun _ => makeCoroutine boundless) 0 .refl (.quiet (makeCoroutine_quiet _)) nofun
  obtain ⟨v, hv, hs, hp⟩ := panicking_creation_leaves_primed hbuilt (i := ⟨0⟩) (Nat.lt_succ_self 0)
    rfl ⟨rfl, by decide⟩ rfl (.ofClass .valueError)
  exact ⟨v, hv, hs, by simp [hp]⟩

end CoroutineEngine
