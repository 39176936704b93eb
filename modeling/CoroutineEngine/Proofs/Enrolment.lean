import CoroutineEngine.Proofs.Onward
import CoroutineEngine.Proofs.Runs

/-!
# What is enrolled with the registry

Coroutines and wrappers enroll when they are built and withdraw when they are torn down. A teardown is a
cascade: what it releases can finalize, revive, build and tear down others. Whenever control is back with
the driver and no panic has come out of a teardown, the registry holds exactly what is alive, and its
statistics say so.

Results:
* `Reaches.booked`: what a run keeps of the registry, for every coroutine that was ever built.
* `registry_exact`: the objects that are enrolled, their number and the statistics.
-/

namespace CoroutineEngine

variable {L : Language} {W : Watch} {w v : World L}

/-! ## Definitions -/

namespace World

/-- The coroutines that a weak reference can reach. -/
def liveCoroutines (w : World L) : List CoroutineId :=
  ((List.range w.coroutines.size).map CoroutineId.mk).filter fun c => w.isAlive c

/-- The wrappers that have a handle. -/
def liveWrappers (w : World L) : List WrapperId :=
  ((List.range w.wrappers.size).map WrapperId.mk).filter fun x => (w.wrapper x).handles != 0

/-- The objects of the engine that were built and not torn down. -/
def live (w : World L) : List TrackedId :=
  w.liveCoroutines.map .coroutine ++ w.liveWrappers.map .wrapper

/-- What a client has enrolled on its own account. -/
def visitors (w : World L) : List TrackedId := w.registry.objects.filter TrackedId.isForeign

/-- The registry is right.

* `coroutine`, `wrapper`: a coroutine is enrolled just if it was built and not torn down, and so is a
  wrapper.
* `weak`: a weak reference to a coroutine is alive just if the coroutine is enrolled.
* `objects`: what is alive is enrolled once, and nothing else is that the client has not enrolled itself.
* `visitors`: there is nothing of the latter kind if no client ever enrolled anything.
* `tracked`, `total`, `balance`: what the statistics say. -/
structure Enrolls (w : World L) : Prop where
  coroutine : ∀ c, w.registry.isTracked (.coroutine c) = true ↔
    w.Has c ∧ (w.coroutine c).history.teardowns = 0
  wrapper : ∀ x : WrapperId, w.registry.isTracked (.wrapper x) = true ↔
    x.index < w.wrappers.size ∧ (w.wrapper x).handles ≠ 0
  weak : ∀ c, w.isAlive c = w.registry.isTracked (.coroutine c)
  objects : w.registry.objects.Perm (w.live ++ w.visitors)
  count : w.registry.count = w.live.length + w.visitors.length
  visitors : w.registry.guests = 0 → w.visitors = []
  tracked : w.registry.tracked = w.registry.count
  total : w.registry.totalTracked = w.coroutines.size + w.wrappers.size + w.registry.guests
  balance : w.registry.tracked + w.registry.totalUntracked = w.registry.totalTracked

/-- The books of the registry are right, and every coroutine is either alive, or withdrawn, or a panic has
come out of its teardown. -/
structure Booked (w : World L) : Prop where
  ledger : w.Ledger
  tended : ∀ i, Tended i w
  settled : ∀ i, Settled i w ∨ Collapsed i w

end World

/-! ## Runs -/

theorem World.fresh_booked (clock : Nat) : (World.fresh clock : World L).Booked where
  ledger :=
    { orderly := .empty
      total := rfl
      built := nofun
      wrappers := fun x => ⟨nofun, fun h => by
        rw [World.wrapper, Table.get_of_size_le _ (Nat.zero_le _)] at h
        exact absurd h (Nat.lt_irrefl 0)⟩
      foreign := nofun }
  tended i := World.fresh_tended i clock
  settled _ := .inl fun hi => absurd hi (Nat.not_lt_zero _)

/-- One step of a driver, whether it gives a result or panics. -/
theorem World.Booked.step (hw : w.Booked) {α : Type} {x : Procedure L α} (n : Nat)
    (hx : Client none x) (hover : (x (.watched L W n) w).1 ≠ .stop) :
    (x (.watched L W n) w).2.Booked := by
  have hkept (i : CoroutineId) := ((tending_watched W i n).client hx) w (hw.tended i)
  refine ⟨?_, fun i => (tends_of_kept ((tending_watched W i n).client hx) (hw.tended i)).tended,
    fun i => ?_⟩
  · have honward := (onward_universal.client (onward_universal.watched W n) hx w (hw.tended ⟨0⟩).orderly).holds
    rcases hr : x (.watched L W n) w with ⟨_ | _ | _, v⟩ <;> rw [hr] at honward <;>
      exact honward.2.ledger hw.ledger
  · have hi := (hkept i).holds
    rcases hr : x (.watched L W n) w with ⟨_ | _ | _, v⟩ <;> rw [hr] at hi hover
    · exact hi.2.departs hi.1 (hw.settled i)
    · exact hi.2 (hw.settled i)
    · exact absurd rfl hover

/-- What holds in the beginning of the registry, holds whenever control is with the driver. -/
theorem Reaches.booked (hw : w.Booked) (h : Reaches W w v) : v.Booked := by
  induction h with
  | refl => exact hw
  | step n _ hx hover ih => exact ih.step n hx hover

/-! ## What is alive -/

theorem World.mem_liveCoroutines {c : CoroutineId} :
    c ∈ w.liveCoroutines ↔ 0 < (w.coroutine c).handles := by
  have halive : w.isAlive c = true ↔ 0 < (w.coroutine c).handles := by
    simp [World.isAlive, Nat.pos_iff_ne_zero]
  refine List.mem_filter.trans ⟨fun h => halive.mp h.2, fun h => ⟨?_, halive.mpr h⟩⟩
  exact List.mem_map.mpr ⟨c.index, List.mem_range.mpr (World.has_of_handles h), rfl⟩

theorem World.mem_liveWrappers {x : WrapperId} :
    x ∈ w.liveWrappers ↔ 0 < (w.wrapper x).handles := by
  have halive : ((w.wrapper x).handles != 0) = true ↔ 0 < (w.wrapper x).handles := by
    simp [Nat.pos_iff_ne_zero]
  refine List.mem_filter.trans ⟨fun h => halive.mp h.2, fun h => ⟨?_, halive.mpr h⟩⟩
  refine List.mem_map.mpr ⟨x.index, List.mem_range.mpr (Nat.lt_of_not_le fun hx => ?_), rfl⟩
  rw [World.wrapper, Table.get_of_size_le _ hx] at h
  exact Nat.lt_irrefl 0 h

theorem World.nodup_live (w : World L) : w.live.Nodup := by
  have mapped {α β : Type} {f : α → β} (hf : ∀ a b, f a = f b → a = b) {l : List α}
      (hl : l.Nodup) : (l.map f).Nodup := List.Pairwise.map f (fun a b hne he => hne (hf a b he)) hl
  refine List.nodup_append.mpr ⟨mapped (fun _ _ => TrackedId.coroutine.inj) ?_,
    mapped (fun _ _ => TrackedId.wrapper.inj) ?_, ?_⟩
  · exact (mapped (fun _ _ => CoroutineId.mk.inj) List.nodup_range).filter _
  · exact (mapped (fun _ _ => WrapperId.mk.inj) List.nodup_range).filter _
  · rintro a ha b hb rfl
    obtain ⟨c, -, rfl⟩ := List.mem_map.mp ha
    obtain ⟨x, -, he⟩ := List.mem_map.mp hb
    cases he

/-- Whether a panic has come out of a teardown can be told from the coroutines that were built. -/
theorem World.calm_of_built
    (h : ∀ n < w.coroutines.size, (w.coroutine ⟨n⟩).history.collapses = 0) (c : CoroutineId) :
    (w.coroutine c).history.collapses = 0 := by
  rcases Nat.lt_or_ge c.index w.coroutines.size with hc | hc
  · exact h c.index hc
  · rw [World.coroutine_eq_default hc]
    rfl

/-- Where no panic has come out of a teardown, a coroutine is enrolled just if it has a handle. -/
theorem World.Booked.enrolled (hw : w.Booked) (c : CoroutineId)
    (hcalm : (w.coroutine c).history.collapses = 0) :
    .coroutine c ∈ w.registry.objects ↔ 0 < (w.coroutine c).handles := by
  refine ⟨fun hm => ?_, (hw.tended c).enrolled⟩
  rcases hw.settled c with hs | hc
  · exact (hs (hw.ledger.built c hm)).resolve_right fun hgone => hgone hm
  · exact absurd hc.2 (Nat.not_lt.mpr (Nat.le_of_eq hcalm))

/-- What is enrolled is what is alive, and what the client has enrolled. -/
theorem World.Booked.objects (hw : w.Booked) (hcalm : ∀ c, (w.coroutine c).history.collapses = 0) :
    w.registry.objects.Perm (w.live ++ w.visitors) := by
  have hforeign {id : TrackedId} (h : id ∈ w.live) : id.isForeign = false := by
    rcases List.mem_append.mp h with h | h
    all_goals
      obtain ⟨_, -, rfl⟩ := List.mem_map.mp h
      rfl
  refine (List.perm_ext_iff_of_nodup hw.ledger.orderly.nodup ?_).mpr fun id => ?_
  · refine List.nodup_append.mpr ⟨w.nodup_live, hw.ledger.orderly.nodup.filter _, ?_⟩
    rintro a ha b hb rfl
    exact Bool.false_ne_true ((hforeign ha).symm.trans (List.mem_filter.mp hb).2)
  · rw [List.mem_append, World.visitors, List.mem_filter, World.live, List.mem_append]
    cases id with
    | coroutine c =>
      simp [hw.enrolled c (hcalm c), World.mem_liveCoroutines, TrackedId.isForeign]
    | wrapper x => simp [hw.ledger.wrappers x, World.mem_liveWrappers, TrackedId.isForeign]
    | foreign n => simp [TrackedId.isForeign]

/-- Whenever control is with the driver and no panic has come out of a teardown, exactly what was built and
not torn down is enrolled with the registry, besides what the client has enrolled itself; weak references
and statistics agree with it. -/
theorem registry_exact {clock : Nat} (hv : Reaches W (World.fresh clock) v)
    (hcalm : ∀ c, (v.coroutine c).history.collapses = 0) : v.Enrolls := by
  have hb := hv.booked (World.fresh_booked clock)
  have hzero (c : CoroutineId) : v.isAlive c = true ↔ 0 < (v.coroutine c).handles := by
    simp [World.isAlive, Nat.pos_iff_ne_zero]
  have htracked (c : CoroutineId) : v.registry.isTracked (.coroutine c) = true ↔
      0 < (v.coroutine c).handles :=
    Registry.isTracked_iff.trans (hb.enrolled c (hcalm c))
  have hobjects := hb.objects hcalm
  refine ⟨fun c => (htracked c).trans ?_, fun x => ?_, fun c => ?_, hobjects, ?_, fun hnone => ?_,
    hb.ledger.orderly.tracked, hb.ledger.total, hb.ledger.orderly.balanced⟩
  · have hteardowns (hc : v.Has c) : (v.coroutine c).history.teardowns =
        if (v.coroutine c).handles = 0 then 1 else 0 := ((hb.tended c).lawful hc).teardowns
    refine ⟨fun hp => ⟨World.has_of_handles hp, ?_⟩, fun ⟨hc, ht⟩ => Nat.pos_of_ne_zero fun hz => ?_⟩
    · rw [hteardowns (World.has_of_handles hp), if_neg (Nat.ne_of_gt hp)]
    · rw [hteardowns hc, if_pos hz] at ht
      exact absurd ht Nat.one_ne_zero
  · refine (Registry.isTracked_iff.trans (hb.ledger.wrappers x)).trans ⟨fun hp => ⟨?_, ?_⟩, fun h =>
      Nat.pos_of_ne_zero h.2⟩
    · refine Nat.lt_of_not_le fun hx => ?_
      rw [World.wrapper, Table.get_of_size_le _ hx] at hp
      exact Nat.lt_irrefl 0 hp
    · exact Nat.ne_of_gt hp
  · exact Bool.eq_iff_iff.mpr ((hzero c).trans (htracked c).symm)
  · rw [Registry.count, hobjects.length_eq, List.length_append]
  · refine List.filter_eq_nil_iff.mpr fun id hm hf => ?_
    cases id with
    | coroutine c => exact Bool.false_ne_true hf
    | wrapper x => exact Bool.false_ne_true hf
    | foreign n => exact absurd (hb.ledger.foreign n hm) (Nat.not_lt.mpr (Nat.le_of_eq hnone))

section

open Script (Block)

/-- A body that builds another coroutine when it is closed, and leaves a wrapper of it behind. -/
def testator : Block :=
  [.attempt [.yield .none none]
    [.mk none none false
      [.perform (.makeCoroutine (coroutineOf "heir" [])) (some "heir"),
        .perform (.wrap (.localVar "heir")) (some "claim"),
        .perform (.setSlot "heir" (.localVar "claim")) none]] []]

/-- Starts the body and gives its coroutine up. -/
def bequeath (E : Engine Script.language) : Effect Script.language Unit := do
  launch "testator" testator E
  let _ ← perform E .outer (.dropSlot "testator")

theorem bequeath_client : Client none bequeath :=
  .bind (launch_client _ _) fun _ => .bind (Client.perform .outer _) fun _ => .pure ()

/-- The world in which the coroutine is gone, and the one that it has built is not. -/
def bequest : World Script.language := (bequeath (.watched _ {} 40) (World.fresh 1000)).2

/-- A coroutine that is built while another one is torn down, and its wrapper, are what is enrolled. -/
theorem registry_exact_bequest :
    Reaches {} (World.fresh 1000) bequest ∧ (∀ c, (bequest.coroutine c).history.collapses = 0) ∧
      bequest.live = [.coroutine ⟨1⟩, .wrapper ⟨0⟩] ∧ bequest.registry.count = 2 ∧
      bequest.registry.totalTracked = 3 ∧ bequest.Enrolls := by
  have hreached : Reaches {} (World.fresh 1000) bequest := by
    unfold bequest
    exact .step (x := bequeath) 40 .refl bequeath_client (by decide +kernel)
  have hcalm := World.calm_of_built (w := bequest) (by decide +kernel)
  exact ⟨hreached, hcalm, by decide +kernel, by decide +kernel, by decide +kernel,
    registry_exact hreached hcalm⟩

end

end CoroutineEngine
