import CoroutineEngine.Proofs.Upheld

/-!
# What no computation undoes

Whatever the engine does and however it ends, no object is lost, no visit to a coroutine is forgotten, and
the books of the registry stay right.

Result:
* `onward_universal`: procedures and engines only add to what there is.
-/

namespace CoroutineEngine

variable {L : Language} {α : Type}

/-! ## Definitions -/

/-- Between two worlds, no object was lost and no visit forgotten, and the books stayed right. -/
structure Onward (w v : World L) : Prop extends Grown w v where
  visits : ∀ i : CoroutineId, w.Has i →
    (w.coroutine i).history.visits ≤ (v.coroutine i).history.visits
  ledger : w.Ledger → v.Ledger

theorem Onward.refl (w : World L) : Onward w w := ⟨.refl w, fun _ _ => Nat.le_refl _, id⟩

theorem Onward.trans {w v u : World L} (h : Onward w v) (h' : Onward v u) : Onward w u :=
  ⟨h.toGrown.trans h'.toGrown, fun i hi =>
    Nat.le_trans (h.visits i hi) (h'.visits i (Nat.lt_of_lt_of_le hi h.count)), h'.ledger ∘ h.ledger⟩

/-- The law that what there is stays. -/
def onward (L : Language) : Law L := .always World.Orderly Onward .refl fun _ _ _ => .trans

/-! ## Helpers -/

theorem CoroutineRecord.Resembles.visits {r r' : CoroutineRecord L} (h : r.Resembles r') :
    r'.history.visits = r.history.visits := by
  rw [h.same]

theorem Undisturbed.onward {w v : World L} (h : Undisturbed w v) (hl : w.Ledger → v.Ledger) :
    Onward w v :=
  ⟨h.toGrown, fun i hi => Nat.le_of_eq (h.old i hi).visits.symm, hl⟩

theorem Quiet.onward {x : Effect L α} (hx : Quiet x) : (onward L).Kept x :=
  Law.always_of fun w hw => ⟨(hx w).orderly hw, (hx w).toUndisturbed.onward (hx w).ledger⟩

theorem untrackObject_onward (c : CoroutineId) :
    (onward L).Kept (untrackObject (.coroutine c) : Effect L Bool) := by
  have h : (onward L).Kept (.modifyGet fun w =>
      (w.registry.isTracked (.coroutine c),
        { w with registry := w.registry.untrack (.coroutine c) }) : Effect L Bool) :=
    Law.always_of fun w hw => ⟨⟨hw.borrowed, hw.hook⟩, .untrack w _, fun _ _ => Nat.le_refl _,
      fun hl => hl.withdraw c⟩
  exact h.bind fun _ => (Still.bind (log_still _ _ _) fun _ => .pure _).quiet.onward

theorem Held.onward {c : CoroutineId} {x : Effect L α} (hx : Held c x) : (onward L).Kept x := by
  refine Law.always_of fun w hw => ?_
  obtain ⟨f, hf, hv⟩ := hx w
  rw [hf]
  refine ⟨⟨hw.borrowed, hw.hook⟩, .modifyCoroutine w c f, fun i hi => ?_,
    (Sustained.modifyCoroutine w c f).ledger⟩
  by_cases hc : c = i
  · subst hc
    rw [(modified_of_has hi f).2]
    exact hv
  · exact Nat.le_of_eq (congrArg (·.history.visits) (modified_other w hc f).2.symm)

theorem onward_reported : (onward L).Reported where
  orderly h := h
  discreet hx _ := hx.onward
  exchange {w} hook h hk :=
    have hu : Undisturbed w { w with ambient := { w.ambient with hook } } :=
      .ambient w _ fun ho => ⟨ho.borrowed, hk⟩
    ⟨hu.orderly h, hu.onward (Sustained.ambient w _).ledger⟩

/-- Whatever is done only adds to what there is. -/
theorem onward_universal : (onward L).Universal where
  quiet hx := hx.onward
  held hx := hx.onward
  withdraw := untrackObject_onward
  report release run := onward_reported.report release run
  cut h := h

end CoroutineEngine
