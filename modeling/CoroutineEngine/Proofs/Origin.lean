import CoroutineEngine.Proofs.Personal

/-!
# What lasts of a coroutine

A coroutine is built with its code, with its inputs, and either to report its children or not to. Its record and its
history keep that for good, whatever is done with the coroutine: also once the inputs are given up, and once nobody
holds the coroutine any more. A thrown exception, in contrast, stays in its slot no longer than the throw takes, unless
that panics.

Results:
* `enduring_watched`: what a coroutine was built with endures on engines of any depth.
* `unpriming_watched`: what does not panic leaves no exception primed.
-/

namespace CoroutineEngine

variable {L : Language} {α : Type}

/-! ## Definitions -/

/-- What a coroutine was built with. -/
structure Origin where
  code : Code
  reportChildren : Bool
  parameters : List Value
  closure : List CellId

/-- What the coroutine was built with, as its record and its history tell. -/
def CoroutineRecord.origin (r : CoroutineRecord L) : Origin :=
  ⟨r.code, r.reportChildren, r.history.parameters, r.history.closure⟩

/-- What a coroutine was built with is the same in two worlds. -/
def Endures (i : CoroutineId) (w v : World L) : Prop :=
  w.Has i → v.Has i ∧ (v.coroutine i).origin = (w.coroutine i).origin

theorem Endures.refl (i : CoroutineId) (w : World L) : Endures i w w := fun hi => ⟨hi, rfl⟩

theorem Endures.trans {i : CoroutineId} {w v u : World L} (h : Endures i w v) (h' : Endures i v u) : Endures i w u :=
  fun hi => ⟨(h' (h hi).1).1, (h' (h hi).1).2.trans (h hi).2⟩

/-- The law of what a coroutine was built with. -/
def enduring (L : Language) (i : CoroutineId) : Law L :=
  .always World.Orderly (Endures i) (.refl i) fun _ _ _ => .trans

/-- No exception has become primed between two worlds. -/
def StaysUnprimed (i : CoroutineId) (w v : World L) : Prop :=
  (w.coroutine i).pending = none → (v.coroutine i).pending = none

/-- The law of the slot of a thrown exception. It says nothing of computations that panic or are cut. -/
def unpriming (L : Language) (i : CoroutineId) : Law L where
  start := World.Orderly
  step w v := v.Orderly ∧ StaysUnprimed i w v
  panic _ v := v.Orderly
  cut _ _ := True
  refl h := ⟨h, id⟩
  next h := h.1
  trans h h' := ⟨h'.1, h'.2 ∘ h.2⟩
  step_panic _ h' := h'
  step_cut _ _ := trivial
  panic_next h := h
  panic_step _ h' := h'.1
  panic_cut _ _ := trivial
  cut_of_panic _ := trivial

variable {i : CoroutineId} {w v : World L} {x : Effect L α}

/-! ## What a coroutine was built with -/

theorem Undisturbed.endures (h : Undisturbed w v) : Endures i w v := fun hi => by
  refine ⟨Nat.lt_of_lt_of_le hi h.count, ?_⟩
  rw [(h.old i hi).same]
  rfl

/-- A change of the record of the coroutine. -/
theorem enduring_own (hx : ∀ w : World L, ∃ f, (x w).2 = w.modifyCoroutine i f ∧
    (f (w.coroutine i)).origin = (w.coroutine i).origin) : (enduring L i).Kept x :=
  Law.always_of fun w hw => by
    obtain ⟨f, hf, hsame⟩ := hx w
    rw [hf]
    refine ⟨⟨hw.borrowed, hw.hook⟩, fun hi => ?_⟩
    obtain ⟨hv, hr⟩ := modified_of_has hi f
    exact ⟨hv, hr ▸ hsame⟩

theorem enduring_tolerant : (enduring L i).Tolerant i where
  orderly h := h
  harmless hx := Law.always_of fun w hw => ⟨(hx w).orderly hw, (hx w).endures⟩
  other hj hx := by
    refine Law.always_of fun w hw => ?_
    obtain ⟨f, hf, -⟩ := hx w
    obtain ⟨hhas, hother⟩ := modified_other w hj f
    rw [hf]
    exact ⟨⟨hw.borrowed, hw.hook⟩, fun hi => ⟨hhas.mpr hi, congrArg CoroutineRecord.origin hother⟩⟩
  exchange {w} hook h hk :=
    have hu : Undisturbed w { w with ambient := { w.ambient with hook } } :=
      .ambient w _ fun ho => ⟨ho.borrowed, hk⟩
    ⟨hu.orderly h, hu.endures⟩
  cut h := h
  abides hx := enduring_own fun w => by
    obtain ⟨f, hf, h⟩ := hx w
    exact ⟨f, hf, by simp [CoroutineRecord.origin, h.code, h.reportChildren, h.parameters, h.closure]⟩

theorem enduring_throwPending {E : Engine L} (hE : (enduring L i).Upheld E) (p : PendingException) :
    (enduring L i).Kept (throwPending E i p) :=
  enduring_tolerant.patient.serene.throwPending hE.aside (enduring_tolerant.send hE .none)
    (fun _ => enduring_own fun _ => ⟨_, rfl, rfl⟩) p

/-- At every depth of nesting, the engine leaves alone what a coroutine was built with. -/
theorem enduring_watched (W : Watch) (i : CoroutineId) (n : Nat) : (enduring L i).Upheld (.watched L W n) :=
  enduring_tolerant.watched enduring_throwPending n

/-! ## Thrown exceptions -/

theorem unpriming_of (hx : ∀ w : World L, w.Orderly → (x w).2.Orderly ∧ StaysUnprimed i w (x w).2) :
    (unpriming L i).Kept x := by
  intro w hw
  have h := hx w hw
  refine ⟨?_⟩
  rcases hr : x w with ⟨_ | _ | _, v⟩ <;> rw [hr] at h
  · exact h
  · exact h.1
  · trivial

theorem Undisturbed.staysUnprimed (h : Undisturbed w v) : StaysUnprimed i w v := fun hn => by
  by_cases hi : w.Has i
  · rw [(h.old i hi).same]
    exact hn
  · by_cases hv : v.Has i
    · exact (h.new i (Nat.le_of_not_lt hi) hv).1.pending
    · rw [World.coroutine_eq_default (Nat.le_of_not_lt hv)]
      rfl

theorem StaysUnprimed.modify (w : World L) {f : CoroutineRecord L → CoroutineRecord L}
    (hf : (w.coroutine i).pending = none → (f (w.coroutine i)).pending = none) :
    StaysUnprimed i w (w.modifyCoroutine i f) := fun hn => by
  by_cases hi : w.Has i
  · rw [(modified_of_has hi f).2]
    exact hf hn
  · rwa [modifyCoroutine_absent hi]

theorem unpriming_tolerant : (unpriming L i).Tolerant i where
  orderly h := h
  harmless hx := unpriming_of fun w hw => ⟨(hx w).orderly hw, (hx w).staysUnprimed⟩
  other hj hx := unpriming_of fun w hw => by
    obtain ⟨f, hf, -⟩ := hx w
    rw [hf]
    exact ⟨⟨hw.borrowed, hw.hook⟩, fun hn => by rwa [(modified_other w hj f).2]⟩
  exchange {w} hook h hk :=
    have hu : Undisturbed w { w with ambient := { w.ambient with hook } } :=
      .ambient w _ fun ho => ⟨ho.borrowed, hk⟩
    ⟨hu.orderly h, hu.staysUnprimed⟩
  cut _ := trivial
  abides hx := unpriming_of fun w hw => by
    obtain ⟨f, hf, h⟩ := hx w
    rw [hf]
    exact ⟨⟨hw.borrowed, hw.hook⟩, .modify w fun hn => h.pending.elim (·.trans hn) id⟩

/-- What a throw primes is cleared when it is over, unless it panics. -/
theorem unpriming_throwPending {E : Engine L} (hE : (unpriming L i).Upheld E) (p : PendingException) :
    (unpriming L i).Kept (throwPending E i p) := by
  have h : (unpriming L i).Tolerant i := unpriming_tolerant
  intro w hw
  refine .then_gets ?_
  split
  · exact h.plain hE.aside (.refuse _ _) w hw
  · split
    · exact Law.Kept.bind (h.still (instantiate_still p)) (fun _ => .pure _) w hw
    · have primed : (w.modifyCoroutine i fun _ => { w.coroutine i with pending := some p }).Orderly :=
        ⟨hw.borrowed, hw.hook⟩
      refine .then_eq rfl (.then_kept (hE.releaseAll _) primed (fun _ v hv => ?_) (fun _ h => h) fun _ h => h)
      refine .then_kept (h.send hE .none) hv.1 (fun reply u hu => ?_) (fun _ h => h) fun _ h => h
      have cleared : (unpriming L i).step w (u.modifyCoroutine i fun _ => { u.coroutine i with pending := none }) := by
        refine ⟨⟨hu.1.borrowed, hu.1.hook⟩, fun _ => ?_⟩
        by_cases hi : u.Has i
        · rw [(modified_of_has hi _).2]
        · rw [modifyCoroutine_absent hi, World.coroutine_eq_default (Nat.le_of_not_lt hi)]
          rfl
      exact .then_eq rfl (Law.Kept.after (.bind (hE.owning _ (hE.releaseAll _)) fun _ => .pure _) cleared)

/-- At every depth of nesting, what does not panic leaves no exception primed. -/
theorem unpriming_watched (W : Watch) (i : CoroutineId) (n : Nat) : (unpriming L i).Upheld (.watched L W n) :=
  unpriming_tolerant.watched unpriming_throwPending n

end CoroutineEngine
