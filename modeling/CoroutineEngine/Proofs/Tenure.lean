import CoroutineEngine.Proofs.Reports
import CoroutineEngine.Proofs.Watch

/-!
# What handles decide over the life of a coroutine

A coroutine is closed because its last handle is released at most once, and torn down once, when no handle
is left. In its teardown it is closed at most once more, and withdrawn from the registry. Until then it is
enrolled, and afterwards it is not, unless a panic has come out of the teardown.

Results:
* `Tenure.LeadsTo.trans`: what becomes of the closes and the teardown over computations in a row.
* `Tending.dropHandle`: a handle that is given up leaves others, or the coroutine is withdrawn.
* `tending_watched`, `tending_ofDepth`: the engine keeps the accounts of a coroutine right.
-/

namespace CoroutineEngine

variable {L : Language} {α : Type} {i : CoroutineId}

/-! ## Definitions -/

namespace Tenure

/-- The accounts are right: a coroutine that was closed because its last handle was released is marked, and
it was torn down exactly if it has no handle. -/
structure IsLawful (t : Tenure) : Prop where
  finalizations : t.finalizations ≤ 1
  unmarked : t.finalized = false → t.finalizations = 0
  farewells : t.farewells ≤ t.teardowns
  teardowns : t.teardowns = if t.handles = 0 then 1 else 0

/-- What becomes of the accounts: a coroutine that is marked stays marked and is not finalized any more,
and one without handles gets none, and is not closed any more. -/
structure LeadsTo (t t' : Tenure) : Prop where
  finalizations : t.finalizations ≤ t'.finalizations
  farewells : t.farewells ≤ t'.farewells
  collapses : t.collapses ≤ t'.collapses
  marked : t.finalized = true → t'.finalized = true ∧ t'.finalizations = t.finalizations
  gone : t.handles = 0 →
    t'.handles = 0 ∧ t'.finalizations = t.finalizations ∧ t'.farewells = t.farewells

theorem LeadsTo.refl (t : Tenure) : t.LeadsTo t :=
  ⟨Nat.le_refl _, Nat.le_refl _, Nat.le_refl _, fun h => ⟨h, rfl⟩, fun h => ⟨h, rfl, rfl⟩⟩

theorem LeadsTo.trans {t t' t'' : Tenure} (h : t.LeadsTo t') (h' : t'.LeadsTo t'') :
    t.LeadsTo t'' where
  finalizations := Nat.le_trans h.finalizations h'.finalizations
  farewells := Nat.le_trans h.farewells h'.farewells
  collapses := Nat.le_trans h.collapses h'.collapses
  marked hm :=
    have hm' := h.marked hm
    ⟨(h'.marked hm'.1).1, (h'.marked hm'.1).2.trans hm'.2⟩
  gone hg :=
    have hg' := h.gone hg
    have hg'' := h'.gone hg'.1
    ⟨hg''.1, hg''.2.1.trans hg'.2.1, hg''.2.2.trans hg'.2.2⟩

end Tenure

/-- Nothing is enrolled twice, and the accounts of the coroutine `i` are right: as long as it has a handle,
it is enrolled. -/
structure Tended (i : CoroutineId) (w : World L) : Prop where
  orderly : w.Orderly
  nodup : w.registry.objects.Nodup
  lawful : w.Has i → (w.coroutine i).tenure.IsLawful
  enrolled : 0 < (w.coroutine i).handles → .coroutine i ∈ w.registry.objects

/-- The coroutine `i` is not enrolled. -/
def Untracked (i : CoroutineId) (w : World L) : Prop := .coroutine i ∉ w.registry.objects

/-- The accounts of the coroutine `i` between two worlds. -/
structure Tends (i : CoroutineId) (w v : World L) : Prop where
  tended : Tended i v
  grown : Grown w v
  leads : w.Has i → (w.coroutine i).tenure.LeadsTo (v.coroutine i).tenure

/-- The coroutine `i` has a handle, or is not enrolled any more. -/
def Settled (i : CoroutineId) (w : World L) : Prop :=
  w.Has i → 0 < (w.coroutine i).handles ∨ Untracked i w

/-- A panic has come out of a teardown of the coroutine `i`. -/
def Collapsed (i : CoroutineId) (w : World L) : Prop := w.Has i ∧ 0 < (w.coroutine i).history.collapses

/-- A coroutine that is not in the midst of its teardown is not, later on. -/
def Retires (i : CoroutineId) (w v : World L) : Prop := Settled i w → Settled i v

/-- The same, unless a panic has come out of its teardown. -/
def Departs (i : CoroutineId) (w v : World L) : Prop :=
  Settled i w ∨ Collapsed i w → Settled i v ∨ Collapsed i v

section

variable {w v u : World L}

theorem Grown.has (h : Grown w v) (hi : w.Has i) : v.Has i := Nat.lt_of_lt_of_le hi h.count

theorem Tends.refl (h : Tended i w) : Tends i w w := ⟨h, .refl w, fun _ => .refl _⟩

theorem Tends.trans (h : Tends i w v) (h' : Tends i v u) : Tends i w u :=
  ⟨h'.tended, h.grown.trans h'.grown, fun hi => (h.leads hi).trans (h'.leads (h.grown.has hi))⟩

/-- A coroutine that had a handle keeps one or is withdrawn, and a new one has a handle. -/
theorem Retires.of (hg : Grown w v)
    (hold : 0 < (w.coroutine i).handles → 0 < (v.coroutine i).handles ∨ Untracked i v)
    (hnew : ¬ w.Has i → v.Has i → 0 < (v.coroutine i).handles) : Retires i w v := fun hs hv => by
  by_cases hi : w.Has i
  · exact (hs hi).elim hold fun hgone => .inr fun hm => hgone (hg.withdrawn i hi hm)
  · exact .inl (hnew hi hv)

/-- A coroutine whose record was changed keeps its handle or is withdrawn. -/
theorem Retires.modified {j : CoroutineId} {f : CoroutineRecord L → CoroutineRecord L}
    (h : 0 < (w.coroutine i).handles → 0 < ((w.modifyCoroutine j f).coroutine i).handles) :
    Retires i w (w.modifyCoroutine j f) :=
  .of (.modifyCoroutine w j f) (fun hp => .inl (h hp)) fun hn hi =>
    absurd (by simpa [World.Has, World.modifyCoroutine] using hi) hn

theorem Collapsed.later (h : Collapsed i w) (hv : Tends i w v) : Collapsed i v :=
  ⟨hv.grown.has h.1, Nat.lt_of_lt_of_le h.2 (hv.leads h.1).collapses⟩

theorem Retires.departs (hv : Tends i w v) (h : Retires i w v) : Departs i w v :=
  Or.imp h fun hc => hc.later hv

end

/-- The law of the accounts of the coroutine `i`. A computation that gives a result leaves the coroutine a
handle, or withdraws it; so does one that panics, unless the panic comes out of a teardown. -/
def tenured (L : Language) (i : CoroutineId) : Law L where
  start := Tended i
  step w v := Tends i w v ∧ Retires i w v
  panic w v := Tends i w v ∧ Departs i w v
  cut := Tends i
  refl h := ⟨.refl h, id⟩
  next h := h.1.tended
  trans h h' := ⟨h.1.trans h'.1, h'.2 ∘ h.2⟩
  step_panic h h' := ⟨h.1.trans h'.1, h'.2 ∘ h.2.departs h.1⟩
  step_cut h := h.1.trans
  panic_next h := h.1.tended
  panic_step h h' := ⟨h.1.trans h'.1, h'.2.departs h'.1 ∘ h.2⟩
  panic_cut h := h.1.trans
  cut_of_panic h := h.1

/-- The accounts of the coroutine `i` are right, and it is withdrawn if there is a result. -/
def withdrawn (i : CoroutineId) (w : World L) : Post L α :=
  ⟨fun _ v => Tends i w v ∧ Untracked i v, Tends i w, Tends i w⟩

/-- An engine that keeps the accounts of the coroutine `i` right. -/
structure Tending (i : CoroutineId) (E : Engine L) : Prop where
  release : ∀ v, (tenured L i).Kept (E.release v)
  run : ∀ k a t, (tenured L i).Kept (E.run k a t)

/-! ## Helpers -/

section

variable {w v : World L} {x : Effect L α}

theorem CoroutineRecord.Newborn.lawful {r : CoroutineRecord L} (h : r.Newborn) (hp : 0 < r.handles) :
    r.tenure.IsLawful := by
  have hne : r.handles ≠ 0 := Nat.ne_of_gt hp
  constructor <;> simp [CoroutineRecord.tenure, h.history, History.new, hne]

theorem CoroutineRecord.Resembles.tenure {r r' : CoroutineRecord L} (h : r.Resembles r') :
    r'.tenure = { r.tenure with handles := r'.handles } := by
  rw [h.same]
  rfl

theorem CoroutineRecord.Resembles.lawful {r r' : CoroutineRecord L} (h : r.Resembles r')
    (hr : r.tenure.IsLawful) : r'.tenure.IsLawful := by
  have hzero : r'.handles = 0 ↔ r.handles = 0 :=
    ⟨fun h' => Nat.le_zero.mp (h' ▸ h.handles), h.dead⟩
  rw [h.tenure]
  refine { hr with teardowns := hr.teardowns.trans ?_ }
  show (if r.handles = 0 then 1 else 0) = if r'.handles = 0 then 1 else 0
  simp only [hzero]

theorem CoroutineRecord.Resembles.leads {r r' : CoroutineRecord L} (h : r.Resembles r') :
    r.tenure.LeadsTo r'.tenure := by
  rw [h.tenure]
  exact { Tenure.LeadsTo.refl r.tenure with gone := fun hg => ⟨h.dead hg, rfl, rfl⟩ }

theorem World.has_of_handles (hp : 0 < (w.coroutine i).handles) : w.Has i := by
  refine Classical.byContradiction fun hi => ?_
  rw [World.coroutine_eq_default (Nat.le_of_not_lt hi)] at hp
  exact absurd hp (Nat.lt_irrefl 0)

/-- A coroutine that was left in peace, and stayed enrolled. -/
theorem Undisturbed.tends (h : Undisturbed w v) (hw : Tended i w)
    (henrolled : 0 < (v.coroutine i).handles → .coroutine i ∈ v.registry.objects) :
    Tends i w v ∧ Retires i w v := by
  refine ⟨⟨⟨h.orderly hw.orderly, h.nodup hw.nodup, fun hv => ?_, henrolled⟩, h.toGrown,
    fun hi => (h.old i hi).leads⟩, .of h.toGrown
      (fun hp => .inl (Nat.lt_of_lt_of_le hp (h.old i (World.has_of_handles hp)).handles))
      fun hi hv => (h.new i (Nat.le_of_not_lt hi) hv).2⟩
  by_cases hi : w.Has i
  · exact (h.old i hi).lawful (hw.lawful hi)
  · obtain ⟨hnew, hp⟩ := h.new i (Nat.le_of_not_lt hi) hv
    exact hnew.lawful hp

/-- A coroutine that has a handle later on had one before. -/
theorem Undisturbed.alive (h : Undisturbed w v) (hi : w.Has i) (hp : 0 < (v.coroutine i).handles) :
    0 < (w.coroutine i).handles :=
  Nat.pos_of_ne_zero fun hz => absurd hp (Nat.not_lt.mpr (Nat.le_of_eq ((h.old i hi).dead hz)))

theorem Peaceful.tends (h : Peaceful w v) (hw : Tended i w) : Tends i w v ∧ Retires i w v := by
  refine h.toUndisturbed.tends hw fun hp => ?_
  by_cases hi : w.Has i
  · exact h.enrolled i (hw.enrolled (h.toUndisturbed.alive hi hp))
  · exact h.enlisted i hi (World.has_of_handles hp)

theorem tenured_of (hx : ∀ w, Tended i w → Tends i w (x w).2 ∧ Retires i w (x w).2) :
    (tenured L i).Kept x := by
  intro w hw
  have h := hx w hw
  refine ⟨?_⟩
  rcases hv : x w with ⟨_ | _ | _, v⟩ <;> rw [hv] at h
  · exact h
  · exact ⟨h.1, h.2.departs h.1⟩
  · exact h.1

/-- However a computation ends, the accounts are right. -/
theorem tends_of_kept (hx : (tenured L i).Kept x) (hw : Tended i w) : Tends i w (x w).2 := by
  have h := (hx w hw).holds
  rcases hv : x w with ⟨_ | _ | _, v⟩ <;> rw [hv] at h
  · exact h.1
  · exact h.1
  · exact h

theorem Quiet.tenured (hx : Quiet x) : (tenured L i).Kept x := tenured_of fun w => (hx w).tends

/-- The withdrawal of another coroutine. -/
theorem tenured_withdraw {c : CoroutineId} (hc : c ≠ i) :
    (tenured L i).Kept (untrackObject (.coroutine c) : Effect L Bool) := by
  have h : (tenured L i).Kept (.modifyGet fun w =>
      (w.registry.isTracked (.coroutine c),
        { w with registry := w.registry.untrack (.coroutine c) }) : Effect L Bool) :=
    tenured_of fun w hw => (Undisturbed.untrack w _).tends hw fun hp =>
      Registry.mem_untrack_of_ne (fun he => hc (TrackedId.coroutine.inj he).symm) (hw.enrolled hp)
  exact h.bind fun _ => (Still.bind (log_still _ _ _) fun _ => .pure _).quiet.tenured

/-- Changes of the record of the coroutine, in which its accounts come out right. -/
theorem Tended.changed (hw : Tended i w) (hg : Grown w v)
    (ha : v.ambient = w.ambient) (hr : v.registry = w.registry)
    (hlawful : (v.coroutine i).tenure.IsLawful)
    (hleads : (w.coroutine i).tenure.LeadsTo (v.coroutine i).tenure) : Tends i w v where
  tended := ⟨⟨by rw [ha]; exact hw.orderly.borrowed, by rw [ha]; exact hw.orderly.hook⟩,
    hg.nodup hw.nodup, fun _ => hlawful, fun hp => hr ▸ hw.enrolled (Nat.pos_of_ne_zero fun hz =>
      absurd hp (Nat.not_lt.mpr (Nat.le_of_eq (hleads.gone hz).1)))⟩
  grown := hg
  leads _ := hleads

/-- A coroutine that has given up its last handle is torn down, which is noted. -/
theorem Tended.torn (hw : Tended i w) (hone : (w.coroutine i).handles = 1)
    (hr : v.coroutine i = CoroutineRecord.noteTeardown
      { w.coroutine i with handles := (w.coroutine i).handles - 1 })
    (ha : v.ambient = w.ambient) (he : v.registry = w.registry) (hg : Grown w v) :
    Tends i w v ∧ (v.coroutine i).history.teardowns = 1 ∧
      (v.coroutine i).history.farewells = 0 := by
  have hi : w.Has i := World.has_of_handles (hone ▸ Nat.one_pos)
  have hp : (w.coroutine i).handles ≠ 0 := hone ▸ Nat.one_ne_zero
  have hlaw := hw.lawful hi
  have hnone : (w.coroutine i).history.teardowns = 0 := hlaw.teardowns.trans (if_neg hp)
  have hnew : (w.coroutine i).history.farewells = 0 := Nat.le_zero.mp (hnone ▸ hlaw.farewells)
  have ht : (v.coroutine i).tenure = { (w.coroutine i).tenure with handles := 0, teardowns := 1 } := by
    rw [hr]
    simp [CoroutineRecord.tenure, CoroutineRecord.noteTeardown, hone, hnone]
  refine ⟨hw.changed hg ha he ?_ ?_, congrArg Tenure.teardowns ht,
    (congrArg Tenure.farewells ht).trans hnew⟩ <;> rw [ht]
  · exact { hlaw with farewells := hnew ▸ Nat.zero_le 1, teardowns := rfl }
  · exact { Tenure.LeadsTo.refl (w.coroutine i).tenure with gone := fun h => absurd h hp }

/-- A torn-down coroutine may be closed once, which is noted. -/
theorem Tends.farewell (hv : Tends i w v) (hi : w.Has i) (hp : (w.coroutine i).handles ≠ 0)
    (hnoted : (v.coroutine i).history.teardowns = 1) (hnew : (v.coroutine i).history.farewells = 0) :
    Tends i w (v.modifyCoroutine i CoroutineRecord.noteFarewell) := by
  obtain ⟨-, h'⟩ := modified_of_has (hv.grown.has hi) CoroutineRecord.noteFarewell
  have hlaw := hv.tended.lawful (hv.grown.has hi)
  have hlead := hv.leads hi
  refine ⟨⟨⟨hv.tended.orderly.borrowed, hv.tended.orderly.hook⟩, hv.tended.nodup, fun _ => ?_,
    fun hp' => hv.tended.enrolled (by rw [h'] at hp'; exact hp')⟩,
    hv.grown.trans (.modifyCoroutine _ i _), fun _ => ?_⟩ <;> rw [h']
  · refine { hlaw with farewells := ?_ }
    show (v.coroutine i).history.farewells + 1 ≤ (v.coroutine i).history.teardowns
    omega
  · exact { hlead with
      farewells := Nat.le_succ_of_le hlead.farewells, gone := fun h => absurd h hp }

/-- A change of the record of the coroutine that leaves it its handles. -/
theorem tenured_modify {f : CoroutineRecord L → CoroutineRecord L}
    (hf : ∀ r : CoroutineRecord L, r.tenure.IsLawful →
      (f r).tenure.IsLawful ∧ r.tenure.LeadsTo (f r).tenure ∧ (f r).handles = r.handles) :
    (tenured L i).Kept (modifyCoroutine i f) := by
  refine tenured_of fun w hw => ?_
  show Tends i w (w.modifyCoroutine i f) ∧ Retires i w (w.modifyCoroutine i f)
  by_cases hi : w.Has i
  · obtain ⟨hlawful, hleads, hhandles⟩ := hf _ (hw.lawful hi)
    rw [← (modified_of_has hi f).2] at hlawful hleads hhandles
    exact ⟨hw.changed (.modifyCoroutine w i f) rfl rfl hlawful hleads,
      .modified fun hp => hhandles.symm ▸ hp⟩
  · rw [modifyCoroutine_absent hi]
    exact ⟨.refl hw, id⟩

/-- A change of the record of another coroutine. -/
theorem Held.tenured {j : CoroutineId} (hj : j ≠ i) (hx : Held j x) : (tenured L i).Kept x := by
  refine tenured_of fun w hw => ?_
  obtain ⟨f, hf, -⟩ := hx w
  obtain ⟨hhas, hother⟩ := modified_other w hj f
  rw [hf]
  refine ⟨⟨⟨⟨hw.orderly.borrowed, hw.orderly.hook⟩, hw.nodup, fun hi => ?_, fun hp => ?_⟩,
    .modifyCoroutine w j f, fun _ => ?_⟩, .modified fun hp => ?_⟩
  · rw [hother]
    exact hw.lawful (hhas.mp hi)
  · rw [hother] at hp
    exact hw.enrolled hp
  · rw [hother]
    exact .refl _
  · rw [hother]
    exact hp

/-- A change that decides nothing over the life of a coroutine. -/
theorem Owned.tenured {c : CoroutineId} (hx : Owned c x) : (tenured L i).Kept x := by
  by_cases hc : c = i
  · subst hc
    refine tenured_of fun w hw => ?_
    obtain ⟨f, hf, -, ht⟩ := hx w
    rw [hf]
    by_cases hi : w.Has c
    · rw [← (modified_of_has hi f).2] at ht
      have hh : (((w.modifyCoroutine c f).coroutine c).handles) = (w.coroutine c).handles :=
        congrArg Tenure.handles ht
      refine ⟨hw.changed (.modifyCoroutine w c f) rfl rfl ?_ ?_, .modified fun hp => hh.symm ▸ hp⟩
      · rw [ht]
        exact hw.lawful hi
      · rw [ht]
        exact .refl _
    · rw [modifyCoroutine_absent hi]
      exact ⟨.refl hw, id⟩
  · exact hx.held.tenured hc

/-- With the error slot cleared, the accounts are the same. -/
theorem Tends.cleared (h : Tends i w v) :
    Tends i w { v with ambient := { v.ambient with error := none } } :=
  h.trans ((Undisturbed.ambient v { v.ambient with error := none }
    fun ho => ⟨ho.borrowed, ho.hook⟩).tends h.tended h.tended.enrolled).1

theorem tenured_reported : (tenured L i).Reported where
  orderly h := h.orderly
  discreet hx _ := hx.tenured
  exchange {w} hook h hk :=
    have hu : Undisturbed w { w with ambient := { w.ambient with hook } } :=
      .ambient w _ fun ho => ⟨ho.borrowed, hk⟩
    hu.tends h h.enrolled

end

/-! ## Procedures -/

namespace Tending

variable {E : Engine L} {w : World L}

theorem atom (hE : Tending i E) {c : Option CoroutineId} {x : Procedure L α}
    (hx : RequestAtom c x) : (tenured L i).Kept (x E) := by
  cases hx with
  | quiet hx => exact hx.tenured
  | release v => exact hE.release v
  | report object e =>
    exact tenured_reported.report hE.release (fun a t => hE.run none a t) object e
  | own _ _ hx => exact hx.tenured
  | run k a t _ => exact hE.run k a t

theorem request (hE : Tending i E) {c : Option CoroutineId} {x : Procedure L α}
    (hx : Request c x) : (tenured L i).Kept (x E) := Composed.kept (fun hx => hE.atom hx) hx

/-- Those who hold another coroutine decide nothing. -/
theorem others (hE : Tending i E) {c : CoroutineId} (hc : c ≠ i) {x : Procedure L α}
    (hx : Holder c x) : (tenured L i).Kept (x E) := by
  refine Composed.kept (fun hx => ?_) hx
  cases hx with
  | request hx => exact hE.atom hx
  | held hx => exact hx.tenured hc
  | withdraw => exact tenured_withdraw hc

/-! ### Closes on behalf of a releaser -/

theorem closeUnraisable (hE : Tending i E) : (tenured L i).Kept (closeUnraisable E i) :=
  .bind (tenured_modify fun r h => ⟨{ h with unmarked := nofun },
    { Tenure.LeadsTo.refl r.tenure with marked := fun _ => ⟨rfl, rfl⟩ }, rfl⟩) fun _ =>
      hE.request Request.unraisable

/-- A coroutine that is not marked may be closed because its last handle is released. -/
theorem finalization (hE : Tending i E) (hw : Tended i w) (hp : (w.coroutine i).handles = 1)
    (hm : (w.coroutine i).finalized = false) :
    Meets (CoroutineEngine.closeUnraisable E i) (w.modifyCoroutine i CoroutineRecord.noteFinalization)
      ((tenured L i).post w) := by
  have hi : w.Has i := World.has_of_handles (hp ▸ Nat.one_pos)
  obtain ⟨hi₁, h₁⟩ := modified_of_has hi CoroutineRecord.noteFinalization
  obtain ⟨hi₂, h₂⟩ := modified_of_has hi₁ fun r => { r with finalized := true }
  refine .then_eq rfl (Law.Kept.after (hE.request Request.unraisable) ⟨?_, ?_⟩)
  · have hlaw := hw.lawful hi
    have hzero : (w.coroutine i).history.finalizations = 0 := hlaw.unmarked hm
    refine hw.changed ((Grown.modifyCoroutine _ i _).trans (.modifyCoroutine _ i _)) rfl rfl ?_ ?_
    · rw [h₂, h₁]
      refine { hlaw with finalizations := ?_, unmarked := nofun }
      show (w.coroutine i).history.finalizations + 1 ≤ 1
      omega
    · rw [h₂, h₁]
      refine { Tenure.LeadsTo.refl (w.coroutine i).tenure with
        finalizations := Nat.le_succ _, marked := fun h => ?_, gone := fun h => ?_ }
      · exact absurd (hm.symm.trans h) (by decide)
      · exact absurd (hp.symm.trans h) (by decide)
  · refine fun hs hv => .inl ?_
    rw [h₂, h₁]
    exact hp ▸ Nat.one_pos

theorem finalize (hE : Tending i E) : (tenured L i).Kept (finalize E i) := by
  have note (message : String) : (tenured L i).Kept (logCoroutine .debug message i [] : Effect L Unit) :=
    (logCoroutine_still _ _ _ _).quiet.tenured
  intro w hw
  refine .then_gets ?_
  split
  · rename_i hlast
    obtain ⟨hone, hm, -⟩ := hlast
    have hlog : Still (logCoroutine .debug "finalizing unclosed coroutine" i [] : Effect L Unit) :=
      logCoroutine_still _ _ _ _
    have hv := (hlog.quiet w).tends hw
    generalize hlogged : (logCoroutine .debug "finalizing unclosed coroutine" i [] w).2 = v at hv
    have hsame : v.coroutine i = w.coroutine i := by
      rw [← hlogged, World.coroutine, hlog.coroutines, World.coroutine]
    refine .then_eq (v := v) (by rw [← hlogged]; rfl) ?_
    have hclose := Law.post_of_step hv
      (hE.finalization hv.1.tended (hsame ▸ hone) (by rw [hsame]; simpa using hm))
    refine .then_eq rfl (.bind (hclose.mono (fun _ u hu => ?_) (fun _ h => h) fun _ h => h))
    refine .then_gets ?_
    split
    · exact (note _).after hu
    · exact .pure hu
  · exact .pure ((tenured L i).refl hw)

/-! ### Teardown -/

theorem releaseAll (hE : Tending i E) (vs : List Value) : (tenured L i).Kept (E.releaseAll vs) :=
  .releaseAll hE.release vs

/-- What goes on after the coroutine was withdrawn. -/
theorem after_withdrawal {w v : World L} {x : Effect L α} (hx : (tenured L i).Kept x) (hi : w.Has i)
    (hv : Tends i w v ∧ Untracked i v) : Meets x v (withdrawn i w) :=
  (hx v hv.1.tended).mono
    (fun _ _ hu => ⟨hv.1.trans hu.1, fun hm => hv.2 (hu.1.grown.withdrawn i (hv.1.grown.has hi) hm)⟩)
    (fun _ hu => hv.1.trans hu.1) fun _ => hv.1.trans

/-- A cleanup, whatever has happened. -/
theorem cleanup {w v : World L} {x : Effect L α} (hx : (tenured L i).Kept x) (hv : Tends i w v) :
    Meets x v ⟨fun _ => Tends i w, Tends i w, Tends i w⟩ :=
  (hx v hv.tended).mono (fun _ _ hu => hv.trans hu.1) (fun _ hu => hv.trans hu.1) fun _ => hv.trans

/-- A coroutine without handles that gives up what it owns is withdrawn in the end. -/
theorem relinquish (hE : Tending i E) (hw : Tended i w) (hi : w.Has i)
    (hdead : (w.coroutine i).handles = 0) : Meets (relinquish E i) w (withdrawn i w) := by
  have through {β : Type} {x : Effect L β} {f : β → Effect L Unit} {v : World L}
      (hx : (tenured L i).Kept x) (hv : Tends i w v)
      (next : ∀ a u, Tends i w u → Meets (f a) u (withdrawn i w)) :
      Meets (x >>= f) v (withdrawn i w) :=
    .then_kept hx hv.tended (fun a u hu => next a u (hv.trans hu.1)) (fun _ hu => hv.trans hu.1)
      fun _ => hv.trans
  have update {β : Type} {f : CoroutineRecord L → β × CoroutineRecord L}
      (hf : ∀ r, r.history.visits ≤ (f r).2.history.visits ∧ (f r).2.tenure = r.tenure) :
      (tenured L i).Kept (updateCoroutine i f) := (updateCoroutine_owned i hf).tenured
  refine through (update fun _ => ⟨Nat.le_refl _, rfl⟩) (.refl hw) fun _ _ hv => ?_
  refine through (hE.releaseAll _) hv fun _ _ hv => ?_
  refine through (update fun _ => ⟨Nat.le_refl _, rfl⟩) hv fun _ _ hv => ?_
  refine through (hE.releaseAll _) hv fun _ _ hv => ?_
  refine through (update fun _ => ⟨Nat.le_refl _, rfl⟩) hv fun fiber _ hv => ?_
  refine through (hE.request (c := some i) (Request.releaseFiber? fiber)) hv fun _ v hv => ?_
  -- no handle has come back, so that the coroutine need not be enrolled any more
  have hnone : (v.coroutine i).handles = 0 := ((hv.leads hi).gone hdead).1
  have hu : Tends i w { v with registry := v.registry.untrack (.coroutine i) } :=
    hv.trans ((Undisturbed.untrack v _).tends hv.tended fun hp =>
      absurd hp (Nat.not_lt.mpr (Nat.le_of_eq hnone))).1
  have hgone : Untracked i { v with registry := v.registry.untrack (.coroutine i) } := fun hm =>
    ((Registry.mem_untrack hv.tended.nodup).mp hm).1 rfl
  have log {x : Effect L Unit} (hx : Still x) : (tenured L i).Kept x := hx.quiet.tenured
  refine .bind (.then_eq rfl (.bind ((after_withdrawal (log (log_still _ _ _)) hi ⟨hu, hgone⟩).mono
    (fun _ x hx => .pure ?_) (fun _ h => h) fun _ h => h)))
  exact after_withdrawal (log (logCoroutine_still _ _ _ _)) hi hx

/-- The close by a teardown, if there is one, after which the coroutine is withdrawn. -/
theorem farewell (hE : Tending i E) {w v : World L} (hi : w.Has i) (hp : (w.coroutine i).handles ≠ 0)
    (hv : Tends i w v) (hdead : (v.coroutine i).handles = 0) (hnoted : (v.coroutine i).history.teardowns = 1)
    (hnew : (v.coroutine i).history.farewells = 0) :
    Meets
      (do
        if (← recordOf i).isSuspended then
          modifyCoroutine i CoroutineRecord.noteFarewell
          CoroutineEngine.closeUnraisable E i
        CoroutineEngine.relinquish E i)
      v (withdrawn i w) := by
  have withdraw {u : World L} (hu : Tends i w u) (hnone : (u.coroutine i).handles = 0) :
      Meets (CoroutineEngine.relinquish E i) u (withdrawn i w) :=
    (hE.relinquish hu.tended (hu.grown.has hi) hnone).mono (fun _ _ hx => ⟨hu.trans hx.1, hx.2⟩)
      (fun _ => hu.trans) fun _ => hu.trans
  refine .then_gets ?_
  split
  · have hnoted' := hv.farewell hi hp hnoted hnew
    obtain ⟨hi', hr⟩ := modified_of_has (hv.grown.has hi) CoroutineRecord.noteFarewell
    refine .then_eq rfl (.then_kept hE.closeUnraisable hnoted'.tended
      (fun _ u hu => withdraw (hnoted'.trans hu.1) ?_) (fun _ hu => hnoted'.trans hu.1)
      fun _ => hnoted'.trans)
    exact ((hu.1.leads hi').gone ((congrArg CoroutineRecord.handles hr).trans hdead)).1
  · exact withdraw hv hdead

/-- The teardown of a coroutine whose last handle was given up. -/
theorem teardown (hE : Tending i E) (hw : Tended i w) (hone : (w.coroutine i).handles = 1) :
    Meets (teardown E i)
      (w.modifyCoroutine i fun _ => { w.coroutine i with handles := (w.coroutine i).handles - 1 })
      (withdrawn i w) := by
  have hi : w.Has i := World.has_of_handles (hone ▸ Nat.one_pos)
  have hp : (w.coroutine i).handles ≠ 0 := hone ▸ Nat.one_ne_zero
  obtain ⟨hi₁, h₁⟩ := modified_of_has hi
    fun _ => { w.coroutine i with handles := (w.coroutine i).handles - 1 }
  obtain ⟨hi₂, h₂⟩ := modified_of_has hi₁ CoroutineRecord.noteTeardown
  obtain ⟨hv, hnoted, hnew⟩ := hw.torn hone (h₂.trans (by rw [h₁])) rfl rfl
    ((Grown.modifyCoroutine w i _).trans (.modifyCoroutine _ i _))
  have remains := hE.request (c := some i) Request.releaseRemains
  refine .then_eq rfl (.andFinally (Meets.mono (Q := withdrawn i w) ?_
    (fun _ u hu => after_withdrawal remains hi hu) (fun u hu => cleanup remains hu) fun _ h => h))
  refine .then_eq (withAmbient_ok hv.tended.orderly) ?_
  have hdead : (((w.modifyCoroutine i fun _ =>
      { w.coroutine i with handles := (w.coroutine i).handles - 1 }).modifyCoroutine i
        CoroutineRecord.noteTeardown).coroutine i).handles = 0 := by
    rw [h₂, h₁]
    exact congrArg (· - 1) hone
  refine .bind (.onPanic ((hE.farewell hi hp hv.cleared hdead hnoted hnew).mono (fun _ u hu => ?_)
    (fun u hu => cleanup (hE.releaseAll _) hu) fun _ h => h))
  exact .bind ((after_withdrawal (swapError_quiet _).tenured hi hu).mono
    (fun _ x hx => after_withdrawal (hE.releaseAll _) hi hx) (fun _ h => h) fun _ h => h)

/-- It is noted that a panic comes out of a teardown. -/
theorem collapse {w v : World L} (hi : w.Has i) (hv : Tends i w v) :
    Meets (modifyCoroutine i CoroutineRecord.noteCollapse) v
      ⟨fun _ => ((tenured L i).post (α := Unit) w).panic, Tends i w, Tends i w⟩ := by
  have hi' := hv.grown.has hi
  have hr := (modified_of_has hi' CoroutineRecord.noteCollapse).2
  refine .of_ok rfl ⟨hv.trans (hv.tended.changed (.modifyCoroutine v i _) rfl rfl ?_ ?_),
    fun _ => .inr ⟨(modified_of_has hi' _).1, ?_⟩⟩ <;> rw [hr]
  · exact { hv.tended.lawful hi' with }
  · exact { Tenure.LeadsTo.refl (v.coroutine i).tenure with collapses := Nat.le_succ _ }
  · exact Nat.succ_pos _

/-- A handle that is given up leaves others, or the coroutine is torn down. -/
theorem dropHandle (hE : Tending i E) : (tenured L i).Kept (dropHandle E i) := by
  intro w hw
  refine .then_eq rfl ?_
  split
  · rename_i hone
    have hi : w.Has i := World.has_of_handles (hone ▸ Nat.one_pos)
    exact .onPanic ((hE.teardown hw hone).mono (fun _ u hu => ⟨hu.1, fun _ _ => .inr hu.2⟩)
      (fun _ hu => collapse hi hu) fun _ h => h)
  · rename_i hmany
    refine .pure ?_
    by_cases hi : w.Has i
    · obtain ⟨-, hr⟩ := modified_of_has hi
        fun _ => { w.coroutine i with handles := (w.coroutine i).handles - 1 }
      have hlaw := hw.lawful hi
      refine ⟨hw.changed (.modifyCoroutine w i _) rfl rfl ?_ ?_, .modified fun hp => ?_⟩ <;> rw [hr]
      · refine { hlaw with teardowns := hlaw.teardowns.trans ?_ }
        show (if (w.coroutine i).handles = 0 then 1 else 0) =
          if (w.coroutine i).handles - 1 = 0 then 1 else 0
        split <;> split <;> omega
      · refine { Tenure.LeadsTo.refl (w.coroutine i).tenure with gone := fun h => ⟨?_, rfl, rfl⟩ }
        exact Nat.sub_eq_zero_of_le (Nat.le_succ_of_le (Nat.le_of_eq h))
      · exact Nat.sub_pos_of_lt (Nat.lt_of_le_of_ne hp (Ne.symm hmany))
    · rw [modifyCoroutine_absent hi]
      exact ⟨.refl hw, id⟩

theorem releaseCoroutine (hE : Tending i E) (c : CoroutineId) :
    (tenured L i).Kept (releaseCoroutine E c) := by
  by_cases hc : c = i
  · subst hc
    exact .andFinally hE.finalize hE.dropHandle
  · exact hE.others hc Holder.releaseCoroutine

/-! ## Clients and engines -/

theorem releaseHandle (hE : Tending i E) (v : Value) : (tenured L i).Kept (releaseHandle E v) := by
  refine Composed.kept (fun hx => ?_) (Release.releaseHandle v)
  cases hx with
  | discreet hx => exact hx.quiet.tenured
  | release v => exact hE.release v
  | coroutine c => exact hE.releaseCoroutine c

theorem client (hE : Tending i E) {k : Option CoroutineId} {x : Procedure L α} (hx : Client k x) :
    (tenured L i).Kept (x E) := by
  refine Composed.kept (fun hx => ?_) hx
  cases hx with
  | quiet hx => exact hx.tenured
  | release v => exact hE.release v
  | send c v => exact hE.request (c := some c) (Request.send v)
  | throwPending c p => exact hE.request (c := some c) (Request.throwPending p)
  | close c => exact hE.request (c := some c) Request.close
  | report object e => exact hE.atom (c := none) (.report object e)
  | await c v _ => exact (updateCoroutine_owned c fun _ => ⟨Nat.le_refl _, rfl⟩).tenured

theorem under (hE : Tending i E) (W : Watch) (n : Nat) : Tending i ((E.next n).under W) where
  release v := (hE.releaseHandle v).under_release fun h => h.1
  run _ a t := (hE.client (Client.runBody n a t)).under_run fun h => h.1

theorem halted : Tending i (.halted : Engine L) where
  release v := by
    intro w hw
    show Meets (if v.isNone then pure () else .stop) w _
    split
    · exact .pure ((tenured L i).refl hw)
    · exact ⟨.refl hw⟩
  run _ _ _ w hw := ⟨.refl hw⟩

end Tending

/-- At every depth of nesting, the engine keeps the accounts of a coroutine right. -/
theorem tending_watched (W : Watch) (i : CoroutineId) (n : Nat) : Tending i (.watched L W n) := by
  induction n with
  | zero => exact .halted
  | succ n ih => exact ih.under W n

/-- It does so without a watch. -/
theorem tending_ofDepth (i : CoroutineId) (n : Nat) : Tending i (.ofDepth L n) :=
  Engine.watched_nothing (L := L) n ▸ tending_watched {} i n

end CoroutineEngine
