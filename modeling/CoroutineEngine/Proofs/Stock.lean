import CoroutineEngine.Proofs.Keeping
import CoroutineEngine.Proofs.Tenure
import CoroutineEngine.Proofs.Upheld

/-!
# What a coroutine has left of its inputs

A coroutine is built with parameters and closure cells, and nothing is added to them. The parameters are given
up at once, when the coroutine finishes or when it is torn down; the cells are given up when it is torn down.
Whoever makes a request on a coroutine, or releases a handle, finds it so and leaves it so.

Results:
* `Stocking.resume`, `Stocking.close`: what requests give up of the inputs.
* `Stocking.teardown`: a teardown gives up all that is left of them.
* `stocking_watched`: the law of the inputs holds on engines of any depth.
-/

namespace CoroutineEngine

variable {L : Language} {α : Type}

/-! ## Definitions -/

namespace CoroutineRecord

/-- What is left of the inputs is what the coroutine was built with, without the parameters once they are given
up, and without the cells if nobody holds the coroutine and they are given up, too. -/
structure IsStocked (r : CoroutineRecord L) : Prop where
  whole : r.released = false → r.inputs = .new r.history.parameters r.history.closure
  spent : r.released = true → r.inputs.parameters = []
  finished : r.status = .finished → r.released = true
  cells : r.inputs.closure = r.history.closure ∨ r.handles = 0 ∧ r.inputs.closure = []

/-- A coroutine that nobody holds has given up everything. -/
def IsCleared (r : CoroutineRecord L) : Prop := r.handles = 0 → r.inputs = ⟨[], [], true⟩

/-- The last handle was given up. -/
def IsForsaken (r r' : CoroutineRecord L) : Prop := r.handles ≠ 0 ∧ r'.handles = 0

/-- What becomes of the inputs over a computation. Unless the last handle is given up meanwhile, the parameters
are given up only by a coroutine that finishes, and the cells are not given up. -/
structure Yields (r r' : CoroutineRecord L) : Prop where
  parameters : r'.history.parameters = r.history.parameters
  closure : r'.history.closure = r.history.closure
  released : r.released = true → r'.released = true
  finished : r.status = .finished → r'.status = .finished
  spent : r.released = false → r'.released = true → r'.status = .finished ∨ r.IsForsaken r'
  cells : r'.inputs.closure = r.inputs.closure ∨ r.IsForsaken r'
  bare : r.handles = 0 → r'.handles = 0

/-- A record with the same inputs, of a coroutine that is finished, or has a handle, just if it was so before. -/
structure Retains (r r' : CoroutineRecord L) : Prop where
  inputs : r'.inputs = r.inputs
  parameters : r'.history.parameters = r.history.parameters
  closure : r'.history.closure = r.history.closure
  finished : r'.status = .finished ↔ r.status = .finished
  bare : r'.handles = 0 ↔ r.handles = 0

/-- A change of a record that keeps the law of the inputs. -/
structure Spends (r r' : CoroutineRecord L) : Prop where
  stocked : r.IsStocked → r'.IsStocked
  yields : r.Yields r'
  cleared : r.IsCleared → r'.IsCleared

end CoroutineRecord

/-- The inputs of a coroutine between two worlds. -/
def Yielded (i : CoroutineId) (w v : World L) : Prop :=
  w.Has i → v.Has i ∧ (w.coroutine i).Yields (v.coroutine i)

/-- A coroutine that was built and that nobody holds any more has given up everything. -/
def Cleared (i : CoroutineId) (w : World L) : Prop := w.Has i → (w.coroutine i).IsCleared

/-- What holds of the inputs of a coroutine over a computation that is not cut. -/
structure Stocks (i : CoroutineId) (w v : World L) : Prop where
  orderly : v.Orderly
  stocked : (v.coroutine i).IsStocked
  yielded : Yielded i w v
  cleared : Cleared i w → Cleared i v

/-- Where a coroutine that nobody holds is being torn down. -/
structure Bare (i : CoroutineId) (w : World L) : Prop where
  has : w.Has i
  handles : (w.coroutine i).handles = 0
  stocked : (w.coroutine i).IsStocked

/-- What becomes of a coroutine while it is being torn down. -/
structure Wanes (i : CoroutineId) (w v : World L) : Prop extends Bare i v where
  parameters : (v.coroutine i).history.parameters = (w.coroutine i).history.parameters
  closure : (v.coroutine i).history.closure = (w.coroutine i).history.closure
  released : (w.coroutine i).released = true → (v.coroutine i).released = true
  finished : (w.coroutine i).status = .finished → (v.coroutine i).status = .finished

theorem CoroutineRecord.Yields.refl (r : CoroutineRecord L) : r.Yields r where
  parameters := rfl
  closure := rfl
  released := id
  finished := id
  spent h h' := absurd (h.symm.trans h') (by simp)
  cells := .inl rfl
  bare := id

theorem CoroutineRecord.Yields.trans {r r' r'' : CoroutineRecord L} (h : r.Yields r') (h' : r'.Yields r'') :
    r.Yields r'' where
  parameters := h'.parameters.trans h.parameters
  closure := h'.closure.trans h.closure
  released := h'.released ∘ h.released
  finished := h'.finished ∘ h.finished
  spent hr hr'' := by
    by_cases hf : r.IsForsaken r''
    · exact .inr hf
    cases hr' : r'.released with
    | true =>
      refine .inl ((h.spent hr hr').elim h'.finished fun hgone => ?_)
      exact absurd ⟨hgone.1, h'.bare hgone.2⟩ hf
    | false =>
      refine .inl ((h'.spent hr' hr'').resolve_right fun hgone => hf ⟨?_, hgone.2⟩)
      exact hgone.1 ∘ h.bare
  cells := by
    rcases h.cells with he | hgone
    · rcases h'.cells with he' | hgone'
      · exact .inl (he'.trans he)
      · exact .inr ⟨hgone'.1 ∘ h.bare, hgone'.2⟩
    · exact .inr ⟨hgone.1, h'.bare hgone.2⟩
  bare := h'.bare ∘ h.bare

theorem Yielded.refl (i : CoroutineId) (w : World L) : Yielded i w w := fun hi => ⟨hi, .refl _⟩

theorem Yielded.trans {i : CoroutineId} {w v u : World L} (h : Yielded i w v) (h' : Yielded i v u) :
    Yielded i w u := fun hi => by
  obtain ⟨hv, hwv⟩ := h hi
  obtain ⟨hu, hvu⟩ := h' hv
  exact ⟨hu, hwv.trans hvu⟩

/-- The law of the inputs of a coroutine. -/
def stocking (L : Language) (i : CoroutineId) : Law L where
  start w := w.Orderly ∧ (w.coroutine i).IsStocked
  step := Stocks i
  panic := Stocks i
  cut w v := (v.coroutine i).IsStocked ∧ Yielded i w v
  refl h := ⟨h.1, h.2, .refl i _, id⟩
  next h := ⟨h.orderly, h.stocked⟩
  trans h h' := ⟨h'.orderly, h'.stocked, h.yielded.trans h'.yielded, h'.cleared ∘ h.cleared⟩
  step_panic h h' := ⟨h'.orderly, h'.stocked, h.yielded.trans h'.yielded, h'.cleared ∘ h.cleared⟩
  step_cut h h' := ⟨h'.1, h.yielded.trans h'.2⟩
  panic_next h := ⟨h.orderly, h.stocked⟩
  panic_step h h' := ⟨h'.orderly, h'.stocked, h.yielded.trans h'.yielded, h'.cleared ∘ h.cleared⟩
  panic_cut h h' := ⟨h'.1, h.yielded.trans h'.2⟩
  cut_of_panic h := ⟨h.stocked, h.yielded⟩

theorem Wanes.trans {i : CoroutineId} {w v u : World L} (h : Wanes i w v) (h' : Wanes i v u) : Wanes i w u where
  toBare := h'.toBare
  parameters := h'.parameters.trans h.parameters
  closure := h'.closure.trans h.closure
  released := h'.released ∘ h.released
  finished := h'.finished ∘ h.finished

/-- The law of a coroutine that is being torn down. -/
def clearing (L : Language) (i : CoroutineId) : Law L where
  start w := w.Orderly ∧ Bare i w
  step w v := v.Orderly ∧ Wanes i w v
  panic w v := v.Orderly ∧ Wanes i w v
  cut := Wanes i
  refl h := ⟨h.1, h.2, rfl, rfl, id, id⟩
  next h := ⟨h.1, h.2.toBare⟩
  trans h h' := ⟨h'.1, h.2.trans h'.2⟩
  step_panic h h' := ⟨h'.1, h.2.trans h'.2⟩
  step_cut h h' := h.2.trans h'
  panic_next h := ⟨h.1, h.2.toBare⟩
  panic_step h h' := ⟨h'.1, h.2.trans h'.2⟩
  panic_cut h h' := h.2.trans h'
  cut_of_panic h := h.2

/-- The law of the status of a coroutine to which nothing is done. -/
def steady (L : Language) (i : CoroutineId) : Law L :=
  .always (fun _ => True) (fun w v => (v.coroutine i).status = (w.coroutine i).status) (fun _ => rfl)
    fun _ _ _ h h' => h'.trans h

/-- An engine on which the inputs of a coroutine are given up as they should be. -/
abbrev Stocking (i : CoroutineId) (E : Engine L) : Prop := (stocking L i).Upheld E

/-! ## Helpers -/

variable {i : CoroutineId} {r r' : CoroutineRecord L} {w v u : World L} {x : Effect L α}

namespace CoroutineRecord

theorem Retains.spends (h : r.Retains r') : r.Spends r' := by
  have hreleased : r'.released = r.released := congrArg Inputs.parametersReleased h.inputs
  refine ⟨fun hr => ⟨?_, ?_, ?_, ?_⟩, ⟨h.parameters, h.closure, ?_, h.finished.mpr, ?_, ?_, h.bare.mpr⟩, ?_⟩
  · rw [hreleased, h.inputs, h.parameters, h.closure]
    exact hr.whole
  · rw [hreleased, h.inputs]
    exact hr.spent
  · rw [hreleased, h.finished]
    exact hr.finished
  · rw [h.inputs, h.closure, h.bare]
    exact hr.cells
  · exact hreleased.trans
  · exact fun hr hr' => absurd (hr.symm.trans (hreleased.symm.trans hr')) (by simp)
  · exact .inl (congrArg Inputs.closure h.inputs)
  · intro hr hz
    rw [h.inputs]
    exact hr (h.bare.mp hz)

theorem Resembles.retains (h : r.Resembles r') : r.Retains r' := by
  have hh := h.handles
  have hd := h.dead
  rw [h.same] at hh hd ⊢
  exact ⟨rfl, rfl, rfl, .rfl, fun hz => Nat.le_zero.mp (hz ▸ hh), hd⟩

theorem Newborn.stocked (h : r.Newborn) : r.IsStocked where
  whole hr := by
    have hi : r.inputs = ⟨r.inputs.parameters, r.inputs.closure, r.released⟩ := rfl
    rw [h.history, hi, hr]
    rfl
  spent hr := absurd (h.released.symm.trans hr) Bool.false_ne_true
  finished hs := absurd (h.status.symm.trans hs) (by decide)
  cells := .inl (by rw [h.history]; rfl)

/-- A coroutine that finishes gives its parameters up. -/
theorem Spends.finish (hi : r'.inputs = r.inputs.releaseParameters.2) (hp : r'.history.parameters = r.history.parameters)
    (hc : r'.history.closure = r.history.closure) (hs : r'.status = .finished) (hh : r'.handles = r.handles) :
    r.Spends r' := by
  have hreleased : r'.released = true := congrArg Inputs.parametersReleased hi
  have hclosure : r'.inputs.closure = r.inputs.closure := by
    rw [hi]
    rfl
  refine ⟨fun hr => ⟨fun h => absurd (hreleased.symm.trans h) (by simp), fun _ => congrArg Inputs.parameters hi,
    fun _ => hreleased, ?_⟩, ⟨hp, hc, fun _ => hreleased, fun _ => hs, fun _ _ => .inl hs, .inl hclosure, ?_⟩, ?_⟩
  · rw [hclosure, hc, hh]
    exact hr.cells
  · rw [hh]
    exact id
  · intro hr hz
    rw [hi, hr (hh ▸ hz)]
    rfl

/-- Taking the parameters out, or everything, keeps the inputs of a coroutine that nobody holds in order. -/
theorem IsStocked.given_up (hi : r'.inputs = ⟨[], r.inputs.closure, true⟩ ∨ r'.inputs = ⟨[], [], true⟩)
    (hc : r'.history.closure = r.history.closure) (hz : r'.handles = 0) (h : r.IsStocked) :
    r'.IsStocked := by
  have hreleased : r'.released = true := by
    rcases hi with hi | hi <;> exact congrArg Inputs.parametersReleased hi
  refine ⟨fun h => absurd (hreleased.symm.trans h) (by simp), fun _ => ?_, fun _ => hreleased, ?_⟩
  · rcases hi with hi | hi <;> exact congrArg Inputs.parameters hi
  · rcases hi with hi | hi
    · rw [hi, hc]
      exact h.cells.imp_right fun hgone => ⟨hz, hgone.2⟩
    · exact .inr ⟨hz, congrArg Inputs.closure hi⟩

end CoroutineRecord

/-! ### Computations -/

theorem stocking_of (hx : ∀ w, w.Orderly → (w.coroutine i).IsStocked → Stocks i w (x w).2) :
    (stocking L i).Kept x := by
  intro w hw
  have h := hx w hw.1 hw.2
  refine ⟨?_⟩
  rcases hr : x w with ⟨_ | _ | _, v⟩ <;> rw [hr] at h
  · exact h
  · exact h
  · exact ⟨h.stocked, h.yielded⟩

theorem Undisturbed.stocks (h : Undisturbed w v) (ho : w.Orderly) (hw : (w.coroutine i).IsStocked) :
    Stocks i w v := by
  by_cases hi : w.Has i
  · have hspends := (h.old i hi).retains.spends
    have hv : v.Has i := Nat.lt_of_lt_of_le hi h.count
    exact ⟨h.orderly ho, hspends.stocked hw, fun _ => ⟨hv, hspends.yields⟩, fun hc _ => hspends.cleared (hc hi)⟩
  · refine ⟨h.orderly ho, ?_, fun h => absurd h hi, fun _ hv hz => ?_⟩
    · by_cases hv : v.Has i
      · exact (h.new i (Nat.le_of_not_lt hi) hv).1.stocked
      · rw [World.coroutine_eq_default (Nat.le_of_not_lt hv)]
        exact CoroutineRecord.newborn_default.stocked
    · -- a coroutine that is built meanwhile has a handle
      exact absurd hz (Nat.ne_of_gt (h.new i (Nat.le_of_not_lt hi) hv).2)

/-- A change of the record of the coroutine. -/
theorem stocks_modified {f : CoroutineRecord L → CoroutineRecord L} (ho : w.Orderly)
    (hw : (w.coroutine i).IsStocked) (hf : (w.coroutine i).Spends (f (w.coroutine i))) :
    Stocks i w (w.modifyCoroutine i f) := by
  by_cases hi : w.Has i
  · obtain ⟨hhas, hr⟩ := modified_of_has hi f
    refine ⟨⟨ho.borrowed, ho.hook⟩, ?_, fun _ => ⟨hhas, ?_⟩, fun hc _ => ?_⟩ <;> rw [hr]
    · exact hf.stocked hw
    · exact hf.yields
    · exact hf.cleared (hc hi)
  · rw [modifyCoroutine_absent hi]
    exact ⟨ho, hw, .refl i w, id⟩

section

variable {β : Type} {f : CoroutineRecord L → CoroutineRecord L}

theorem stocking_harmless (hx : Harmless x) : (stocking L i).Kept x :=
  stocking_of fun w ho hw => (hx w).stocks ho hw

theorem stocking_quiet (hx : Quiet x) : (stocking L i).Kept x := stocking_harmless hx.harmless

theorem stocking_still (hx : Still x) : (stocking L i).Kept x := stocking_quiet hx.quiet

theorem stocking_spends {f : CoroutineRecord L → α × CoroutineRecord L}
    (hf : ∀ r : CoroutineRecord L, r.Spends (f r).2) : (stocking L i).Kept (updateCoroutine i f) :=
  stocking_of fun _ ho hw => stocks_modified (f := fun _ => (f _).2) ho hw (hf _)

theorem stocking_update {f : CoroutineRecord L → α × CoroutineRecord L}
    (hf : ∀ r : CoroutineRecord L, r.Retains (f r).2) : (stocking L i).Kept (updateCoroutine i f) :=
  stocking_spends fun r => (hf r).spends

theorem stocking_modify (hf : ∀ r : CoroutineRecord L, r.Retains (f r)) :
    (stocking L i).Kept (modifyCoroutine i f) :=
  stocking_of fun _ ho hw => stocks_modified ho hw (hf _).spends

/-- A note about the coroutine that depends on the world. -/
theorem stocking_note {f : World L → CoroutineRecord L → CoroutineRecord L}
    (hf : ∀ w (r : CoroutineRecord L), r.Retains (f w r)) :
    (stocking L i).Kept (.modify fun w => w.modifyCoroutine i (f w)) :=
  stocking_of fun w ho hw => stocks_modified ho hw (hf w _).spends

/-- A change of the record of another coroutine. -/
theorem stocking_other {j : CoroutineId} (hj : j ≠ i) (hx : Held j x) : (stocking L i).Kept x := by
  refine stocking_of fun w ho hw => ?_
  obtain ⟨f, hf, -⟩ := hx w
  obtain ⟨hhas, hother⟩ := modified_other w hj f
  rw [hf]
  refine ⟨⟨ho.borrowed, ho.hook⟩, ?_, fun hi => ⟨hhas.mpr hi, ?_⟩, fun hc hi => ?_⟩ <;> rw [hother]
  · exact hw
  · exact .refl _
  · exact hc (hhas.mp hi)

end

/-- What is read of a record that a change leaves alone. -/
theorem modified_same {β : Type} {g : CoroutineRecord L → β} {f : CoroutineRecord L → CoroutineRecord L}
    (hf : g (f (w.coroutine i)) = g (w.coroutine i)) :
    g ((w.modifyCoroutine i f).coroutine i) = g (w.coroutine i) := by
  by_cases hi : w.Has i
  · rw [(modified_of_has hi f).2, hf]
  · rw [modifyCoroutine_absent hi]

theorem steady_still (hx : Still x) : (steady L i).Kept x :=
  Law.always_of fun w _ => ⟨trivial, by rw [World.coroutine, hx.coroutines, World.coroutine]⟩

theorem steady_createFiber : (steady L i).Kept (createFiber i) := by
  refine .bind (Law.always_of fun w _ => ⟨trivial, ?_⟩) fun supply => ?_
  · exact modified_same (g := (·.status)) (f := fun _ => (w.coroutine i).noteAsk) rfl
  split
  · refine .bind (Law.always_of fun w _ => ⟨trivial, ?_⟩) fun _ => steady_still (.pure _)
    exact modified_same (g := (·.status)) (f := fun r => { r with supply := _ }) rfl
  · refine .bind (steady_still (Request.mapStack_still _)) fun failure => ?_
    cases failure <;> exact steady_still (.pure _)

/-! ### Where nobody holds the coroutine -/

theorem Yielded.wanes (h : Yielded i w v) (hw : Bare i w) (hs : (v.coroutine i).IsStocked) : Wanes i w v := by
  obtain ⟨hv, hy⟩ := h hw.has
  exact ⟨⟨hv, hy.bare hw.handles, hs⟩, hy.parameters, hy.closure, hy.released, hy.finished⟩

/-- What keeps the law of the inputs does so where nobody holds the coroutine. -/
theorem clearing_of_stocking (hx : (stocking L i).Kept x) : (clearing L i).Kept x := fun w hw =>
  have step {v : World L} (hv : Stocks i w v) : v.Orderly ∧ Wanes i w v :=
    ⟨hv.orderly, hv.yielded.wanes hw.2 hv.stocked⟩
  (hx w ⟨hw.1, hw.2.stocked⟩).mono (fun _ _ => step) (fun _ => step) fun _ hv => hv.2.wanes hw.2 hv.1

theorem stocking_reported : (stocking L i).Reported where
  orderly h := h.1
  discreet hx _ := stocking_quiet hx
  exchange {w} hook h hk :=
    (Undisturbed.ambient w { w.ambient with hook } fun ho => ⟨ho.borrowed, hk⟩).stocks h.1 h.2

/-! ## Requests -/

namespace Stocking

variable {E : Engine L}

theorem releaseAll (hE : Stocking i E) (vs : List Value) : (stocking L i).Kept (E.releaseAll vs) :=
  .releaseAll hE.release vs

theorem owning (hE : Stocking i E) (vs : List Value) (hx : (stocking L i).Kept x) :
    (stocking L i).Kept (E.owning vs x) := hx.onPanic (hE.releaseAll vs)

theorem report (hE : Stocking i E) (object : String) (e : Exception) :
    (stocking L i).Kept (writeUnraisable E object e) :=
  stocking_reported.report hE.release (hE.run none) object e

theorem atom (hE : Stocking i E) {c : Option CoroutineId} (hc : c ≠ some i) {x : Procedure L α}
    (hx : RequestAtom c x) : (stocking L i).Kept (x E) := by
  cases hx with
  | quiet hx => exact stocking_quiet hx
  | release v => exact hE.release v
  | report object e => exact hE.report object e
  | own j hj hx => exact stocking_other (fun he => hc (by rw [hj, he])) hx.held
  | run k a t _ => exact hE.run k a t

/-- What does nothing to the record of the coroutine. -/
theorem plain (hE : Stocking i E) {x : Procedure L α} (hx : Request none x) : (stocking L i).Kept (x E) :=
  Composed.kept (fun hx => hE.atom (by simp) hx) hx

/-- What the holders of other coroutines do. -/
theorem holder (hE : Stocking i E) {c : CoroutineId} (hc : c ≠ i) {x : Procedure L α} (hx : Holder c x) :
    (stocking L i).Kept (x E) := by
  refine Composed.kept (fun hx => ?_) hx
  cases hx with
  | request hx => exact hE.atom (fun h => hc (Option.some.inj h)) hx
  | held hx => exact stocking_other hc hx
  | withdraw => exact stocking_harmless (untrackObject_mild _).harmless

theorem createFiber : (stocking L i).Kept (createFiber i) := by
  refine .bind (stocking_update fun _ => ⟨rfl, rfl, rfl, .rfl, .rfl⟩) fun supply => ?_
  split
  · exact .bind (stocking_modify fun _ => ⟨rfl, rfl, rfl, .rfl, .rfl⟩) fun _ => .pure _
  · refine .bind (stocking_still (Request.mapStack_still _)) fun failure => ?_
    cases failure with
    | some error => exact .pure _
    | none => exact .pure _

/-- The coroutine finishes: it gives up its parameters, and not its cells. -/
theorem finish (hE : Stocking i E) : (stocking L i).Kept (finish E i) := by
  refine .bind (stocking_spends fun _ => .finish rfl rfl rfl rfl rfl) fun _ => .bind (hE.releaseAll _) fun _ => ?_
  refine .bind (stocking_update fun _ => ⟨rfl, rfl, rfl, .rfl, .rfl⟩) fun _ => .bind (hE.releaseAll _) fun _ => ?_
  refine .bind (stocking_update fun _ => ⟨rfl, rfl, rfl, .rfl, .rfl⟩) fun _ => .bind (hE.releaseAll _) fun _ => ?_
  exact stocking_still (logCoroutine_still _ _ _ _)

theorem continueBody (hE : Stocking i E) (code : Code) (frame : Frame) (a : Activation L) (t : Transfer) :
    (stocking L i).Kept (continueBody E ⟨i, code, frame⟩ a t) :=
  .bind (stocking_note fun _ _ => ⟨rfl, rfl, rfl, .rfl, .rfl⟩) fun _ => .bind (hE.run _ a t) fun _ =>
    .bind (stocking_note fun _ _ => ⟨rfl, rfl, rfl, .rfl, .rfl⟩) fun _ => .pure _

theorem enterFiber (hE : Stocking i E) (code : Code) (frame : Frame) (f : Fiber L) (t : Transfer) :
    (stocking L i).Kept (enterFiber E ⟨i, code, frame⟩ f t) := by
  unfold CoroutineEngine.enterFiber
  cases f.stack with
  | released => exact .bind (hE.releaseAll _) fun _ => .pure _
  | completed => exact .bind (hE.releaseAll _) fun _ => .pure _
  | suspended a => exact .bind (hE.continueBody _ _ _ _) fun _ => .pure _
  | fresh =>
    dsimp only
    cases t.exception with
    | some p =>
      exact .bind (stocking_still (instantiate_still p)) fun _ => .bind (hE.owning _ (hE.release _)) fun _ => .pure _
    | none =>
      refine .bind (stocking_quiet (.gets _)) fun program => ?_
      cases program with
      | none => exact .bind (hE.release _) fun _ => .pure _
      | some program =>
        exact .bind (stocking_modify fun _ => ⟨rfl, rfl, rfl, .rfl, .rfl⟩) fun _ =>
          .bind (hE.continueBody _ _ _ _) fun _ => .pure _

theorem enterSwitch (frame : Frame) : (stocking L i).Kept (enterSwitch i frame) := by
  refine .bind (stocking_quiet (swapTop_quiet _)) fun _ => .bind (stocking_still (swapBack_still _ _)) fun _ => ?_
  refine .bind (stocking_update fun _ => ⟨rfl, rfl, rfl, .rfl, .rfl⟩) fun _ => ?_
  refine .bind (stocking_quiet fetchError_quiet) fun _ => .bind (stocking_quiet (swapHandled_quiet _)) fun _ => ?_
  refine .bind (stocking_modify fun _ => ⟨rfl, rfl, rfl, .rfl, .rfl⟩) fun _ => ?_
  exact .bind (stocking_still (logCoroutine_still _ _ _ _)) fun _ => .pure _

theorem restoreDriver (hE : Stocking i E) (frame : Frame) (driver : DriverState) :
    (stocking L i).Kept (restoreDriver E i frame driver) := by
  refine .bind (stocking_modify fun _ => ⟨rfl, rfl, rfl, .rfl, .rfl⟩) fun _ => ?_
  refine .bind (hE.owning _ (hE.plain Request.discardStray)) fun _ => ?_
  refine .bind (stocking_quiet (swapError_quiet _)) fun _ => .bind (hE.owning _ (hE.releaseAll _)) fun _ => ?_
  refine .bind (stocking_quiet (swapHandled_quiet _)) fun _ => ?_
  refine .bind (stocking_update fun _ => ⟨rfl, rfl, rfl, .rfl, .rfl⟩) fun _ => .bind (hE.releaseAll _) fun _ => ?_
  exact .bind (stocking_still (swapBack_still _ _)) fun _ => .bind (stocking_quiet (swapTop_quiet _)) fun _ => .pure _

theorem leaveSwitch (hE : Stocking i E) (frame : Frame) (driver : DriverState) (panicked : Bool) :
    (stocking L i).Kept (leaveSwitch E i frame driver panicked) := by
  refine .bind (hE.restoreDriver frame driver) fun _ => ?_
  cases panicked with
  | true => exact .bind (stocking_still (logCoroutine_still _ _ _ _)) fun _ => hE.finish
  | false => exact .pure _

theorem fiber (hE : Stocking i E) (f : Option (Fiber L)) :
    (stocking L i).Kept (f.elim (pure ()) (releaseFiber E)) := by
  cases f with
  | none => exact .pure ()
  | some f => exact hE.plain (Request.releaseFiber f)

theorem discardFiber (hE : Stocking i E) (f : Fiber L) : (stocking L i).Kept (discardFiber E i f) :=
  .bind (stocking_modify fun _ => ⟨rfl, rfl, rfl, .rfl, .rfl⟩) fun _ => hE.plain (Request.releaseFiber f)

theorem switchInto (hE : Stocking i E) (code : Code) (frame : Frame) (f : Fiber L) (t : Transfer) :
    (stocking L i).Kept (switchInto E i code frame f t) := by
  refine .bind (enterSwitch frame) fun driver => .bind (.onPanic ?_ ?_) fun _ => .bind (.onPanic ?_ ?_) fun _ => .pure _
  · exact .bind (hE.plain (Request.approachLoss f)) fun g => .bind (hE.enterFiber code frame g t) fun _ => .pure _
  · exact .bind (hE.leaveSwitch frame driver true) fun _ => hE.discardFiber _
  · exact hE.leaveSwitch frame driver false
  · exact .bind (hE.releaseAll _) fun _ => hE.discardFiber _

theorem resume (hE : Stocking i E) (t : Transfer) : (stocking L i).Kept (resume E i t) := by
  have lost : (stocking L i).Kept
      (do
        modifyCoroutine i CoroutineRecord.noteLoss
        refuse E .contextLost t.owned : Effect L Reply) :=
    .bind (stocking_modify fun _ => ⟨rfl, rfl, rfl, .rfl, .rfl⟩) fun _ => hE.plain (.refuse _ _)
  refine .bind (stocking_quiet (.gets _)) fun r => ?_
  cases r.frame with
  | none => exact lost
  | some frame =>
    cases r.fiber with
    | none => exact lost
    | some f =>
      refine .bind (stocking_modify fun _ => ⟨rfl, rfl, rfl, .rfl, .rfl⟩) fun _ => ?_
      refine .bind (hE.switchInto _ frame f t) fun p => ?_
      refine .bind (stocking_modify fun _ => ⟨rfl, rfl, rfl, .rfl, .rfl⟩) fun _ => ?_
      rcases p with ⟨error | ⟨x, b⟩ | result, g⟩
      · refine .bind (stocking_still (logCoroutine_still _ _ _ _)) fun _ => ?_
        refine .bind (stocking_modify fun _ => ⟨rfl, rfl, rfl, .rfl, .rfl⟩) fun _ => ?_
        exact .bind hE.finish fun _ => .bind (stocking_still (raise_still _)) fun _ => .pure _
      · exact .pure _
      · exact .bind (hE.owning _ hE.finish) fun _ => hE.plain (Request.surface _ _ _)

/-! ### Requests -/

theorem resumeWith (hE : Stocking i E) (v : Value) : (stocking L i).Kept (resumeWith E i v) := by
  refine .bind (stocking_update fun _ => ⟨rfl, rfl, rfl, .rfl, .rfl⟩) fun p => ?_
  cases p with
  | none => exact hE.resume _
  | some p => exact .bind (hE.owning _ (hE.release v)) fun _ => hE.resume _

/-- A coroutine that is not finished keeps its inputs when it is started. -/
theorem materialize (hw : (stocking L i).start w) (hs : (w.coroutine i).status ≠ .finished) :
    Meets (materialize i) w ((stocking L i).post w) := by
  have hframe := (stocking_still (makeFrame_still (w.coroutine i).code) w hw).and
    (steady_still (i := i) (makeFrame_still _) w trivial)
  refine .then_gets (.bind (hframe.mono (fun frame v hv => ?_) (fun _ h => h.1) fun _ h => h.1))
  have hfiber := (createFiber v ((stocking L i).next hv.1)).and (steady_createFiber v trivial)
  refine Law.post_of_step hv.1 (.bind (hfiber.mono (fun result u hu => ?_) (fun _ h => h.1) fun _ h => h.1))
  refine Law.post_of_step hu.1 ?_
  have logged {level message fields} {failure : Option FiberError} : (stocking L i).Kept (do
      logCoroutine level message i fields
      return failure : Effect L (Option FiberError)) :=
    .bind (stocking_still (logCoroutine_still _ _ _ _)) fun _ => stocking_quiet (.pure _)
  cases result with
  | error e => exact logged u ((stocking L i).next hu.1)
  | ok f =>
    -- the status was not touched so far, so that the coroutine is not finished
    have hus : (u.coroutine i).status ≠ .finished := by
      rw [hu.2.2, hv.2.2]
      exact hs
    refine .then_eq rfl (logged.after (stocks_modified hu.1.orderly hu.1.stocked ?_))
    exact CoroutineRecord.Retains.spends ⟨rfl, rfl, rfl, ⟨nofun, fun h => absurd h hus⟩, .rfl⟩

theorem send (hE : Stocking i E) (v : Value) : (stocking L i).Kept (send E i v) := by
  intro w hw
  refine .then_gets ?_
  split
  · exact hE.plain (.refuse _ _) w hw
  · split
    · refine Law.Kept.bind (stocking_still (makeStopIteration_still _)) (fun e => ?_) w hw
      exact .bind (hE.owning _ (hE.release v)) fun _ => .pure _
    · rename_i hfin
      split
      · exact hE.plain (.refuse _ _) w hw
      · have hvisit : Stocks i w (w.modifyCoroutine i CoroutineRecord.noteVisit) :=
          stocks_modified hw.1 hw.2 (CoroutineRecord.Retains.spends ⟨rfl, rfl, rfl, .rfl, .rfl⟩)
        have hstatus : ((w.modifyCoroutine i CoroutineRecord.noteVisit).coroutine i).status ≠ .finished := by
          rw [modified_same (g := (·.status)) rfl]
          exact hfin
        refine .then_eq rfl (Law.post_of_step hvisit (.bind ?_))
        have hstart : Meets (if (w.coroutine i).status = .unused then CoroutineEngine.materialize i else pure none)
            (w.modifyCoroutine i CoroutineRecord.noteVisit)
            ((stocking L i).post (w.modifyCoroutine i CoroutineRecord.noteVisit)) := by
          split
          · exact materialize ((stocking L i).next hvisit) hstatus
          · exact .pure ((stocking L i).refl ((stocking L i).next hvisit))
        refine hstart.mono (fun failure u hu => ?_) (fun _ h => h) fun _ h => h
        cases failure with
        | some error => exact (hE.plain (.refuse _ _)).after hu
        | none => exact (hE.resumeWith v).after hu

theorem throwPending (hE : Stocking i E) (p : PendingException) :
    (stocking L i).Kept (throwPending E i p) := by
  have primed (p : Option PendingException) :
      (stocking L i).Kept (updateCoroutine i fun r : CoroutineRecord L => (r.pending, { r with pending := p })) :=
    stocking_update fun _ => ⟨rfl, rfl, rfl, .rfl, .rfl⟩
  refine .bind (stocking_quiet (.gets _)) fun r => ?_
  split
  · exact hE.plain (.refuse _ _)
  · split
    · exact .bind (stocking_still (instantiate_still p)) fun _ => .pure _
    · exact .bind (primed _) fun _ => .bind (hE.releaseAll _) fun _ => .bind (hE.send _) fun _ =>
        .bind (primed _) fun _ => .bind (hE.owning _ (hE.releaseAll _)) fun _ => .pure _

theorem close (hE : Stocking i E) : (stocking L i).Kept (close E i) := by
  refine .bind (stocking_quiet (.gets _)) fun r => ?_
  split
  · exact .pure _
  · refine .bind (hE.throwPending _) fun reply => ?_
    cases reply with
    | ok v => exact hE.plain (.refuse _ _)
    | error e =>
      dsimp only
      split
      · exact .bind (hE.release _) fun _ => .pure _
      · exact .pure _

theorem closeUnraisable (hE : Stocking i E) : (stocking L i).Kept (closeUnraisable E i) := by
  refine .bind (stocking_modify fun _ => ⟨rfl, rfl, rfl, .rfl, .rfl⟩) fun _ =>
    .bind (stocking_quiet fetchError_quiet) fun saved => .bind (hE.owning _ (.bind hE.close fun reply => ?_))
      fun _ => .bind (stocking_quiet (swapError_quiet _)) fun _ => hE.releaseAll _
  cases reply with
  | ok v => exact hE.release v
  | error e => exact .bind (stocking_quiet (.gets _)) fun _ => hE.report _ e

theorem finalize (hE : Stocking i E) : (stocking L i).Kept (finalize E i) := by
  refine .bind (stocking_quiet (.gets _)) fun r => ?_
  split
  · refine .bind (stocking_still (logCoroutine_still _ _ _ _)) fun _ =>
      .bind (stocking_modify fun _ => ⟨rfl, rfl, rfl, .rfl, .rfl⟩) fun _ => .bind hE.closeUnraisable fun _ =>
        .bind (stocking_quiet (.gets _)) fun r => ?_
    split
    · exact stocking_still (logCoroutine_still _ _ _ _)
    · exact .pure _
  · exact .pure _

/-! ## Teardown -/

/-- The parameters of a coroutine that nobody holds are given up. -/
theorem wanes_unloaded (hw : Bare i w) :
    Wanes i w (w.modifyCoroutine i fun _ => (w.coroutine i).unloaded) ∧
      ((w.modifyCoroutine i fun _ => (w.coroutine i).unloaded).coroutine i).released = true := by
  obtain ⟨hi, hr⟩ := modified_of_has hw.has fun _ => (w.coroutine i).unloaded
  refine ⟨⟨⟨hi, ?_, ?_⟩, ?_, ?_, ?_, ?_⟩, ?_⟩ <;> rw [hr]
  · exact hw.handles
  · exact .given_up (.inl rfl) rfl hw.handles hw.stocked
  · rfl
  · rfl
  · exact fun _ => rfl
  · exact id
  · rfl

/-- So are its cells, when its parameters are. -/
theorem wanes_emptied {f : CoroutineRecord L → CoroutineRecord L} (hw : Bare i w)
    (hf : (f (w.coroutine i)).inputs = ⟨[], [], true⟩)
    (hh : (f (w.coroutine i)).history.parameters = (w.coroutine i).history.parameters ∧
      (f (w.coroutine i)).history.closure = (w.coroutine i).history.closure)
    (hs : (f (w.coroutine i)).status = (w.coroutine i).status)
    (hn : (f (w.coroutine i)).handles = (w.coroutine i).handles) : Wanes i w (w.modifyCoroutine i f) := by
  obtain ⟨hi, hr⟩ := modified_of_has hw.has f
  refine ⟨⟨hi, ?_, ?_⟩, ?_, ?_, ?_, ?_⟩ <;> rw [hr]
  · exact hn.trans hw.handles
  · exact .given_up (.inr hf) hh.2 (hn.trans hw.handles) hw.stocked
  · exact hh.1
  · exact hh.2
  · exact fun _ => congrArg Inputs.parametersReleased hf
  · exact hs.trans

/-- What is given up at the end of a coroutine. -/
theorem relinquish (hE : Stocking i E) : (clearing L i).Kept (relinquish E i) := by
  intro w hw
  obtain ⟨hloss, hreleased⟩ := wanes_unloaded hw.2
  have hstep : (clearing L i).step w (w.modifyCoroutine i fun _ => (w.coroutine i).unloaded) :=
    ⟨⟨hw.1.borrowed, hw.1.hook⟩, hloss⟩
  refine .then_eq rfl (Law.post_of_step hstep (.then_kept (clearing_of_stocking (hE.releaseAll _))
    ((clearing L i).next hstep) (fun _ v hv => Law.post_of_step hv ?_) (fun _ h => h) fun _ h => h))
  -- the parameters are gone, so that nothing is left with the cells
  have hempty : (v.coroutine i).inputs.releaseClosure.2 = ⟨[], [], true⟩ := by
    have hr := hv.2.released hreleased
    have hp := hv.2.stocked.spent hr
    unfold Inputs.releaseClosure
    rw [← hp]
    exact congrArg (Inputs.mk _ _) hr
  have hstep : (clearing L i).step v (v.modifyCoroutine i fun _ => (v.coroutine i).uncelled) :=
    ⟨⟨hv.1.borrowed, hv.1.hook⟩, wanes_emptied hv.2.toBare hempty ⟨rfl, rfl⟩ rfl rfl⟩
  refine .then_eq rfl (Law.Kept.after ?_ hstep)
  refine clearing_of_stocking (.bind (hE.releaseAll _) fun _ => .bind (stocking_update fun _ => ⟨rfl, rfl, rfl, .rfl, .rfl⟩)
    fun f => .bind (hE.fiber f) fun _ => .bind (stocking_harmless (untrackObject_mild _).harmless) fun _ =>
      stocking_still (logCoroutine_still _ _ _ _))

/-- Nothing is left of the inputs in the end. -/
theorem releaseRemains (hE : Stocking i E) (hw : (clearing L i).start w) :
    Meets (releaseRemains E i) w
      ⟨fun _ v => v.Orderly ∧ Wanes i w v ∧ (v.coroutine i).inputs = ⟨[], [], true⟩,
        fun v => v.Orderly ∧ Wanes i w v ∧ (v.coroutine i).inputs = ⟨[], [], true⟩, Wanes i w⟩ := by
  have hempty := wanes_emptied (f := fun _ => (w.coroutine i).remains) hw.2 rfl ⟨rfl, rfl⟩ rfl rfl
  obtain ⟨-, hr⟩ := modified_of_has hw.2.has fun _ => (w.coroutine i).remains
  have rest : (stocking L i).Kept (Effect.andFinally ((w.coroutine i).fiber.elim (pure ()) (releaseFiber E))
      (E.releaseAll (((w.coroutine i).pending.map (·.owned)).getD [] ++ (w.coroutine i).awaiting.toList ++
        (w.coroutine i).handled.toList.map .exception ++ (w.coroutine i).inputs.parameters ++
        (w.coroutine i).inputs.closure.map .cell))) :=
    .andFinally (hE.fiber _) (hE.releaseAll _)
  have ended {u : World L} (hu : Stocks i (w.modifyCoroutine i fun _ => (w.coroutine i).remains) u) :
      u.Orderly ∧ Wanes i w u ∧ (u.coroutine i).inputs = ⟨[], [], true⟩ := by
    have hlater := hu.yielded.wanes hempty.toBare hu.stocked
    refine ⟨hu.orderly, hempty.trans hlater, hu.cleared (fun _ _ => ?_) hlater.has hlater.handles⟩
    rw [hr]
    rfl
  have hstart : (stocking L i).start (w.modifyCoroutine i fun _ => (w.coroutine i).remains) :=
    ⟨⟨hw.1.borrowed, hw.1.hook⟩, hempty.stocked⟩
  refine .then_eq rfl ((rest _ hstart).mono (fun _ _ hu => ended hu) (fun _ hu => ended hu) fun u hu => ?_)
  exact hempty.trans (hu.2.wanes hempty.toBare hu.1)

theorem teardown (hE : Stocking i E) (hw : (clearing L i).start w) :
    Meets (teardown E i) w
      ⟨fun _ v => v.Orderly ∧ Wanes i w v ∧ (v.coroutine i).inputs = ⟨[], [], true⟩,
        fun v => v.Orderly ∧ Wanes i w v ∧ (v.coroutine i).inputs = ⟨[], [], true⟩, Wanes i w⟩ := by
  have hnoted : (clearing L i).step w (w.modifyCoroutine i CoroutineRecord.noteTeardown) :=
    ((clearing_of_stocking (stocking_modify (f := CoroutineRecord.noteTeardown) fun _ => ⟨rfl, rfl, rfl, .rfl, .rfl⟩))
      w hw).holds
  have farewell : (clearing L i).Kept (do
      let saved ← fetchError
      E.owning ((saved.map (·.owned)).getD []) do
        if (← recordOf i).isSuspended then
          modifyCoroutine i CoroutineRecord.noteFarewell
          CoroutineEngine.closeUnraisable E i
        CoroutineEngine.relinquish E i
      E.releasePending? (← swapError saved)) := by
    refine .bind (clearing_of_stocking (stocking_quiet fetchError_quiet)) fun saved =>
      .bind (.onPanic (.bind (clearing_of_stocking (stocking_quiet (.gets _))) fun r => ?_)
        (clearing_of_stocking (hE.releaseAll _))) fun _ =>
          clearing_of_stocking (.bind (stocking_quiet (swapError_quiet _)) fun _ => hE.releaseAll _)
    split
    · exact .bind (clearing_of_stocking (stocking_modify fun _ => ⟨rfl, rfl, rfl, .rfl, .rfl⟩)) fun _ =>
        .bind (clearing_of_stocking hE.closeUnraisable) fun _ => hE.relinquish
    · exact hE.relinquish
  refine .then_eq rfl (.andFinally ((farewell.after hnoted).mono (fun _ u hu => ?_) (fun u hu => ?_) fun _ h => h))
  · refine (hE.releaseRemains ((clearing L i).next hu)).mono (fun _ _ h => ?_) (fun _ h => ?_) fun _ h => hu.2.trans h
    · exact ⟨h.1, hu.2.trans h.2.1, h.2.2⟩
    · exact ⟨h.1, hu.2.trans h.2.1, h.2.2⟩
  · refine (hE.releaseRemains ((clearing L i).next hu)).mono (fun _ _ h => ?_) (fun _ h => hu.2.trans h.2.1)
      fun _ h => hu.2.trans h
    exact ⟨h.1, hu.2.trans h.2.1, h.2.2⟩

/-- The last handle is given up. -/
theorem clearing_abandoned (hw : (stocking L i).start w) (hone : (w.coroutine i).handles = 1) :
    (clearing L i).start (w.modifyCoroutine i fun _ => (w.coroutine i).abandoned) := by
  have hgone : (w.coroutine i).abandoned.handles = 0 := congrArg (· - 1) hone
  obtain ⟨hi, hr⟩ := modified_of_has (World.has_of_handles (hone ▸ Nat.one_pos)) fun _ => (w.coroutine i).abandoned
  refine ⟨⟨hw.1.borrowed, hw.1.hook⟩, hi, ?_, ?_⟩ <;> rw [hr]
  · exact hgone
  · exact ⟨hw.2.whole, hw.2.spent, hw.2.finished, hw.2.cells.imp_right fun h => ⟨hgone, h.2⟩⟩

/-- The last handle is given up, and with it all that is left of the inputs. -/
theorem dropHandle (hE : Stocking i E) : (stocking L i).Kept (dropHandle E i) := by
  intro w hw
  refine .then_eq rfl ?_
  split
  · rename_i hone
    have hstart := clearing_abandoned hw hone
    obtain ⟨-, hr⟩ := modified_of_has (World.has_of_handles (hone ▸ Nat.one_pos)) fun _ => (w.coroutine i).abandoned
    -- the last handle is gone between the two worlds, whatever the teardown does
    have yielded {u : World L} (hu : Wanes i (w.modifyCoroutine i fun _ => (w.coroutine i).abandoned) u) :
        Yielded i w u := fun _ => by
      have hgone : (w.coroutine i).IsForsaken (u.coroutine i) := ⟨hone ▸ Nat.one_ne_zero, hu.handles⟩
      have hp := hu.parameters
      have hc := hu.closure
      have hrel := hu.released
      have hf := hu.finished
      rw [hr] at hp hc hrel hf
      exact ⟨hu.has, hp, hc, hrel, hf, fun _ _ => .inr hgone, .inr hgone, fun _ => hu.handles⟩
    have ended {u : World L} (hu : u.Orderly ∧ Wanes i (w.modifyCoroutine i fun _ => (w.coroutine i).abandoned) u ∧
        (u.coroutine i).inputs = ⟨[], [], true⟩) : Stocks i w u :=
      ⟨hu.1, hu.2.1.stocked, yielded hu.2.1, fun _ _ _ => hu.2.2⟩
    refine Law.post_onPanic ((hE.teardown hstart).mono (fun _ _ hu => ended hu) (fun _ hu => ended hu)
      fun u hu => ⟨hu.stocked, yielded hu⟩) ?_
    exact stocking_modify fun _ => ⟨rfl, rfl, rfl, .rfl, .rfl⟩
  · rename_i hmany
    refine .pure (stocks_modified (f := fun _ => (w.coroutine i).abandoned) hw.1 hw.2
      (CoroutineRecord.Retains.spends ⟨rfl, rfl, rfl, .rfl, ?_⟩))
    show (w.coroutine i).handles - 1 = 0 ↔ (w.coroutine i).handles = 0
    omega

/-! ## Clients and engines -/

/-- What is done with any coroutine keeps the law if it does so on the one that the law is about. -/
theorem anyone (hE : Stocking i E) {x : CoroutineId → Procedure L α} (hx : ∀ c, Holder c (x c))
    (hi : (stocking L i).Kept (x i E)) (c : CoroutineId) : (stocking L i).Kept (x c E) := by
  by_cases hc : c = i
  · subst hc
    exact hi
  · exact hE.holder hc (hx c)

theorem releaseCoroutine (hE : Stocking i E) (c : CoroutineId) : (stocking L i).Kept (releaseCoroutine E c) :=
  hE.anyone (x := fun c E => CoroutineEngine.releaseCoroutine E c) (fun _ => Holder.releaseCoroutine)
    (.andFinally hE.finalize hE.dropHandle) c

theorem client (hE : Stocking i E) {k : Option CoroutineId} {x : Procedure L α} (hx : Client k x) :
    (stocking L i).Kept (x E) := by
  refine Composed.kept (fun hx => ?_) hx
  cases hx with
  | quiet hx => exact stocking_quiet hx
  | release v => exact hE.release v
  | send c v =>
    exact hE.anyone (x := fun c E => CoroutineEngine.send E c v) (fun _ => (Request.send v).holder) (hE.send v) c
  | throwPending c p =>
    exact hE.anyone (x := fun c E => CoroutineEngine.throwPending E c p)
      (fun _ => (Request.throwPending p).holder) (hE.throwPending p) c
  | close c =>
    exact hE.anyone (x := fun c E => CoroutineEngine.close E c) (fun _ => Request.close.holder) hE.close c
  | report object e => exact hE.report object e
  | await c v _ =>
    by_cases hc : c = i
    · subst hc
      exact stocking_update fun _ => ⟨rfl, rfl, rfl, .rfl, .rfl⟩
    · exact stocking_other hc (updateCoroutine_held c fun _ => Nat.le_refl _)

theorem releaseHandle (hE : Stocking i E) (v : Value) : (stocking L i).Kept (releaseHandle E v) := by
  refine Composed.kept (fun hx => ?_) (Release.releaseHandle v)
  cases hx with
  | discreet hx => exact stocking_quiet hx.quiet
  | release v => exact hE.release v
  | coroutine c => exact hE.releaseCoroutine c

theorem under (hE : Stocking i E) (W : Watch) (n : Nat) : Stocking i ((E.next n).under W) where
  release v := (hE.releaseHandle v).under_release fun h => ⟨h.stocked, h.yielded⟩
  run _ a t := (hE.client (Client.runBody n a t)).under_run fun h => ⟨h.stocked, h.yielded⟩

theorem halted : Stocking i (.halted : Engine L) := by
  have cut {w : World L} (hw : (stocking L i).start w) : (stocking L i).cut w w := ⟨hw.2, .refl i w⟩
  refine ⟨fun v w hw => ?_, fun _ _ _ w hw => ⟨cut hw⟩⟩
  show Meets (if v.isNone then pure () else .stop) w _
  split
  · exact .pure ((stocking L i).refl hw)
  · exact ⟨cut hw⟩

end Stocking

/-- At every depth of nesting, the engine keeps the inputs of a coroutine until they are to be given up. -/
theorem stocking_watched (W : Watch) (i : CoroutineId) (n : Nat) : Stocking i (.watched L W n) := by
  induction n with
  | zero => exact .halted
  | succ n ih => exact ih.under W n

end CoroutineEngine
