import CoroutineEngine.Proofs.Accord
import CoroutineEngine.Proofs.Tenure

/-!
# What a coroutine awaits

The record of a coroutine shows what its body awaits: the operand of its delegation, and nothing else. While
the fiber is in its place, that can be read off the fiber. While the fiber is out of its place, what is shown
is changed by the body alone, and by nobody who asks something of the coroutine.

Results:
* `Found.passes`: what leaves the record alone changes nothing about that, wherever the coroutine is.
* `Concord.request`, `Concord.holder`: on two engines that do the same as long as this holds, requests on
  other coroutines do the same, and keep it.
-/

namespace CoroutineEngine

variable {L : Language} {α β : Type}

/-! ## Definitions -/

/-- What a body that waits awaits. -/
def Waiting.awaited : Waiting → Option Value
  | .delegate d => some d.operand
  | .start | .delivery _ => none

/-- What the body on a stack awaits, as long as it can go on. -/
def Stack.awaited? : Stack L → Option (Option Value)
  | .fresh => some none
  | .suspended a => some a.waiting.awaited
  | .completed | .released => none

/-- What a body awaits that has suspended or is over. -/
def Exit.awaited : Exit L → Option Value
  | .suspended _ a => a.waiting.awaited
  | .completed _ => none

namespace CoroutineRecord

/-- A coroutine that is unused has no fiber yet, and one that is finished has no frame any more. As long as
the coroutine has a handle, what it awaits can be told from the fiber in its place. -/
structure IsCandid (r : CoroutineRecord L) : Prop where
  unused : r.status = .unused → r.fiber = none
  finished : r.status = .finished → r.frame = none
  idle : r.handles ≠ 0 → r.status = .unused → r.awaiting = none
  waiting : r.handles ≠ 0 → r.status = .running →
    ∀ f, r.fiber = some f → ∀ v, f.stack.awaited? = some v → r.awaiting = v

/-- A finished coroutine awaits nothing, and the fiber of a started one is in its place. -/
structure IsSettledDown (r : CoroutineRecord L) : Prop where
  finished : r.status = .finished → r.awaiting = none
  started : r.status = .running → r.fiber ≠ none

/-- The fiber is out of its place, and the coroutine shows what is awaited. -/
structure IsAbroad (r : CoroutineRecord L) (awaited : Option Value) : Prop where
  status : r.status = .running
  fiber : r.fiber = none
  shown : r.handles ≠ 0 → r.awaiting = awaited

/-- The coroutine is finished. -/
structure IsConcluded (r : CoroutineRecord L) (settled : Prop) : Prop where
  status : r.status = .finished
  awaiting : settled → r.handles ≠ 0 → r.awaiting = none

/-- A record that is the same as far as it tells what is awaited. -/
structure Steady (r r' : CoroutineRecord L) : Prop where
  status : r'.status = r.status
  fiber : r'.fiber = r.fiber
  frame : r'.frame = r.frame
  awaiting : r'.awaiting = r.awaiting
  bare : r.handles = 0 → r'.handles = 0

end CoroutineRecord

/-- Where a coroutine is: at rest, out with a body that awaits something or nothing, or at its end. -/
inductive Phase
  | resting
  | away (awaited : Option Value)
  | concluded (settled : Prop)

/-- What holds of the record of a coroutine where it is; in strict runs, more is known of one at rest. -/
def Phase.Fits (strict : Prop) : Phase → CoroutineRecord L → Prop
  | .resting, r => strict → r.handles ≠ 0 → r.IsSettledDown
  | .away v, r => r.IsAbroad v
  | .concluded c, r => r.IsConcluded c

/-- The coroutine is found where it should be, and shows what it awaits. -/
structure Found (strict : Prop) (i : CoroutineId) (m : Phase) (w : World L) : Prop where
  orderly : w.Orderly
  candid : (w.coroutine i).IsCandid
  fits : m.Fits strict (w.coroutine i)

/-- A coroutine that has been built is not lost, and without handles it stays. -/
def Outlasts (i : CoroutineId) (w v : World L) : Prop :=
  w.Has i → v.Has i ∧ ((w.coroutine i).handles = 0 → (v.coroutine i).handles = 0)

/-- What may become of a world while nobody does anything to a coroutine. -/
structure Passes (i : CoroutineId) (w v : World L) : Prop where
  orderly : w.Orderly → v.Orderly
  old : w.Has i → v.Has i ∧ (w.coroutine i).Steady (v.coroutine i)
  new : ¬ w.Has i → (v.coroutine i).Newborn

/-- The law of a coroutine of which something holds; `may` says when computations may panic. -/
def about (L : Language) (may : Prop) (i : CoroutineId) (P : World L → Prop)
    (hP : ∀ w, P w → w.Orderly ∧ (w.coroutine i).IsCandid) : Law L where
  start := P
  step w v := P v ∧ Outlasts i w v
  panic w v := may ∧ P v ∧ Outlasts i w v
  cut w v := (v.coroutine i).IsCandid ∧ Outlasts i w v
  refl h := ⟨h, fun hi => ⟨hi, id⟩⟩
  next h := h.1
  trans h h' := ⟨h'.1, fun hi => ⟨(h'.2 (h.2 hi).1).1, (h'.2 (h.2 hi).1).2 ∘ (h.2 hi).2⟩⟩
  step_panic h h' :=
    ⟨h'.1, h'.2.1, fun hi => ⟨(h'.2.2 (h.2 hi).1).1, (h'.2.2 (h.2 hi).1).2 ∘ (h.2 hi).2⟩⟩
  step_cut h h' := ⟨h'.1, fun hi => ⟨(h'.2 (h.2 hi).1).1, (h'.2 (h.2 hi).1).2 ∘ (h.2 hi).2⟩⟩
  panic_next h := h.2.1
  panic_step h h' :=
    ⟨h.1, h'.1, fun hi => ⟨(h'.2 (h.2.2 hi).1).1, (h'.2 (h.2.2 hi).1).2 ∘ (h.2.2 hi).2⟩⟩
  panic_cut h h' := ⟨h'.1, fun hi => ⟨(h'.2 (h.2.2 hi).1).1, (h'.2 (h.2.2 hi).1).2 ∘ (h.2.2 hi).2⟩⟩
  cut_of_panic h := ⟨(hP _ h.2.1).2, h.2.2⟩

/-- The law of what a coroutine shows that it awaits, where it is. -/
def showing (L : Language) (may strict : Prop) (i : CoroutineId) (m : Phase) : Law L :=
  about L may i (Found strict i m) fun _ h => ⟨h.orderly, h.candid⟩

/-- The same of a coroutine that has no handle any more. -/
def bereft (L : Language) (strict : Prop) (i : CoroutineId) (m : Phase) : Law L :=
  about L True i (fun w => Found strict i m w ∧ w.Has i ∧ (w.coroutine i).handles = 0)
    fun _ h => ⟨h.1.orderly, h.1.candid⟩

/-- Two engines do the same, for others than the body of a coroutine, as long as the coroutine shows what it
awaits. In strict runs, releases do not panic. -/
structure Concord (strict : Prop) (i : CoroutineId) (m : Phase) (E E' : Engine L) : Prop where
  release : ∀ v, (showing L (¬ strict) strict i m).Accord (E.release v) (E'.release v)
  run : ∀ k a t, isBodyOf (some i) k = false →
    (showing L True strict i m).Accord (E.run k a t) (E'.run k a t)

/-- What is found after a result and after a panic of a computation that starts in a world `w`. -/
def Returns (i : CoroutineId) (w : World L) (ok : α → World L → Prop) (panic : World L → Prop) :
    Post L α where
  ok a v := ok a v ∧ Outlasts i w v
  panic v := panic v ∧ Outlasts i w v
  stop v := (v.coroutine i).IsCandid ∧ Outlasts i w v

/-- The body of a coroutine was let go on in a world `w`, and what it awaits is shown when it is left. -/
def Leaves (strict : Prop) (i : CoroutineId) (w : World L) : Post L (Exit L) :=
  Returns i w (fun exit => Found strict i (.away exit.awaited)) fun v => ∃ awaited, Found strict i (.away awaited) v

/-- Two engines do the same wherever a coroutine is, and for its body, which is let go on while the coroutine
shows what the body awaits, and is left while it shows what the body then awaits. -/
structure Unison (strict : Prop) (i : CoroutineId) (E E' : Engine L) : Prop where
  concord : ∀ m, Concord strict i m E E'
  body : ∀ (k : Context) a t w, k.coroutine = i → Found strict i (.away a.waiting.awaited) w →
    Accords (E.run (some k) a t) (E'.run (some k) a t) w (Leaves strict i w)

/-! ## Helpers -/

variable {s : Prop} {i : CoroutineId} {m : Phase} {r r' : CoroutineRecord L} {w v u : World L}

/-! ### Records -/

namespace CoroutineRecord

theorem Steady.refl (r : CoroutineRecord L) : r.Steady r := ⟨rfl, rfl, rfl, rfl, id⟩

theorem IsCandid.steady (h : r.IsCandid) (hr : r.Steady r') : r'.IsCandid where
  unused := by
    rw [hr.status, hr.fiber]
    exact h.unused
  finished := by
    rw [hr.status, hr.frame]
    exact h.finished
  idle hh := by
    rw [hr.status, hr.awaiting]
    exact h.idle (hh ∘ hr.bare)
  waiting hh := by
    rw [hr.status, hr.fiber, hr.awaiting]
    exact h.waiting (hh ∘ hr.bare)

theorem IsCandid.of_finished (hs : r.status = .finished) (hf : r.frame = none) : r.IsCandid where
  unused h := absurd (hs.symm.trans h) (by decide)
  finished _ := hf
  idle _ h := absurd (hs.symm.trans h) (by decide)
  waiting _ h := absurd (hs.symm.trans h) (by decide)

theorem IsCandid.of_running (hs : r.status = .running)
    (hw : r.handles ≠ 0 → ∀ f, r.fiber = some f → ∀ v, f.stack.awaited? = some v → r.awaiting = v) :
    r.IsCandid where
  unused h := absurd (hs.symm.trans h) (by decide)
  finished h := absurd (hs.symm.trans h) (by decide)
  idle _ h := absurd (hs.symm.trans h) (by decide)
  waiting hh _ := hw hh

theorem Newborn.candid (h : r.Newborn) : r.IsCandid where
  unused _ := h.fiber
  finished _ := h.frame
  idle _ _ := h.awaiting
  waiting _ hs := absurd (h.status.symm.trans hs) (by decide)

end CoroutineRecord

theorem Phase.Fits.steady (h : m.Fits s r) (hr : r.Steady r') : m.Fits s r' := by
  cases m with
  | resting =>
    intro hs hh
    have hd := h hs (hh ∘ hr.bare)
    refine ⟨?_, ?_⟩
    · rw [hr.status, hr.awaiting]
      exact hd.finished
    · rw [hr.status, hr.fiber]
      exact hd.started
  | away v => exact ⟨hr.status.trans h.status, hr.fiber.trans h.fiber, fun hh => hr.awaiting.trans (h.shown (hh ∘ hr.bare))⟩
  | concluded c => exact ⟨hr.status.trans h.status, fun hc hh => hr.awaiting.trans (h.awaiting hc (hh ∘ hr.bare))⟩

/-- A coroutine that is built now fits where one fits that is not built yet. -/
theorem Phase.Fits.newborn (h : m.Fits s (default : CoroutineRecord L)) (hr : r.Newborn) :
    m.Fits s r := by
  cases m with
  | resting =>
    intro _ _
    exact ⟨fun hs => absurd (hr.status.symm.trans hs) (by decide),
      fun hs => absurd (hr.status.symm.trans hs) (by decide)⟩
  | away v => exact absurd (show Status.unused = .running from h.status) (by decide)
  | concluded c => exact absurd (show Status.unused = .finished from h.status) (by decide)

/-! ### Worlds -/

theorem Outlasts.refl (i : CoroutineId) (w : World L) : Outlasts i w w := fun hi => ⟨hi, id⟩

theorem Outlasts.trans (h : Outlasts i w v) (h' : Outlasts i v u) : Outlasts i w u := fun hi =>
  ⟨(h' (h hi).1).1, (h' (h hi).1).2 ∘ (h hi).2⟩

namespace Passes

theorem outlasts (h : Passes i w v) : Outlasts i w v := fun hi => ⟨(h.old hi).1, (h.old hi).2.bare⟩

theorem unused (h : Passes i w v) (hu : (w.coroutine i).status = .unused) :
    (v.coroutine i).status = .unused := by
  by_cases hi : w.Has i
  · exact (h.old hi).2.status.trans hu
  · exact (h.new hi).status

theorem of_undisturbed (h : Undisturbed w v) : Passes i w v where
  orderly := h.orderly
  old hi := by
    refine ⟨Nat.lt_of_lt_of_le hi h.count, ?_⟩
    have hr := h.old i hi
    refine ⟨?_, ?_, ?_, ?_, hr.dead⟩ <;> rw [hr.same]
  new hi := by
    by_cases hv : v.Has i
    · exact (h.new i (Nat.le_of_not_lt hi) hv).1
    · rw [World.coroutine_eq_default (Nat.le_of_not_lt hv)]
      exact CoroutineRecord.newborn_default

/-- A change of the record that makes no difference to what is told of it. -/
theorem modified {f : CoroutineRecord L → CoroutineRecord L}
    (hf : (w.coroutine i).Steady (f (w.coroutine i))) : Passes i w (w.modifyCoroutine i f) where
  orderly ho := ⟨ho.borrowed, ho.hook⟩
  old hi := by
    obtain ⟨hhas, hr⟩ := modified_of_has hi f
    rw [hr]
    exact ⟨hhas, hf⟩
  new hi := by
    rw [modifyCoroutine_absent hi, World.coroutine_eq_default (Nat.le_of_not_lt hi)]
    exact CoroutineRecord.newborn_default

theorem other {j : CoroutineId} (hj : j ≠ i) (f : CoroutineRecord L → CoroutineRecord L) :
    Passes i w (w.modifyCoroutine j f) := by
  obtain ⟨hn, hr⟩ := modified_other w hj f
  refine ⟨fun ho => ⟨ho.borrowed, ho.hook⟩, fun hi => ⟨hn.mpr hi, ?_⟩, fun hi => ?_⟩
  · rw [hr]
    exact .refl _
  · rw [hr, World.coroutine_eq_default (Nat.le_of_not_lt hi)]
    exact CoroutineRecord.newborn_default

end Passes

/-- Wherever a coroutine is, it is still there after what leaves it alone. -/
theorem Found.passes (h : Found s i m w) (hv : Passes i w v) : Found s i m v := by
  refine ⟨hv.orderly h.orderly, ?_, ?_⟩
  · by_cases hi : w.Has i
    · exact h.candid.steady (hv.old hi).2
    · exact (hv.new hi).candid
  · by_cases hi : w.Has i
    · exact h.fits.steady (hv.old hi).2
    · have hd := h.fits
      rw [World.coroutine_eq_default (Nat.le_of_not_lt hi)] at hd
      exact hd.newborn (hv.new hi)

/-- After a change of the record, the coroutine is where the changed record fits. -/
theorem Found.modified {m' : Phase} {f : CoroutineRecord L → CoroutineRecord L} (h : Found s i m w)
    (hi : w.Has i) (hc : (f (w.coroutine i)).IsCandid) (hf : m'.Fits s (f (w.coroutine i)))
    (hh : (w.coroutine i).handles = 0 → (f (w.coroutine i)).handles = 0) :
    Found s i m' (w.modifyCoroutine i f) ∧ Outlasts i w (w.modifyCoroutine i f) := by
  obtain ⟨hhas, hr⟩ := modified_of_has hi f
  refine ⟨⟨⟨h.orderly.borrowed, h.orderly.hook⟩, ?_, ?_⟩, fun _ => ⟨hhas, ?_⟩⟩ <;> rw [hr]
  · exact hc
  · exact hf
  · exact hh

theorem World.has_of_started (h : (w.coroutine i).status ≠ .unused) : w.Has i := by
  refine Classical.byContradiction fun hi => h ?_
  rw [World.coroutine_eq_default (Nat.le_of_not_lt hi)]
  rfl

theorem Found.has {e : Option Value} (h : Found s i (.away e) w) : w.Has i :=
  World.has_of_started (by rw [h.fits.status]; decide)

/-- A coroutine that is over is at rest, unless it may still await something. -/
theorem Found.ended {c : Prop} (h : Found s i (.concluded c) w) (hc : s → c) : Found s i .resting w :=
  ⟨h.orderly, h.candid, fun hs hh => ⟨fun _ => h.fits.awaiting (hc hs) hh,
    fun hr => absurd (h.fits.status.symm.trans hr) (by decide)⟩⟩

/-- In runs that are not strict, nothing more is known of a coroutine at rest. -/
theorem Found.lenient (h : Found s i m w) (hs : ¬ s) : Found s i .resting w :=
  ⟨h.orderly, h.candid, fun h => absurd h hs⟩

/-! ### Computations that keep the law -/

section

variable {may : Prop} {P : World L → Prop} {hP : ∀ w, P w → w.Orderly ∧ (w.coroutine i).IsCandid}

theorem about_of {x : Effect L α} (ok : ∀ w : World L, w.Orderly → may ∨ ∃ a, (x w).1 = .ok a)
    (hx : ∀ w, P w → P (x w).2 ∧ Outlasts i w (x w).2) : (about L may i P hP).Kept x := by
  intro w hw
  have h := hx w hw
  have hok := ok w (hP w hw).1
  refine ⟨?_⟩
  rcases hv : x w with ⟨a | m | _, v⟩ <;> rw [hv] at h hok
  · exact h
  · exact ⟨hok.resolve_right (by simp), h⟩
  · exact ⟨(hP v h.1).2, h.2⟩

theorem about_passes (hpass : ∀ {w v}, P w → Passes i w v → P v) {x : Effect L α}
    (ok : ∀ w : World L, w.Orderly → may ∨ ∃ a, (x w).1 = .ok a) (hx : ∀ w, Passes i w (x w).2) :
    (about L may i P hP).Kept x :=
  about_of ok fun w hw => ⟨hpass hw (hx w), (hx w).outlasts⟩

end

/-- Reports can be told of: what they do besides running a program leaves the coroutine alone. -/
theorem showing_reported : (showing L True s i m).Reported where
  orderly h := h.orderly
  discreet hx _ :=
    about_passes .passes (fun _ _ => .inl trivial) fun w => .of_undisturbed (hx w).toUndisturbed
  exchange {w} hook h hk :=
    have hp : Passes i w { w with ambient := { w.ambient with hook } } :=
      .of_undisturbed (.ambient w _ fun ho => ⟨ho.borrowed, hk⟩)
    ⟨h.passes hp, hp.outlasts⟩

section

variable {may : Prop} {x x' : Effect L α}

theorem showing_harmless (hx : Harmless x) : (showing L True s i m).Kept x :=
  about_passes .passes (fun _ _ => .inl trivial) fun w => .of_undisturbed (hx w)

theorem showing_quiet (hx : Quiet x) : (showing L True s i m).Kept x := showing_harmless hx.harmless

theorem showing_sure (hx : Sure x) : (showing L may s i m).Kept x :=
  about_passes .passes (fun w _ => .inr (hx.2 w)) fun w => .of_undisturbed (hx.1.harmless w)

/-- An access to the ambient state, which can be used. -/
theorem showing_ambient {f : Ambient L → α × Ambient L} (hx : Quiet (withAmbient f : Effect L α)) :
    (showing L may s i m).Kept (withAmbient f) :=
  about_passes .passes (fun _ hw => .inr ⟨_, congrArg Prod.fst (withAmbient_ok hw)⟩) fun w =>
    .of_undisturbed (hx w).toUndisturbed

theorem showing_update {f : CoroutineRecord L → α × CoroutineRecord L}
    (hf : ∀ r : CoroutineRecord L, r.Steady (f r).2) :
    (showing L may s i m).Kept (updateCoroutine i f) :=
  about_passes .passes (fun _ _ => .inr ⟨_, rfl⟩) fun _ => .modified (f := fun _ => (f _).2) (hf _)

theorem showing_modify {f : CoroutineRecord L → CoroutineRecord L}
    (hf : ∀ r : CoroutineRecord L, r.Steady (f r)) :
    (showing L may s i m).Kept (modifyCoroutine i f) :=
  about_passes .passes (fun _ _ => .inr ⟨_, rfl⟩) fun _ => .modified (hf _)

/-- A note about the coroutine that depends on the world. -/
theorem showing_note {f : World L → CoroutineRecord L → CoroutineRecord L}
    (hf : ∀ w (r : CoroutineRecord L), r.Steady (f w r)) :
    (showing L True s i m).Kept (.modify fun w => w.modifyCoroutine i (f w)) :=
  about_passes .passes (fun _ _ => .inr ⟨_, rfl⟩) fun w => .modified (hf w _)

theorem showing_other {j : CoroutineId} (hj : j ≠ i) (hx : Held j x) : (showing L True s i m).Kept x := by
  refine about_passes .passes (fun _ _ => .inl trivial) fun w => ?_
  obtain ⟨f, hf, -⟩ := hx w
  rw [hf]
  exact .other hj f

/-- What releases keep, is kept by them among others. -/
theorem Law.Accord.spoken (hx : (showing L may s i m).Accord x x') :
    (showing L True s i m).Accord x x' := fun w hw =>
  (hx w hw).mono (fun _ _ h => h) (fun _ h => ⟨trivial, h.2⟩) fun _ h => h

theorem bereft_of_showing (hx : (showing L True s i m).Accord x x') : (bereft L s i m).Accord x x' := by
  intro w ⟨hw, hi, hh⟩
  have bare {v : World L} (h : Found s i m v ∧ Outlasts i w v) :
      (Found s i m v ∧ v.Has i ∧ (v.coroutine i).handles = 0) ∧ Outlasts i w v :=
    ⟨⟨h.1, (h.2 hi).1, (h.2 hi).2 hh⟩, h.2⟩
  exact (hx w hw).mono (fun _ _ h => bare h) (fun _ h => ⟨trivial, bare h.2⟩) fun _ h => h

theorem bereft_update {f : CoroutineRecord L → α × CoroutineRecord L}
    (hf : ∀ r, r.handles = 0 → r.IsCandid → m.Fits s r →
      (f r).2.IsCandid ∧ m.Fits s (f r).2 ∧ (f r).2.handles = 0) :
    (bereft L s i m).Kept (updateCoroutine i f) := by
  refine about_of (fun _ _ => .inl trivial) ?_
  rintro w ⟨hw, hi, hh⟩
  obtain ⟨hc, hm, hz⟩ := hf _ hh hw.candid hw.fits
  obtain ⟨hv, ho⟩ := hw.modified (f := fun _ => (f _).2) hi hc hm fun _ => hz
  exact ⟨⟨hv, (ho hi).1, (ho hi).2 hh⟩, ho⟩

end

/-! ## Others -/

namespace Concord

variable {E E' : Engine L} {x : Procedure L α}

theorem spoken (hE : Concord s i m E E') (v : Value) :
    (showing L True s i m).Accord (E.release v) (E'.release v) := (hE.release v).spoken

theorem releaseAll (hE : Concord s i m E E') (vs : List Value) :
    (showing L (¬ s) s i m).Accord (E.releaseAll vs) (E'.releaseAll vs) := .releaseAll hE.release vs

theorem report (hE : Concord s i m E E') (object : String) (e : Exception) :
    (showing L True s i m).Accord (writeUnraisable E object e) (writeUnraisable E' object e) :=
  showing_reported.accord hE.spoken (fun a t => hE.run none a t rfl) object e

theorem atom (hE : Concord s i m E E') {c : Option CoroutineId} (hc : c ≠ some i)
    (hx : RequestAtom c x) : (showing L True s i m).Accord (x E) (x E') := by
  cases hx with
  | quiet hx => exact .plain (showing_quiet hx)
  | release v => exact hE.spoken v
  | report object e => exact hE.report object e
  | own j hj hx => exact .plain (showing_other (fun he => hc (by rw [hj, he])) hx.held)
  | run k a t hk =>
    refine hE.run k a t ?_
    cases k with
    | none => rfl
    | some k =>
      have hne : i ≠ k.coroutine := fun he => hc (by rw [hk k rfl, he])
      simpa [isBodyOf] using hne

/-- Requests on other coroutines, and reports. -/
theorem request (hE : Concord s i m E E') {c : Option CoroutineId} (hc : c ≠ some i)
    (hx : Request c x) : (showing L True s i m).Accord (x E) (x E') :=
  Composed.accord (fun hx => hE.atom hc hx) hx

/-- What the holders of other coroutines do. -/
theorem holder (hE : Concord s i m E E') {c : CoroutineId} (hc : c ≠ i) (hx : Holder c x) :
    (showing L True s i m).Accord (x E) (x E') := by
  refine Composed.accord (fun hx => ?_) hx
  cases hx with
  | request hx => exact hE.atom (fun h => hc (Option.some.inj h)) hx
  | held hx => exact .plain (showing_other hc hx)
  | withdraw => exact .plain (showing_harmless (untrackObject_mild _).harmless)

end Concord

end CoroutineEngine
