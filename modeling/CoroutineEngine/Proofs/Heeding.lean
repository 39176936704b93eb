import CoroutineEngine.Proofs.Onward

/-!
# Coroutines that are not visited

A request that is let in is a visit to its coroutine, and so is the teardown of a coroutine that is not
finished. Nothing else changes what matters of its record, whatever happens meanwhile: its status, the
fiber that its body waits in, its frame and its inputs. A finished coroutine is not visited any more.

Results:
* `Heeds.trans`: the record over computations in a row.
* `Heedful.send`, `Heedful.releaseCoroutine`: what is done with the coroutine itself either is a visit or
  leaves it alone.
* `heedful_watched`: the engine leaves a coroutine alone that it does not visit.
-/

namespace CoroutineEngine

variable {L : Language} {α : Type} {i : CoroutineId} {k : Option CoroutineId}

/-! ## Definitions -/

/-- What was done with a coroutine: how often its body went on, what was last delivered to it, whom it had
outlived when it was last switched out, and how often it was closed by its releasers. -/
structure Attention where
  resumptions : Nat
  delivered : Option ExceptionClass
  outlived : List CoroutineId
  finalizations : Nat
  farewells : Nat

namespace CoroutineRecord

/-- What was done with the coroutine. -/
def attention (r : CoroutineRecord L) : Attention where
  resumptions := r.history.resumptions
  delivered := r.history.delivered
  outlived := r.history.outlived
  finalizations := r.history.finalizations
  farewells := r.history.farewells

/-- What stays of the record of a coroutine that was not visited; `own` says that its own body was at
work, which notes what it awaits. -/
structure Rests (own : Prop) (r r' : CoroutineRecord L) : Prop where
  status : r'.status = r.status
  running : r'.running = r.running
  code : r'.code = r.code
  supply : r'.supply = r.supply
  fiber : r.status ≠ .finished → r'.fiber = r.fiber
  frame : r.status ≠ .finished → r'.frame = r.frame
  inputs : r.status ≠ .finished → r'.inputs = r.inputs
  awaiting : ¬ own → r.status ≠ .finished → r'.awaiting = r.awaiting
  settled : ¬ own → r.awaiting = none → r'.awaiting = none
  handles : r.status ≠ .finished → 0 < r.handles → 0 < r'.handles
  dead : r.handles = 0 → r'.handles = 0
  attention : r'.attention = r.attention

/-- The record at the end of a computation is that of a coroutine that was visited, or rests. -/
structure Heeds (own : Prop) (r r' : CoroutineRecord L) : Prop where
  visits : r.history.visits ≤ r'.history.visits
  finished : r.status = .finished → r'.history.visits = r.history.visits
  rests : r'.history.visits = r.history.visits → r.Rests own r'

end CoroutineRecord

/-- The coroutine `i` was visited between two worlds, or rests; `k` is the coroutine that the computation
serves the body of. -/
def Heeded (i : CoroutineId) (k : Option CoroutineId) (w v : World L) : Prop :=
  w.Has i → v.Has i ∧ (w.coroutine i).Heeds (k = some i) (v.coroutine i)

namespace CoroutineRecord

variable {own own' : Prop} {r r' r'' : CoroutineRecord L}

theorem Rests.trans (h : r.Rests own r') (h' : r'.Rests own r'') : r.Rests own r'' where
  status := h'.status.trans h.status
  running := h'.running.trans h.running
  code := h'.code.trans h.code
  supply := h'.supply.trans h.supply
  fiber hs := (h'.fiber (h.status ▸ hs)).trans (h.fiber hs)
  frame hs := (h'.frame (h.status ▸ hs)).trans (h.frame hs)
  inputs hs := (h'.inputs (h.status ▸ hs)).trans (h.inputs hs)
  awaiting ho hs := (h'.awaiting ho (h.status ▸ hs)).trans (h.awaiting ho hs)
  settled ho := h'.settled ho ∘ h.settled ho
  handles hs hp := h'.handles (h.status ▸ hs) (h.handles hs hp)
  dead := h'.dead ∘ h.dead
  attention := h'.attention.trans h.attention

theorem Rests.refl (own : Prop) (r : CoroutineRecord L) : r.Rests own r :=
  ⟨rfl, rfl, rfl, rfl, fun _ => rfl, fun _ => rfl, fun _ => rfl, fun _ _ => rfl, fun _ => id,
    fun _ => id, id, rfl⟩

/-- A change that is no visit. -/
theorem Rests.heeds (h : r.Rests own r') (hv : r'.history.visits = r.history.visits) :
    r.Heeds own r' := ⟨Nat.le_of_eq hv.symm, fun _ => hv, fun _ => h⟩

theorem Heeds.trans (h : r.Heeds own r') (h' : r'.Heeds own r'') : r.Heeds own r'' where
  visits := Nat.le_trans h.visits h'.visits
  finished hs :=
    have hv := h.finished hs
    (h'.finished ((h.rests hv).status.trans hs)).trans hv
  rests hv := by
    have hv' : r'.history.visits = r.history.visits :=
      Nat.le_antisymm (hv ▸ h'.visits) h.visits
    exact (h.rests hv').trans (h'.rests (hv.trans hv'.symm))

theorem Heeds.weaken (h : r.Heeds own r') (ho : own → own') : r.Heeds own' r' :=
  ⟨h.visits, h.finished, fun hv =>
    { h.rests hv with
      awaiting := fun hn => (h.rests hv).awaiting (hn ∘ ho)
      settled := fun hn => (h.rests hv).settled (hn ∘ ho) }⟩

/-- A visit. -/
theorem Heeds.of_visit (hs : r.status ≠ .finished) (hv : r.history.visits < r'.history.visits) :
    r.Heeds own r' :=
  ⟨Nat.le_of_lt hv, fun h => absurd h hs, fun h => absurd h (Nat.ne_of_gt hv)⟩

theorem Resembles.heeds (h : r.Resembles r') : r.Heeds own r' := by
  refine Rests.heeds ?_ h.visits
  have hh := h.handles
  have hd := h.dead
  rw [h.same] at hh hd ⊢
  exact { Rests.refl own r with handles := fun _ hp => Nat.lt_of_lt_of_le hp hh, dead := hd }

end CoroutineRecord

theorem Heeded.refl (w : World L) : Heeded i k w w := fun hi => ⟨hi, (CoroutineRecord.Rests.refl _ _).heeds rfl⟩

theorem Heeded.trans {w v u : World L} (h : Heeded i k w v) (h' : Heeded i k v u) :
    Heeded i k w u := fun hi =>
  ⟨(h' (h hi).1).1, (h hi).2.trans (h' (h hi).1).2⟩

/-- The law of coroutines that are not visited. -/
def heeding (L : Language) (i : CoroutineId) (k : Option CoroutineId) : Law L :=
  .always World.Orderly (Heeded i k) .refl fun _ _ _ => .trans

/-- The same law where the coroutine is finished. -/
def departed (L : Language) (i : CoroutineId) : Law L :=
  .always (fun w => w.Orderly ∧ (w.coroutine i).status = .finished) (Heeded i none) .refl
    fun _ _ _ => .trans

/-- An engine on which a coroutine rests unless it is visited. -/
structure Heedful (i : CoroutineId) (E : Engine L) : Prop extends (onward L).Upheld E where
  rests : ∀ v, (heeding L i none).Kept (E.release v)
  runs : ∀ k a t, (heeding L i (k.map (·.coroutine))).Kept (E.run k a t)

/-! ## Helpers -/

section

variable {w v : World L} {x : Effect L α}

theorem Heeded.anyone (h : Heeded i none w v) : Heeded i k w v := fun hi =>
  ⟨(h hi).1, (h hi).2.weaken fun he => absurd he.symm (Option.some_ne_none i)⟩

/-- A client that is no body of the coroutine is like one that is no body at all. -/
theorem Heeded.stranger {j : Option CoroutineId} (hk : k ≠ some i) (h : Heeded i k w v) :
    Heeded i j w v := fun hi => ⟨(h hi).1, (h hi).2.weaken fun he => absurd he hk⟩

theorem Undisturbed.heeded (h : Undisturbed w v) : Heeded i k w v := fun hi =>
  ⟨Nat.lt_of_lt_of_le hi h.count, (h.old i hi).heeds⟩

theorem Harmless.heeding (hx : Harmless x) : (heeding L i k).Kept x :=
  Law.always_of fun w hw => ⟨(hx w).orderly hw, (hx w).heeded⟩

theorem Quiet.heeding (hx : Quiet x) : (heeding L i k).Kept x := hx.harmless.heeding

/-- A change of the record of the coroutine. -/
theorem Heeded.modify (w : World L) {f : CoroutineRecord L → CoroutineRecord L}
    (hf : (w.coroutine i).Heeds (k = some i) (f (w.coroutine i))) :
    Heeded i k w (w.modifyCoroutine i f) := fun hi => by
  obtain ⟨hv, hself⟩ := modified_of_has hi f
  rw [hself]
  exact ⟨hv, hf⟩

/-- A change of the record of another coroutine. -/
theorem Held.heeding {j : CoroutineId} (hj : j ≠ i) (hx : Held j x) : (heeding L i k).Kept x := by
  refine Law.always_of fun w hw => ?_
  obtain ⟨f, hf, -⟩ := hx w
  obtain ⟨hhas, hother⟩ := modified_other w hj f
  rw [hf]
  refine ⟨⟨hw.borrowed, hw.hook⟩, fun hi => ⟨hhas.mpr hi, ?_⟩⟩
  rw [hother]
  exact (CoroutineRecord.Rests.refl _ _).heeds rfl

theorem heeding_update {f : CoroutineRecord L → α × CoroutineRecord L}
    (hf : ∀ r : CoroutineRecord L, r.Heeds (k = some i) (f r).2) :
    (heeding L i k).Kept (updateCoroutine i f) :=
  Law.always_of fun w hw => ⟨⟨hw.borrowed, hw.hook⟩, .modify w (hf _)⟩

theorem heeding_modify {f : CoroutineRecord L → CoroutineRecord L}
    (hf : ∀ r : CoroutineRecord L, r.Heeds (k = some i) (f r)) :
    (heeding L i k).Kept (modifyCoroutine i f) :=
  Law.always_of fun w hw => ⟨⟨hw.borrowed, hw.hook⟩, .modify w (hf _)⟩

/-- What a visit is followed by. -/
theorem Meets.visited (hx : (onward L).Kept x) (hv : v.Orderly)
    (hs : (w.coroutine i).status ≠ .finished)
    (hi : w.Has i → v.Has i ∧ (w.coroutine i).history.visits < (v.coroutine i).history.visits) :
    Meets x v ((heeding L i k).post w) := by
  have step {u : World L} (hu : u.Orderly ∧ Onward v u) : u.Orderly ∧ Heeded i k w u := by
    refine ⟨hu.1, fun h => ?_⟩
    obtain ⟨hv', hlt⟩ := hi h
    exact ⟨Nat.lt_of_lt_of_le hv' hu.2.count,
      .of_visit hs (Nat.lt_of_lt_of_le hlt (hu.2.visits i hv'))⟩
  exact (hx v hv).mono (fun _ _ => step) (fun _ => step) fun _ => step

theorem heeding_reported : (heeding L i none).Reported where
  orderly h := h
  discreet hx _ := hx.heeding
  exchange {w} hook h hk :=
    have hu : Undisturbed w { w with ambient := { w.ambient with hook } } :=
      .ambient w _ fun ho => ⟨ho.borrowed, hk⟩
    ⟨hu.orderly h, hu.heeded⟩

theorem heeding_anyone (hx : (heeding L i none).Kept x) : (heeding L i k).Kept x := fun w hw =>
  have step {u : World L} (hu : u.Orderly ∧ Heeded i none w u) : u.Orderly ∧ Heeded i k w u :=
    ⟨hu.1, hu.2.anyone⟩
  (hx w hw).mono (fun _ _ => step) (fun _ => step) fun _ => step

theorem heeding_stranger {j : Option CoroutineId} (hk : k ≠ some i) (hx : (heeding L i k).Kept x) :
    (heeding L i j).Kept x := fun w hw =>
  have step {u : World L} (hu : u.Orderly ∧ Heeded i k w u) : u.Orderly ∧ Heeded i j w u :=
    ⟨hu.1, hu.2.stranger hk⟩
  (hx w hw).mono (fun _ _ => step) (fun _ => step) fun _ => step

/-! ### Where the coroutine is finished -/

theorem Heeded.departed (h : Heeded i k w v) (hs : (w.coroutine i).status = .finished) :
    (v.coroutine i).status = .finished := by
  have hi : w.Has i := Classical.byContradiction fun hi => by
    rw [World.coroutine_eq_default (Nat.le_of_not_lt hi)] at hs
    exact absurd hs (show Status.unused ≠ .finished by decide)
  have hh := (h hi).2
  exact (hh.rests (hh.finished hs)).status.trans hs

theorem departed_of_heeding (hx : (heeding L i none).Kept x) : (departed L i).Kept x := fun w hw =>
  have step {u : World L} (hu : u.Orderly ∧ Heeded i none w u) :
      (u.Orderly ∧ (u.coroutine i).status = .finished) ∧ Heeded i none w u :=
    ⟨⟨hu.1, hu.2.departed hw.2⟩, hu.2⟩
  (hx w hw.1).mono (fun _ _ => step) (fun _ => step) fun _ => step

/-- A finished coroutine may give up what it still owns. -/
theorem departed_own (hx : ∀ w : World L, ∃ f, (x w).2 = w.modifyCoroutine i f ∧
      ((w.coroutine i).status = .finished → (w.coroutine i).Rests False (f (w.coroutine i)) ∧
        (f (w.coroutine i)).history.visits = (w.coroutine i).history.visits)) :
    (departed L i).Kept x :=
  Law.always_of fun w hw => by
    obtain ⟨f, hf, hrest⟩ := hx w
    have hh : Heeded i none w (w.modifyCoroutine i f) :=
      .modify w (((hrest hw.2).1.heeds (hrest hw.2).2).weaken False.elim)
    rw [hf]
    exact ⟨⟨⟨hw.1.borrowed, hw.1.hook⟩, hh.departed hw.2⟩, hh⟩

theorem departed_update {f : CoroutineRecord L → α × CoroutineRecord L}
    (hf : ∀ r : CoroutineRecord L, r.status = .finished →
      r.Rests False (f r).2 ∧ (f r).2.history.visits = r.history.visits) :
    (departed L i).Kept (updateCoroutine i f) :=
  departed_own fun w => ⟨fun _ => (f (w.coroutine i)).2, rfl, hf _⟩

end

/-! ## What is done with the coroutine itself -/

namespace Heedful

variable {E : Engine L}

theorem releaseAll (hE : Heedful i E) (vs : List Value) :
    (heeding L i none).Kept (E.releaseAll vs) := .releaseAll hE.rests vs

theorem owning (hE : Heedful i E) (vs : List Value) {x : Effect L α}
    (hx : (heeding L i none).Kept x) : (heeding L i none).Kept (E.owning vs x) :=
  hx.onPanic (hE.releaseAll vs)

theorem refuse (hE : Heedful i E) (error : CoroutineError) (vs : List Value) :
    (heeding L i none).Kept (refuse E error vs : Effect L (Except Exception α)) :=
  .bind (raise_still _).quiet.heeding fun _ => .bind (hE.owning _ (hE.releaseAll _)) fun _ => .pure _

theorem report (hE : Heedful i E) (object : String) (e : Exception) :
    (heeding L i none).Kept (writeUnraisable E object e) :=
  heeding_reported.report hE.rests (fun a t => hE.runs none a t) object e

theorem atom (hE : Heedful i E) {c : Option CoroutineId} (hc : c ≠ some i) {x : Procedure L α}
    (hx : RequestAtom c x) : (heeding L i none).Kept (x E) := by
  cases hx with
  | quiet hx => exact hx.heeding
  | release v => exact hE.rests v
  | report object e => exact hE.report object e
  | own j hj hx => exact hx.held.heeding fun he => hc (by rw [hj, he])
  | run k a t hk =>
    refine heeding_stranger (fun h => ?_) (hE.runs k a t)
    obtain ⟨x, hx, he⟩ := Option.map_eq_some_iff.mp h
    exact hc (by rw [hk x hx, he])

/-- What the holders of other coroutines do lets the coroutine rest. -/
theorem others (hE : Heedful i E) {c : CoroutineId} (hc : c ≠ i) {x : Procedure L α}
    (hx : Holder c x) : (heeding L i none).Kept (x E) := by
  refine Composed.kept (fun hx => ?_) hx
  cases hx with
  | request hx => exact hE.atom (fun h => hc (Option.some.inj h)) hx
  | held hx => exact hx.heeding hc
  | withdraw => exact (untrackObject_mild _).harmless.heeding

/-- What is done with any coroutine keeps the law if it does so on the one that the law is about. -/
theorem anyone (hE : Heedful i E) {x : CoroutineId → Procedure L α} (hx : ∀ c, Holder c (x c))
    (hi : (heeding L i none).Kept (x i E)) (c : CoroutineId) : (heeding L i k).Kept (x c E) := by
  refine heeding_anyone ?_
  by_cases hc : c = i
  · subst hc
    exact hi
  · exact hE.others hc (hx c)

/-- A send that is let in is a visit. -/
theorem send (hE : Heedful i E) (v : Value) : (heeding L i none).Kept (send E i v) := by
  intro w hw
  refine .then_gets ?_
  split
  · exact hE.refuse _ _ w hw
  · split
    · refine Law.Kept.bind (makeStopIteration_still _).quiet.heeding (fun e => ?_) w hw
      exact .bind (hE.owning _ (hE.rests v)) fun _ => .pure _
    · rename_i hfin
      split
      · exact hE.refuse _ _ w hw
      · have hrest := onward_universal.request hE.toUpheld (c := some i) (Request.admitted ((w.coroutine i).status = .unused) v)
        refine .then_eq rfl (.visited hrest ⟨hw.borrowed, hw.hook⟩ hfin fun hi => ?_)
        obtain ⟨hv, hr⟩ := modified_of_has hi CoroutineRecord.noteVisit
        exact ⟨hv, hr ▸ Nat.lt_succ_self _⟩

/-- Priming and clearing an exception is no visit. -/
theorem primes (p : Option PendingException) :
    (heeding L i none).Kept (updateCoroutine i fun r : CoroutineRecord L =>
      (r.pending, { r with pending := p })) :=
  heeding_update fun r => CoroutineRecord.Rests.heeds { CoroutineRecord.Rests.refl _ r with } rfl

theorem throwPending (hE : Heedful i E) (p : PendingException) :
    (heeding L i none).Kept (throwPending E i p) := by
  refine .bind (Quiet.gets _).heeding fun r => ?_
  split
  · exact hE.refuse _ _
  · split
    · exact .bind (instantiate_still p).quiet.heeding fun _ => .pure _
    · exact .bind (primes _) fun _ => .bind (hE.releaseAll _) fun _ => .bind (hE.send _) fun _ =>
        .bind (primes _) fun _ => .bind (hE.owning _ (hE.releaseAll _)) fun _ => .pure _

theorem close (hE : Heedful i E) : (heeding L i none).Kept (close E i) := by
  refine .bind (Quiet.gets _).heeding fun r => ?_
  split
  · exact .pure _
  · refine .bind (hE.throwPending _) fun reply => ?_
    cases reply with
    | ok v => exact hE.refuse _ _
    | error e =>
      dsimp only
      split
      · exact .bind (hE.rests _) fun _ => .pure _
      · exact .pure _

/-- Noting that the coroutine is closed on behalf of a releaser is no visit. -/
theorem noted {f : CoroutineRecord L → CoroutineRecord L}
    (hf : ∀ r : CoroutineRecord L, r.Rests False (f r) ∧ (f r).history.visits = r.history.visits) :
    (heeding L i none).Kept (modifyCoroutine i f) :=
  heeding_modify fun r => ((hf r).1.heeds (hf r).2).weaken False.elim

theorem closeUnraisable (hE : Heedful i E) : (heeding L i none).Kept (closeUnraisable E i) := by
  refine .bind (noted fun r => ⟨{ CoroutineRecord.Rests.refl _ r with }, rfl⟩) fun _ =>
    .bind fetchError_quiet.heeding fun saved => .bind (hE.owning _ (.bind hE.close fun reply => ?_))
      fun _ => .bind (swapError_quiet _).heeding fun _ => hE.releaseAll _
  cases reply with
  | ok v => exact hE.rests v
  | error e => exact .bind (Quiet.gets _).heeding fun _ => hE.report _ e

/-- Closing a coroutine because its last handle is released is a visit. -/
theorem finalize (hE : Heedful i E) : (heeding L i none).Kept (finalize E i) := by
  intro w hw
  refine .then_gets ?_
  split
  · rename_i hlast
    have hs : (w.coroutine i).status ≠ .finished := fun hs => by
      simp [CoroutineRecord.isSuspended, hs] at hlast
    have hlog : Still (logCoroutine .debug "finalizing unclosed coroutine" i [] : Effect L Unit) :=
      logCoroutine_still _ _ _ _
    generalize hv : (logCoroutine .debug "finalizing unclosed coroutine" i [] w).2 = v
    have hsame : v.coroutine i = w.coroutine i := by rw [← hv, World.coroutine, hlog.coroutines, World.coroutine]
    have ho : v.Orderly := hv ▸ (hlog.quiet w).orderly hw
    refine .then_eq (v := v) (by rw [← hv]; rfl) (.then_eq (v := v.modifyCoroutine i _) rfl
      (.visited (onward_universal.holder hE.toUpheld (c := i) Holder.finalized) ⟨ho.borrowed, ho.hook⟩ hs fun hi => ?_))
    obtain ⟨hu, hr⟩ := modified_of_has (w := v) (i := i)
      (by rwa [World.Has, ← hv, hlog.coroutines]) CoroutineRecord.noteFinalization
    refine ⟨hu, ?_⟩
    rw [hr, hsame]
    exact Nat.lt_succ_self _
  · exact .pure ⟨hw, .refl w⟩

/-! ### The teardown of a finished coroutine -/

theorem departed_release (hE : Heedful i E) (vs : List Value) :
    (departed L i).Kept (E.releaseAll vs) := departed_of_heeding (hE.releaseAll vs)

theorem departed_fiber (hE : Heedful i E) (f : Option (Fiber L)) :
    (departed L i).Kept (f.elim (pure ()) (releaseFiber E)) := by
  cases f with
  | none => exact .pure ()
  | some f =>
    show (departed L i).Kept (releaseFiber E f)
    unfold releaseFiber
    have note {x : Effect L Unit} (hx : Still x) : (departed L i).Kept x :=
      departed_of_heeding hx.quiet.heeding
    cases f.stack with
    | released => exact .pure _
    | fresh => exact note (log_still _ _ _)
    | completed => exact note (log_still _ _ _)
    | suspended a => exact .bind (note (log_still _ _ _)) fun _ => hE.departed_release _

theorem departed_relinquish (hE : Heedful i E) : (departed L i).Kept (relinquish E i) := by
  have still {γ : Type} {x : Effect L γ} (hx : Still x) : (departed L i).Kept x :=
    departed_of_heeding hx.quiet.heeding
  refine .bind (departed_update fun r hs => ⟨?_, rfl⟩) fun _ => .bind (hE.departed_release _) fun _ =>
    .bind (departed_update fun r hs => ⟨?_, rfl⟩) fun _ => .bind (hE.departed_release _) fun _ =>
      .bind (departed_update fun r hs => ⟨?_, rfl⟩) fun _ => .bind (hE.departed_fiber _) fun _ =>
        .bind (departed_of_heeding (untrackObject_mild _).harmless.heeding) fun _ =>
          still (logCoroutine_still _ _ _ _)
  all_goals
    exact { CoroutineRecord.Rests.refl _ r with
      fiber := fun h => absurd hs h, frame := fun h => absurd hs h, inputs := fun h => absurd hs h }

theorem departed_remains (hE : Heedful i E) : (departed L i).Kept (releaseRemains E i) := by
  refine .bind (departed_update fun r hs => ⟨?_, rfl⟩) fun r =>
    .andFinally (hE.departed_fiber _) (hE.departed_release _)
  exact { CoroutineRecord.Rests.refl False r with
    fiber := fun h => absurd hs h, frame := fun h => absurd hs h, inputs := fun h => absurd hs h
    awaiting := fun _ h => absurd hs h, settled := fun _ _ => rfl }

theorem departed_teardown (hE : Heedful i E) : (departed L i).Kept (teardown E i) := by
  refine .bind (departed_own fun w => ⟨_, rfl, fun hs => ⟨?_, ?_⟩⟩) fun _ =>
    .andFinally (.bind (departed_of_heeding fetchError_quiet.heeding) fun saved =>
      .bind (.onPanic ?_ (hE.departed_release _)) fun _ =>
        .bind (departed_of_heeding (swapError_quiet _).heeding) fun _ => hE.departed_release _)
      hE.departed_remains
  · exact { CoroutineRecord.Rests.refl _ _ with }
  · simp [CoroutineRecord.noteTeardown, hs]
  · intro w hw
    have hnot : ¬ (w.coroutine i).isSuspended = true := by
      simp [CoroutineRecord.isSuspended, hw.2]
    refine .then_gets ?_
    simp only [if_neg hnot]
    exact hE.departed_relinquish w hw

theorem departed_collapse : (departed L i).Kept (modifyCoroutine i CoroutineRecord.noteCollapse) :=
  departed_own fun _ => ⟨_, rfl, fun _ => ⟨{ CoroutineRecord.Rests.refl _ _ with }, rfl⟩⟩

theorem departed_dropHandle (hE : Heedful i E) : (departed L i).Kept (dropHandle E i) := by
  refine .bind (departed_update fun r hs => ⟨?_, rfl⟩) fun handles => ?_
  · exact { CoroutineRecord.Rests.refl _ r with
      handles := fun h => absurd hs h, dead := fun h => by simp [h] }
  · split
    · exact hE.departed_teardown.onPanic departed_collapse
    · exact .pure _

/-! ### The release of a handle -/

/-- Giving up the last handle of a coroutine that is not finished is a visit. -/
theorem dropHandle (hE : Heedful i E) : (heeding L i none).Kept (dropHandle E i) := by
  intro w hw
  by_cases hs : (w.coroutine i).status = .finished
  · have step {u : World L} (hu : (u.Orderly ∧ (u.coroutine i).status = .finished) ∧
        Heeded i none w u) : u.Orderly ∧ Heeded i none w u := ⟨hu.1.1, hu.2⟩
    exact (hE.departed_dropHandle w ⟨hw, hs⟩).mono (fun _ _ => step) (fun _ => step) fun _ => step
  refine .then_eq rfl ?_
  split
  · refine Law.post_onPanic (.then_eq rfl (.visited (onward_universal.holder hE.toUpheld (c := i) Holder.dissolved)
      ⟨hw.borrowed, hw.hook⟩ hs fun hi => ?_))
      (noted fun r => ⟨{ CoroutineRecord.Rests.refl _ r with }, rfl⟩)
    obtain ⟨hv, hr⟩ := modified_of_has hi fun _ =>
      { w.coroutine i with handles := (w.coroutine i).handles - 1 }
    obtain ⟨hu, hr'⟩ := modified_of_has hv CoroutineRecord.noteTeardown
    refine ⟨hu, ?_⟩
    rw [hr', hr]
    simp [CoroutineRecord.noteTeardown, hs]
  · rename_i hmany
    refine .pure ⟨⟨hw.borrowed, hw.hook⟩, .modify w (CoroutineRecord.Rests.heeds ?_ rfl)⟩
    exact { CoroutineRecord.Rests.refl _ _ with
      handles := fun _ hp => Nat.sub_pos_of_lt (Nat.lt_of_le_of_ne hp (Ne.symm hmany))
      dead := fun h => by simp [h] }

theorem releaseCoroutine (hE : Heedful i E) (c : CoroutineId) :
    (heeding L i none).Kept (releaseCoroutine E c) :=
  hE.anyone (x := fun c E => CoroutineEngine.releaseCoroutine E c) (fun _ => Holder.releaseCoroutine)
    (.andFinally hE.finalize hE.dropHandle) c

/-! ## Clients and engines -/

theorem client (hE : Heedful i E) {x : Procedure L α} (hx : Client k x) :
    (heeding L i k).Kept (x E) := by
  refine Composed.kept (fun hx => ?_) hx
  cases hx with
  | quiet hx => exact hx.heeding
  | release v => exact heeding_anyone (hE.rests v)
  | send c v =>
    exact hE.anyone (x := fun c E => CoroutineEngine.send E c v) (fun _ => (Request.send v).holder)
      (hE.send v) c
  | throwPending c p =>
    exact hE.anyone (x := fun c E => CoroutineEngine.throwPending E c p)
      (fun _ => (Request.throwPending p).holder) (hE.throwPending p) c
  | close c =>
    exact hE.anyone (x := fun c E => CoroutineEngine.close E c) (fun _ => Request.close.holder)
      hE.close c
  | report object e => exact heeding_anyone (hE.report object e)
  | await c v hk =>
    by_cases hc : c = i
    · subst hc
      refine heeding_update fun r => CoroutineRecord.Rests.heeds ?_ rfl
      exact { CoroutineRecord.Rests.refl (k = some c) r with
        awaiting := fun hn => absurd hk hn, settled := fun hn => absurd hk hn }
    · exact (updateCoroutine_held c fun _ => Nat.le_refl _).heeding hc

theorem releaseHandle (hE : Heedful i E) (v : Value) :
    (heeding L i none).Kept (releaseHandle E v) := by
  refine Composed.kept (fun hx => ?_) (Release.releaseHandle v)
  cases hx with
  | discreet hx => exact hx.quiet.heeding
  | release v => exact hE.rests v
  | coroutine c => exact hE.releaseCoroutine c

theorem under (hE : Heedful i E) (W : Watch) (n : Nat) : Heedful i ((E.next n).under W) where
  toUpheld := onward_universal.under (onward_universal.next hE.toUpheld n) W
  rests v := (hE.releaseHandle v).under_release id
  runs _ a t := (hE.client (Client.runBody n a t)).under_run id

theorem halted : Heedful i (.halted : Engine L) where
  toUpheld := onward_universal.halted
  rests v := by
    intro w hw
    show Meets (if v.isNone then pure () else .stop) w _
    split
    · exact .pure ⟨hw, .refl w⟩
    · exact ⟨hw, .refl w⟩
  runs _ _ _ w hw := ⟨hw, .refl w⟩

end Heedful

/-- At every depth of nesting, a coroutine rests that the engine does not visit. -/
theorem heedful_watched (W : Watch) (i : CoroutineId) (n : Nat) : Heedful i (.watched L W n) := by
  induction n with
  | zero => exact .halted
  | succ n ih => exact ih.under W n

end CoroutineEngine
