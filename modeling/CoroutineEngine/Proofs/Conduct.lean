import CoroutineEngine.Proofs.Faithful

/-!
# How a request changes the record of its coroutine

A request is followed step by step on the record of its own coroutine. What it releases on the way may
do anything that the law of the record allows.

Results:
* `finish_meets`: the end of a body.
* `restoreDriver_meets`: the way back to the driver.
-/

namespace CoroutineEngine

variable {L : Language} {α β : Type} {T : Terms} {i : CoroutineId}

/-! ## Definitions -/

/-- The coroutine exists and has this record, and the ambient state can be used. -/
structure At (i : CoroutineId) (r : CoroutineRecord L) (w : World L) : Prop where
  has : w.Has i
  orderly : w.Orderly
  record : w.coroutine i = r

/-- Where a computation may be cut that started with a record. -/
def CutFrom (T : Terms) (i : CoroutineId) (r : CoroutineRecord L) (v : World L) : Prop :=
  Lawful T i v ∧ r.Precedes (v.coroutine i)

/-- The record at the end of a request that found the coroutine in its place. -/
structure Closes (T : Terms) (r r' : CoroutineRecord L) : Prop where
  sound : r'.IsSound T
  precedes : r.Precedes r'
  running : r'.running = false
  settled : T.strict → r'.IsSettled

/-- A record that the coroutine can finish with. -/
structure CoroutineRecord.IsSpent (T : Terms) (r : CoroutineRecord L) : Prop where
  status : r.status = .running
  running : r.running = false
  pending : r.pending = none
  entries : r.history.entries ≤ 1
  losses : r.IsAccounted T
  surprises : T.civil → r.history.surprises = 0
  lateAsks : r.history.lateAsks = 0
  fibers : r.history.fibers = 1
  misentries : r.history.misentries = 0
  faults : r.supply.lossIn = none → r.history.faults = 0
  finishes : r.history.finishes = 0
  freed : r.history.freed + r.fiber.toList.length ≤ 1

/-! ## Helpers -/

/-! ### Records -/

theorem Closes.leadsTo {r r' : CoroutineRecord L} (h : Closes T r r') (hr : r.running = false)
    (ha : ¬ r.IsAway) (hf : r.status ≠ .finished) (hl : r.Accounts r') : r.LeadsTo T r' :=
  ⟨h.precedes, h.running.trans hr.symm, fun h => absurd h ha, fun h => absurd h hf,
    fun ht _ => h.settled ht, hl⟩

theorem Closes.trans {r r' r'' : CoroutineRecord L} (h : Closes T r r') (h' : r'.LeadsTo T r'')
    (hs : r''.IsSound T) : Closes T r r'' :=
  ⟨hs, h.precedes.trans h'.toPrecedes, h'.running.trans h.running,
    fun ht => h'.settled ht (h.settled ht)⟩

theorem CutFrom.of_precedes {r r' : CoroutineRecord L} {v : World L} (h : r.Precedes r')
    (hv : CutFrom T i r' v) : CutFrom T i r v := ⟨hv.1, h.trans hv.2⟩

theorem CutFrom.of_at {r r' : CoroutineRecord L} {v : World L} (h : r.Precedes r')
    (hs : r'.IsSound T) (hv : At i r' v) : CutFrom T i r v := by
  rw [← hv.record] at h hs
  exact ⟨⟨hv.orderly, hs⟩, h⟩

/-! ### Steps of a request -/

namespace Meets

variable {x : Effect L α} {f : α → Effect L β} {r : CoroutineRecord L} {w : World L}
  {Q : Post L β}

theorem then_record {f : CoroutineRecord L → Effect L β} (h : At i r w) (next : Meets (f r) w Q) :
    Meets (recordOf i >>= f) w Q := by
  rw [← h.record] at next
  exact then_gets next

theorem sure {Q : Post L α} (hx : Sure x) (h : At i r w)
    (hQ : ∀ a v, At i r v → v.ambient = w.ambient → Q.ok a v) : Meets x w Q := by
  obtain ⟨a, ha⟩ := hx.2 w
  have hc := hx.1.coroutines w
  have hv := hx.1.aloof w
  rcases hw : x w with ⟨_ | _ | _, v⟩ <;> rw [hw] at ha hc hv <;> cases ha
  refine .of_ok hw (hQ a v ⟨?_, ⟨?_, ?_⟩, ?_⟩ hv)
  · rw [World.Has, hc]
    exact h.has
  · rw [hv]
    exact h.orderly.borrowed
  · rw [hv]
    exact h.orderly.hook
  · rw [World.coroutine, hc]
    exact h.record

theorem then_sure (hx : Sure x) (h : At i r w)
    (next : ∀ a v, At i r v → v.ambient = w.ambient → Meets (f a) v Q) :
    Meets (x >>= f) w Q := .bind (.sure hx h next)

theorem at_modify (h : At i r w) (g : CoroutineRecord L → CoroutineRecord L) :
    At i (g r) (w.modifyCoroutine i g) := by
  obtain ⟨hv, hr⟩ := modified_of_has h.has g
  exact ⟨hv, ⟨h.orderly.borrowed, h.orderly.hook⟩, hr.trans (congrArg g h.record)⟩

theorem then_update {γ : Type} {g : CoroutineRecord L → γ × CoroutineRecord L} {f : γ → Effect L β}
    (h : At i r w)
    (next : ∀ v, At i (g r).2 v → v.ambient = w.ambient → Meets (f (g r).1) v Q) :
    Meets (updateCoroutine i g >>= f) w Q := by
  have hm := next _ (at_modify h fun _ => (g r).2) rfl
  rw [← h.record] at hm
  exact ⟨hm.holds⟩

theorem then_modify {g : CoroutineRecord L → CoroutineRecord L} {f : Unit → Effect L β}
    (h : At i r w) (next : ∀ v, At i (g r) v → v.ambient = w.ambient → Meets (f ()) v Q) :
    Meets (modifyCoroutine i g >>= f) w Q := ⟨(next _ (at_modify h g) rfl).holds⟩

theorem then_ambient {γ : Type} {g : Ambient L → γ × Ambient L} {f : γ → Effect L β}
    (h : At i r w) (hb : ∀ a, (g a).2.borrowed = a.borrowed) (hh : ∀ a, (g a).2.hook = a.hook)
    (next : ∀ v, At i r v → v.ambient = (g w.ambient).2 → Meets (f (g w.ambient).1) v Q) :
    Meets (withAmbient g >>= f) w Q := by
  refine .then_eq (withAmbient_ok h.orderly) (next _ ⟨h.has, ⟨?_, ?_⟩, h.record⟩ rfl)
  · exact (hb _).trans h.orderly.borrowed
  · exact fun k hk => h.orderly.hook k ((hh _).symm.trans hk)

/-- What keeps the gentle law, from a record. -/
theorem of_gentle (hx : (gentle L T i).Kept x) (h : At i r w) (hs : r.IsSound T) :
    Meets x w
      ⟨fun _ v => ∃ r', At i r' v ∧ r'.IsSound T ∧ r.LeadsTo T r',
        fun v => ¬ T.strict ∧ ∃ r', At i r' v ∧ r'.IsSound T ∧ r.LeadsTo T r', CutFrom T i r⟩ := by
  have hw : Lawful T i w := ⟨h.orderly, h.record ▸ hs⟩
  have hstep {v : World L} (hv : Follows T i none w v) :
      ∃ r', At i r' v ∧ r'.IsSound T ∧ r.LeadsTo T r' := by
    obtain ⟨hi, hl⟩ := hv.leads h.has
    rw [h.record] at hl
    exact ⟨_, ⟨hi, hv.lawful.orderly, rfl⟩, hv.lawful.sound, hl⟩
  refine (hx w hw).mono (fun _ v hv => hstep hv) (fun v hv => ⟨hv.1, hstep hv.2⟩) ?_
  intro v hv
  have hp := hv.precedes h.has
  rw [h.record] at hp
  exact ⟨hv.lawful, hp⟩

theorem then_gentle (hx : (gentle L T i).Kept x) (h : At i r w) (hs : r.IsSound T)
    (next : ∀ a r' v, At i r' v → r'.IsSound T → r.LeadsTo T r' → Meets (f a) v Q)
    (panic : ∀ r' v, At i r' v → r'.IsSound T → r.LeadsTo T r' → ¬ T.strict → Q.panic v)
    (stop : ∀ v, CutFrom T i r v → Q.stop v) : Meets (x >>= f) w Q := by
  refine .bind ((Meets.of_gentle hx h hs).mono ?_ ?_ stop)
  · rintro a v ⟨r', hv, hr, hl⟩
    exact next a r' v hv hr hl
  · rintro v ⟨hd, r', hv, hr, hl⟩
    exact panic r' v hv hr hl hd

/-- What moreover leaves the scene alone in civil runs. -/
theorem then_civil (hx : (gentle L T i).Kept x)
    (hc : T.civil → (restoring True False (Ambient.scene false)).Kept x) (h : At i r w) (hs : r.IsSound T)
    (next : ∀ a r' v, At i r' v → r'.IsSound T → r.LeadsTo T r' →
      (T.civil → v.ambient.handled = w.ambient.handled) → Meets (f a) v Q)
    (panic : ∀ r' v, At i r' v → r'.IsSound T → r.LeadsTo T r' → ¬ T.strict → Q.panic v)
    (stop : ∀ v, CutFrom T i r v → Q.stop v) : Meets (x >>= f) w Q := by
  have scene : Meets x w
      ⟨fun _ v => T.civil → v.ambient.handled = w.ambient.handled, fun _ => True, fun _ => True⟩ := by
    by_cases ht : T.civil
    · refine (hc ht w h.orderly).mono ?_ (fun _ _ => trivial) fun _ _ => trivial
      exact fun _ v hv _ => congrArg Prod.fst hv.2
    · exact (Meets.of_gentle hx h hs).mono (fun _ _ _ h => absurd h ht) (fun _ _ => trivial)
        fun _ _ => trivial
  refine .bind (((Meets.of_gentle hx h hs).and scene).mono ?_ ?_ fun v hv => stop v hv.1)
  · rintro a v ⟨⟨r', hv, hr, hl⟩, hscene⟩
    exact next a r' v hv hr hl hscene
  · rintro v ⟨⟨hd, r', hv, hr, hl⟩, -⟩
    exact panic r' v hv hr hl hd

end Meets

/-! ### Releases -/

namespace Faithful

variable {E : Engine L}

theorem owningAll (hE : Faithful T i E) (vs us : List Value) :
    (gentle L T i).Kept (E.owning vs (E.releaseAll us)) :=
  (hE.releaseAll us).onPanic (hE.releaseAll vs)

theorem refuse (hE : Faithful T i E) (error : CoroutineError) (vs : List Value) :
    (gentle L T i).Kept (refuse E error vs : Effect L (Except Exception α)) := by
  refine .bind (gentle_quiet (raise_still _).quiet fun w _ => (raise_sure _).2 w) fun e => ?_
  exact .bind (hE.owningAll _ _) fun _ => gentle_quiet (.pure _) fun _ _ => ⟨_, rfl⟩

theorem discardStray (hE : Faithful T i E) :
    (gentle L T i).Kept (discardStray E) := by
  refine .bind (gentle_quiet fetchError_quiet ?_) fun stray => ?_
  · exact fun w hw => ⟨w.ambient.error, by rw [fetchError, withAmbient_ok hw]⟩
  · cases stray with
    | none => exact gentle_quiet (.pure _) fun _ _ => ⟨_, rfl⟩
    | some stray =>
      refine .bind (gentle_quiet (log_still _ _ _).quiet fun _ _ => ⟨_, rfl⟩) fun _ => ?_
      exact hE.releaseAll _

theorem releaseFiber (hE : Faithful T i E) (f : Fiber L) :
    (gentle L T i).Kept (releaseFiber E f) := by
  have note (suspended : Bool) :
      (gentle L T i).Kept (log .trace "fiber released"
          [("stack_size", .ofNat f.stackSize), ("suspended", .bool suspended)] : Effect L Unit) :=
    gentle_quiet (log_still _ _ _).quiet fun _ _ => ⟨_, rfl⟩
  unfold CoroutineEngine.releaseFiber
  cases f.stack with
  | released => exact gentle_quiet (.pure _) fun _ _ => ⟨_, rfl⟩
  | fresh => exact note false
  | completed => exact note false
  | suspended a => exact .bind (note true) fun _ => hE.releaseAll _

end Faithful

/-! ## The end of a body -/

section

variable {E : Engine L} {r : CoroutineRecord L} {w : World L}

/-- The record of a coroutine as it finishes. -/
def CoroutineRecord.asFinished (r : CoroutineRecord L) : CoroutineRecord L :=
  { r.noteFinish with status := .finished, frame := none, inputs := r.inputs.releaseParameters.2 }

theorem asFinished_sound (hr : r.IsSpent T) : r.asFinished.IsSound T where
  pending := .inl hr.pending
  running h := absurd (hr.running.symm.trans h) Bool.false_ne_true
  unused h := absurd h (show Status.finished ≠ .unused by decide)
  frame h := absurd h (show Status.finished ≠ .running by decide)
  finished _ := ⟨rfl, rfl⟩
  held h := absurd h (by simp [CoroutineRecord.asFinished, CoroutineRecord.released,
    Inputs.releaseParameters])
  torn _ := .inl rfl
  fiber _ _ h := absurd h (show Status.finished ≠ .running by decide)
  entries := hr.entries
  losses := hr.losses
  left _ h := absurd h (show Status.finished ≠ .running by decide)
  surprises := hr.surprises
  kept _ _ h := absurd h.1 (show Status.finished ≠ .running by decide)
  lateAsks := hr.lateAsks
  fibers := hr.fibers
  misentries := hr.misentries
  faults := hr.faults
  finishes := congrArg (· + 1) hr.finishes
  freed := Nat.le_trans hr.freed (Nat.le_of_eq hr.fibers.symm)

theorem asFinished_accounts (r : CoroutineRecord L) : r.Accounts r.asFinished :=
  .of_fields rfl ⟨rfl, rfl⟩ .rfl (Nat.le_refl _)

theorem asFinished_precedes (r : CoroutineRecord L) : r.Precedes r.asFinished := by
  refine ⟨?_, rfl, rfl, rfl, Nat.le_refl _, fun h => absurd h ?_, rfl, fun _ => rfl, Nat.le_refl _⟩
  · show r.status.rank ≤ 2
    cases r.status <;> decide
  · simp [CoroutineRecord.asFinished, CoroutineRecord.released, Inputs.releaseParameters]

/-- A coroutine that finishes gives up what it held, unless a finalizer panics. -/
theorem finish_meets (hE : Faithful T i E) (h : At i r w) (hr : r.IsSpent T) :
    Meets (finish E i) w
      ⟨fun _ v => ∃ r', At i r' v ∧ r.Accounts r' ∧ Closes T r r',
        fun v => ¬ T.strict ∧ ∃ r', At i r' v ∧ r.Accounts r' ∧ Closes T r r',
        CutFrom T i r⟩ := by
  have hp₁ := asFinished_precedes r
  have done {r' : CoroutineRecord L} (hs : r'.IsSound T) (hl : r.asFinished.LeadsTo T r')
      (hset : T.strict → r'.IsSettled) : r.Accounts r' ∧ Closes T r r' :=
    ⟨(asFinished_accounts r).trans hl.accounts hp₁, hs, hp₁.trans hl.toPrecedes,
      hl.running.trans hr.running, hset⟩
  have died {r' : CoroutineRecord L} {v : World L} (hv : At i r' v) (hs : r'.IsSound T)
      (hl : r.asFinished.LeadsTo T r') (hd : ¬ T.strict) :
      ¬ T.strict ∧ ∃ r', At i r' v ∧ r.Accounts r' ∧ Closes T r r' :=
    ⟨hd, r', hv, done hs hl fun ht => absurd ht hd⟩
  refine .then_update h fun v₁ h₁ _ => ?_
  refine .then_gentle (hE.releaseAll _) h₁ (asFinished_sound hr) ?_
    (fun r' v hv hs hl hd => died hv hs hl hd) fun v hv => hv.of_precedes hp₁
  intro _ r₂ v₂ h₂ hs₂ hl₂
  refine .then_update h₂ fun v₃ h₃ _ => ?_
  have hs₃ : CoroutineRecord.IsSound T { r₂ with awaiting := none } :=
    { hs₂ with unused := fun h => { hs₂.unused h with awaiting := rfl } }
  have hl₃ : r.asFinished.LeadsTo T { r₂ with awaiting := none } := hl₂.trans
    ⟨.of_fields rfl rfl rfl rfl ⟨rfl, rfl⟩ (Nat.le_refl _), rfl, fun ha => ⟨ha, rfl, .inl rfl, .inl rfl⟩,
      fun _ _ => rfl, fun _ _ _ => rfl, .of_fields rfl ⟨rfl, rfl⟩ .rfl (Nat.le_refl _)⟩
  refine .then_gentle (hE.releaseAll _) h₃ hs₃ ?_
    (fun r' v hv hs hl hd => died hv hs (hl₃.trans hl) hd) fun v hv =>
      hv.of_precedes (hp₁.trans hl₃.toPrecedes)
  intro _ r₄ v₄ h₄ hs₄ hl₄
  have ha₄ : r₄.awaiting = none := hl₄.awaiting (hl₃.toPrecedes.finished rfl) rfl
  have hl₄ := hl₃.trans hl₄
  have hf₄ := hl₄.toPrecedes.finished rfl
  have hp₄ : { r₄ with pending := none } = r₄ := by
    rcases hs₄.pending with hp | hp
    · rw [← hp]
    · rw [hf₄] at hp
      exact absurd hp.1 (by decide)
  refine .then_update h₄ fun v₅ h₅ _ => ?_
  replace h₅ : At i r₄ v₅ := hp₄ ▸ h₅
  refine .then_gentle (hE.releaseAll _) h₅ hs₄ ?_
    (fun r' v hv hs hl hd => died hv hs (hl₄.trans hl) hd) fun v hv =>
      hv.of_precedes (hp₁.trans hl₄.toPrecedes)
  intro _ r₆ v₆ h₆ hs₆ hl₆
  refine .sure (logCoroutine_sure _ _ _ _) h₆ fun _ v hv _ => ?_
  exact ⟨r₆, hv, done hs₆ (hl₄.trans hl₆) fun _ _ => hl₆.awaiting hf₄ ha₄⟩

/-! ## The way back to the driver -/

/-- A coroutine whose fiber stays out of its place. -/
structure StaysAway (r r' : CoroutineRecord L) : Prop extends r.Precedes r' where
  away : r'.IsAway
  running : r'.running = r.running
  frame : r'.frame = r.frame ∨ r'.released = true ∧ r'.frame = none
  freed : r'.history.freed = r.history.freed
  laid : r.IsLaid → r'.IsLaid
  bare : r.handles = 0 → r'.handles = 0

theorem StaysAway.trans {r r' r'' : CoroutineRecord L} (h : StaysAway r r')
    (h' : StaysAway r' r'') : StaysAway r r'' := by
  refine ⟨h.toPrecedes.trans h'.toPrecedes, h'.away, h'.running.trans h.running, ?_,
    h'.freed.trans h.freed, h'.laid ∘ h.laid, h'.bare ∘ h.bare⟩
  rcases h.frame with hf | ⟨hrel, hf⟩
  · exact h'.frame.imp_left fun hf' => hf'.trans hf
  · refine .inr ⟨h'.toPrecedes.released hrel, ?_⟩
    rcases h'.frame with hf' | hf'
    · exact hf'.trans hf
    · exact hf'.2

theorem CoroutineRecord.LeadsTo.staysAway {r r' : CoroutineRecord L} (h : r.LeadsTo T r')
    (hr : r.IsAway) : StaysAway r r' :=
  ⟨h.toPrecedes, (h.away hr).away, h.running, (h.away hr).frame,
    (h.accounts.gone (by rw [hr.1]; decide) hr.2).2, h.accounts.laid, h.accounts.bare⟩

/-- The record of a coroutine that is being left. -/
structure IsLeft (T : Terms) (r r' : CoroutineRecord L) : Prop
    extends StaysAway { r with running := false } r' where
  coherent : r'.IsCoherent T

theorem IsLeft.precedes {r r' : CoroutineRecord L} (h : IsLeft T r r') : r.Precedes r' :=
  ⟨h.rank, h.code, h.stackSize, h.lossIn, h.failures, h.inputs, h.parameters, h.entries, h.trespasses⟩

/-- What the body handled is kept for it. -/
def CoroutineRecord.KeepsHandled (r : CoroutineRecord L) : Prop :=
  r.frame ≠ none → r.handled = r.history.left

theorem discardStray_idle (E : Engine L) {w : World L} (hw : w.Orderly)
    (he : w.ambient.error = none) : discardStray E w = (.ok (), w) := by
  unfold discardStray fetchError
  rw [Effect.bind_ok (withAmbient_ok hw)]
  simp only [he]
  have ha : ({ w.ambient with error := none } : Ambient L) = w.ambient := by rw [← he]
  rw [ha]
  rfl

/-- The driver's state is back and the body's handled exception is kept. If the body left no error in the
slot, nothing is released on the way. -/
theorem restoreDriver_meets (hE : Faithful T i E) (h : At i r w) (hs : r.IsSound T)
    (ha : r.IsAway) (hh : r.handled = none)
    (he : T.tidy → r.supply.lossIn = none → w.ambient.error = none) (frame : Frame)
    (driver : DriverState) :
    Meets (restoreDriver E i frame driver) w
      ⟨fun _ v => ∃ r', At i r' v ∧ IsLeft T r r' ∧
          (T.civil → w.ambient.handled = r.history.left → r'.KeepsHandled),
        fun v => ¬ T.strict ∧ ∃ r', At i r' v ∧ r'.IsSound T ∧ IsLeft T r r', CutFrom T i r⟩ := by
  have hp₁ : r.Precedes { r with running := false } := .of_fields rfl rfl rfl rfl ⟨rfl, rfl⟩ (Nat.le_refl _)
  refine .then_modify h fun v₁ h₁ hv₁ => ?_
  have scene (vs us : List Value) : T.civil →
      (restoring True False (Ambient.scene false)).Kept (E.owning vs (E.releaseAll us)) := fun ht =>
    (((hE.courteous ht).releasedAll us).onPanic ((hE.courteous ht).releasedAll vs)).narrow id
      (fun _ => id) fun _ _ => scene_of_side
  by_cases hloose : T.tidy → r.supply.lossIn = none → r.released = true
  · have hs₁ : CoroutineRecord.IsSound T { r with running := false } := by
      exact { hs with
        running := fun h => absurd h Bool.false_ne_true
        unused := fun h => { hs.unused h with }
        kept := fun ht hl _ => .inr (hloose ht hl) }
    have died {r' : CoroutineRecord L} {v : World L} (hv : At i r' v) (hs : r'.IsSound T)
        (hl : StaysAway { r with running := false } r') (hd : ¬ T.strict) :
        ¬ T.strict ∧ ∃ r', At i r' v ∧ r'.IsSound T ∧ IsLeft T r r' :=
      ⟨hd, r', hv, hs, hl, hs.toIsCoherent⟩
    have stray : T.civil → (restoring True False (Ambient.scene false)).Kept
        (E.owning driver.owned (discardStray E)) := fun ht =>
      ((hE.courteous ht).discardStray.narrow (fun _ => trivial) (fun _ => id) fun _ _ => id).onPanic
        (((hE.courteous ht).releasedAll _).narrow id (fun _ => id) fun _ _ => scene_of_side)
    refine .then_civil (hE.discardStray.onPanic (hE.releaseAll _)) stray h₁ hs₁ ?_
      (fun r' v hv hs hl hd => died hv hs (hl.staysAway ha) hd) fun v hv => hv.of_precedes hp₁
    intro _ r₂ v₂ h₂ hs₂ hl₂ hv₂
    have hleft₂ : r₂.history.left = r.history.left := (hl₂.away ha).left
    have hl₂ := hl₂.staysAway ha
    refine .then_ambient h₂ (fun _ => rfl) (fun _ => rfl) fun v₃ h₃ hv₃ => ?_
    refine .then_civil (hE.owningAll _ _) (scene _ _) h₃ hs₂ ?_
      (fun r' v hv hs hl hd => died hv hs (hl₂.trans (hl.staysAway hl₂.away)) hd) fun v hv =>
        hv.of_precedes (hp₁.trans hl₂.toPrecedes)
    intro _ r₄ v₄ h₄ hs₄ hl₄ hv₄
    have hleft₄ : r₄.history.left = r.history.left := (hl₄.away hl₂.away).left.trans hleft₂
    have hl₄ := hl₂.trans (hl₄.staysAway hl₂.away)
    refine .then_ambient h₄ (fun _ => rfl) (fun _ => rfl) fun v₅ h₅ _ => ?_
    refine .then_update h₅ fun v₆ h₆ _ => ?_
    have hown (ht : T.civil) : v₄.ambient.handled = w.ambient.handled := by
      rw [hv₄ ht, hv₃, ← hv₁]
      exact hv₂ ht
    generalize (v₄.ambient.handled : Option Exception) = own at h₆ hown
    have hs₆ : CoroutineRecord.IsSound T { r₄ with handled := own } := by
      exact { hs₄ with
        unused := fun h => absurd (h.symm.trans hl₄.away.1) (by decide)
        left := fun _ _ hf => absurd hl₄.away.2 hf }
    have hl₆ : StaysAway { r with running := false } { r₄ with handled := own } := hl₄.trans
      ⟨.of_fields rfl rfl rfl rfl ⟨rfl, rfl⟩ (Nat.le_refl _), hl₄.away, rfl, .inl rfl, rfl, id, id⟩
    refine .then_gentle (hE.releaseAll _) h₆ hs₆ ?_
      (fun r' v hv hs hl hd => died hv hs (hl₆.trans (hl.staysAway hl₆.away)) hd) fun v hv =>
        hv.of_precedes (hp₁.trans hl₆.toPrecedes)
    intro _ r₇ v₇ h₇ hs₇ hl₇
    have hlinger := hl₇.away hl₆.away
    have hl₇ := hl₆.trans (hl₇.staysAway hl₆.away)
    refine .then_sure (swapBack_sure _ _) h₇ fun _ v₈ h₈ _ => ?_
    refine .then_ambient h₈ (fun _ => rfl) (fun _ => rfl) fun v₉ h₉ _ => ?_
    refine .pure ⟨r₇, h₉, ⟨hl₇, hs₇.toIsCoherent⟩, fun ht hw hframe => ?_⟩
    refine (hlinger.handled.resolve_right fun h => hframe h.2).trans ?_
    exact ((hown ht).trans hw).trans (hlinger.left.trans hleft₄).symm
  · have hslot : v₁.ambient.error = none := by
      rw [hv₁]
      refine he ?_ ?_
      · exact Classical.byContradiction fun ht => hloose fun h => absurd h ht
      · exact Classical.byContradiction fun ht => hloose fun _ h => absurd h ht
    refine .then_eq (a := ()) (Effect.onPanic_ok (discardStray_idle E h₁.orderly hslot)) ?_
    refine .then_ambient h₁ (fun _ => rfl) (fun _ => rfl) fun v₂ h₂ hv₂ => ?_
    rw [show ((v₁.ambient.error, { v₁.ambient with error := driver.error }) : _ × _).1 = none
      from hslot]
    refine .then_eq (a := ()) (v := v₂) rfl ?_
    refine .then_ambient h₂ (fun _ => rfl) (fun _ => rfl) fun v₃ h₃ _ => ?_
    refine .then_update h₃ fun v₄ h₄ _ => ?_
    rw [show ((r.handled, _) : Option Exception × CoroutineRecord L).1 = none from hh]
    refine .then_eq (a := ()) (v := v₄) rfl ?_
    refine .then_sure (swapBack_sure _ _) h₄ fun _ v₅ h₅ _ => ?_
    refine .then_ambient h₅ (fun _ => rfl) (fun _ => rfl) fun v₆ h₆ _ => ?_
    refine .pure ⟨_, h₆, ⟨⟨.of_fields rfl rfl rfl rfl ⟨rfl, rfl⟩ (Nat.le_refl _), ha, rfl, .inl rfl, rfl, id, id⟩, ?_⟩, ?_⟩
    · exact { hs.toIsCoherent with
        running := fun h => absurd h Bool.false_ne_true
        unused := fun h => absurd (h.symm.trans ha.1) (by decide)
        left := fun _ _ hf => absurd ha.2 hf }
    · intro _ hw _
      show v₂.ambient.handled = r.history.left
      rw [hv₂, hv₁]
      exact hw

end

end CoroutineEngine
