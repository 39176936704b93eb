import CoroutineEngine.Proofs.Answers

/-!
# The law is kept

Requests, finalization and teardown keep the law of the record of their coroutine, and so does everything
that a client asks for. By induction on the depth of nesting the engine keeps it.

Results:
* `Faithful.client`: whatever a client does keeps the law.
* `faithful_watched`: the engine keeps it at every depth.
-/

namespace CoroutineEngine

variable {L : Language} {α : Type} {T : Terms} {i : CoroutineId} {E : Engine L} {w : World L}

/-! ## Definitions -/

/-- What a watch knows of the runs that it lets pass. -/
def Watch.terms (W : Watch) (i : CoroutineId) : Terms :=
  ⟨W.strict = true, W.tidy = some i, W.civil = true⟩

/-! ## Changes of the record -/

theorem updateCoroutine_absent (hi : ¬ w.Has i)
    (f : CoroutineRecord L → α × CoroutineRecord L) :
    updateCoroutine i f w = (.ok (f default).1, w) := by
  show (Outcome.ok (f (w.coroutine i)).1, w.modifyCoroutine i _) = _
  rw [modifyCoroutine_absent hi, World.coroutine_eq_default (Nat.le_of_not_lt hi)]

/-- A change of the record that the law allows, for the body that executes or for everybody else. -/
theorem standing_own {k : Option CoroutineId} {x : Effect L α}
    (hx : ∀ w, (w.coroutine i).IsSound T → (k = some i → (w.coroutine i).IsExecuting) →
      ∃ a f, x w = (.ok a, w.modifyCoroutine i f) ∧ (f (w.coroutine i)).IsSound T ∧
        (w.coroutine i).LeadsTo T (f (w.coroutine i))) : (standing L T i k).Kept x := by
  intro w hw
  obtain ⟨a, f, hv, hs, hl⟩ := hx w hw.1.sound hw.2
  by_cases hi : w.Has i
  · have hat := Meets.at_modify ⟨hi, hw.1.orderly, rfl⟩ f
    rw [← hat.record] at hs hl
    exact .of_ok hv (standing_step hw ⟨hat.orderly, hs⟩ (fun _ => ⟨hat.has, hl⟩) (absurd hi))
  · rw [modifyCoroutine_absent hi] at hv
    exact .of_ok hv (.refl hw.1 hw.2)

theorem standing_update {k : Option CoroutineId} {f : CoroutineRecord L → α × CoroutineRecord L}
    (hf : ∀ r, r.IsSound T → (k = some i → r.IsExecuting) →
      (f r).2.IsSound T ∧ r.LeadsTo T (f r).2) : (standing L T i k).Kept (updateCoroutine i f) :=
  standing_own fun w hs hk => ⟨_, fun _ => (f (w.coroutine i)).2, rfl, hf _ hs hk⟩

theorem standing_modify {k : Option CoroutineId} {f : CoroutineRecord L → CoroutineRecord L}
    (hf : ∀ r, r.IsSound T → (f r).IsSound T ∧ r.LeadsTo T (f r)) :
    (standing L T i k).Kept (modifyCoroutine i f) :=
  standing_own fun _ hs _ => ⟨(), f, rfl, hf _ hs⟩

/-- A change that the law does not speak of. -/
theorem standing_noted {k : Option CoroutineId} {f : CoroutineRecord L → CoroutineRecord L}
    (hf : ∀ r : CoroutineRecord L, r.Spares (f r) ∧ (f r).handles = r.handles ∧
      r.history.trespasses ≤ (f r).history.trespasses) :
    (standing L T i k).Kept (modifyCoroutine i f) :=
  standing_modify fun r hs =>
    have hzero : (f r).handles = 0 ↔ r.handles = 0 := by rw [(hf r).2.1]
    ⟨(hf r).1.sound hzero.mpr hs, (hf r).1.leadsTo hzero (hf r).2.2⟩

/-- A request that is told of the record of its coroutine keeps the law, if it does so also where there is
no such coroutine. -/
theorem standing_meets {x : Effect L α}
    (present : ∀ r w, At i r w → r.IsSound T → Meets x w (Followed L α T i r))
    (absent : ∀ w, (standing L T i none).start w → ¬ w.Has i →
      Meets x w ((standing L T i none).post w)) : (standing L T i none).Kept x := by
  intro w hw
  by_cases hi : w.Has i
  · have hstep {v : World L} (hv : Leads T i (w.coroutine i) v) : Follows T i none w v := by
      obtain ⟨r', hv, hs, hl⟩ := hv
      have hr' := hv.record
      subst hr'
      exact standing_step hw ⟨hv.orderly, hs⟩ (fun _ => ⟨hv.has, hl⟩) (absurd hi)
    refine (present _ w ⟨hi, hw.1.orderly, rfl⟩ hw.1.sound).mono ?_ ?_ ?_
    · exact fun _ v hv => hstep hv
    · exact fun v hv => hstep hv
    · exact fun v hv => ⟨hv.1, fun _ => hv.2⟩
  · exact absent w hw hi

theorem Meets.followed_standing {x : Effect L α} {r : CoroutineRecord L}
    (hx : (standing L T i none).Kept x) (h : At i r w) (hs : r.IsSound T) :
    Meets x w (Followed L α T i r) := by
  have hw : Lawful T i w := ⟨h.orderly, h.record ▸ hs⟩
  have led {v : World L} (hv : Follows T i none w v) : Leads T i r v := by
    obtain ⟨hi, hl⟩ := hv.leads h.has
    rw [h.record] at hl
    exact ⟨_, ⟨hi, hv.lawful.orderly, rfl⟩, hv.lawful.sound, hl⟩
  refine (hx w ⟨hw, fun h => (Option.some_ne_none _ h.symm).elim⟩).mono (fun _ v hv => led hv)
    (fun v hv => led hv) fun v hv => ⟨hv.lawful, ?_⟩
  have hp := hv.precedes h.has
  rwa [h.record] at hp

/-- A computation with a cleanup for the case that it panics. -/
theorem Meets.followed_onPanic {x : Effect L α} {c : Effect L Unit} {r : CoroutineRecord L}
    (hx : Meets x w (Followed L α T i r))
    (hc : ∀ r' v, At i r' v → r'.IsSound T → Meets c v (Followed L Unit T i r')) :
    Meets (x.onPanic c) w (Followed L α T i r) := by
  refine .onPanic (hx.mono (fun _ _ h => h) ?_ fun _ h => h)
  rintro v ⟨r', hv, hs, hl⟩
  refine (Meets.of_leads hl (hc r' v hv hs)).mono (fun _ _ h => h) ?_ fun _ h => h
  exact fun u ⟨r'', hu, hs', hl'⟩ => .of_at hl'.toPrecedes hs' hu

/-- What owns handles releases them if it panics. -/
theorem Faithful.owning_followed (hE : Faithful T i E) (vs : List Value) {x : Effect L α}
    {r : CoroutineRecord L} (hx : Meets x w (Followed L α T i r)) :
    Meets (E.owning vs x) w (Followed L α T i r) :=
  hx.followed_onPanic fun _ _ hv hs => .followed (hE.releaseAll vs) hv hs

/-! ## Coroutines that do not exist -/

/-- A computation that gives a result and leaves everything in peace where the coroutine does not
exist. -/
def Idle (i : CoroutineId) (x : Effect L α) : Prop :=
  ∀ w, ¬ w.Has i → ∃ a v, x w = (.ok a, v) ∧ ¬ v.Has i ∧ Undisturbed w v

namespace Idle

theorem sure {x : Effect L α} (hx : Sure x) : Idle i x := by
  intro w hi
  obtain ⟨a, ha⟩ := hx.2 w
  have hc := hx.1.coroutines w
  have hu := hx.1.harmless w
  rcases hw : x w with ⟨_ | _ | _, v⟩ <;> rw [hw] at ha hc hu <;> cases ha
  refine ⟨a, v, rfl, ?_, hu⟩
  rw [World.Has, hc]
  exact hi

theorem bind {β : Type} {x : Effect L α} {f : α → Effect L β} (hx : Idle i x)
    (hf : ∀ a, Idle i (f a)) : Idle i (x >>= f) := by
  intro w hi
  obtain ⟨a, v, hv, hiv, huv⟩ := hx w hi
  obtain ⟨b, u, hu, hiu, huu⟩ := hf a v hiv
  exact ⟨b, u, (Effect.bind_ok hv f).trans hu, hiu, huv.trans huu⟩

theorem record {f : CoroutineRecord L → Effect L α} (hf : Idle i (f default)) :
    Idle i (recordOf i >>= f) := by
  intro w hi
  rw [← World.coroutine_eq_default (Nat.le_of_not_lt hi)] at hf
  exact hf w hi

theorem update {β : Type} {g : CoroutineRecord L → β × CoroutineRecord L} {f : β → Effect L α}
    (hf : Idle i (f (g default).1)) : Idle i (updateCoroutine i g >>= f) := by
  intro w hi
  rw [Effect.bind_ok (updateCoroutine_absent hi g)]
  exact hf w hi

theorem modify (f : CoroutineRecord L → CoroutineRecord L) :
    Idle i (modifyCoroutine i f : Effect L Unit) := by
  intro w hi
  refine ⟨(), w, ?_, hi, .refl w⟩
  exact congrArg (Prod.mk (Outcome.ok ())) (modifyCoroutine_absent hi f)

/-- What follows an idle computation keeps the law if it does so where the coroutine does not exist. -/
theorem meets {β : Type} {x : Effect L α} {f : α → Effect L β} (hx : Idle i x)
    (hf : ∀ a v, (standing L T i none).start v → ¬ v.Has i →
      Meets (f a) v ((standing L T i none).post v))
    (hw : (standing L T i none).start w) (hi : ¬ w.Has i) :
    Meets (x >>= f) w ((standing L T i none).post w) := by
  obtain ⟨a, v, hv, hiv, hu⟩ := hx w hi
  have hstep := standing_of_undisturbed hw hu
  exact .then_eq hv (Law.post_of_step hstep (hf a v ((standing L T i none).next hstep) hiv))

theorem mapStack : Idle i (mapStack 0 : Effect L (Option FiberError)) := by
  have hgranted : Stack.grant 0 = .granted := by decide
  unfold CoroutineEngine.mapStack
  rw [hgranted]
  exact .sure (.bind (log_sure _ _ _) fun _ => .pure _)

theorem materialize : Idle i (materialize i : Effect L (Option FiberError)) := by
  refine .record (.bind (.sure (makeFrame_sure _)) fun frame => .bind ?_ fun result => ?_)
  · refine .update (.bind mapStack fun failure => ?_)
    cases failure <;> exact .sure (.pure _)
  · cases result with
    | error e => exact .bind (.sure (logCoroutine_sure _ _ _ _)) fun _ => .sure (.pure _)
    | ok f =>
      exact .bind (.modify _) fun _ => .bind (.sure (logCoroutine_sure _ _ _ _)) fun _ =>
        .sure (.pure _)

end Idle

/-- A send to a coroutine that does not exist finds no frame. -/
theorem send_absent (hE : Faithful T i E) (hw : (standing L T i none).start w) (hi : ¬ w.Has i) :
    Meets (send E i .none) w ((standing L T i none).post w) := by
  have refused {v : World L} (error : CoroutineError) (hv : (standing L T i none).start v) :
      Meets (refuse E error [.none] : Effect L Reply) v ((standing L T i none).post v) :=
    gentle_anyone (hE.refuse error [.none]) v hv
  refine .then_gets ?_
  rw [World.coroutine_eq_default (Nat.le_of_not_lt hi)]
  refine (Idle.modify _).meets (fun _ u hw hi => ?_) hw hi
  refine Idle.materialize.meets (fun failure v hv hiv => ?_) hw hi
  cases failure with
  | some error => exact refused _ hv
  | none =>
    refine .then_eq (updateCoroutine_absent hiv _) (.then_gets ?_)
    rw [World.coroutine_eq_default (Nat.le_of_not_lt hiv)]
    exact (Idle.modify _).meets (fun _ u hu _ => refused _ hu) hv hiv

/-! ## Requests -/

namespace Faithful

theorem anyone {k : Option CoroutineId} {x : Effect L α} (hx : (standing L T i none).Kept x) :
    (standing L T i k).Kept x := standing_stranger (by simp) hx

/-- What is done with any coroutine keeps the law if it does so on the one that the law is about. -/
theorem anyHolder (hE : Faithful T i E) {x : CoroutineId → Procedure L α}
    (hx : ∀ c, Holder c (x c)) (hi : (standing L T i none).Kept (x i E)) (c : CoroutineId) :
    (standing L T i none).Kept (x c E) := by
  by_cases hc : c = i
  · subst hc
    exact hi
  · exact hE.holder hc (hx c)

/-- A send keeps the law. -/
theorem send (hE : Faithful T i E) (v : Value) (c : CoroutineId) :
    (standing L T i none).Kept (send E c v) := by
  refine hE.anyHolder (x := fun c E => CoroutineEngine.send E c v)
    (fun _ => (Request.send v).holder) ?_ c
  refine standing_meets (fun r w h hs => send_meets hE h hs v) fun w hw hi => ?_
  cases v with
  | none => exact send_absent hE hw hi
  | _ =>
    refine .then_gets ?_
    rw [World.coroutine_eq_default (Nat.le_of_not_lt hi)]
    exact gentle_anyone (hE.refuse _ _) w hw

/-- A throw keeps the law. -/
theorem throwPending (hE : Faithful T i E) (p : PendingException) (c : CoroutineId) :
    (standing L T i none).Kept (throwPending E c p) := by
  refine hE.anyHolder (x := fun c E => CoroutineEngine.throwPending E c p)
    (fun _ => (Request.throwPending p).holder) ?_ c
  refine standing_meets (fun r w h hs => throwPending_meets hE h hs p) fun w hw hi => ?_
  have unprimed : (standing L T i none).Kept (updateCoroutine i fun r : CoroutineRecord L =>
      (r.pending, { r with pending := none })) :=
    standing_update fun r hs _ => ⟨unprimed_sound hs, unprimed_leadsTo r⟩
  refine .then_gets ?_
  rw [World.coroutine_eq_default (Nat.le_of_not_lt hi)]
  refine .then_eq (updateCoroutine_absent hi _) (.then_eq rfl (.bind ((send_absent hE hw hi).mono
    ?_ (fun _ h => h) fun _ h => h)))
  intro reply v hv
  refine (unprimed.bind fun left => ?_).after hv
  exact (gentle_anyone (hE.owningAll _ _)).bind fun _ => standing_quiet (.pure _)

/-- A close keeps the law. -/
theorem close (hE : Faithful T i E) (c : CoroutineId) :
    (standing L T i none).Kept (close E c) := by
  refine .bind (standing_quiet (.gets _)) fun r => ?_
  split
  · exact standing_quiet (.pure _)
  · refine .bind (hE.throwPending _ c) fun reply => ?_
    cases reply with
    | ok v => exact gentle_anyone (hE.refuse _ _)
    | error e =>
      dsimp only
      split
      · exact .bind (gentle_anyone (hE.release _)) fun _ => standing_quiet (.pure _)
      · exact standing_quiet (.pure _)

/-! ## Finalization -/

theorem closeUnraisable (hE : Faithful T i E) : (standing L T i none).Kept (closeUnraisable E i) := by
  have marked : (standing L T i none).Kept (modifyCoroutine i fun r : CoroutineRecord L =>
      { r with finalized := true }) :=
    standing_noted fun _ => ⟨rfl, rfl, Nat.le_refl _⟩
  refine marked.bind fun _ => .bind (standing_quiet fetchError_quiet) fun saved =>
    .bind (hE.owning _ ((hE.close i).bind fun reply => ?_)) fun _ =>
      .bind (standing_quiet (swapError_quiet _)) fun _ => gentle_anyone (hE.releaseAll _)
  cases reply with
  | ok v => exact gentle_anyone (hE.release v)
  | error e => exact .bind (standing_quiet (.gets _)) fun _ => hE.report _ e

end Faithful

/-! ## Teardown -/

/-- The record of a coroutine that gives up its parameters. -/
def CoroutineRecord.unloaded (r : CoroutineRecord L) : CoroutineRecord L :=
  { r with inputs := r.inputs.releaseParameters.2 }

/-- The record of a coroutine that gives up its cells. -/
def CoroutineRecord.uncelled (r : CoroutineRecord L) : CoroutineRecord L :=
  { r with inputs := r.inputs.releaseClosure.2 }

/-- The record of a coroutine that gives up its frame and its fiber. -/
def CoroutineRecord.dismantled (r : CoroutineRecord L) : CoroutineRecord L :=
  { r.noteFreed with frame := none, fiber := none }

/-- The record of a coroutine that gives up all that is left. -/
def CoroutineRecord.remains (r : CoroutineRecord L) : CoroutineRecord L :=
  { r.noteFreed with
    fiber := none, pending := none, frame := none, awaiting := none, handled := none
    inputs := ⟨[], [], true⟩ }

/-- The record of a coroutine whose last handle is given up. -/
def CoroutineRecord.abandoned (r : CoroutineRecord L) : CoroutineRecord L :=
  { r with handles := r.handles - 1 }

theorem CoroutineRecord.unloaded_released (r : CoroutineRecord L) : r.unloaded.released = true := rfl

namespace CoroutineRecord

variable {r r' : CoroutineRecord L}

theorem IsCoherent.fibers_le (hs : r.IsCoherent T) : r.history.fibers ≤ 1 := by
  rw [hs.fibers]
  split <;> omega

/-- A coroutine that gives up its fiber, if that is in its place, has no switch in flight that it had not
before. -/
theorem IsCoherent.accounts_of_freed (hs : r.IsCoherent T) (hb : r'.fiber = none)
    (hf : r'.history.fibers = r.history.fibers ∧
      r'.history.freed = r.history.freed + r.fiber.toList.length)
    (hh : r'.handles = r.handles) (ht : r'.history.trespasses = r.history.trespasses) :
    r.Accounts r' := by
  have hone := hs.fibers_le
  have hlanded : r'.IsInFlight → r.IsInFlight := by
    rintro ⟨-, hlt⟩
    rw [hf.1, hf.2] at hlt
    cases hfib : r.fiber with
    | none => exact ⟨hfib, Nat.lt_of_le_of_lt (Nat.le_add_right _ _) hlt⟩
    | some f =>
      rw [hfib] at hlt
      simp only [Option.toList_some, List.length_singleton] at hlt
      omega
  refine ⟨hh.trans, hlanded, fun hl h0 ht0 => ?_, fun _ hn => ⟨hb, ?_⟩⟩
  · exact ⟨hb, fun h => (hl (hh ▸ h0) (ht ▸ ht0)).2 (hlanded h)⟩
  · rw [hf.2, hn]
    rfl

/-- What follows once the last handle was given up follows from the record before, if the coroutine was
torn down. -/
theorem LeadsTo.of_abandoned (h : r.abandoned.LeadsTo T r') (hl : r'.IsLaid) : r.LeadsTo T r' where
  rank := h.rank
  code := h.code
  stackSize := h.stackSize
  lossIn := h.lossIn
  failures := h.failures
  inputs := h.inputs
  parameters := h.parameters
  entries := h.entries
  trespasses := h.trespasses
  running := h.running
  away ha :=
    have hb := h.away ha
    ⟨hb.away, hb.left, hb.handled, hb.frame⟩
  awaiting := h.awaiting
  settled := h.settled
  accounts := ⟨fun h0 => h.accounts.bare (congrArg (· - 1) h0), h.accounts.landed, fun _ => hl,
    h.accounts.gone⟩

end CoroutineRecord

namespace Faithful

variable {r : CoroutineRecord L}

theorem remains_sound (hs : r.IsSound T) (hbare : r.handles = 0) : r.remains.IsSound T :=
  { hs with
    pending := .inl rfl
    running := fun h => ⟨(hs.running h).1, rfl⟩
    unused := fun h => ⟨rfl, rfl, rfl, rfl, (hs.unused h).left, (hs.unused h).entries⟩
    frame := fun _ h => absurd h (by simp [CoroutineRecord.remains, CoroutineRecord.released])
    finished := fun _ => ⟨rfl, rfl⟩
    held := fun h => absurd h (by simp [CoroutineRecord.remains, CoroutineRecord.released])
    torn := fun _ => .inr hbare
    losses := hs.losses
    fiber := fun f hf => absurd hf (by simp [CoroutineRecord.remains])
    left := fun _ _ hf => absurd rfl hf
    kept := fun _ _ _ => .inr rfl
    freed := hs.freed }

theorem remains_leadsTo (hs : r.IsSound T) : r.LeadsTo T r.remains :=
  ⟨⟨Nat.le_refl _, rfl, rfl, rfl, Nat.le_refl _, fun h => absurd h
    (by simp [CoroutineRecord.remains, CoroutineRecord.released]), rfl, fun _ => rfl, Nat.le_refl _⟩,
    rfl, fun ha => ⟨⟨ha.1, rfl⟩, rfl, .inr ⟨rfl, rfl⟩, .inr ⟨rfl, rfl⟩⟩, fun _ _ => rfl,
    fun _ _ _ => rfl, hs.accounts_of_freed rfl ⟨rfl, rfl⟩ rfl rfl⟩

/-- Giving up what is left keeps the law. -/
theorem releaseRemains_meets (hE : Faithful T i E) (h : At i r w) (hs : r.IsSound T)
    (hbare : r.handles = 0) : Meets (releaseRemains E i) w (Followed L Unit T i r.remains) := by
  refine .then_update h fun v hv _ => .followed ?_ hv (remains_sound hs hbare)
  refine .andFinally ?_ (hE.releaseAll _)
  cases r.fiber with
  | none => exact gentle_quiet (.pure _) fun _ _ => ⟨_, rfl⟩
  | some f => exact hE.releaseFiber f

end Faithful

namespace Faithful

theorem unloaded_sound {r : CoroutineRecord L} (hs : r.IsSound T) (hbare : r.handles = 0) :
    r.unloaded.IsSound T :=
  { hs with
    unused := fun h => { hs.unused h with }
    frame := fun _ h => absurd (r.unloaded_released.symm.trans h) (by decide)
    finished := fun h => ⟨(hs.finished h).1, rfl⟩
    held := fun h => absurd (r.unloaded_released.symm.trans h) (by decide)
    torn := fun _ => .inr hbare
    kept := fun _ _ _ => .inr rfl }

theorem uncelled_sound {r : CoroutineRecord L} (hs : r.IsSound T) (hrel : r.released = true) :
    r.uncelled.IsSound T :=
  { hs with
    unused := fun h => { hs.unused h with }
    held := fun h => absurd (hrel.symm.trans h) (by simp) }

theorem dismantled_sound {r : CoroutineRecord L} (hs : r.IsSound T) (hrel : r.released = true) :
    r.dismantled.IsSound T :=
  { hs with
    running := fun h => ⟨(hs.running h).1, rfl⟩
    unused := fun h => { hs.unused h with fiber := rfl, frame := rfl }
    frame := fun _ h => absurd (hrel.symm.trans h) (by simp)
    finished := fun h => ⟨rfl, (hs.finished h).2⟩
    fiber := fun f hf => absurd hf (by simp [CoroutineRecord.dismantled])
    left := fun _ _ hf => absurd rfl hf
    held := hs.held
    losses := hs.losses
    kept := fun _ _ _ => .inr hrel
    freed := hs.freed }

/-- A coroutine that is torn down gives up its frame and its fiber when its inputs are gone. -/
theorem relinquish_meets (hE : Faithful T i E) {r : CoroutineRecord L} (h : At i r w)
    (hs : r.IsSound T) (hbare : r.handles = 0) :
    Meets (relinquish E i) w (Followed L Unit T i r) := by
  have hl₁ : r.LeadsTo T r.unloaded :=
    ⟨⟨Nat.le_refl _, rfl, rfl, rfl, Nat.le_refl _,
      fun h => absurd (r.unloaded_released.symm.trans h) (by decide), rfl, fun _ => rfl,
      Nat.le_refl _⟩, rfl, fun ha => ⟨ha, rfl, .inl rfl, .inl rfl⟩, fun _ => id, fun _ => id,
      .of_fields rfl ⟨rfl, rfl⟩ .rfl (Nat.le_refl _)⟩
  have panicked {r' : CoroutineRecord L} {v : World L} (hv : At i r' v) (hs : r'.IsSound T)
      (hl : r.unloaded.LeadsTo T r') : Leads T i r v := ⟨r', hv, hs, hl₁.trans hl⟩
  refine .then_update h fun v₁ h₁ _ => ?_
  refine .then_gentle (hE.releaseAll _) h₁ (unloaded_sound hs hbare) ?_
    (fun r' v hv hs hl _ => panicked hv hs hl) fun v hv => hv.of_precedes hl₁.toPrecedes
  intro _ r₂ v₂ h₂ hs₂ hl₂
  refine .then_update h₂ fun v₃ h₃ _ => ?_
  have hrel₂ : r₂.released = true := hl₂.toPrecedes.released rfl
  have hl₃ : r₂.LeadsTo T r₂.uncelled :=
    ⟨⟨Nat.le_refl _, rfl, rfl, rfl, Nat.le_refl _, fun h => absurd (hrel₂.symm.trans h) (by simp),
      rfl, fun _ => rfl, Nat.le_refl _⟩, rfl, fun ha => ⟨ha, rfl, .inl rfl, .inl rfl⟩, fun _ => id,
      fun _ => id, .of_fields rfl ⟨rfl, rfl⟩ .rfl (Nat.le_refl _)⟩
  have hl₃ := hl₂.trans hl₃
  refine .then_gentle (hE.releaseAll _) h₃ (uncelled_sound hs₂ hrel₂) ?_
    (fun r' v hv hs hl _ => panicked hv hs (hl₃.trans hl)) fun v hv =>
      hv.of_precedes (hl₁.trans hl₃).toPrecedes
  intro _ r₄ v₄ h₄ hs₄ hl₄
  have hl₄ := hl₃.trans hl₄
  have hrel₄ : r₄.released = true := hl₄.toPrecedes.released rfl
  refine .then_update h₄ fun v₅ h₅ _ => ?_
  have hs₅ := dismantled_sound hs₄ hrel₄
  have hl₅ : r₄.LeadsTo T r₄.dismantled :=
    ⟨.of_fields rfl rfl rfl rfl ⟨rfl, rfl⟩ (Nat.le_refl _), rfl,
      fun ha => ⟨⟨ha.1, rfl⟩, rfl, .inl rfl, .inr ⟨hrel₄, rfl⟩⟩, fun _ => id, fun _ => id,
      hs₄.accounts_of_freed rfl ⟨rfl, rfl⟩ rfl rfl⟩
  have hl₅ := hl₄.trans hl₅
  have released : (gentle L T i).Kept (r₄.fiber.elim (pure ()) (CoroutineEngine.releaseFiber E)) := by
    cases r₄.fiber with
    | none => exact gentle_quiet (.pure _) fun _ _ => ⟨_, rfl⟩
    | some f => exact hE.releaseFiber f
  refine .then_gentle released h₅ hs₅ ?_
    (fun r' v hv hs hl _ => panicked hv hs (hl₅.trans hl)) fun v hv =>
      hv.of_precedes (hl₁.trans hl₅).toPrecedes
  intro _ r₆ v₆ h₆ hs₆ hl₆
  refine .then_sure (untrackObject_sure _) h₆ fun _ v₇ h₇ _ => ?_
  exact .sure (logCoroutine_sure _ _ _ _) h₇ fun _ v₈ h₈ _ => panicked h₈ hs₆ (hl₅.trans hl₆)

/-- Saying farewell to a coroutine that nobody holds any more, and giving up its inputs and its fiber,
keeps the law. -/
theorem farewell (hE : Faithful T i E) {r : CoroutineRecord L} (h : At i r w) (hs : r.IsSound T)
    (hbare : r.handles = 0) :
    Meets
      (do
        let saved ← fetchError
        E.owning ((saved.map (·.owned)).getD []) do
          if (← recordOf i).isSuspended then
            modifyCoroutine i CoroutineRecord.noteFarewell
            CoroutineEngine.closeUnraisable E i
          CoroutineEngine.relinquish E i
        E.releasePending? (← swapError saved))
      w (Followed L Unit T i r) := by
  refine .then_followed (.followed_standing (standing_quiet fetchError_quiet) h hs)
    fun saved r₁ v₁ h₁ hs₁ hl₁ => ?_
  have hbare₁ := hl₁.accounts.bare hbare
  refine .then_followed (hE.owning_followed _ (.then_record h₁ ?_)) fun _ r₂ v₂ h₂ hs₂ _ => ?_
  · split
    · refine .then_followed (.followed_standing
        (standing_noted fun _ => ⟨rfl, rfl, Nat.le_refl _⟩) h₁ hs₁) fun _ r₂ v₂ h₂ hs₂ hl₂ => ?_
      refine .then_followed (.followed_standing hE.closeUnraisable h₂ hs₂)
        fun _ r₃ v₃ h₃ hs₃ hl₃ => ?_
      exact hE.relinquish_meets h₃ hs₃ (hl₃.accounts.bare (hl₂.accounts.bare hbare₁))
    · exact hE.relinquish_meets h₁ hs₁ hbare₁
  · exact .then_followed (.followed_standing (standing_quiet (swapError_quiet _)) h₂ hs₂)
      fun _ r₃ v₃ h₃ hs₃ _ => .followed (hE.releaseAll _) h₃ hs₃

/-- Teardown keeps the law, and leaves no fiber behind. -/
theorem teardown_meets (hE : Faithful T i E) (h : At i r w) (hs : r.IsSound T)
    (hbare : r.handles = 0) :
    Meets (teardown E i) w
      ⟨fun _ v => ∃ r', At i r' v ∧ r'.IsSound T ∧ r.LeadsTo T r' ∧ r'.IsLaid,
        fun v => ∃ r', At i r' v ∧ r'.IsSound T ∧ r.LeadsTo T r' ∧ r'.IsLaid, CutFrom T i r⟩ := by
  have hspares : r.Spares r.noteTeardown := rfl
  have hs₁ := hspares.sound id hs
  have hl₁ : r.LeadsTo T r.noteTeardown := hspares.leadsTo .rfl (Nat.le_add_right _ _)
  -- a switch that is in flight is a trespass, so what is left behind is laid
  have last {v : World L} (hv : Leads T i r.noteTeardown v) :
      Meets (releaseRemains E i) v
        ⟨fun _ v => ∃ r', At i r' v ∧ r'.IsSound T ∧ r.LeadsTo T r' ∧ r'.IsLaid,
          fun v => ∃ r', At i r' v ∧ r'.IsSound T ∧ r.LeadsTo T r' ∧ r'.IsLaid, CutFrom T i r⟩ := by
    obtain ⟨r₂, h₂, hs₂, hl₂⟩ := hv
    have hl₃ := hl₂.trans (remains_leadsTo hs₂)
    have hlaid : r₂.remains.IsLaid := by
      refine fun _ ht => ⟨rfl, fun hfly => ?_⟩
      have ht₁ : r.noteTeardown.history.trespasses = 0 := Nat.le_zero.mp (ht ▸ hl₃.trespasses)
      have hfly₁ : r.isInFlight = true :=
        CoroutineRecord.isInFlight_iff.mpr (hl₃.accounts.landed hfly)
      simp [CoroutineRecord.noteTeardown, hfly₁] at ht₁
    refine (hE.releaseRemains_meets h₂ hs₂ (hl₂.accounts.bare hbare)).mono ?_ ?_ ?_
    · rintro _ u ⟨r₄, h₄, hs₄, hl₄⟩
      exact ⟨r₄, h₄, hs₄, (hl₁.trans hl₃).trans hl₄, hl₄.accounts.laid hlaid⟩
    · rintro u ⟨r₄, h₄, hs₄, hl₄⟩
      exact ⟨r₄, h₄, hs₄, (hl₁.trans hl₃).trans hl₄, hl₄.accounts.laid hlaid⟩
    · exact fun u hu => hu.of_precedes (hl₁.trans hl₃).toPrecedes
  refine .then_modify h fun v₁ h₁ _ => .andFinally ?_
  refine (hE.farewell h₁ hs₁ hbare).mono (fun _ v hv => last hv) ?_ ?_
  · refine fun v hv => (last hv).mono (fun _ _ h => h) ?_ fun _ h => h
    rintro u ⟨r', hu, hs', hl', -⟩
    exact .of_at hl'.toPrecedes hs' hu
  · exact fun v hv => hv.of_precedes hl₁.toPrecedes

/-- Giving up a handle keeps the law: a coroutine whose last handle it was is torn down. -/
theorem dropHandle (hE : Faithful T i E) : (standing L T i none).Kept (dropHandle E i) := by
  refine standing_meets (fun r w h hs => .then_update h fun v hv _ => ?_) fun w hw hi => ?_
  · have hspares : r.Spares r.abandoned := rfl
    have hs' := hspares.sound (congrArg (· - 1)) hs
    have hp : r.Precedes r.abandoned := .of_fields rfl rfl rfl rfl ⟨rfl, rfl⟩ (Nat.le_refl _)
    split
    · next hone =>
      refine .followed_onPanic ((hE.teardown_meets hv hs' (congrArg (· - 1) hone)).mono ?_ ?_ ?_)
        fun _ _ hu hs' => .followed_standing (standing_noted fun _ => ⟨rfl, rfl, Nat.le_refl _⟩) hu hs'
      · exact fun _ u ⟨r', hu, hs', hl', hlaid⟩ => ⟨r', hu, hs', hl'.of_abandoned hlaid⟩
      · exact fun u ⟨r', hu, hs', hl', hlaid⟩ => ⟨r', hu, hs', hl'.of_abandoned hlaid⟩
      · exact fun u hu => CutFrom.of_precedes hp hu
    · next hone =>
      have hd : r.abandoned.handles = 0 ↔ r.handles = 0 := by
        show r.handles - 1 = 0 ↔ r.handles = 0
        omega
      exact .pure ⟨_, hv, hs', hspares.leadsTo hd (Nat.le_refl _)⟩
  · refine .then_eq (updateCoroutine_absent hi _) ?_
    exact .pure (.refl hw.1 hw.2)

/-- The release of a handle of the coroutine keeps the law. -/
theorem releaseCoroutine (hE : Faithful T i E) (c : CoroutineId) :
    (standing L T i none).Kept (releaseCoroutine E c) := by
  refine hE.anyHolder (x := fun c E => CoroutineEngine.releaseCoroutine E c)
    (fun _ => Holder.releaseCoroutine) (.andFinally ?_ hE.dropHandle) c
  refine .bind (standing_quiet (.gets _)) fun r => ?_
  split
  · refine .bind (standing_quiet (logCoroutine_still _ _ _ _).quiet) fun _ =>
      .bind (standing_noted fun _ => ⟨rfl, rfl, Nat.le_refl _⟩) fun _ =>
        .bind hE.closeUnraisable fun _ => .bind (standing_quiet (.gets _)) fun r => ?_
    split
    · exact standing_quiet (logCoroutine_still _ _ _ _).quiet
    · exact standing_quiet (.pure _)
  · exact standing_quiet (.pure _)

/-! ## Clients and the engine -/

/-- Whatever a client does keeps the law. -/
theorem client (hE : Faithful T i E) {k : Option CoroutineId} {x : Procedure L α}
    (hx : Client k x) : (standing L T i k).Kept (x E) := by
  refine Composed.kept ?_ hx
  intro α x hx
  cases hx with
  | quiet hx => exact standing_quiet hx
  | release v => exact gentle_anyone (hE.release v)
  | send c v => exact anyone (hE.send v c)
  | throwPending c p => exact anyone (hE.throwPending p c)
  | close c => exact anyone (hE.close c)
  | report object e => exact anyone (hE.report object e)
  | await c v hk =>
    by_cases hc : c = i
    · subst hc
      refine standing_update fun r hs hx => ?_
      have hrun : r.status = .running := (hx hk).1.1
      refine ⟨{ hs with unused := fun h => absurd (hrun.symm.trans h) (by decide) }, ?_⟩
      exact ⟨.of_fields rfl rfl rfl rfl ⟨rfl, rfl⟩ (Nat.le_refl _), rfl,
        fun ha => ⟨ha, rfl, .inl rfl, .inl rfl⟩,
        fun h => absurd (hrun.symm.trans h) (by decide),
        fun _ _ h => absurd (hrun.symm.trans h) (by decide),
        .of_fields rfl ⟨rfl, rfl⟩ .rfl (Nat.le_refl _)⟩
    · exact standing_other hc (updateCoroutine_held c fun _ => Nat.le_refl _)

/-- The release of a handle keeps the law. -/
theorem releaseHandle (hE : Faithful T i E) (v : Value) :
    (standing L T i none).Kept (releaseHandle E v) := by
  refine Composed.kept ?_ (Release.releaseHandle v)
  intro α x hx
  cases hx with
  | discreet hx => exact standing_quiet hx.quiet
  | release v => exact gentle_anyone (hE.release v)
  | coroutine c => exact hE.releaseCoroutine c

end Faithful

theorem faithful_halted : Faithful T i (.halted : Engine L) where
  release v w hw := by
    unfold Engine.halted
    dsimp only
    split
    · exact .pure (.refl hw fun h => (Option.some_ne_none _ h.symm).elim)
    · exact ⟨(Follows.refl (k := none) hw fun h => (Option.some_ne_none _ h.symm).elim).cut⟩
  empty _ := rfl
  run k a t w hw := ⟨(Follows.refl hw.1 hw.2).cut⟩
  tidy _ _ _ _ _ _ := ⟨trivial⟩
  courteous _ := courteous_halted

/-- The engine above an engine that keeps the law keeps it under a watch. -/
theorem Faithful.under {W : Watch} (hE : Faithful (W.terms i) i E) (n : Nat) :
    Faithful (W.terms i) i ((E.next n).under W) where
  release v w hw := by
    refine .under_release ((hE.releaseHandle v w ⟨hw, fun h => (Option.some_ne_none _ h.symm).elim⟩).mono ?_ ?_
      fun _ h => h)
    · exact fun _ u hu => ⟨hu.cut, fun _ => hu⟩
    · refine fun u hu => ⟨hu.cut, fun _ hs => ⟨?_, hu⟩⟩
      show ¬ W.strict = true
      simp [hs]
  empty w := by
    simp [Engine.under, Engine.next, CoroutineEngine.releaseHandle, Watch.disturbed, visited,
      recounted]
  run k a t := (hE.client (Client.runBody n a t)).under_run Follows.cut
  tidy ht k a t w hk := by
    have htidy : W.tidy = some i := ht
    have slot {u : World L} (ho : W.objects k w u = false) : u.ambient.error = none := by
      cases he : u.ambient.error with
      | none => rfl
      | some e => exact absurd ho (by simp [Watch.objects, htidy, hk, he])
    exact .under_run (.of_all (fun _ _ => ⟨trivial, slot⟩) (fun _ => ⟨trivial, fun ho _ => slot ho⟩)
      fun _ => trivial)
  courteous ht := (hE.courteous ht).under (fun h => h.elim) ht nofun n

/-- The engine keeps the law at every depth of nesting. -/
theorem faithful_watched (W : Watch) (i : CoroutineId) (n : Nat) :
    Faithful (W.terms i) i (.watched L W n) := by
  induction n with
  | zero => exact faithful_halted
  | succ n ih => exact ih.under n

end CoroutineEngine
