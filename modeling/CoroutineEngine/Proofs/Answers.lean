import CoroutineEngine.Proofs.Switch

/-!
# Requests on a coroutine

The three ways in which a request goes on: it is refused, it starts the coroutine, or it resumes it. A
throw primes its exception before it goes the way of a send.

Results:
* `materialize_meets`: the first resumption makes a frame and a fiber, or fails.
* `send_meets`, `throwPending_meets`: requests keep the law of the record of their coroutine.
* `throwFresh_meets`: a throw that starts a coroutine does not enter the body.
-/

namespace CoroutineEngine

variable {L : Language} {T : Terms} {i : CoroutineId} {E : Engine L} {r : CoroutineRecord L}
  {w : World L}

/-! ## Definitions -/

namespace CoroutineRecord

/-- The next fiber that is asked for is granted. -/
def IsGranted (r : CoroutineRecord L) : Prop :=
  r.supply.failures = 0 ∧ Stack.grant r.supply.stackSize = .granted

/-- The record after a refused fiber, with so many refusals left. -/
def refused (r : CoroutineRecord L) (n : Nat) : CoroutineRecord L :=
  { r with supply := { r.supply with failures := n } }

/-- The record of a coroutine that got its frame and its fiber. -/
def materialized (r : CoroutineRecord L) (frame : Frame) : CoroutineRecord L :=
  { r.noteFiber with
    fiber := some ⟨r.supply.stackSize, r.supply.lossIn, .fresh⟩
    frame := some frame, status := .running }

/-- The record without the primed exception. -/
def unprimed (r : CoroutineRecord L) : CoroutineRecord L := { r with pending := none }

/-- The record of a coroutine that was just started, as far as later requests depend on it. -/
def begun (r : CoroutineRecord L) : CoroutineRecord L :=
  { r with
    fiber := some ⟨r.supply.stackSize, r.supply.lossIn, .fresh⟩
    status := .running, pending := none }

/-- What a resumption with a value delivers: the primed exception if there is one. -/
def delivery (r : CoroutineRecord L) (v : Value) : Transfer :=
  match r.pending with
  | some p => .ofPending p
  | none => .ofValue v

end CoroutineRecord

/-! ## Starting -/

theorem CoroutineRecord.IsGranted.not_doomed (h : r.IsGranted) : ¬ r.IsDoomed :=
  fun hd => absurd (h.2.symm.trans hd.2) (by decide)

/-- A fiber that an unused coroutine asks for is not asked for too late. -/
theorem noteAsk_unused (hu : r.status = .unused) : r.noteAsk = r := by
  rw [CoroutineRecord.noteAsk, if_pos hu]
  rfl

/-- The supply gives a fiber or refuses one; it panics only if no stack has the size that is asked
for. -/
theorem createFiber_meets (h : At i r w) (hu : r.status = .unused) :
    Meets (createFiber i) w
      ⟨fun result v =>
          match result with
          | .error _ => ¬ r.IsDoomed ∧ ¬ r.IsGranted ∧
              ∃ n, n ≤ r.supply.failures ∧ At i (r.refused n) v
          | .ok f => r.IsGranted ∧ f = ⟨r.supply.stackSize, r.supply.lossIn, .fresh⟩ ∧ At i r v,
        fun v => r.IsDoomed ∧ At i r v, fun _ => False⟩ := by
  refine .then_update h fun v h _ => ?_
  replace h : At i r v := noteAsk_unused hu ▸ h
  cases hn : r.supply.failures with
  | succ n =>
    refine .then_modify h fun v h _ => .pure ⟨?_, ?_, n, Nat.le_succ n, h⟩
    · exact fun hd => absurd (hn.symm.trans hd.1) (by simp)
    · exact fun hd => absurd (hn.symm.trans hd.1) (by simp)
  | zero =>
    dsimp only
    unfold mapStack
    cases hg : Stack.grant r.supply.stackSize with
    | overflow => exact ⟨⟨hn, hg⟩, h⟩
    | outOfMemory =>
      refine .then_eq rfl (.pure ⟨?_, ?_, 0, Nat.le_refl _, ?_⟩)
      · exact fun hd => absurd (hg.symm.trans hd.2) (by decide)
      · exact fun hd => absurd (hg.symm.trans hd.2) (by decide)
      · rw [CoroutineRecord.refused, ← hn]
        exact h
    | granted =>
      refine .bind (.then_sure (log_sure _ _ _) h fun _ v h _ => .pure ?_)
      exact .pure ⟨⟨hn, hg⟩, rfl, h⟩

/-- The first resumption makes a frame and a fiber, or fails like its supply. -/
theorem materialize_meets (h : At i r w) (hu : r.status = .unused) :
    Meets (materialize i) w
      ⟨fun failure v =>
          match failure with
          | some _ => ¬ r.IsDoomed ∧ ¬ r.IsGranted ∧
              ∃ n, n ≤ r.supply.failures ∧ At i (r.refused n) v
          | none => r.IsGranted ∧ ∃ frame, At i (r.materialized frame) v,
        fun v => r.IsDoomed ∧ At i r v, fun _ => False⟩ := by
  refine .then_record h (.then_sure (makeFrame_sure _) h fun frame v h _ => ?_)
  refine .bind ((createFiber_meets h hu).mono ?_ (fun _ h => h) fun _ h => h)
  rintro result v hres
  cases result with
  | error e =>
    obtain ⟨hd, hg, n, hn, hv⟩ := hres
    exact .then_sure (logCoroutine_sure _ _ _ _) hv fun _ v hv _ => .pure ⟨hd, hg, n, hn, hv⟩
  | ok f =>
    obtain ⟨hg, rfl, hv⟩ := hres
    refine .then_modify hv fun v hv _ => ?_
    refine .then_sure (logCoroutine_sure _ _ _ _) hv fun _ v hv _ => ?_
    exact .pure ⟨hg, frame, hv⟩

/-! ## Resuming -/

theorem unprimed_eq (h : r.pending = none) : r.unprimed = r := by
  rw [CoroutineRecord.unprimed, ← h]

theorem unprimed_sound (hs : r.IsSound T) : r.unprimed.IsSound T :=
  { hs with pending := .inl rfl, unused := fun hu => { hs.unused hu with } }

theorem unprimed_leadsTo (r : CoroutineRecord L) : r.LeadsTo T r.unprimed :=
  .of_fields rfl rfl rfl rfl ⟨rfl, rfl, rfl⟩ ⟨rfl, rfl⟩ .rfl (Nat.le_refl _) rfl rfl rfl rfl rfl

/-- A resumption delivers the primed exception, or else the value. -/
theorem resumeWith_meets (hE : Faithful T i E) (h : At i r w) {v : Value}
    (hv : r.pending ≠ none → v = .none) (hs : r.unprimed.taken.IsCoherent T)
    (hr : r.running = false) (hrun : r.status = .running)
    (hkeep : T.civil → r.fiber ≠ none → r.KeepsHandled)
    (hf : ∀ f, r.fiber = some f →
      Enterable r f (r.delivery v) ∧ (r.supply.lossIn = none → f.lossIn = none))
    {r₀ : CoroutineRecord L} (hr₀ : r₀.running = false) (ha₀ : ¬ r₀.IsAway ∨ r₀ = r.unprimed)
    (hf₀ : r₀.status ≠ .finished)
    (hnotes : ∀ f r₁, r.fiber = some f → Notes f (r.delivery v) r.unprimed.taken r₁ →
      Begins r₀ r₁)
    (hmissing : r.frame = none ∨ r.fiber = none → r.unprimed.IsSound T ∧ r₀ = r.unprimed)
    (hfreed : r.fiber ≠ none → r.history.freed = 0) :
    Meets (resumeWith E i v) w (Followed L Reply T i r₀) := by
  refine .then_update h fun v₁ h₁ _ => ?_
  cases hp : r.pending with
  | none =>
    rw [CoroutineRecord.delivery, hp] at hf hnotes
    exact resume_meets hE h₁ hs hr hrun hkeep hf hr₀ ha₀ hf₀ hnotes hmissing hfreed
  | some p =>
    rw [CoroutineRecord.delivery, hp] at hf hnotes
    rw [hv (by simp [hp])]
    refine .then_eq (Effect.onPanic_ok (hE.empty v₁)) ?_
    exact resume_meets hE h₁ hs hr hrun hkeep hf hr₀ ha₀ hf₀ hnotes hmissing hfreed

/-- A started coroutine is resumed with what is primed. -/
theorem resumeStarted_meets (hE : Faithful T i E) (h : At i r w) {v : Value}
    (hv : r.pending ≠ none → v = .none) (hs : r.unprimed.IsSound T) (hr : r.running = false)
    (hrun : r.status = .running) :
    Meets (resumeWith E i v) w (Followed L Reply T i r.unprimed) := by
  have hfreed (hf : r.fiber ≠ none) : r.history.freed = 0 := by
    obtain ⟨f, hf⟩ := Option.ne_none_iff_exists'.mp hf
    have hle : r.history.freed + r.fiber.toList.length ≤ r.history.fibers := hs.freed
    have hone := hs.fibers_one (show r.status ≠ .unused by rw [hrun]; decide)
    rw [hf, show r.history.fibers = 1 from hone] at hle
    exact Nat.le_zero.mp (Nat.le_of_succ_le_succ hle)
  have hbarred : r.isBarred = false := by
    unfold CoroutineRecord.isBarred
    cases hf : r.fiber with
    | none => rfl
    | some f =>
      obtain ⟨⟨a, ha⟩, -⟩ := hs.fiber f hf hrun
      simp [hrun, hr, Fiber.isDead, ha, hfreed (by simp [hf])]
  have htaken : r.unprimed.taken.IsCoherent T :=
    { hs with
      running := fun _ => ⟨hrun, rfl⟩
      unused := fun h => absurd (hrun.symm.trans h) (by decide)
      fiber := fun f hf => absurd hf (by simp [CoroutineRecord.taken])
      left := fun _ _ hf => absurd rfl hf
      held := hs.held
      losses := hs.losses
      misentries := taken_misentries hbarred hs.misentries
      freed := Nat.le_trans (Nat.le_add_right _ _) hs.freed }
  have hfin : r.status ≠ .finished := by
    rw [hrun]
    decide
  refine resumeWith_meets hE h hv htaken hr hrun (fun ht => hs.left ht hrun) ?_ hr (.inr rfl) hfin ?_
    (fun _ => ⟨hs, rfl⟩) hfreed
  · intro f hf
    obtain ⟨hwait, hloss⟩ := hs.fiber f hf hrun
    exact ⟨.inl hwait, hloss⟩
  · intro f r₁ hf hn
    cases hn with
    | same =>
      -- a coroutine with its fiber in its place was not torn down
      refine ⟨taken_precedes _, fun hlaid h0 ht0 => ?_, id⟩
      exact absurd ((hf.symm.trans (hlaid h0 ht0).1 : some f = none)) (by simp)
    | entry hfresh =>
      obtain ⟨⟨a, ha⟩, -⟩ := hs.fiber f hf hrun
      exact absurd (ha.symm.trans hfresh) (by simp)

/-! ## Starting -/

theorem refused_leadsTo {n : Nat} (hn : n ≤ r.supply.failures) : r.LeadsTo T (r.refused n) :=
  ⟨⟨Nat.le_refl _, rfl, rfl, rfl, hn, fun _ => rfl, rfl, fun _ => rfl, Nat.le_refl _⟩, rfl,
    fun ha => ⟨ha, rfl, .inl rfl, .inl rfl⟩, fun _ => id, fun _ => id,
    .of_fields rfl ⟨rfl, rfl⟩ .rfl (Nat.le_refl _)⟩

theorem refused_sound {n : Nat} (hs : r.IsSound T) (hp : r.pending = none) :
    (r.refused n).IsSound T :=
  { hs with pending := .inl hp, unused := fun hu => { hs.unused hu with } }

/-- A coroutine is started: the supply refuses and nothing has changed, or it goes on as it is resumed
with what is primed. What follows is told of a record `r₀` that comes before every record that notes
the start. -/
theorem launch_meets (hE : Faithful T i E) (h : At i r w) (hs : r.unprimed.IsSound T)
    (hu : r.status = .unused) (hd : ¬ r.IsDoomed) (r₀ : CoroutineRecord L)
    (hr₀ : r₀.running = false) (ha₀ : ¬ r₀.IsAway) (hf₀ : r₀.status ≠ .finished)
    (hnotes : ∀ f frame r₁, Notes f (r.delivery .none) (r.materialized frame).unprimed.taken r₁ →
      Begins r₀ r₁) :
    Meets
      (do
        match ← materialize i with
        | some error => refuse E (.allocation error) [.none]
        | none => resumeWith E i .none) w
      ⟨fun _ v => (¬ r.IsGranted ∧ ∃ n, n ≤ r.supply.failures ∧ At i (r.refused n) v) ∨
          Leads T i r₀ v,
        Leads T i r₀, CutFrom T i r₀⟩ := by
  refine .bind ((materialize_meets h hu).mono ?_ (fun v hv => absurd hv.1 hd) fun _ h => h.elim)
  intro failure v hv
  cases failure with
  | some error =>
    obtain ⟨-, hg, n, hn, hv⟩ := hv
    refine .then_sure (raise_sure _) hv fun e v hv _ => ?_
    refine .then_eq (Effect.onPanic_ok (Effect.andFinally_ok (hE.empty v) rfl)) ?_
    exact .pure (.inl ⟨hg, n, hn, hv⟩)
  | none =>
    obtain ⟨hg, frame, hv⟩ := hv
    have hr : r.running = false := by
      cases hr : r.running with
      | false => rfl
      | true => exact absurd (hu.symm.trans (hs.running hr).1) (by decide)
    have hfibers : r.history.fibers = 0 := hs.fibers.trans (if_pos hu)
    have hfreed : r.history.freed = 0 := by
      have hle : r.history.freed + r.fiber.toList.length ≤ r.history.fibers := hs.freed
      rw [hfibers] at hle
      exact Nat.le_zero.mp (Nat.le_trans (Nat.le_add_right _ _) hle)
    have hbarred : (r.materialized frame).unprimed.isBarred = false := by
      simp [CoroutineRecord.isBarred, CoroutineRecord.materialized, CoroutineRecord.noteFiber,
        CoroutineRecord.unprimed, Fiber.isDead, hfreed, hr]
    have hcoherent : (r.materialized frame).unprimed.taken.IsCoherent T :=
      { hs with
        pending := .inl rfl
        running := fun _ => ⟨rfl, rfl⟩
        unused := fun h => absurd h (show Status.running ≠ .unused by decide)
        frame := fun _ _ => Option.some_ne_none frame
        finished := fun h => absurd h (show Status.running ≠ .finished by decide)
        torn := fun ht => .inr ((hs.torn ht).resolve_left (show r.status ≠ .finished by rw [hu]; decide))
        fiber := fun f hf => absurd hf (by simp [CoroutineRecord.taken])
        left := fun _ _ hf => absurd rfl hf
        held := hs.held
        losses := hs.losses
        fibers := congrArg (· + 1) hfibers
        misentries := taken_misentries hbarred hs.misentries
        finishes := hs.finishes.trans (if_neg (show r.status ≠ .finished by rw [hu]; decide))
        freed := by
          show r.history.freed + 0 ≤ r.history.fibers + 1
          rw [hfreed]
          exact Nat.zero_le _ }
    have hnew := hs.unused hu
    have hentries : (r.materialized frame).history.entries = 0 := hnew.entries
    have hkeep : (r.materialized frame).KeepsHandled := fun _ => hnew.handled.trans hnew.left.symm
    refine (resumeWith_meets hE hv (fun _ => rfl) hcoherent hr rfl (fun _ _ => hkeep) ?_ hr₀
      (.inl ha₀) hf₀ ?_ ?_ fun _ => hfreed).mono (fun _ v hv => .inr hv) (fun v hv => hv) fun v hv => hv
    · intro f hf
      rw [← Option.some.inj hf]
      refine ⟨.inr ⟨rfl, ?_, fun _ => hentries⟩, id⟩
      unfold CoroutineRecord.delivery
      split <;> rfl
    · exact fun f r₁ _ hn => hnotes f frame r₁ hn
    · rintro (h | h) <;> cases h

/-- Whoever starts a coroutine that was torn down trespasses. -/
theorem materialized_trespasses (frame : Frame) (h0 : r.handles = 0) :
    (r.materialized frame).history.trespasses ≠ 0 := by
  simp [CoroutineRecord.materialized, CoroutineRecord.noteFiber, h0]

theorem materialized_begins (hu : r.status = .unused) {f : Fiber L} {t : Transfer} {frame : Frame}
    {r₁ : CoroutineRecord L} (h : Notes f t (r.materialized frame).unprimed.taken r₁) :
    Begins r.unprimed r₁ := by
  have hrank : r.status.rank ≤ Status.running.rank := by
    rw [hu]
    decide
  have htrespass : r.history.trespasses ≤ (r.materialized frame).history.trespasses :=
    Nat.le_add_right _ _
  refine ⟨?_, fun _ h0 ht0 => ?_, fun h0 => ?_⟩
  · cases h <;>
      exact ⟨hrank, rfl, rfl, rfl, Nat.le_refl _, fun _ => rfl, rfl, absurd hu, htrespass⟩
  · cases h <;> exact absurd ht0 (materialized_trespasses frame h0)
  · cases h <;> exact h0

/-- Asking for a fiber that no stack can have panics. -/
theorem launch_doomed (h : At i r w) (hu : r.status = .unused) (hd : r.IsDoomed) {α : Type}
    (f : Option FiberError → Effect L α) {Q : Post L α} (hQ : ∀ v, At i r v → Q.panic v) :
    Meets (materialize i >>= f) w Q := by
  refine .bind ((materialize_meets h hu).mono ?_ (fun v hv => hQ v hv.2) fun _ h => h.elim)
  intro failure v hv
  cases failure with
  | some error => exact absurd hd hv.1
  | none => exact absurd hd hv.1.not_doomed

/-! ## Sending -/

theorem noteVisit_spares (r : CoroutineRecord L) : r.Spares r.noteVisit := rfl

/-- What follows the note of a visit follows what was there before. -/
theorem Meets.of_visit {α : Type} {x : Effect L α} (h : Meets x w (Followed L α T i r.noteVisit)) :
    Meets x w (Followed L α T i r) :=
  .of_leads ((noteVisit_spares r).leadsTo .rfl (Nat.le_refl _)) h

/-- A send starts a coroutine that was never resumed. -/
theorem send_unused (h : At i r w) (hu : r.status = .unused) (hr : r.running = false) {Q : Post L Reply}
    (next : ∀ v, At i r.noteVisit v → Meets
      (do
        match ← materialize i with
        | some error => refuse E (.allocation error) [.none]
        | none => resumeWith E i .none) v Q) : Meets (send E i .none) w Q := by
  have hnone : ¬ (r.status = .unused ∧ (!Value.none.isNone) = true) :=
    fun h => absurd h.2 (by decide)
  have hfin : ¬ r.status = .finished := by
    rw [hu]
    decide
  have hrun : ¬ r.running = true := by simp [hr]
  refine .then_record h ?_
  simp only [if_neg hnone, if_neg hfin, if_neg hrun, if_pos hu]
  exact .then_modify h fun v hv _ => next v hv

/-- A send resumes a coroutine that was started. -/
theorem send_started (h : At i r w) (hrun : r.status = .running) (hr : r.running = false) (v : Value)
    {Q : Post L Reply} (next : ∀ u, At i r.noteVisit u → Meets (resumeWith E i v) u Q) :
    Meets (send E i v) w Q := by
  have hu : ¬ r.status = .unused := by
    rw [hrun]
    decide
  have hfirst : ¬ (r.status = .unused ∧ (!v.isNone) = true) := fun h => hu h.1
  have hfin : ¬ r.status = .finished := by
    rw [hrun]
    decide
  have hr' : ¬ r.running = true := by simp [hr]
  refine .then_record h ?_
  simp only [if_neg hfirst, if_neg hfin, if_neg hr', if_neg hu]
  exact .then_modify h fun u hu _ => .then_eq rfl (next u hu)

/-- A send keeps the law of the record of its coroutine. -/
theorem send_meets (hE : Faithful T i E) (h : At i r w) (hs : r.IsSound T) (v : Value) :
    Meets (send E i v) w (Followed L Reply T i r) := by
  by_cases hr : r.running = true
  · -- the status is running as well: the request is refused
    have hrun := (hs.running hr).1
    have hu : ¬ (r.status = .unused ∧ (!v.isNone) = true) := fun h =>
      absurd (hrun.symm.trans h.1) (by decide)
    have hfin : ¬ r.status = .finished := fun h => absurd (hrun.symm.trans h) (by decide)
    refine .then_record h ?_
    simp only [if_neg hu, if_neg hfin, if_pos hr]
    exact .followed (hE.refuse _ _) h hs
  have hr : r.running = false := by simpa using hr
  cases hstatus : r.status with
  | unused =>
    by_cases hv : v = .none
    · subst hv
      refine send_unused h hstatus hr fun v₁ h₁ => .of_visit ?_
      have hs := (noteVisit_spares r).sound id hs
      by_cases hd : r.noteVisit.IsDoomed
      · exact launch_doomed h₁ hstatus hd _ fun v hv => ⟨_, hv, hs, .refl _⟩
      · have hp := unprimed_eq (hs.pending.resolve_right fun hp => hd hp.2)
        refine (launch_meets hE h₁ (unprimed_sound hs) hstatus hd r.noteVisit hr ?_ ?_ ?_).mono ?_
          (fun _ h => h) fun _ h => h
        · exact fun ha => absurd (hstatus.symm.trans ha.1) (by decide)
        · exact fun hfin => absurd (hstatus.symm.trans hfin) (by decide)
        · exact fun f frame r₁ hn => hp ▸ materialized_begins (r := r.noteVisit) hstatus hn
        · rintro reply v (⟨-, n, hn, hv⟩ | hv)
          · exact ⟨_, hv, refused_sound hs (hp ▸ rfl), refused_leadsTo hn⟩
          · exact hv
    · have hfirst : r.status = .unused ∧ (!v.isNone) = true := by
        refine ⟨hstatus, ?_⟩
        cases v <;> first | exact absurd rfl hv | rfl
      refine .then_record h ?_
      simp only [if_pos hfirst]
      exact .followed (hE.refuse _ _) h hs
  | running =>
    have hp := hs.pending_none (by rw [hstatus]; decide)
    refine send_started h hstatus hr v fun u h₁ => .of_visit ?_
    have hs := (noteVisit_spares r).sound id hs
    have hm := resumeStarted_meets (v := v) hE h₁ (fun h => absurd hp h) (unprimed_sound hs) hr hstatus
    rw [unprimed_eq (r := r.noteVisit) hp] at hm
    exact hm
  | finished =>
    have hu : ¬ (r.status = .unused ∧ (!v.isNone) = true) := fun h =>
      absurd (hstatus.symm.trans h.1) (by decide)
    refine .then_record h ?_
    simp only [if_neg hu, if_pos hstatus]
    refine .followed (.bind ?_ fun e => .bind ?_ fun _ => ?_) h hs
    · exact gentle_quiet (makeException_still _ _).quiet fun _ _ => ⟨_, rfl⟩
    · exact (hE.release v).onPanic (hE.releaseAll _)
    · exact gentle_quiet (.pure _) fun _ _ => ⟨_, rfl⟩

/-! ## Throwing -/

/-- What a throw does once its exception was delivered or refused: a triple that is still primed is
released. -/
def unprime (E : Engine L) (c : CoroutineId) (reply : Reply) : Effect L Reply := do
  let left ← updateCoroutine c fun r => (r.pending, { r with pending := none })
  E.owning [reply.owned] (E.releasePending? left)
  return reply

theorem unprime_meets (hE : Faithful T i E) {r' : CoroutineRecord L} (h : At i r' w)
    (hs : r'.unprimed.IsSound T) (hl : r.LeadsTo T r'.unprimed) (reply : Reply) :
    Meets (unprime E i reply) w (Followed L Reply T i r) := by
  refine .then_update h fun v hv _ => ?_
  refine .then_gentle (hE.owningAll _ _) hv hs ?_ ?_ fun u hu => hu.of_precedes hl.toPrecedes
  · exact fun _ r'' u hu hs' hl' => .pure ⟨r'', hu, hs', hl.trans hl'⟩
  · exact fun r'' u hu hs' hl' _ => ⟨r'', hu, hs', hl.trans hl'⟩

theorem unprimeLed_meets (hE : Faithful T i E) (h : Leads T i r w) (reply : Reply) :
    Meets (unprime E i reply) w (Followed L Reply T i r) := by
  obtain ⟨r', hw, hs, hl⟩ := h
  exact unprime_meets hE hw (unprimed_sound hs) (hl.trans (unprimed_leadsTo _)) reply

/-- A throw primes its exception and sends the empty value. -/
theorem throw_primed (h : At i r w) (hp : r.pending = none) (hr : r.running = false)
    (hfin : r.status ≠ .finished) (p : PendingException) {Q : Post L Reply}
    (next : ∀ v, At i { r with pending := some p } v →
      Meets (send E i .none >>= unprime E i) v Q) : Meets (throwPending E i p) w Q := by
  have hrun : ¬ r.running = true := by simp [hr]
  refine .then_record h ?_
  simp only [if_neg hrun, if_neg hfin]
  refine .then_update h fun v₁ h₁ _ => ?_
  rw [show (r.pending, { r with pending := some p }).1 = none from hp]
  exact .then_eq rfl (next v₁ h₁)

/-- A throw into a coroutine that can be resumed, with nothing primed before. -/
theorem throwPrimed_meets (hE : Faithful T i E) (h : At i r w) (hs : r.IsSound T)
    (hp : r.pending = none) (hr : r.running = false) (hfin : r.status ≠ .finished)
    (hd : r.status = .unused → ¬ r.IsDoomed) (p : PendingException) :
    Meets (throwPending E i p) w (Followed L Reply T i r) := by
  have hq : r.noteVisit.IsSound T := (noteVisit_spares r).sound id hs
  have hun : CoroutineRecord.unprimed { r.noteVisit with pending := some p } = r.noteVisit :=
    unprimed_eq (r := r.noteVisit) hp
  refine throw_primed h hp hr hfin p fun v₁ h₁ => .of_visit (.bind ?_)
  cases hstatus : r.status with
  | unused =>
    refine send_unused h₁ hstatus hr fun v₂ h₂ => ?_
    replace h₂ : At i { r.noteVisit with pending := some p } v₂ := h₂
    refine (launch_meets hE h₂ (hun ▸ hq) hstatus (hd hstatus) r.noteVisit hr ?_ hfin ?_).mono ?_
      (fun _ h => h) fun _ h => h
    · exact fun ha => absurd (hstatus.symm.trans ha.1) (by decide)
    · intro f frame r₁ hn
      have hpre := materialized_begins (r := { r.noteVisit with pending := some p }) hstatus hn
      rwa [hun] at hpre
    · rintro reply v (⟨-, n, hn, hv⟩ | hv)
      · have hun' : CoroutineRecord.unprimed
            (CoroutineRecord.refused { r.noteVisit with pending := some p } n) =
              r.noteVisit.refused n := congrArg (CoroutineRecord.refused · n) hun
        refine unprime_meets hE hv ?_ ?_ reply
        · exact hun' ▸ refused_sound hq hp
        · exact hun' ▸ refused_leadsTo hn
      · exact unprimeLed_meets hE hv reply
  | running =>
    refine send_started h₁ hstatus hr _ fun v₂ h₂ => ?_
    replace h₂ : At i { r.noteVisit with pending := some p } v₂ := h₂
    refine (resumeStarted_meets hE h₂ (fun _ => rfl) (hun ▸ hq) hr hstatus).mono ?_ ?_ ?_
    · exact fun reply v hv => unprimeLed_meets hE (hun ▸ hv) reply
    · exact fun v hv => hun ▸ hv
    · exact fun v hv => hun ▸ hv
  | finished => exact absurd hstatus hfin

/-- A throw keeps the law of the record of its coroutine. -/
theorem throwPending_meets (hE : Faithful T i E) (h : At i r w) (hs : r.IsSound T)
    (p : PendingException) : Meets (throwPending E i p) w (Followed L Reply T i r) := by
  by_cases hrun : r.running = true
  · refine .then_record h ?_
    simp only [if_pos hrun]
    exact .followed (hE.refuse _ _) h hs
  have hr : r.running = false := by simpa using hrun
  by_cases hfin : r.status = .finished
  · refine .then_record h ?_
    simp only [if_neg hrun, if_pos hfin]
    exact .then_sure (instantiate_sure p) h fun _ v hv _ => .pure ⟨r, hv, hs, .refl r⟩
  by_cases hd : r.status = .unused ∧ r.IsDoomed
  · -- the throw panics, and leaves its exception primed
    refine .then_record h ?_
    simp only [if_neg hrun, if_neg hfin]
    refine .then_update h fun v₁ h₁ _ => ?_
    have hs₁ : CoroutineRecord.IsSound T { r with pending := some p } :=
      { hs with pending := .inr hd, unused := fun hu => { hs.unused hu with } }
    have hl₁ : r.LeadsTo T { r with pending := some p } :=
      .of_fields rfl rfl rfl rfl ⟨rfl, rfl, rfl⟩ ⟨rfl, rfl⟩ .rfl (Nat.le_refl _) rfl rfl rfl rfl rfl
    refine .then_gentle (hE.releaseAll _) h₁ hs₁ ?_ ?_ fun v hv => hv.of_precedes hl₁.toPrecedes
    · intro _ r₂ v₂ h₂ hs₂ hl₂
      have hl₂ := hl₁.trans hl₂
      refine .bind ((send_meets hE h₂ hs₂ .none).mono ?_ ?_ ?_)
      · rintro reply v ⟨r', hv, hs', hl⟩
        exact unprimeLed_meets hE ⟨r', hv, hs', hl₂.trans hl⟩ reply
      · rintro v ⟨r', hv, hs', hl⟩
        exact ⟨r', hv, hs', hl₂.trans hl⟩
      · exact fun v hv => hv.of_precedes hl₂.toPrecedes
    · exact fun r' v hv hs' hl _ => ⟨r', hv, hs', hl₁.trans hl⟩
  · have hp := hs.pending.resolve_right hd
    exact throwPrimed_meets hE h hs hp hr hfin (fun hu hdoom => hd ⟨hu, hdoom⟩) p

/-- A throw that starts a coroutine does not enter the body, and the body is not entered later. -/
theorem throwFresh_meets (hE : Faithful T i E) (h : At i r w) (hs : r.IsSound T)
    (hu : r.status = .unused) (hg : r.IsGranted) (p : PendingException) :
    Meets (throwPending E i p) w (Followed L Reply T i r.begun) := by
  have hp := hs.pending.resolve_right fun hp => hg.not_doomed hp.2
  have hr : r.running = false := by
    cases hr : r.running with
    | false => rfl
    | true => exact absurd (hu.symm.trans (hs.running hr).1) (by decide)
  have hfin : r.status ≠ .finished := by
    rw [hu]
    decide
  have hq : r.noteVisit.IsSound T := (noteVisit_spares r).sound id hs
  have hun : CoroutineRecord.unprimed { r.noteVisit with pending := some p } = r.noteVisit :=
    unprimed_eq (r := r.noteVisit) hp
  refine throw_primed h hp hr hfin p fun v₁ h₁ => .bind (send_unused h₁ hu hr fun v₂ h₂ => ?_)
  replace h₂ : At i { r.noteVisit with pending := some p } v₂ := h₂
  refine (launch_meets hE h₂ (hun ▸ hq) hu hg.not_doomed r.begun hr ?_ ?_ ?_).mono ?_
    (fun _ h => h) fun _ h => h
  · exact fun ha => absurd ha.2 (by simp [CoroutineRecord.begun])
  · exact (show Status.running ≠ .finished by decide)
  · intro f frame r₁ hn
    cases hn with
    | same =>
      refine ⟨.of_fields rfl rfl rfl rfl ⟨rfl, rfl⟩ (Nat.le_add_right _ _), fun _ h0 ht0 => ?_, id⟩
      exact absurd ht0 (materialized_trespasses frame h0)
    | entry _ hnone => exact absurd hnone (by simp [CoroutineRecord.delivery, Transfer.ofPending])
  · rintro reply v (⟨hrefused, -⟩ | hv)
    · exact absurd hg hrefused
    · exact unprimeLed_meets hE hv reply

end CoroutineEngine
