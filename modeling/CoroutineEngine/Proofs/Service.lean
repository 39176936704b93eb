import CoroutineEngine.Proofs.Automaton
import CoroutineEngine.Proofs.Line

/-!
# How a request is served

A request is followed step by step, from the switch into the body to the answer. What the body does is
left open: it is told by a property of the exit that it hands over and of the world that it leaves. What
is released on the way back to the driver leaves the line of the coroutine alone.

Results:
* `surface_shown`: what the end of a body is answered.
* `resume_serves`: a switch into the body and back.
* `send_serves`, `throw_serves`, `start_serves`: requests that resume or start a coroutine.
* `refuse_serves`, `throwFresh_serves`: requests in which the body does not run.
-/

namespace CoroutineEngine

variable {L : Language} {α β : Type}

/-! ## Definitions -/

/-- What a body has done when it hands over an exit. -/
def Exit.ending : Exit L → Ending (Activation L)
  | .suspended v a => .yields v a
  | .completed (.ok v) => .returns v
  | .completed (.error e) => .raises e

/-- A request on a coroutine. -/
def Demand.request (E : Engine L) (i : CoroutineId) : Demand → Effect L Reply
  | .send v => CoroutineEngine.send E i v
  | .throw e => throwException E i e
  | .close => CoroutineEngine.close E i

/-- What a request hands to the body. -/
def Demand.delivery : Demand → Delivery
  | .send v => .value v
  | .throw e => .raised e
  | .close => .cancelled

/-- What a request is answered, after what a body did that was resumed by a send. -/
def Demand.judge : Demand → Verdict → Verdict
  | .close => Automaton.closing
  | _ => id

/-- What is handed to a body, as a transfer. -/
inductive Delivery.Carried : Delivery → Transfer → Prop
  | value (v : Value) : Carried (.value v) (.ofValue v)
  | raised (e : Exception) (traceback : Option Traceback) :
      Carried (.raised e) (.ofPending ⟨e.cls, some e, traceback⟩)
  | cancelled : Carried .cancelled (.ofPending (.ofClass .generatorExit))

namespace CoroutineRecord

/-- The body waits in its fiber, with this activation, and can be resumed. -/
structure Waits (r : CoroutineRecord L) (a : Activation L) : Prop where
  status : r.status = .running
  running : r.running = false
  frame : r.frame ≠ none
  fiber : ∃ f, r.fiber = some f ∧ f.lossIn = none ∧ f.stack = .suspended a

/-- The coroutine was never resumed, and gets a fiber that is not lost. -/
structure IsFresh (r : CoroutineRecord L) : Prop where
  status : r.status = .unused
  running : r.running = false
  granted : r.IsGranted
  lossIn : r.supply.lossIn = none

/-- The coroutine is finished. -/
structure IsOver (r : CoroutineRecord L) : Prop where
  status : r.status = .finished
  running : r.running = false

/-- What stays of the record until the coroutine finishes. -/
structure Preserves (r r' : CoroutineRecord L) : Prop where
  code : r'.code = r.code
  inputs : r'.inputs = r.inputs
  handles : 0 < r.handles → 0 < r'.handles

/-- The record of a coroutine that was just started, with its frame and what is primed. -/
structure Starts (r : CoroutineRecord L) (left : Option PendingException) (frame : Frame)
    (r' : CoroutineRecord L) : Prop extends r.Preserves r' where
  counted : r'.handles = r.handles
  visits : r'.history.visits = r.history.visits + 1
  attention : r'.attention = r.attention
  status : r'.status = .running
  running : r'.running = false
  awaiting : r'.awaiting = r.awaiting
  frame : r'.frame = some frame
  fiber : r'.fiber = some ⟨r.supply.stackSize, r.supply.lossIn, .fresh⟩
  pending : r'.pending = left

/-- The record of a coroutine while its body runs, on the way of a request that was made with the record
`r`. -/
structure Launches (r r' : CoroutineRecord L) : Prop extends r.Preserves r' where
  counted : r'.handles = r.handles
  visits : r'.history.visits = r.history.visits + 1
  status : r'.status = .running
  running : r'.running = true
  fiber : r'.fiber = none
  awaiting : r'.awaiting = r.awaiting

/-- The record of a coroutine that has finished, and was left by its body with `r`. -/
structure Departs (W : Watch) (r r' : CoroutineRecord L) : Prop extends r'.IsOver where
  awaiting : r'.awaiting = none
  visits : r'.history.visits = r.history.visits
  attention : r'.attention = r.attention
  counted : W.exclusive = true → r'.handles = r.handles

/-- The record of a coroutine when its body, which left it with `r`, is switched out: it waits again, or
is finished. -/
def Lands (W : Watch) (r : CoroutineRecord L) : Exit L → CoroutineRecord L → Prop
  | .suspended _ a, r' => r'.Waits a ∧ r.Preserves r' ∧ r'.awaiting = r.awaiting
  | .completed _, r' => r.Departs W r'

end CoroutineRecord

/-- The world after it was noted that the body of a coroutine is switched out. -/
def World.leaving (w : World L) (i : CoroutineId) : World L :=
  w.modifyCoroutine i (·.noteSwitch w.ambient.handled w.finished)

/-- The body of `i`, which was let go with the record `r`, has handed over an exit. The coroutines of `cs`
are drawn, and a body that is over has no claim on the next one. -/
structure Returned (W : Watch) (cs : List CoroutineId) (i : CoroutineId) (r : CoroutineRecord L)
    (exit : Exit L) (u : World L) : Prop where
  within : cs <+: W.line
  mem : i ∈ cs
  drawn : u.Drawn cs
  last : ∀ result, exit = .completed result → i ∉ cs.dropLast
  rests : CoroutineRecord.Rests True { r with history := (u.coroutine i).history } (u.coroutine i)

/-- What was done with a coroutine when its body is let go on once more. -/
def Attention.resumed (a : Attention) (delivered : Option ExceptionClass) : Attention :=
  { a with resumptions := a.resumptions + 1, delivered }

/-- A body has handed over an exit in a world of which something holds, and since then its coroutine and
those it is drawn with rest. -/
def Handed (W : Watch) (i : CoroutineId) (R : List CoroutineId → Exit L → World L → Prop)
    (exit : Exit L) (v : World L) : Prop :=
  ∃ cs u, R cs exit u ∧ Underway W cs [] i u (v.coroutine i) v ∧
    (u.coroutine i).Idles W False (v.coroutine i)

/-- A reply is the answer, and its instance is there to stay. -/
structure Verdict.Shown (verdict : Verdict) (i : CoroutineId) (reply : Reply) (w : World L) : Prop where
  seen : verdict.Seen (w.sight i reply)
  kept : ∀ e, reply = .error e → verdict = .raises e ∨ e.index < w.exceptions.size

/-- The body of `i`, let go with an activation and a delivery on the way of a request that started in `w`,
hands over what is described, in the world in which its exit was noted. -/
def Body (W : Watch) (S : World L → Prop) (E : Engine L) (cs ds : List CoroutineId) (i : CoroutineId) (w : World L)
    (a : Activation L) (d : Delivery) (R : List CoroutineId → Exit L → World L → Prop) : Prop :=
  ∀ u r₀ frame t, Underway W cs ds i w r₀ u → (w.coroutine i).Launches r₀ → r₀.frame = some frame →
    d.Carried t → r₀.attention = (w.coroutine i).attention.resumed (t.exception.map (·.kind)) →
      Meets (E.run (some ⟨i, (w.coroutine i).code, frame⟩) a t) u (.served W S fun exit u' => ∃ cs', R cs' exit (u'.leaving i) ∧ Returned W cs' i r₀ exit u')

/-- The body of `i` was let go, with the record `r` at the time of the request, and was switched out with an
exit: it has handed the exit over in a world of which something holds. -/
def Done (W : Watch) (i : CoroutineId) (r : CoroutineRecord L)
    (R : List CoroutineId → Exit L → World L → Prop) (exit : Exit L) (u : World L) : Prop :=
  ∃ cs u' r₀, R cs exit u' ∧ r.Launches r₀ ∧ Returned W cs i r₀ exit u' ∧
    Underway W cs [] i u' (u.coroutine i) u ∧ (u'.coroutine i).Lands W exit (u.coroutine i)

/-- What is known when the body has gone on and the reply is there. -/
def Served (W : Watch) (i : CoroutineId) (r : CoroutineRecord L)
    (R : List CoroutineId → Exit L → World L → Prop) (judge : Verdict → Verdict) (reply : Reply)
    (u : World L) : Prop :=
  ∃ exit, (judge (Automaton.answer r.code.generatorStop exit.ending)).Shown i reply u ∧
    Done W i r R exit u

/-! ## Helpers -/

/-! ### Records -/

namespace CoroutineRecord

variable {r r' r'' : CoroutineRecord L}

theorem Preserves.refl (r : CoroutineRecord L) : r.Preserves r := ⟨rfl, rfl, id⟩

theorem Preserves.trans (h : r.Preserves r') (h' : r'.Preserves r'') : r.Preserves r'' :=
  ⟨h'.code.trans h.code, h'.inputs.trans h.inputs, h'.handles ∘ h.handles⟩

theorem Rests.preserves {own : Prop} (h : r.Rests own r') (hs : r.status ≠ .finished) :
    r.Preserves r' := ⟨h.code, h.inputs hs, h.handles hs⟩

theorem Waits.not_finished {a : Activation L} (h : r.Waits a) : r.status ≠ .finished := by
  rw [h.status]
  decide

theorem IsFresh.not_finished (h : r.IsFresh) : r.status ≠ .finished := by
  rw [h.status]
  decide

theorem Launches.not_finished (h : r.Launches r') : r'.status ≠ .finished := by
  rw [h.status]
  decide

theorem Waits.of_rests {a : Activation L} {own : Prop} (h : r.Waits a) (hr : r.Rests own r') :
    r'.Waits a where
  status := hr.status.trans h.status
  running := hr.running.trans h.running
  frame := by
    rw [hr.frame h.not_finished]
    exact h.frame
  fiber := by
    rw [hr.fiber h.not_finished]
    exact h.fiber

theorem IsFresh.of_rests {own : Prop} (h : r.IsFresh) (hr : r.Rests own r') : r'.IsFresh where
  status := hr.status.trans h.status
  running := hr.running.trans h.running
  granted := by
    rw [IsGranted, hr.supply]
    exact h.granted
  lossIn := by
    rw [hr.supply]
    exact h.lossIn

theorem IsOver.of_rests {own : Prop} (h : r.IsOver) (hr : r.Rests own r') : r'.IsOver :=
  ⟨hr.status.trans h.status, hr.running.trans h.running⟩

theorem Waits.pending {a : Activation L} {T : Terms} (h : r.Waits a) (hs : r.IsSound T) :
    r.pending = none :=
  hs.pending.resolve_right fun hp => absurd (h.status.symm.trans hp.1) (by decide)

theorem Waits.launches {a : Activation L} (h : r.Waits a) {history : History}
    (hv : history.visits = r.history.visits + 1) (left : Option PendingException)
    (delivered : Option ExceptionClass) (errorSet : Bool) (handled : Option Exception) :
    r.Launches (noteResumption (taken { r with history, pending := left }).entered delivered errorSet
      handled) :=
  ⟨⟨rfl, rfl, id⟩, rfl, hv, h.status, rfl, rfl, rfl⟩

/-- Who has finished rests. -/
theorem Departs.of_idles {W : Watch} (h : r.Departs W r') (hr : r'.Idles W False r'') :
    r.Departs W r'' where
  toIsOver := h.toIsOver.of_rests hr.toRests
  awaiting := hr.settled id h.awaiting
  visits := hr.visits.trans h.visits
  attention := hr.attention.trans h.attention
  counted hw := (hr.counted hw).trans (h.counted hw)

theorem IsFresh.pending {T : Terms} (h : r.IsFresh) (hs : r.IsSound T) : r.pending = none :=
  hs.pending.resolve_right fun hp => h.granted.not_doomed hp.2

/-- The record of a coroutine whose body is switched out. -/
def switchedOut (r : CoroutineRecord L) : CoroutineRecord L := { r with running := false }

theorem Idles.switchedOut {W : Watch} {own : Prop} (h : r.Idles W own r') :
    r.switchedOut.Idles W own r'.switchedOut := { h with running := rfl }

end CoroutineRecord

/-! ### Answers -/

@[simp] theorem World.sight_reply (w : World L) (i : CoroutineId) (reply : Reply) :
    (w.sight i reply).reply = reply := by
  cases reply <;> rfl

@[simp] theorem World.sight_status (w : World L) (i : CoroutineId) (reply : Reply) :
    (w.sight i reply).status = (w.coroutine i).status := by
  cases reply <;> rfl

/-- Which coroutine has answered makes no difference. -/
theorem Verdict.Seen.anyone {verdict : Verdict} {w : World L} {i j : CoroutineId} {reply : Reply}
    (h : verdict.Seen (w.sight i reply)) : verdict.Seen (w.sight j reply) := by
  cases verdict <;> cases reply <;> exact h

namespace Verdict.Shown

variable {verdict : Verdict} {i j : CoroutineId} {reply : Reply} {w v : World L}

theorem anyone (h : verdict.Shown i reply w) : verdict.Shown j reply w := ⟨h.seen.anyone, h.kept⟩

/-- What an answer shows is not lost. -/
theorem mono (h : verdict.Shown i reply w) (hg : Grown w v) : verdict.Shown i reply v := by
  obtain ⟨hseen, hkept⟩ := h
  refine ⟨?_, fun e he => (hkept e he).imp_right fun hi => Nat.lt_of_lt_of_le hi hg.size⟩
  cases reply with
  | ok a => cases verdict <;> exact hseen
  | error e =>
    have persists (hne : verdict ≠ .raises e) : (w.exception e).Persists (v.exception e) :=
      hg.exceptions e ((hkept e rfl).resolve_left hne)
    cases verdict with
    | gives a => exact hseen
    | raises e' => exact hseen
    | stops a =>
      obtain ⟨e', he, hc, ha⟩ := hseen
      exact ⟨e', he, hc, (congrArg (·.headD .none) (persists nofun).args).trans ha⟩
    | fails error =>
      obtain ⟨e', id, he, hc, ha⟩ := hseen
      exact ⟨e', id, he, hc, (persists nofun).args.trans ha⟩
    | leaks e' =>
      obtain ⟨e'', id, he, hc, ha, hcause, hcontext⟩ := hseen
      have hp := persists nofun
      refine ⟨e'', id, he, hc, hp.args.trans ha, ?_, ?_⟩
      · exact (hp.cause (by rw [show (w.exception e).cause = some e' from hcause]; nofun)).trans hcause
      · exact (hp.context (by rw [show (w.exception e).context = some e' from hcontext]; nofun)).trans
          hcontext

end Verdict.Shown

/-- A value that is given. -/
theorem gives_shown (v : Value) (i : CoroutineId) (w : World L) :
    (Verdict.gives v).Shown i (.ok v) w :=
  ⟨by simp [Verdict.Seen], fun _ he => absurd he (by simp)⟩

/-- A change of an instance that spares a part of every instance spares it. -/
theorem exception_modified {γ : Type} (w : World L) (e e' : Exception)
    {f : ExceptionRecord → ExceptionRecord} (g : ExceptionRecord → γ) (hg : ∀ r, g (f r) = g r) :
    g ((w.modifyException e f).exception e') = g (w.exception e') := by
  simp only [World.exception, World.modifyException]
  by_cases hi : e'.index = e.index
  · by_cases hlt : e.index < w.exceptions.size
    · rw [hi, Table.get_modify_self _ _ hlt]
      exact hg _
    · rw [Table.modify_of_size_le _ _ (Nat.le_of_not_lt hlt)]
  · rw [Table.get_modify_ne _ _ hi]

/-- A fresh instance. -/
theorem makeException_fresh (cls : ExceptionClass) (args : List Value) (w : World L) :
    Meets (makeException cls args) w
      ⟨fun e u => e.cls = cls ∧ e.index < u.exceptions.size ∧
          u.exception e = ⟨1, args, none, none, false, none⟩, fun _ => False, fun _ => False⟩ := by
  refine ⟨rfl, ?_, Table.get_push_self _ _⟩
  show w.exceptions.size < (w.exceptions.push _).size
  simp

theorem raise_fresh (error : CoroutineError) (w : World L) :
    Meets error.raise w
      ⟨fun e u => e.cls = error.exceptionClass ∧ e.index < u.exceptions.size ∧
          ∃ id, u.exception e = ⟨1, [.str ⟨id, error.message⟩], none, none, false, none⟩,
        fun _ => False, fun _ => False⟩ :=
  .then_eq rfl ((makeException_fresh _ _ _).mono (fun _ _ h => ⟨h.1, h.2.1, _, h.2.2⟩)
    (fun _ h => h) fun _ h => h)

/-- What an error of the engine is seen as. -/
theorem fails_shown {error : CoroutineError} {e : Exception} {w : World L} (i : CoroutineId)
    (h : e.cls = error.exceptionClass ∧ e.index < w.exceptions.size ∧
      ∃ id, w.exception e = ⟨1, [.str ⟨id, error.message⟩], none, none, false, none⟩) :
    (Verdict.fails error).Shown i (.error e) w := by
  obtain ⟨hc, hi, id, he⟩ := h
  refine ⟨⟨e, id, rfl, hc, congrArg ExceptionRecord.args he⟩, fun e' he' => .inr ?_⟩
  cases he'
  exact hi

theorem attachCause_free {e : Exception} (cause : Exception) {w : World L}
    (hi : e.index < w.exceptions.size) (hn : (w.exception e).cause = none) :
    Meets (attachCause e cause) w
      ⟨fun _ u => e.index < u.exceptions.size ∧
          u.exception e = { w.exception e with cause := some cause, suppressContext := true },
        fun _ => False, fun _ => False⟩ := by
  refine .of_ok (a := none) (v := w.modifyException e fun r =>
    { r with cause := some cause, suppressContext := true }) ?_ ⟨?_, ?_⟩
  · simp [attachCause, Effect.modifyGet, hn]
  · simpa [World.modifyException] using hi
  · exact Table.get_modify_self _ _ hi

theorem attachContext_free {e : Exception} (context : Exception) {w : World L}
    (hi : e.index < w.exceptions.size) (hn : (w.exception e).context = none) :
    Meets (attachContext e context) w
      ⟨fun _ u => e.index < u.exceptions.size ∧
          u.exception e = { w.exception e with context := some context },
        fun _ => False, fun _ => False⟩ := by
  refine .of_ok (a := none) (v := w.modifyException e fun r => { r with context := some context })
    ?_ ⟨?_, ?_⟩
  · simp [attachContext, Effect.modifyGet, hn]
  · simpa [World.modifyException] using hi
  · exact Table.get_modify_self _ _ hi

/-- A leaked exhaustion signal is replaced by an error that it is the cause and the context of. -/
theorem leaks_shown (e : Exception) (i : CoroutineId) (w : World L) :
    Meets
      (do
        let wrapped ← CoroutineError.leakedStopIteration.raise
        retain (.exception e)
        let _ ← attachCause wrapped e
        let _ ← attachContext wrapped e
        return .error wrapped : Effect L Reply) w
      ⟨fun reply u => (Verdict.leaks e).Shown i reply u, fun _ => False, fun _ => False⟩ := by
  refine .bind ((raise_fresh _ w).mono ?_ (fun _ h => h) fun _ h => h)
  rintro wrapped v ⟨hc, hi, id, hv⟩
  refine .then_eq (v := v.retain (.exception e)) rfl ?_
  -- a handle of the signal changes nothing of the error, even if the signal were the error itself
  have hr := exception_modified v e wrapped (f := fun r => { r with handles := r.handles + 1 })
    (fun r => (r.args, r.cause, r.context)) fun _ => rfl
  have hi₁ : wrapped.index < (v.retain (.exception e)).exceptions.size := by
    simpa [World.retain, World.modifyException] using hi
  simp only [hv, Prod.mk.injEq] at hr
  obtain ⟨hargs, hcause, hcontext⟩ := hr
  refine .bind ((attachCause_free e hi₁ hcause).mono ?_ (fun _ h => h) fun _ h => h)
  rintro _ v₂ ⟨hi₂, hv₂⟩
  refine .bind ((attachContext_free e hi₂ ?_).mono ?_ (fun _ h => h) fun _ h => h)
  · rw [hv₂]
    exact hcontext
  · rintro _ v₃ ⟨hi₃, hv₃⟩
    refine .pure ⟨⟨wrapped, id, rfl, hc, ?_, ?_, ?_⟩, fun e' he' => .inr ?_⟩
    · rw [World.sight, hv₃, hv₂]
      exact hargs
    · rw [World.sight, hv₃, hv₂]
    · rw [World.sight, hv₃]
    · cases he'
      exact hi₃

/-- What the end of a body is answered. -/
theorem surface_shown (code : Code) (frame : Frame) (result : Reply) (i : CoroutineId)
    (w : World L) :
    Meets (surface code frame result) w
      ⟨fun reply u => (Automaton.answer code.generatorStop
          (Exit.completed result : Exit L).ending).Shown i reply u, fun _ => False,
        fun _ => False⟩ := by
  cases result with
  | ok v =>
    refine .bind ((makeException_fresh _ _ w).mono ?_ (fun _ h => h) fun _ h => h)
    rintro e u ⟨hc, hi, hu⟩
    refine .pure ⟨⟨e, rfl, hc, ?_⟩, fun e' he' => .inr ?_⟩
    · rw [World.sight, hu]
      cases v <;> rfl
    · cases he'
      exact hi
  | error e =>
    refine .then_eq rfl ?_
    by_cases hleak : (e.cls.isSubclassOf .stopIteration && code.generatorStop) = true
    · simp only [Exit.ending, Automaton.answer, if_pos hleak]
      exact leaks_shown e i _
    · simp only [Exit.ending, Automaton.answer, if_neg hleak]
      exact .pure ⟨by simp [Verdict.Seen], fun e' he' => .inl (by cases he'; rfl)⟩

/-! ### The switch -/

/-- Where a body has handed over an exit, this may be noted. -/
theorem Returned.leaving {W : Watch} {cs : List CoroutineId} {i : CoroutineId} {r : CoroutineRecord L}
    {exit : Exit L} {u : World L} (h : Returned W cs i r exit u) :
    Returned W cs i r exit (u.leaving i) := by
  have hstart : Underway W cs [] i u (u.coroutine i) u := .start h.drawn h.mem
  have hleft := hstart.modified (g := (·.noteSwitch u.ambient.handled u.finished)) fun _ => id
  refine ⟨h.within, h.mem, hleft.drawn, h.last, ?_⟩
  rw [show (u.leaving i).coroutine i = _ from hleft.record]
  exact { h.rests with attention := rfl }

section

variable {W : Watch} {S : World L → Prop} {E : Engine L} {cs ds : List CoroutineId} {i : CoroutineId} {w v : World L}
  {r : CoroutineRecord L}

namespace Underway

theorem enterSwitch (h : Underway W cs ds i w r v) (frame : Frame) :
    Meets (enterSwitch i frame) v (.served W S fun _ u => Underway W cs ds i w r.entered u) := by
  refine h.then_ambient (fun _ => rfl) (fun _ => rfl) fun _ v₁ h₁ => ?_
  refine h₁.then_sure (swapBack_sure _ _) fun _ v₂ h₂ => ?_
  refine h₂.then_update (fun _ => id) fun v₃ h₃ => ?_
  refine h₃.then_ambient (fun _ => rfl) (fun _ => rfl) fun _ v₄ h₄ => ?_
  refine h₄.then_ambient (fun _ => rfl) (fun _ => rfl) fun _ v₅ h₅ => ?_
  refine h₅.then_modify (fun _ => id) fun v₆ h₆ => ?_
  exact h₆.then_sure (logCoroutine_sure _ _ _ _) fun _ v₇ h₇ => .pure h₇

/-- The driver's state is back. -/
theorem restoreDriver (hE : Hosting W S E) (hp : cs <+: W.line)
    (h : Underway W cs [] i w r v) (frame : Frame) (driver : DriverState) :
    Meets (restoreDriver E i frame driver) v (.served W S fun _ u =>
      ∃ r', Underway W cs [] i w r' u ∧ r.switchedOut.Idles W False r') := by
  refine h.then_modify (fun _ => id) fun v₁ h₁ => ?_
  refine h₁.then_release ((hE.discardStray hp).onPanic (hE.releaseAll hp _))
    fun _ r₂ v₂ h₂ hr₂ _ => ?_
  refine h₂.then_ambient (fun _ => rfl) (fun _ => rfl) fun displaced v₃ h₃ => ?_
  refine h₃.then_release (hE.owning hp _ _) fun _ r₄ v₄ h₄ hr₄ _ => ?_
  refine h₄.then_ambient (fun _ => rfl) (fun _ => rfl) fun own v₅ h₅ => ?_
  refine h₅.then_update (fun _ => id) fun v₆ h₆ => ?_
  have hr₆ : r.switchedOut.Idles W False { r₄ with handled := own } := { hr₂.trans hr₄ with }
  refine h₆.then_release (hE.releaseAll hp _) fun _ r₇ v₇ h₇ hr₇ _ => ?_
  refine h₇.then_sure (swapBack_sure _ _) fun _ v₈ h₈ => ?_
  refine h₈.then_ambient (fun _ => rfl) (fun _ => rfl) fun _ v₉ h₉ => ?_
  exact .pure ⟨r₇, h₉, hr₆.trans hr₇⟩

/-- A coroutine that finishes has no claim on the next one. -/
theorem finish (hE : Hosting W S E) (hp : cs <+: W.line) (hlast : i ∉ cs.dropLast)
    (h : Underway W cs [] i w r v) (hr : r.running = false) :
    Meets (finish E i) v (.served W S fun _ u =>
      ∃ r', Underway W cs [] i w r' u ∧ r.Departs W r') := by
  have loose {r r' : CoroutineRecord L} : i ∈ cs.dropLast → r.IsTied → r'.IsTied :=
    fun hi => absurd hi hlast
  refine h.then_update loose fun v₁ h₁ => ?_
  refine h₁.then_release (hE.releaseAll hp _) fun _ r₂ v₂ h₂ hr₂ _ => ?_
  refine h₂.then_update loose fun v₃ h₃ => ?_
  refine h₃.then_release (hE.releaseAll hp _) fun _ r₄ v₄ h₄ hr₄ _ => ?_
  refine h₄.then_update loose fun v₅ h₅ => ?_
  refine h₅.then_release (hE.releaseAll hp _) fun _ r₆ v₆ h₆ hr₆ _ => ?_
  refine h₆.sure (logCoroutine_sure _ _ _ _) fun _ v₇ h₇ => ⟨r₆, h₇, ?_⟩
  have hs₃ : r.Departs W { r₂ with awaiting := none } :=
    ⟨⟨hr₂.status, hr₂.running.trans hr⟩, rfl, hr₂.visits, hr₂.attention, hr₂.counted⟩
  have hs₅ : r.Departs W { r₄ with pending := none } := { hs₃.of_idles hr₄ with }
  exact hs₅.of_idles hr₆

/-- A body that goes on. What it hands over is told of the world before the note of what it handles. -/
theorem continueBody (h : Underway W cs ds i w r v) {code : Code} {frame : Frame} {a : Activation L}
    {t : Transfer} {R : List CoroutineId → Exit L → World L → Prop}
    (run : ∀ u errorSet handled,
      Underway W cs ds i w (r.noteResumption (t.exception.map (·.kind)) errorSet handled) u →
        Meets (E.run (some ⟨i, code, frame⟩) a t) u (.served W S fun exit u' =>
          ∃ cs', R cs' exit (u'.leaving i) ∧ ∃ r₀, Returned W cs' i r₀ exit u')) :
    Meets (continueBody E ⟨i, code, frame⟩ a t) v (.served W S (Handed W i R)) := by
  refine h.then_note (g := fun v r =>
    r.noteResumption (t.exception.map (·.kind)) v.ambient.error.isSome v.ambient.handled)
    (fun _ => id) fun v₁ h₁ => ?_
  refine .bind ((run v₁ _ _ h₁).mono ?_ (fun _ h => h) fun _ h => h)
  rintro exit u ⟨cs', hu, r₀, hret⟩
  have hret := hret.leaving
  exact .then_eq rfl (.pure ⟨cs', u.leaving i, hu, .start hret.drawn hret.mem, .refl _ _ _⟩)

/-- A switch into the fiber and back, if the fiber is entered as described. -/
theorem switchInto (hE : Hosting W S E) (h : Underway W cs ds i w r v) {code : Code} {frame : Frame}
    {f : Fiber L} {t : Transfer} (hl : f.lossIn = none)
    {R : List CoroutineId → Exit L → World L → Prop}
    (hR : ∀ {cs exit u}, R cs exit u → ∃ r₀, Returned W cs i r₀ exit u)
    (enter : ∀ u, Underway W cs ds i w r.entered u →
      Meets (enterFiber E ⟨i, code, frame⟩ f t) u (.served W S fun outcome u' =>
        ∃ exit, outcome = .ok exit ∧ Handed W i R exit u')) :
    Meets (switchInto E i code frame f t) v (.served W S fun p u =>
      ∃ exit cs' u' r', p = (.ok exit, f.after (.ok exit)) ∧ R cs' exit u' ∧
        Underway W cs' [] i u' r' u ∧ (u'.coroutine i).switchedOut.Idles W False r') := by
  refine .bind ((h.enterSwitch frame).mono ?_ (fun _ h => h) fun _ h => h)
  intro driver v₁ h₁
  refine .bind (.served_onPanic ?_)
  refine .then_eq (a := f) (v := v₁) (by simp [approachLoss, hl]) ?_
  refine .bind ((enter v₁ h₁).mono ?_ (fun _ h => h) fun _ h => h)
  rintro _ v₂ ⟨exit, rfl, cs', u', hu', h₂, hr₂⟩
  obtain ⟨r₀, hret⟩ := hR hu'
  refine .pure (.bind (.served_onPanic (.bind ?_)))
  refine (h₂.restoreDriver hE hret.within frame driver).mono ?_
    (fun _ h => h) fun _ h => h
  rintro _ u ⟨r', hu, hr'⟩
  refine .pure (.pure ⟨exit, cs', u', r', rfl, hu', hu, ?_⟩)
  exact hr₂.switchedOut.trans hr'

/-- The resumption of a coroutine whose fiber is in its place. -/
theorem resume (hE : Hosting W S E) (h : Underway W cs ds i w r v) {frame : Frame}
    (hframe : r.frame = some frame) {f : Fiber L} (hfiber : r.fiber = some f)
    (hl : f.lossIn = none) {t : Transfer} {r₁ : CoroutineRecord L} (hcode : r.code = r₁.code)
    {R : List CoroutineId → Exit L → World L → Prop}
    (enter : ∀ u, Underway W cs ds i w r.taken.entered u →
      Meets (enterFiber E ⟨i, r₁.code, frame⟩ f t) u (.served W S fun outcome u' =>
        ∃ exit, outcome = .ok exit ∧ Handed W i (fun cs exit u => ∃ r₀, R cs exit u ∧
          r₁.Launches r₀ ∧ r₀.frame ≠ none ∧ Returned W cs i r₀ exit u) exit u')) :
    Meets (resume E i t) v (.served W S (Served W i r₁ R id)) := by
  refine h.then_record ?_
  simp only [hframe, hfiber]
  rw [← hcode] at enter
  refine h.then_modify (fun _ => id) fun v₁ h₁ => ?_
  refine .bind ((h₁.switchInto hE hl (fun ⟨r₀, hr₀⟩ => ⟨r₀, hr₀.2.2.2⟩) enter).mono ?_ (fun _ h => h)
    fun _ h => h)
  rintro _ v₂ ⟨exit, cs', u', r₂, rfl, ⟨r₀, hR, hlaunch, hframe₀, hret⟩, h₂, hr₂⟩
  refine h₂.then_modify (fun _ => id) fun v₃ h₃ => ?_
  have hne := hlaunch.not_finished
  have hne' : (u'.coroutine i).status ≠ .finished := hret.rests.status ▸ hne
  cases exit with
  | suspended x a =>
    refine .pure ⟨.suspended x a, gives_shown x i _, cs', u', r₀, hR, hlaunch, hret, ?_, ?_⟩
    · rw [h₃.record]
      exact h₃
    · rw [h₃.record]
      refine ⟨⟨?_, hr₂.running, ?_, _, rfl, hl, rfl⟩, ?_, hr₂.awaiting id hne'⟩
      · exact hr₂.status.trans (hret.rests.status.trans hlaunch.status)
      · rw [show _ = (u'.coroutine i).frame from hr₂.frame hne', hret.rests.frame hne]
        exact hframe₀
      · exact ⟨hr₂.code, hr₂.inputs hne', hr₂.handles hne'⟩
  | completed result =>
    have hrunning : CoroutineRecord.running { r₂ with fiber := some (f.after (.ok (.completed result))) }
        = false := hr₂.running
    refine .bind (.served_onPanic ((h₃.finish hE hret.within
      (hret.last result rfl) hrunning).mono ?_ (fun _ h => h) fun _ h => h))
    rintro _ v₄ ⟨r₄, h₄, hdeparts⟩
    refine ((Meets.and (h₄.sure (Q := ⟨fun _ u => Underway W cs' [] i u' r₄ u, fun _ => False,
      fun _ => False⟩) (surface_sure _ _ _) fun _ _ h => h) (surface_shown _ _ _ i _)).mono ?_
      (fun _ h => h.1.elim) fun _ h => h.1.elim)
    rintro reply u ⟨hu, hshown⟩
    refine ⟨.completed result, ?_, cs', u', r₀, hR, hlaunch, hret, ?_, ?_⟩
    · rw [← hcode]
      exact hshown
    · rw [hu.record]
      exact hu
    · rw [hu.record]
      exact ⟨hdeparts.toIsOver, hdeparts.awaiting, hdeparts.visits.trans hr₂.visits,
        hdeparts.attention.trans hr₂.attention, fun hw => (hdeparts.counted hw).trans (hr₂.counted hw)⟩

end Underway

/-! ### Requests that let the body go on -/

variable {a : Activation L} {exit : Exit L} {R : List CoroutineId → Exit L → World L → Prop}

/-- What the body of a coroutine hands over, through the fiber that it runs on. -/
theorem handed_of_run {r₁ : CoroutineRecord L} {code : Code} {frame : Frame}
    (h : Underway W cs ds i w r v) {t : Transfer}
    (hlaunch : ∀ errorSet handled,
      r₁.Launches (r.noteResumption (t.exception.map (·.kind)) errorSet handled))
    (hframe : r.frame ≠ none) (hattention : r.attention = r₁.attention)
    (run : ∀ u r₀, Underway W cs ds i w r₀ u → r₁.Launches r₀ → r₀.frame = r.frame →
      r₀.attention = r₁.attention.resumed (t.exception.map (·.kind)) →
        Meets (E.run (some ⟨i, code, frame⟩) a t) u (.served W S fun exit u' =>
          ∃ cs', R cs' exit (u'.leaving i) ∧ Returned W cs' i r₀ exit u')) :
    Meets (continueBody E ⟨i, code, frame⟩ a t >>= fun exit => pure (.ok exit)) v
      (.served W S fun outcome u' => ∃ exit, (outcome : Except FiberError (Exit L)) = .ok exit ∧
        Handed W i (fun cs exit u => ∃ r₀, R cs exit u ∧
          r₁.Launches r₀ ∧ r₀.frame ≠ none ∧ Returned W cs i r₀ exit u) exit u') := by
  refine .bind ((h.continueBody fun u e k hu => ?_).mono
    (fun exit v' h => .pure ⟨exit, rfl, h⟩) (fun _ h => h) fun _ h => h)
  refine (run u _ hu (hlaunch e k) rfl (hattention ▸ rfl)).mono ?_ (fun _ h => h) fun _ h => h
  rintro exit u'' ⟨cs', hR, hret⟩
  exact ⟨cs', ⟨_, hR, hlaunch e k, hframe, hret.leaving⟩, _, hret⟩

/-- The resumption of a coroutine whose body waits. -/
theorem resume_serves (hE : Hosting W S E) (hwait : (w.coroutine i).Waits a) {d : Delivery}
    (run : Body W S E cs ds i w a d R) {t : Transfer} (ht : d.Carried t)
    (h : Underway W cs ds i w r v) (hr : ∃ (history : History) (left : Option PendingException),
      history.visits = (w.coroutine i).history.visits + 1 ∧
        { w.coroutine i with history }.attention = (w.coroutine i).attention ∧
          r = { w.coroutine i with history, pending := left }) :
    Meets (resume E i t) v (.served W S (Served W i (w.coroutine i) R id)) := by
  obtain ⟨f, hfiber, hl, hstack⟩ := hwait.fiber
  obtain ⟨frame, hframe⟩ := Option.ne_none_iff_exists'.mp hwait.frame
  obtain ⟨history, left, hvisits, hattention, rfl⟩ := hr
  have hcode : { w.coroutine i with history, pending := left }.code = (w.coroutine i).code := rfl
  refine h.resume hE hframe hfiber hl hcode fun u hu => ?_
  unfold enterFiber
  simp only [hstack]
  refine handed_of_run hu (hwait.launches hvisits left _) hwait.frame hattention fun u' r₀ hu' hl hf hd => ?_
  exact run u' r₀ frame t hu' hl (hf.trans hframe) ht hd

/-- What was done stays done while the line is calm. -/
theorem Done.calms (h : Done W i r R exit v) :
    ∃ cs, cs <+: W.line ∧ v.Drawn cs ∧ ∀ {u}, Calm W cs v u → Done W i r R exit u := by
  obtain ⟨cs, u', r₀, hR, hlaunch, hret, hv, hlands⟩ := h
  refine ⟨cs, hret.within, hv.drawn, fun {u} hu => ?_⟩
  have hi := hu.idles i hv.mem
  have hr' := hi.toRests
  refine ⟨cs, u', r₀, hR, hlaunch, hret, ?_, ?_⟩
  · exact ⟨hu.drawn, hv.mem, rfl, hv.grown.trans hu.grown, fun c hc hci =>
      (hv.others c hc hci).trans (hu.idles c hc), fun c hc => absurd hc List.not_mem_nil, fun c hci hs =>
      (hv.gone c hci hs).trans (hu.gone c ((hv.gone c hci hs).status.trans hs))⟩
  · cases exit with
    | suspended y a =>
      obtain ⟨hwait, hkeep, haw⟩ := hlands
      have hne := hwait.not_finished
      exact ⟨hwait.of_rests hr', hkeep.trans (hr'.preserves hne), (hr'.awaiting id hne).trans haw⟩
    | completed result => exact CoroutineRecord.Departs.of_idles hlands hi

/-- Whatever is still primed when the reply is there is released. -/
theorem Done.unprime (hE : Hosting W S E) (h : Done W i r R exit v) (reply : Reply) :
    Meets (unprime E i reply) v (.served W S fun reply' u =>
      reply' = reply ∧ Done W i r R exit u ∧ Grown v u) := by
  obtain ⟨cs, u', r₀, hR, hlaunch, hret, hv, hlands⟩ := h
  have hstart : Underway W cs [] i v (v.coroutine i) v := .start hv.drawn hv.mem
  refine hstart.then_update (fun _ => id) fun v₁ h₁ => ?_
  have hdone : Done W i r R exit v₁ := by
    refine ⟨cs, u', r₀, hR, hlaunch, hret, ?_, ?_⟩
    · refine ⟨h₁.drawn, h₁.mem, rfl, hv.grown.trans h₁.grown, fun c hc hci => ?_,
        fun c hc => absurd hc List.not_mem_nil, fun c hci hs => ?_⟩
      · exact (hv.others c hc hci).trans (h₁.others c hc hci)
      · exact (hv.gone c hci hs).trans (h₁.gone c hci ((hv.gone c hci hs).status.trans hs))
    · rw [h₁.record]
      cases exit with
      | suspended y a => exact ⟨{ hlands.1 with }, { hlands.2.1 with }, hlands.2.2⟩
      | completed result => exact { (hlands : (u'.coroutine i).Departs W _) with }
  obtain ⟨cs', hp, hdrawn, hcalm⟩ := hdone.calms
  refine .then_kept (hE.owning hp _ _) hdrawn (fun _ u hu => ?_) (fun _ h => h.1) fun _ h => h
  exact .pure ⟨rfl, hcalm hu, h₁.grown.trans hu.grown⟩

/-- A send to a coroutine whose body waits delivers what is primed, or else the value. -/
theorem Underway.send {left : Option PendingException}
    (h : Underway W cs ds i w { w.coroutine i with pending := left } v) (hE : Hosting W S E)
    (hwait : (w.coroutine i).Waits a) {d : Delivery} (run : Body W S E cs ds i w a d R) {x : Value}
    (hx : left ≠ none → x = .none)
    (hd : d.Carried (CoroutineRecord.delivery { w.coroutine i with pending := left } x)) :
    Meets (send E i x) v (.served W S (Served W i (w.coroutine i) R id)) := by
  have hu : ¬ (w.coroutine i).status = .unused := by
    rw [hwait.status]
    decide
  have hfirst : ¬ ((w.coroutine i).status = .unused ∧ (!x.isNone) = true) := fun h => hu h.1
  have hfin : ¬ (w.coroutine i).status = .finished := hwait.not_finished
  have hrun : ¬ (w.coroutine i).running = true := by simp [hwait.running]
  refine h.then_record ?_
  simp only [if_neg hfirst, if_neg hfin, if_neg hrun, if_neg hu]
  refine h.then_modify (fun _ => id) fun v₁ h₁ => .then_eq rfl ?_
  refine h₁.then_update (fun _ => id) fun v₂ h₂ => ?_
  cases left with
  | none => exact resume_serves hE hwait run hd h₂ ⟨(w.coroutine i).noteVisit.history, none, rfl, rfl, rfl⟩
  | some p =>
    rw [hx (by simp)]
    refine .then_eq (Effect.onPanic_ok (hE.empty v₂)) ?_
    exact resume_serves hE hwait run hd h₂ ⟨(w.coroutine i).noteVisit.history, none, rfl, rfl, rfl⟩

/-- A throw goes the way of a send. -/
theorem Underway.throwPending (hE : Hosting W S E) {p : PendingException}
    (hr : (w.coroutine i).running = false) (hfin : (w.coroutine i).status ≠ .finished)
    (hp : (w.coroutine i).pending = none) (hw : w.Drawn cs) (hi : i ∈ cs)
    (send : ∀ v, Underway W cs ds i w { w.coroutine i with pending := some p } v →
      Meets (CoroutineEngine.send E i .none) v (.served W S (Served W i (w.coroutine i) R id))) :
    Meets (throwPending E i p) w (.served W S (Served W i (w.coroutine i) R id)) := by
  have h : Underway W cs ds i w (w.coroutine i) w := .start hw hi
  have hrun : ¬ (w.coroutine i).running = true := by simp [hr]
  refine h.then_record ?_
  simp only [if_neg hrun, if_neg hfin]
  refine h.then_update (fun _ => id) fun v₁ h₁ => ?_
  rw [show ((w.coroutine i).pending, { w.coroutine i with pending := some p }).1 = none from hp]
  refine .then_eq (a := ()) (v := v₁) rfl ?_
  refine .bind ((send v₁ h₁).mono ?_ (fun _ h => h) fun _ h => h)
  rintro reply u ⟨exit, hshown, hdone⟩
  refine (hdone.unprime hE reply).mono ?_ (fun _ h => h) fun _ h => h
  rintro _ u' ⟨rfl, hdone', hg⟩
  exact ⟨exit, hshown.mono hg, hdone'⟩

/-- A fiber is granted. -/
theorem Underway.createFiber (h : Underway W cs ds i w r v) (hu : r.status = .unused)
    (hg : r.IsGranted) :
    Meets (createFiber i) v
      ⟨fun result u => result = .ok ⟨r.supply.stackSize, r.supply.lossIn, .fresh⟩ ∧
          Underway W cs ds i w r u, fun _ => False, fun _ => False⟩ := by
  refine h.then_update (fun _ => id) fun v₁ h₁ => ?_
  replace h₁ : Underway W cs ds i w r v₁ := noteAsk_unused hu ▸ h₁
  dsimp only
  rw [hg.1]
  dsimp only
  unfold mapStack
  rw [hg.2]
  exact .bind (h₁.then_sure (log_sure _ _ _) fun _ u hu => .pure (.pure ⟨rfl, hu⟩))

/-- A coroutine that was never resumed gets its frame and its fiber. -/
theorem Underway.materialize (h : Underway W cs ds i w r v) (hu : r.status = .unused) (hg : r.IsGranted)
    (hlast : i ∉ cs.dropLast) :
    Meets (materialize i) v
      ⟨fun failure u => failure = none ∧ ∃ frame, Underway W cs ds i w (r.materialized frame) u,
        fun _ => False, fun _ => False⟩ := by
  refine h.then_record (h.then_sure (makeFrame_sure _) fun frame v₂ h₂ => ?_)
  refine .bind ((h₂.createFiber hu hg).mono ?_ (fun _ h => h) fun _ h => h)
  rintro _ v₃ ⟨rfl, h₃⟩
  refine h₃.then_modify (fun hi => absurd hi hlast) fun v₄ h₄ => ?_
  exact h₄.then_sure (logCoroutine_sure _ _ _ _) fun _ v₅ h₅ => .pure ⟨rfl, frame, h₅⟩

/-- A send to a coroutine that was never resumed starts it. -/
theorem Underway.start_send (hfresh : (w.coroutine i).IsFresh) (hlast : i ∉ cs.dropLast)
    {left : Option PendingException}
    (h : Underway W cs ds i w { w.coroutine i with pending := left } v) {Q : Post L Reply}
    (next : ∀ u r₁ frame, Underway W cs ds i w r₁ u → (w.coroutine i).Starts left frame r₁ →
      Meets (resumeWith E i .none) u Q) : Meets (CoroutineEngine.send E i .none) v Q := by
  have hnone : ¬ ((w.coroutine i).status = .unused ∧ (!Value.none.isNone) = true) :=
    fun h => absurd h.2 (by decide)
  have hfin : ¬ (w.coroutine i).status = .finished := hfresh.not_finished
  have hrun : ¬ (w.coroutine i).running = true := by simp [hfresh.running]
  refine h.then_record ?_
  simp only [if_neg hnone, if_neg hfin, if_neg hrun, if_pos hfresh.status]
  refine h.then_modify (fun _ => id) fun v₁ h₁ => .bind ?_
  refine (h₁.materialize hfresh.status hfresh.granted hlast).mono ?_ (fun _ h => h.elim) fun _ h => h.elim
  rintro _ v₂ ⟨rfl, frame, h₂⟩
  exact next v₂ _ frame h₂ ⟨⟨rfl, rfl, id⟩, rfl, rfl, rfl, rfl, hfresh.running, rfl, rfl, rfl, rfl⟩

/-- A send starts the body of a coroutine that was never resumed. -/
theorem start_serves (hE : Hosting W S E) (hfresh : (w.coroutine i).IsFresh)
    (hp : (w.coroutine i).pending = none) (hlast : i ∉ cs.dropLast) (hw : w.Drawn cs) (hi : i ∈ cs)
    {program : L.Script}
    (hprogram : w.programs[(w.coroutine i).code.entry]? = some program)
    (run : Body W S E cs ds i w (.new (L.start program)) (.value .none) R) :
    Meets (send E i .none) w (.served W S (Served W i (w.coroutine i) R id)) := by
  have h : Underway W cs ds i w { w.coroutine i with pending := none } w := by
    rw [← hp]
    exact .start hw hi
  refine h.start_send hfresh hlast fun v r₁ frame hv hs => ?_
  refine hv.then_update (fun _ => id) fun v₁ h₁ => ?_
  rw [show (r₁.pending, _).1 = none from hs.pending]
  refine h₁.resume hE hs.frame hs.fiber hfresh.lossIn hs.code fun u hu => ?_
  refine .then_gets ?_
  rw [hu.grown.programs _ _ hprogram]
  refine hu.then_modify (fun _ => id) fun u₁ hu₁ => ?_
  have hframe : r₁.frame ≠ none := by simp [hs.frame]
  refine handed_of_run hu₁
    (fun _ _ => ⟨⟨hs.code, hs.inputs, hs.handles⟩, hs.counted, hs.visits, hs.status, rfl, rfl,
      hs.awaiting⟩) hframe hs.attention fun u₂ r₀ hu₂ hl hf hd => ?_
  exact run u₂ r₀ frame _ hu₂ hl (hf.trans hs.frame) (.value .none) hd

theorem instantiate_given {p : PendingException} {e : Exception} (he : p.value = some e)
    (u : World L) :
    Meets (p.instantiate : Effect L Exception) u
      ⟨fun e' _ => e' = e, fun _ => False, fun _ => False⟩ := by
  unfold PendingException.instantiate
  rw [he]
  refine .then_eq rfl ?_
  split
  · exact .then_eq rfl (.pure rfl)
  · exact .pure rfl

/-- An exception that is thrown into a coroutine that was never resumed is raised as if its body raised
it. -/
theorem throwFresh_serves (ds : List CoroutineId) (hE : Hosting W S E) (hfresh : (w.coroutine i).IsFresh)
    (hp : (w.coroutine i).pending = none) (hlast : i ∉ cs.dropLast) (hw : w.Drawn cs) (hi : i ∈ cs)
    (hcs : cs <+: W.line) {p : PendingException} {e : Exception} (he : p.value = some e) :
    Meets (throwPending E i p) w (.served W S (Served W i (w.coroutine i)
      (fun cs' exit u => exit = .completed (.error e) ∧ cs' = cs ∧ ∃ r, Underway W cs ds i w r u) id)) := by
  refine Underway.throwPending hE hfresh.running hfresh.not_finished hp hw hi
    fun v (h : Underway W cs ds i w _ v) => ?_
  refine h.start_send hfresh hlast fun v r₁ frame hv hs => ?_
  refine hv.then_update (fun _ => id) fun v₁ h₁ => ?_
  rw [show (r₁.pending, _).1 = some p from hs.pending]
  refine .then_eq (Effect.onPanic_ok (hE.empty v₁)) ?_
  refine h₁.resume hE hs.frame hs.fiber hfresh.lossIn hs.code fun u hu => ?_
  have hframe : r₁.frame ≠ none := by simp [hs.frame]
  refine .bind (((instantiate_given he u).and (hu.sure (Q := ⟨fun _ u' => Underway W cs ds i w _ u',
    fun _ => False, fun _ => False⟩) (instantiate_sure p) fun _ _ h => h)).mono ?_ (fun _ h => h.1.elim)
    fun _ h => h.1.elim)
  rintro _ u' ⟨rfl, hu'⟩
  refine .then_eq (Effect.onPanic_ok (hE.empty u')) (.pure ⟨_, rfl, cs, u', ?_, ?_, .refl _ _ _⟩)
  · have hlaunch : (w.coroutine i).Launches (u'.coroutine i) := by
      rw [hu'.record]
      exact ⟨⟨hs.code, hs.inputs, hs.handles⟩, hs.counted, hs.visits, hs.status, rfl, rfl, hs.awaiting⟩
    refine ⟨_, ⟨rfl, rfl, _, hu'⟩, hlaunch, ?_, hcs, hi, hu'.drawn, fun _ _ => hlast, .refl _ _⟩
    rw [hu'.record]
    exact hframe
  · exact .start hu'.drawn hi

/-! ### Requests in which the body does not run -/

/-- A refused request. -/
theorem refuse_serves (hE : Hosting W S E) (hp : cs <+: W.line) (hw : w.Drawn cs)
    (error : CoroutineError) (vs : List Value) :
    Meets (refuse E error vs) w (.served W S fun reply u =>
      (Verdict.fails error).Shown i reply u ∧ Calm W cs w u) := by
  refine .bind (((raise_fresh error w).and ((raise_sure error).meets (w := w)
    (Q := ⟨fun _ u => Calm W cs w u, fun _ => False, fun _ => False⟩) fun e u hc ha hg => ?_)).mono ?_
    (fun _ h => h.1.elim) fun _ h => h.1.elim)
  · refine .of_same hw ⟨?_, ?_⟩ hg hc
    · rw [ha]
      exact hw.orderly.borrowed
    · rw [ha]
      exact hw.orderly.hook
  · rintro e u ⟨hfresh, hcalm⟩
    refine .then_kept (hE.owning hp _ _) hcalm.drawn (fun _ u' hu' => ?_) (fun _ h => h.1) fun _ h => h
    exact .pure ⟨(fails_shown i hfresh).mono hu'.grown, (calm W S cs).trans hcalm hu'⟩

/-- After computations that only make objects, the line is calm. -/
theorem calm_of_sure {x : Effect L α} (hx : Sure x) : (calm W S cs).Kept x :=
  calm_of hx.1.harmless hx.1.coroutines fun w _ => hx.2 w

/-- A request on a coroutine that is over. -/
theorem over_serves (hE : Hosting W S E) (hp : cs <+: W.line) (hw : w.Drawn cs)
    (hover : (w.coroutine i).IsOver) (d : Demand) :
    Meets (d.request E i) w (.served W S fun reply u => ∃ verdict,
      (∀ {K : Type} (ρ : Resumption K) g, Automaton.Step ρ g .finished d verdict .finished) ∧
        verdict.Shown i reply u ∧ Calm W cs w u) := by
  have hs := hover.status
  have hrun : ¬ (w.coroutine i).running = true := by simp [hover.running]
  have hne : ¬ (w.coroutine i).status = .unused := by simp [hs]
  cases d with
  | send v =>
    refine .then_gets ?_
    simp only [hne, false_and, if_false, if_pos hs]
    have hquiet : (calm W S cs).Kept (makeException .stopIteration []) :=
      calm_of_sure (makeException_sure (L := L) .stopIteration [])
    refine .bind (((makeException_fresh .stopIteration [] w).and (hquiet w hw)).mono ?_ (fun _ h => h.1.elim)
      fun _ h => h.1.elim)
    rintro e u ⟨⟨hc, hi, hfresh⟩, hcalm⟩
    refine .then_kept ((hE.release hp v).onPanic (hE.releaseAll hp _)) hcalm.drawn (fun _ u' hu' => ?_)
      (fun _ h => h.1) fun _ h => h
    refine .pure ⟨.stops .none, fun ρ g => .sendLate v, .mono ⟨⟨e, rfl, hc, ?_⟩, ?_⟩ hu'.grown,
      (calm W S cs).trans hcalm hu'⟩
    · rw [World.sight, hfresh]
      rfl
    · rintro e' he'
      cases he'
      exact .inr hi
  | throw e =>
    refine .then_gets (.then_gets ?_)
    simp only [if_neg hrun, if_pos hs]
    have hquiet : (calm W S cs).Kept (PendingException.instantiate _) :=
      calm_of_sure (instantiate_sure (L := L) ⟨e.cls, some e, (w.exception e).traceback⟩)
    refine .bind (((instantiate_given rfl w).and (hquiet w hw)).mono ?_ (fun _ h => h.1.elim)
      fun _ h => h.1.elim)
    rintro _ u ⟨rfl, hcalm⟩
    refine .pure ⟨.raises _, fun ρ g => .throwLate _, ⟨by simp [Verdict.Seen], ?_⟩, hcalm⟩
    exact fun e' he' => .inl (by cases he'; rfl)
  | close =>
    refine .then_gets ?_
    have hne' : (w.coroutine i).status ≠ .running := by simp [hs]
    simp only [if_pos hne']
    exact .pure ⟨.gives .none, fun ρ g => .closeLate, gives_shown _ i w, (calm W S cs).refl hw⟩

/-- A close of a coroutine that was never resumed, and a send of a value to it. -/
theorem early_serves (hE : Hosting W S E) (hp : cs <+: W.line) (hw : w.Drawn cs)
    (hfresh : (w.coroutine i).IsFresh) {d : Demand}
    (hd : d = .close ∨ ∃ v, v ≠ .none ∧ d = .send v) :
    Meets (d.request E i) w (.served W S fun reply u => ∃ verdict,
      (∀ {K : Type} (ρ : Resumption K) g, Automaton.Step ρ g .unused d verdict .unused) ∧
        verdict.Shown i reply u ∧ Calm W cs w u) := by
  rcases hd with rfl | ⟨v, hv, rfl⟩
  · refine .then_gets ?_
    have hne : (w.coroutine i).status ≠ .running := by simp [hfresh.status]
    simp only [if_pos hne]
    exact .pure ⟨.gives .none, fun ρ g => .closeEarly, gives_shown _ i w, (calm W S cs).refl hw⟩
  · refine .then_gets ?_
    have hfirst : (w.coroutine i).status = .unused ∧ (!v.isNone) = true := by
      refine ⟨hfresh.status, ?_⟩
      cases v <;> first | exact absurd rfl hv | rfl
    simp only [if_pos hfirst]
    refine (refuse_serves (i := i) hE hp hw _ _).mono ?_ (fun _ h => h) fun _ h => h
    exact fun reply u hu => ⟨_, fun ρ g => .sendEarly hv, hu⟩

/-! ### Requests on a body that waits -/

/-- What a close makes of the reply of its throw. -/
theorem closing_serves (hE : Hosting W S E) (hp : cs <+: W.line) (hw : w.Drawn cs) {verdict : Verdict}
    {reply : Reply} :
    verdict.Shown i reply w → Meets
      (match reply with
      | .ok v => refuse E .ignoredGeneratorExit [v]
      | .error e => do
        if e.cls.isSubclassOf .generatorExit || e.cls.isSubclassOf .stopIteration then
          E.releaseException e
          return .ok .none
        return .error e : Effect L Reply) w (.served W S fun reply' u =>
          (Automaton.closing verdict).Shown i reply' u ∧ Calm W cs w u) := by
  intro h
  have expected (e : Exception) :
      Meets (E.releaseException e >>= fun _ => pure (.ok .none) : Effect L Reply) w
        (.served W S fun reply' u => (Verdict.gives .none).Shown i reply' u ∧ Calm W cs w u) := by
    exact .then_kept (hE.release hp _) hw (fun _ u hu => .pure ⟨gives_shown _ i u, hu⟩)
      (fun _ h => h.1) fun _ h => h
  have same {e : Exception} (h : verdict.Shown i (.error e) w) (hc : Automaton.closing verdict = verdict) :
      Meets (pure (.error e) : Effect L Reply) w (.served W S fun reply' u =>
        (Automaton.closing verdict).Shown i reply' u ∧ Calm W cs w u) :=
    .pure ⟨hc.symm ▸ h, (calm W S cs).refl hw⟩
  cases reply with
  | ok v =>
    cases verdict with
    | gives a => exact refuse_serves hE hp hw _ _
    | stops a => exact absurd h.seen (by simp [Verdict.Seen])
    | raises e => exact absurd h.seen (by simp [Verdict.Seen])
    | fails error => exact absurd h.seen (by simp [Verdict.Seen])
    | leaks e => exact absurd h.seen (by simp [Verdict.Seen])
  | error e =>
    dsimp only
    cases verdict with
    | gives a => exact absurd h.seen (by simp [Verdict.Seen])
    | stops a =>
      obtain ⟨e', he, hc, -⟩ := h.seen
      cases he
      rw [hc]
      exact expected e
    | raises e' =>
      have he : e = e' := by simpa [Verdict.Seen] using h.seen
      subst he
      simp only [Automaton.closing]
      split
      · exact expected e
      · exact .pure ⟨h, (calm W S cs).refl hw⟩
    | fails error =>
      obtain ⟨e', id, he, hc, -⟩ := h.seen
      cases he
      have hcls : (e.cls.isSubclassOf .generatorExit || e.cls.isSubclassOf .stopIteration) = false := by
        rw [hc]
        cases error <;> rfl
      simp only [hcls]
      exact same h rfl
    | leaks e' =>
      obtain ⟨e'', id, he, hc, -⟩ := h.seen
      cases he
      rw [hc]
      exact same h rfl

/-- A request on a coroutine whose body waits lets the body go on, and is answered by what it does. -/
theorem waiting_serves (hE : Hosting W S E) (hwait : (w.coroutine i).Waits a)
    (hp : (w.coroutine i).pending = none) (hw : w.Drawn cs) (hi : i ∈ cs) (d : Demand)
    (run : Body W S E cs ds i w a d.delivery R) :
    Meets (d.request E i) w (.served W S (Served W i (w.coroutine i) R d.judge)) := by
  have thrown {p : PendingException} (hd : d.delivery.Carried (.ofPending p)) :
      Meets (throwPending E i p) w (.served W S (Served W i (w.coroutine i) R id)) :=
    Underway.throwPending hE hwait.running hwait.not_finished hp hw hi
      fun v (hv : Underway W cs ds i w _ v) => hv.send hE hwait run (fun _ => rfl) hd
  cases d with
  | send v =>
    have h : Underway W cs ds i w { w.coroutine i with pending := none } w := by
      rw [← hp]
      exact .start hw hi
    exact h.send hE hwait run (fun h => absurd rfl h) (.value v)
  | throw e => exact .then_gets (thrown (.raised e _))
  | close =>
    refine .then_gets ?_
    have hrun : ¬ (w.coroutine i).status ≠ .running := fun h => h hwait.status
    simp only [if_neg hrun]
    refine .bind ((thrown .cancelled).mono ?_ (fun _ h => h) fun _ h => h)
    rintro reply u ⟨exit, hshown, hdone⟩
    obtain ⟨cs', hp', hdrawn, hcalm⟩ := hdone.calms
    refine (closing_serves hE hp' hdrawn hshown).mono ?_ (fun _ h => h) fun _ h => h
    exact fun reply' u' hu' => ⟨exit, hu'.1, hcalm hu'.2⟩

end

end CoroutineEngine
