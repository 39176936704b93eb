import CoroutineEngine.Coroutine.Attributes
import CoroutineEngine.Coroutine.Builder
import CoroutineEngine.Coroutine.Lifecycle
import CoroutineEngine.Proofs.Provenance.Objects

/-!
# Requests and releases forge nothing

What a coroutine is given, what it yields and what it is left with was made before, if the engine that runs its
body and releases its handles forges nothing.

Results:
* `Honest.send`, `Honest.throw`, `Honest.close`: requests are honest.
* `Honest.releaseHandle`: releases are honest.
-/

namespace CoroutineEngine

variable {L : Language} {ι : Inventory}

/-! ## What is owned -/

theorem genuine_exceptions {e : Option Exception} (he : Genuine ι e) : Genuine ι (e.toList.map Value.exception) :=
  genuine_map (f := Value.exception) (fun _ h => h) (genuine_toList he)

theorem genuine_cells (cells : List CellId) : Genuine ι (cells.map Value.cell) := by
  intro v hv
  obtain ⟨c, -, rfl⟩ := List.mem_map.mp hv
  trivial

theorem PendingException.genuine_owned {p : PendingException} (hp : Genuine ι p) : Genuine ι p.owned :=
  genuine_exceptions hp

theorem genuine_pending {p : Option PendingException} (hp : Genuine ι p) :
    Genuine ι ((p.map (·.owned)).getD []) := by
  cases p with
  | none => exact genuine_nil
  | some p => exact PendingException.genuine_owned (genuine_some.mp hp)

theorem Transfer.genuine_owned {t : Transfer} (ht : Genuine ι t) : Genuine ι t.owned :=
  genuine_cons.mpr ⟨ht.1, genuine_pending ht.2⟩

theorem Reply.genuine_owned {r : Reply} (hr : Genuine ι r) : Genuine ι r.owned := by
  cases r <;> exact hr

theorem DriverState.genuine_owned {d : DriverState} (hd : Genuine ι d) : Genuine ι d.owned :=
  genuine_append.mpr ⟨genuine_pending hd.2.1, genuine_exceptions hd.2.2⟩

theorem genuine_outcomeOwned {outcome : Except FiberError (Exit L)} (h : Genuine ι outcome) :
    Genuine ι (outcomeOwned outcome) := by
  rcases outcome with _ | ⟨v, a⟩ | e | v
  · exact genuine_nil
  · exact h.1.single
  · exact Genuine.single (a := Value.exception e) h
  · exact Genuine.single (a := v) h

theorem Fiber.genuine_of_suspended {f : Fiber L} (hf : Genuine ι f) {a : Activation L} (h : f.stack = .suspended a) :
    Genuine ι a := by
  refine hf a ?_
  show f.stack.activation? = some a
  rw [h]
  rfl

theorem Fiber.genuine_after {f : Fiber L} (hf : Genuine ι f) {outcome : Except FiberError (Exit L)}
    (h : Genuine ι outcome) : Genuine ι (f.after outcome) := by
  rcases outcome with _ | ⟨v, a⟩ | r
  · exact hf
  · exact genuine_some.mpr h.2
  · exact genuine_none

theorem Fiber.genuine_afterPanic (f : Fiber L) : Genuine ι f.afterPanic := by
  unfold Fiber.afterPanic
  split <;> exact genuine_none

namespace Honest

variable {α : Type} [Certified α] {E : Engine L} (hE : E.IsHonest)

include hE

/-! ## Releases -/

theorem releaseAll {vs : List Value} (hvs : Genuine ι vs) : Honest ι (E.releaseAll vs) := by
  induction vs generalizing ι with
  | nil => exact .pure trivial
  | cons v vs ih =>
    obtain ⟨hv, hvs⟩ := genuine_cons.mp hvs
    exact .andFinally hvs (hE.release hv) fun _ hvs => ih hvs

theorem releaseOption {v : Option Value} (hv : Genuine ι v) : Honest ι (E.releaseOption v) :=
  releaseAll hE (genuine_toList hv)

theorem releaseException {e : Exception} (he : Genuine ι e) : Honest ι (E.releaseException e) :=
  hE.release (v := .exception e) he

theorem releaseException? {e : Option Exception} (he : Genuine ι e) : Honest ι (E.releaseException? e) :=
  releaseAll hE (genuine_exceptions he)

theorem releasePending? {p : Option PendingException} (hp : Genuine ι p) : Honest ι (E.releasePending? p) :=
  releaseAll hE (genuine_pending hp)

theorem releaseReply {r : Reply} (hr : Genuine ι r) : Honest ι (E.releaseReply r) := by
  cases r with
  | ok v => exact hE.release hr
  | error e => exact releaseException hE hr

theorem holding {v : Value} (hv : Genuine ι v) {x : Effect L α} (hx : Honest ι x) : Honest ι (E.holding v x) :=
  .andFinally hv hx fun _ hv => hE.release hv

theorem owning {vs : List Value} (hvs : Genuine ι vs) {x : Effect L α} (hx : Honest ι x) :
    Honest ι (E.owning vs x) := .onPanic hvs hx fun _ hvs => releaseAll hE hvs

/-- A value is released while an exception is held. -/
theorem owningException {e : Exception} (he : Genuine ι e) {x : Effect L α} (hx : Honest ι x) :
    Honest ι (E.owning [.exception e] x) := owning hE (Genuine.single (a := Value.exception e) he) hx

/-! ## The arguments of a throw -/

theorem refuse (error : CoroutineError) {operands : List Value} (ho : Genuine ι operands) :
    Honest ι (CoroutineEngine.refuse E error operands : Effect L (Except Exception α)) := by
  refine .bind ho (raise error) fun ι ho e he => ?_
  exact .bind he (owningException hE he (releaseAll hE ho)) fun _ he _ _ => .pure he

theorem instanceOf (cls : ExceptionClass) {v : Value} (hv : Genuine ι v) :
    Honest ι (CoroutineEngine.instanceOf E cls v) := by
  have single {v : Value} (hv : Genuine ι v) : Honest ι (CoroutineEngine.makeException cls [v] : Effect L _) :=
    makeException cls hv.single
  cases v with
  | none => exact makeException cls genuine_nil
  | tuple i items =>
    refine .bind hv (retainAll items) fun ι hv _ _ => ?_
    refine .bind hv (makeException cls (Value.areGenuine_iff.mp hv.2)) fun ι hv e he => ?_
    exact .bind he (owningException hE he (hE.release hv)) fun _ he _ _ => .pure he
  | exception e =>
    unfold CoroutineEngine.instanceOf
    dsimp only
    split
    · exact .pure hv
    · exact single hv
  | _ => exact single hv

theorem normalizeThrow {kind value : Value} (hk : Genuine ι kind) (hv : Genuine ι value) (traceback : Value) :
    Honest ι (CoroutineEngine.normalizeThrow E kind value traceback) := by
  have withTraceback (traceback : Option Traceback) {ι : Inventory} {e : Exception} (he : Genuine ι e) :
      Honest ι (do
        if traceback.isSome then
          CoroutineEngine.setTraceback e traceback
        return .ok (← CoroutineEngine.pendingOf e) : Effect L (Except Exception PendingException)) := by
    split
    · exact .bind he (setTraceback e _) fun _ he _ _ => .next (pendingOf he) fun _ _ hp => .pure hp
    · exact .next (pendingOf he) fun _ _ hp => .pure hp
  have value' : Genuine ι [value] := hv.single
  unfold CoroutineEngine.normalizeThrow
  split
  · exact refuse hE _ value'
  · dsimp only
    split
    · exact .next (instanceOf hE _ hv) fun _ _ he => withTraceback _ he
    · split
      · exact .bind hk (retain _) fun _ he _ _ => withTraceback _ he
      · exact refuse hE _ value'
    · exact refuse hE _ value'

omit hE

/-! ## Fibers -/

theorem mapStack (size : Nat) : Honest ι (CoroutineEngine.mapStack size : Effect L (Option FiberError)) := by
  unfold CoroutineEngine.mapStack
  split
  · exact panic _
  · exact .pure (genuine_some.mpr trivial)
  · exact .next (log _ _ _) fun _ _ _ => .pure genuine_none

theorem createFiber (c : CoroutineId) :
    Honest ι (CoroutineEngine.createFiber c : Effect L (Except FiberError (Fiber L))) := by
  refine .next (updateCoroutine c fun _ hr => ⟨trivial, { hr with }⟩) fun ι supply _ => ?_
  split
  · exact .next (modifyCoroutine c fun _ hr => { hr with }) fun _ _ _ => .pure trivial
  · refine .next (mapStack _) fun ι error _ => ?_
    cases error with
    | some error => exact .pure trivial
    | none => exact .pure genuine_none

include hE

theorem releaseFiber {f : Fiber L} (hf : Genuine ι f) : Honest ι (CoroutineEngine.releaseFiber E f) := by
  unfold CoroutineEngine.releaseFiber
  dsimp only
  split
  · exact .pure trivial
  · exact log _ _ _
  · exact log _ _ _
  · next a h =>
    have ha := Fiber.genuine_of_suspended hf h
    exact .bind ha (log _ _ _) fun _ ha _ _ => releaseAll hE ha

theorem discardFiber (c : CoroutineId) {f : Fiber L} (hf : Genuine ι f) :
    Honest ι (CoroutineEngine.discardFiber E c f) :=
  .bind hf (modifyCoroutine c fun _ hr => { hr with }) fun _ hf _ _ => releaseFiber hE hf

theorem approachLoss {f : Fiber L} (hf : Genuine ι f) : Honest ι (CoroutineEngine.approachLoss E f) := by
  unfold CoroutineEngine.approachLoss
  split
  · exact .pure hf
  · exact .next (releaseFiber hE hf) fun _ _ _ => .pure genuine_none
  · exact .pure hf

theorem continueBody {k : Context} (hk : Genuine ι k) {a : Activation L} (ha : Genuine ι a) {t : Transfer}
    (ht : Genuine ι t) : Honest ι (CoroutineEngine.continueBody E k a t) := by
  refine .bind (hk.and (ha.and ht)) (.modify fun w hw => hw.modifyCoroutine _ fun h => { h with })
    fun ι ⟨hk, ha, ht⟩ _ _ => ?_
  refine .next (hE.run (some k) (genuine_some.mpr hk) ha ht) fun ι exit he => ?_
  exact .bind he (.modify fun w hw => hw.modifyCoroutine _ fun h => { h with }) fun _ he _ _ => .pure he

theorem enterFiber {k : Context} (hk : Genuine ι k) {f : Fiber L} (hf : Genuine ι f) {t : Transfer}
    (ht : Genuine ι t) : Honest ι (CoroutineEngine.enterFiber E k f t) := by
  unfold CoroutineEngine.enterFiber
  split
  · exact .next (releaseAll hE (Transfer.genuine_owned ht)) fun _ _ _ => .pure trivial
  · exact .next (releaseAll hE (Transfer.genuine_owned ht)) fun _ _ _ => .pure trivial
  · next a h =>
    have ha := Fiber.genuine_of_suspended hf h
    exact .next (continueBody hE hk ha ht) fun _ _ he => .pure he
  · split
    · next p h =>
      refine .bind ht (instantiate (ht.2 p h)) fun ι ht e he => ?_
      exact .bind he (owningException hE he (hE.release ht.1)) fun _ he _ _ => .pure he
    · refine .bind (hk.and ht) (.gets fun _ _ => fun _ _ => trivial) fun ι ⟨hk, ht⟩ program _ => ?_
      cases program with
      | none => exact .next (hE.release ht.1) fun _ _ _ => .pure trivial
      | some program =>
        refine .bind (hk.and ht) (modifyCoroutine _ fun _ hr => { hr with }) fun ι ⟨hk, ht⟩ _ _ => ?_
        exact .next (continueBody hE hk genuine_nil ht) fun _ _ he => .pure he

/-! ## Switches -/

omit hE in
theorem enterSwitch (c : CoroutineId) {frame : Frame} (hf : Genuine ι frame) :
    Honest ι (CoroutineEngine.enterSwitch c frame : Effect L DriverState) := by
  refine .bind hf (swapTop (genuine_some.mpr hf)) fun ι hf caller hc => ?_
  refine .bind (hf.and hc) (swapBack frame hc) fun ι ⟨hf, hc⟩ _ _ => ?_
  refine .bind hc (updateCoroutine c fun _ hr => ⟨hr.handled, { hr with handled := genuine_none }⟩)
    fun ι hc own ho => ?_
  refine .bind (hc.and ho) fetchError fun ι ⟨hc, ho⟩ error he => ?_
  refine .bind (hc.and he) (swapHandled ho) fun ι ⟨hc, he⟩ handled hh => ?_
  refine .bind (hc.and (he.and hh)) (modifyCoroutine c fun _ hr => { hr with })
    fun ι h _ _ => ?_
  exact .bind h (logCoroutine _ _ _ _) fun _ h _ _ => .pure h

theorem finish (c : CoroutineId) : Honest ι (CoroutineEngine.finish E c) := by
  refine .next (updateCoroutine c fun r hr => ⟨hr.inputs, { hr with frame := genuine_none, inputs := genuine_nil }⟩)
    fun ι parameters hp => ?_
  refine .next (releaseAll hE hp) fun ι _ _ => ?_
  refine .next (updateCoroutine c fun r hr => ⟨hr.awaiting, { hr with awaiting := genuine_none }⟩)
    fun ι awaiting ha => ?_
  refine .next (releaseOption hE ha) fun ι _ _ => ?_
  refine .next (updateCoroutine c fun r hr => ⟨hr.pending, { hr with pending := genuine_none }⟩)
    fun ι pending hp => ?_
  exact .next (releasePending? hE hp) fun _ _ _ => logCoroutine _ _ _ _

theorem discardStray : Honest ι (CoroutineEngine.discardStray E) := by
  refine .next fetchError fun ι stray hs => ?_
  cases stray with
  | none => exact .pure trivial
  | some stray => exact .bind hs (log _ _ _) fun _ hs _ _ => releasePending? hE hs

theorem restoreDriver (c : CoroutineId) {frame : Frame} (hf : Genuine ι frame) {d : DriverState}
    (hd : Genuine ι d) : Honest ι (CoroutineEngine.restoreDriver E c frame d) := by
  refine .bind (hf.and hd) (modifyCoroutine c fun _ hr => { hr with }) fun ι h _ _ => ?_
  refine .bind h (owning hE (DriverState.genuine_owned h.2) (discardStray hE)) fun ι h _ _ => ?_
  refine .bind h (swapError h.2.2.1) fun ι h displaced hp => ?_
  refine .bind h (owning hE (genuine_exceptions h.2.2.2) (releasePending? hE hp)) fun ι h _ _ => ?_
  refine .bind h (swapHandled h.2.2.2) fun ι h own ho => ?_
  refine .bind h (updateCoroutine c fun r hr => ⟨hr.handled, { hr with handled := ho }⟩) fun ι h previous hp => ?_
  refine .bind h (releaseException? hE hp) fun ι h _ _ => ?_
  refine .bind h (swapBack frame genuine_none) fun ι h _ _ => ?_
  exact .next (swapTop h.2.1) fun _ _ _ => .pure trivial

theorem leaveSwitch (c : CoroutineId) {frame : Frame} (hf : Genuine ι frame) {d : DriverState}
    (hd : Genuine ι d) (panicked : Bool) : Honest ι (CoroutineEngine.leaveSwitch E c frame d panicked) := by
  refine .next (restoreDriver hE c hf hd) fun ι _ _ => ?_
  cases panicked with
  | false => exact .pure trivial
  | true => exact .next (logCoroutine _ _ _ _) fun _ _ _ => finish hE c

theorem switchInto (c : CoroutineId) {code : Code} (hc : Genuine ι code) {frame : Frame} (hf : Genuine ι frame)
    {fiber : Fiber L} (hfiber : Genuine ι fiber) {t : Transfer} (ht : Genuine ι t) :
    Honest ι (CoroutineEngine.switchInto E c code frame fiber t) := by
  refine .bind (hc.and (hf.and (hfiber.and ht))) (enterSwitch c hf) fun ι h driver hd => ?_
  refine .bind (h.2.1.and hd) (.onPanic (h.2.1.and hd) ?_ fun ι h => ?_)
    fun ι ⟨hf, hd⟩ (outcome, fiber) ho => ?_
  · refine .bind h (approachLoss hE h.2.2.1) fun ι h fiber hfiber => ?_
    have hk : Genuine ι (⟨c, code, frame⟩ : Context) := ⟨h.1, h.2.1⟩
    refine .bind hfiber (enterFiber hE hk hfiber h.2.2.2) fun ι hfiber outcome ho => ?_
    exact .pure ⟨ho, Fiber.genuine_after hfiber ho⟩
  · exact .next (leaveSwitch hE c h.1 h.2 true) fun _ _ _ => discardFiber hE c (Fiber.genuine_afterPanic _)
  · refine .bind ho (.onPanic ho (leaveSwitch hE c hf hd false) fun ι ho => ?_) fun _ ho _ _ => .pure ho
    exact .bind ho (releaseAll hE (genuine_outcomeOwned ho.1)) fun _ ho _ _ => discardFiber hE c ho.2

/-! ## Requests -/

omit hE in
theorem materialize (c : CoroutineId) :
    Honest ι (CoroutineEngine.materialize c : Effect L (Option FiberError)) := by
  refine .next (recordOf c) fun ι r hr => ?_
  refine .next (makeFrame hr.code) fun ι frame hf => ?_
  refine .bind hf (createFiber c) fun ι hf result hfiber => ?_
  cases result with
  | error error => exact .next (logCoroutine _ _ _ _) fun _ _ _ => .pure (genuine_some.mpr trivial)
  | ok fiber =>
    refine .next (modifyCoroutine c fun _ hr =>
      { hr with fiber := genuine_some.mpr hfiber, frame := genuine_some.mpr hf }) fun ι _ _ => ?_
    exact .next (logCoroutine _ _ _ _) fun _ _ _ => .pure genuine_none

omit hE in
theorem surface (code : Code) (frame : Frame) {r : Reply} (hr : Genuine ι r) :
    Honest ι (CoroutineEngine.surface code frame r : Effect L Reply) := by
  cases r with
  | ok v => exact .next (makeStopIteration hr) fun _ _ he => .pure he
  | error e =>
    have he : Genuine ι e := hr
    refine .bind he (pushTraceback e frame) fun ι he _ _ => ?_
    split
    · refine .bind he (raise _) fun ι he wrapped hw => ?_
      refine .bind (he.and hw) (retain _) fun ι h _ _ => ?_
      refine .bind h (attachCause wrapped h.1) fun ι h _ _ => ?_
      exact .bind h (attachContext wrapped h.1) fun _ h _ _ => .pure h.2
    · exact .pure he

theorem resume (c : CoroutineId) {t : Transfer} (ht : Genuine ι t) : Honest ι (CoroutineEngine.resume E c t) := by
  refine .bind ht (recordOf c) fun ι ht r hr => ?_
  split
  · next frame fiber hframe hfiber =>
    have hf := hr.frame frame hframe
    refine .bind (hr.code.and (hf.and ((hr.fiber fiber hfiber).and ht)))
      (modifyCoroutine c fun _ hr => { hr with fiber := genuine_none }) fun ι h _ _ => ?_
    refine .next (switchInto hE c h.1 h.2.1 h.2.2.1 h.2.2.2) fun ι (outcome, fiber) ho => ?_
    refine .bind ho.1 (modifyCoroutine c fun _ hr => { hr with fiber := genuine_some.mpr ho.2 })
      fun ι ho _ _ => ?_
    rcases outcome with error | ⟨v, a⟩ | result
    · refine .next (logCoroutine _ _ _ _) fun ι _ _ => ?_
      refine .next (modifyCoroutine c fun _ hr => { hr with }) fun ι _ _ => ?_
      exact .next (finish hE c) fun _ _ _ => .next (raise _) fun _ _ he => .pure he
    · exact .pure ho.1
    · exact .bind ho (owning hE (genuine_outcomeOwned ho) (finish hE c)) fun _ ho _ _ => surface _ _ ho
  · exact .bind ht (modifyCoroutine c fun _ hr => { hr with }) fun _ ht _ _ => refuse hE _ (Transfer.genuine_owned ht)

theorem resumeWith (c : CoroutineId) {v : Value} (hv : Genuine ι v) :
    Honest ι (CoroutineEngine.resumeWith E c v) := by
  refine .bind hv (updateCoroutine c fun _ hr => ⟨hr.pending, { hr with pending := genuine_none }⟩)
    fun ι hv pending hp => ?_
  cases pending with
  | none => exact resume hE c (t := .ofValue v) ⟨hv, genuine_none⟩
  | some p =>
    have hp := genuine_some.mp hp
    refine .bind hp (owning hE (PendingException.genuine_owned hp) (hE.release hv)) fun ι hp _ _ => ?_
    exact resume hE c (t := .ofPending p) ⟨trivial, genuine_some.mpr hp⟩

theorem send (c : CoroutineId) {v : Value} (hv : Genuine ι v) : Honest ι (CoroutineEngine.send E c v) := by
  have refused {ι : Inventory} (hv : Genuine ι v) (error : CoroutineError) :
      Honest ι (CoroutineEngine.refuse E error [v] : Effect L Reply) :=
    refuse hE error hv.single
  refine .bind hv (recordOf c) fun ι hv r _ => ?_
  split
  · exact refused hv _
  split
  · refine .bind hv (makeStopIteration (v := .none) trivial) fun ι hv e he => ?_
    exact .bind he (owningException hE he (hE.release hv)) fun _ he _ _ => .pure he
  split
  · exact refused hv _
  · refine .bind hv (modifyCoroutine c fun _ hr => { hr with }) fun ι hv _ _ => ?_
    split
    · refine .bind hv (materialize c) fun ι hv error _ => ?_
      cases error with
      | some error => exact refused hv _
      | none => exact resumeWith hE c hv
    · exact resumeWith hE c hv

theorem throwPending (c : CoroutineId) {p : PendingException} (hp : Genuine ι p) :
    Honest ι (CoroutineEngine.throwPending E c p) := by
  refine .bind hp (recordOf c) fun ι hp r _ => ?_
  split
  · exact refuse hE _ (PendingException.genuine_owned hp)
  split
  · exact .next (instantiate hp) fun _ _ he => .pure he
  · refine .next (updateCoroutine c fun _ hr => ⟨hr.pending, { hr with pending := genuine_some.mpr hp }⟩)
      fun ι pending hpending => ?_
    refine .next (releasePending? hE hpending) fun ι _ _ => ?_
    refine .next (send hE c (v := .none) trivial) fun ι reply hr => ?_
    refine .bind hr (updateCoroutine c fun _ hr => ⟨hr.pending, { hr with pending := genuine_none }⟩)
      fun ι hr left hl => ?_
    have howned : Genuine ι [Reply.owned reply] := genuine_cons.mpr ⟨Reply.genuine_owned hr, genuine_nil⟩
    exact .bind hr (owning hE howned (releasePending? hE hl)) fun _ hr _ _ => .pure hr

theorem close (c : CoroutineId) : Honest ι (CoroutineEngine.close E c) := by
  refine .next (recordOf c) fun ι r _ => ?_
  split
  · exact .pure trivial
  · refine .next (throwPending hE c (p := .ofClass .generatorExit) genuine_none) fun ι reply hr => ?_
    cases reply with
    | ok v => exact refuse hE _ (Genuine.single (a := v) hr)
    | error e =>
      dsimp only
      split
      · exact .next (releaseException hE hr) fun _ _ _ => .pure trivial
      · exact .pure hr

theorem throw (c : CoroutineId) {kind value : Value} (hk : Genuine ι kind) (hv : Genuine ι value)
    {traceback : Value} (ht : Genuine ι traceback) : Honest ι (CoroutineEngine.throw E c kind value traceback) := by
  refine holding hE hk (holding hE ht ?_)
  refine .next (normalizeThrow hE hk hv traceback) fun ι result hp => ?_
  cases result with
  | error e => exact .pure hp
  | ok p => exact throwPending hE c hp

theorem throwException (c : CoroutineId) {e : Exception} (he : Genuine ι e) :
    Honest ι (CoroutineEngine.throwException E c e) :=
  .next (pendingOf he) fun _ _ hp => throwPending hE c hp

/-! ## Reports -/

theorem runHook {hook : Hook L} (object : String) {e : Exception} (he : Genuine ι e) :
    Honest ι (CoroutineEngine.runHook E hook object e) := by
  refine .bind he (withAmbient fun _ ha => ⟨trivial, ha⟩) fun ι he _ _ => ?_
  refine .bind he (rendered _) fun ι he _ _ => ?_
  refine .bind he (rendered _) fun ι he _ _ => ?_
  refine .bind he (emit _) fun ι he _ _ => ?_
  refine .bind he (retain _) fun ι he _ _ => ?_
  have ha : Genuine ι { Activation.new (L.start hook.program) with
      locals := [(reportedException, Value.exception e)] } := Genuine.single (a := Value.exception e) he
  refine .next (hE.run none genuine_none ha ⟨trivial, genuine_none⟩) fun ι exit hexit => ?_
  rcases exit with ⟨v, a⟩ | result
  · exact releaseAll hE (genuine_cons.mpr hexit)
  · exact releaseReply hE hexit

omit hE in
theorem logIgnored (object : String) (e : Exception) :
    Honest ι (CoroutineEngine.logIgnored object e : Effect L Unit) := by
  refine .next (gets (α := Bool) fun _ _ => trivial) fun ι wanted _ => ?_
  split
  · exact .next (rendered _) fun _ _ _ => log _ _ _
  · exact .pure trivial

theorem writeUnraisable (object : String) {e : Exception} (he : Genuine ι e) :
    Honest ι (CoroutineEngine.writeUnraisable E object e) := by
  refine holding hE (v := .exception e) he ?_
  refine .bind he takeHook fun ι he hook hh => ?_
  cases hook with
  | none => exact logIgnored object e
  | some hook =>
    have hh : Genuine ι hook := genuine_some.mp hh
    refine .bind hh (owning hE hh (runHook hE object he)) fun ι hh _ _ => ?_
    refine .next (reinstallHook hh) fun ι displaced hd => ?_
    cases displaced with
    | none => exact .pure trivial
    | some displaced => exact whileBorrowed (genuine_some.mp hd) fun _ hd => releaseAll hE hd

/-! ## Releases of coroutines -/

theorem closeUnraisable (c : CoroutineId) : Honest ι (CoroutineEngine.closeUnraisable E c) := by
  refine .next (modifyCoroutine c fun _ hr => { hr with }) fun ι _ _ => ?_
  refine .next fetchError fun ι saved hs => ?_
  refine .bind hs (owning hE (genuine_pending hs) ?_) fun ι hs _ _ => ?_
  · refine .next (close hE c) fun ι reply hr => ?_
    cases reply with
    | ok v => exact hE.release hr
    | error e =>
      have he : Genuine ι e := hr
      exact .bind he (gets (α := String) fun _ _ => trivial) fun _ he _ _ => writeUnraisable hE _ he
  · exact .next (swapError hs) fun _ _ hp => releasePending? hE hp

theorem releaseRemains (c : CoroutineId) : Honest ι (CoroutineEngine.releaseRemains E c) := by
  refine .next (updateCoroutine c fun r hr => ⟨hr, { hr with
    fiber := genuine_none, pending := genuine_none, frame := genuine_none, awaiting := genuine_none
    handled := genuine_none, inputs := genuine_nil }⟩) fun ι r hr => ?_
  refine .andFinally hr ?_ fun ι hr => releaseAll hE ?_
  · cases hf : r.fiber with
    | none => exact .pure trivial
    | some fiber => exact releaseFiber hE (hr.fiber fiber hf)
  · have hpending := genuine_pending hr.pending
    have hawaiting := genuine_toList hr.awaiting
    have hhandled := genuine_exceptions hr.handled
    have hparameters : Genuine ι r.inputs.parameters := hr.inputs
    simp [hpending, hawaiting, hhandled, hparameters, genuine_cells]

theorem relinquish (c : CoroutineId) : Honest ι (CoroutineEngine.relinquish E c) := by
  refine .next (updateCoroutine c fun r hr => ⟨hr.inputs, { hr with inputs := genuine_nil }⟩) fun ι _ hp => ?_
  refine .next (releaseAll hE hp) fun ι _ _ => ?_
  refine .next (updateCoroutine c fun r hr => ⟨genuine_cells _, { hr with inputs := hr.inputs }⟩) fun ι _ hc => ?_
  refine .next (releaseAll hE hc) fun ι _ _ => ?_
  refine .next (updateCoroutine c fun r hr => ⟨hr.fiber, { hr with frame := genuine_none, fiber := genuine_none }⟩)
    fun ι fiber hf => ?_
  have released : Honest ι (fiber.elim (Pure.pure ()) (CoroutineEngine.releaseFiber E)) := by
    cases fiber with
    | none => exact .pure trivial
    | some fiber => exact releaseFiber hE (genuine_some.mp hf)
  exact .next released fun _ _ _ => .next (untrackObject _) fun _ _ _ => logCoroutine _ _ _ _

theorem teardown (c : CoroutineId) : Honest ι (CoroutineEngine.teardown E c) := by
  refine .next (modifyCoroutine c fun _ hr => { hr with }) fun ι _ _ => ?_
  refine .andFinally (k := ()) trivial ?_ fun _ _ => releaseRemains hE c
  refine .next fetchError fun ι saved hs => ?_
  refine .bind hs (owning hE (genuine_pending hs) ?_) fun ι hs _ _ => ?_
  · refine .next (recordOf c) fun ι r _ => ?_
    split
    · refine .next (modifyCoroutine c fun _ hr => { hr with }) fun ι _ _ => ?_
      exact .next (closeUnraisable hE c) fun _ _ _ => relinquish hE c
    · exact relinquish hE c
  · exact .next (swapError hs) fun _ _ hp => releasePending? hE hp

theorem finalize (c : CoroutineId) : Honest ι (CoroutineEngine.finalize E c) := by
  refine .next (recordOf c) fun ι r _ => ?_
  split
  · refine .next (logCoroutine _ _ _ _) fun ι _ _ => ?_
    refine .next (modifyCoroutine c fun _ hr => { hr with }) fun ι _ _ => ?_
    refine .next (closeUnraisable hE c) fun ι _ _ => ?_
    refine .next (recordOf c) fun ι r _ => ?_
    split
    · exact logCoroutine _ _ _ _
    · exact .pure trivial
  · exact .pure trivial

theorem dropHandle (c : CoroutineId) : Honest ι (CoroutineEngine.dropHandle E c) := by
  refine .next (updateCoroutine c fun r hr => ⟨trivial, { hr with }⟩) fun ι handles _ => ?_
  split
  · exact .onPanic (k := ()) trivial (teardown hE c) fun _ _ => modifyCoroutine c fun _ hr => { hr with }
  · exact .pure trivial

theorem releaseCoroutine (c : CoroutineId) : Honest ι (CoroutineEngine.releaseCoroutine E c) :=
  .andFinally (k := ()) trivial (finalize hE c) fun _ _ => dropHandle hE c

omit hE in
theorem leaveWrapper (x : WrapperId) :
    Honest ι (CoroutineEngine.leaveWrapper x : Effect L (Nat × CoroutineId)) := by
  refine .next (.modifyGet fun w hw => 
    ⟨ι, .refl ι, { hw with }, Genuine.and (α := Nat) (β := CoroutineId) trivial trivial⟩) fun ι (left, c) _ => ?_
  dsimp only
  split
  · exact .next (untrackObject _) fun _ _ _ => .pure ⟨trivial, trivial⟩
  · exact .pure ⟨trivial, trivial⟩

theorem releaseHandle {v : Value} (hv : Genuine ι v) : Honest ι (CoroutineEngine.releaseHandle E v) := by
  cases v with
  | tuple i items =>
    have hi : Genuine ι items := Value.areGenuine_iff.mp hv.2
    refine .bind hi (.modifyGet fun w hw => ⟨ι, .refl ι, ?_, trivial⟩) fun ι hi left _ => ?_
    · exact { hw with tuples := (Table.size_modify _ _ _).trans hw.tuples }
    · split
      · exact releaseAll hE hi
      · exact .pure trivial
  | exception e =>
    refine .next (.modifyGet fun w hw => ⟨ι, .refl ι, ?_, Genuine.and (α := Nat) trivial (hw.owned e)⟩)
      fun ι (left, owned) ho => ?_
    · exact hw.modifyException e (fun _ => rfl) fun _ h => h
    · dsimp only
      split
      · exact releaseAll hE ho.2
      · exact .pure trivial
  | cell c =>
    refine .next (.modifyGet fun w hw => 
      ⟨ι, .refl ι, ?_, Genuine.and (α := Nat) trivial (hw.contents c.index)⟩) fun ι (left, content) hc => ?_
    · exact hw.modifyCell c fun _ h => h
    · dsimp only
      split
      · exact releaseOption hE hc.2
      · exact .pure trivial
  | wrapper x =>
    refine .next (leaveWrapper x) fun ι (left, c) _ => ?_
    dsimp only
    split
    · exact releaseCoroutine hE c
    · exact .pure trivial
  | coroutine c => exact releaseCoroutine hE c
  | _ => exact .pure trivial

end Honest

end CoroutineEngine
