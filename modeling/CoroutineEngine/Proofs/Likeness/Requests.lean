import CoroutineEngine.Coroutine.Lifecycle
import CoroutineEngine.Proofs.Likeness.Texts

/-!
# Requests and releases side by side

What a request finds of its coroutine looks alike in both worlds, so the request goes the same way in both, if the
engine that runs the body and releases its handles does.

Results:
* `Echoes.send`, `Echoes.throw`, `Echoes.close`: requests echo each other.
* `Echoes.releaseHandle`: releases do.
-/

namespace CoroutineEngine

variable {L : Language} {P : Privacy L} {ρ : Likeness P}

/-! ## What is owned, and what state it is in -/

theorem Like.isSuspended {r r' : CoroutineRecord L} (hr : Like ρ r r') : r'.isSuspended = r.isSuspended := by
  unfold CoroutineRecord.isSuspended
  rw [hr.status, hr.running]

theorem Like.cells {cells cells' : List CellId} (hc : Like ρ cells cells') :
    Like ρ (cells.map Value.cell) (cells'.map Value.cell) :=
  hc.map fun _ _ h => Value.Like.cell h

theorem Like.optionOwned {p p' : Option PendingException} (hp : Like ρ p p') :
    Like ρ ((p.map (·.owned)).getD []) ((p'.map (·.owned)).getD []) := by
  cases hp with
  | none => exact .nil
  | some hp => exact Like.pendingOwned hp

theorem Like.transferOwned {t t' : Transfer} (ht : Like ρ t t') : Like ρ t.owned t'.owned :=
  .cons ht.value ht.exception.optionOwned

theorem Like.waitingOwned {m m' : Waiting} (hm : Like ρ m m') : Like ρ m.owned m'.owned := by
  cases hm with
  | start => exact .nil
  | delivery => exact .nil
  | delegate hd => exact hd.delegate.double hd.operand

theorem Like.activationOwned {a a' : Activation L} (ha : Like ρ a a') : Like ρ a.owned a'.owned :=
  (ha.waiting.waitingOwned.append ha.held).append (ha.locals.map fun _ _ (h : Like ρ (_ : String × Value) _) => h.2)

theorem Like.after {f f' : Fiber L} (hf : Like ρ f f') {o o' : Except FiberError (Exit L)} (ho : Like ρ o o') :
    Like ρ (f.after o) (f'.after o') := by
  cases ho with
  | error => exact hf
  | ok hx =>
    cases hx with
    | suspended _ ha => exact { hf with stack := .suspended ha }
    | completed _ => exact { hf with stack := .completed }

namespace Echoes

variable {α : Type} [Likened P α] {E F : Engine L} (hE : E.IsEchoedBy P F)

include hE

/-! ## Releases -/

theorem releaseAll {vs vs' : List Value} (hvs : Like ρ vs vs') : Echoes ρ (E.releaseAll vs) (F.releaseAll vs') := by
  induction vs generalizing ρ vs' with
  | nil =>
    cases hvs
    exact .pure rfl
  | cons v vs ih =>
    cases hvs with
    | cons hv hvs => exact .andFinally hvs (hE.release hv) fun ρ hvs => ih hvs

theorem releaseOption {v v' : Option Value} (hv : Like ρ v v') :
    Echoes ρ (E.releaseOption v) (F.releaseOption v') := releaseAll hE hv.toList

theorem releaseException {e e' : Exception} (he : Like ρ e e') :
    Echoes ρ (E.releaseException e) (F.releaseException e') := hE.release (.exception he)

theorem releaseException? {e e' : Option Exception} (he : Like ρ e e') :
    Echoes ρ (E.releaseException? e) (F.releaseException? e') := releaseAll hE he.exceptions

theorem releasePending? {p p' : Option PendingException} (hp : Like ρ p p') :
    Echoes ρ (E.releasePending? p) (F.releasePending? p') := releaseAll hE hp.optionOwned

theorem holding {v v' : Value} (hv : Like ρ v v') {x x' : Effect L α} (hx : Echoes ρ x x') :
    Echoes ρ (E.holding v x) (F.holding v' x') := .andFinally hv hx fun _ hv => hE.release hv

omit hE in
theorem owning {vs vs' : List Value} {x x' : Effect L α} (hx : Echoes ρ x x') :
    Echoes ρ (E.owning vs x) (F.owning vs' x') := .onPanic hx

/-! ## The arguments of a throw -/

theorem refuse (error : CoroutineError) {operands operands' : List Value} (ho : Like ρ operands operands') :
    Echoes ρ (CoroutineEngine.refuse E error operands : Effect L (Except Exception α))
      (CoroutineEngine.refuse F error operands') := by
  refine .bind ho (raise error) fun ρ ho e e' he => ?_
  exact .bind he (owning (releaseAll hE ho)) fun _ he _ _ _ => .pure (.error he)

theorem instanceOf (cls : ExceptionClass) {v v' : Value} (hv : Like ρ v v') :
    Echoes ρ (CoroutineEngine.instanceOf E cls v) (CoroutineEngine.instanceOf F cls v') := by
  have single {v v' : Value} (hv : Like ρ v v') : Echoes ρ (CoroutineEngine.makeException cls [v] : Effect L _)
      (CoroutineEngine.makeException cls [v']) := makeException cls hv.single
  have hv' := hv
  cases hv' with
  | none => exact makeException cls .nil
  | tuple _ hitems =>
    have hitems : Like (α := List Value) ρ _ _ := hitems
    refine .bind (hv.and hitems) (retainAll hitems) fun ρ ⟨hv, hitems⟩ _ _ _ => ?_
    refine .bind hv (makeException cls hitems) fun ρ hv e e' he => ?_
    exact .bind he (owning (hE.release hv)) fun _ he _ _ _ => .pure he
  | exception he =>
    unfold CoroutineEngine.instanceOf
    dsimp only
    rw [he.cls]
    split
    · exact .pure he
    · exact single hv
  | _ => exact single hv

theorem normalizeThrow {kind kind' value value' traceback traceback' : Value} (hk : Like ρ kind kind')
    (hv : Like ρ value value') (ht : Like ρ traceback traceback') :
    Echoes ρ (CoroutineEngine.normalizeThrow E kind value traceback)
      (CoroutineEngine.normalizeThrow F kind' value' traceback') := by
  have withTraceback {ρ : Likeness P} {t t' : Option Traceback} (ht : Like ρ t t') {e e' : Exception}
      (he : Like ρ e e') : Echoes ρ (do
        if t.isSome then
          CoroutineEngine.setTraceback e t
        return .ok (← CoroutineEngine.pendingOf e) : Effect L (Except Exception PendingException)) (do
        if t'.isSome then
          CoroutineEngine.setTraceback e' t'
        return .ok (← CoroutineEngine.pendingOf e')) := by
    have given {ρ : Likeness P} (he : Like ρ e e') : Echoes ρ (do
        return .ok (← CoroutineEngine.pendingOf e) : Effect L (Except Exception PendingException)) (do
        return .ok (← CoroutineEngine.pendingOf e')) := .next (pendingOf he) fun _ _ _ hp => .pure (.ok hp)
    rw [ht.isSome]
    split
    · exact .bind he (setTraceback he ht) fun _ he _ _ _ => given he
    · exact given he
  -- the kind decides, once the traceback is found to be one, or nothing
  have normalize {t t' : Option Traceback} (ht : Like ρ t t') {u u' : Value} (hu : tracebackOperand? u = some t)
      (hu' : tracebackOperand? u' = some t') : Echoes ρ (CoroutineEngine.normalizeThrow E kind value u)
        (CoroutineEngine.normalizeThrow F kind' value' u') := by
    unfold CoroutineEngine.normalizeThrow
    rw [hu, hu']
    dsimp only
    cases hk with
    | exceptionClass cls => exact .bind ht (instanceOf hE cls hv) fun _ ht _ _ he => withTraceback ht he
    | exception he =>
      dsimp only
      rw [Value.Like.isNone hv]
      split
      · exact .bind (ht.and he) (retain (.exception he)) fun _ h _ _ _ => withTraceback h.1 h.2
      · exact refuse hE _ hv.single
    | _ => exact refuse hE _ hv.single
  cases ht with
  | none => exact normalize .none rfl rfl
  | traceback ht => exact normalize (Like.some ht) rfl rfl
  | _ => exact refuse hE _ hv.single

omit hE

/-! ## Fibers -/

theorem mapStack (size : Nat) :
    Echoes ρ (CoroutineEngine.mapStack size : Effect L (Option FiberError)) (CoroutineEngine.mapStack size) := by
  unfold CoroutineEngine.mapStack
  split
  · exact panic _
  · exact .pure (Like.some rfl)
  · exact .next (log _ _ _ _ _ _) fun _ _ _ _ => .pure .none

theorem createFiber {c c' : CoroutineId} (hc : Like ρ c c') :
    Echoes ρ (CoroutineEngine.createFiber c : Effect L (Except FiberError (Fiber L)))
      (CoroutineEngine.createFiber c') := by
  refine .bind hc (updateCoroutine hc fun _ _ hr => ⟨hr.supply, { hr with }⟩) ?_
  rintro ρ hc supply _ rfl
  split
  · exact .next (modifyCoroutine hc fun _ _ hr => { hr with supply := rfl }) fun _ _ _ _ => .pure (.error rfl)
  · refine .next (mapStack _) fun ρ error error' he => ?_
    cases he with
    | some he => exact .pure (.error he)
    | none => exact .pure (.ok ⟨rfl, rfl, .fresh⟩)

include hE

theorem releaseFiber {f f' : Fiber L} (hf : Like ρ f f') :
    Echoes ρ (CoroutineEngine.releaseFiber E f) (CoroutineEngine.releaseFiber F f') := by
  obtain ⟨size, lossIn, stack⟩ := f
  obtain ⟨size', lossIn', stack'⟩ := f'
  have hs : Like ρ stack stack' := hf.stack
  cases hs with
  | fresh => exact log _ _ _ _ _ _
  | suspended ha => exact .bind ha (log _ _ _ _ _ _) fun _ ha _ _ _ => releaseAll hE ha.activationOwned
  | completed => exact log _ _ _ _ _ _
  | released => exact .pure rfl

theorem discardFiber {c c' : CoroutineId} (hc : Like ρ c c') {f f' : Fiber L} (hf : Like ρ f f') :
    Echoes ρ (CoroutineEngine.discardFiber E c f) (CoroutineEngine.discardFiber F c' f') :=
  .bind hf (modifyCoroutine hc fun _ _ hr => { hr with }) fun _ hf _ _ _ => releaseFiber hE hf

theorem approachLoss {f f' : Fiber L} (hf : Like ρ f f') :
    Echoes ρ (CoroutineEngine.approachLoss E f) (CoroutineEngine.approachLoss F f') := by
  unfold CoroutineEngine.approachLoss
  rw [hf.lossIn]
  split
  · exact .pure hf
  · exact .bind hf (releaseFiber hE hf) fun _ hf _ _ _ => .pure { hf with lossIn := rfl, stack := .released }
  · exact .pure { hf with lossIn := rfl }

theorem continueBody {k k' : Context} (hk : Like ρ k k') {a a' : Activation L} (ha : Like ρ a a')
    {t t' : Transfer} (ht : Like ρ t t') :
    Echoes ρ (CoroutineEngine.continueBody E k a t) (CoroutineEngine.continueBody F k' a' t') := by
  refine .bind (hk.and (ha.and ht)) (.modify fun _ _ hw =>
    hw.modifyCoroutine hk.coroutine { hw.coroutine hk.coroutine with }) fun ρ ⟨hk, ha, ht⟩ _ _ _ => ?_
  refine .bind hk (hE.run (Like.some hk) nofun ha ht) fun ρ hk exit exit' hx => ?_
  exact .bind hx (.modify fun _ _ hw => hw.modifyCoroutine hk.coroutine { hw.coroutine hk.coroutine with })
    fun _ hx _ _ _ => .pure hx

theorem enterFiber {k k' : Context} (hk : Like ρ k k') {f f' : Fiber L} (hf : Like ρ f f') {t t' : Transfer}
    (ht : Like ρ t t') : Echoes ρ (CoroutineEngine.enterFiber E k f t) (CoroutineEngine.enterFiber F k' f' t') := by
  obtain ⟨size, lossIn, stack⟩ := f
  obtain ⟨size', lossIn', stack'⟩ := f'
  have hs : Like ρ stack stack' := hf.stack
  unfold CoroutineEngine.enterFiber
  cases hs with
  | released => exact .next (releaseAll hE ht.transferOwned) fun _ _ _ _ => .pure (.error rfl)
  | completed => exact .next (releaseAll hE ht.transferOwned) fun _ _ _ _ => .pure (.error rfl)
  | suspended ha => exact .next (continueBody hE hk ha ht) fun _ _ _ hx => .pure (.ok hx)
  | fresh =>
    dsimp only
    rcases ht.exception.absent_or with ⟨h, h'⟩ | ⟨p, p', h, h', hp⟩ <;> rw [h, h'] <;> dsimp only
    · refine .bind (hk.and ht) (gets fun _ _ hw => hw.records (k := .code) hk.code.entry)
        fun ρ ⟨hk, ht⟩ program program' hprogram => ?_
      cases hprogram with
      | none => exact .next (hE.release ht.value) fun _ _ _ _ => .pure (.ok (.completed (.ok Value.Like.none)))
      | some hprogram =>
        obtain ⟨rfl, hsafe⟩ := hprogram
        have ha : Like ρ (Activation.new (L.start _)) (Activation.new (L.start _)) :=
          ⟨rfl, hsafe, .nil, .nil, .start⟩
        refine .bind (hk.and (ht.and ha)) (modifyCoroutine hk.coroutine fun _ _ hr => { hr with })
          fun ρ ⟨hk, ht, ha⟩ _ _ _ => ?_
        exact .next (continueBody hE hk ha ht) fun _ _ _ hx => .pure (.ok hx)
    · refine .bind ht (instantiate hp) fun ρ ht e e' he => ?_
      exact .bind he (owning (hE.release ht.value)) fun _ he _ _ _ =>
        .pure (.ok (.completed (.error he)))

/-! ## Switches -/

omit hE in
theorem enterSwitch {c c' : CoroutineId} (hc : Like ρ c c') {frame frame' : Frame} (hf : Like ρ frame frame') :
    Echoes ρ (CoroutineEngine.enterSwitch c frame : Effect L DriverState)
      (CoroutineEngine.enterSwitch c' frame') := by
  refine .bind (α := Hidden (Option Frame)) (hc.and hf) (swapTop (some frame) (some frame'))
    fun ρ ⟨hc, hf⟩ caller caller' _ => ?_
  refine .bind (α := Hidden (Option Frame)) hc (swapBack hf caller caller') fun ρ hc _ _ _ => ?_
  refine .bind hc (updateCoroutine hc fun _ _ hr => ⟨hr.handled, { hr with handled := .none }⟩)
    fun ρ hc own own' ho => ?_
  refine .bind (hc.and ho) fetchError fun ρ ⟨hc, ho⟩ error error' he => ?_
  refine .bind (hc.and he) (swapHandled ho) fun ρ ⟨hc, he⟩ handled handled' hh => ?_
  refine .bind (hc.and (he.and hh)) (modifyCoroutine hc fun _ _ hr => { hr with running := rfl })
    fun ρ ⟨hc, h⟩ _ _ _ => ?_
  exact .bind h (logCoroutine _ _ _ _ _ _ _ _) fun _ h _ _ _ => .pure ⟨h.1, h.2⟩

theorem finish {c c' : CoroutineId} (hc : Like ρ c c') :
    Echoes ρ (CoroutineEngine.finish E c) (CoroutineEngine.finish F c') := by
  refine .bind hc (updateCoroutine hc fun _ _ hr => ⟨hr.inputs.parameters, { hr with
    status := rfl, frame := .none, inputs := { hr.inputs with parameters := .nil, parametersReleased := rfl } }⟩)
    fun ρ hc parameters parameters' hp => ?_
  refine .bind hc (releaseAll hE hp) fun ρ hc _ _ _ => ?_
  refine .bind hc (updateCoroutine hc fun _ _ hr => ⟨hr.awaiting, { hr with awaiting := .none }⟩)
    fun ρ hc awaiting awaiting' ha => ?_
  refine .bind hc (releaseOption hE ha) fun ρ hc _ _ _ => ?_
  refine .bind hc (updateCoroutine hc fun _ _ hr => ⟨hr.pending, { hr with pending := .none }⟩)
    fun ρ hc pending pending' hp => ?_
  exact .next (releasePending? hE hp) fun _ _ _ _ => logCoroutine _ _ _ _ _ _ _ _

theorem discardStray : Echoes ρ (CoroutineEngine.discardStray E) (CoroutineEngine.discardStray F) := by
  refine .next fetchError fun ρ stray stray' hs => ?_
  cases hs with
  | none => exact .pure rfl
  | some hs => exact .bind hs (log _ _ _ _ _ _) fun _ hs _ _ _ => releasePending? hE hs.some

theorem restoreDriver {c c' : CoroutineId} (hc : Like ρ c c') {frame frame' : Frame} (hf : Like ρ frame frame')
    {d d' : DriverState} (hd : Like ρ d d') :
    Echoes ρ (CoroutineEngine.restoreDriver E c frame d) (CoroutineEngine.restoreDriver F c' frame' d') := by
  refine .bind (hc.and (hf.and hd)) (modifyCoroutine hc fun _ _ hr => { hr with running := rfl })
    fun ρ ⟨hc, hf, hd⟩ _ _ _ => ?_
  refine .bind (hc.and (hf.and hd)) (owning (discardStray hE)) fun ρ ⟨hc, hf, hd⟩ _ _ _ => ?_
  refine .bind (hc.and (hf.and hd)) (swapError hd.error) fun ρ ⟨hc, hf, hd⟩ displaced displaced' hp => ?_
  refine .bind (hc.and (hf.and hd)) (owning (releasePending? hE hp))
    fun ρ ⟨hc, hf, hd⟩ _ _ _ => ?_
  refine .bind (hc.and hf) (swapHandled hd.handled) fun ρ ⟨hc, hf⟩ own own' ho => ?_
  refine .bind (hf.and ho) (updateCoroutine hc fun _ _ hr => ⟨hr.handled, { hr with handled := ho }⟩)
    fun ρ ⟨hf, ho⟩ previous previous' hp => ?_
  refine .bind hf (releaseException? hE hp) fun ρ hf _ _ _ => ?_
  refine .next (α := Hidden (Option Frame)) (swapBack hf none none) fun ρ _ _ _ => ?_
  exact .next (α := Hidden (Option Frame)) (swapTop d.caller d'.caller) fun _ _ _ _ => .pure rfl

theorem leaveSwitch {c c' : CoroutineId} (hc : Like ρ c c') {frame frame' : Frame} (hf : Like ρ frame frame')
    {d d' : DriverState} (hd : Like ρ d d') (panicked : Bool) :
    Echoes ρ (CoroutineEngine.leaveSwitch E c frame d panicked)
      (CoroutineEngine.leaveSwitch F c' frame' d' panicked) := by
  refine .bind hc (restoreDriver hE hc hf hd) fun ρ hc _ _ _ => ?_
  cases panicked with
  | false => exact .pure rfl
  | true => exact .bind hc (logCoroutine _ _ _ _ _ _ _ _) fun _ hc _ _ _ => finish hE hc

theorem switchInto {c c' : CoroutineId} (hc : Like ρ c c') {code code' : Code} (hcode : Like ρ code code')
    {frame frame' : Frame} (hf : Like ρ frame frame') {fiber fiber' : Fiber L} (hfiber : Like ρ fiber fiber')
    {t t' : Transfer} (ht : Like ρ t t') : Echoes ρ (CoroutineEngine.switchInto E c code frame fiber t)
      (CoroutineEngine.switchInto F c' code' frame' fiber' t') := by
  refine .bind (hc.and (hcode.and (hf.and (hfiber.and ht)))) (enterSwitch hc hf)
    fun ρ ⟨hc, hcode, hf, hfiber, ht⟩ driver driver' hd => ?_
  refine .bind (hc.and (hf.and hd)) (.onPanic ?_) fun ρ ⟨hc, hf, hd⟩ (outcome, fiber) (outcome', fiber') ho => ?_
  · refine .bind (hc.and (hcode.and (hf.and ht))) (approachLoss hE hfiber)
      fun ρ ⟨hc, hcode, hf, ht⟩ fiber fiber' hfiber => ?_
    have hk : Like ρ (⟨c, code, frame⟩ : Context) ⟨c', code', frame'⟩ := ⟨hc, hcode, hf⟩
    refine .bind hfiber (enterFiber hE hk hfiber ht) fun ρ hfiber outcome outcome' ho => ?_
    exact .pure ⟨ho, hfiber.after ho⟩
  · exact .bind ho (.onPanic (leaveSwitch hE hc hf hd false)) fun _ ho _ _ _ => .pure ho

/-! ## Requests -/

omit hE in
theorem materialize {c c' : CoroutineId} (hc : Like ρ c c') :
    Echoes ρ (CoroutineEngine.materialize c : Effect L (Option FiberError)) (CoroutineEngine.materialize c') := by
  refine .bind hc (recordOf hc) fun ρ hc r r' hr => ?_
  refine .bind hc (makeFrame hr.code) fun ρ hc frame frame' hf => ?_
  refine .bind (hc.and hf) (createFiber hc) fun ρ ⟨hc, hf⟩ result result' hfiber => ?_
  cases hfiber with
  | error he => exact .bind he (logCoroutine _ _ _ _ _ _ _ _) fun _ he _ _ _ => .pure (.some he)
  | ok hfiber =>
    refine .bind hc (modifyCoroutine hc fun _ _ hr =>
      { hr with fiber := .some hfiber, frame := .some hf, status := rfl }) fun ρ _ _ _ _ => ?_
    exact .next (logCoroutine _ _ _ _ _ _ _ _) fun _ _ _ _ => .pure .none

omit hE in
theorem surface {code code' : Code} (hc : Like ρ code code') {frame frame' : Frame} (hf : Like ρ frame frame')
    {r r' : Reply} (hr : Like ρ r r') : Echoes ρ (CoroutineEngine.surface code frame r : Effect L Reply)
      (CoroutineEngine.surface code' frame' r') := by
  cases hr with
  | ok hv => exact .next (makeStopIteration hv) fun _ _ _ he => .pure (.error he)
  | error he =>
    refine .bind he (pushTraceback he hf) fun ρ he _ _ _ => ?_
    rw [he.cls, hc.generatorStop]
    split
    · refine .bind he (raise _) fun ρ he wrapped wrapped' hw => ?_
      refine .bind (he.and hw) (retain (.exception he)) fun ρ ⟨he, hw⟩ _ _ _ => ?_
      refine .bind (he.and hw) (attachCause hw he) fun ρ ⟨he, hw⟩ _ _ _ => ?_
      exact .bind hw (attachContext hw he) fun _ hw _ _ _ => .pure (.error hw)
    · exact .pure (.error he)

theorem resume {c c' : CoroutineId} (hc : Like ρ c c') {t t' : Transfer} (ht : Like ρ t t') :
    Echoes ρ (CoroutineEngine.resume E c t) (CoroutineEngine.resume F c' t') := by
  have lost {ρ : Likeness P} (hc : Like ρ c c') (ht : Like ρ t t') : Echoes ρ (do
      CoroutineEngine.modifyCoroutine c CoroutineRecord.noteLoss
      CoroutineEngine.refuse E .contextLost t.owned : Effect L Reply) (do
      CoroutineEngine.modifyCoroutine c' CoroutineRecord.noteLoss
      CoroutineEngine.refuse F .contextLost t'.owned) :=
    .bind ht (modifyCoroutine hc fun _ _ hr => { hr with }) fun _ ht _ _ _ => refuse hE _ ht.transferOwned
  refine .bind (hc.and ht) (recordOf hc) fun ρ ⟨hc, ht⟩ r r' hr => ?_
  rcases hr.frame.absent_or with ⟨h, h'⟩ | ⟨frame, frame', h, h', hf⟩ <;> rw [h, h']
  · exact lost hc ht
  rcases hr.fiber.absent_or with ⟨h, h'⟩ | ⟨fiber, fiber', h, h', hfiber⟩ <;> rw [h, h']
  · exact lost hc ht
  dsimp only
  refine .bind (hc.and (hr.code.and (hf.and (hfiber.and ht))))
    (modifyCoroutine hc fun _ _ hr => { hr with fiber := .none }) fun ρ ⟨hc, hcode, hf, hfiber, ht⟩ _ _ _ => ?_
  refine .bind (hc.and (hcode.and hf)) (switchInto hE hc hcode hf hfiber ht)
    fun ρ ⟨hc, hcode, hf⟩ (outcome, fiber) (outcome', fiber') ho => ?_
  refine .bind (hc.and (hcode.and (hf.and ho.1)))
    (modifyCoroutine hc fun _ _ hr => { hr with fiber := .some ho.2 }) fun ρ ⟨hc, hcode, hf, ho⟩ _ _ _ => ?_
  cases ho with
  | error he =>
    refine .bind hc (logCoroutine _ _ _ _ _ _ _ _) fun ρ hc _ _ _ => ?_
    refine .bind hc (modifyCoroutine hc fun _ _ hr => { hr with }) fun ρ hc _ _ _ => ?_
    exact .next (finish hE hc) fun _ _ _ _ => .next (raise _) fun _ _ _ he => .pure (.error he)
  | ok hx =>
    cases hx with
    | suspended hv _ => exact .pure (.ok hv)
    | completed hr =>
      exact .bind (hcode.and (hf.and hr)) (owning (finish hE hc)) fun _ h _ _ _ =>
        surface h.1 h.2.1 h.2.2

theorem resumeWith {c c' : CoroutineId} (hc : Like ρ c c') {v v' : Value} (hv : Like ρ v v') :
    Echoes ρ (CoroutineEngine.resumeWith E c v) (CoroutineEngine.resumeWith F c' v') := by
  refine .bind (hc.and hv) (updateCoroutine hc fun _ _ hr => ⟨hr.pending, { hr with pending := .none }⟩)
    fun ρ ⟨hc, hv⟩ pending pending' hp => ?_
  cases hp with
  | none => exact resume hE hc ⟨hv, .none⟩
  | some hp =>
    refine .bind (hc.and hp) (owning (hE.release hv)) fun ρ ⟨hc, hp⟩ _ _ _ => ?_
    exact resume hE hc ⟨Value.Like.none, .some hp⟩

theorem send {c c' : CoroutineId} (hc : Like ρ c c') {v v' : Value} (hv : Like ρ v v') :
    Echoes ρ (CoroutineEngine.send E c v) (CoroutineEngine.send F c' v') := by
  have refused {ρ : Likeness P} (hv : Like ρ v v') (error : CoroutineError) :
      Echoes ρ (CoroutineEngine.refuse E error [v] : Effect L Reply) (CoroutineEngine.refuse F error [v']) :=
    refuse hE error hv.single
  refine .bind (hc.and hv) (recordOf hc) fun ρ ⟨hc, hv⟩ r r' hr => ?_
  rw [hr.status, hr.running, Value.Like.isNone hv]
  split
  · exact refused hv _
  split
  · refine .bind hv (makeStopIteration Value.Like.none) fun ρ hv e e' he => ?_
    exact .bind he (owning (hE.release hv)) fun _ he _ _ _ => .pure (.error he)
  split
  · exact refused hv _
  · refine .bind (hc.and hv) (modifyCoroutine hc fun _ _ hr => { hr with }) fun ρ ⟨hc, hv⟩ _ _ _ => ?_
    split
    · refine .bind (hc.and hv) (materialize hc) fun ρ ⟨hc, hv⟩ error error' he => ?_
      cases he with
      | some he =>
        obtain rfl := he
        exact refused hv _
      | none => exact resumeWith hE hc hv
    · exact resumeWith hE hc hv

theorem throwPending {c c' : CoroutineId} (hc : Like ρ c c') {p p' : PendingException} (hp : Like ρ p p') :
    Echoes ρ (CoroutineEngine.throwPending E c p) (CoroutineEngine.throwPending F c' p') := by
  refine .bind (hc.and hp) (recordOf hc) fun ρ ⟨hc, hp⟩ r r' hr => ?_
  rw [hr.status, hr.running]
  split
  · exact refuse hE _ (Like.pendingOwned hp)
  split
  · exact .next (instantiate hp) fun _ _ _ he => .pure (.error he)
  · refine .bind hc (updateCoroutine hc fun _ _ hr => ⟨hr.pending, { hr with pending := .some hp }⟩)
      fun ρ hc pending pending' hpending => ?_
    refine .bind hc (releasePending? hE hpending) fun ρ hc _ _ _ => ?_
    refine .bind hc (send hE hc Value.Like.none) fun ρ hc reply reply' hr => ?_
    refine .bind hr (updateCoroutine hc fun _ _ hr => ⟨hr.pending, { hr with pending := .none }⟩)
      fun ρ hr left left' hl => ?_
    exact .bind hr (owning (releasePending? hE hl)) fun _ hr _ _ _ => .pure hr

theorem close {c c' : CoroutineId} (hc : Like ρ c c') :
    Echoes ρ (CoroutineEngine.close E c) (CoroutineEngine.close F c') := by
  refine .bind hc (recordOf hc) fun ρ hc r r' hr => ?_
  rw [hr.status]
  split
  · exact .pure (.ok Value.Like.none)
  · have hp : Like ρ (PendingException.ofClass .generatorExit) (.ofClass .generatorExit) := ⟨rfl, .none, .none⟩
    refine .next (throwPending hE hc hp) fun ρ reply reply' hr => ?_
    cases hr with
    | ok hv => exact refuse hE _ hv.single
    | error he =>
      dsimp only
      rw [he.cls]
      split
      · exact .next (releaseException hE he) fun _ _ _ _ => .pure (.ok Value.Like.none)
      · exact .pure (.error he)

theorem throw {c c' : CoroutineId} (hc : Like ρ c c') {kind kind' value value' traceback traceback' : Value}
    (hk : Like ρ kind kind') (hv : Like ρ value value') (ht : Like ρ traceback traceback') :
    Echoes ρ (CoroutineEngine.throw E c kind value traceback)
      (CoroutineEngine.throw F c' kind' value' traceback') := by
  refine holding hE hk (holding hE ht ?_)
  refine .bind hc (normalizeThrow hE hk hv ht) fun ρ hc result result' hp => ?_
  cases hp with
  | error he => exact .pure (.error he)
  | ok hp => exact throwPending hE hc hp

theorem throwException {c c' : CoroutineId} (hc : Like ρ c c') {e e' : Exception} (he : Like ρ e e') :
    Echoes ρ (CoroutineEngine.throwException E c e) (CoroutineEngine.throwException F c' e') :=
  .bind hc (pendingOf he) fun _ hc _ _ hp => throwPending hE hc hp

/-! ## Reports -/

omit hE in
theorem logIgnored (object : String) {e e' : Exception} (he : Like ρ e e') :
    Echoes ρ (CoroutineEngine.logIgnored object e : Effect L Unit) (CoroutineEngine.logIgnored object e') := by
  refine .bind he (gets (α := Bool) fun w w' hw => ?_) ?_
  · show w'.logs .warn = w.logs .warn
    unfold World.logs
    rw [hw.logLevel]
  · rintro ρ he wanted _ rfl
    split
    · exact .next (rendered fun w w' hw s hs => hw.exceptionText he hs) fun _ _ _ _ => log _ _ _ _ _ _
    · exact .pure rfl

theorem releaseReply {r r' : Reply} (hr : Like ρ r r') : Echoes ρ (E.releaseReply r) (F.releaseReply r') := by
  cases hr with
  | ok hv => exact hE.release hv
  | error he => exact releaseException hE he

theorem runHook {hook hook' : Hook L} (hh : Like ρ hook hook') (object : String) {e e' : Exception}
    (he : Like ρ e e') : Echoes ρ (CoroutineEngine.runHook E hook object e) (CoroutineEngine.runHook F hook' object e') := by
  refine .bind (hh.and he) errorOccurred fun ρ ⟨hh, he⟩ _ _ _ => ?_
  refine .bind (hh.and he) (rendered fun w w' hw s hs => hw.exceptionText he hs) fun ρ ⟨hh, he⟩ _ _ _ => ?_
  refine .bind (hh.and he) (rendered fun w w' hw s hs => hw.reportDebug object he hs) fun ρ ⟨hh, he⟩ _ _ _ => ?_
  refine .bind (hh.and he) (emit _ _) fun ρ ⟨hh, he⟩ _ _ _ => ?_
  refine .bind (hh.and he) (retain (.exception he)) fun ρ ⟨hh, he⟩ _ _ _ => ?_
  obtain ⟨hprogram, hsafe⟩ := hh.program
  have ha : Like ρ ({ Activation.new (L.start hook.program) with locals := [(reportedException, .exception e)] } : Activation L)
      { Activation.new (L.start hook'.program) with locals := [(reportedException, .exception e')] } :=
    { state := congrArg L.start hprogram
      safe := hsafe
      locals := Like.single (α := String × Value) ⟨rfl, .exception he⟩
      held := .nil
      waiting := .start }
  refine .next (hE.run .none (fun _ => hh.reach) ha ⟨Value.Like.none, .none⟩) fun ρ exit exit' hx => ?_
  cases hx with
  | suspended hv ha => exact releaseAll hE (hv.cons ha.activationOwned)
  | completed hr => exact releaseReply hE hr

theorem writeUnraisable (object : String) {e e' : Exception} (he : Like ρ e e') :
    Echoes ρ (CoroutineEngine.writeUnraisable E object e) (CoroutineEngine.writeUnraisable F object e') := by
  refine holding hE (.exception he) ?_
  refine .bind he takeHook fun ρ he hook hook' hh => ?_
  cases hh with
  | none => exact logIgnored object he
  | some hh =>
    refine .bind hh (owning (runHook hE hh object he)) fun ρ hh _ _ _ => ?_
    refine .next (reinstallHook hh) fun ρ displaced displaced' hd => ?_
    cases hd with
    | none => exact .pure rfl
    | some hd => exact whileBorrowed hd.reach hd fun _ hd => releaseAll hE hd.owned

/-! ## Releases of coroutines -/

theorem closeUnraisable {c c' : CoroutineId} (hc : Like ρ c c') :
    Echoes ρ (CoroutineEngine.closeUnraisable E c) (CoroutineEngine.closeUnraisable F c') := by
  refine .bind hc (modifyCoroutine hc fun _ _ hr => { hr with finalized := rfl }) fun ρ hc _ _ _ => ?_
  refine .bind hc fetchError fun ρ hc saved saved' hs => ?_
  refine .bind hs (owning ?_) fun ρ hs _ _ _ => ?_
  · refine .bind hc (close hE hc) fun ρ hc reply reply' hr => ?_
    cases hr with
    | ok hv => exact hE.release hv
    | error he =>
      refine .bind (α := String) he (gets fun _ _ hw => hw.coroutineRepr hc) ?_
      rintro ρ he _ _ rfl
      exact writeUnraisable hE _ he
  · exact .next (swapError hs) fun _ _ _ hp => releasePending? hE hp

theorem releaseRemains {c c' : CoroutineId} (hc : Like ρ c c') :
    Echoes ρ (CoroutineEngine.releaseRemains E c) (CoroutineEngine.releaseRemains F c') := by
  refine .next (updateCoroutine hc fun _ _ hr => ⟨hr, { hr with
    fiber := .none, pending := .none, frame := .none, awaiting := .none, handled := .none
    inputs := ⟨.nil, .nil, rfl⟩ }⟩) fun ρ r r' hr => ?_
  refine .andFinally hr ?_ fun ρ hr => releaseAll hE ?_
  · rcases hr.fiber.absent_or with ⟨h, h'⟩ | ⟨_, _, h, h', hf⟩ <;> rw [h, h']
    · exact .pure rfl
    · exact releaseFiber hE hf
  · exact (((hr.pending.optionOwned.append hr.awaiting.toList).append hr.handled.exceptions).append
      hr.inputs.parameters).append hr.inputs.closure.cells

theorem relinquish {c c' : CoroutineId} (hc : Like ρ c c') :
    Echoes ρ (CoroutineEngine.relinquish E c) (CoroutineEngine.relinquish F c') := by
  refine .bind hc (updateCoroutine hc fun _ _ hr => ⟨hr.inputs.parameters, { hr with
    inputs := { hr.inputs with parameters := .nil, parametersReleased := rfl } }⟩) fun ρ hc _ _ hp => ?_
  refine .bind hc (releaseAll hE hp) fun ρ hc _ _ _ => ?_
  refine .bind hc (updateCoroutine hc fun _ _ hr => ⟨hr.inputs.closure.cells, { hr with
    inputs := { hr.inputs with closure := .nil } }⟩) fun ρ hc _ _ hcells => ?_
  refine .bind hc (releaseAll hE hcells) fun ρ hc _ _ _ => ?_
  refine .bind hc (updateCoroutine hc fun _ _ hr => ⟨hr.fiber, { hr with frame := .none, fiber := .none }⟩)
    fun ρ hc fiber fiber' hf => ?_
  have released : Echoes ρ (fiber.elim (Pure.pure ()) (CoroutineEngine.releaseFiber E))
      (fiber'.elim (Pure.pure ()) (CoroutineEngine.releaseFiber F)) := by
    cases hf with
    | none => exact .pure rfl
    | some hf => exact releaseFiber hE hf
  refine .next released fun _ _ _ _ => ?_
  exact .next (α := Hidden Bool) (untrackObject _ _) fun _ _ _ _ => logCoroutine _ _ _ _ _ _ _ _

theorem teardown {c c' : CoroutineId} (hc : Like ρ c c') :
    Echoes ρ (CoroutineEngine.teardown E c) (CoroutineEngine.teardown F c') := by
  refine .bind hc (modifyCoroutine hc fun _ _ hr => { hr with }) fun ρ hc _ _ _ => ?_
  refine .andFinally hc ?_ fun ρ hc => releaseRemains hE hc
  refine .bind hc fetchError fun ρ hc saved saved' hs => ?_
  refine .bind hs (owning ?_) fun ρ hs _ _ _ => ?_
  · refine .bind hc (recordOf hc) fun ρ hc r r' hr => ?_
    rw [Like.isSuspended hr]
    split
    · refine .bind hc (modifyCoroutine hc fun _ _ hr => { hr with }) fun ρ hc _ _ _ => ?_
      exact .bind hc (closeUnraisable hE hc) fun _ hc _ _ _ => relinquish hE hc
    · exact relinquish hE hc
  · exact .next (swapError hs) fun _ _ _ hp => releasePending? hE hp

theorem finalize {c c' : CoroutineId} (hc : Like ρ c c') :
    Echoes ρ (CoroutineEngine.finalize E c) (CoroutineEngine.finalize F c') := by
  refine .bind hc (recordOf hc) fun ρ hc r r' hr => ?_
  rw [hr.handles, hr.finalized, Like.isSuspended hr]
  split
  · refine .bind hc (logCoroutine _ _ _ _ _ _ _ _) fun ρ hc _ _ _ => ?_
    refine .bind hc (modifyCoroutine hc fun _ _ hr => { hr with }) fun ρ hc _ _ _ => ?_
    refine .bind hc (closeUnraisable hE hc) fun ρ hc _ _ _ => ?_
    refine .next (recordOf hc) fun ρ r r' hr => ?_
    rw [hr.handles]
    split
    · exact logCoroutine _ _ _ _ _ _ _ _
    · exact .pure rfl
  · exact .pure rfl

theorem dropHandle {c c' : CoroutineId} (hc : Like ρ c c') :
    Echoes ρ (CoroutineEngine.dropHandle E c) (CoroutineEngine.dropHandle F c') := by
  refine .bind hc (updateCoroutine hc fun _ _ hr => ⟨hr.handles, { hr with
    handles := congrArg (· - 1) hr.handles }⟩) ?_
  rintro ρ hc handles _ rfl
  split
  · exact .onPanic (teardown hE hc)
  · exact .pure rfl

theorem releaseCoroutine {c c' : CoroutineId} (hc : Like ρ c c') :
    Echoes ρ (CoroutineEngine.releaseCoroutine E c) (CoroutineEngine.releaseCoroutine F c') :=
  .andFinally hc (finalize hE hc) fun _ hc => dropHandle hE hc

omit hE in
theorem leaveWrapper {x x' : WrapperId} (hx : Like ρ x x') :
    Echoes ρ (CoroutineEngine.leaveWrapper x : Effect L (Nat × CoroutineId)) (CoroutineEngine.leaveWrapper x') := by
  refine .next (.modifyGet fun w w' hw => ?_) ?_
  · have hr := hw.wrapper hx
    have hleft := congrArg (· - 1) hr.handles
    exact ⟨ρ, .refl ρ, hw.change (k := .wrapper) (by decide) hx { hr with handles := hleft }, hleft, hr.coroutine⟩
  · rintro ρ ⟨left, c⟩ ⟨_, c'⟩ ⟨rfl, hc⟩
    dsimp only
    split
    · exact .bind (α := Hidden Bool) hc (untrackObject _ _) fun _ hc _ _ _ => .pure ⟨rfl, hc⟩
    · exact .pure ⟨rfl, hc⟩

theorem releaseHandle {v v' : Value} (hv : Like ρ v v') :
    Echoes ρ (CoroutineEngine.releaseHandle E v) (CoroutineEngine.releaseHandle F v') := by
  cases hv with
  | tuple hi hitems =>
    have hitems : Like (α := List Value) ρ _ _ := hitems
    refine .bind (α := Nat) hitems (.modifyGet fun w w' hw => ?_) ?_
    · have hleft : w'.tuples.get _ - 1 = w.tuples.get _ - 1 := congrArg (· - 1) (hw.records hi)
      exact ⟨ρ, .refl ρ, hw.change (k := .tuple) (by decide) hi hleft, hleft⟩
    · rintro ρ hitems left _ rfl
      split
      · exact releaseAll hE hitems
      · exact .pure rfl
  | exception he =>
    refine .next (.modifyGet fun w w' hw => ?_) ?_
    · have hr := hw.exception he
      have hleft := congrArg (· - 1) hr.handles
      exact ⟨ρ, .refl ρ, hw.modifyException he { hr with handles := hleft }, hleft,
        (hr.args.append hr.cause.exceptions).append hr.context.exceptions⟩
    · rintro ρ ⟨left, owned⟩ ⟨_, owned'⟩ ⟨rfl, ho⟩
      dsimp only
      split
      · exact releaseAll hE ho
      · exact .pure rfl
  | cell hc =>
    refine .next (.modifyGet fun w w' hw => ?_) ?_
    · have hr := hw.cell hc
      have hleft := congrArg (· - 1) hr.handles
      exact ⟨ρ, .refl ρ, hw.change (k := .cell) (by decide) hc { hr with handles := hleft }, hleft, hr.content⟩
    · rintro ρ ⟨left, content⟩ ⟨_, content'⟩ ⟨rfl, hcontent⟩
      dsimp only
      split
      · exact releaseOption hE hcontent
      · exact .pure rfl
  | wrapper hx =>
    refine .next (leaveWrapper hx) ?_
    rintro ρ ⟨left, c⟩ ⟨_, c'⟩ ⟨rfl, hc⟩
    dsimp only
    split
    · exact releaseCoroutine hE hc
    · exact .pure rfl
  | coroutine hc => exact releaseCoroutine hE hc
  | _ => exact .pure rfl

end Echoes

end CoroutineEngine
