import CoroutineEngine.Proofs.Isolation
import CoroutineEngine.Proofs.Likeness.Operations

/-!
# Private bodies side by side

Bodies in the same control state issue the same command, and find alike what they own. By induction on the depth of
nesting, whatever the engine does for what keeps to itself is done alike in the other world, also where the engine
serves a driver there, whose side it leaves alone.

Results:
* `Echoes.execute`, `Echoes.proceed`: commands and runs of a body.
* `Engine.ofDepth_isEchoedBy_serving`: the engine, beside one that serves a driver.
-/

namespace CoroutineEngine

variable {L : Language} {P : Privacy L} {ρ : Likeness P}

/-! ## Activations -/

theorem Answer.Like.mono {ρ κ : Likeness P} (h : ρ.Extends κ) {a a' : Answer} (ha : a.Like ρ.toPairing a') :
    a.Like κ.toPairing a' := by
  cases ha with
  | start => exact .start
  | value hv => exact .value (hv.mono h.pairs)
  | done => exact .done
  | truth b => exact .truth b
  | raised he => exact .raised (he.mono h.pairs)

instance : Likened P Answer := ⟨fun ρ => Answer.Like ρ.toPairing, fun h ha => Answer.Like.mono h ha⟩

/-- Progress to activations and answers that are like each other, or to such ends. -/
inductive Progress.Like (ρ : Likeness P) : Progress L → Progress L → Prop
  | next {a a' : Activation L} {x x' : Answer} (ha : CoroutineEngine.Like ρ a a')
      (hx : CoroutineEngine.Like ρ x x') : Like ρ (.next a x) (.next a' x')
  | ended {exit exit' : Exit L} (h : CoroutineEngine.Like ρ exit exit') : Like ρ (.ended exit) (.ended exit')

instance : Likened P (Progress L) where
  like := Progress.Like
  mono h hp := by
    cases hp with
    | next ha hx => exact .next (ha.mono h) (hx.mono h)
    | ended hexit => exact .ended (hexit.mono h)

theorem Like.eraseIdx {α : Type} [Likened P α] {as as' : List α} (has : Like ρ as as') (n : Nat) :
    Like ρ (as.eraseIdx n) (as'.eraseIdx n) := by
  induction has generalizing n with
  | nil => exact .nil
  | cons ha has ih =>
    cases n with
    | zero => exact has
    | succ n => exact .cons ha (ih n)

theorem Like.assign {locals locals' : List (String × Value)} (hl : Like ρ locals locals') (name : String)
    {v v' : Value} (hv : Like ρ v v') : Like ρ (Activation.assign locals name v) (Activation.assign locals' name v') := by
  induction hl with
  | nil => exact ⟨Like.single ⟨rfl, hv⟩, .none⟩
  | @cons p p' _ _ hp hrest ih =>
    obtain ⟨n, u⟩ := p
    obtain ⟨_, u'⟩ := p'
    obtain ⟨rfl, hu⟩ := hp
    unfold Activation.assign
    split
    · exact ⟨Like.cons (α := String × Value) ⟨rfl, hv⟩ hrest, .some hu⟩
    · exact ⟨Like.cons (α := String × Value) ⟨rfl, hu⟩ ih.1, ih.2⟩

section

variable {a a' : Activation L} (ha : Like ρ a a')

include ha

theorem Like.takeHeld (depth : Nat) : Like ρ (takeHeld a depth) (CoroutineEngine.takeHeld a' depth) :=
  ⟨{ ha with held := ha.held.eraseIdx depth }, ha.held.getElem? depth⟩

theorem Like.heldException? : Like ρ (heldException? a) (CoroutineEngine.heldException? a') := by
  unfold CoroutineEngine.heldException?
  have hheld := ha.held
  generalize a.held = held, a'.held = held' at hheld ⊢
  cases hheld with
  | nil => exact .none
  | cons hv _ => exact hv.asException?

/-- The topmost held value, or nothing. -/
theorem Like.top : Like ρ (a.held.headD .none) (a'.held.headD .none) :=
  Like.headD (α := Value) Value.Like.none ha.held

/-- The body holds one more value. -/
theorem Like.hold {v v' : Value} (hv : Like ρ v v') :
    Like ρ { a with held := v :: a.held } { a' with held := v' :: a'.held } :=
  { ha with held := hv.cons ha.held }

/-- The body waits for nothing. -/
theorem Like.awake : Like ρ { a with waiting := .start } { a' with waiting := .start } :=
  { ha with waiting := .start }

end

namespace Echoes

variable {E F : Engine L} (hE : E.IsEchoedBy P F)

include hE

/-! ## Steps -/

theorem deliverTo {a a' : Activation L} (ha : Like ρ a a') (target : Option String) {v v' : Value}
    (hv : Like ρ v v') : Echoes ρ (CoroutineEngine.deliverTo E a target v) (CoroutineEngine.deliverTo F a' target v') := by
  cases target with
  | none => exact .bind ha (owning (hE.release hv)) fun _ ha _ _ _ => .pure ha
  | some name =>
    obtain ⟨hlocals, hprevious⟩ := ha.locals.assign name hv
    have ha' : Like ρ { a with locals := (Activation.assign a.locals name v).1 }
        { a' with locals := (Activation.assign a'.locals name v').1 } := { ha with locals := hlocals }
    exact .bind ha' (owning (releaseOption hE hprevious)) fun _ ha' _ _ _ => .pure ha'

theorem proceedWith {a a' : Activation L} (ha : Like ρ a a') (target : Option String) {v v' : Value}
    (hv : Like ρ v v') :
    Echoes ρ (CoroutineEngine.proceedWith E a target v) (CoroutineEngine.proceedWith F a' target v') :=
  .bind hv (deliverTo hE ha target hv) fun _ hv _ _ ha => .pure (.next ha (.value hv))

omit hE in
theorem proceedRaising {a a' : Activation L} (ha : Like ρ a a') {e e' : Exception} (he : Like ρ e e') :
    Echoes ρ (CoroutineEngine.proceedRaising a e) (CoroutineEngine.proceedRaising a' e') :=
  .pure (.next (ha.hold (.exception he)) (.raised he))

theorem proceedReply {a a' : Activation L} (ha : Like ρ a a') (target : Option String) {r r' : Reply}
    (hr : Like ρ r r') :
    Echoes ρ (CoroutineEngine.proceedReply E a target r) (CoroutineEngine.proceedReply F a' target r') := by
  cases hr with
  | ok hv => exact proceedWith hE ha target hv
  | error he => exact proceedRaising ha he

theorem endBody {a a' : Activation L} (ha : Like ρ a a') {r r' : Reply} (hr : Like ρ r r') :
    Echoes ρ (CoroutineEngine.endBody E a r) (CoroutineEngine.endBody F a' r') :=
  .bind hr (owning (releaseAll hE ha.activationOwned)) fun _ hr _ _ _ =>
    .pure (.ended (.completed hr))

/-! ## Delegations -/

theorem endDelegation {context context' : Option Context} (hk : Like ρ context context') {a a' : Activation L}
    (ha : Like ρ a a') {d d' : Delegation} (hd : Like ρ d d') {r r' : Reply} (hr : Like ρ r r') :
    Echoes ρ (CoroutineEngine.endDelegation E context a d r)
      (CoroutineEngine.endDelegation F context' a' d' r') := by
  have ha' := ha.awake
  refine .bind (ha'.and (hd.and hr)) (owning ?_) fun ρ ⟨ha, hd, hr⟩ _ _ _ => ?_
  · cases hk with
    | none => exact .pure rfl
    | some hk =>
      refine .bind (α := Bool) hk (gets fun w w' hw => hw.isAlive hk.coroutine) ?_
      rintro ρ hk alive _ rfl
      split
      · refine .next (updateCoroutine hk.coroutine fun _ _ hr => ⟨hr.awaiting, { hr with awaiting := .none }⟩)
          fun ρ _ _ h => releaseOption hE h
      · exact .pure rfl
  · refine .bind (ha.and (hd.and hr)) (owning (hE.release hd.delegate)) fun ρ ⟨ha, hd, hr⟩ _ _ _ => ?_
    refine .bind (ha.and (hd.and hr)) (owning (hE.release hd.operand))
      fun ρ ⟨ha, hd, hr⟩ _ _ _ => ?_
    rw [hd.target]
    exact proceedReply hE ha d.target hr

theorem afterDelegate {context context' : Option Context} (hk : Like ρ context context') {a a' : Activation L}
    (ha : Like ρ a a') {d d' : Delegation} (hd : Like ρ d d') {r r' : Reply} (hr : Like ρ r r') :
    Echoes ρ (CoroutineEngine.afterDelegate E context a d r)
      (CoroutineEngine.afterDelegate F context' a' d' r') := by
  cases hr with
  | ok hv => exact .pure (.ended (.suspended hv { ha with waiting := .delegate hd }))
  | error he =>
    unfold CoroutineEngine.afterDelegate
    dsimp only
    rw [he.cls]
    split
    · refine .bind (hk.and (ha.and (hd.and he))) (stopValue he) fun ρ ⟨hk, ha, hd, he⟩ v v' hv => ?_
      refine .bind (hk.and (ha.and (hd.and hv))) (owning (releaseException hE he))
        fun ρ ⟨hk, ha, hd, hv⟩ _ _ _ => ?_
      exact endDelegation hE hk ha hd (.ok hv)
    · exact endDelegation hE hk ha hd (.error he)

theorem startDelegation {context context' : Option Context} (hk : Like ρ context context') {a a' : Activation L}
    (ha : Like ρ a a') {operand operand' : Value} (ho : Like ρ operand operand') (target : Option String) :
    Echoes ρ (CoroutineEngine.startDelegation E context a operand target)
      (CoroutineEngine.startDelegation F context' a' operand' target) := by
  refine .bind (hk.and (ha.and ho)) (gets fun w w' hw => hw.driven? ho) fun ρ ⟨hk, ha, ho⟩ delegate delegate' hd => ?_
  cases hd with
  | none =>
    rw [Value.Like.typeName ho]
    refine .bind (ha.and ho) (raise _) fun ρ ⟨ha, ho⟩ e e' he => ?_
    refine .bind (ha.and he) (owning (hE.release ho))
      fun ρ ⟨ha, he⟩ _ _ _ => proceedRaising ha he
  | some hc =>
    refine .bind (hk.and (ha.and (ho.and hc))) (retain ho) fun ρ ⟨hk, ha, ho, hc⟩ _ _ _ => ?_
    have hd : Like ρ (⟨operand, operand, target⟩ : Delegation) ⟨operand', operand', target⟩ := ⟨ho, ho, rfl⟩
    refine .bind (hk.and (ha.awake.and hd)) (owning ?_)
      fun ρ ⟨hk, ha, hd⟩ reply reply' hr => afterDelegate hE hk ha hd hr
    rcases hk.absent_or with ⟨rfl, rfl⟩ | ⟨k, k', rfl, rfl, hkk⟩
    · exact send hE hc Value.Like.none
    · refine .bind (α := Bool) (hkk.and (ho.and hc)) (gets fun w w' hw => hw.isAlive hkk.coroutine) ?_
      rintro ρ ⟨hk, ho, hc⟩ alive _ rfl
      split
      · refine .bind (hk.and (ho.and hc)) (retain ho) fun ρ ⟨hk, ho, hc⟩ _ _ _ => ?_
        refine .bind hc (updateCoroutine hk.coroutine fun _ _ hr =>
          ⟨hr.awaiting, { hr with awaiting := .some ho }⟩) fun ρ hc awaiting awaiting' h => ?_
        exact .bind hc (releaseOption hE h) fun ρ hc _ _ _ => send hE hc Value.Like.none
      · exact send hE hc Value.Like.none

theorem passOn {context context' : Option Context} (hk : Like ρ context context') {a a' : Activation L}
    (ha : Like ρ a a') {d d' : Delegation} (hd : Like ρ d d') {t t' : Transfer} (ht : Like ρ t t') :
    Echoes ρ (CoroutineEngine.passOn E context a d t)
      (CoroutineEngine.passOn F context' a' d' t') := by
  refine .bind (hk.and (ha.and (hd.and ht))) (gets fun w w' hw => hw.driven? hd.delegate)
    fun ρ ⟨hk, ha, hd, ht⟩ delegate delegate' hc => ?_
  cases hc with
  | none =>
    refine .bind (hk.and (ha.and hd)) (releaseAll hE ht.transferOwned) fun ρ ⟨hk, ha, hd⟩ _ _ _ => ?_
    exact endDelegation hE hk ha hd (.ok Value.Like.none)
  | some hc =>
    refine .bind (hk.and (ha.and (hd.and hc))) (owning (deliver hE ht))
      fun ρ ⟨hk, ha, hd, hc⟩ reply reply' hr => ?_
    cases hr with
    | ok hv =>
      refine .bind (hk.and (ha.and hd)) (owning (send hE hc hv))
        fun ρ ⟨hk, ha, hd⟩ reply reply' hr => afterDelegate hE hk ha hd hr
    | error he =>
      dsimp only
      rw [he.cls]
      split
      · refine .bind (hk.and (ha.and (hd.and he))) (owning (close hE hc))
          fun ρ ⟨hk, ha, hd, he⟩ reply reply' hr => ?_
        cases hr with
        | ok hv =>
          refine .bind (hk.and (ha.and (hd.and he))) (owning (hE.release hv))
            fun ρ ⟨hk, ha, hd, he⟩ _ _ _ => endDelegation hE hk ha hd (.error he)
        | error ho =>
          refine .bind (hk.and (ha.and (hd.and ho))) (owning (releaseException hE he))
            fun ρ ⟨hk, ha, hd, ho⟩ _ _ _ => endDelegation hE hk ha hd (.error ho)
      · refine .bind (hk.and (ha.and hd)) (owning (throwException hE hc he))
          fun ρ ⟨hk, ha, hd⟩ reply reply' hr => afterDelegate hE hk ha hd hr

/-! ## Commands -/

theorem execute {context context' : Option Context} (hk : Like ρ context context') {a a' : Activation L}
    (ha : Like ρ a a') {command : Command L.Script} (h : command.IsPrivate P.reach fun p => P.safe (L.start p)) :
    Echoes ρ (CoroutineEngine.execute E context a command)
      (CoroutineEngine.execute F context' a' command) := by
  have hscope : Like ρ (⟨context, a.locals⟩ : Scope) ⟨context', a'.locals⟩ := ⟨hk, ha.locals⟩
  cases command with
  | «yield» value target =>
    exact .bind ha (owning (evaluate hE value h hscope)) fun _ ha _ _ hv =>
      .pure (.ended (.suspended hv { ha with waiting := .delivery target }))
  | await value target =>
    exact .bind (hk.and ha) (owning (evaluate hE value h hscope)) fun _ ⟨hk, ha⟩ _ _ hv => startDelegation hE hk ha hv target
  | perform op target =>
    refine .bind ha (owning (perform hE hscope h)) fun ρ ha answer answer' hx => ?_
    cases hx with
    | error he => exact proceedRaising ha he
    | ok hg =>
      cases hg with
      | value hv => exact proceedWith hE ha target hv
      | data d d' =>
        have going : Like ρ (Progress.next a .done) (.next a' .done) := .next ha .done
        cases hk with
        | none => exact .pure going
        | some => exact .bind going (emit _ _) fun _ going _ _ _ => .pure going
  | test condition =>
    refine .bind ha (owning (evaluate hE condition h hscope)) fun ρ ha v v' hv => ?_
    rw [Value.Like.isTrue hv]
    exact .bind ha (owning (hE.release hv)) fun _ ha _ _ _ => .pure (.next ha (.truth _))
  | caught cls =>
    refine .bind ha (owning (evaluate hE cls h hscope)) fun ρ ha c c' hc => ?_
    have same : isInstanceOf (a'.held.headD .none) c' = isInstanceOf (a.held.headD .none) c := ha.top.isInstanceOf hc
    rw [same]
    exact .bind ha (owning (hE.release hc)) fun _ ha _ _ _ => .pure (.next ha (.truth _))
  | hold value => exact .bind ha (owning (evaluate hE value h hscope)) fun _ ha _ _ hv => .pure (.next (ha.hold hv) .done)
  | discard depth =>
    obtain ⟨ha', hv⟩ := ha.takeHeld depth
    exact .bind ha' (owning (releaseOption hE hv)) fun _ ha' _ _ _ => .pure (.next ha' .done)
  | bind target =>
    refine .bind (ha.and ha.top) (retain ha.top) fun ρ ⟨ha, hv⟩ _ _ _ => ?_
    exact .next (deliverTo hE ha (some target) hv) fun _ _ _ ha => .pure (.next ha .done)
  | enter =>
    unfold CoroutineEngine.execute
    dsimp only
    rcases ha.heldException?.absent_or with ⟨h, h'⟩ | ⟨e, e', h, h', he⟩ <;> rw [h, h'] <;> dsimp only
    · exact .pure (.next ha .done)
    · obtain ⟨ha', -⟩ := ha.takeHeld 0
      refine .bind ha' (owning (swapHandled (.some he))) fun ρ ha' previous previous' hp => ?_
      exact .pure (.next (ha'.hold hp.ofException) .done)
  | leave depth =>
    obtain ⟨ha', hv⟩ := ha.takeHeld depth
    have handled : Like ρ ((takeHeld a depth).2.bind (·.asException?)) ((takeHeld a' depth).2.bind (·.asException?)) := by
      rcases hv.absent_or with ⟨h, h'⟩ | ⟨_, _, h, h', hv⟩ <;> rw [h, h']
      · exact .none
      · exact hv.asException?
    refine .bind ha' (owning (swapHandled handled)) fun ρ ha' current current' hc => ?_
    exact .bind ha' (owning (releaseException? hE hc)) fun _ ha' _ _ _ => .pure (.next ha' .done)
  | raise value arg =>
    obtain ⟨hvalue, harg⟩ := Bool.and_eq_true_iff.mp h
    refine .bind ha (owning ?_) fun ρ ha e e' he => proceedRaising ha he
    refine .bind hscope (evaluate hE value hvalue hscope) fun ρ hscope kind kind' hkind => ?_
    refine .bind hkind (evaluate hE arg harg hscope) fun ρ hkind arg arg' harg => holding hE hkind ?_
    refine .next (normalizeThrow hE hkind harg Value.Like.none) fun ρ result result' hp => ?_
    cases hp with
    | error he => exact .pure he
    | ok hp => exact instantiate hp
  | pass => exact .pure (.next ha .done)
  | finish =>
    obtain ⟨ha', hv⟩ := ha.takeHeld 0
    exact endBody hE ha' (.ok hv.orNone)
  | fail =>
    unfold CoroutineEngine.execute
    dsimp only
    rcases ha.heldException?.absent_or with ⟨h, h'⟩ | ⟨e, e', h, h', he⟩ <;> rw [h, h'] <;> dsimp only
    · exact endBody hE ha (.ok Value.Like.none)
    · exact endBody hE (ha.takeHeld 0).1 (.error he)
  | panic message => exact owning (panic message)

/-! ## Runs of a body -/

omit hE in
/-- The clock of the other world goes down with the one of this world. -/
theorem tick : Echoes ρ (Effect.tick : Effect L Unit) Effect.tick := by
  constructor
  intro w w' hw
  refine ⟨?_⟩
  unfold Effect.tick
  split
  · trivial
  · next n hn =>
    have hclock : w'.clock = n + ρ.slack + 1 := by
      rw [hw.clock, hn]
      omega
    rw [hclock]
    exact ⟨(), _, rfl, ρ, .refl ρ, { hw with clock := rfl }, rfl⟩

/-- A run that has more fuel gets as far. -/
theorem proceed {fuel fuel' : Nat} (hfuel : fuel ≤ fuel') {context context' : Option Context}
    (hk : Like ρ context context') {a a' : Activation L} (ha : Like ρ a a') {x x' : Answer} (hx : Like ρ x x') :
    Echoes ρ (CoroutineEngine.proceed E context fuel a x) (CoroutineEngine.proceed F context' fuel' a' x') := by
  induction fuel generalizing fuel' ρ a a' x x' with
  | zero => exact .stop
  | succ fuel ih =>
    obtain ⟨m, rfl⟩ := Nat.exists_eq_add_of_lt hfuel
    refine .bind (hk.and (ha.and hx)) tick fun ρ ⟨hk, ha, hx⟩ _ _ _ => ?_
    -- in the same control state, after answers that are like each other, the same command comes
    have same : L.next a'.state x' = L.next a.state x := by
      rw [ha.state]
      exact P.indifferent ha.safe hx
    have ha' : Like ρ { a with state := (L.next a.state x).2 } { a' with state := (L.next a.state x).2 } :=
      { ha with state := rfl, safe := P.next ha.safe x }
    rw [same]
    refine .bind hk (execute hE hk ha' (P.command ha.safe x)) fun ρ hk progress progress' hp => ?_
    cases hp with
    | ended hexit => exact .pure hexit
    | next ha hx => exact ih (by omega) hk ha hx

theorem proceedFrom {fuel fuel' : Nat} (hfuel : fuel ≤ fuel') {context context' : Option Context}
    (hk : Like ρ context context') {p p' : Progress L} (hp : Like ρ p p') :
    Echoes ρ (CoroutineEngine.proceedFrom E context fuel p) (CoroutineEngine.proceedFrom F context' fuel' p') := by
  cases hp with
  | ended hexit => exact .pure hexit
  | next ha hx => exact proceed hE hfuel hk ha hx

theorem runBody {fuel fuel' : Nat} (hfuel : fuel ≤ fuel') {context context' : Option Context}
    (hk : Like ρ context context') {a a' : Activation L} (ha : Like ρ a a') {t t' : Transfer} (ht : Like ρ t t') :
    Echoes ρ (CoroutineEngine.runBody E context fuel a t) (CoroutineEngine.runBody F context' fuel' a' t') := by
  obtain ⟨state, locals, held, waiting⟩ := a
  obtain ⟨state', locals', held', waiting'⟩ := a'
  have hwaiting : Like ρ waiting waiting' := ha.waiting
  cases hwaiting with
  | start =>
    refine .bind (hk.and ha) (owning (releaseAll hE ht.transferOwned))
      fun ρ ⟨hk, ha⟩ _ _ _ => proceed hE hfuel hk ha .start
  | delivery target =>
    refine .bind (hk.and ha.awake) (owning (deliver hE ht)) fun ρ ⟨hk, ha⟩ reply reply' hr => ?_
    exact .bind hk (proceedReply hE ha target hr) fun _ hk _ _ hp => proceedFrom hE hfuel hk hp
  | delegate hd =>
    exact .bind hk (passOn hE hk ha.awake hd ht) fun _ hk _ _ hp => proceedFrom hE hfuel hk hp

end Echoes

/-! ## The engine -/

namespace Engine

theorem halted_isEchoedBy (F : Engine L) (hF : ∀ w, F.release .none w = (.ok (), w)) :
    (Engine.halted : Engine L).IsEchoedBy P F where
  release {ρ v v'} hv := by
    show Echoes ρ (if v.isNone then Pure.pure () else .stop) (F.release v')
    cases hv with
    | none => exact ⟨fun w w' hw => ⟨(), w', hF w', ρ, .refl ρ, hw, rfl⟩⟩
    | _ => exact .stop
  run _ _ _ _ := .stop

/-- By induction on the depth of nesting: what an engine does for what keeps to itself, a deeper one does alike. -/
theorem ofDepth_isEchoedBy {n m : Nat} (h : n ≤ m) : (Engine.ofDepth L n).IsEchoedBy P (.ofDepth L m) := by
  induction n generalizing m with
  | zero => exact halted_isEchoedBy _ fun w => by cases m <;> rfl
  | succ n ih =>
    obtain ⟨m, rfl⟩ := Nat.exists_eq_add_of_lt h
    exact ⟨fun hv => .releaseHandle (ih (by omega)) hv, fun hk hk' ha ht => .runBody (ih (by omega)) (by omega) hk ha ht⟩

/-- So it does where it serves a driver: a release that gives a result is not cut there. It runs no hooks of its own. -/
theorem ofDepth_isEchoedBy_serving (hP : P.reach.thread = false) (n : Nat) :
    (Engine.ofDepth L n).IsEchoedBy P (.serving L n) := by
  induction n with
  | zero => exact halted_isEchoedBy _ fun _ => rfl
  | succ n ih =>
    constructor
    · intro ρ v v' hv
      constructor
      intro w w' hw
      refine ⟨?_⟩
      have h := ((Echoes.releaseHandle ih hv).twins w w' hw).alike
      show Alike _ _ _ (releaseHandle (.ofDepth L n) v w) ((releaseHandle (.serving L n) v').cutAtPanic w')
      rcases hx : releaseHandle (.ofDepth L n) v w with ⟨a | m | _, u⟩ <;> rw [hx] at h
      · obtain ⟨b, u', hu', hs⟩ := h
        exact ⟨b, u', by simp only [Effect.cutAtPanic, hu'], hs⟩
      · exact False.elim
      · exact trivial
    · intro ρ k k' a a' t t' hk hk' ha ht
      cases hk with
      | none => exact absurd (hP.symm.trans (hk' rfl)) Bool.false_ne_true
      | some hk => exact .runBody (ofDepth_isEchoedBy (Nat.le_refl n)) (Nat.le_refl n) (.some hk) ha ht

end Engine

end CoroutineEngine
