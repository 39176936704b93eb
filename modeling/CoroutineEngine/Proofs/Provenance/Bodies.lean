import CoroutineEngine.Proofs.Provenance.Operations

/-!
# Bodies forge nothing

A body owns what it was given and what it asked for. By induction on the depth of nesting, the whole engine forges
nothing.

Results:
* `Honest.execute`, `Honest.proceed`: commands and runs of a body are honest.
* `Engine.ofDepth_isHonest`: engines of any depth are honest.
-/

namespace CoroutineEngine

variable {L : Language} {ι : Inventory}

/-! ## Activations -/

instance : Certified (Progress L) where
  genuine ι
    | .next a _ => Genuine ι a
    | .ended exit => Genuine ι exit
  mono {ι κ p} h hp := by
    cases p with
    | next a answer => exact Genuine.mono (α := Activation L) h hp
    | ended exit => exact Genuine.mono (α := Exit L) h hp

namespace Activation

variable {a : Activation L}

theorem genuine_iff :
    Genuine ι a ↔ (Genuine ι a.waiting.owned ∧ Genuine ι a.held) ∧ Genuine ι a.locals := by
  refine genuine_append.trans (and_congr genuine_append genuine_named)

theorem genuine_held (ha : Genuine ι a) : Genuine ι a.held := (genuine_iff.mp ha).1.2

theorem genuine_locals (ha : Genuine ι a) : Genuine ι a.locals := (genuine_iff.mp ha).2

/-- The activation waits for something else. -/
theorem genuine_wait (ha : Genuine ι a) {waiting : Waiting} (hw : Genuine ι waiting.owned) :
    Genuine ι { a with waiting } := by
  obtain ⟨⟨-, hheld⟩, hlocals⟩ := genuine_iff.mp ha
  exact genuine_iff.mpr ⟨⟨hw, hheld⟩, hlocals⟩

/-- The activation holds other values. -/
theorem genuine_hold (ha : Genuine ι a) {held : List Value} (hh : Genuine ι held) : Genuine ι { a with held } := by
  obtain ⟨⟨hwaiting, -⟩, hlocals⟩ := genuine_iff.mp ha
  exact genuine_iff.mpr ⟨⟨hwaiting, hh⟩, hlocals⟩

/-- The activation has other locals. -/
theorem genuine_locals_of (ha : Genuine ι a) {locals : List (String × Value)} (hl : Genuine ι locals) :
    Genuine ι { a with locals } := by
  obtain ⟨⟨hwaiting, hheld⟩, -⟩ := genuine_iff.mp ha
  exact genuine_iff.mpr ⟨⟨hwaiting, hheld⟩, hl⟩

/-- The control state owns nothing. -/
theorem genuine_state (ha : Genuine ι a) (state : L.State) : Genuine ι { a with state } := ha

theorem genuine_assign {locals : List (String × Value)} (hl : Genuine ι locals) (name : String) {v : Value}
    (hv : Genuine ι v) : Genuine ι (assign locals name v) := by
  have hentry : Genuine ι (name, v) := ⟨trivial, hv⟩
  induction locals with
  | nil => exact ⟨hentry.single, genuine_none⟩
  | cons entry rest ih =>
    obtain ⟨hold, hrest⟩ := genuine_cons.mp hl
    obtain ⟨hrest', hprevious⟩ := ih hrest
    unfold assign
    split
    · exact ⟨genuine_cons.mpr ⟨⟨trivial, hv⟩, hrest⟩, genuine_some.mpr hold.2⟩
    · exact ⟨genuine_cons.mpr ⟨hold, hrest'⟩, hprevious⟩

theorem genuine_takeHeld (ha : Genuine ι a) (depth : Nat) : Genuine ι (takeHeld a depth) := by
  refine ⟨genuine_hold ha fun v hv => ?_, genuine_getElem? (genuine_held ha) depth⟩
  exact genuine_held ha v (List.mem_of_mem_eraseIdx hv)

theorem genuine_heldException (ha : Genuine ι a) : Genuine ι (heldException? a) := by
  intro e he
  obtain ⟨v, hv, he⟩ := Option.bind_eq_some_iff.mp he
  exact genuine_asException (genuine_held ha v (List.mem_of_mem_head? hv)) e he

end Activation

namespace Honest

variable {E : Engine L} (hE : E.IsHonest)

include hE

/-! ## Steps -/

theorem deliverTo {a : Activation L} (ha : Genuine ι a) (target : Option String) {v : Value} (hv : Genuine ι v) :
    Honest ι (CoroutineEngine.deliverTo E a target v) := by
  cases target with
  | none => exact .bind ha (owning hE ha (hE.release hv)) fun _ ha _ _ => .pure ha
  | some name =>
    obtain ⟨hlocals, hprevious⟩ := Activation.genuine_assign (Activation.genuine_locals ha) name hv
    have ha' := Activation.genuine_locals_of ha hlocals
    exact .bind ha' (owning hE ha' (releaseOption hE hprevious)) fun _ ha' _ _ => .pure ha'

theorem proceedWith {a : Activation L} (ha : Genuine ι a) (target : Option String) {v : Value} (hv : Genuine ι v) :
    Honest ι (CoroutineEngine.proceedWith E a target v) :=
  .next (deliverTo hE ha target hv) fun _ _ ha => .pure ha

omit hE in
theorem proceedRaising {a : Activation L} (ha : Genuine ι a) {e : Exception} (he : Genuine ι e) :
    Honest ι (CoroutineEngine.proceedRaising a e) :=
  .pure (Activation.genuine_hold ha (genuine_cons.mpr ⟨he, Activation.genuine_held ha⟩))

theorem proceedReply {a : Activation L} (ha : Genuine ι a) (target : Option String) {r : Reply}
    (hr : Genuine ι r) : Honest ι (CoroutineEngine.proceedReply E a target r) := by
  cases r with
  | ok v => exact proceedWith hE ha target hr
  | error e => exact proceedRaising ha hr

theorem endBody {a : Activation L} (ha : Genuine ι a) {r : Reply} (hr : Genuine ι r) :
    Honest ι (CoroutineEngine.endBody E a r) :=
  .bind hr (owning hE (Reply.genuine_owned hr).single (releaseAll hE ha)) fun _ hr _ _ => .pure hr

/-! ## Delegations -/

theorem endDelegation (context : Option Context) {a : Activation L} (ha : Genuine ι a) {d : Delegation}
    (hd : Genuine ι d) {r : Reply} (hr : Genuine ι r) :
    Honest ι (CoroutineEngine.endDelegation E context a d r) := by
  have ha' : Genuine ι { a with waiting := .start } := Activation.genuine_wait ha genuine_nil
  have hro := Reply.genuine_owned hr
  have given {ι : Inventory} (k : Context) : Honest ι (do
      if ← .gets (·.isAlive k.coroutine) then
        E.releaseOption (← CoroutineEngine.updateCoroutine k.coroutine fun r =>
          (r.awaiting, { r with awaiting := none })) : Effect L Unit) := by
    refine .next (gets (α := Bool) fun _ _ => trivial) fun ι alive _ => ?_
    split
    · refine .next (updateCoroutine _ fun _ hr => ⟨hr.awaiting, { hr with awaiting := genuine_none }⟩)
        fun ι awaiting h => ?_
      exact releaseOption hE h
    · exact .pure trivial
  refine .bind (ha'.and (hd.and (hr.and hro)))
    (owning hE (genuine_cons.mpr ⟨hro, genuine_cons.mpr ⟨hd.1, genuine_cons.mpr ⟨hd.2, ha'⟩⟩⟩) ?_) fun ι h _ _ => ?_
  · cases context with
    | none => exact .pure trivial
    | some k => exact given k
  · obtain ⟨ha, hd, hr, hro⟩ := h
    refine .bind (ha.and (hd.and (hr.and hro)))
      (owning hE (genuine_cons.mpr ⟨hro, genuine_cons.mpr ⟨hd.2, ha⟩⟩) (hE.release hd.1)) fun ι h _ _ => ?_
    obtain ⟨ha, hd, hr, hro⟩ := h
    refine .bind (ha.and hr) (owning hE (genuine_cons.mpr ⟨hro, ha⟩) (hE.release hd.2)) fun ι h _ _ => ?_
    exact proceedReply hE h.1 d.target h.2

theorem afterDelegate (context : Option Context) {a : Activation L} (ha : Genuine ι a) {d : Delegation}
    (hd : Genuine ι d) {r : Reply} (hr : Genuine ι r) :
    Honest ι (CoroutineEngine.afterDelegate E context a d r) := by
  cases r with
  | ok v => exact .pure ⟨hr, Activation.genuine_wait ha (hd.1.double hd.2)⟩
  | error e =>
    unfold CoroutineEngine.afterDelegate
    dsimp only
    split
    · refine .bind (ha.and (hd.and hr)) (stopValue e) fun ι ⟨ha, hd, he⟩ v hv => ?_
      have howned := genuine_cons.mpr ⟨hv, genuine_cons.mpr ⟨hd.1, genuine_cons.mpr ⟨hd.2, ha⟩⟩⟩
      refine .bind (ha.and (hd.and hv)) (owning hE howned (releaseException hE he)) fun ι ⟨ha, hd, hv⟩ _ _ => ?_
      exact endDelegation hE context ha hd (r := .ok v) hv
    · exact endDelegation hE context ha hd hr

theorem startDelegation (context : Option Context) {a : Activation L} (ha : Genuine ι a) {operand : Value}
    (ho : Genuine ι operand) (target : Option String) :
    Honest ι (CoroutineEngine.startDelegation E context a operand target) := by
  refine .bind (ha.and ho) (gets (α := Option CoroutineId) fun _ _ _ _ => trivial) fun ι ⟨ha, ho⟩ delegate _ => ?_
  cases delegate with
  | none =>
    refine .bind (ha.and ho) (raise _) fun ι ⟨ha, ho⟩ e he => ?_
    refine .bind (ha.and he) (owning hE (genuine_cons.mpr ⟨he, ha⟩) (hE.release ho)) fun ι ⟨ha, he⟩ _ _ => ?_
    exact proceedRaising ha he
  | some delegate =>
    refine .bind (ha.and ho) (retain operand) fun ι ⟨ha, ho⟩ _ _ => ?_
    have hd : Genuine ι (⟨operand, operand, target⟩ : Delegation) := ⟨ho, ho⟩
    have sent {ι : Inventory} : Honest ι (CoroutineEngine.send E delegate .none) := send hE delegate trivial
    have hw : Genuine ι (Waiting.delegate ⟨operand, operand, target⟩).owned := ho.double ho
    refine .bind (ha.and hd) (owning hE (Activation.genuine_wait ha hw) ?_)
      fun ι ⟨ha, hd⟩ reply hr => ?_
    · cases context with
      | none => exact sent
      | some k =>
        refine .bind ho (gets (α := Bool) fun _ _ => trivial) fun ι ho alive _ => ?_
        split
        · refine .bind ho (retain operand) fun ι ho _ _ => ?_
          refine .next (updateCoroutine _ fun _ hr =>
            ⟨hr.awaiting, { hr with awaiting := genuine_some.mpr ho }⟩) fun ι awaiting h => ?_
          exact .next (releaseOption hE h) fun _ _ _ => sent
        · exact sent
    · exact afterDelegate hE context (Activation.genuine_wait ha genuine_nil) hd hr

theorem passOn (context : Option Context) {a : Activation L} (ha : Genuine ι a) {d : Delegation}
    (hd : Genuine ι d) {t : Transfer} (ht : Genuine ι t) :
    Honest ι (CoroutineEngine.passOn E context a d t) := by
  have waits {ι : Inventory} (ha : Genuine ι a) (hd : Genuine ι d) :
      Genuine ι { a with waiting := .delegate d }.owned := Activation.genuine_wait ha (hd.1.double hd.2)
  refine .bind (ha.and (hd.and ht)) (gets (α := Option CoroutineId) fun _ _ _ _ => trivial)
    fun ι ⟨ha, hd, ht⟩ delegate _ => ?_
  cases delegate with
  | none =>
    refine .bind (ha.and hd) (releaseAll hE (Transfer.genuine_owned ht)) fun ι ⟨ha, hd⟩ _ _ => ?_
    exact endDelegation hE context ha hd (r := .ok .none) trivial
  | some delegate =>
    refine .bind (ha.and hd) (owning hE (waits ha hd) (deliver hE ht)) fun ι ⟨ha, hd⟩ reply hr => ?_
    cases reply with
    | ok v =>
      refine .bind (ha.and hd) (owning hE (waits ha hd) (send hE delegate hr)) fun ι ⟨ha, hd⟩ reply hr => ?_
      exact afterDelegate hE context ha hd hr
    | error e =>
      have he : Genuine ι e := hr
      have howned := (genuine_cons (a := Value.exception e)).mpr ⟨he, waits ha hd⟩
      dsimp only
      split
      · refine .bind (ha.and (hd.and he)) (owning hE howned (close hE delegate)) fun ι ⟨ha, hd, he⟩ reply hr => ?_
        cases reply with
        | ok v =>
          have howned := (genuine_cons (a := Value.exception e)).mpr ⟨he, waits ha hd⟩
          refine .bind (ha.and (hd.and he)) (owning hE howned (hE.release hr)) fun ι ⟨ha, hd, he⟩ _ _ => ?_
          exact endDelegation hE context ha hd (r := .error e) he
        | error other =>
          have ho : Genuine ι other := hr
          have howned := (genuine_cons (a := Value.exception other)).mpr ⟨ho, waits ha hd⟩
          refine .bind (ha.and (hd.and ho)) (owning hE howned (releaseException hE he)) fun ι ⟨ha, hd, ho⟩ _ _ => ?_
          exact endDelegation hE context ha hd (r := .error other) ho
      · refine .bind (ha.and hd) (owning hE (waits ha hd) (throwException hE delegate he))
          fun ι ⟨ha, hd⟩ reply hr => ?_
        exact afterDelegate hE context ha hd hr

/-! ## Commands -/

theorem execute {context : Option Context} (hk : Genuine ι context) {a : Activation L} (ha : Genuine ι a)
    (command : Command L.Script) : Honest ι (CoroutineEngine.execute E context a command) := by
  have hscope : Genuine ι (⟨context, a.locals⟩ : Scope) := ⟨hk, Activation.genuine_locals ha⟩
  have evaluated (e : Expr) := owning hE ha (evaluate hE e hscope)
  cases command with
  | «yield» value target =>
    exact .bind ha (evaluated value) fun _ ha _ hv => .pure ⟨hv, Activation.genuine_wait ha genuine_nil⟩
  | await value target =>
    exact .bind ha (evaluated value) fun _ ha _ hv => startDelegation hE context ha hv target
  | perform op target =>
    refine .bind ha (owning hE ha (perform hE hscope op)) fun ι ha answer h => ?_
    rcases answer with e | v | d
    · exact proceedRaising ha h
    · exact proceedWith hE ha target h
    · dsimp only
      split
      · exact .bind ha (emit _) fun _ ha _ _ => .pure ha
      · exact .pure ha
  | test condition =>
    refine .bind ha (evaluated condition) fun ι ha v hv => ?_
    exact .bind ha (owning hE ha (hE.release hv)) fun _ ha _ _ => .pure ha
  | caught cls =>
    refine .bind ha (evaluated cls) fun ι ha c hc => ?_
    exact .bind ha (owning hE ha (hE.release hc)) fun _ ha _ _ => .pure ha
  | hold value =>
    refine .bind ha (evaluated value) fun ι ha v hv => ?_
    exact .pure (Activation.genuine_hold ha (genuine_cons.mpr ⟨hv, Activation.genuine_held ha⟩))
  | discard depth =>
    obtain ⟨ha', hv⟩ := Activation.genuine_takeHeld ha depth
    exact .bind ha' (owning hE ha' (releaseOption hE hv)) fun _ ha' _ _ => .pure ha'
  | bind target =>
    have hv := genuine_headD (Activation.genuine_held ha)
    refine .bind (ha.and hv) (retain _) fun ι ⟨ha, hv⟩ _ _ => ?_
    exact .next (deliverTo hE ha (some target) hv) fun _ _ ha => .pure ha
  | enter =>
    unfold CoroutineEngine.execute
    dsimp only
    split
    · exact .pure ha
    · next e he =>
      have he := Activation.genuine_heldException ha e he
      have ha' := (Activation.genuine_takeHeld ha 0).1
      refine .bind ha' (owning hE ha' (swapHandled (genuine_some.mpr he))) fun ι ha' previous hp => ?_
      exact .pure (Activation.genuine_hold ha'
        (genuine_cons.mpr ⟨genuine_ofException hp, Activation.genuine_held ha'⟩))
  | leave depth =>
    obtain ⟨ha', hv⟩ := Activation.genuine_takeHeld ha depth
    have handled : Genuine ι ((takeHeld a depth).2.bind (·.asException?)) := by
      intro e he
      obtain ⟨v, hv', he⟩ := Option.bind_eq_some_iff.mp he
      exact genuine_asException (hv v hv') e he
    refine .bind ha' (owning hE ha' (swapHandled handled)) fun ι ha' current hc => ?_
    exact .bind ha' (owning hE ha' (releaseException? hE hc)) fun _ ha' _ _ => .pure ha'
  | raise value arg =>
    refine .bind ha (owning hE ha ?_) fun ι ha e he => proceedRaising ha he
    refine .bind hscope (evaluate hE value hscope) fun ι hscope kind hk => ?_
    refine .bind hk (evaluate hE arg hscope) fun ι hk arg harg => holding hE hk ?_
    refine .next (normalizeThrow hE hk harg .none) fun ι result hp => ?_
    cases result with
    | error e => exact .pure hp
    | ok p => exact instantiate hp
  | pass => exact .pure ha
  | finish =>
    obtain ⟨ha', hv⟩ := Activation.genuine_takeHeld ha 0
    exact endBody hE ha' (r := .ok ((takeHeld a 0).2.getD .none)) (genuine_getD hv)
  | fail =>
    unfold CoroutineEngine.execute
    dsimp only
    split
    · exact endBody hE ha (r := .ok .none) trivial
    · next e he =>
      exact endBody hE (Activation.genuine_takeHeld ha 0).1 (r := .error e)
        (Activation.genuine_heldException ha e he)
  | panic message => exact owning hE ha (panic message)

/-! ## Runs of a body -/

omit hE in
theorem tick : Honest ι (Effect.tick : Effect L Unit) := by
  constructor
  intro w hw
  refine ⟨?_⟩
  unfold Effect.tick
  split
  · exact ⟨ι, .refl ι, hw⟩
  · exact ⟨ι, .refl ι, { hw with }, trivial⟩

theorem proceed {context : Option Context} (fuel : Nat) (hk : Genuine ι context) {a : Activation L}
    (ha : Genuine ι a) (answer : Answer) : Honest ι (CoroutineEngine.proceed E context fuel a answer) := by
  induction fuel generalizing ι a answer with
  | zero => exact stop
  | succ fuel ih =>
    refine .bind (hk.and ha) tick fun ι ⟨hk, ha⟩ _ _ => ?_
    refine .bind hk (execute hE hk (Activation.genuine_state ha _) _) fun ι hk progress hp => ?_
    cases progress with
    | ended exit => exact .pure hp
    | next a answer => exact ih hk hp answer

theorem proceedFrom {context : Option Context} (fuel : Nat) (hk : Genuine ι context) {p : Progress L}
    (hp : Genuine ι p) : Honest ι (CoroutineEngine.proceedFrom E context fuel p) := by
  cases p with
  | ended exit => exact .pure hp
  | next a answer => exact proceed hE fuel hk hp answer

theorem runBody {context : Option Context} (hk : Genuine ι context) (fuel : Nat) {a : Activation L}
    (ha : Genuine ι a) {t : Transfer} (ht : Genuine ι t) :
    Honest ι (CoroutineEngine.runBody E context fuel a t) := by
  have started : Genuine ι { a with waiting := .start } := Activation.genuine_wait ha genuine_nil
  unfold CoroutineEngine.runBody
  split
  · refine .bind (hk.and ha) (owning hE ha (releaseAll hE (Transfer.genuine_owned ht))) fun ι ⟨hk, ha⟩ _ _ => ?_
    exact proceed hE fuel hk ha .start
  · next target _ =>
    refine .bind (hk.and started) (owning hE ha (deliver hE ht)) fun ι ⟨hk, started⟩ reply hr => ?_
    exact .bind hk (proceedReply hE started target hr) fun _ hk _ hp => proceedFrom hE fuel hk hp
  · next d h =>
    have hw := (Activation.genuine_iff.mp ha).1.1
    rw [h] at hw
    obtain ⟨hd, hrest⟩ := genuine_cons.mp hw
    have hd : Genuine ι d := ⟨hd, (genuine_cons.mp hrest).1⟩
    exact .bind hk (passOn hE context started hd ht) fun _ hk _ hp => proceedFrom hE fuel hk hp

end Honest

/-! ## The engine -/

/-- By induction on the depth of nesting, the engine forges nothing. -/
theorem Engine.ofDepth_isHonest (n : Nat) : (Engine.ofDepth L n).IsHonest := by
  induction n with
  | zero =>
    constructor
    · intro ι v _
      dsimp only [Engine.ofDepth, Engine.halted]
      split
      · exact .pure trivial
      · exact .stop
    · intro ι k a t _ _ _
      exact .stop
  | succ n ih =>
    constructor
    · intro ι v hv
      exact .releaseHandle ih hv
    · intro ι k a t hk ha ht
      exact .runBody ih hk n ha ht

end CoroutineEngine
