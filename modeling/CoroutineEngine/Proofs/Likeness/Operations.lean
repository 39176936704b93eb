import CoroutineEngine.Proofs.Likeness.Clients
import CoroutineEngine.Proofs.Likeness.Slots

/-!
# Private operations side by side

Private operations have answers that are like each other. What they tell as data, nobody who acts on it gets to see.

Results:
* `Echoes.onOperand`, `Echoes.operands`: operations on objects that operands name.
* `Echoes.perform`: the answers of a private operation.
-/

namespace CoroutineEngine

variable {L : Language} {P : Privacy L} {ρ : Likeness P}

/-! ## Answers -/

section

variable {α : Type} [Likened P α]

/-- Values that are like each other; whoever is given data does not get to see it. -/
inductive Given.Like (ρ : Likeness P) : Given → Given → Prop
  | value {v v' : Value} (h : CoroutineEngine.Like ρ v v') : Like ρ (.value v) (.value v')
  | data (d d' : Datum) : Like ρ (.data d) (.data d')

instance : Likened P Given where
  like := Given.Like
  mono h hg := by
    cases hg with
    | value hv => exact .value (hv.mono h)
    | data d d' => exact .data d d'

theorem Like.ofReply {r r' : Reply} (hr : Like ρ r r') : Like ρ (Answered.ofReply r) (Answered.ofReply r') := by
  cases hr with
  | ok hv => exact .ok (.value hv)
  | error he => exact .error he

theorem Like.nothing : Like ρ Answered.nothing Answered.nothing := Except.Like.ok (.value Value.Like.none)

theorem Like.answeredException {e e' : Option Exception} (he : Like ρ e e') :
    Like ρ (Answered.ofOption .exception e) (Answered.ofOption .exception e') :=
  Except.Like.ok (.value he.ofException)

/-- Something of a kind, or nothing, where either may be given. -/
theorem Like.asOptional? {as? : Value → Option α} (has : ∀ v v' : Value, Like ρ v v' → Like ρ (as? v) (as? v'))
    {v v' : Value} (hv : Like ρ v v') : Like ρ (v.asOptional? as?) (v'.asOptional? as?) := by
  unfold Value.asOptional?
  rw [Value.Like.isNone hv]
  split
  · exact Like.some (α := Option α) .none
  · rcases (has v v' hv).absent_or with ⟨h, h'⟩ | ⟨_, _, h, h', ha⟩ <;> rw [h, h']
    · exact .none
    · exact Like.some (α := Option α) (.some ha)

/-- An exception, or nothing, where a handler is to be entered or left. -/
theorem Like.asHandled? {v v' : Value} (hv : Like ρ v v') :
    Like ρ (v.asOptional? Value.asException?) (v'.asOptional? Value.asException?) :=
  hv.asOptional? fun _ _ h => h.asException?

theorem Like.cellsOf? {vs vs' : List Value} (hvs : Like ρ vs vs') : Like ρ (cellsOf? vs) (CoroutineEngine.cellsOf? vs') := by
  unfold CoroutineEngine.cellsOf?
  induction hvs with
  | nil => exact Like.some (α := List CellId) .nil
  | cons hv _ ih =>
    rw [List.mapM_cons, List.mapM_cons]
    cases hv with
    | cell hc =>
      rcases ih.absent_or with ⟨h, h'⟩ | ⟨_, _, h, h', hcs⟩ <;> rw [h, h']
      · exact .none
      · exact Like.some (α := List CellId) (.cons hc hcs)
    | _ => exact .none

end

namespace Echoes

variable {E F : Engine L}

/-! ## Operations -/

theorem badOperand {α : Type} [Likened P α] (hE : E.IsEchoedBy P F) {operands operands' : List Value}
    (ho : Like ρ operands operands') :
    Echoes ρ (CoroutineEngine.badOperand E operands : Effect L (Except Exception α))
      (CoroutineEngine.badOperand F operands') := by
  refine .bind ho (makeError _ _) fun ρ ho e e' he => ?_
  exact .bind he (owning (releaseAll hE ho)) fun _ he _ _ _ => .pure (.error he)

theorem onOperand {α : Type} [Likened P α] (hE : E.IsEchoedBy P F) {scope scope' : Scope} (hs : Like ρ scope scope')
    {on : Expr} (hon : on.isPrivate P.reach) {as? : World L → Value → Option α}
    (has : ∀ (ρ : Likeness P) w w', w.Mirrors ρ w' → ∀ v v', Like ρ v v' → Like ρ (as? w v) (as? w' v'))
    {f f' : α → Effect L Answered}
    (hf : ∀ ρ : Likeness P, Like ρ scope scope' → ∀ a a', Like ρ a a' → Echoes ρ (f a) (f' a')) :
    Echoes ρ (CoroutineEngine.onOperand E scope on as? f) (CoroutineEngine.onOperand F scope' on as? f') := by
  refine .bind hs (evaluate hE on hon hs) fun ρ hs v v' hv => ?_
  refine .bind (hs.and hv) (gets fun w w' hw => has ρ w w' hw v v' hv) fun ρ ⟨hs, hv⟩ a a' ha => ?_
  cases ha with
  | none => exact badOperand hE hv.single
  | some ha => exact holding hE hv (hf ρ hs _ _ ha)

/-- An object and a value that is given with it. -/
theorem onBoth {α : Type} [Likened P α] (hE : E.IsEchoedBy P F) {scope scope' : Scope} (hs : Like ρ scope scope')
    {on e : Expr} (h : on.isPrivate P.reach && e.isPrivate P.reach) {as? : World L → Value → Option α}
    (has : ∀ (ρ : Likeness P) w w', w.Mirrors ρ w' → ∀ v v', Like ρ v v' → Like ρ (as? w v) (as? w' v'))
    {f f' : α → Value → Effect L Answered}
    (hf : ∀ ρ : Likeness P, ∀ a a', Like ρ a a' → ∀ v v', Like ρ v v' → Echoes ρ (f a v) (f' a' v')) :
    Echoes ρ (CoroutineEngine.onOperand E scope on as? fun a => CoroutineEngine.evaluate E scope e >>= f a)
      (CoroutineEngine.onOperand F scope' on as? fun a => CoroutineEngine.evaluate F scope' e >>= f' a) := by
  obtain ⟨hon, he⟩ := Bool.and_eq_true_iff.mp h
  refine onOperand hE hs hon has fun ρ hs a a' ha => ?_
  exact .bind ha (evaluate hE e he hs) fun ρ ha v v' hv => hf ρ a a' ha v v' hv

/-- The three operands of a triple. -/
theorem operands {α κ : Type} [Likened P α] [Likened P κ] (hE : E.IsEchoedBy P F) {scope scope' : Scope}
    (hs : Like ρ scope scope') {t : TripleSpec} (ht : t.isPrivate P.reach) {k k' : κ} (hk : Like ρ k k')
    {f f' : Value → Value → Value → Effect L α}
    (hf : ∀ ρ : Likeness P, Like ρ k k' → ∀ u u' v v' x x', Like ρ u u' → Like ρ v v' → Like ρ x x' →
      Echoes ρ (f u v x) (f' u' v' x')) :
    Echoes ρ (do
        let kind ← CoroutineEngine.evaluate E scope t.kind
        let value ← CoroutineEngine.evaluate E scope t.value
        let traceback ← CoroutineEngine.evaluate E scope t.traceback
        f kind value traceback) (do
        let kind ← CoroutineEngine.evaluate F scope' t.kind
        let value ← CoroutineEngine.evaluate F scope' t.value
        let traceback ← CoroutineEngine.evaluate F scope' t.traceback
        f' kind value traceback) := by
  simp only [TripleSpec.isPrivate, Bool.and_eq_true] at ht
  obtain ⟨⟨hkind, hvalue⟩, htraceback⟩ := ht
  refine .bind (hk.and hs) (evaluate hE _ hkind hs) fun ρ ⟨hk, hs⟩ u u' hu => ?_
  refine .bind (hk.and (hs.and hu)) (evaluate hE _ hvalue hs) fun ρ ⟨hk, hs, hu⟩ v v' hv => ?_
  refine .bind (hk.and (hu.and hv)) (evaluate hE _ htraceback hs) fun ρ ⟨hk, hu, hv⟩ x x' hx => ?_
  exact hf ρ hk _ _ _ _ _ _ hu hv hx

theorem makeText? (s : Option String) :
    Echoes ρ (makeText? s : Effect L (Option Text)) (CoroutineEngine.makeText? s) := by
  cases s with
  | none => exact .pure .none
  | some s => exact .next (makeText s) fun _ _ _ ht => .pure ht.some

theorem codeOf (hE : E.IsEchoedBy P F) {scope scope' : Scope} (hs : Like ρ scope scope') {source : CodeSource L.Script}
    (h : source.IsPrivate P.reach fun p => P.safe (L.start p)) :
    Echoes ρ (CoroutineEngine.codeOf E scope source) (CoroutineEngine.codeOf F scope' source) := by
  cases source with
  | spec spec => exact .next (makeCode ⟨rfl, h⟩) fun _ _ _ hc => .pure (.ok hc)
  | value e =>
    refine .next (evaluate hE e h hs) fun ρ v v' hv => ?_
    have hbad := badOperand (α := Code) hE hv.single
    cases hv with
    | code hc => exact .pure (.ok hc)
    | _ => exact hbad

theorem buildCoroutine (hE : E.IsEchoedBy P F) {scope scope' : Scope} (hs : Like ρ scope scope')
    {spec : CoroutineSpec L.Script} (h : spec.IsPrivate P.reach fun p => P.safe (L.start p)) :
    Echoes ρ (CoroutineEngine.buildCoroutine E scope spec) (CoroutineEngine.buildCoroutine F scope' spec) := by
  refine .bind hs (codeOf hE hs h.code) fun ρ hs code code' hcode => ?_
  cases hcode with
  | error he => exact .pure (.error he)
  | ok hcode =>
    refine .bind (hs.and hcode) (evaluateAll hE _ h.parameters hs) fun ρ ⟨hs, hcode⟩ parameters parameters' hp => ?_
    refine .bind (hcode.and hp) (evaluateAll hE _ h.closure hs) fun ρ ⟨hcode, hp⟩ cells cells' hcells => ?_
    rcases hcells.cellsOf?.absent_or with ⟨h, h'⟩ | ⟨closure, closure', h, h', hclosure⟩ <;> simp only [h, h']
    · exact badOperand hE (hp.append hcells)
    · refine .bind (hcode.and (hp.and hclosure)) (makeText? _) fun ρ ⟨hcode, hp, hclosure⟩ name name' hname => ?_
      refine .bind (hcode.and (hp.and (hclosure.and hname))) (makeText? _)
        fun ρ ⟨hcode, hp, hclosure, hname⟩ qualname qualname' hqualname => ?_
      exact .next (makeCoroutine ⟨hcode, hname, hqualname, hp, hclosure, rfl, rfl, rfl, rfl⟩) fun _ _ _ hc =>
        .pure (.ok (.value (.coroutine hc)))

theorem tripleOfValues (hE : E.IsEchoedBy P F) {kind kind' value value' traceback traceback' : Value}
    (hk : Like ρ kind kind') (hv : Like ρ value value') (ht : Like ρ traceback traceback') :
    Echoes ρ (CoroutineEngine.tripleOfValues E kind value traceback)
      (CoroutineEngine.tripleOfValues F kind' value' traceback') := by
  have hbad := badOperand (α := Option PendingException) hE (hk.cons (hv.double ht))
  cases hk with
  | none => exact .next (releaseAll hE (hv.double ht)) fun _ _ _ _ => .pure (.ok .none)
  | exception he =>
    have he : Like (α := Exception) ρ _ _ := he
    refine .bind he (releaseAll hE (hv.double ht)) fun ρ he _ _ _ => ?_
    exact .next (pendingOf he) fun _ _ _ hp => .pure (.ok (.some hp))
  | exceptionClass cls =>
    have made {ρ : Likeness P} (hv : Like ρ value value') (ht : Like ρ traceback traceback') :
        Like ρ (⟨cls, value.asException?, traceback.asTraceback?⟩ : PendingException)
          ⟨cls, value'.asException?, traceback'.asTraceback?⟩ := ⟨rfl, hv.asException?, ht.asTraceback?⟩
    have same : value'.asException?.isNone = value.asException?.isNone := by
      rcases hv.asException?.absent_or with ⟨h, h'⟩ | ⟨_, _, h, h', -⟩ <;> simp only [h, h', Option.isNone_none, Option.isNone_some]
    unfold CoroutineEngine.tripleOfValues
    dsimp only
    rw [same]
    split
    · exact .bind (hv.and ht) (hE.release hv) fun _ h _ _ _ => .pure (.ok (.some (made h.1 h.2)))
    · exact .pure (.ok (.some (made hv ht)))
  | _ => exact hbad

/-- The triple of three operands. -/
theorem tripleOf (hE : E.IsEchoedBy P F) {scope scope' : Scope} (hs : Like ρ scope scope') {t : TripleSpec}
    (ht : t.isPrivate P.reach) : Echoes ρ (CoroutineEngine.tripleOf E scope t) (CoroutineEngine.tripleOf F scope' t) :=
  operands hE hs ht (show Like ρ () () from rfl) fun _ _ _ _ _ _ _ _ hk hv ht => tripleOfValues hE hk hv ht

theorem showPending {p p' : PendingException} (hp : Like ρ p p') :
    Echoes ρ (CoroutineEngine.showPending p : Effect L Answered) (CoroutineEngine.showPending p') := by
  refine .bind (α := Hidden Datum) hp (inspected fun w w' hw d hd => hw.pendingData hp hd) fun ρ hp _ _ _ => ?_
  refine .bind hp (emit _ _) fun ρ hp _ _ _ => ?_
  exact .next (instantiate hp) fun _ _ _ he => .pure (.ok (.value (.exception he)))

theorem deliver (hE : E.IsEchoedBy P F) {t t' : Transfer} (ht : Like ρ t t') : Echoes ρ (t.deliver E) (t'.deliver F) := by
  unfold Transfer.deliver
  rcases ht.exception.absent_or with ⟨h, h'⟩ | ⟨p, p', h, h', hp⟩ <;> rw [h, h'] <;> dsimp only
  · exact .pure (.ok ht.value)
  · refine .bind ht (instantiate hp) fun ρ ht e e' he => ?_
    exact .bind he (owning (hE.release ht.value)) fun _ he _ _ _ => .pure (.error he)

theorem showTransfer (hE : E.IsEchoedBy P F) {t t' : Transfer} (ht : Like ρ t t') :
    Echoes ρ (CoroutineEngine.showTransfer E t) (CoroutineEngine.showTransfer F t') := by
  refine .bind (α := Hidden String) ht (written fun w w' hw s h => hw.transferDebug ht h) fun ρ ht _ _ _ => ?_
  refine .bind ht (emit _ _) fun ρ ht _ _ _ => ?_
  exact .next (deliver hE ht) fun _ _ _ hr => .pure hr.ofReply

theorem performNormalize (hE : E.IsEchoedBy P F) {scope scope' : Scope} (hs : Like ρ scope scope') {t : TripleSpec}
    (ht : t.isPrivate P.reach) : Echoes ρ (performNormalize E scope t) (CoroutineEngine.performNormalize F scope' t) := by
  refine operands hE hs ht (show Like ρ () () from rfl) fun ρ _ _ _ _ _ _ _ hk hv ht => ?_
  refine holding hE hk (holding hE ht ?_)
  refine .next (normalizeThrow hE hk hv ht) fun ρ result result' hr => ?_
  cases hr with
  | error he => exact .pure (.error he)
  | ok hp => exact showPending hp

theorem performMakePending (hE : E.IsEchoedBy P F) {scope scope' : Scope} (hs : Like ρ scope scope') {t : TripleSpec}
    (ht : t.isPrivate P.reach) :
    Echoes ρ (performMakePending E scope t) (CoroutineEngine.performMakePending F scope' t) := by
  refine .next (tripleOf hE hs ht) fun ρ result result' hr => ?_
  cases hr with
  | error he => exact .pure (.error he)
  | ok hp =>
    cases hp with
    | none => exact badOperand hE .nil
    | some hp => exact showPending hp

theorem performMakeTransfer (hE : E.IsEchoedBy P F) {scope scope' : Scope} (hs : Like ρ scope scope') {t : TripleSpec}
    (ht : t.isPrivate P.reach) :
    Echoes ρ (performMakeTransfer E scope t) (CoroutineEngine.performMakeTransfer F scope' t) := by
  refine operands hE hs ht (show Like ρ () () from rfl) fun ρ _ _ _ _ _ _ _ hk hv ht => ?_
  rw [Value.Like.isNone hk]
  split
  · exact .bind hv (hE.release ht) fun _ hv _ _ _ => showTransfer hE ⟨hv, .none⟩
  · refine .next (tripleOfValues hE hk hv ht) fun ρ result result' hr => ?_
    cases hr with
    | error he => exact .pure (.error he)
    | ok hp =>
      cases hp with
      | none => exact showTransfer hE ⟨Value.Like.none, .none⟩
      | some hp => exact showTransfer hE ⟨Value.Like.none, .some hp⟩

/-! ### Coroutines -/

theorem nextElement (hE : E.IsEchoedBy P F) {c c' : CoroutineId} (hc : Like ρ c c') :
    Echoes ρ (CoroutineEngine.nextElement E c) (CoroutineEngine.nextElement F c') := by
  refine .next (send hE hc Value.Like.none) fun ρ reply reply' hr => ?_
  cases hr with
  | ok hv => exact .pure (Like.some (α := Reply) (.ok hv))
  | error he =>
    dsimp only
    rw [he.cls]
    split
    · exact .next (releaseException hE he) fun _ _ _ _ => .pure .none
    · exact .pure (Like.some (α := Reply) (.error he))

theorem elementData (hE : E.IsEchoedBy P F) {r r' : Option Reply} (hr : Like ρ r r') :
    Echoes (α := Hidden Datum) ρ (CoroutineEngine.elementData E r) (CoroutineEngine.elementData F r') := by
  cases hr with
  | none => exact .pure trivial
  | @some r r' hr =>
    have howned : Like ρ r.owned r'.owned := by
      cases hr with
      | ok hv => exact hv
      | error he => exact Value.Like.exception he
    refine .bind (α := Hidden Picture) hr (pictureOf howned) fun ρ hr _ _ _ => ?_
    refine .bind hr (releaseReply hE hr) fun ρ hr _ _ _ => ?_
    cases hr with
    | ok => exact .pure trivial
    | error => exact .pure trivial

theorem elements (hE : E.IsEchoedBy P F) {c c' : CoroutineId} (hc : Like ρ c c') (n : Nat) :
    Echoes (α := Hidden (List Datum)) ρ (CoroutineEngine.elements E c n) (CoroutineEngine.elements F c' n) := by
  induction n generalizing ρ with
  | zero => exact .pure trivial
  | succ n ih =>
    refine .bind hc (nextElement hE hc) fun ρ hc _ _ hr => ?_
    refine .bind (α := Hidden Datum) hc (elementData hE hr) fun ρ hc _ _ _ => ?_
    exact .next (α := Hidden (List Datum)) (ih hc) fun _ _ _ _ => .pure trivial

theorem getAttribute {c c' : CoroutineId} (hc : Like ρ c c') (name : String) :
    Echoes ρ (getAttribute c name : Effect L Reply) (CoroutineEngine.getAttribute c' name) := by
  have read {ρ : Likeness P} {v v' : Value} (hv : Like ρ v v') : Echoes ρ (do
      CoroutineEngine.retain v
      return .ok v : Effect L Reply) (do
      CoroutineEngine.retain v'
      return .ok v') := .bind hv (retain hv) fun _ hv _ _ _ => .pure (.ok hv)
  refine .next (recordOf hc) fun ρ r r' hr => ?_
  split
  · exact read (.str hr.name)
  · exact read (.str hr.qualname)
  · exact read hr.awaiting.orNone
  · exact read (.code hr.code)
  · refine read ?_
    rcases hr.frame.absent_or with ⟨h, h'⟩ | ⟨_, _, h, h', hf⟩ <;> rw [h, h']
    · exact Value.Like.none
    · exact Value.Like.frame hf
  · rw [hr.running]
    exact read (Value.Like.bool _)
  · exact .next (makeError _ _) fun _ _ _ he => .pure (.error he)

theorem assignName (hE : E.IsEchoedBy P F) (label : String) {v v' : Value} (hv : Like ρ v v')
    {set set' : Text → Effect L Unit} (hset : ∀ t t', Like ρ t t' → Echoes ρ (set t) (set' t')) :
    Echoes ρ (assignName E label v set) (CoroutineEngine.assignName F label v' set') := by
  have hbad := refuse (α := Unit) hE (.notAString label) hv.single
  cases hv with
  | str ht => exact .next (hset _ _ ht) fun _ _ _ _ => .pure (.ok rfl)
  | _ => exact hbad

theorem setName (hE : E.IsEchoedBy P F) {c c' : CoroutineId} (hc : Like ρ c c') {v v' : Value} (hv : Like ρ v v') :
    Echoes ρ (setName E c v) (CoroutineEngine.setName F c' v') :=
  assignName hE _ hv fun _ _ ht => modifyCoroutine hc fun _ _ hr => { hr with name := ht }

theorem setQualname (hE : E.IsEchoedBy P F) {c c' : CoroutineId} (hc : Like ρ c c') {v v' : Value} (hv : Like ρ v v') :
    Echoes ρ (setQualname E c v) (CoroutineEngine.setQualname F c' v') :=
  assignName hE _ hv fun _ _ ht => modifyCoroutine hc fun _ _ hr => { hr with qualname := ht }

theorem setAttribute (hE : E.IsEchoedBy P F) {c c' : CoroutineId} (hc : Like ρ c c') (name : String) {v v' : Value}
    (hv : Like ρ v v') : Echoes ρ (setAttribute E c name v) (CoroutineEngine.setAttribute F c' name v') := by
  unfold CoroutineEngine.setAttribute
  split
  · refine .bind hv (makeError _ _) fun ρ hv e e' he => ?_
    exact .bind he (owning (hE.release hv)) fun _ he _ _ _ => .pure (.error he)
  · split
    · exact setName hE hc hv
    · exact setQualname hE hc hv

theorem performWrite (hE : E.IsEchoedBy P F) {scope scope' : Scope} (hs : Like ρ scope scope') {on e : Expr}
    (h : on.isPrivate P.reach && e.isPrivate P.reach)
    {write write' : CoroutineId → Value → Effect L (Except Exception Unit)}
    (hwrite : ∀ ρ : Likeness P, ∀ c c', Like ρ c c' → ∀ v v', Like ρ v v' → Echoes ρ (write c v) (write' c' v')) :
    Echoes ρ (performWrite E scope on e write) (CoroutineEngine.performWrite F scope' on e write') := by
  refine onBoth hE hs h (fun _ _ _ _ _ _ hv => hv.asCoroutine?) fun ρ c c' hc v v' hv => ?_
  refine .next (hwrite ρ c c' hc v v' hv) fun ρ result result' hr => ?_
  cases hr with
  | ok => exact .pure .nothing
  | error he => exact .pure (.error he)

theorem performDowngrade (hE : E.IsEchoedBy P F) {scope scope' : Scope} (hs : Like ρ scope scope') {on : Expr}
    (hon : on.isPrivate P.reach) (weak : String) :
    Echoes ρ (performDowngrade E scope on weak) (CoroutineEngine.performDowngrade F scope' on weak) := by
  refine onOperand hE hs hon (fun _ _ _ _ _ _ hv => hv.asCoroutine?) fun ρ hs c c' hc => ?_
  refine .bind hc (.modify fun _ _ hw => hw.insertWeak weak hc) fun ρ hc _ _ _ => ?_
  exact .next (α := Hidden Bool) (gets fun _ _ _ => trivial) fun _ _ _ _ => .pure (.ok (.data _ _))

theorem performUpgrade {weak : String} (hweak : P.reach.weaks weak) :
    Echoes ρ (performUpgrade weak : Effect L Answered) (CoroutineEngine.performUpgrade weak) := by
  refine .next (gets fun _ _ hw => hw.weaks hweak) fun ρ found found' hf => ?_
  cases hf with
  | none => exact .pure .nothing
  | some hc =>
    refine .bind (α := Bool) hc (gets fun _ _ hw => hw.isAlive hc) ?_
    rintro ρ hc alive _ rfl
    split
    · exact .bind hc (retain (.coroutine hc)) fun _ hc _ _ _ => .pure (.ok (.value (.coroutine hc)))
    · exact .pure .nothing

theorem performIsAlive {weak : String} (hweak : P.reach.weaks weak) :
    Echoes ρ (performIsAlive weak : Effect L Answered) (CoroutineEngine.performIsAlive weak) := by
  refine .next (gets fun _ _ hw => hw.weaks hweak) fun ρ found found' hf => ?_
  cases hf with
  | none => exact .pure (.ok (.data _ _))
  | some hc => exact .next (α := Hidden Bool) (gets fun _ _ _ => trivial) fun _ _ _ _ => .pure (.ok (.data _ _))

/-! ### Objects -/

theorem performAttach (hE : E.IsEchoedBy P F) {scope scope' : Scope} (hs : Like ρ scope scope') {on e : Expr}
    (h : on.isPrivate P.reach && e.isPrivate P.reach) {attach : Exception → Exception → Effect L (Option Exception)}
    (hattach : ∀ ρ : Likeness P, ∀ e e', Like ρ e e' → ∀ x x', Like ρ x x' → Echoes ρ (attach e x) (attach e' x')) :
    Echoes ρ (performAttach E scope on e attach) (CoroutineEngine.performAttach F scope' on e attach) := by
  refine onBoth hE hs h (fun _ _ _ _ _ _ hv => hv.asException?) fun ρ e e' he v v' hv => ?_
  have hbad := badOperand (α := Given) hE hv.single
  cases hv with
  | exception hx =>
    refine .next (hattach ρ e e' he _ _ hx) fun ρ rejected rejected' hr => ?_
    exact .next (releaseException? hE hr) fun _ _ _ _ => .pure (.ok (.data _ _))
  | _ => exact hbad

theorem swapCell {c c' : CellId} (hc : Like ρ c c') {content content' : Option Value} (h : Like ρ content content') :
    Echoes ρ (swapCell c content : Effect L (Option Value)) (CoroutineEngine.swapCell c' content') :=
  .modifyGet fun _ _ hw =>
    have hr := hw.cell hc
    ⟨ρ, .refl ρ, hw.change (k := .cell) (by decide) hc { hr with content := h }, hr.content⟩

theorem moveFrame {f f' : Frame} (hf : Like ρ f f') (line : UInt32) :
    Echoes ρ (moveFrame f line : Effect L Unit) (CoroutineEngine.moveFrame f' line) :=
  .modify fun _ _ hw => hw.change (k := .frame) (by decide) hf.index rfl

theorem inputsRow {inputs inputs' : Inputs} (hi : Like ρ inputs inputs') (index : Nat) :
    Echoes (α := Hidden Datum) ρ (inputsRow inputs index : Effect L Datum) (CoroutineEngine.inputsRow inputs' index) := by
  have optionPicture {ρ : Likeness P} {v v' : Option Value} (hv : Like ρ v v') :
      Echoes (α := Hidden Datum) ρ (optionPicture v : Effect L Datum) (CoroutineEngine.optionPicture v') :=
    .next (α := Hidden Picture) (pictureOf hv.orNone) fun _ _ _ _ => .pure trivial
  refine .bind (α := Hidden Datum) hi (optionPicture (hi.parameters.getElem? index)) fun ρ hi _ _ _ => ?_
  have hcell : Like ρ (inputs.closure[index]?.map Value.cell) (inputs'.closure[index]?.map Value.cell) := by
    rcases (hi.closure.getElem? index).absent_or with ⟨h, h'⟩ | ⟨_, _, h, h', hc⟩ <;> rw [h, h']
    · exact .none
    · exact Like.some (α := Value) (.cell hc)
  exact .next (α := Hidden Datum) (optionPicture hcell) fun _ _ _ _ => .pure trivial

theorem performTryInputs (hE : E.IsEchoedBy P F) {scope scope' : Scope} (hs : Like ρ scope scope')
    {parameters closure : List Expr} (h : Expr.arePrivate P.reach parameters && Expr.arePrivate P.reach closure)
    (index : Nat) : Echoes ρ (performTryInputs E scope parameters closure index)
      (CoroutineEngine.performTryInputs F scope' parameters closure index) := by
  obtain ⟨hparameters, hclosure⟩ := Bool.and_eq_true_iff.mp h
  refine .bind hs (evaluateAll hE _ hparameters hs) fun ρ hs vs vs' hvs => ?_
  refine .bind hvs (evaluateAll hE _ hclosure hs) fun ρ hvs cells cells' hcells => ?_
  have hfound : Like ρ (cellsOf? cells) (cellsOf? cells') := hcells.cellsOf?
  unfold cellsOf? at hfound
  rcases hfound.absent_or with ⟨h, h'⟩ | ⟨ids, ids', h, h', hids⟩ <;> simp only [h, h']
  · exact badOperand hE (hvs.append hcells)
  · have full : Like ρ (Inputs.new vs ids) (Inputs.new vs' ids') := ⟨hvs, hids, rfl⟩
    refine .bind (α := Hidden Datum) full (inputsRow full index) fun ρ full _ _ _ => ?_
    refine .bind full (releaseAll hE full.parameters) fun ρ full _ _ _ => ?_
    have half : Like ρ (Inputs.new vs ids).releaseParameters.2 (Inputs.new vs' ids').releaseParameters.2 :=
      ⟨.nil, full.closure, rfl⟩
    refine .bind (α := Hidden Datum) half (inputsRow half index) fun ρ half _ _ _ => ?_
    refine .bind half (releaseAll hE half.closure.cells) fun ρ half _ _ _ => ?_
    have empty : Like ρ (Inputs.new vs ids).releaseParameters.2.releaseClosure.2
        (Inputs.new vs' ids').releaseParameters.2.releaseClosure.2 := ⟨.nil, .nil, rfl⟩
    refine .bind (α := Hidden Datum) empty (inputsRow empty index) fun ρ empty _ _ _ => ?_
    exact .next (releaseAll hE empty.parameters) fun _ _ _ _ => .pure (.ok (.data _ _))

/-- A class has its identity in it, so it is the same only where identities are. -/
theorem makeClass (hthread : P.reach.thread) (name : String) (base : ExceptionClass) :
    Echoes ρ (makeClass name base : Effect L ExceptionClass) (CoroutineEngine.makeClass name base) := by
  refine .next (α := Nat) (.modifyGet fun w w' hw => ⟨hw.next .identity, hw.grows_next _, ?_, (hw.thread hthread).1⟩) ?_
  · exact hw.put (by decide) (show Kind.LikeRecord (hw.next .identity) .identity () () from trivial)
  · rintro ρ serial _ rfl
    exact .pure rfl

/-! ### The thread -/

theorem pushFrame {code code' : Code} (hc : Like ρ code code') :
    Echoes ρ (pushFrame code : Effect L Frame) (CoroutineEngine.pushFrame code') := by
  refine .next (makeFrame hc) fun ρ frame frame' hf => ?_
  refine .bind (α := Hidden (Option Frame)) hf (withAmbient (α := Hidden (Option Frame)) fun _ _ ha => ⟨trivial, ha⟩)
    fun ρ hf top top' _ => ?_
  refine .bind (α := Hidden (Option Frame)) hf (swapBack hf top top') fun ρ hf _ _ _ => ?_
  exact .bind (α := Hidden (Option Frame)) hf (swapTop _ _) fun _ hf _ _ _ => .pure hf

theorem performInstallHook (hE : E.IsEchoedBy P F) (hthread : P.reach.thread) (mode : String) :
    Echoes ρ (performInstallHook E mode) (CoroutineEngine.performInstallHook F mode) := by
  have hhook : Like ρ (hookOf? L mode) (hookOf? L mode) := by
    unfold hookOf?
    split
    · exact .none
    · exact Like.some (α := Hook L) ⟨hthread, rfl, ⟨rfl, P.reaction hthread mode⟩, .nil⟩
  refine .next (swapHook hhook) fun ρ previous previous' hp => ?_
  have howned : Like ρ ((previous.map (·.owned)).getD []) ((previous'.map (·.owned)).getD []) := by
    cases hp with
    | none => exact .nil
    | some hh => exact hh.owned
  exact .next (releaseAll hE howned) fun _ _ _ _ => .pure (.ok (.data _ _))

/-! ### Fibers of clients -/

theorem storeFiber (name : String) (f : Option CountingFiber) :
    Echoes ρ (storeFiber name f : Effect L Unit) (CoroutineEngine.storeFiber name f) :=
  .modify fun w w' hw => { hw with
    thread := fun h => by
      obtain ⟨hserial, hfibers⟩ := hw.thread h
      cases f with
      | some f => exact ⟨hserial, congrArg (fun fibers => (Named.insert fibers name f).1) hfibers⟩
      | none => exact ⟨hserial, congrArg (fun fibers => (Named.remove fibers name).1) hfibers⟩ }

theorem releaseStack (name : String) (f : CountingFiber) :
    Echoes ρ (releaseStack name f : Effect L CountingFiber) (CoroutineEngine.releaseStack name f) := by
  unfold CoroutineEngine.releaseStack
  split
  · exact .pure rfl
  · refine .next (log _ _ _ _ _ _) fun ρ _ _ _ => ?_
    split
    · exact .next (emit _ _) fun _ _ _ _ => .pure rfl
    · exact .pure rfl

section

variable (hthread : P.reach.thread) (name : String)

include hthread

theorem fiberOf : Echoes ρ (.gets fun w : World L => w.fibers.lookup name) (.gets fun w => w.fibers.lookup name) := by
  refine gets fun w w' hw => ?_
  rw [(hw.thread hthread).2]
  cases w.fibers.lookup name with
  | none => exact .none
  | some f => exact Like.some (α := CountingFiber) rfl

theorem dropFiber : Echoes ρ (dropFiber name : Effect L Unit) (CoroutineEngine.dropFiber name) := by
  refine .next (fiberOf hthread name) fun ρ found found' hf => ?_
  cases hf with
  | none => exact .pure rfl
  | some hf =>
    cases hf
    exact .next (storeFiber name none) fun _ _ _ _ => .next (releaseStack name _) fun _ _ _ _ => .pure rfl

theorem performMakeFiber (spec : FiberSpec) :
    Echoes ρ (performMakeFiber name spec : Effect L Answered) (CoroutineEngine.performMakeFiber name spec) := by
  refine .next (dropFiber hthread name) fun ρ _ _ _ => .next (onPanic (mapStack _)) fun ρ error error' he => ?_
  cases he with
  | none => exact .next (storeFiber name _) fun _ _ _ _ => .pure (.ok (.data _ _))
  | some => exact .next (emit _ _) fun _ _ _ _ => .pure (.ok (.data _ _))

theorem performSwitch (input : Int64) :
    Echoes ρ (performSwitch name input : Effect L Answered) (CoroutineEngine.performSwitch name input) := by
  refine .next (fiberOf hthread name) fun ρ found found' hf => ?_
  cases hf with
  | none => exact .pure (.ok (.data _ _))
  | some hf =>
    cases hf
    dsimp only
    split
    · exact .pure (.ok (.data _ _))
    · exact .next (storeFiber name _) fun _ _ _ _ => .pure (.ok (.data _ _))
    · exact .next (emit _ _) fun _ _ _ _ => .next (storeFiber name _) fun _ _ _ _ => .pure (.ok (.data _ _))

theorem performReleaseFiber :
    Echoes ρ (performReleaseFiber name : Effect L Answered) (CoroutineEngine.performReleaseFiber name) := by
  refine .next (fiberOf hthread name) fun ρ found found' hf => ?_
  cases hf with
  | none => exact .pure (.ok (.data _ _))
  | some hf =>
    cases hf
    refine .next (releaseStack name _) ?_
    rintro ρ f _ rfl
    exact .next (storeFiber name _) fun _ _ _ _ => .pure (.ok (.data _ _))

theorem performInspectFiber :
    Echoes ρ (performInspectFiber name : Effect L Answered) (CoroutineEngine.performInspectFiber name) := by
  refine .next (fiberOf hthread name) fun ρ found found' hf => ?_
  cases hf with
  | none => exact .pure (.ok (.data _ _))
  | some hf => exact .pure (.ok (.data _ _))

end

/-! ### All operations -/

/-- What is private about a coroutine or the ambient state is done alike on both sides. -/
theorem perform (hE : E.IsEchoedBy P F) {scope scope' : Scope} (hs : Like ρ scope scope') {op : Operation L.Script}
    (h : op.IsPrivate P.reach fun p => P.safe (L.start p)) :
    Echoes ρ (CoroutineEngine.perform E scope op) (CoroutineEngine.perform F scope' op) := by
  have driven (ρ : Likeness P) (w w' : World L) (hw : w.Mirrors ρ w') (v v' : Value) (hv : Like ρ v v') :
      Like ρ (w.driven? v) (w'.driven? v') := hw.driven? hv
  have wrapped (ρ : Likeness P) (w w' : World L) (hw : w.Mirrors ρ w') (v v' : Value) (hv : Like ρ v v') :
      Like ρ (w.wrapped? v) (w'.wrapped? v') := hw.wrapped? hv
  have answered {ρ : Likeness P} {x x' : Effect L Reply} (hx : Echoes ρ x x') : Echoes ρ (do
      return Answered.ofReply (← x)) (do
      return Answered.ofReply (← x')) := .next hx fun _ _ _ hr => .pure hr.ofReply
  cases op with
  | makeCoroutine spec => exact buildCoroutine hE hs h
  | send on value =>
    obtain ⟨hon, hvalue⟩ := Bool.and_eq_true_iff.mp h
    refine onOperand hE hs hon driven fun ρ hs c c' hc => ?_
    exact .bind hc (evaluate hE value hvalue hs) fun ρ hc v v' hv => answered (send hE hc hv)
  | throw on triple =>
    obtain ⟨hon, htriple⟩ := Bool.and_eq_true_iff.mp h
    refine onOperand hE hs hon driven fun ρ hs c c' hc => ?_
    exact operands hE hs htriple hc fun ρ hc _ _ _ _ _ _ hk hv ht => answered (throw hE hc hk hv ht)
  | throwException on value =>
    obtain ⟨hon, hvalue⟩ := Bool.and_eq_true_iff.mp h
    refine onOperand hE hs hon driven fun ρ hs c c' hc => ?_
    refine .bind hc (evaluate hE value hvalue hs) fun ρ hc v v' hv => ?_
    have hbad := badOperand (α := Given) hE hv.single
    cases hv with
    | exception he => exact answered (throwException hE hc he)
    | _ => exact hbad
  | close on => exact onOperand hE hs h driven fun ρ hs c c' hc => answered (close hE hc)
  | step on => exact onOperand hE hs h wrapped fun ρ hs c c' hc => answered (send hE hc Value.Like.none)
  | wrap on =>
    refine onOperand hE hs h (fun _ _ _ _ _ _ hv => hv.asCoroutine?) fun ρ hs c c' hc => ?_
    refine .bind hc (retain (.coroutine hc)) fun ρ hc _ _ _ => ?_
    exact .next (makeWrapper hc) fun _ _ _ hx => .pure (.ok (.value (.wrapper hx)))
  | evaluate e => exact .next (evaluate hE e h hs) fun _ _ _ hv => .pure (.ok (.value hv))
  | setError e =>
    refine .next (evaluate hE e h hs) fun ρ v v' hv => ?_
    have hbad := badOperand (α := Given) hE hv.single
    cases hv with
    | exception he =>
      refine .next (pendingOf he) fun _ _ _ hp => .next (swapError hp.some) fun _ _ _ hp => ?_
      exact .next (releasePending? hE hp) fun _ _ _ _ => .pure .nothing
    | _ => exact hbad
  | fetchError =>
    refine .next fetchError fun ρ error error' he => ?_
    cases he with
    | none => exact .pure .nothing
    | some hp => exact .next (instantiate hp) fun _ _ _ he => .pure (.ok (.value (.exception he)))
  | currentError =>
    refine .next errorOccurred fun ρ occurred occurred' _ => .next currentError fun ρ error error' he => ?_
    cases he with
    | none => exact .pure (.ok (.data _ _))
    | some hp =>
      refine .bind (α := Hidden Datum) hp (inspected fun w w' hw d hd => hw.pendingData hp hd) fun ρ hp _ _ _ => ?_
      exact .next (releasePending? hE hp.some) fun _ _ _ _ => .pure (.ok (.data _ _))
  | restoreError triple =>
    refine .next (operands hE hs h (show Like ρ () () from rfl) fun ρ _ _ _ _ _ _ _ hk hv ht => tripleOfValues hE hk hv ht)
      fun ρ result result' hr => ?_
    cases hr with
    | error he => exact .pure (.error he)
    | ok hp =>
      refine .next (swapError hp) fun _ _ _ hp => ?_
      exact .next (releasePending? hE hp) fun _ _ _ _ => .pure .nothing
  | setHandled e =>
    refine .next (evaluate hE e h hs) fun ρ v v' hv => ?_
    rcases hv.asHandled?.absent_or with ⟨h, h'⟩ | ⟨_, _, h, h', he⟩ <;> simp only [h, h']
    · exact badOperand hE hv.single
    · exact .next (swapHandled he) fun _ _ _ he => .pure he.answeredException
  | enterHandler e =>
    refine .next (evaluate hE e h hs) fun ρ v v' hv => ?_
    have hbad := badOperand (α := Given) hE hv.single
    cases hv with
    | exception he => exact .next (swapHandled (.some he)) fun _ _ _ he => .pure he.answeredException
    | _ => exact hbad
  | leaveHandler e =>
    refine .next (evaluate hE e h hs) fun ρ v v' hv => ?_
    rcases hv.asHandled?.absent_or with ⟨h, h'⟩ | ⟨_, _, h, h', he⟩ <;> simp only [h, h']
    · exact badOperand hE hv.single
    · refine .next (swapHandled he) fun _ _ _ he => ?_
      exact .next (releaseException? hE he) fun _ _ _ _ => .pure .nothing
  | makeCode spec => exact .next (makeCode ⟨rfl, h⟩) fun _ _ _ hc => .pure (.ok (.value (.code hc)))
  | iterate on steps =>
    refine onOperand hE hs h wrapped fun ρ hs c c' hc => ?_
    exact .next (α := Hidden (List Datum)) (elements hE hc steps) fun _ _ _ _ => .pure (.ok (.data _ _))
  | getAttribute on name =>
    exact onOperand hE hs h (fun _ _ _ _ _ _ hv => hv.asCoroutine?) fun ρ hs c c' hc => answered (getAttribute hc name)
  | setAttribute on name value => exact performWrite hE hs h fun ρ c c' hc v v' hv => setAttribute hE hc name hv
  | setName on value => exact performWrite hE hs h fun ρ c c' hc v v' hv => setName hE hc hv
  | setQualname on value => exact performWrite hE hs h fun ρ c c' hc v v' hv => setQualname hE hc hv
  | downgrade on weak => exact performDowngrade hE hs (Bool.and_eq_true_iff.mp h).1 weak
  | upgrade weak => exact performUpgrade h
  | isAlive weak => exact performIsAlive h
  | setSlot slot value =>
    obtain ⟨hslot, hvalue⟩ := Bool.and_eq_true_iff.mp h
    exact .next (evaluate hE value hvalue hs) fun _ _ _ hv => .next (storeSlot hE hslot hv) fun _ _ _ _ => .pure .nothing
  | dropSlot slot =>
    refine .next (removeSlot h) fun ρ found found' hf => ?_
    refine .bind hf (releaseOption hE hf) fun ρ hf _ _ _ => ?_
    rw [hf.isSome]
    exact .pure (.ok (.value (Value.Like.bool _)))
  | say value =>
    refine .next (evaluate hE value h hs) fun ρ v v' hv => ?_
    refine .bind (α := Hidden Picture) hv (pictureOf hv) fun ρ hv _ _ _ => .bind hv (emit _ _) fun ρ hv _ _ _ => ?_
    exact .next (hE.release hv) fun _ _ _ _ => .pure .nothing
  | describe value =>
    refine .next (evaluate hE value h hs) fun ρ v v' hv => ?_
    refine .bind (α := Hidden Datum) hv (inspected fun w w' hw d hd => hw.describe hv hd) fun ρ hv _ _ _ => ?_
    exact .next (hE.release hv) fun _ _ _ _ => .pure (.ok (.data _ _))
  | compare a b =>
    obtain ⟨ha, hb⟩ := Bool.and_eq_true_iff.mp h
    refine .bind hs (evaluate hE a ha hs) fun ρ hs x x' hx => .bind hx (evaluate hE b hb hs) fun ρ hx y y' hy => ?_
    exact .next (releaseAll hE (hx.double hy)) fun _ _ _ _ => .pure (.ok (.data _ _))
  | defineClass name base =>
    obtain ⟨hthread, hbase⟩ := Bool.and_eq_true_iff.mp h
    refine .next (evaluate hE base hbase hs) fun ρ v v' hv => ?_
    have hbad := badOperand (α := Given) hE hv.single
    cases hv with
    | exceptionClass cls =>
      refine .next (makeClass hthread name cls) ?_
      rintro ρ made _ rfl
      exact .pure (.ok (.value (Value.Like.exceptionClass _)))
    | _ => exact hbad
  | compareClasses a b =>
    obtain ⟨ha, hb⟩ := Bool.and_eq_true_iff.mp h
    refine .bind hs (evaluate hE a ha hs) fun ρ hs x x' hx => .bind hx (evaluate hE b hb hs) fun ρ hx y y' hy => ?_
    have hbad := badOperand (α := Given) hE (hx.double hy)
    cases hx <;> cases hy <;> first
      | exact .pure (.ok (.data _ _))
      | exact hbad
  | setCause on value => exact performAttach hE hs h fun ρ e e' he x x' hx => attachCause he hx
  | setContext on value => exact performAttach hE hs h fun ρ e e' he x x' hx => attachContext he hx
  | setTraceback on value =>
    refine onBoth hE hs h (fun _ _ _ _ _ _ hv => hv.asException?) fun ρ e e' he v v' hv => ?_
    have ht := hv.asOptional? fun _ _ h => h.asTraceback?
    rcases ht.absent_or with ⟨h, h'⟩ | ⟨_, _, h, h', ht⟩ <;> simp only [h, h']
    · exact badOperand hE hv.single
    · exact .next (setTraceback he ht) fun _ _ _ _ => .pure .nothing
  | pushTraceback on value =>
    refine onBoth hE hs h (fun _ _ _ _ _ _ hv => hv.asException?) fun ρ e e' he v v' hv => ?_
    have hbad := badOperand (α := Given) hE hv.single
    cases hv with
    | frame hf => exact .next (pushTraceback he hf) fun _ _ _ _ => .pure .nothing
    | _ => exact hbad
  | setCell on value =>
    refine onBoth hE hs h (fun _ _ _ _ _ _ hv => hv.asCell?) fun ρ c c' hc v v' hv => ?_
    exact .next (swapCell hc hv.some) fun _ _ _ hv => .pure (.ok (.value hv.orNone))
  | clearCell on =>
    refine onOperand hE hs h (fun _ _ _ _ _ _ hv => hv.asCell?) fun ρ hs c c' hc => ?_
    exact .next (swapCell hc .none) fun _ _ _ hv => .pure (.ok (.value hv.orNone))
  | sameCell on value =>
    refine onBoth hE hs h (fun _ _ _ _ _ _ hv => hv.asCell?) fun ρ c c' hc v v' hv => ?_
    have hbad := badOperand (α := Given) hE hv.single
    cases hv with
    | cell hd => exact .next (hE.release (.cell hd)) fun _ _ _ _ => .pure (.ok (.data _ _))
    | _ => exact hbad
  | makeFrame code =>
    refine .next (codeOf hE hs h) fun ρ result result' hr => ?_
    cases hr with
    | error he => exact .pure (.error he)
    | ok hc => exact .next (makeFrame hc) fun _ _ _ hf => .pure (.ok (.value (.frame hf)))
  | setFrameLine on value =>
    refine onBoth hE hs h (fun _ _ _ _ _ _ hv => hv.asFrame?) fun ρ f f' hf v v' hv => ?_
    rw [Value.Like.asInt? hv]
    split
    · exact .next (moveFrame hf _) fun _ _ _ _ => .pure .nothing
    · exact badOperand hE hv.single
  | normalize triple => exact performNormalize hE hs h
  | makePending triple => exact performMakePending hE hs h
  | makeTransfer triple => exact performMakeTransfer hE hs h
  | tryInputs parameters closure index => exact performTryInputs hE hs h index
  | pushFrame code =>
    refine .next (codeOf hE hs h) fun ρ result result' hr => ?_
    cases hr with
    | error he => exact .pure (.error he)
    | ok hc => exact .next (pushFrame hc) fun _ _ _ hf => .pure (.ok (.value (.frame hf)))
  | writeUnraisable object value =>
    refine .next (evaluate hE value h hs) fun ρ v v' hv => ?_
    have hbad := badOperand (α := Given) hE hv.single
    cases hv with
    | exception he => exact .next (writeUnraisable hE object he) fun _ _ _ _ => .pure .nothing
    | _ => exact hbad
  | installHook mode => exact performInstallHook hE h mode
  | track id =>
    exact .next (trackObject _ _ _ _) fun _ _ _ _ => .next (α := Hidden Nat) (gets fun _ _ _ => trivial) fun _ _ _ _ =>
      .pure (.ok (.data _ _))
  | untrack id =>
    exact .next (α := Hidden Bool) (untrackObject _ _) fun _ _ _ _ =>
      .next (α := Hidden Nat) (gets fun _ _ _ => trivial) fun _ _ _ _ => .pure (.ok (.data _ _))
  | isTracked id => exact .next (α := Hidden Bool) (gets fun _ _ _ => trivial) fun _ _ _ _ => .pure (.ok (.data _ _))
  | registryStats => exact .next (α := Hidden Datum) (gets fun _ _ _ => trivial) fun _ _ _ _ => .pure (.ok (.data _ _))
  | activate stackSize reportChildren =>
    refine .next (.modify fun w w' hw => ?_) fun _ _ _ _ => .pure .nothing
    refine { hw with climate := ?_, steady := fun hunsteady => absurd (h.symm.trans hunsteady) nofun }
    show ((⟨_, _⟩ : Settings), w'.logLevel) = (⟨_, _⟩, w.logLevel)
    rw [hw.settings, hw.logLevel]
  | makeFiber name spec => exact performMakeFiber h name spec
  | switchFiber name value => exact performSwitch h name value
  | releaseFiber name => exact performReleaseFiber h name
  | inspectFiber name => exact performInspectFiber h name
  | setLine line =>
    show Echoes ρ (performSetLine scope line) (performSetLine scope' line)
    unfold performSetLine
    rcases hs.context.absent_or with ⟨hk, hk'⟩ | ⟨k, k', hk, hk', hkk⟩ <;> rw [hk, hk']
    · exact .pure .nothing
    · exact .next (moveFrame hkk.frame line) fun _ _ _ _ => .pure .nothing
  | handleCount | inspect | setFrameBack | popFrame | setTopFrame | listFrames => exact h.elim

end Echoes

end CoroutineEngine
