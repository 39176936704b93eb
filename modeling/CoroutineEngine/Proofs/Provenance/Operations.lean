import CoroutineEngine.Proofs.Provenance.Clients

/-!
# Operations forge nothing

Every operation of a client is answered with a genuine value, with data, or with a genuine exception.

Result:
* `Honest.perform`: operations are honest.
-/

namespace CoroutineEngine

variable {L : Language} {ι : Inventory}

/-! ## Operands -/

theorem Answered.genuine_ofReply {r : Reply} (hr : Genuine ι r) : Genuine ι (Answered.ofReply r) := by
  cases r <;> exact hr

theorem Answered.genuine_ofUnit {r : Except Exception Unit} (hr : Genuine ι r) : Genuine ι (Answered.ofUnit r) := by
  cases r with
  | ok => trivial
  | error e => exact hr

theorem genuine_asException {v : Value} (hv : Genuine ι v) : Genuine ι v.asException? := by
  cases v with
  | exception e => exact genuine_some.mpr hv
  | _ => exact genuine_none

theorem genuine_asFrame {v : Value} (hv : Genuine ι v) : Genuine ι v.asFrame? := by
  cases v with
  | frame f => exact genuine_some.mpr hv
  | _ => exact genuine_none

/-- What a value stands for that may be the empty one. -/
theorem genuine_asOptional {α : Type} [Certified α] {as? : Value → Option α} {v : Value}
    (h : Genuine ι (as? v)) {a : Option α} (ha : v.asOptional? as? = some a) : Genuine ι a := by
  unfold Value.asOptional? at ha
  split at ha
  · cases ha
    exact genuine_none
  · obtain ⟨b, hb, rfl⟩ := Option.map_eq_some_iff.mp ha
    exact genuine_some.mpr (h b hb)

namespace Honest

variable {α : Type} [Certified α] {E : Engine L} (hE : E.IsHonest) {scope : Scope} (hs : Genuine ι scope)

section

omit [Certified α]

theorem pictureOf (v : Value) : Honest ι (CoroutineEngine.pictureOf v : Effect L Picture) := by
  refine rendering fun w => ?_
  unfold CoroutineEngine.pictureOf
  split <;> rfl

theorem inspected (data : World L → Option Datum) : Honest ι (CoroutineEngine.inspected data) := by
  refine rendering fun w => ?_
  unfold CoroutineEngine.inspected
  split <;> rfl

end

include hE

theorem badOperand {vs : List Value} (hvs : Genuine ι vs) :
    Honest ι (CoroutineEngine.badOperand E vs : Effect L (Except Exception α)) := by
  refine .bind hvs (makeError _ _) fun ι hvs e he => ?_
  exact .bind he (owningException hE he (releaseAll hE hvs)) fun _ he _ _ => .pure he

include hs

theorem onOperand (operand : Expr) {as? : World L → Value → Option α} {f : α → Effect L Answered}
    (has : ∀ {ι : Inventory} {w : World L} {v : Value}, Genuine ι v → Genuine ι (as? w v))
    (hf : ∀ {ι : Inventory} {a : α}, Genuine ι scope → Genuine ι a → Honest ι (f a)) :
    Honest ι (CoroutineEngine.onOperand E scope operand as? f) := by
  refine .bind hs (evaluate hE operand hs) fun ι hs v hv => ?_
  refine .bind (hs.and hv) (gets fun w _ => has hv) fun ι h a ha => ?_
  cases a with
  | none => exact badOperand hE h.2.single
  | some a => exact holding hE h.2 (hf h.1 (genuine_some.mp ha))

theorem onPlain {α : Type} [Plain α] (operand : Expr) {as? : World L → Value → Option α}
    {f : α → Effect L Answered} (hf : ∀ {ι : Inventory} {a : α}, Genuine ι scope → Honest ι (f a)) :
    Honest ι (CoroutineEngine.onOperand E scope operand as? f) :=
  onOperand hE hs operand (fun _ _ _ => trivial) fun hs _ => hf hs

theorem codeOf (source : CodeSource L.Script) : Honest ι (CoroutineEngine.codeOf E scope source) := by
  cases source with
  | spec spec => exact .next (makeCode spec) fun _ _ hc => .pure hc
  | value e =>
    refine .next (evaluate hE e hs) fun ι v hv => ?_
    cases v with
    | code c => exact .pure hv
    | _ => exact badOperand hE hv.single

/-! ## Operations on coroutines -/

omit hE hs in
theorem makeText? (s : Option String) : Honest ι (CoroutineEngine.makeText? s : Effect L (Option Text)) := by
  cases s with
  | none => exact .pure genuine_none
  | some s => exact .next (makeText s) fun _ _ ht => .pure (genuine_some.mpr ht)

omit hE hs in
theorem makeCoroutine {b : Blueprint} (hcode : Genuine ι b.code) (hname : Genuine ι b.name)
    (hqualname : Genuine ι b.qualname) (hparameters : Genuine ι b.parameters) :
    Honest ι (CoroutineEngine.makeCoroutine b : Effect L CoroutineId) := by
  have hrecord (settings : Settings) : Genuine ι (b.record settings : CoroutineRecord L) := by
    constructor
    · show Genuine ι (b.name.getD b.code.name)
      cases h : b.name with
      | none => exact hcode.1
      | some name => exact hname name h
    · show Genuine ι (b.qualname.getD b.code.qualname)
      cases h : b.qualname with
      | none => exact hcode.2
      | some qualname => exact hqualname qualname h
    · exact hcode
    · exact genuine_none
    · exact genuine_none
    · exact genuine_none
    · exact genuine_none
    · exact genuine_none
    · exact hparameters
  refine .next (.modifyGet fun w hw => ⟨ι, .refl ι, ?_, trivial⟩) fun ι c _ => ?_
  · exact { hw with coroutines :=
      Table.forall_push (P := fun _ r => Genuine ι r) hw.coroutines (hrecord w.settings) }
  · exact .next (trackObject _ _) fun _ _ _ => .next (logCoroutine _ _ _ _) fun _ _ _ => .pure trivial

omit hE hs in
theorem makeWrapper (c : CoroutineId) : Honest ι (CoroutineEngine.makeWrapper c : Effect L WrapperId) :=
  .next (.modifyGet fun _ hw => ⟨ι, .refl ι, { hw with }, trivial⟩) fun _ _ _ =>
    .next (trackObject _ _) fun _ _ _ => .pure trivial

theorem buildCoroutine (spec : CoroutineSpec L.Script) :
    Honest ι (CoroutineEngine.buildCoroutine E scope spec) := by
  refine .bind hs (codeOf hE hs spec.code) fun ι hs result hc => ?_
  cases result with
  | error e => exact .pure hc
  | ok code =>
    have hc : Genuine ι code := hc
    refine .bind (hs.and hc) (evaluateAll hE spec.parameters hs) fun ι h parameters hp => ?_
    refine .bind (h.2.and hp) (evaluateAll hE spec.closure h.1) fun ι h cells hcells => ?_
    cases cellsOf? cells with
    | none => exact badOperand hE (genuine_append.mpr ⟨h.2, hcells⟩)
    | some closure =>
      refine .bind h (makeText? spec.name) fun ι h name hname => ?_
      refine .bind (h.and hname) (makeText? spec.qualname) fun ι h qualname hqualname => ?_
      exact .next (makeCoroutine h.1.1 h.2 hqualname h.1.2) fun _ _ _ => .pure trivial

theorem wrapCoroutine (on : Expr) : Honest ι (CoroutineEngine.wrapCoroutine E scope on) :=
  onPlain hE hs on fun _ => .next (retain _) fun _ _ _ => .next (makeWrapper _) fun _ _ _ => .pure trivial

theorem performSend (on value : Expr) : Honest ι (CoroutineEngine.performSend E scope on value) :=
  onPlain hE hs on fun hs => .next (evaluate hE value hs) fun _ _ hv =>
    .next (send hE _ hv) fun _ _ hr => .pure (Answered.genuine_ofReply hr)

theorem performThrow (on : Expr) (triple : TripleSpec) :
    Honest ι (CoroutineEngine.performThrow E scope on triple) := by
  refine onPlain hE hs on fun hs => .bind hs (evaluate hE triple.kind hs) fun ι hs kind hk => ?_
  refine .bind (hs.and hk) (evaluate hE triple.value hs) fun ι h value hv => ?_
  refine .bind (h.2.and hv) (evaluate hE triple.traceback h.1) fun ι h traceback ht => ?_
  exact .next (throw hE _ h.1 h.2 ht) fun _ _ hr => .pure (Answered.genuine_ofReply hr)

theorem performThrowException (on value : Expr) :
    Honest ι (CoroutineEngine.performThrowException E scope on value) := by
  refine onPlain hE hs on fun hs => .next (evaluate hE value hs) fun ι v hv => ?_
  cases v with
  | exception e => exact .next (throwException hE _ hv) fun _ _ hr => .pure (Answered.genuine_ofReply hr)
  | _ => exact badOperand hE hv.single

theorem performClose (on : Expr) : Honest ι (CoroutineEngine.performClose E scope on) :=
  onPlain hE hs on fun _ => .next (close hE _) fun _ _ hr => .pure (Answered.genuine_ofReply hr)

theorem performStep (on : Expr) : Honest ι (CoroutineEngine.performStep E scope on) :=
  onPlain hE hs on fun _ => .next (send hE _ (v := .none) trivial) fun _ _ hr =>
    .pure (Answered.genuine_ofReply hr)

omit hs in
theorem nextElement (c : CoroutineId) : Honest ι (CoroutineEngine.nextElement E c) := by
  refine .next (send hE c (v := .none) trivial) fun ι reply hr => ?_
  cases reply with
  | ok v => exact .pure (genuine_some.mpr hr)
  | error e =>
    dsimp only
    split
    · exact .next (releaseException hE hr) fun _ _ _ => .pure genuine_none
    · exact .pure (genuine_some.mpr hr)

omit hs in
theorem elementData {reply : Option Reply} (hr : Genuine ι reply) :
    Honest ι (CoroutineEngine.elementData E reply) := by
  cases reply with
  | none => exact .pure trivial
  | some reply =>
    refine .bind (genuine_some.mp hr) (pictureOf _) fun ι hr p _ => .next (releaseReply hE hr) fun ι _ _ => ?_
    cases reply <;> exact .pure trivial

omit hs in
theorem elements (c : CoroutineId) (n : Nat) : Honest ι (CoroutineEngine.elements E c n) := by
  induction n generalizing ι with
  | zero => exact .pure genuine_nil
  | succ n ih =>
    refine .next (nextElement hE c) fun ι reply hr => .next (elementData hE hr) fun ι d _ => ?_
    exact .next ih fun _ _ _ => .pure fun _ _ => trivial

theorem performIterate (on : Expr) (steps : Nat) : Honest ι (CoroutineEngine.performIterate E scope on steps) :=
  onPlain hE hs on fun _ => .next (elements hE _ steps) fun _ _ _ => .pure trivial

theorem performGet (on : Expr) (name : String) : Honest ι (CoroutineEngine.performGet E scope on name) :=
  onPlain hE hs on fun _ => .next (getAttribute _ name) fun _ _ hr => .pure (Answered.genuine_ofReply hr)

theorem performWrite (on value : Expr) {write : CoroutineId → Value → Effect L (Except Exception Unit)}
    (hw : ∀ {ι : Inventory} (c : CoroutineId) {v : Value}, Genuine ι v → Honest ι (write c v)) :
    Honest ι (CoroutineEngine.performWrite E scope on value write) :=
  onPlain hE hs on fun hs => .next (evaluate hE value hs) fun _ _ hv =>
    .next (hw _ hv) fun _ _ hr => .pure (Answered.genuine_ofUnit hr)

theorem performDowngrade (on : Expr) (weak : String) :
    Honest ι (CoroutineEngine.performDowngrade E scope on weak) :=
  onPlain hE hs on fun _ => .next (.modify fun _ hw => { hw with }) fun _ _ _ =>
    .next (gets (α := Bool) fun _ _ => trivial) fun _ _ _ => .pure trivial

omit hE hs

theorem performUpgrade (weak : String) : Honest ι (CoroutineEngine.performUpgrade weak : Effect L Answered) := by
  refine .next (gets (α := Option CoroutineId) fun _ _ _ _ => trivial) fun ι c _ => ?_
  cases c with
  | none => exact .pure trivial
  | some c =>
    refine .next (gets (α := Bool) fun _ _ => trivial) fun ι alive _ => ?_
    split
    · exact .next (retain _) fun _ _ _ => .pure trivial
    · exact .pure trivial

theorem performIsAlive (weak : String) : Honest ι (CoroutineEngine.performIsAlive weak : Effect L Answered) := by
  refine .next (gets (α := Option CoroutineId) fun _ _ _ _ => trivial) fun ι c _ => ?_
  cases c with
  | none => exact .pure trivial
  | some c => exact .next (gets (α := Bool) fun _ _ => trivial) fun _ _ _ => .pure trivial

theorem handleCount (slot : String) : Honest ι (CoroutineEngine.handleCount slot : Effect L Answered) :=
  next (gets (α := Datum) fun _ _ => trivial) fun _ _ _ => .pure trivial

/-! ## Operations on slots and values -/

omit [Certified α] in
theorem genuine_insert {slots : Named Value} (h : Genuine ι slots) (name : String) {v : Value} (hv : Genuine ι v) :
    Genuine ι (slots.insert name v) := by
  have hentry : Genuine ι (name, v) := ⟨trivial, hv⟩
  induction slots with
  | nil => exact ⟨hentry.single, genuine_none⟩
  | cons entry rest ih =>
    obtain ⟨hold, hrest⟩ := genuine_cons.mp h
    obtain ⟨hrest', hprevious⟩ := ih hrest
    unfold Named.insert
    split
    · exact ⟨genuine_cons.mpr ⟨⟨trivial, hv⟩, hrest⟩, genuine_some.mpr hold.2⟩
    · split
      · exact ⟨genuine_cons.mpr ⟨hentry, h⟩, genuine_none⟩
      · exact ⟨genuine_cons.mpr ⟨hold, hrest'⟩, hprevious⟩

omit [Certified α] in
theorem genuine_remove {slots : Named Value} (h : Genuine ι slots) (name : String) :
    Genuine ι (slots.remove name) := by
  induction slots with
  | nil => exact ⟨genuine_nil, genuine_none⟩
  | cons entry rest ih =>
    obtain ⟨hold, hrest⟩ := genuine_cons.mp h
    obtain ⟨hrest', hfound⟩ := ih hrest
    unfold Named.remove
    split
    · exact ⟨hrest, genuine_some.mpr hold.2⟩
    · exact ⟨genuine_cons.mpr ⟨hold, hrest'⟩, hfound⟩

include hE

theorem storeSlot (slot : String) {v : Value} (hv : Genuine ι v) :
    Honest ι (CoroutineEngine.storeSlot E slot v) := by
  refine .next (.modifyGet fun w hw => ?_) fun ι previous hp => releaseOption hE hp
  have h := genuine_insert hw.slots slot hv
  exact ⟨ι, .refl ι, { hw with slots := h.1 }, h.2⟩

theorem performDropSlot (slot : String) : Honest ι (CoroutineEngine.performDropSlot E slot) := by
  refine .next (.modifyGet fun w hw => ?_) fun ι found hf => ?_
  · have h := genuine_remove hw.slots slot
    exact ⟨ι, .refl ι, { hw with slots := h.1 }, h.2⟩
  · exact .next (releaseOption hE hf) fun _ _ _ => .pure trivial

include hs

theorem performSetSlot (slot : String) (value : Expr) :
    Honest ι (CoroutineEngine.performSetSlot E scope slot value) :=
  .next (evaluate hE value hs) fun _ _ hv => .next (storeSlot hE slot hv) fun _ _ _ => .pure trivial

theorem performSay (value : Expr) : Honest ι (CoroutineEngine.performSay E scope value) := by
  refine .next (evaluate hE value hs) fun ι v hv => .bind hv (pictureOf v) fun ι hv p _ => ?_
  exact .bind hv (emit _) fun _ hv _ _ => .next (hE.release hv) fun _ _ _ => .pure trivial

theorem performRead (value : Expr) (read : World L → Value → Option Datum) :
    Honest ι (CoroutineEngine.performRead E scope value read) := by
  refine .next (evaluate hE value hs) fun ι v hv => .bind hv (inspected _) fun ι hv data _ => ?_
  exact .next (hE.release hv) fun _ _ _ => .pure trivial

theorem performCompare (a b : Expr) : Honest ι (CoroutineEngine.performCompare E scope a b) := by
  refine .bind hs (evaluate hE a hs) fun ι hs x hx => .bind hx (evaluate hE b hs) fun ι hx y hy => ?_
  exact .next (releaseAll hE (hx.double hy)) fun _ _ _ => .pure trivial

theorem performDefineClass (name : String) (base : Expr) :
    Honest ι (CoroutineEngine.performDefineClass E scope name base) := by
  refine .next (evaluate hE base hs) fun ι v hv => ?_
  cases v with
  | exceptionClass base => exact .next (makeClass _ _) fun _ _ _ => .pure trivial
  | _ => exact badOperand hE hv.single

theorem performCompareClasses (a b : Expr) : Honest ι (CoroutineEngine.performCompareClasses E scope a b) := by
  refine .bind hs (evaluate hE a hs) fun ι hs x hx => .bind hx (evaluate hE b hs) fun ι hx y hy => ?_
  split
  · exact .pure trivial
  · exact badOperand hE (hx.double hy)

/-! ## Operations on objects -/

/-- Operations on exceptions and frames, which are genuine themselves. -/
theorem onException (operand : Expr) {f : Exception → Effect L Answered}
    (hf : ∀ {ι : Inventory} {e : Exception}, Genuine ι scope → Genuine ι e → Honest ι (f e)) :
    Honest ι (CoroutineEngine.onOperand E scope operand (fun _ => Value.asException?) f) :=
  onOperand hE hs operand (fun hv => genuine_asException hv) hf

theorem performAttach (on value : Expr) {attach : Exception → Exception → Effect L (Option Exception)}
    (ha : ∀ {ι : Inventory} (e : Exception) {other : Exception}, Genuine ι other → Honest ι (attach e other)) :
    Honest ι (CoroutineEngine.performAttach E scope on value attach) := by
  refine onException hE hs on fun hs _ => .next (evaluate hE value hs) fun ι v hv => ?_
  cases v with
  | exception other =>
    refine .next (ha _ hv) fun ι rejected hr => ?_
    exact .next (releaseException? hE hr) fun _ _ _ => .pure trivial
  | _ => exact badOperand hE hv.single

theorem performSetTraceback (on value : Expr) :
    Honest ι (CoroutineEngine.performSetTraceback E scope on value) := by
  refine onException hE hs on fun hs _ => .next (evaluate hE value hs) fun ι v hv => ?_
  split
  · exact .next (setTraceback _ _) fun _ _ _ => .pure trivial
  · exact badOperand hE hv.single

theorem performPushTraceback (on value : Expr) :
    Honest ι (CoroutineEngine.performPushTraceback E scope on value) := by
  refine onException hE hs on fun hs _ => .next (evaluate hE value hs) fun ι v hv => ?_
  cases v with
  | frame f => exact .next (pushTraceback _ _) fun _ _ _ => .pure trivial
  | _ => exact badOperand hE hv.single

omit hE hs in
theorem swapCell (c : CellId) {content : Option Value} (hc : Genuine ι content) :
    Honest ι (CoroutineEngine.swapCell c content : Effect L (Option Value)) :=
  .modifyGet fun _ hw => ⟨ι, .refl ι, hw.modifyCell c fun _ _ => hc, hw.contents c.index⟩

theorem performSetCell (on value : Expr) : Honest ι (CoroutineEngine.performSetCell E scope on value) := by
  refine onPlain hE hs on fun hs => .next (evaluate hE value hs) fun ι v hv => ?_
  exact .next (swapCell _ (genuine_some.mpr hv)) fun _ _ hc => .pure (genuine_getD hc)

theorem performClearCell (on : Expr) : Honest ι (CoroutineEngine.performClearCell E scope on) :=
  onPlain hE hs on fun _ => .next (swapCell _ genuine_none) fun _ _ hc => .pure (genuine_getD hc)

theorem performSameCell (on value : Expr) : Honest ι (CoroutineEngine.performSameCell E scope on value) := by
  refine onPlain hE hs on fun hs => .next (evaluate hE value hs) fun ι v hv => ?_
  cases v with
  | cell other => exact .next (hE.release hv) fun _ _ _ => .pure trivial
  | _ => exact badOperand hE hv.single

theorem performMakeFrame (code : CodeSource L.Script) :
    Honest ι (CoroutineEngine.performMakeFrame E scope code) := by
  refine .next (codeOf hE hs code) fun ι result hc => ?_
  cases result with
  | error e => exact .pure hc
  | ok code => exact .next (makeFrame hc) fun _ _ hf => .pure hf

omit hE hs in
theorem moveFrame (f : Frame) (line : UInt32) : Honest ι (CoroutineEngine.moveFrame f line : Effect L Unit) :=
  .modify fun _ hw => hw.modifyFrame f fun _ h => h

theorem performSetFrameLine (on value : Expr) :
    Honest ι (CoroutineEngine.performSetFrameLine E scope on value) := by
  refine onOperand hE hs on (fun hv => genuine_asFrame hv) fun hs _ => ?_
  refine .next (evaluate hE value hs) fun ι v hv => ?_
  split
  · exact .next (moveFrame _ _) fun _ _ _ => .pure trivial
  · exact badOperand hE hv.single

theorem performSetFrameBack (on value : Expr) :
    Honest ι (CoroutineEngine.performSetFrameBack E scope on value) := by
  refine onOperand hE hs on (fun hv => genuine_asFrame hv) fun hs _ => ?_
  refine .next (evaluate hE value hs) fun ι v hv => ?_
  split
  · next back hb =>
    exact .next (swapBack _ (genuine_asOptional (genuine_asFrame hv) hb)) fun _ _ hf => .pure (genuine_ofFrame hf)
  · exact badOperand hE hv.single

omit hE hs in
theorem inputsRow (inputs : Inputs) (index : Nat) :
    Honest ι (CoroutineEngine.inputsRow inputs index : Effect L Datum) := by
  have optionPicture {ι : Inventory} (v : Option Value) :
      Honest ι (CoroutineEngine.optionPicture v : Effect L Datum) :=
    .next (pictureOf _) fun _ _ _ => .pure trivial
  exact .next (optionPicture _) fun _ _ _ => .next (optionPicture _) fun _ _ _ => .pure trivial

theorem performTryInputs (parameters closure : List Expr) (index : Nat) :
    Honest ι (CoroutineEngine.performTryInputs E scope parameters closure index) := by
  refine .bind hs (evaluateAll hE parameters hs) fun ι hs parameters hp => ?_
  refine .bind hp (evaluateAll hE closure hs) fun ι hp cells hc => ?_
  split
  · exact badOperand hE (genuine_append.mpr ⟨hp, hc⟩)
  · refine .bind hp (inputsRow _ index) fun ι hp _ _ => .next (releaseAll hE hp) fun ι _ _ => ?_
    refine .next (inputsRow _ index) fun ι _ _ => .next (releaseAll hE (genuine_cells _)) fun ι _ _ => ?_
    exact .next (inputsRow _ index) fun _ _ _ => .next (releaseAll hE genuine_nil) fun _ _ _ => .pure trivial

/-! ## Operations on triples -/

omit hs in
theorem tripleOfValues {kind value traceback : Value} (hk : Genuine ι kind) (hv : Genuine ι value)
    (ht : Genuine ι traceback) : Honest ι (CoroutineEngine.tripleOfValues E kind value traceback) := by
  cases kind with
  | none => exact .next (releaseAll hE (hv.double ht)) fun _ _ _ => .pure genuine_none
  | exception e =>
    have he : Genuine ι e := hk
    refine .bind he (releaseAll hE (hv.double ht)) fun ι he _ _ => ?_
    exact .next (pendingOf he) fun _ _ hp => .pure (genuine_some.mpr hp)
  | exceptionClass cls =>
    have made {ι : Inventory} (hv : Genuine ι value) :
        Genuine ι (some (⟨cls, value.asException?, traceback.asTraceback?⟩ : PendingException)) :=
      genuine_some.mpr (genuine_asException hv)
    unfold CoroutineEngine.tripleOfValues
    dsimp only
    split
    · exact .bind hv (hE.release hv) fun _ hv _ _ => .pure (made hv)
    · exact .pure (made hv)
  | _ => exact badOperand hE (genuine_cons.mpr ⟨hk, hv.double ht⟩)

/-- The three operands of a triple. -/
theorem withTriple (triple : TripleSpec) {f : Value → Value → Value → Effect L α}
    (hf : ∀ {ι : Inventory} {kind value traceback : Value}, Genuine ι kind → Genuine ι value →
      Genuine ι traceback → Honest ι (f kind value traceback)) :
    Honest ι (do
      let kind ← CoroutineEngine.evaluate E scope triple.kind
      let value ← CoroutineEngine.evaluate E scope triple.value
      let traceback ← CoroutineEngine.evaluate E scope triple.traceback
      f kind value traceback) := by
  refine .bind hs (evaluate hE triple.kind hs) fun ι hs kind hk => ?_
  refine .bind (hs.and hk) (evaluate hE triple.value hs) fun ι h value hv => ?_
  refine .bind (h.2.and hv) (evaluate hE triple.traceback h.1) fun ι h traceback ht => ?_
  exact hf h.1 h.2 ht

theorem tripleOf (triple : TripleSpec) : Honest ι (CoroutineEngine.tripleOf E scope triple) :=
  withTriple hE hs triple fun hk hv ht => tripleOfValues hE hk hv ht

omit hE hs in
theorem showPending {p : PendingException} (hp : Genuine ι p) :
    Honest ι (CoroutineEngine.showPending p : Effect L Answered) := by
  refine .bind hp (inspected _) fun ι hp data _ => .bind hp (emit _) fun ι hp _ _ => ?_
  exact .next (instantiate hp) fun _ _ he => .pure he

theorem performNormalize (triple : TripleSpec) : Honest ι (CoroutineEngine.performNormalize E scope triple) := by
  refine withTriple hE hs triple fun hk hv ht => holding hE hk (holding hE ht ?_)
  refine .next (normalizeThrow hE hk hv _) fun ι result hp => ?_
  cases result with
  | error e => exact .pure hp
  | ok p => exact showPending hp

theorem performMakePending (triple : TripleSpec) :
    Honest ι (CoroutineEngine.performMakePending E scope triple) := by
  refine .next (tripleOf hE hs triple) fun ι result hp => ?_
  rcases result with e | _ | p
  · exact .pure hp
  · exact badOperand hE genuine_nil
  · exact showPending (genuine_some.mp hp)

omit hs in
theorem deliver {t : Transfer} (ht : Genuine ι t) : Honest ι (t.deliver E) := by
  unfold Transfer.deliver
  split
  · exact .pure ht.1
  · next p h =>
    refine .bind ht (instantiate (ht.2 p h)) fun ι ht e he => ?_
    exact .bind he (owningException hE he (hE.release ht.1)) fun _ he _ _ => .pure he

omit hs in
theorem showTransfer {t : Transfer} (ht : Genuine ι t) : Honest ι (CoroutineEngine.showTransfer E t) := by
  refine .bind ht (rendered _) fun ι ht s _ => .bind ht (emit _) fun ι ht _ _ => ?_
  exact .next (deliver hE ht) fun _ _ hr => .pure (Answered.genuine_ofReply hr)

theorem performMakeTransfer (triple : TripleSpec) :
    Honest ι (CoroutineEngine.performMakeTransfer E scope triple) := by
  refine withTriple hE hs triple fun hk hv ht => ?_
  split
  · exact .bind hv (hE.release ht) fun _ hv _ _ => showTransfer hE (t := .ofValue _) ⟨hv, genuine_none⟩
  · refine .next (tripleOfValues hE hk hv ht) fun ι result hp => ?_
    rcases result with e | _ | p
    · exact .pure hp
    · exact showTransfer hE (t := .ofValue .none) ⟨trivial, genuine_none⟩
    · exact showTransfer hE (t := .ofPending p) ⟨trivial, hp⟩

/-! ## Operations on the ambient state -/

theorem performSetError (value : Expr) : Honest ι (CoroutineEngine.performSetError E scope value) := by
  refine .next (evaluate hE value hs) fun ι v hv => ?_
  cases v with
  | exception e =>
    refine .next (pendingOf hv) fun ι p hp => .next (swapError (genuine_some.mpr hp)) fun ι previous hprevious => ?_
    exact .next (releasePending? hE hprevious) fun _ _ _ => .pure trivial
  | _ => exact badOperand hE hv.single

omit hE hs in
theorem performFetchError : Honest ι (CoroutineEngine.performFetchError : Effect L Answered) := by
  refine .next fetchError fun ι error he => ?_
  cases error with
  | none => exact .pure trivial
  | some p => exact .next (instantiate (genuine_some.mp he)) fun _ _ he => .pure he

omit hs in
theorem performCurrentError : Honest ι (CoroutineEngine.performCurrentError E) := by
  refine .next errorOccurred fun ι _ _ => .next currentError fun ι error he => ?_
  cases error with
  | none => exact .pure trivial
  | some p =>
    exact .bind he (inspected _) fun _ he _ _ => .next (releasePending? hE he) fun _ _ _ => .pure trivial

theorem performRestoreError (triple : TripleSpec) :
    Honest ι (CoroutineEngine.performRestoreError E scope triple) := by
  refine .next (tripleOf hE hs triple) fun ι result hp => ?_
  cases result with
  | error e => exact .pure hp
  | ok p => exact .next (swapError hp) fun _ _ hp => .next (releasePending? hE hp) fun _ _ _ => .pure trivial

theorem performSetHandled (value : Expr) : Honest ι (CoroutineEngine.performSetHandled E scope value) := by
  refine .next (evaluate hE value hs) fun ι v hv => ?_
  split
  · next e he =>
    refine .next (swapHandled (genuine_asOptional (genuine_asException hv) he)) fun ι previous hp => ?_
    exact .pure (genuine_ofException hp)
  · exact badOperand hE hv.single

theorem performEnterHandler (value : Expr) : Honest ι (CoroutineEngine.performEnterHandler E scope value) := by
  refine .next (evaluate hE value hs) fun ι v hv => ?_
  cases v with
  | exception e => exact .next (swapHandled (genuine_some.mpr hv)) fun _ _ he => .pure (genuine_ofException he)
  | _ => exact badOperand hE hv.single

theorem performLeaveHandler (value : Expr) : Honest ι (CoroutineEngine.performLeaveHandler E scope value) := by
  refine .next (evaluate hE value hs) fun ι v hv => ?_
  split
  · next e he =>
    refine .next (swapHandled (genuine_asOptional (genuine_asException hv) he)) fun ι previous hp => ?_
    exact .next (releaseException? hE hp) fun _ _ _ => .pure trivial
  · exact badOperand hE hv.single

theorem performPushFrame (code : CodeSource L.Script) :
    Honest ι (CoroutineEngine.performPushFrame E scope code) := by
  refine .next (codeOf hE hs code) fun ι result hc => ?_
  cases result with
  | error e => exact .pure hc
  | ok code => exact .next (pushFrame hc) fun _ _ hf => .pure hf

omit hE hs in
theorem performPopFrame : Honest ι (CoroutineEngine.performPopFrame : Effect L Answered) :=
  .next popFrame fun _ _ hf => .pure (genuine_ofFrame hf)

theorem performSetTopFrame (value : Expr) : Honest ι (CoroutineEngine.performSetTopFrame E scope value) := by
  refine .next (evaluate hE value hs) fun ι v hv => ?_
  split
  · next f hf =>
    exact .next (swapTop (genuine_asOptional (genuine_asFrame hv) hf)) fun _ _ hf => .pure (genuine_ofFrame hf)
  · exact badOperand hE hv.single

theorem performWriteUnraisable (object : String) (value : Expr) :
    Honest ι (CoroutineEngine.performWriteUnraisable E scope object value) := by
  refine .next (evaluate hE value hs) fun ι v hv => ?_
  cases v with
  | exception e => exact .next (writeUnraisable hE object hv) fun _ _ _ => .pure trivial
  | _ => exact badOperand hE hv.single

omit hs in
theorem performInstallHook (mode : String) : Honest ι (CoroutineEngine.performInstallHook E mode) := by
  have hook : Genuine ι (hookOf? L mode) := by
    unfold hookOf?
    split
    · exact genuine_none
    · exact genuine_some.mpr genuine_nil
  refine .next (swapHook hook) fun ι previous hp => ?_
  refine .next (releaseAll hE ?_) fun _ _ _ => .pure trivial
  cases previous with
  | none => exact genuine_nil
  | some previous =>
    have hprevious : Genuine ι previous := genuine_some.mp hp
    exact hprevious

omit hE hs

theorem performListFrames : Honest ι (CoroutineEngine.performListFrames : Effect L Answered) :=
  .next currentFrame fun _ _ _ => .next (inspected _) fun _ _ _ => .pure trivial

theorem performSetLine (scope : Scope) (line : UInt32) :
    Honest ι (CoroutineEngine.performSetLine scope line : Effect L Answered) := by
  unfold CoroutineEngine.performSetLine
  split
  · exact .next (moveFrame _ _) fun _ _ _ => .pure trivial
  · exact .pure trivial

/-! ## Operations on the registry, on settings and on counting fibers -/

theorem performTrack (id : Int) : Honest ι (CoroutineEngine.performTrack id : Effect L Answered) :=
  .next (trackObject _ _) fun _ _ _ => .next (gets (α := Nat) fun _ _ => trivial) fun _ _ _ => .pure trivial

theorem performUntrack (id : Int) : Honest ι (CoroutineEngine.performUntrack id : Effect L Answered) :=
  .next (untrackObject _) fun _ _ _ => .next (gets (α := Nat) fun _ _ => trivial) fun _ _ _ => .pure trivial

theorem performIsTracked (id : Int) : Honest ι (CoroutineEngine.performIsTracked id : Effect L Answered) :=
  next (gets (α := Bool) fun _ _ => trivial) fun _ _ _ => .pure trivial

theorem registryStats : Honest ι (CoroutineEngine.registryStats : Effect L Answered) :=
  next (gets (α := Datum) fun _ _ => trivial) fun _ _ _ => .pure trivial

theorem performActivate (stackSize : Option Nat) (reportChildren : Option Bool) :
    Honest ι (CoroutineEngine.performActivate stackSize reportChildren : Effect L Answered) :=
  .next (.modify fun _ hw => { hw with }) fun _ _ _ => .pure trivial

theorem storeFiber (name : String) (f : Option CountingFiber) :
    Honest ι (CoroutineEngine.storeFiber name f : Effect L Unit) := .modify fun _ hw => { hw with }

theorem fiberOf (name : String) : Honest ι (Effect.gets fun w : World L => w.fibers.lookup name) :=
  gets (α := Option CountingFiber) fun _ _ _ _ => trivial

theorem releaseStack (name : String) (f : CountingFiber) :
    Honest ι (CoroutineEngine.releaseStack name f : Effect L CountingFiber) := by
  unfold CoroutineEngine.releaseStack
  split
  · exact .pure trivial
  · refine .next (log _ _ _) fun ι _ _ => ?_
    split
    · exact .next (emit _) fun _ _ _ => .pure trivial
    · exact .pure trivial

theorem dropFiber (name : String) : Honest ι (CoroutineEngine.dropFiber name : Effect L Unit) := by
  refine .next (fiberOf name) fun ι f _ => ?_
  cases f with
  | none => exact .pure trivial
  | some f =>
    exact .next (storeFiber _ _) fun _ _ _ => .next (releaseStack _ _) fun _ _ _ => .pure trivial

theorem performMakeFiber (name : String) (spec : FiberSpec) :
    Honest ι (CoroutineEngine.performMakeFiber name spec : Effect L Answered) := by
  refine .next (dropFiber name) fun ι _ _ => ?_
  refine .next (.onPanic (k := ()) trivial (mapStack _) fun _ _ => emit _) fun ι error _ => ?_
  cases error with
  | some error => exact .next (emit _) fun _ _ _ => .pure trivial
  | none => exact .next (storeFiber _ _) fun _ _ _ => .pure trivial

theorem performSwitch (name : String) (input : Int64) :
    Honest ι (CoroutineEngine.performSwitch name input : Effect L Answered) := by
  refine .next (fiberOf name) fun ι f _ => ?_
  cases f with
  | none => exact .pure trivial
  | some f =>
    dsimp only
    split
    · exact .pure trivial
    · exact .next (storeFiber _ _) fun _ _ _ => .pure trivial
    · exact .next (emit _) fun _ _ _ => .next (storeFiber _ _) fun _ _ _ => .pure trivial

theorem performReleaseFiber (name : String) :
    Honest ι (CoroutineEngine.performReleaseFiber name : Effect L Answered) := by
  refine .next (fiberOf name) fun ι f _ => ?_
  cases f with
  | none => exact .pure trivial
  | some f =>
    exact .next (releaseStack _ _) fun _ _ _ => .next (storeFiber _ _) fun _ _ _ => .pure trivial

theorem performInspectFiber (name : String) :
    Honest ι (CoroutineEngine.performInspectFiber name : Effect L Answered) := by
  refine .next (fiberOf name) fun ι f _ => ?_
  cases f <;> exact .pure trivial

/-! ## All operations -/

include hE hs

theorem perform (op : Operation L.Script) : Honest ι (CoroutineEngine.perform E scope op) := by
  cases op with
  | makeCode spec => exact .next (makeCode spec) fun _ _ hc => .pure hc
  | makeCoroutine spec => exact buildCoroutine hE hs spec
  | send on value => exact performSend hE hs on value
  | throw on triple => exact performThrow hE hs on triple
  | throwException on value => exact performThrowException hE hs on value
  | close on => exact performClose hE hs on
  | step on => exact performStep hE hs on
  | wrap on => exact wrapCoroutine hE hs on
  | iterate on steps => exact performIterate hE hs on steps
  | getAttribute on name => exact performGet hE hs on name
  | setAttribute on name value => exact performWrite hE hs on value fun c _ hv => setAttribute hE c name hv
  | setName on value => exact performWrite hE hs on value fun c _ hv => setName hE c hv
  | setQualname on value => exact performWrite hE hs on value fun c _ hv => setQualname hE c hv
  | downgrade on weak => exact performDowngrade hE hs on weak
  | upgrade weak => exact performUpgrade weak
  | isAlive weak => exact performIsAlive weak
  | handleCount slot => exact handleCount slot
  | evaluate value => exact .next (evaluate hE value hs) fun _ _ hv => .pure hv
  | setSlot slot value => exact performSetSlot hE hs slot value
  | dropSlot slot => exact performDropSlot hE slot
  | say value => exact performSay hE hs value
  | describe value => exact performRead hE hs value _
  | compare a b => exact performCompare hE hs a b
  | defineClass name base => exact performDefineClass hE hs name base
  | compareClasses a b => exact performCompareClasses hE hs a b
  | inspect on => exact performRead hE hs on _
  | setCause on value => exact performAttach hE hs on value fun e _ h => attachCause e h
  | setContext on value => exact performAttach hE hs on value fun e _ h => attachContext e h
  | setTraceback on value => exact performSetTraceback hE hs on value
  | pushTraceback on value => exact performPushTraceback hE hs on value
  | setCell on value => exact performSetCell hE hs on value
  | clearCell on => exact performClearCell hE hs on
  | sameCell on value => exact performSameCell hE hs on value
  | makeFrame code => exact performMakeFrame hE hs code
  | setFrameLine on value => exact performSetFrameLine hE hs on value
  | setFrameBack on value => exact performSetFrameBack hE hs on value
  | normalize triple => exact performNormalize hE hs triple
  | makePending triple => exact performMakePending hE hs triple
  | makeTransfer triple => exact performMakeTransfer hE hs triple
  | tryInputs parameters closure index => exact performTryInputs hE hs parameters closure index
  | setError value => exact performSetError hE hs value
  | fetchError => exact performFetchError
  | currentError => exact performCurrentError hE
  | restoreError triple => exact performRestoreError hE hs triple
  | setHandled value => exact performSetHandled hE hs value
  | pushFrame code => exact performPushFrame hE hs code
  | popFrame => exact performPopFrame
  | setTopFrame value => exact performSetTopFrame hE hs value
  | listFrames => exact performListFrames
  | writeUnraisable object value => exact performWriteUnraisable hE hs object value
  | installHook mode => exact performInstallHook hE mode
  | track id => exact performTrack id
  | untrack id => exact performUntrack id
  | isTracked id => exact performIsTracked id
  | registryStats => exact registryStats
  | activate stackSize reportChildren => exact performActivate stackSize reportChildren
  | makeFiber name spec => exact performMakeFiber name spec
  | switchFiber name value => exact performSwitch name value
  | releaseFiber name => exact performReleaseFiber name
  | inspectFiber name => exact performInspectFiber name
  | setLine line => exact performSetLine scope line
  | enterHandler value => exact performEnterHandler hE hs value
  | leaveHandler value => exact performLeaveHandler hE hs value

end Honest

end CoroutineEngine
