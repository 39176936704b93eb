import CoroutineEngine.Coroutine.Body
import CoroutineEngine.Proofs.Provenance.Requests

/-!
# Clients forge nothing

A client names what it has: its slots, its locals, its inputs, and what can be reached from there. Whatever it asks
for, it gets values that were made before, or are made now.

Results:
* `Honest.evaluate`: the value of an expression is genuine.
* `Honest.perform`: so is the answer of an operation.
-/

namespace CoroutineEngine

variable {L : Language} {ι : Inventory} {α : Type} [Certified α]

/-! ## What can be reached -/

theorem genuine_ofOption (make : α → Value) (hmake : ∀ a, Genuine ι a → Genuine ι (make a)) {a : Option α}
    (ha : Genuine ι a) : Genuine ι (Value.ofOption make a) := by
  cases a with
  | none => trivial
  | some a => exact hmake a (genuine_some.mp ha)

theorem genuine_ofException {e : Option Exception} (he : Genuine ι e) : Genuine ι (Value.ofOption .exception e) :=
  genuine_ofOption Value.exception (fun _ h => h) he

theorem genuine_ofFrame {f : Option Frame} (hf : Genuine ι f) : Genuine ι (Value.ofOption .frame f) :=
  genuine_ofOption Value.frame (fun _ h => h) hf

theorem genuine_ofTraceback (t : Option Traceback) : Genuine ι (Value.ofOption .traceback t) := by
  cases t <;> trivial

theorem genuine_ofClass (c : Option ExceptionClass) : Genuine ι (Value.ofOption .exceptionClass c) := by
  cases c <;> trivial

theorem genuine_getD {v : Option Value} (hv : Genuine ι v) : Genuine ι (v.getD .none) := by
  cases v with
  | none => trivial
  | some v => exact genuine_some.mp hv

theorem genuine_headD {vs : List Value} (hvs : Genuine ι vs) : Genuine ι (vs.headD .none) := by
  cases vs with
  | nil => trivial
  | cons v vs => exact (genuine_cons.mp hvs).1

theorem genuine_indexed {vs : List Value} (hvs : Genuine ι vs) (index : String) : Genuine ι (indexed vs index) := by
  unfold indexed
  split
  · rw [List.getD_eq_getElem?_getD]
    exact genuine_getD (genuine_getElem? hvs _)
  · trivial

theorem genuine_named {vs : List (String × Value)} : Genuine ι (vs.map (·.2)) ↔ Genuine ι vs := by
  constructor
  · exact fun h p hp => ⟨trivial, h p.2 (List.mem_map_of_mem hp)⟩
  · intro h v hv
    obtain ⟨p, hp, rfl⟩ := List.mem_map.mp hv
    exact (h p hp).2

theorem genuine_lookup {vs : List (String × Value)} (hvs : Genuine ι vs) (name : String) :
    Genuine ι (vs.lookup name) := by
  intro v hv
  obtain ⟨l₁, l₂, rfl, -⟩ := List.lookup_eq_some_iff.mp hv
  exact (hvs (name, v) (by simp)).2

theorem World.Genuine.property {w : World L} (hw : w.Genuine ι) {v : Value} (hv : CoroutineEngine.Genuine ι v)
    (name : String) : CoroutineEngine.Genuine ι (w.property v name) := by
  unfold World.property
  split
  · exact genuine_ofException (hw.chained _).1
  · exact genuine_ofException (hw.chained _).2
  · trivial
  · exact genuine_headD (hw.args _)
  · exact genuine_ofTraceback _
  · exact genuine_indexed (hw.args _) _
  · exact genuine_ofTraceback _
  · exact genuine_ofClass _
  · exact genuine_ofFrame (hw.backs _)
  · exact hv
  · exact (hw.coroutines _).code
  · exact genuine_ofFrame (hw.coroutines _).frame
  · exact genuine_getD (hw.coroutines _).awaiting
  · trivial
  · exact genuine_getD (hw.contents _)
  · exact genuine_indexed (Value.areGenuine_iff.mp hv.2) _
  · trivial

theorem Context.genuine_frame {k : Context} (hk : Genuine ι k) : Genuine ι (Value.frame k.frame) := hk.2

theorem Context.genuine_code {k : Context} (hk : Genuine ι k) : Genuine ι (Value.code k.code) := hk.1

namespace Honest

omit [Certified α]

/-! ## Attributes -/

theorem getAttribute (c : CoroutineId) (name : String) :
    Honest ι (CoroutineEngine.getAttribute c name : Effect L Reply) := by
  have read {ι : Inventory} {v : Value} (hv : Genuine ι v) : Honest ι (do
      CoroutineEngine.retain v
      return .ok v : Effect L Reply) := .bind hv (retain v) fun _ hv _ _ => .pure hv
  refine .next (recordOf c) fun ι r hr => ?_
  dsimp only
  split
  · exact read (v := .str r.name) hr.name
  · exact read (v := .str r.qualname) hr.qualname
  · exact read (genuine_getD hr.awaiting)
  · exact read (v := .code r.code) hr.code
  · refine read ?_
    split
    · next f hf => exact hr.frame f hf
    · trivial
  · exact read (v := .bool _) trivial
  · exact .next (makeError _ _) fun _ _ he => .pure he

variable {E : Engine L} (hE : E.IsHonest)

include hE

theorem assignName (label : String) {v : Value} (hv : Genuine ι v) {set : Text → Effect L Unit}
    (hset : ∀ t : Text, Genuine ι t → Honest ι (set t)) : Honest ι (CoroutineEngine.assignName E label v set) := by
  cases v with
  | str t => exact .next (hset t hv) fun _ _ _ => .pure trivial
  | _ => exact refuse hE _ hv.single

theorem setName (c : CoroutineId) {v : Value} (hv : Genuine ι v) : Honest ι (CoroutineEngine.setName E c v) :=
  assignName hE _ hv fun _ ht => modifyCoroutine c fun _ hr => { hr with name := ht }

theorem setQualname (c : CoroutineId) {v : Value} (hv : Genuine ι v) :
    Honest ι (CoroutineEngine.setQualname E c v) :=
  assignName hE _ hv fun _ ht => modifyCoroutine c fun _ hr => { hr with qualname := ht }

theorem setAttribute (c : CoroutineId) (name : String) {v : Value} (hv : Genuine ι v) :
    Honest ι (CoroutineEngine.setAttribute E c name v) := by
  unfold CoroutineEngine.setAttribute
  split
  · refine .bind hv (makeError _ _) fun ι hv e he => ?_
    exact .bind he (owningException hE he (hE.release hv)) fun _ he _ _ => .pure he
  · split
    · exact setName hE c hv
    · exact setQualname hE c hv

omit hE

/-! ## Expressions -/

theorem readValue {read : World L → Option Value} (hread : ∀ w : World L, w.Genuine ι → Genuine ι (read w)) :
    Honest ι (CoroutineEngine.readValue read) :=
  .next (gets fun w hw => genuine_getD (hread w hw)) fun _ v hv => .bind hv (retain v) fun _ hv _ _ => .pure hv

theorem propertyOf {v : Value} (hv : Genuine ι v) (name : String) :
    Honest ι (CoroutineEngine.propertyOf v name : Effect L Value) := by
  unfold CoroutineEngine.propertyOf
  split
  · exact .next (rendered _) fun _ _ _ => makeString _
  · exact .next (gets fun w hw => hw.property hv name) fun _ u hu => .bind hu (retain u) fun _ hu _ _ => .pure hu

theorem nestValue (n : Nat) {v : Value} (hv : Genuine ι v) :
    Honest ι (CoroutineEngine.nestValue n v : Effect L Value) := by
  induction n generalizing v ι with
  | zero => exact .pure hv
  | succ n ih => exact .next (makeTuple hv.single) fun _ _ hv => ih hv

theorem parameter {scope : Scope} (index : Nat) :
    Honest ι (CoroutineEngine.readValue fun w : World L => scope.context.bind (w.parameter? · index)) := by
  refine readValue fun w hw => ?_
  cases scope.context with
  | none => exact genuine_none
  | some k =>
    show Genuine ι (w.parameter? k index)
    unfold World.parameter?
    split
    · exact genuine_getElem? (hw.coroutines k.coroutine.index).inputs index
    · exact genuine_none

/-- What is read is a cell or a coroutine, which has no parts. -/
theorem readPlain {read : World L → Option Value} (hread : ∀ w v, read w = some v → ∀ ι, Genuine ι v) :
    Honest ι (CoroutineEngine.readValue read) := readValue fun w _ v hv => hread w v hv ι

include hE

theorem decideOn {a b : Value} (ha : Genuine ι a) (hb : Genuine ι b) (test : Value → Value → Bool) :
    Honest ι (CoroutineEngine.decideOn E a b test) :=
  .next (releaseAll hE (ha.double hb)) fun _ _ _ => .pure trivial

omit hE

mutual

theorem evaluate (hE : E.IsHonest) {scope : Scope} :
    ∀ (e : Expr) {ι : Inventory}, Genuine ι scope → Honest ι (CoroutineEngine.evaluate E scope e)
  | .none, _, _ | .bool _, _, _ | .int _, _, _ | .float _, _, _ => by
    unfold CoroutineEngine.evaluate
    exact .pure trivial
  | .builtinClass _, _, _ => by
    unfold CoroutineEngine.evaluate
    exact .pure (genuine_ofClass _)
  | .ownFrame, _, hs => by
    unfold CoroutineEngine.evaluate
    exact .pure (genuine_ofOption _ (fun _ hk => Context.genuine_frame hk) hs.1)
  | .ownCode, _, hs => by
    unfold CoroutineEngine.evaluate
    exact .pure (genuine_ofOption _ (fun _ hk => Context.genuine_code hk) hs.1)
  | .str _, _, _ | .repeated _ _, _, _ => by
    unfold CoroutineEngine.evaluate
    exact makeString _
  | .range size, _, _ => by
    unfold CoroutineEngine.evaluate
    refine makeTuple fun v hv => ?_
    obtain ⟨i, -, rfl⟩ := List.mem_map.mp hv
    trivial
  | .tuple items, _, hs => by
    unfold CoroutineEngine.evaluate
    exact .next (evaluateAll hE items hs) fun _ _ hvs => makeTuple hvs
  | .slot name, _, _ => by
    unfold CoroutineEngine.evaluate
    exact readValue fun w hw => genuine_lookup hw.slots name
  | .localVar name, _, hs => by
    unfold CoroutineEngine.evaluate
    exact readValue fun _ _ => genuine_lookup hs.2 name
  | .parameter index, _, _ => by
    unfold CoroutineEngine.evaluate
    exact parameter index
  | .closureCell index, _, _ => by
    unfold CoroutineEngine.evaluate
    refine readPlain fun w v hv ι => ?_
    obtain ⟨k, -, hv⟩ := Option.bind_eq_some_iff.mp hv
    obtain ⟨c, -, rfl⟩ := Option.map_eq_some_iff.mp hv
    trivial
  | .self, _, _ => by
    unfold CoroutineEngine.evaluate
    refine readPlain fun w v hv ι => ?_
    obtain ⟨k, -, hv⟩ := Option.bind_eq_some_iff.mp hv
    split at hv
    · cases hv
      trivial
    · cases hv
  | .exception cls args, _, hs => by
    unfold CoroutineEngine.evaluate
    refine .bind hs (evaluate hE cls hs) fun ι hs c hc => .bind hc (evaluateAll hE args hs) fun ι hc args ha => ?_
    cases c with
    | exceptionClass c => exact .next (makeException _ ha) fun _ _ he => .pure he
    | _ => exact .next (releaseAll hE (genuine_cons.mpr ⟨hc, ha⟩)) fun _ _ _ => .pure trivial
  | .stopIteration value, _, hs => by
    unfold CoroutineEngine.evaluate
    exact .next (evaluate hE value hs) fun _ _ hv => .next (makeStopIteration hv) fun _ _ he => .pure he
  | .generatorExit, _, _ => by
    unfold CoroutineEngine.evaluate
    exact .next (makeException _ genuine_nil) fun _ _ he => .pure he
  | .traceback _, _, _ => by
    unfold CoroutineEngine.evaluate
    exact .next (makeTraceback _) fun _ _ _ => .pure (genuine_ofTraceback _)
  | .emptyCell, _, _ => by
    unfold CoroutineEngine.evaluate
    exact .next (makeCell genuine_none) fun _ _ _ => .pure trivial
  | .cell content, _, hs => by
    unfold CoroutineEngine.evaluate
    refine .next (evaluate hE content hs) fun ι v hv => ?_
    exact .next (makeCell (genuine_some.mpr hv)) fun _ _ _ => .pure trivial
  | .nest depth value, _, hs => by
    unfold CoroutineEngine.evaluate
    exact .next (evaluate hE value hs) fun _ _ hv => nestValue depth hv
  | .add a b, _, hs => by
    unfold CoroutineEngine.evaluate
    refine .bind hs (evaluate hE a hs) fun ι hs x hx => .bind hx (evaluate hE b hs) fun ι hx y hy => ?_
    exact .next (releaseAll hE (hx.double hy)) fun _ _ _ => .pure trivial
  | .display value, _, hs => by
    unfold CoroutineEngine.evaluate
    refine .next (evaluate hE value hs) fun ι v hv => .bind hv (rendered _) fun ι hv s _ => ?_
    refine .bind hv (makeString s) fun ι hv text ht => ?_
    exact .bind ht (hE.release hv) fun _ ht _ _ => .pure ht
  | .joined a b, _, hs => by
    unfold CoroutineEngine.evaluate
    refine .bind hs (evaluate hE a hs) fun ι hs x hx => .bind hx (evaluate hE b hs) fun ι hx y hy => ?_
    refine .bind (hx.and hy) (rendered _) fun ι h s _ => .bind h (rendered _) fun ι h t _ => ?_
    refine .bind h (makeString (s ++ t)) fun ι h text ht => ?_
    exact .bind ht (releaseAll hE (h.1.double h.2)) fun _ ht _ _ => .pure ht
  | .equal a b, _, hs | .identical a b, _, hs | .less a b, _, hs | .isInstance a b, _, hs => by
    unfold CoroutineEngine.evaluate
    refine .bind hs (evaluate hE a hs) fun ι hs x hx => .bind hx (evaluate hE b hs) fun ι hx y hy => ?_
    exact decideOn hE hx hy _
  | .not value, _, hs => by
    unfold CoroutineEngine.evaluate
    exact .next (evaluate hE value hs) fun _ _ hv => .next (hE.release hv) fun _ _ _ => .pure trivial
  | .handled, _, _ => by
    unfold CoroutineEngine.evaluate
    exact .next handledException fun _ _ he => .pure (genuine_ofException he)
  | .topFrame, _, _ => by
    unfold CoroutineEngine.evaluate
    exact .next currentFrame fun _ _ hf => .pure (genuine_ofFrame hf)
  | .property value name, _, hs => by
    unfold CoroutineEngine.evaluate
    refine .next (evaluate hE value hs) fun ι v hv => .bind hv (propertyOf hv name) fun ι hv found hf => ?_
    exact .bind hf (hE.release hv) fun _ hf _ _ => .pure hf

theorem evaluateAll (hE : E.IsHonest) {scope : Scope} :
    ∀ (es : List Expr) {ι : Inventory}, Genuine ι scope → Honest ι (CoroutineEngine.evaluateAll E scope es)
  | [], _, _ => by
    unfold CoroutineEngine.evaluateAll
    exact .pure genuine_nil
  | e :: es, _, hs => by
    unfold CoroutineEngine.evaluateAll
    refine .bind hs (evaluate hE e hs) fun ι hs v hv => .bind hv (evaluateAll hE es hs) fun ι hv vs hvs => ?_
    exact .pure (genuine_cons.mpr ⟨hv, hvs⟩)

end

end Honest

end CoroutineEngine
