import CoroutineEngine.Coroutine.Body
import CoroutineEngine.Proofs.Likeness.Requests

/-!
# Private expressions side by side

What a client names of its own looks alike in both worlds: its locals, its inputs, the slots within its reach, and what
can be reached from there. So private expressions have values that are like each other.

Results:
* `World.Mirrors.property`: what can be reached from a value.
* `Echoes.evaluate`: the values of a private expression.
-/

namespace CoroutineEngine

variable {L : Language} {P : Privacy L} {ρ : Likeness P}

/-! ## What can be reached -/

section

variable {α : Type} [Likened P α]

theorem Like.ofOption {make : α → Value} (hmake : ∀ a a', Like ρ a a' → Like ρ (make a) (make a'))
    {a a' : Option α} (ha : Like ρ a a') : Like ρ (Value.ofOption make a) (Value.ofOption make a') := by
  cases ha with
  | none => exact Value.Like.none
  | some ha => exact hmake _ _ ha

theorem Like.ofException {e e' : Option Exception} (he : Like ρ e e') :
    Like ρ (Value.ofOption .exception e) (Value.ofOption .exception e') :=
  he.ofOption fun _ _ h => Value.Like.exception h

theorem Like.ofFrame {f f' : Option Frame} (hf : Like ρ f f') :
    Like ρ (Value.ofOption .frame f) (Value.ofOption .frame f') :=
  hf.ofOption fun _ _ h => Value.Like.frame h

theorem Like.ofTraceback {t t' : Option Traceback} (ht : Like ρ t t') :
    Like ρ (Value.ofOption .traceback t) (Value.ofOption .traceback t') :=
  ht.ofOption fun _ _ h => Value.Like.traceback h

theorem Like.ofClass (c : Option ExceptionClass) :
    Like ρ (Value.ofOption .exceptionClass c) (Value.ofOption .exceptionClass c) := by
  cases c with
  | none => exact Value.Like.none
  | some c => exact Value.Like.exceptionClass c

theorem Like.orNone {v v' : Option Value} (hv : Like ρ v v') : Like ρ (v.getD .none) (v'.getD .none) :=
  hv.getD Value.Like.none

theorem Like.indexed {vs vs' : List Value} (hvs : Like ρ vs vs') (index : String) :
    Like ρ (indexed vs index) (CoroutineEngine.indexed vs' index) := by
  unfold CoroutineEngine.indexed
  split
  · rw [List.getD_eq_getElem?_getD, List.getD_eq_getElem?_getD]
    exact (hvs.getElem? _).orNone
  · exact Value.Like.none

theorem Like.lookup {locals locals' : List (String × Value)} (hl : Like ρ locals locals') (name : String) :
    Like ρ (locals.lookup name) (locals'.lookup name) := by
  induction hl with
  | nil => exact .none
  | @cons p p' _ _ hp _ ih =>
    have hname : p'.1 = p.1 := hp.1
    rw [List.lookup_cons, List.lookup_cons, hname]
    split
    · exact .some hp.2
    · exact ih

theorem Like.next? {t t' : Traceback} (ht : Like ρ t t') : Like ρ t.next? t'.next? := by
  obtain ⟨head, tail⟩ := t
  obtain ⟨head', tail'⟩ := t'
  have htail : Like ρ tail tail' := ht.tail
  cases htail with
  | nil => exact .none
  | cons hentry hrest => exact .some ⟨hentry, hrest⟩

theorem Like.asException? {v v' : Value} (hv : Like ρ v v') : Like ρ v.asException? v'.asException? := by
  cases hv with
  | exception he => exact Like.some (α := Exception) he
  | _ => exact Like.none

theorem Like.asTraceback? {v v' : Value} (hv : Like ρ v v') : Like ρ v.asTraceback? v'.asTraceback? := by
  cases hv with
  | traceback ht => exact Like.some (α := Traceback) ht
  | _ => exact Like.none

theorem Like.asCoroutine? {v v' : Value} (hv : Like ρ v v') : Like ρ v.asCoroutine? v'.asCoroutine? := by
  cases hv with
  | coroutine hc => exact Like.some (α := CoroutineId) hc
  | _ => exact Like.none

theorem Like.asCell? {v v' : Value} (hv : Like ρ v v') : Like ρ v.asCell? v'.asCell? := by
  cases hv with
  | cell hc => exact Like.some (α := CellId) hc
  | _ => exact Like.none

theorem Like.asFrame? {v v' : Value} (hv : Like ρ v v') : Like ρ v.asFrame? v'.asFrame? := by
  cases hv with
  | frame hf => exact Like.some (α := Frame) hf
  | _ => exact Like.none

theorem Like.isInstanceOf {v v' c c' : Value} (hv : Like ρ v v') (hc : Like ρ c c') :
    isInstanceOf v' c' = CoroutineEngine.isInstanceOf v c := by
  cases hv <;> cases hc <;> try rfl
  case exception.exceptionClass _ _ he cls =>
    simp only [CoroutineEngine.isInstanceOf, he.cls]

end

namespace World.Mirrors

variable {w w' : World L}

theorem isAlive (hw : w.Mirrors ρ w') {c c' : CoroutineId} (hc : Like ρ c c') : w'.isAlive c' = w.isAlive c := by
  unfold World.isAlive
  rw [(hw.coroutine hc).handles]

theorem driven? (hw : w.Mirrors ρ w') {v v' : Value} (hv : Like ρ v v') : Like ρ (w.driven? v) (w'.driven? v') := by
  cases hv with
  | coroutine hc => exact Like.some (α := CoroutineId) hc
  | wrapper hx => exact Like.some (α := CoroutineId) (hw.wrapper hx).coroutine
  | _ => exact Like.none

theorem wrapped? (hw : w.Mirrors ρ w') {v v' : Value} (hv : Like ρ v v') :
    Like ρ (w.wrapped? v) (w'.wrapped? v') := by
  cases hv with
  | wrapper hx => exact Like.some (α := CoroutineId) (hw.wrapper hx).coroutine
  | _ => exact Like.none

/-- The caller of a frame is none of its own. -/
theorem property (hw : w.Mirrors ρ w') {v v' : Value} (hv : Like ρ v v') {name : String} (hn : name ≠ "back") :
    Like ρ (w.property v name) (w'.property v' name) := by
  unfold World.property
  split
  · cases hv with
    | exception he => exact (hw.exception he).cause.ofException
  · cases hv with
    | exception he => exact (hw.exception he).context.ofException
  · cases hv with
    | exception he =>
      rw [← he.cls]
      exact Value.Like.exceptionClass _
  · cases hv with
    | exception he => exact Like.headD (α := Value) Value.Like.none (hw.exception he).args
  · cases hv with
    | exception he => exact (hw.exception he).traceback.ofTraceback
  · cases hv with
    | exception he =>
      split <;> try contradiction
      · next h _ _ _ _ _ _ _ _ _ _ =>
        cases h
        exact Like.indexed (hw.exception he).args _
      · simp_all
  · cases hv with
    | traceback ht => exact (Like.next? ht).ofTraceback
  · cases hv with
    | exceptionClass c => exact .ofClass _
  · exact absurd rfl hn
  · cases hv with
    | frame hf => exact Value.Like.code hf.code
  · cases hv with
    | coroutine hc => exact Value.Like.code (hw.coroutine hc).code
  · cases hv with
    | coroutine hc => exact (hw.coroutine hc).frame.ofFrame
  · cases hv with
    | coroutine hc => exact (hw.coroutine hc).awaiting.orNone
  · cases hv with
    | wrapper hx => exact Value.Like.coroutine (hw.wrapper hx).coroutine
  · cases hv with
    | cell hc => exact (hw.cell hc).content.orNone
  · cases hv with
    | tuple _ hitems => exact Like.indexed hitems _
  · -- there is no such property of the one value, and so there is none of the other one
    cases hv <;> first
      | exact Value.Like.none
      | split <;> first
        | exact Value.Like.none
        | simp_all

end World.Mirrors

namespace Echoes

/-! ## Expressions -/

theorem readValue {read read' : World L → Option Value}
    (h : ∀ w w', w.Mirrors ρ w' → Like ρ (read w) (read' w')) :
    Echoes ρ (CoroutineEngine.readValue read) (CoroutineEngine.readValue read') :=
  .next (gets fun w w' hw => (h w w' hw).orNone) fun _ _ _ hv => .bind hv (retain hv) fun _ hv _ _ _ => .pure hv

theorem propertyOf {v v' : Value} (hv : Like ρ v v') {name : String} (hn : name ≠ "back") :
    Echoes ρ (CoroutineEngine.propertyOf v name : Effect L Value) (CoroutineEngine.propertyOf v' name) := by
  unfold CoroutineEngine.propertyOf
  split
  · cases hv with
    | exception he => exact .next (rendered fun w w' hw s hs => hw.message he hs) (by
        rintro _ _ s rfl
        exact makeString s)
  · split
    · cases hv
      simp_all
    · exact .next (gets fun w w' hw => hw.property hv hn) fun _ _ _ hu =>
        .bind hu (retain hu) fun _ hu _ _ _ => .pure hu

theorem nestValue (n : Nat) {v v' : Value} (hv : Like ρ v v') :
    Echoes ρ (CoroutineEngine.nestValue n v : Effect L Value) (CoroutineEngine.nestValue n v') := by
  induction n generalizing v v' ρ with
  | zero => exact .pure hv
  | succ n ih => exact .next (makeTuple hv.single) fun _ _ _ hv => ih hv

/-- Something of the coroutine that a body belongs to, while it is alive. -/
theorem readOwn {scope scope' : Scope} (hs : Like ρ scope scope') {own : World L → Context → Option Value}
    (h : ∀ w w', w.Mirrors ρ w' → ∀ k k', Like ρ k k' → Like ρ (own w k) (own w' k')) :
    Echoes ρ (CoroutineEngine.readValue fun w => scope.context.bind (own w))
      (CoroutineEngine.readValue fun w => scope'.context.bind (own w)) := by
  refine readValue fun w w' hw => ?_
  rcases hs.context.absent_or with ⟨hk, hk'⟩ | ⟨k, k', hk, hk', h'⟩ <;> rw [hk, hk']
  · exact .none
  · exact h w w' hw k k' h'

theorem displayed {v v' : Value} (hv : Like ρ v v') :
    Echoes ρ (CoroutineEngine.rendered (L := L) (·.display v)) (CoroutineEngine.rendered (·.display v')) :=
  rendered fun _ _ hw _ hs => hw.display hv hs

variable {E F : Engine L}

theorem decideOn (hE : E.IsEchoedBy P F) {a a' b b' : Value} (ha : Like ρ a a') (hb : Like ρ b b')
    {test : Value → Value → Bool} (htest : test a' b' = test a b) :
    Echoes ρ (CoroutineEngine.decideOn E a b test) (CoroutineEngine.decideOn F a' b' test) := by
  unfold CoroutineEngine.decideOn
  rw [htest]
  exact .next (releaseAll hE (ha.double hb)) fun _ _ _ _ => .pure (Value.Like.bool _)

mutual

theorem evaluate (hE : E.IsEchoedBy P F) {scope scope' : Scope} : ∀ (e : Expr), e.isPrivate P.reach → ∀ {ρ : Likeness P},
    Like ρ scope scope' → Echoes ρ (CoroutineEngine.evaluate E scope e) (CoroutineEngine.evaluate F scope' e)
  | .none, _, _, _ => by
    unfold CoroutineEngine.evaluate
    exact .pure Value.Like.none
  | .bool b, _, _, _ => by
    unfold CoroutineEngine.evaluate
    exact .pure (Value.Like.bool b)
  | .int i, _, _, _ => by
    unfold CoroutineEngine.evaluate
    exact .pure (Value.Like.int i)
  | .float _, _, _, _ => by
    unfold CoroutineEngine.evaluate
    exact .pure (Value.Like.float _)
  | .builtinClass _, _, _, _ => by
    unfold CoroutineEngine.evaluate
    exact .pure (.ofClass _)
  | .ownFrame, _, _, hs => by
    unfold CoroutineEngine.evaluate
    exact .pure (hs.context.ofOption fun _ _ hk => Value.Like.frame (Context.Like.frame hk))
  | .ownCode, _, _, hs => by
    unfold CoroutineEngine.evaluate
    exact .pure (hs.context.ofOption fun _ _ hk => Value.Like.code (Context.Like.code hk))
  | .str s, _, _, _ => by
    unfold CoroutineEngine.evaluate
    exact makeString s
  | .repeated _ _, _, _, _ => by
    unfold CoroutineEngine.evaluate
    exact makeString _
  | .range size, _, _, _ => by
    unfold CoroutineEngine.evaluate
    exact makeTuple (List.forall₂_map_right_iff.mpr (List.forall₂_map_left_iff.mpr
      (List.forall₂_same.mpr fun i _ => Value.Like.int _)))
  | .tuple items, h, _, hs => by
    unfold CoroutineEngine.evaluate
    exact .next (evaluateAll hE items h hs) fun _ _ _ hvs => makeTuple hvs
  | .slot name, h, _, _ => by
    unfold CoroutineEngine.evaluate
    exact readValue fun _ _ hw => hw.slots h
  | .topFrame, h, _, _ => nomatch h
  | .localVar name, _, _, hs => by
    unfold CoroutineEngine.evaluate
    exact readValue fun _ _ _ => hs.locals.lookup name
  | .parameter index, _, _, hs => by
    unfold CoroutineEngine.evaluate
    refine readOwn hs fun w w' hw k k' hk => ?_
    unfold World.parameter?
    rw [hw.isAlive hk.coroutine]
    split
    · exact (hw.coroutine hk.coroutine).inputs.parameters.getElem? index
    · exact .none
  | .closureCell index, _, _, hs => by
    unfold CoroutineEngine.evaluate
    refine readOwn hs fun w w' hw k k' hk => ?_
    unfold World.closureCell?
    rw [hw.isAlive hk.coroutine]
    split
    · have hcell := (hw.coroutine hk.coroutine).inputs.closure.getElem? index
      rcases hcell.absent_or with ⟨h, h'⟩ | ⟨_, _, h, h', hc⟩ <;> rw [h, h']
      · exact .none
      · exact Like.some (α := Value) (.cell hc)
    · exact .none
  | .self, _, _, hs => by
    unfold CoroutineEngine.evaluate
    refine readOwn hs fun w w' hw k k' hk => ?_
    rw [hw.isAlive hk.coroutine]
    split
    · exact Like.some (α := Value) (.coroutine hk.coroutine)
    · exact .none
  | .exception cls args, h, _, hs => by
    unfold CoroutineEngine.evaluate
    simp only [Expr.isPrivate, Bool.and_eq_true] at h
    refine .bind hs (evaluate hE cls h.1 hs) fun ρ hs c c' hc => ?_
    refine .bind hc (evaluateAll hE args h.2 hs) fun ρ hc args args' ha => ?_
    have hall := hc.cons ha
    cases hc with
    | exceptionClass c => exact .next (makeException _ ha) fun _ _ _ he => .pure (.exception he)
    | _ => exact .next (releaseAll hE hall) fun _ _ _ _ => .pure Value.Like.none
  | .stopIteration value, h, _, hs => by
    unfold CoroutineEngine.evaluate
    refine .next (evaluate hE value h hs) fun _ _ _ hv => ?_
    exact .next (makeStopIteration hv) fun _ _ _ he => .pure (.exception he)
  | .generatorExit, _, _, _ => by
    unfold CoroutineEngine.evaluate
    exact .next (makeException _ .nil) fun _ _ _ he => .pure (.exception he)
  | .traceback _, _, _, _ => by
    unfold CoroutineEngine.evaluate
    exact .next (makeTraceback _) fun _ _ _ ht => .pure ht.ofTraceback
  | .emptyCell, _, _, _ => by
    unfold CoroutineEngine.evaluate
    exact .next (makeCell .none) fun _ _ _ hc => .pure (.cell hc)
  | .cell content, h, _, hs => by
    unfold CoroutineEngine.evaluate
    exact .next (evaluate hE content h hs) fun _ _ _ hv => .next (makeCell hv.some) fun _ _ _ hc => .pure (.cell hc)
  | .nest depth value, h, _, hs => by
    unfold CoroutineEngine.evaluate
    exact .next (evaluate hE value h hs) fun _ _ _ hv => nestValue depth hv
  | .add a b, h, _, hs => by
    unfold CoroutineEngine.evaluate
    simp only [Expr.isPrivate, Bool.and_eq_true] at h
    refine .bind hs (evaluate hE a h.1 hs) fun ρ hs x x' hx => ?_
    refine .bind hx (evaluate hE b h.2 hs) fun ρ hx y y' hy => ?_
    rw [Value.Like.asInt? hx, Value.Like.asInt? hy]
    exact .next (releaseAll hE (hx.double hy)) fun _ _ _ _ => .pure (Value.Like.int _)
  | .display value, h, _, hs => by
    unfold CoroutineEngine.evaluate
    refine .next (evaluate hE value h hs) fun ρ v v' hv => .bind hv (displayed hv) ?_
    rintro ρ hv _ s rfl
    refine .bind hv (makeString s) fun ρ hv text text' ht => ?_
    exact .bind ht (hE.release hv) fun _ ht _ _ _ => .pure ht
  | .joined a b, h, _, hs => by
    unfold CoroutineEngine.evaluate
    simp only [Expr.isPrivate, Bool.and_eq_true] at h
    refine .bind hs (evaluate hE a h.1 hs) fun ρ hs x x' hx => ?_
    refine .bind hx (evaluate hE b h.2 hs) fun ρ hx y y' hy => .bind (hx.and hy) (displayed hx) ?_
    rintro ρ ⟨hx, hy⟩ _ s rfl
    refine .bind (hx.and hy) (displayed hy) ?_
    rintro ρ ⟨hx, hy⟩ _ t rfl
    refine .bind (hx.and hy) (makeString (s ++ t)) fun ρ ⟨hx, hy⟩ text text' ht => ?_
    exact .bind ht (releaseAll hE (hx.double hy)) fun _ ht _ _ _ => .pure ht
  | .equal a b, h, _, hs => by
    unfold CoroutineEngine.evaluate
    simp only [Expr.isPrivate, Bool.and_eq_true] at h
    refine .bind hs (evaluate hE a h.1 hs) fun ρ hs x x' hx => ?_
    exact .bind hx (evaluate hE b h.2 hs) fun ρ hx y y' hy => decideOn hE hx hy (Value.Like.equals hx hy)
  | .identical a b, h, _, hs => by
    unfold CoroutineEngine.evaluate
    simp only [Expr.isPrivate, Bool.and_eq_true] at h
    refine .bind hs (evaluate hE a h.1 hs) fun ρ hs x x' hx => ?_
    exact .bind hx (evaluate hE b h.2 hs) fun ρ hx y y' hy => decideOn hE hx hy (Value.Like.identical hx hy)
  | .less a b, h, _, hs => by
    unfold CoroutineEngine.evaluate
    simp only [Expr.isPrivate, Bool.and_eq_true] at h
    refine .bind hs (evaluate hE a h.1 hs) fun ρ hs x x' hx => ?_
    refine .bind hx (evaluate hE b h.2 hs) fun ρ hx y y' hy => decideOn hE hx hy ?_
    rw [Value.Like.asInt? hx, Value.Like.asInt? hy]
  | .isInstance a b, h, _, hs => by
    unfold CoroutineEngine.evaluate
    simp only [Expr.isPrivate, Bool.and_eq_true] at h
    refine .bind hs (evaluate hE a h.1 hs) fun ρ hs x x' hx => ?_
    exact .bind hx (evaluate hE b h.2 hs) fun ρ hx y y' hy => decideOn hE hx hy (hx.isInstanceOf hy)
  | .not value, h, _, hs => by
    unfold CoroutineEngine.evaluate
    refine .next (evaluate hE value h hs) fun ρ v v' hv => ?_
    rw [Value.Like.isTrue hv]
    exact .next (hE.release hv) fun _ _ _ _ => .pure (Value.Like.bool _)
  | .handled, _, _, _ => by
    unfold CoroutineEngine.evaluate
    exact .next handledException fun _ _ _ he => .pure he.ofException
  | .property value name, h, _, hs => by
    unfold CoroutineEngine.evaluate
    simp only [Expr.isPrivate, Bool.and_eq_true, bne_iff_ne] at h
    refine .next (evaluate hE value h.1 hs) fun ρ v v' hv => .bind hv (propertyOf hv h.2) fun ρ hv found found' hf => ?_
    exact .bind hf (hE.release hv) fun _ hf _ _ _ => .pure hf

theorem evaluateAll (hE : E.IsEchoedBy P F) {scope scope' : Scope} : ∀ (es : List Expr), Expr.arePrivate P.reach es →
    ∀ {ρ : Likeness P}, Like ρ scope scope' →
      Echoes ρ (CoroutineEngine.evaluateAll E scope es) (CoroutineEngine.evaluateAll F scope' es)
  | [], _, _, _ => by
    unfold CoroutineEngine.evaluateAll
    exact .pure .nil
  | e :: es, h, _, hs => by
    unfold CoroutineEngine.evaluateAll
    simp only [Expr.arePrivate, Bool.and_eq_true] at h
    refine .bind hs (evaluate hE e h.1 hs) fun ρ hs v v' hv => ?_
    exact .bind hv (evaluateAll hE es h.2 hs) fun _ hv _ _ hvs => .pure (hv.cons hvs)

end

end Echoes

end CoroutineEngine
