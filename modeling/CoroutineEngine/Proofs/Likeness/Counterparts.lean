import CoroutineEngine.Proofs.Likeness.Mirror

/-!
# Two counterparts of one thing

What stands for one and the same thing, in two other worlds, stands for each other.

Results:
* `Value.Like.across`: two counterparts of one value are like each other.
* `World.Mirrors.across`: two worlds that one world mirrors look alike, as far as it sees them.
-/

namespace CoroutineEngine

variable {L : Language} {P : Privacy L}

/-! ## Values -/

/-- Numbers stand for each other if the same number stands for both. -/
def Pairing.across (ρ σ : Pairing) : Pairing where
  pairs k j j' := ∃ i, ρ.pairs k i j ∧ σ.pairs k i j'
  functional := by
    rintro k j i i' ⟨m, hm, hi⟩ ⟨m', hm', hi'⟩
    obtain rfl := ρ.injective hm hm'
    exact σ.functional hi hi'
  injective := by
    rintro k j j' i ⟨m, hm, hi⟩ ⟨m', hm', hi'⟩
    obtain rfl := σ.injective hi hi'
    exact ρ.functional hm hm'

section

variable {ρ σ : Pairing}

theorem Text.Like.across {t t' s : Text} (h : t.Like ρ t') (h' : t.Like σ s) : t'.Like (ρ.across σ) s :=
  ⟨⟨_, h.identity, h'.identity⟩, h'.content.trans h.content.symm⟩

theorem Code.Like.across {c c' d : Code} (h : c.Like ρ c') (h' : c.Like σ d) : c'.Like (ρ.across σ) d :=
  ⟨⟨_, h.entry, h'.entry⟩, h.name.across h'.name, h.qualname.across h'.qualname,
    h'.firstLine.trans h.firstLine.symm, h'.generatorStop.trans h.generatorStop.symm⟩

theorem Frame.Like.across {f f' g : Frame} (h : f.Like ρ f') (h' : f.Like σ g) : f'.Like (ρ.across σ) g :=
  ⟨⟨_, h.index, h'.index⟩, h.code.across h'.code⟩

theorem Exception.Like.across {e e' x : Exception} (h : e.Like ρ e') (h' : e.Like σ x) : e'.Like (ρ.across σ) x :=
  ⟨⟨_, h.index, h'.index⟩, h'.cls.trans h.cls.symm⟩

theorem TracebackEntry.Like.across {t t' s : TracebackEntry} (h : t.Like ρ t') (h' : t.Like σ s) :
    t'.Like (ρ.across σ) s :=
  ⟨⟨_, h.identity, h'.identity⟩, h'.name.trans h.name.symm, h'.line.trans h.line.symm⟩

/-- Lists with a common original, item by item. -/
theorem forall₂_across {α : Type} {R S T : α → α → Prop} (h : ∀ a b c, R a b → S a c → T b c) {as bs cs : List α}
    (hb : List.Forall₂ R as bs) (hc : List.Forall₂ S as cs) : List.Forall₂ T bs cs := by
  induction hb generalizing cs with
  | nil =>
    cases hc
    exact .nil
  | cons hb _ ih =>
    cases hc with
    | cons hc hcs => exact .cons (h _ _ _ hb hc) (ih hcs)

theorem Traceback.Like.across {t t' s : Traceback} (h : t.Like ρ t') (h' : t.Like σ s) : t'.Like (ρ.across σ) s :=
  ⟨h.head.across h'.head, forall₂_across (fun _ _ _ h h' => h.across h') h.tail h'.tail⟩

mutual

/-- Two counterparts of one value are like each other. -/
theorem Value.Like.across {v v' u : Value} (h : v.Like ρ v') (h' : v.Like σ u) : v'.Like (ρ.across σ) u := by
  cases h with
  | none =>
    cases h'
    exact .none
  | bool b =>
    cases h'
    exact .bool b
  | int i =>
    cases h'
    exact .int i
  | float x =>
    cases h'
    exact .float x
  | str h =>
    cases h' with
    | str h' => exact .str (h.across h')
  | tuple hi h =>
    cases h' with
    | tuple hi' h' => exact .tuple ⟨_, hi, hi'⟩ (Value.Like.across_all h h')
  | exceptionClass cls =>
    cases h'
    exact .exceptionClass cls
  | exception h =>
    cases h' with
    | exception h' => exact .exception (h.across h')
  | traceback h =>
    cases h' with
    | traceback h' => exact .traceback (h.across h')
  | cell h =>
    cases h' with
    | cell h' => exact .cell ⟨_, h, h'⟩
  | code h =>
    cases h' with
    | code h' => exact .code (h.across h')
  | frame h =>
    cases h' with
    | frame h' => exact .frame (h.across h')
  | coroutine h =>
    cases h' with
    | coroutine h' => exact .coroutine ⟨_, h, h'⟩
  | wrapper h =>
    cases h' with
    | wrapper h' => exact .wrapper ⟨_, h, h'⟩

theorem Value.Like.across_all {vs vs' us : List Value} (h : List.Forall₂ (Value.Like ρ) vs vs')
    (h' : List.Forall₂ (Value.Like σ) vs us) : List.Forall₂ (Value.Like (ρ.across σ)) vs' us := by
  cases h with
  | nil =>
    cases h'
    exact .nil
  | cons h hs =>
    cases h' with
    | cons h' hs' => exact .cons (Value.Like.across h h') (Value.Like.across_all hs hs')

end

end

/-! ## What is like each other -/

/-- Numbers stand for each other if the same number stands for both. -/
def Likeness.across (ρ σ : Likeness P) : Likeness P := { σ with toPairing := ρ.toPairing.across σ.toPairing }

/-- Two counterparts of one thing are like each other. -/
class Euclidean (P : Privacy L) (α : Type) [Likened P α] : Prop where
  across : ∀ {ρ σ : Likeness P} {a b c : α}, Like ρ a b → Like σ a c → Like (ρ.across σ) b c

theorem Like.across {α : Type} [Likened P α] [Euclidean P α] {ρ σ : Likeness P} {a b c : α} (h : Like ρ a b)
    (h' : Like σ a c) : Like (ρ.across σ) b c := Euclidean.across h h'

instance {α : Type} [Literal α] : Euclidean P α := ⟨fun h h' => Eq.trans h' (Eq.symm h)⟩

instance {α : Type} [Likened P α] [Euclidean P α] : Euclidean P (Option α) where
  across h h' := by
    cases h with
    | none =>
      cases h'
      exact .none
    | some h =>
      cases h' with
      | some h' => exact .some (h.across h')

instance {α : Type} [Likened P α] [Euclidean P α] : Euclidean P (List α) where
  across {ρ σ _ _ _} h h' := forall₂_across (R := Like ρ) (S := Like σ) (fun _ _ _ h h' => h.across h') h h'

instance {α β : Type} [Likened P α] [Likened P β] [Euclidean P α] [Euclidean P β] : Euclidean P (α × β) :=
  ⟨fun h h' => ⟨h.1.across h'.1, h.2.across h'.2⟩⟩

instance {ε α : Type} [Likened P ε] [Likened P α] [Euclidean P ε] [Euclidean P α] : Euclidean P (Except ε α) where
  across h h' := by
    cases h with
    | ok h =>
      cases h' with
      | ok h' => exact .ok (h.across h')
    | error h =>
      cases h' with
      | error h' => exact .error (h.across h')

instance : Euclidean P Text := ⟨fun h h' => Text.Like.across h h'⟩
instance : Euclidean P Code := ⟨fun h h' => Code.Like.across h h'⟩
instance : Euclidean P Frame := ⟨fun h h' => Frame.Like.across h h'⟩
instance : Euclidean P Exception := ⟨fun h h' => Exception.Like.across h h'⟩
instance : Euclidean P Traceback := ⟨fun h h' => Traceback.Like.across h h'⟩
instance : Euclidean P Value := ⟨fun h h' => Value.Like.across h h'⟩
instance : Euclidean P CellId := ⟨fun h h' => ⟨_, h, h'⟩⟩
instance : Euclidean P CoroutineId := ⟨fun h h' => ⟨_, h, h'⟩⟩

instance : Euclidean P L.Script where
  across {ρ σ a b c} h h' := by
    obtain ⟨rfl, -⟩ := h
    exact h'

instance : Euclidean P PendingException where
  across h h' :=
    { kind := h'.kind.trans h.kind.symm
      value := h.value.across h'.value
      traceback := h.traceback.across h'.traceback }

instance : Euclidean P Inputs where
  across h h' :=
    { parameters := h.parameters.across h'.parameters
      closure := h.closure.across h'.closure
      parametersReleased := h'.parametersReleased.trans h.parametersReleased.symm }

instance : Euclidean P Delegation where
  across h h' :=
    { delegate := h.delegate.across h'.delegate
      operand := h.operand.across h'.operand
      target := h'.target.trans h.target.symm }

instance : Euclidean P Waiting where
  across h h' := by
    cases h with
    | start =>
      cases h'
      exact .start
    | delivery target =>
      cases h'
      exact .delivery target
    | delegate h =>
      cases h' with
      | delegate h' => exact .delegate (h.across h')

instance : Euclidean P (Activation L) where
  across h h' :=
    { state := h'.state.trans h.state.symm
      safe := by
        rw [h.state]
        exact h'.safe
      locals := h.locals.across h'.locals
      held := h.held.across h'.held
      waiting := h.waiting.across h'.waiting }

instance : Euclidean P (Stack L) where
  across h h' := by
    cases h with
    | fresh =>
      cases h'
      exact .fresh
    | suspended h =>
      cases h' with
      | suspended h' => exact .suspended (h.across h')
    | completed =>
      cases h'
      exact .completed
    | released =>
      cases h'
      exact .released

instance : Euclidean P (Fiber L) where
  across h h' :=
    { stackSize := h'.stackSize.trans h.stackSize.symm
      lossIn := h'.lossIn.trans h.lossIn.symm
      stack := h.stack.across h'.stack }

/-! ## Records -/

instance : Euclidean P ExceptionRecord where
  across h h' :=
    { handles := h'.handles.trans h.handles.symm
      args := h.args.across h'.args
      cause := h.cause.across h'.cause
      context := h.context.across h'.context
      suppressContext := h'.suppressContext.trans h.suppressContext.symm
      traceback := h.traceback.across h'.traceback }

instance : Euclidean P CellRecord where
  across h h' := { handles := h'.handles.trans h.handles.symm, content := h.content.across h'.content }

instance : Euclidean P WrapperRecord where
  across h h' := { handles := h'.handles.trans h.handles.symm, coroutine := h.coroutine.across h'.coroutine }

instance : Euclidean P (CoroutineRecord L) where
  across h h' :=
    { handles := h'.handles.trans h.handles.symm
      name := h.name.across h'.name
      qualname := h.qualname.across h'.qualname
      code := h.code.across h'.code
      status := h'.status.trans h.status.symm
      running := h'.running.trans h.running.symm
      finalized := h'.finalized.trans h.finalized.symm
      fiber := h.fiber.across h'.fiber
      supply := h'.supply.trans h.supply.symm
      pending := h.pending.across h'.pending
      frame := h.frame.across h'.frame
      awaiting := h.awaiting.across h'.awaiting
      handled := h.handled.across h'.handled
      inputs := h.inputs.across h'.inputs
      reportChildren := h'.reportChildren.trans h.reportChildren.symm }

theorem Kind.LikeRecord.across {ρ σ : Likeness P} {k : Kind} {r s t : k.Record L} (h : k.LikeRecord ρ r s)
    (h' : k.LikeRecord σ r t) : k.LikeRecord (ρ.across σ) s t := by
  cases k with
  | identity => trivial
  | code => exact Like.across (α := Option L.Script) h h'
  | tuple => exact Eq.trans h' (Eq.symm h)
  | exception => exact Like.across (α := ExceptionRecord) h h'
  | cell => exact Like.across (α := CellRecord) h h'
  | coroutine => exact Like.across (α := CoroutineRecord L) (ρ := ρ) (σ := σ) h h'
  | wrapper => exact Like.across (α := WrapperRecord) h h'
  | frame => exact Eq.trans h' (Eq.symm h)

/-! ## Worlds -/

/-- What stands for each other looks alike. -/
def World.Resembles (ρ : Likeness P) (w w' : World L) : Prop :=
  ∀ {k i j}, ρ.pairs k i j → k.LikeRecord ρ (w.record k i) (w'.record k j)

/-- Two worlds that one world mirrors look alike, as far as it sees them. -/
theorem World.Mirrors.across {ρ σ : Likeness P} {u w w' : World L} (h : u.Mirrors ρ w) (h' : u.Mirrors σ w') :
    w.Resembles (ρ.across σ) w' := by
  rintro k i j ⟨m, hi, hj⟩
  exact (h.records hi).across (h'.records hj)

end CoroutineEngine
