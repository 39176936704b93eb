import CoroutineEngine.Client.Evaluation
import CoroutineEngine.Coroutine.Protocol
import CoroutineEngine.Proofs.Likeness.Privacy
import CoroutineEngine.Proofs.Twins

/-!
# Worlds that mirror each other

A world mirrors another one in the objects that are paired: their records are like each other. It may have any other
objects besides. Those that are listed as spared stay as they are. A computation echoes another one if it ends alike
in a world that mirrors the other's: with a result that is like the other's, in worlds that mirror each other again,
as new objects are paired as they are made. Whenever the first one gives a result, the second one does.

Results:
* `Like.mono`: what is like each other stays so when more is paired.
* `World.Mirrors.gain`, `World.Mirrors.alter`: what is made and what is changed on both sides.
* `Echoes.bind`, `Echoes.onPanic`, `Echoes.andFinally`: echoes compose.
-/

namespace CoroutineEngine

variable {L : Language} {P : Privacy L}

/-! ## Likenesses -/

/-- What a number stands for. An identity is a bare number; a code names a program. -/
abbrev Kind.Record (L : Language) : Kind → Type
  | .identity => Unit
  | .code => Option L.Script
  | .tuple => Nat
  | .exception => ExceptionRecord
  | .cell => CellRecord
  | .coroutine => CoroutineRecord L
  | .wrapper => WrapperRecord
  | .frame => FrameRecord

/-- Its objects can change. An identity is what it is, and so is a code. -/
def Kind.Changes (k : Kind) : Prop := k ≠ .identity ∧ k ≠ .code

instance : DecidablePred Kind.Changes := fun _ => inferInstanceAs (Decidable (_ ∧ _))

/-- What coroutines are built under, and which log lines are wanted. -/
def World.climate (w : World L) : Settings × Option LogLevel := (w.settings, w.logLevel)

/-- What one world has in common with another one, in which bodies do what is private: which objects stand for each
other, which objects of the other world are none of its business, and what they look like, the climate, where bodies
cannot change it, and how many more steps the clock of the other world has. -/
structure Likeness (P : Privacy L) extends Pairing where
  spared : (k : Kind) → Nat → k.Record L → Prop
  climate : Settings × Option LogLevel
  slack : Nat

namespace Likeness

/-- More objects are paired. -/
structure Extends (ρ κ : Likeness P) : Prop where
  pairs : ∀ k i j, ρ.pairs k i j → κ.pairs k i j

/-- More objects are paired, and nothing else is different. -/
structure Grows (ρ κ : Likeness P) : Prop extends ρ.Extends κ where
  spared : κ.spared = ρ.spared
  climate : κ.climate = ρ.climate
  slack : κ.slack = ρ.slack

instance {ρ κ : Likeness P} : Coe (ρ.Grows κ) (ρ.Extends κ) := ⟨Grows.toExtends⟩

theorem Extends.refl (ρ : Likeness P) : ρ.Extends ρ := ⟨fun _ _ _ h => h⟩

theorem Extends.trans {ρ κ μ : Likeness P} (h : ρ.Extends κ) (h' : κ.Extends μ) : ρ.Extends μ :=
  ⟨fun k i j hij => h'.pairs k i j (h.pairs k i j hij)⟩

theorem Grows.refl (ρ : Likeness P) : ρ.Grows ρ := ⟨.refl ρ, rfl, rfl, rfl⟩

theorem Grows.trans {ρ κ μ : Likeness P} (h : ρ.Grows κ) (h' : κ.Grows μ) : ρ.Grows μ :=
  ⟨h.toExtends.trans h'.toExtends, h'.spared.trans h.spared, h'.climate.trans h.climate, h'.slack.trans h.slack⟩

/-- Two more numbers are paired, that were not paired with any before. -/
def add (ρ : Likeness P) (k : Kind) (i j : Nat) (hi : ∀ j', ¬ ρ.pairs k i j') (hj : ∀ i', ¬ ρ.pairs k i' j) :
    Likeness P :=
  { ρ with
    pairs l m n := ρ.pairs l m n ∨ l = k ∧ m = i ∧ n = j
    functional := by
      rintro l m n n' (h | ⟨rfl, rfl, rfl⟩) (h' | ⟨hl, hm, hn⟩)
      · exact ρ.functional h h'
      · subst hl hm
        exact absurd h (hi _)
      · exact absurd h' (hi _)
      · exact hn
    injective := by
      rintro l m m' n (h | ⟨rfl, rfl, rfl⟩) (h' | ⟨hl, hm, hn⟩)
      · exact ρ.injective h h'
      · subst hl hn
        exact absurd h (hj _)
      · exact absurd h' (hj _)
      · exact hm }

variable {ρ : Likeness P} {k : Kind} {i j : Nat} {hi : ∀ j', ¬ ρ.pairs k i j'} {hj : ∀ i', ¬ ρ.pairs k i' j}

theorem grows_add : ρ.Grows (ρ.add k i j hi hj) := ⟨⟨fun _ _ _ => .inl⟩, rfl, rfl, rfl⟩

theorem add_pairs : (ρ.add k i j hi hj).pairs k i j := .inr ⟨rfl, rfl, rfl⟩

end Likeness

/-! ## What is like each other -/

/-- Data that differs in paired numbers at most; it does so still when more is paired. -/
class Likened (P : Privacy L) (α : Type) where
  like : Likeness P → α → α → Prop
  mono : ∀ {ρ κ : Likeness P} {a a' : α}, ρ.Extends κ → like ρ a a' → like κ a a'

/-- The second differs from the first in paired numbers at most. -/
abbrev Like {α : Type} [Likened P α] (ρ : Likeness P) (a a' : α) : Prop := Likened.like ρ a a'

theorem Like.mono {α : Type} [Likened P α] {ρ κ : Likeness P} {a a' : α} (h : ρ.Extends κ) (ha : Like ρ a a') :
    Like κ a a' := Likened.mono h ha

/-- Data without numbers of objects in it. -/
class Literal (α : Type) : Prop

instance (priority := low) {α : Type} [Literal α] : Likened P α := ⟨fun _ a a' => a' = a, fun _ h => h⟩

instance : Literal Unit where
instance : Literal Bool where
instance : Literal Nat where
instance : Literal String where
instance : Literal UInt32 where
instance : Literal ExceptionClass where
instance : Literal Datum where
instance : Literal FiberError where
instance : Literal FiberSupply where
instance : Literal CountingFiber where
instance : Literal Status where

/-- Data that nothing depends on. -/
def Hidden (α : Type) : Type := α

instance {α : Type} : Likened P (Hidden α) := ⟨fun _ _ _ => True, fun _ _ => trivial⟩

instance {α : Type} [Likened P α] : Likened P (Option α) where
  like ρ := Option.Rel (Like ρ)
  mono h ha := by
    cases ha with
    | none => exact .none
    | some ha => exact .some (ha.mono h)

instance {α : Type} [Likened P α] : Likened P (List α) where
  like ρ := List.Forall₂ (Like ρ)
  mono h has := has.imp fun _ _ ha => Like.mono h ha

instance {α β : Type} [Likened P α] [Likened P β] : Likened P (α × β) where
  like ρ p p' := Like ρ p.1 p'.1 ∧ Like ρ p.2 p'.2
  mono h hp := ⟨hp.1.mono h, hp.2.mono h⟩

/-- Results that are like each other, or errors that are. -/
inductive Except.Like {ε α : Type} [Likened P ε] [Likened P α] (ρ : Likeness P) : Except ε α → Except ε α → Prop
  | ok {a a' : α} (h : CoroutineEngine.Like ρ a a') : Like ρ (.ok a) (.ok a')
  | error {e e' : ε} (h : CoroutineEngine.Like ρ e e') : Like ρ (.error e) (.error e')

instance {ε α : Type} [Likened P ε] [Likened P α] : Likened P (Except ε α) where
  like := Except.Like
  mono h hr := by
    cases hr with
    | ok ha => exact .ok (ha.mono h)
    | error he => exact .error (he.mono h)

instance : Likened P Text := ⟨fun ρ => Text.Like ρ.toPairing, fun h ht => ht.mono h.pairs⟩
instance : Likened P Code := ⟨fun ρ => Code.Like ρ.toPairing, fun h hc => hc.mono h.pairs⟩
instance : Likened P Frame := ⟨fun ρ => Frame.Like ρ.toPairing, fun h hf => hf.mono h.pairs⟩
instance : Likened P Exception := ⟨fun ρ => Exception.Like ρ.toPairing, fun h he => he.mono h.pairs⟩
instance : Likened P TracebackEntry := ⟨fun ρ => TracebackEntry.Like ρ.toPairing, fun h ht => ht.mono h.pairs⟩
instance : Likened P Traceback := ⟨fun ρ => Traceback.Like ρ.toPairing, fun h ht => ht.mono h.pairs⟩
instance : Likened P Value := ⟨fun ρ => Value.Like ρ.toPairing, fun h hv => hv.mono h.pairs⟩
instance : Likened P CellId := ⟨fun ρ c c' => ρ.pairs .cell c.index c'.index, fun h hc => h.pairs _ _ _ hc⟩
instance : Likened P CoroutineId := ⟨fun ρ c c' => ρ.pairs .coroutine c.index c'.index, fun h hc => h.pairs _ _ _ hc⟩
instance : Likened P WrapperId := ⟨fun ρ x x' => ρ.pairs .wrapper x.index x'.index, fun h hx => h.pairs _ _ _ hx⟩

/-- A number that is an identity. -/
def Identity : Type := Nat

instance : Likened P Identity := ⟨fun ρ i j => ρ.pairs .identity i j, fun h hij => h.pairs _ _ _ hij⟩

/-- The same program, from the start of which a body keeps to itself. -/
instance : Likened P L.Script where
  like _ p p' := p' = p ∧ P.safe (L.start p)
  mono _ hp := hp

/-! ### What owns values -/

/-- Triples that are like each other in every part. -/
structure PendingException.Like (ρ : Likeness P) (p p' : PendingException) : Prop where
  kind : p'.kind = p.kind
  value : CoroutineEngine.Like ρ p.value p'.value
  traceback : CoroutineEngine.Like ρ p.traceback p'.traceback

instance : Likened P PendingException where
  like := PendingException.Like
  mono h hp := { hp with value := hp.value.mono h, traceback := hp.traceback.mono h }

/-- Transfers that are like each other in every part. -/
structure Transfer.Like (ρ : Likeness P) (t t' : Transfer) : Prop where
  value : CoroutineEngine.Like ρ t.value t'.value
  exception : CoroutineEngine.Like ρ t.exception t'.exception

instance : Likened P Transfer := ⟨Transfer.Like, fun h ht => ⟨ht.value.mono h, ht.exception.mono h⟩⟩

/-- Errors of drivers that are like each other; their frames may be any. -/
structure DriverState.Like (ρ : Likeness P) (d d' : DriverState) : Prop where
  error : CoroutineEngine.Like ρ d.error d'.error
  handled : CoroutineEngine.Like ρ d.handled d'.handled

instance : Likened P DriverState := ⟨DriverState.Like, fun h hd => ⟨hd.error.mono h, hd.handled.mono h⟩⟩

/-- Contexts that are like each other in every part. -/
structure Context.Like (ρ : Likeness P) (k k' : Context) : Prop where
  coroutine : CoroutineEngine.Like ρ k.coroutine k'.coroutine
  code : CoroutineEngine.Like ρ k.code k'.code
  frame : CoroutineEngine.Like ρ k.frame k'.frame

instance : Likened P Context :=
  ⟨Context.Like, fun h hk => ⟨hk.coroutine.mono h, hk.code.mono h, hk.frame.mono h⟩⟩

/-- Scopes that are like each other in every part. -/
structure Scope.Like (ρ : Likeness P) (s s' : Scope) : Prop where
  context : CoroutineEngine.Like ρ s.context s'.context
  locals : CoroutineEngine.Like ρ s.locals s'.locals

instance : Likened P Scope := ⟨Scope.Like, fun h hs => ⟨hs.context.mono h, hs.locals.mono h⟩⟩

/-- Inputs that are like each other in every part. -/
structure Inputs.Like (ρ : Likeness P) (i i' : Inputs) : Prop where
  parameters : CoroutineEngine.Like ρ i.parameters i'.parameters
  closure : CoroutineEngine.Like ρ i.closure i'.closure
  parametersReleased : i'.parametersReleased = i.parametersReleased

instance : Likened P Inputs where
  like := Inputs.Like
  mono h hi := { hi with parameters := hi.parameters.mono h, closure := hi.closure.mono h }

/-- Delegations that are like each other in every part. -/
structure Delegation.Like (ρ : Likeness P) (d d' : Delegation) : Prop where
  delegate : CoroutineEngine.Like ρ d.delegate d'.delegate
  operand : CoroutineEngine.Like ρ d.operand d'.operand
  target : d'.target = d.target

instance : Likened P Delegation where
  like := Delegation.Like
  mono h hd := { hd with delegate := hd.delegate.mono h, operand := hd.operand.mono h }

/-- Waits for the same, or for delegations that are like each other. -/
inductive Waiting.Like (ρ : Likeness P) : Waiting → Waiting → Prop
  | start : Like ρ .start .start
  | delivery (target : Option String) : Like ρ (.delivery target) (.delivery target)
  | delegate {d d' : Delegation} (h : CoroutineEngine.Like ρ d d') : Like ρ (.delegate d) (.delegate d')

instance : Likened P Waiting where
  like := Waiting.Like
  mono h hw := by
    cases hw with
    | start => exact .start
    | delivery target => exact .delivery target
    | delegate hd => exact .delegate (hd.mono h)

/-- Activations in the same control state, from which the body keeps to itself, with values that are like each
other. -/
structure Activation.Like (ρ : Likeness P) (a a' : Activation L) : Prop where
  state : a'.state = a.state
  safe : P.safe a.state
  locals : CoroutineEngine.Like ρ a.locals a'.locals
  held : CoroutineEngine.Like ρ a.held a'.held
  waiting : CoroutineEngine.Like ρ a.waiting a'.waiting

instance : Likened P (Activation L) where
  like := Activation.Like
  mono h ha :=
    { ha with
      locals := ha.locals.mono h
      held := ha.held.mono h
      waiting := ha.waiting.mono h }

/-- Ends of a run that are like each other. -/
inductive Exit.Like (ρ : Likeness P) : Exit L → Exit L → Prop
  | suspended {v v' : Value} {a a' : Activation L} (hv : CoroutineEngine.Like ρ v v')
      (ha : CoroutineEngine.Like ρ a a') : Like ρ (.suspended v a) (.suspended v' a')
  | completed {r r' : Reply} (h : CoroutineEngine.Like ρ r r') : Like ρ (.completed r) (.completed r')

instance : Likened P (Exit L) where
  like := Exit.Like
  mono h hx := by
    cases hx with
    | suspended hv ha => exact .suspended (hv.mono h) (ha.mono h)
    | completed hr => exact .completed (hr.mono h)

/-- Stacks in the same state, with activations that are like each other. -/
inductive Stack.Like (ρ : Likeness P) : Stack L → Stack L → Prop
  | fresh : Like ρ .fresh .fresh
  | suspended {a a' : Activation L} (h : CoroutineEngine.Like ρ a a') : Like ρ (.suspended a) (.suspended a')
  | completed : Like ρ .completed .completed
  | released : Like ρ .released .released

instance : Likened P (Stack L) where
  like := Stack.Like
  mono h hs := by
    cases hs with
    | fresh => exact .fresh
    | suspended ha => exact .suspended (ha.mono h)
    | completed => exact .completed
    | released => exact .released

/-- Fibers that are like each other in every part. -/
structure Fiber.Like (ρ : Likeness P) (f f' : Fiber L) : Prop where
  stackSize : f'.stackSize = f.stackSize
  lossIn : f'.lossIn = f.lossIn
  stack : CoroutineEngine.Like ρ f.stack f'.stack

instance : Likened P (Fiber L) := ⟨Fiber.Like, fun h hf => { hf with stack := hf.stack.mono h }⟩

/-- Hooks of one mode, with the same program, that own what is like each other. There are none where bodies do not
reach the thread. -/
structure Hook.Like (ρ : Likeness P) (h h' : Hook L) : Prop where
  reach : P.reach.thread
  mode : h'.mode = h.mode
  program : CoroutineEngine.Like ρ h.program h'.program
  owned : CoroutineEngine.Like ρ h.owned h'.owned

instance : Likened P (Hook L) := ⟨Hook.Like, fun h hh => { hh with owned := hh.owned.mono h }⟩

/-! ### Records -/

/-- Exceptions that look alike. -/
structure ExceptionRecord.Like (ρ : Likeness P) (r r' : ExceptionRecord) : Prop where
  handles : r'.handles = r.handles
  args : CoroutineEngine.Like ρ r.args r'.args
  cause : CoroutineEngine.Like ρ r.cause r'.cause
  context : CoroutineEngine.Like ρ r.context r'.context
  suppressContext : r'.suppressContext = r.suppressContext
  traceback : CoroutineEngine.Like ρ r.traceback r'.traceback

instance : Likened P ExceptionRecord where
  like := ExceptionRecord.Like
  mono h hr :=
    { hr with
      args := hr.args.mono h
      cause := hr.cause.mono h
      context := hr.context.mono h
      traceback := hr.traceback.mono h }

/-- Cells that look alike. -/
structure CellRecord.Like (ρ : Likeness P) (r r' : CellRecord) : Prop where
  handles : r'.handles = r.handles
  content : CoroutineEngine.Like ρ r.content r'.content

instance : Likened P CellRecord := ⟨CellRecord.Like, fun h hr => { hr with content := hr.content.mono h }⟩

/-- Wrappers that look alike. -/
structure WrapperRecord.Like (ρ : Likeness P) (r r' : WrapperRecord) : Prop where
  handles : r'.handles = r.handles
  coroutine : CoroutineEngine.Like ρ r.coroutine r'.coroutine

instance : Likened P WrapperRecord := ⟨WrapperRecord.Like, fun h hr => { hr with coroutine := hr.coroutine.mono h }⟩

/-- Frames at the same line; their callers may be any. -/
instance : Likened P FrameRecord := ⟨fun _ r r' => r'.line = r.line, fun _ h => h⟩

/-- Coroutines that look alike. What is noted of their histories may be anything. -/
structure CoroutineRecord.Like (ρ : Likeness P) (r r' : CoroutineRecord L) : Prop where
  handles : r'.handles = r.handles
  name : CoroutineEngine.Like ρ r.name r'.name
  qualname : CoroutineEngine.Like ρ r.qualname r'.qualname
  code : CoroutineEngine.Like ρ r.code r'.code
  status : r'.status = r.status
  running : r'.running = r.running
  finalized : r'.finalized = r.finalized
  fiber : CoroutineEngine.Like ρ r.fiber r'.fiber
  supply : r'.supply = r.supply
  pending : CoroutineEngine.Like ρ r.pending r'.pending
  frame : CoroutineEngine.Like ρ r.frame r'.frame
  awaiting : CoroutineEngine.Like ρ r.awaiting r'.awaiting
  handled : CoroutineEngine.Like ρ r.handled r'.handled
  inputs : CoroutineEngine.Like ρ r.inputs r'.inputs
  reportChildren : r'.reportChildren = r.reportChildren

instance : Likened P (CoroutineRecord L) where
  like := CoroutineRecord.Like
  mono h hr :=
    { hr with
      name := hr.name.mono h
      qualname := hr.qualname.mono h
      code := hr.code.mono h
      fiber := hr.fiber.mono h
      pending := hr.pending.mono h
      frame := hr.frame.mono h
      awaiting := hr.awaiting.mono h
      handled := hr.handled.mono h
      inputs := hr.inputs.mono h }

/-- Records that look alike. -/
def Kind.LikeRecord (ρ : Likeness P) : (k : Kind) → k.Record L → k.Record L → Prop
  | .identity => fun _ _ => True
  | .code => fun script script' => CoroutineEngine.Like ρ script script'
  | .tuple => fun n n' => n' = n
  | .exception => ExceptionRecord.Like ρ
  | .cell => CellRecord.Like ρ
  | .coroutine => CoroutineRecord.Like ρ
  | .wrapper => WrapperRecord.Like ρ
  | .frame => fun r r' => r'.line = r.line

theorem Kind.LikeRecord.mono {ρ κ : Likeness P} (h : ρ.Extends κ) {k : Kind} {r r' : k.Record L}
    (hr : k.LikeRecord ρ r r') : k.LikeRecord κ r r' := by
  cases k with
  | identity => trivial
  | code => exact Like.mono (α := Option L.Script) h hr
  | tuple => exact hr
  | exception => exact Like.mono (α := ExceptionRecord) h hr
  | cell => exact Like.mono (α := CellRecord) h hr
  | coroutine => exact Like.mono (α := CoroutineRecord L) h hr
  | wrapper => exact Like.mono (α := WrapperRecord) h hr
  | frame => exact hr

/-! ## Worlds -/

/-- The number that the next object of a kind gets. -/
def World.extent (w : World L) : Kind → Nat
  | .identity => w.serial
  | .code => w.programs.size
  | .tuple => w.tuples.size
  | .exception => w.exceptions.size
  | .cell => w.cells.size
  | .coroutine => w.coroutines.size
  | .wrapper => w.wrappers.size
  | .frame => w.frames.size

/-- What a number stands for in a world. -/
def World.record (w : World L) : (k : Kind) → Nat → k.Record L
  | .identity, _ => ()
  | .code, i => w.programs[i]?
  | .tuple, i => w.tuples.get i
  | .exception, i => w.exceptions.get i
  | .cell, i => w.cells.get i
  | .coroutine, i => w.coroutines.get i
  | .wrapper, i => w.wrappers.get i
  | .frame, i => w.frames.get i

/-- Errors, handled exceptions and hooks that are like each other. Either both states are borrowed, or neither is; that
is done for hooks only. The frames may be any. -/
structure Ambient.Like (ρ : Likeness P) (a a' : Ambient L) : Prop where
  error : CoroutineEngine.Like ρ a.error a'.error
  handled : CoroutineEngine.Like ρ a.handled a'.handled
  hook : CoroutineEngine.Like ρ a.hook a'.hook
  borrowed : a'.borrowed = a.borrowed
  lender : a.borrowed → P.reach.thread

theorem Ambient.Like.mono {ρ κ : Likeness P} (h : ρ.Extends κ) {a a' : Ambient L} (ha : a.Like ρ a') : a.Like κ a' :=
  { ha with error := ha.error.mono h, handled := ha.handled.mono h, hook := ha.hook.mono h }

/-- Names that are in order, each of them once. -/
def Named.IsSorted {α : Type} (s : Named α) : Prop := s.Pairwise fun p q => p.1 < q.1

/-- A world mirrors another one: what is paired looks alike, and what is spared is as it was. The other world has
made no fewer objects of any kind. Slots and weak references within reach look alike, and if bodies reach the thread,
the next identity is the same, and so are the fibers. -/
structure World.Mirrors (ρ : Likeness P) (w w' : World L) : Prop where
  bounds : ∀ {k i j}, ρ.pairs k i j → i < w.extent k ∧ j < w'.extent k
  records : ∀ {k i j}, ρ.pairs k i j → k.LikeRecord ρ (w.record k i) (w'.record k j)
  spared : ∀ {k j r}, ρ.spared k j r → j < w'.extent k ∧ w'.record k j = r
  apart : ∀ {k i j r}, k.Changes → ρ.spared k j r → ¬ ρ.pairs k i j
  fewer : ∀ k, w.extent k ≤ w'.extent k
  ambient : w.ambient.Like ρ w'.ambient
  slots : ∀ {name}, P.reach.slots name → Like ρ (w.slots.lookup name) (w'.slots.lookup name)
  sorted : ∀ {name}, P.reach.slots name → w.slots.IsSorted ∧ w'.slots.IsSorted
  weaks : ∀ {name}, P.reach.weaks name → Like ρ (w.weaks.lookup name) (w'.weaks.lookup name)
  thread : P.reach.thread → w'.serial = w.serial ∧ w'.fibers = w.fibers
  climate : w'.climate = w.climate
  steady : P.reach.thread = false → w.climate = ρ.climate
  clock : w'.clock = w.clock + ρ.slack

theorem World.Mirrors.settings {ρ : Likeness P} {w w' : World L} (hw : w.Mirrors ρ w') : w'.settings = w.settings :=
  congrArg Prod.fst hw.climate

theorem World.Mirrors.logLevel {ρ : Likeness P} {w w' : World L} (hw : w.Mirrors ρ w') : w'.logLevel = w.logLevel :=
  congrArg Prod.snd hw.climate

/-- A computation echoes another one: in a world that mirrors the other's, it ends alike if the other one ends with a
result. -/
structure Echoes {α : Type} [Likened P α] (ρ : Likeness P) (x x' : Effect L α) : Prop where
  twins : ∀ w w', w.Mirrors ρ w' →
    Twins False (fun a v a' v' => ∃ κ, ρ.Grows κ ∧ v.Mirrors κ v' ∧ Like κ a a') (fun _ _ => True) x x' w w'

/-- Whatever one engine does for what keeps to itself, another engine does alike. The programs of hooks are run only
where bodies reach the thread. -/
structure Engine.IsEchoedBy (E : Engine L) (P : Privacy L) (F : Engine L) : Prop where
  release : ∀ {ρ : Likeness P} {v v' : Value}, Like ρ v v' → Echoes ρ (E.release v) (F.release v')
  run : ∀ {ρ : Likeness P} {k k' : Option Context} {a a' : Activation L} {t t' : Transfer}, Like ρ k k' →
    (k = none → P.reach.thread) → Like ρ a a' → Like ρ t t' → Echoes ρ (E.run k a t) (F.run k' a' t')

end CoroutineEngine
