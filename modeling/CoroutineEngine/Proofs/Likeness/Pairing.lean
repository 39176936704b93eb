import CoroutineEngine.Value
import CoroutineEngine.Exception.Pending
import Mathlib.Data.List.Forall2

/-!
# Values that differ in their numbers only

Two runs that do the same make the same objects, but give them different numbers when one of them makes other
objects in between. A pairing says which number in one run stands for which in the other, one to one. Two values
are like each other if they differ in paired numbers at most.

Results:
* `Value.Like.equals`, `Value.Like.identical`: no comparison tells apart what is paired.
-/

namespace CoroutineEngine

/-! ## Pairings -/

/-- What is numbered in the order of its making. -/
inductive Kind
  | identity
  | code
  | tuple
  | exception
  | cell
  | coroutine
  | wrapper
  | frame
  deriving DecidableEq

/-- Which numbers of each kind stand for each other, one to one. -/
structure Pairing where
  pairs : Kind → Nat → Nat → Prop
  functional : ∀ {k i j j'}, pairs k i j → pairs k i j' → j' = j
  injective : ∀ {k i i' j}, pairs k i j → pairs k i' j → i' = i

namespace Pairing

variable {ρ : Pairing} {k : Kind}

/-- Numbers are equal exactly if those are that are paired with them. -/
theorem beq_eq {i i' j j' : Nat} (h : ρ.pairs k i j) (h' : ρ.pairs k i' j') : (j == j') = (i == i') := by
  have same : j = j' ↔ i = i' := by
    constructor
    · rintro rfl
      exact ρ.injective h' h
    · rintro rfl
      exact ρ.functional h' h
  simp only [beq_eq_decide, same]

end Pairing

/-! ## Values -/

/-- Texts with paired identities and the same content. -/
structure Text.Like (ρ : Pairing) (t t' : Text) : Prop where
  identity : ρ.pairs .identity t.identity t'.identity
  content : t'.content = t.content

/-- Codes with paired numbers that look the same. -/
structure Code.Like (ρ : Pairing) (c c' : Code) : Prop where
  entry : ρ.pairs .code c.entry c'.entry
  name : c.name.Like ρ c'.name
  qualname : c.qualname.Like ρ c'.qualname
  firstLine : c'.firstLine = c.firstLine
  generatorStop : c'.generatorStop = c.generatorStop

/-- Paired frames of codes that are like each other. -/
structure Frame.Like (ρ : Pairing) (f f' : Frame) : Prop where
  index : ρ.pairs .frame f.index f'.index
  code : f.code.Like ρ f'.code

/-- Paired exceptions of one class. -/
structure Exception.Like (ρ : Pairing) (e e' : Exception) : Prop where
  index : ρ.pairs .exception e.index e'.index
  cls : e'.cls = e.cls

/-- Entries with paired identities, for the same place. -/
structure TracebackEntry.Like (ρ : Pairing) (t t' : TracebackEntry) : Prop where
  identity : ρ.pairs .identity t.identity t'.identity
  name : t'.name = t.name
  line : t'.line = t.line

/-- Tracebacks that are like each other entry by entry. -/
structure Traceback.Like (ρ : Pairing) (t t' : Traceback) : Prop where
  head : t.head.Like ρ t'.head
  tail : List.Forall₂ (TracebackEntry.Like ρ) t.tail t'.tail

/-- Values that differ in paired numbers at most. -/
inductive Value.Like (ρ : Pairing) : Value → Value → Prop
  | none : Like ρ .none .none
  | bool (b : Bool) : Like ρ (.bool b) (.bool b)
  | int (i : Int64) : Like ρ (.int i) (.int i)
  | float (x : Float) : Like ρ (.float x) (.float x)
  | str {t t' : Text} (h : t.Like ρ t') : Like ρ (.str t) (.str t')
  | tuple {i j : Nat} {items items' : List Value} (h : ρ.pairs .tuple i j)
      (hitems : List.Forall₂ (Value.Like ρ) items items') : Like ρ (.tuple i items) (.tuple j items')
  | exceptionClass (cls : ExceptionClass) : Like ρ (.exceptionClass cls) (.exceptionClass cls)
  | exception {e e' : Exception} (h : e.Like ρ e') : Like ρ (.exception e) (.exception e')
  | traceback {t t' : Traceback} (h : t.Like ρ t') : Like ρ (.traceback t) (.traceback t')
  | cell {c c' : CellId} (h : ρ.pairs .cell c.index c'.index) : Like ρ (.cell c) (.cell c')
  | code {c c' : Code} (h : c.Like ρ c') : Like ρ (.code c) (.code c')
  | frame {f f' : Frame} (h : f.Like ρ f') : Like ρ (.frame f) (.frame f')
  | coroutine {c c' : CoroutineId} (h : ρ.pairs .coroutine c.index c'.index) : Like ρ (.coroutine c) (.coroutine c')
  | wrapper {x x' : WrapperId} (h : ρ.pairs .wrapper x.index x'.index) : Like ρ (.wrapper x) (.wrapper x')

namespace Value.Like

variable {ρ : Pairing} {v v' u u' : Value}

theorem isNone (h : v.Like ρ v') : v'.isNone = v.isNone := by cases h <;> rfl

theorem isTrue (h : v.Like ρ v') : v'.isTrue = v.isTrue := by cases h <;> rfl

theorem asInt? (h : v.Like ρ v') : v'.asInt? = v.asInt? := by cases h <;> rfl

theorem typeName (h : v.Like ρ v') : v'.typeName = v.typeName := by cases h <;> rfl

end Value.Like

/-! ## More pairs -/

section

variable {ρ κ : Pairing} (h : ∀ k i j, ρ.pairs k i j → κ.pairs k i j)

include h

theorem Text.Like.mono {t t' : Text} (ht : t.Like ρ t') : t.Like κ t' :=
  { ht with identity := h _ _ _ ht.identity }

theorem Code.Like.mono {c c' : Code} (hc : c.Like ρ c') : c.Like κ c' :=
  { hc with entry := h _ _ _ hc.entry, name := hc.name.mono h, qualname := hc.qualname.mono h }

theorem Frame.Like.mono {f f' : Frame} (hf : f.Like ρ f') : f.Like κ f' :=
  ⟨h _ _ _ hf.index, hf.code.mono h⟩

theorem Exception.Like.mono {e e' : Exception} (he : e.Like ρ e') : e.Like κ e' :=
  { he with index := h _ _ _ he.index }

theorem TracebackEntry.Like.mono {t t' : TracebackEntry} (ht : t.Like ρ t') : t.Like κ t' :=
  { ht with identity := h _ _ _ ht.identity }

theorem Traceback.Like.mono {t t' : Traceback} (ht : t.Like ρ t') : t.Like κ t' :=
  ⟨ht.head.mono h, ht.tail.imp fun _ _ ht => ht.mono h⟩

omit h

mutual

theorem Value.Like.mono (h : ∀ k i j, ρ.pairs k i j → κ.pairs k i j) {v v' : Value} (hv : v.Like ρ v') : v.Like κ v' := by
  cases hv with
  | none => exact .none
  | bool b => exact .bool b
  | int i => exact .int i
  | float x => exact .float x
  | str ht => exact .str (ht.mono h)
  | tuple hi hitems => exact .tuple (h _ _ _ hi) (Value.Like.mono_all h hitems)
  | exceptionClass cls => exact .exceptionClass cls
  | exception he => exact .exception (he.mono h)
  | traceback ht => exact .traceback (ht.mono h)
  | cell hc => exact .cell (h _ _ _ hc)
  | code hc => exact .code (hc.mono h)
  | frame hf => exact .frame (hf.mono h)
  | coroutine hc => exact .coroutine (h _ _ _ hc)
  | wrapper hx => exact .wrapper (h _ _ _ hx)

theorem Value.Like.mono_all (h : ∀ k i j, ρ.pairs k i j → κ.pairs k i j) {vs vs' : List Value}
    (hvs : List.Forall₂ (Value.Like ρ) vs vs') : List.Forall₂ (Value.Like κ) vs vs' := by
  cases hvs with
  | nil => exact .nil
  | cons hv hvs => exact .cons (Value.Like.mono h hv) (Value.Like.mono_all h hvs)

end

end

/-! ## Comparisons -/

theorem CellId.beq_index (c d : CellId) : (c == d) = (c.index == d.index) := by
  cases c
  cases d
  simp only [beq_eq_decide, CellId.mk.injEq]

theorem CoroutineId.beq_index (c d : CoroutineId) : (c == d) = (c.index == d.index) := by
  cases c
  cases d
  simp only [beq_eq_decide, CoroutineId.mk.injEq]

theorem WrapperId.beq_index (x y : WrapperId) : (x == y) = (x.index == y.index) := by
  cases x
  cases y
  simp only [beq_eq_decide, WrapperId.mk.injEq]

section

variable {ρ : Pairing}

mutual

/-- Whether values are equal can be seen as well from what is like them. -/
theorem Value.Like.equals {v v' u u' : Value} (hv : v.Like ρ v') (hu : u.Like ρ u') :
    v'.equals u' = v.equals u := by
  cases hv <;> cases hu <;> try rfl
  case str.str _ _ ht _ _ hs => simp only [Value.equals, ht.content, hs.content]
  case tuple.tuple hitems _ _ _ _ _ hitems' => exact Value.Like.equalItems hitems hitems'
  case exception.exception _ _ he _ _ he' => exact Pairing.beq_eq he.index he'.index
  case traceback.traceback _ _ ht _ _ ht' => exact Pairing.beq_eq ht.head.identity ht'.head.identity
  case cell.cell _ _ hc _ _ hc' => simpa only [Value.equals, CellId.beq_index] using Pairing.beq_eq hc hc'
  case code.code _ _ hc _ _ hc' => exact Pairing.beq_eq hc.entry hc'.entry
  case frame.frame _ _ hf _ _ hf' => exact Pairing.beq_eq hf.index hf'.index
  case coroutine.coroutine _ _ hc _ _ hc' =>
    simpa only [Value.equals, CoroutineId.beq_index] using Pairing.beq_eq hc hc'
  case wrapper.wrapper _ _ hx _ _ hx' =>
    simpa only [Value.equals, WrapperId.beq_index] using Pairing.beq_eq hx hx'

theorem Value.Like.equalItems {vs vs' us us' : List Value} (hvs : List.Forall₂ (Value.Like ρ) vs vs')
    (hus : List.Forall₂ (Value.Like ρ) us us') : Value.equalItems vs' us' = Value.equalItems vs us := by
  cases hvs <;> cases hus <;> try rfl
  case cons.cons hv hvs _ _ _ _ hu hus =>
    simp only [Value.equalItems, Value.Like.equals hv hu, Value.Like.equalItems hvs hus]

end

/-- Whether values are identical can be seen as well from what is like them. -/
theorem Value.Like.identical {v v' u u' : Value} (hv : v.Like ρ v') (hu : u.Like ρ u') :
    v'.identical u' = v.identical u := by
  have same := hv.equals hu
  cases hv <;> cases hu <;> try exact same
  case str.str _ _ ht _ _ hs => exact Pairing.beq_eq ht.identity hs.identity
  case tuple.tuple hi _ _ _ _ _ hi' _ => exact Pairing.beq_eq hi hi'

end

end CoroutineEngine
