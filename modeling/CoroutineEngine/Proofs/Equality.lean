import CoroutineEngine.Proofs.Provenance.Runs
import Mathlib

/-!
# Equality and identity

Two values are equal iff they have the same key: what they are compared by, whatever the regime. Scalars and texts
are compared by what they say, objects by their identity, tuples item by item; what is no number has no key, and
neither has a tuple in which it lies.

Results:
* `equals_iff_key?`, `key?_isSome_iff`: equality is having the same key, and what has a key.
* `comparisons_agree`: how equality and identity behave.
-/

namespace CoroutineEngine

open Float.Model (UnpackedFloat)

variable {L : Language}

namespace Value

/-! ## Definitions -/

/-- A value that is no number lies in a value, at any depth of tuples. -/
inductive HasNaN : Value → Prop
  | float {x : Float} (h : x.isNaN = true) : HasNaN (.float x)
  | tuple {identity : Nat} {items : List Value} {v : Value} (hv : v ∈ items) (h : HasNaN v) :
    HasNaN (.tuple identity items)

/-- It is neither a text nor a tuple. -/
structure IsOther (v : Value) : Prop where
  noText : ∀ t, v ≠ .str t
  noTuple : ∀ identity items, v ≠ .tuple identity items

/-- What is kept under identities: the content of each text, and the items of each tuple. -/
structure Memory where
  text : Nat → String
  items : Nat → List Value

/-- A value has its texts and tuples, at any depth, from a memory. -/
inductive LiesIn (m : Memory) : Value → Prop
  | text {t : Text} (h : m.text t.identity = t.content) : LiesIn m (.str t)
  | tuple {identity : Nat} {items : List Value} (h : m.items identity = items) (hi : ∀ v ∈ items, LiesIn m v) :
    LiesIn m (.tuple identity items)
  | other {v : Value} (h : v.IsOther) : LiesIn m v

/-- How the two comparisons of values behave.

* `symm`, `trans`, `refl`: equality is symmetric and transitive, and a value equals itself just if nothing in it is no
  number.
* `refines`: what is identical is equal, unless something in it is no number, among values that have their texts and
  tuples from one memory.
* `memory`: all values that a client is given in a run have them from one memory.
* `equivalence`: identity is an equivalence on values in which everything is a number.
* `coincide`: the two comparisons of a value are the same, unless it is a text or a tuple.
* `kinds`, `truths`, `floats`: values of different types are neither equal nor identical; in particular an integer is
  no truth value and no float.
* `answers`: whoever compares what two slots hold is told this, in whichever world, so nothing that has become of
  objects meanwhile changes the answer. -/
structure Compare (L : Language) : Prop where
  symm : ∀ a b : Value, a.equals b = b.equals a
  trans : ∀ a b c : Value, a.equals b = true → b.equals c = true → a.equals c = true
  refl : ∀ a : Value, a.equals a = true ↔ ¬ a.HasNaN
  refines : ∀ (m : Memory) (a b : Value), a.LiesIn m → b.LiesIn m → ¬ a.HasNaN → ¬ b.HasNaN →
    a.identical b = true → a.equals b = true
  memory : ∀ (w : World L) (vs : List Value), Arises L w vs → ∃ m : Memory, ∀ v ∈ vs, v.LiesIn m
  equivalence : Equivalence fun a b : { v : Value // ¬ v.HasNaN } => a.val.identical b.val = true
  coincide : ∀ a b : Value, a.IsOther → a.identical b = a.equals b ∧ b.identical a = b.equals a
  kinds : ∀ a b : Value, a.typeName ≠ b.typeName → a.equals b = false ∧ a.identical b = false
  truths : ∀ i b, (int i).equals (bool b) = false ∧ (bool b).equals (int i) = false
  floats : ∀ i x, (int i).equals (float x) = false ∧ (float x).equals (int i) = false
  answers : ∀ (E : Engine L) (s t : String) (a b : Value) (w v : World L) (d : Answered),
    w.slots.lookup s = some a → w.slots.lookup t = some b →
    performCompare E .outer (.slot s) (.slot t) w = (.ok d, v) →
    d = .ofData (.list [.bool (a.equals b), .bool (a.identical b)])

/-- The number that a float stands for: the two zeros are one number, and what is no number stands for none. -/
def number? (x : Float) : Option UnpackedFloat :=
  match x.toModel.unpack with
  | .notANumber => Option.none
  | .zero _ => some (.zero .positive)
  | u => some u

/-- What a value is compared by. -/
inductive Key
  | none
  | bool (b : Bool)
  | int (i : Int64)
  | float (n : UnpackedFloat)
  | str (content : String)
  | tuple (items : List Key)
  | exceptionClass (cls : ExceptionClass)
  | exception (index : Nat)
  | traceback (identity : Nat)
  | cell (c : CellId)
  | code (entry : Nat)
  | frame (index : Nat)
  | coroutine (c : CoroutineId)
  | wrapper (x : WrapperId)

mutual

/-- The key of a value; nothing if something in it is no number. -/
def key? : Value → Option Key
  | none => some .none
  | bool b => some (.bool b)
  | int i => some (.int i)
  | float x => (number? x).map .float
  | str t => some (.str t.content)
  | tuple _ items => (keys? items).map .tuple
  | exceptionClass c => some (.exceptionClass c)
  | exception e => some (.exception e.index)
  | traceback t => some (.traceback t.head.identity)
  | cell c => some (.cell c)
  | code c => some (.code c.entry)
  | frame f => some (.frame f.index)
  | coroutine c => some (.coroutine c)
  | wrapper x => some (.wrapper x)

/-- The keys of values. -/
def keys? : List Value → Option (List Key)
  | [] => some []
  | v :: vs => (key? v).bind fun k => (keys? vs).map (k :: ·)

end

/-! ## Numbers -/

theorem number?_eq_none_iff (x : Float) : number? x = Option.none ↔ x.isNaN = true := by
  unfold number? Float.isNaN Float.Model.isNaN
  cases x.toModel.unpack <;> simp [UnpackedFloat.isNaN]

/-- Floats are equal iff they stand for one number. -/
theorem beq_iff_number? (x y : Float) : (x == y) = true ↔ ∃ n, number? x = some n ∧ number? y = some n := by
  show (x.toModel.unpack.compare y.toModel.unpack == some Ordering.eq) = true ↔ _
  unfold number?
  cases x.toModel.unpack with
  | infinity s =>
    cases y.toModel.unpack with
    | infinity t => cases s <;> cases t <;> simp [UnpackedFloat.compare] <;> decide
    | notANumber => simp [UnpackedFloat.compare]
    | zero t => cases s <;> simp [UnpackedFloat.compare]
    | finite t n d hn => cases s <;> simp [UnpackedFloat.compare]
  | notANumber => simp [UnpackedFloat.compare]
  | zero s =>
    cases y.toModel.unpack with
    | infinity t => cases t <;> simp [UnpackedFloat.compare]
    | notANumber => simp [UnpackedFloat.compare]
    | zero t => simp [UnpackedFloat.compare]
    | finite t n d hn => cases t <;> simp [UnpackedFloat.compare]
  | finite s m e hm =>
    cases y.toModel.unpack with
    | infinity t => cases s <;> cases t <;> simp [UnpackedFloat.compare]
    | notANumber => simp [UnpackedFloat.compare]
    | zero t => cases s <;> simp [UnpackedFloat.compare]
    | finite t n d hn =>
      cases s <;> cases t <;>
        simp [UnpackedFloat.compare, Ordering.then_eq_eq, and_comm, eq_comm (a := n), eq_comm (a := d)]

/-! ## Keys -/

mutual

/-- Values are equal iff they have the same key. -/
theorem equals_iff_key? (a b : Value) : a.equals b = true ↔ ∃ k, a.key? = some k ∧ b.key? = some k := by
  cases a with
  | tuple i items =>
    cases b with
    | tuple j others =>
      simp only [equals, equalItems_iff_keys? items others, key?, Option.map_eq_some_iff]
      constructor
      · rintro ⟨ks, ha, hb⟩
        exact ⟨_, ⟨ks, ha, rfl⟩, ks, hb, rfl⟩
      · rintro ⟨_, ⟨ks, ha, rfl⟩, ks', hb, hk⟩
        obtain rfl := Key.tuple.inj hk
        exact ⟨ks', ha, hb⟩
    | _ => simp [equals, key?]
  | float x =>
    cases b with
    | float y =>
      simp only [equals, beq_iff_number?, key?, Option.map_eq_some_iff]
      constructor
      · rintro ⟨n, ha, hb⟩
        exact ⟨_, ⟨n, ha, rfl⟩, n, hb, rfl⟩
      · rintro ⟨_, ⟨n, ha, rfl⟩, n', hb, hn⟩
        obtain rfl := Key.float.inj hn
        exact ⟨n', ha, hb⟩
    | _ => simp [equals, key?]
  | none => cases b <;> simp [equals, key?]
  -- a value of another kind has another key
  | _ =>
    cases b <;> simp [equals, key?, Traceback.isSame]
    exact eq_comm

theorem equalItems_iff_keys? (as bs : List Value) :
    equalItems as bs = true ↔ ∃ ks, keys? as = some ks ∧ keys? bs = some ks := by
  cases as with
  | nil =>
    cases bs with
    | nil => simp [equalItems, keys?]
    | cons b bs => simp [equalItems, keys?, Option.bind_eq_some_iff]
  | cons a as =>
    cases bs with
    | nil => simp [equalItems, keys?, Option.bind_eq_some_iff]
    | cons b bs =>
      simp only [equalItems, Bool.and_eq_true, equals_iff_key? a b, equalItems_iff_keys? as bs, keys?,
        Option.bind_eq_some_iff, Option.map_eq_some_iff]
      constructor
      · rintro ⟨⟨k, ha, hb⟩, ks, has, hbs⟩
        exact ⟨k :: ks, ⟨k, ha, ks, has, rfl⟩, k, hb, ks, hbs, rfl⟩
      · rintro ⟨_, ⟨k, ha, ks, has, rfl⟩, k', hb, ks', hbs, hk⟩
        obtain ⟨rfl, rfl⟩ := List.cons.inj hk
        exact ⟨⟨_, ha, hb⟩, _, has, hbs⟩

end

mutual

/-- What has no key is no number, or a tuple in which something is none. -/
theorem key?_eq_none_iff (a : Value) : a.key? = Option.none ↔ a.HasNaN := by
  cases a with
  | float x =>
    rw [key?, Option.map_eq_none_iff, number?_eq_none_iff]
    exact ⟨.float, fun h => by cases h; assumption⟩
  | tuple i items =>
    rw [key?, Option.map_eq_none_iff, keys?_eq_none_iff items]
    constructor
    · rintro ⟨v, hv, h⟩
      exact .tuple hv h
    · rintro (_ | ⟨hv, h⟩)
      exact ⟨_, hv, h⟩
  | _ => exact ⟨fun h => by simp [key?] at h, nofun⟩

theorem keys?_eq_none_iff (vs : List Value) : keys? vs = Option.none ↔ ∃ v ∈ vs, v.HasNaN := by
  cases vs with
  | nil => simp [keys?]
  | cons v vs =>
    simp only [List.mem_cons, exists_eq_or_imp]
    rw [← key?_eq_none_iff v, ← keys?_eq_none_iff vs, keys?]
    cases v.key? with
    | none => simp
    | some k => simp

end

theorem equals_comm (a b : Value) : a.equals b = b.equals a := by
  rw [Bool.eq_iff_iff, equals_iff_key?, equals_iff_key?]
  exact exists_congr fun k => and_comm

theorem equals_trans {a b c : Value} (hab : a.equals b = true) (hbc : b.equals c = true) : a.equals c = true := by
  obtain ⟨k, ha, hb⟩ := (equals_iff_key? a b).mp hab
  obtain ⟨k', hb', hc⟩ := (equals_iff_key? b c).mp hbc
  obtain rfl := Option.some.inj (hb.symm.trans hb')
  exact (equals_iff_key? a c).mpr ⟨k, ha, hc⟩

theorem equals_self_iff (a : Value) : a.equals a = true ↔ ¬ a.HasNaN := by
  rw [equals_iff_key?, ← key?_eq_none_iff]
  simp only [and_self]
  exact Option.ne_none_iff_exists'.symm

theorem equals_of_typeName_ne {a b : Value} (h : a.typeName ≠ b.typeName) : a.equals b = false := by
  cases a <;> cases b <;> first | rfl | exact absurd rfl h

/-! ## Identity -/

/-- What identity means: a common making of texts and tuples, and equality of everything else. -/
inductive Identical : Value → Value → Prop
  | text {t u : Text} (h : t.identity = u.identity) : Identical (.str t) (.str u)
  | tuple {identity : Nat} {xs ys : List Value} : Identical (.tuple identity xs) (.tuple identity ys)
  | other {a b : Value} (ha : a.IsOther) (hb : b.IsOther) (h : a.equals b = true) : Identical a b

theorem identical_eq_equals {a : Value} (b : Value) (ha : a.IsOther) : a.identical b = a.equals b := by
  unfold identical
  split
  · exact absurd rfl (ha.noText _)
  · exact absurd rfl (ha.noTuple _ _)
  · rfl

theorem identical_comm (a b : Value) : a.identical b = b.identical a := by
  cases a with
  | str t =>
    cases b with
    | str u => exact BEq.comm
    | _ => rfl
  | tuple i xs =>
    cases b with
    | tuple j ys => exact BEq.comm
    | _ => rfl
  | _ => cases b <;> first | rfl | exact equals_comm _ _

/-- What equals something that is neither a text nor a tuple is neither of them. -/
theorem IsOther.of_equals {a b : Value} (ha : a.IsOther) (h : a.equals b = true) : b.IsOther := by
  constructor
  · rintro t rfl
    cases a with
    | str u => exact ha.noText u rfl
    | _ => cases h
  · rintro i items rfl
    cases a with
    | tuple j others => exact ha.noTuple j others rfl
    | _ => cases h

theorem identical_iff (a b : Value) : a.identical b = true ↔ Identical a b := by
  constructor
  · intro h
    unfold identical at h
    split at h
    · exact .text (by simpa using h)
    · obtain rfl : _ = _ := by simpa using h
      exact .tuple
    · next htext htuple =>
      have ha : a.IsOther := by
        constructor
        · rintro t rfl
          cases b with
          | str u => exact htext t u rfl rfl
          | _ => cases h
        · rintro i xs rfl
          cases b with
          | tuple j ys => exact htuple i xs j ys rfl rfl
          | _ => cases h
      exact .other ha (ha.of_equals h) h
  · intro h
    cases h with
    | text h => simp [identical, h]
    | tuple => simp [identical]
    | other ha hb h => exact (identical_eq_equals b ha).trans h

theorem identical_trans {a b c : Value} (hab : a.identical b = true) (hbc : b.identical c = true) :
    a.identical c = true := by
  rw [identical_iff] at *
  cases hab with
  | text h =>
    cases hbc with
    | text h' => exact .text (h.trans h')
    | other hb => exact absurd rfl (hb.noText _)
  | tuple =>
    cases hbc with
    | tuple => exact .tuple
    | other hb => exact absurd rfl (hb.noTuple _ _)
  | other ha hb h =>
    cases hbc with
    | text => exact absurd rfl (hb.noText _)
    | tuple => exact absurd rfl (hb.noTuple _ _)
    | other _ hc h' => exact .other ha hc (equals_trans h h')

/-- What has no part that is no number is identical to itself. -/
theorem identical_self {a : Value} (h : ¬ a.HasNaN) : a.identical a = true := by
  unfold identical
  split
  · exact beq_self_eq_true _
  · exact beq_self_eq_true _
  · exact (equals_self_iff a).mpr h

/-- Texts that were made together say the same, and tuples that were made together have the same items. -/
theorem equals_of_identical {m : Memory} {a b : Value} (ha : a.LiesIn m) (hb : b.LiesIn m) (hn : ¬ a.HasNaN)
    (h : a.identical b = true) : a.equals b = true := by
  cases (identical_iff a b).mp h with
  | @text t u ht =>
    have hcontent : t.content = u.content := by
      cases ha with
      | text ha =>
        cases hb with
        | text hb => rw [← ha, ← hb, ht]
        | other hb => exact absurd rfl (hb.noText _)
      | other ha => exact absurd rfl (ha.noText _)
    simp [equals, hcontent]
  | @tuple i xs ys =>
    have hitems : xs = ys := by
      cases ha with
      | tuple ha =>
        cases hb with
        | tuple hb => exact ha.symm.trans hb
        | other hb => exact absurd rfl (hb.noTuple _ _)
      | other ha => exact absurd rfl (ha.noTuple _ _)
    exact hitems ▸ (equals_self_iff (.tuple i xs)).mpr hn
  | other _ _ h => exact h

theorem identical_of_typeName_ne {a b : Value} (h : a.typeName ≠ b.typeName) : a.identical b = false := by
  cases a <;> cases b <;> first | rfl | exact absurd rfl h

/-! ## Memories -/

end Value

/-- What an inventory lists under identities. -/
def Inventory.memory (ι : Inventory) : Value.Memory := ⟨fun i => ι.texts[i]?.getD "", fun i => ι.tuples[i]?.getD []⟩

namespace Value

/-- A genuine value has its texts and tuples from the inventory. -/
theorem LiesIn.of_genuine {ι : Inventory} {v : Value} (hv : Genuine ι v) : v.LiesIn ι.memory := by
  cases v with
  | str t =>
    have ht : ι.texts[t.identity]? = some t.content := hv
    exact .text (by simp [Inventory.memory, ht])
  | tuple i items =>
    obtain ⟨hi, hitems⟩ := hv
    refine .tuple (by simp [Inventory.memory, hi]) fun u hu => ?_
    exact .of_genuine (Value.areGenuine_iff.mp hitems u hu)
  | _ => exact .other ⟨nofun, nofun⟩

/-! ## Comparisons -/

@[simp] theorem slots_retain (w : World L) (v : Value) : (w.retain v).slots = w.slots := by
  cases v <;> rfl

/-- Whoever compares two slots is told how the values in them compare. -/
theorem performCompare_slots {E : Engine L} {s t : String} {a b : Value} {w v : World L} {d : Answered}
    (ha : w.slots.lookup s = some a) (hb : w.slots.lookup t = some b)
    (h : performCompare E .outer (.slot s) (.slot t) w = (.ok d, v)) :
    d = .ofData (.list [.bool (a.equals b), .bool (a.identical b)]) := by
  have hx : evaluate E .outer (.slot s) w = (.ok a, w.retain a) := by
    simp [evaluate, readValue, retain, Effect.bind_apply, ha]
  have hy : evaluate E .outer (.slot t) (w.retain a) = (.ok b, (w.retain a).retain b) := by
    simp [evaluate, readValue, retain, Effect.bind_apply, hb]
  rw [performCompare, Effect.bind_ok hx, Effect.bind_ok hy, Effect.bind_apply] at h
  split at h
  · exact (Outcome.ok.inj (Prod.mk.inj h).1).symm
  · cases (Prod.mk.inj h).1
  · cases (Prod.mk.inj h).1

/-- The two comparisons of values agree as far as they can. -/
theorem comparisons_agree (L : Language) : Compare L := by
  constructor
  case symm => exact equals_comm
  case trans => exact fun _ _ _ => equals_trans
  case refl => exact equals_self_iff
  case refines => exact fun _ _ _ ha hb hn _ => equals_of_identical ha hb hn
  case memory =>
    intro w vs h
    obtain ⟨ι, -, hvs⟩ := h.genuine
    exact ⟨ι.memory, fun v hv => .of_genuine (hvs v hv)⟩
  case equivalence =>
    refine ⟨fun a => identical_self a.property, fun {a b} h => ?_, identical_trans⟩
    rwa [identical_comm]
  case coincide =>
    intro a b ha
    rw [identical_comm b a, equals_comm b a]
    exact ⟨identical_eq_equals b ha, identical_eq_equals b ha⟩
  case kinds => exact fun a b h => ⟨equals_of_typeName_ne h, identical_of_typeName_ne h⟩
  case truths => exact fun _ _ => ⟨rfl, rfl⟩
  case floats => exact fun _ _ => ⟨rfl, rfl⟩
  case answers => exact fun _ _ _ _ _ _ _ _ => performCompare_slots

end Value

end CoroutineEngine
