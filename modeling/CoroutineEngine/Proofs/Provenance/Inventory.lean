import CoroutineEngine.Coroutine.Protocol
import CoroutineEngine.Operation.Basic
import CoroutineEngine.Proofs.Outcomes

/-!
# What was made so far

An inventory lists what was made: the texts and the tuples by their identity, and how many exceptions there are.
A value is genuine if its parts are in the inventory. An exception only ever has arguments that are older than
itself. An honest computation forges nothing: it takes a genuine world to a genuine world, under an inventory that
has grown at most, and its result is genuine.

Results:
* `Genuine.mono`: what is genuine stays so.
* `Honest.bind`, `Honest.onPanic`, `Honest.andFinally`: honest computations compose.
-/

namespace CoroutineEngine

variable {L : Language}

/-! ## Inventories -/

/-- What was made so far. An identity that stands for no text is listed with the empty one; the first identity is
given out from the beginning. -/
structure Inventory where
  texts : List String
  tuples : List (List Value)
  exceptions : Nat
  first : texts[0]? = some ""

namespace Inventory

/-- The inventory from before the exception of an index. -/
def before (ι : Inventory) (index : Nat) : Inventory := { ι with exceptions := index }

/-- An inventory has grown. -/
structure Grows (ι κ : Inventory) : Prop where
  texts : ι.texts <+: κ.texts
  tuples : ι.tuples <+: κ.tuples
  exceptions : ι.exceptions ≤ κ.exceptions

/-- The inventory with one more identity. -/
def addText (ι : Inventory) (s : String) : Inventory where
  texts := ι.texts ++ [s]
  tuples := ι.tuples
  exceptions := ι.exceptions
  first := by rw [List.getElem?_append_left (List.getElem?_eq_some_iff.mp ι.first).1, ι.first]

/-- The inventory with one more tuple. -/
def addTuple (ι : Inventory) (items : List Value) : Inventory := { ι with tuples := ι.tuples ++ [items] }

/-- The inventory with one more exception. -/
def addException (ι : Inventory) : Inventory := { ι with exceptions := ι.exceptions + 1 }

theorem Grows.refl (ι : Inventory) : ι.Grows ι := ⟨List.prefix_rfl, List.prefix_rfl, Nat.le_refl _⟩

theorem Grows.trans {ι κ μ : Inventory} (h : ι.Grows κ) (h' : κ.Grows μ) : ι.Grows μ :=
  ⟨h.texts.trans h'.texts, h.tuples.trans h'.tuples, Nat.le_trans h.exceptions h'.exceptions⟩

theorem Grows.text {ι κ : Inventory} (h : ι.Grows κ) {i : Nat} {s : String} (hi : ι.texts[i]? = some s) :
    κ.texts[i]? = some s := by
  obtain ⟨rest, hrest⟩ := h.texts
  rw [← hrest, List.getElem?_append_left (List.getElem?_eq_some_iff.mp hi).1, hi]

theorem Grows.tuple {ι κ : Inventory} (h : ι.Grows κ) {i : Nat} {items : List Value}
    (hi : ι.tuples[i]? = some items) : κ.tuples[i]? = some items := by
  obtain ⟨rest, hrest⟩ := h.tuples
  rw [← hrest, List.getElem?_append_left (List.getElem?_eq_some_iff.mp hi).1, hi]

theorem Grows.before {ι κ : Inventory} (h : ι.Grows κ) (index : Nat) : (ι.before index).Grows (κ.before index) :=
  ⟨h.texts, h.tuples, Nat.le_refl _⟩

theorem grows_addText (ι : Inventory) (s : String) : ι.Grows (ι.addText s) :=
  ⟨List.prefix_append _ _, List.prefix_rfl, Nat.le_refl _⟩

theorem grows_addTuple (ι : Inventory) (items : List Value) : ι.Grows (ι.addTuple items) :=
  ⟨List.prefix_rfl, List.prefix_append _ _, Nat.le_refl _⟩

theorem grows_addException (ι : Inventory) : ι.Grows ι.addException :=
  ⟨List.prefix_rfl, List.prefix_rfl, Nat.le_succ _⟩

end Inventory

/-! ## What is genuine -/

/-- Data of which it can be said whether its parts are in an inventory; they stay there. -/
class Certified (α : Type) where
  genuine : Inventory → α → Prop
  mono : ∀ {ι κ : Inventory} {a : α}, ι.Grows κ → genuine ι a → genuine κ a

/-- The parts of some data are in an inventory. -/
abbrev Genuine {α : Type} [Certified α] (ι : Inventory) (a : α) : Prop := Certified.genuine ι a

theorem Genuine.mono {α : Type} [Certified α] {ι κ : Inventory} {a : α} (h : ι.Grows κ) (ha : Genuine ι a) :
    Genuine κ a := Certified.mono h ha

/-- What consists of genuine parts is genuine. -/
@[reducible]
def Certified.ofParts {α β : Type} [Certified β] (parts : α → β) : Certified α :=
  ⟨fun ι a => Genuine ι (parts a), fun h ha => Genuine.mono (α := β) h ha⟩

/-- Plain data has no parts. -/
class Plain (α : Type) : Prop

instance (priority := low) {α : Type} [Plain α] : Certified α := ⟨fun _ _ => True, fun _ _ => trivial⟩

instance : Plain Unit where
instance : Plain Bool where
instance : Plain Nat where
instance : Plain String where
instance : Plain UInt32 where
instance : Plain ExceptionClass where
instance : Plain CellId where
instance : Plain CoroutineId where
instance : Plain WrapperId where
instance : Plain Traceback where
instance : Plain Datum where
instance : Plain Picture where
instance : Plain FiberError where
instance : Plain FiberSupply where
instance : Plain CountingFiber where
instance : Plain L.Script where

instance {α : Type} [Certified α] : Certified (Option α) where
  genuine ι a := ∀ b, a = some b → Genuine ι b
  mono h ha b hb := (ha b hb).mono h

instance {α : Type} [Certified α] : Certified (List α) where
  genuine ι as := ∀ a ∈ as, Genuine ι a
  mono h has a ha := (has a ha).mono h

instance {α β : Type} [Certified α] [Certified β] : Certified (α × β) where
  genuine ι p := Genuine ι p.1 ∧ Genuine ι p.2
  mono h hp := ⟨hp.1.mono h, hp.2.mono h⟩

instance {ε α : Type} [Certified ε] [Certified α] : Certified (Except ε α) where
  genuine ι
    | .ok a => Genuine ι a
    | .error e => Genuine ι e
  mono {ι κ r} h hr := by
    cases r with
    | ok a => exact Genuine.mono (α := α) h hr
    | error e => exact Genuine.mono (α := ε) h hr

/-! ### Values -/

instance : Certified Text where
  genuine ι t := ι.texts[t.identity]? = some t.content
  mono h ht := h.text ht

instance : Certified Code := .ofParts fun c => (c.name, c.qualname)
instance : Certified Frame := .ofParts (·.code)

instance : Certified Exception where
  genuine ι e := e.index < ι.exceptions
  mono h he := Nat.lt_of_lt_of_le he h.exceptions

mutual

/-- The parts of a value are in an inventory. -/
def Value.IsGenuine (ι : Inventory) : Value → Prop
  | .str t => Genuine ι t
  | .tuple identity items => ι.tuples[identity]? = some items ∧ Value.AreGenuine ι items
  | .exception e => Genuine ι e
  | .code c => Genuine ι c
  | .frame f => Genuine ι f
  | _ => True

/-- The parts of some values are in an inventory. -/
def Value.AreGenuine (ι : Inventory) : List Value → Prop
  | [] => True
  | v :: vs => v.IsGenuine ι ∧ Value.AreGenuine ι vs

end

mutual

theorem Value.IsGenuine.mono {ι κ : Inventory} (h : ι.Grows κ) {v : Value} (hv : v.IsGenuine ι) :
    v.IsGenuine κ := by
  cases v with
  | str t => exact Genuine.mono (α := Text) h hv
  | tuple i items => exact ⟨h.tuple hv.1, Value.AreGenuine.mono h hv.2⟩
  | exception e => exact Genuine.mono (α := Exception) h hv
  | code c => exact Genuine.mono (α := Code) h hv
  | frame f => exact Genuine.mono (α := Frame) h hv
  | _ => trivial

theorem Value.AreGenuine.mono {ι κ : Inventory} (h : ι.Grows κ) {vs : List Value} (hvs : Value.AreGenuine ι vs) :
    Value.AreGenuine κ vs := by
  cases vs with
  | nil => trivial
  | cons v vs => exact ⟨Value.IsGenuine.mono h hvs.1, Value.AreGenuine.mono h hvs.2⟩

end

instance : Certified Value := ⟨Value.IsGenuine, fun h hv => hv.mono h⟩

theorem Value.areGenuine_iff {ι : Inventory} {vs : List Value} : Value.AreGenuine ι vs ↔ Genuine ι vs := by
  induction vs with
  | nil => exact iff_of_true trivial nofun
  | cons v vs ih =>
    constructor
    · rintro ⟨hv, hvs⟩ u hu
      rcases List.mem_cons.mp hu with rfl | hu
      · exact hv
      · exact ih.mp hvs u hu
    · intro h
      exact ⟨h v List.mem_cons_self, ih.mpr fun u hu => h u (List.mem_cons_of_mem v hu)⟩

/-! ### What owns values -/

instance : Certified PendingException := .ofParts (·.value)
instance : Certified Transfer := .ofParts fun t => (t.value, t.exception)
instance : Certified (Activation L) := .ofParts Activation.owned
instance : Certified (Hook L) := .ofParts (·.owned)
instance : Certified DriverState := .ofParts fun d => (d.caller, d.error, d.handled)
instance : Certified Context := .ofParts fun k => (k.code, k.frame)
instance : Certified Scope := .ofParts fun s => (s.context, s.locals)
instance : Certified Inputs := .ofParts (·.parameters)
instance : Certified Delegation := .ofParts fun d => (d.delegate, d.operand)

instance : Certified Given where
  genuine ι
    | .value v => Genuine ι v
    | .data _ => True
  mono {ι κ g} h hg := by
    cases g with
    | value v => exact Genuine.mono (α := Value) h hg
    | data => trivial

instance : Certified (Exit L) where
  genuine ι
    | .suspended v a => Genuine ι v ∧ Genuine ι a
    | .completed result => Genuine ι result
  mono {ι κ x} h hx := by
    cases x with
    | suspended v a => exact ⟨Genuine.mono (α := Value) h hx.1, Genuine.mono (α := Activation L) h hx.2⟩
    | completed r => exact Genuine.mono (α := Reply) h hx

/-- The activation that waits on a stack. -/
def Stack.activation? : Stack L → Option (Activation L)
  | .suspended a => some a
  | _ => none

instance : Certified (Fiber L) := .ofParts (·.stack.activation?)

/-- The parts of the record of a coroutine are in an inventory. -/
structure CoroutineRecord.IsGenuine (ι : Inventory) (r : CoroutineRecord L) : Prop where
  name : Genuine ι r.name
  qualname : Genuine ι r.qualname
  code : Genuine ι r.code
  fiber : Genuine ι r.fiber
  pending : Genuine ι r.pending
  frame : Genuine ι r.frame
  awaiting : Genuine ι r.awaiting
  handled : Genuine ι r.handled
  inputs : Genuine ι r.inputs

instance : Certified (CoroutineRecord L) where
  genuine := CoroutineRecord.IsGenuine
  mono h hr :=
    { name := hr.name.mono h
      qualname := hr.qualname.mono h
      code := hr.code.mono h
      fiber := hr.fiber.mono h
      pending := hr.pending.mono h
      frame := hr.frame.mono h
      awaiting := hr.awaiting.mono h
      handled := hr.handled.mono h
      inputs := hr.inputs.mono h }

/-- The parts of the ambient state are in an inventory. -/
structure Ambient.IsGenuine (ι : Inventory) (a : Ambient L) : Prop where
  error : Genuine ι a.error
  handled : Genuine ι a.handled
  top : Genuine ι a.top
  hook : Genuine ι a.hook

instance : Certified (Ambient L) where
  genuine := Ambient.IsGenuine
  mono h ha :=
    { error := ha.error.mono h
      handled := ha.handled.mono h
      top := ha.top.mono h
      hook := ha.hook.mono h }

/-! ## Genuine worlds -/

/-- All that a world keeps is in an inventory. An exception has arguments that are older than itself. -/
structure World.Genuine (ι : Inventory) (w : World L) : Prop where
  serial : w.serial = ι.texts.length
  tuples : w.tuples.size = ι.tuples.length
  exceptions : w.exceptions.size = ι.exceptions
  arguments : ∀ i, CoroutineEngine.Genuine (ι.before i) (w.exceptions.get i).args
  chained : ∀ i, CoroutineEngine.Genuine ι ((w.exceptions.get i).cause, (w.exceptions.get i).context)
  contents : ∀ i, CoroutineEngine.Genuine ι (w.cells.get i).content
  coroutines : ∀ i, CoroutineEngine.Genuine ι (w.coroutines.get i)
  backs : ∀ i, CoroutineEngine.Genuine ι (w.frames.get i).back
  ambient : CoroutineEngine.Genuine ι w.ambient
  slots : CoroutineEngine.Genuine ι w.slots

/-- A world that is genuine, after an inventory has grown at most. -/
def World.GenuineSince (ι : Inventory) (w : World L) : Prop := ∃ κ, ι.Grows κ ∧ w.Genuine κ

/-- A computation forges nothing: from a genuine world it gets to a genuine one, however it ends, and its result is
genuine. -/
structure Honest {α : Type} [Certified α] (ι : Inventory) (x : Effect L α) : Prop where
  meets : ∀ w : World L, w.Genuine ι →
    Meets x w
      ⟨fun a v => ∃ κ, ι.Grows κ ∧ v.Genuine κ ∧ CoroutineEngine.Genuine κ a, World.GenuineSince ι,
        World.GenuineSince ι⟩

/-- An engine forges nothing, neither in releases nor in runs. -/
structure Engine.IsHonest (E : Engine L) : Prop where
  release : ∀ {ι : Inventory} {v : Value}, Genuine ι v → Honest ι (E.release v)
  run : ∀ {ι : Inventory} (k : Option Context) {a : Activation L} {t : Transfer}, Genuine ι k → Genuine ι a →
    Genuine ι t → Honest ι (E.run k a t)

/-! ## Genuine data -/

section

variable {α β : Type} [Certified α] [Certified β] {ι : Inventory}

@[simp] theorem genuine_none : Genuine ι (none : Option α) := nofun

@[simp] theorem genuine_some {a : α} : Genuine ι (some a) ↔ Genuine ι a :=
  ⟨fun h => h a rfl, fun h _ hb => Option.some.inj hb ▸ h⟩

@[simp] theorem genuine_nil : Genuine ι ([] : List α) := nofun

@[simp] theorem genuine_cons {a : α} {as : List α} : Genuine ι (a :: as) ↔ Genuine ι a ∧ Genuine ι as := by
  constructor
  · exact fun h => ⟨h a List.mem_cons_self, fun b hb => h b (List.mem_cons_of_mem a hb)⟩
  · rintro ⟨ha, has⟩ b hb
    rcases List.mem_cons.mp hb with rfl | hb
    · exact ha
    · exact has b hb

theorem Genuine.single {a : α} (ha : Genuine ι a) : Genuine ι [a] := genuine_cons.mpr ⟨ha, genuine_nil⟩

theorem Genuine.double {a b : α} (ha : Genuine ι a) (hb : Genuine ι b) : Genuine ι [a, b] :=
  genuine_cons.mpr ⟨ha, hb.single⟩

@[simp] theorem genuine_append {as bs : List α} : Genuine ι (as ++ bs) ↔ Genuine ι as ∧ Genuine ι bs := by
  induction as with
  | nil => simp
  | cons a as ih => simp [ih, and_assoc]

theorem genuine_map {f : α → β} (hf : ∀ a, Genuine ι a → Genuine ι (f a)) {as : List α} (has : Genuine ι as) :
    Genuine ι (as.map f) := by
  intro b hb
  obtain ⟨a, ha, rfl⟩ := List.mem_map.mp hb
  exact hf a (has a ha)

theorem genuine_toList {a : Option α} (ha : Genuine ι a) : Genuine ι a.toList := by
  intro b hb
  exact ha b (Option.mem_toList.mp hb)

theorem genuine_getElem? {as : List α} (has : Genuine ι as) (n : Nat) : Genuine ι as[n]? :=
  fun a ha => has a (List.mem_of_getElem? ha)

@[simp] theorem genuine_plain {γ : Type} [Plain γ] {c : γ} : Genuine ι c := trivial

theorem Genuine.and {a : α} {b : β} (ha : Genuine ι a) (hb : Genuine ι b) : Genuine ι (a, b) := ⟨ha, hb⟩

end

/-! ## Honest computations -/

namespace Honest

variable {α β γ : Type} [Certified α] [Certified β] [Certified γ] {ι : Inventory} {x : Effect L α}
  {c : Effect L Unit}

theorem pure {a : α} (ha : Genuine ι a) : Honest ι (Pure.pure a : Effect L α) :=
  ⟨fun _ hw => .pure ⟨ι, .refl ι, hw, ha⟩⟩

/-- What is not needed to tell how it goes on, is not known any more; the rest of what was genuine is so still. -/
theorem bind {f : α → Effect L β} {k : γ} (hk : Genuine ι k) (hx : Honest ι x)
    (hf : ∀ ι, Genuine ι k → ∀ a, Genuine ι a → Honest ι (f a)) : Honest ι (x >>= f) := by
  constructor
  intro w hw
  refine .bind ((hx.meets w hw).mono ?_ (fun _ h => h) fun _ h => h)
  rintro a v ⟨κ, hκ, hv, ha⟩
  refine ((hf κ (hk.mono hκ) a ha).meets v hv).mono ?_ ?_ ?_
  · rintro b u ⟨μ, hμ, hu, hb⟩
    exact ⟨μ, hκ.trans hμ, hu, hb⟩
  · rintro u ⟨μ, hμ, hu⟩
    exact ⟨μ, hκ.trans hμ, hu⟩
  · rintro u ⟨μ, hμ, hu⟩
    exact ⟨μ, hκ.trans hμ, hu⟩

/-- After a computation that leaves nothing to remember. -/
theorem next {f : α → Effect L β} (hx : Honest ι x) (hf : ∀ ι a, Genuine ι a → Honest ι (f a)) :
    Honest ι (x >>= f) :=
  bind (k := ()) trivial hx fun κ _ a ha => hf κ a ha

theorem cleanup {Q : World L → Prop} {κ : Inventory} (hκ : ι.Grows κ) (hc : Honest κ c) {w : World L}
    (hw : w.Genuine κ) (hQ : ∀ v : World L, v.GenuineSince ι → Q v) : Meets c w ⟨fun _ => Q, Q, Q⟩ := by
  refine (hc.meets w hw).mono ?_ ?_ ?_
  · rintro _ v ⟨μ, hμ, hv, -⟩
    exact hQ v ⟨μ, hκ.trans hμ, hv⟩
  · rintro v ⟨μ, hμ, hv⟩
    exact hQ v ⟨μ, hκ.trans hμ, hv⟩
  · rintro v ⟨μ, hμ, hv⟩
    exact hQ v ⟨μ, hκ.trans hμ, hv⟩

theorem onPanic {k : γ} (hk : Genuine ι k) (hx : Honest ι x) (hc : ∀ ι, Genuine ι k → Honest ι c) :
    Honest ι (x.onPanic c) := by
  constructor
  intro w hw
  refine .onPanic ((hx.meets w hw).mono (fun _ _ h => h) ?_ fun _ h => h)
  rintro v ⟨κ, hκ, hv⟩
  exact cleanup hκ (hc κ (hk.mono hκ)) hv fun _ h => h

theorem andFinally {k : γ} (hk : Genuine ι k) (hx : Honest ι x) (hc : ∀ ι, Genuine ι k → Honest ι c) :
    Honest ι (x.andFinally c) := by
  constructor
  intro w hw
  refine .andFinally ((hx.meets w hw).mono ?_ ?_ fun _ h => h)
  · rintro a v ⟨κ, hκ, hv, ha⟩
    refine ((hc κ (hk.mono hκ)).meets v hv).mono ?_ ?_ ?_
    · rintro _ u ⟨μ, hμ, hu, -⟩
      exact ⟨μ, hκ.trans hμ, hu, ha.mono hμ⟩
    · rintro u ⟨μ, hμ, hu⟩
      exact ⟨μ, hκ.trans hμ, hu⟩
    · rintro u ⟨μ, hμ, hu⟩
      exact ⟨μ, hκ.trans hμ, hu⟩
  · rintro v ⟨κ, hκ, hv⟩
    exact cleanup hκ (hc κ (hk.mono hκ)) hv fun _ h => h

theorem panic (message : String) : Honest ι (.panic message : Effect L α) := ⟨fun _ hw => ⟨ι, .refl ι, hw⟩⟩

theorem stop : Honest ι (.stop : Effect L α) := ⟨fun _ hw => ⟨ι, .refl ι, hw⟩⟩

/-- What is read from a genuine world. -/
theorem gets {f : World L → α} (hf : ∀ w : World L, w.Genuine ι → Genuine ι (f w)) : Honest ι (.gets f) :=
  ⟨fun w hw => ⟨ι, .refl ι, hw, hf w hw⟩⟩

theorem modifyGet {f : World L → α × World L} (hf : ∀ w : World L, w.Genuine ι →
    ∃ κ, ι.Grows κ ∧ (f w).2.Genuine κ ∧ Genuine κ (f w).1) : Honest ι (.modifyGet f) :=
  ⟨fun w hw => ⟨hf w hw⟩⟩

theorem modify {f : World L → World L} (hf : ∀ w : World L, w.Genuine ι → (f w).Genuine ι) :
    Honest ι (.modify f) :=
  ⟨fun w hw => ⟨ι, .refl ι, hf w hw, trivial⟩⟩

/-- A computation that may have no result, and changes nothing. -/
theorem rendering {α : Type} [Plain α] {x : Effect L α} (hx : ∀ w : World L, (x w).2 = w) : Honest ι x := by
  constructor
  intro w hw
  refine ⟨?_⟩
  have h := hx w
  rcases hr : x w with ⟨_ | _ | _, v⟩ <;> rw [hr] at h <;> subst h
  · exact ⟨ι, .refl ι, hw, trivial⟩
  · exact ⟨ι, .refl ι, hw⟩
  · exact ⟨ι, .refl ι, hw⟩

end Honest

end CoroutineEngine
