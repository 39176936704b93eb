import CoroutineEngine.Proofs.Likeness.Mirror

/-!
# Computations that echo each other

Results:
* `World.Mirrors.gain`: an object is made on both sides, and the two are paired.
* `World.Mirrors.alter`: paired objects are changed alike.
* `Echoes.bind`, `Echoes.onPanic`, `Echoes.andFinally`: echoes compose.
-/

namespace CoroutineEngine

variable {L : Language} {P : Privacy L}

/-! ## Changes of a world -/

/-- What a world consists of besides its objects. -/
structure Backdrop (L : Language) where
  ambient : Ambient L
  slots : Named Value
  weaks : Named CoroutineId
  fibers : Named CountingFiber
  climate : Settings × Option LogLevel
  clock : Nat

/-- The world without its objects. -/
def World.backdrop (w : World L) : Backdrop L where
  ambient := w.ambient
  slots := w.slots
  weaks := w.weaks
  fibers := w.fibers
  climate := w.climate
  clock := w.clock

/-- There is one more object, and nothing else is new. -/
structure World.Gains (w v : World L) (k : Kind) (r : k.Record L) : Prop where
  extent : ∀ l, v.extent l = w.extent l + if l = k then 1 else 0
  fresh : v.record k (w.extent k) = r
  others : ∀ l i, i < w.extent l → v.record l i = w.record l i
  backdrop : v.backdrop = w.backdrop

/-- One object is changed, and nothing else. -/
structure World.Alters (w v : World L) (k : Kind) (i : Nat) (f : k.Record L → k.Record L) : Prop where
  extent : ∀ l, v.extent l = w.extent l
  changed : i < w.extent k → v.record k i = f (w.record k i)
  others : ∀ l j, (l = k → j ≠ i) → v.record l j = w.record l j
  backdrop : v.backdrop = w.backdrop

namespace World.Mirrors

variable {ρ : Likeness P} {w w' v v' : World L}

theorem unpaired_left (hw : w.Mirrors ρ w') {k : Kind} (j : Nat) : ¬ ρ.pairs k (w.extent k) j := fun h =>
  Nat.lt_irrefl _ (hw.bounds h).1

theorem unpaired_right (hw : w.Mirrors ρ w') {k : Kind} (i : Nat) : ¬ ρ.pairs k i (w'.extent k) := fun h =>
  Nat.lt_irrefl _ (hw.bounds h).2

/-- What is the next object of a kind here, is the counterpart of the next one there. -/
def next (hw : w.Mirrors ρ w') (k : Kind) : Likeness P :=
  ρ.add k (w.extent k) (w'.extent k) hw.unpaired_left hw.unpaired_right

theorem grows_next (hw : w.Mirrors ρ w') (k : Kind) : ρ.Grows (hw.next k) := Likeness.grows_add

theorem extends_next (hw : w.Mirrors ρ w') (k : Kind) : ρ.Extends (hw.next k) := (hw.grows_next k).toExtends

theorem next_pairs (hw : w.Mirrors ρ w') (k : Kind) : (hw.next k).pairs k (w.extent k) (w'.extent k) :=
  Likeness.add_pairs

/-- What is besides the objects may stay as it is, while more objects are paired. -/
theorem of_backdrop {κ : Likeness P} (hw : w.Mirrors ρ w') (hκ : ρ.Grows κ) (same : v.backdrop = w.backdrop)
    (same' : v'.backdrop = w'.backdrop) (hbounds : ∀ {k i j}, κ.pairs k i j → i < v.extent k ∧ j < v'.extent k)
    (hrecords : ∀ {k i j}, κ.pairs k i j → k.LikeRecord κ (v.record k i) (v'.record k j))
    (hspared : ∀ {k j r}, κ.spared k j r → j < v'.extent k ∧ v'.record k j = r)
    (hapart : ∀ {k i j r}, k.Changes → κ.spared k j r → ¬ κ.pairs k i j) (hfewer : ∀ k, v.extent k ≤ v'.extent k)
    (hserial : w'.serial = w.serial → v'.serial = v.serial) : v.Mirrors κ v' := by
  simp only [World.backdrop, Backdrop.mk.injEq] at same same'
  obtain ⟨hambient, hslots, hweaks, hfibers, hclimate, hclock⟩ := same
  obtain ⟨hambient', hslots', hweaks', hfibers', hclimate', hclock'⟩ := same'
  refine ⟨hbounds, hrecords, hspared, hapart, hfewer, ?_, ?_, ?_, ?_, ?_, ?_, ?_, ?_⟩
  · rw [hambient, hambient']
    exact hw.ambient.mono hκ
  · intro name h
    rw [hslots, hslots']
    exact (hw.slots h).mono hκ
  · rw [hslots, hslots']
    exact hw.sorted
  · intro name h
    rw [hweaks, hweaks']
    exact (hw.weaks h).mono hκ
  · rw [hfibers, hfibers']
    exact fun h => ⟨hserial (hw.thread h).1, (hw.thread h).2⟩
  · rw [hclimate, hclimate', hw.climate]
  · rw [hclimate, hκ.climate]
    exact hw.steady
  · rw [hclock, hclock', hw.clock, hκ.slack]

/-- On both sides an object is made. -/
theorem gain (hw : w.Mirrors ρ w') {k : Kind} {r r' : k.Record L} (hv : w.Gains v k r) (hv' : w'.Gains v' k r')
    (hr : k.LikeRecord (hw.next k) r r') : v.Mirrors (hw.next k) v' := by
  have hgrows := hw.grows_next k
  refine hw.of_backdrop hgrows hv.backdrop hv'.backdrop ?_ ?_ ?_ ?_ ?_ ?_
  · rintro l i j (h | ⟨rfl, rfl, rfl⟩)
    · have hb := hw.bounds h
      rw [hv.extent, hv'.extent]
      omega
    · rw [hv.extent, hv'.extent]
      simp
  · rintro l i j (h | ⟨rfl, rfl, rfl⟩)
    · have hb := hw.bounds h
      rw [hv.others l i hb.1, hv'.others l j hb.2]
      exact (hw.records h).mono hgrows
    · rw [hv.fresh, hv'.fresh]
      exact hr
  · intro l j s h
    obtain ⟨hj, hs⟩ := hw.spared h
    rw [hv'.extent, hv'.others l j hj]
    exact ⟨Nat.lt_add_right _ hj, hs⟩
  · rintro l i j s hl h (h' | ⟨rfl, rfl, rfl⟩)
    · exact hw.apart hl h h'
    · exact Nat.lt_irrefl _ (hw.spared h).1
  · intro l
    rw [hv.extent, hv'.extent]
    exact Nat.add_le_add_right (hw.fewer l) _
  · intro hserial
    have hnext := hv.extent .identity
    have hnext' := hv'.extent .identity
    simp only [World.extent] at hnext hnext'
    rw [hnext, hnext', hserial]

/-- Paired objects are changed alike. -/
theorem alter (hw : w.Mirrors ρ w') {k : Kind} (hk : k.Changes) {i j : Nat} (hij : ρ.pairs k i j)
    {f f' : k.Record L → k.Record L} (hv : w.Alters v k i f) (hv' : w'.Alters v' k j f')
    (hf : k.LikeRecord ρ (f (w.record k i)) (f' (w'.record k j))) : v.Mirrors ρ v' := by
  refine hw.of_backdrop (.refl ρ) hv.backdrop hv'.backdrop ?_ ?_ ?_ (fun hk h => hw.apart hk h) ?_ ?_
  · intro l m n h
    rw [hv.extent, hv'.extent]
    exact hw.bounds h
  · intro l m n h
    by_cases hlm : l = k ∧ m = i
    · obtain ⟨rfl, rfl⟩ := hlm
      obtain rfl := ρ.functional hij h
      rw [hv.changed (hw.bounds h).1, hv'.changed (hw.bounds h).2]
      exact hf
    · -- the counterpart of another object is another object
      have hln : l = k → n ≠ j := by
        rintro rfl rfl
        exact hlm ⟨rfl, ρ.injective hij h⟩
      rw [hv.others l m fun hl hm => hlm ⟨hl, hm⟩, hv'.others l n hln]
      exact hw.records h
  · intro l n s h
    have hln : l = k → n ≠ j := by
      rintro rfl rfl
      exact hw.apart hk h hij
    rw [hv'.extent, hv'.others l n hln]
    exact hw.spared h
  · intro l
    rw [hv.extent, hv'.extent]
    exact hw.fewer l
  · have hnext := hv.extent .identity
    have hnext' := hv'.extent .identity
    simp only [World.extent] at hnext hnext'
    rw [hnext, hnext']
    exact id

/-- Nothing is changed that matters. -/
theorem congr (hw : w.Mirrors ρ w') (hv : v.extent = w.extent ∧ v.record = w.record ∧ v.backdrop = w.backdrop)
    (hv' : v'.extent = w'.extent ∧ v'.record = w'.record ∧ v'.backdrop = w'.backdrop) : v.Mirrors ρ v' := by
  obtain ⟨hextent, hrecord, same⟩ := hv
  obtain ⟨hextent', hrecord', same'⟩ := hv'
  refine hw.of_backdrop (.refl ρ) same same' ?_ ?_ ?_ (fun hk h => hw.apart hk h) ?_ ?_
  · rw [hextent, hextent']
    exact fun h => hw.bounds h
  · rw [hrecord, hrecord']
    exact fun h => hw.records h
  · rw [hextent', hrecord']
    exact fun h => hw.spared h
  · rw [hextent, hextent']
    exact hw.fewer
  · have hnext : v.serial = w.serial := congrFun hextent .identity
    have hnext' : v'.serial = w'.serial := congrFun hextent' .identity
    rw [hnext, hnext']
    exact id

end World.Mirrors

/-! ## Data -/

section

variable {α β : Type} [Likened P α] [Likened P β] {ρ : Likeness P}

theorem Like.and {a a' : α} {b b' : β} (ha : Like ρ a a') (hb : Like ρ b b') : Like ρ (a, b) (a', b') := ⟨ha, hb⟩

theorem Like.none : Like ρ (Option.none : Option α) Option.none := Option.Rel.none

theorem Like.some {a a' : α} (ha : Like ρ a a') : Like ρ (Option.some a) (Option.some a') := Option.Rel.some ha

theorem Like.nil : Like ρ ([] : List α) [] := List.Forall₂.nil

theorem Like.cons {a a' : α} {as as' : List α} (ha : Like ρ a a') (has : Like ρ as as') :
    Like ρ (a :: as) (a' :: as') := List.Forall₂.cons ha has

theorem Like.single {a a' : α} (ha : Like ρ a a') : Like ρ [a] [a'] := ha.cons .nil

theorem Like.double {a a' b b' : α} (ha : Like ρ a a') (hb : Like ρ b b') : Like ρ [a, b] [a', b'] := ha.cons hb.single

theorem Like.append {as as' bs bs' : List α} (has : Like ρ as as') (hbs : Like ρ bs bs') :
    Like ρ (as ++ bs) (as' ++ bs') := List.rel_append has hbs

theorem Like.map {f f' : α → β} (hf : ∀ a a', Like ρ a a' → Like ρ (f a) (f' a')) {as as' : List α}
    (has : Like ρ as as') : Like ρ (as.map f) (as'.map f') := List.rel_map (fun _ _ h => hf _ _ h) has

theorem Like.toList {a a' : Option α} (ha : Like ρ a a') : Like ρ a.toList a'.toList := by
  cases ha with
  | none => exact .nil
  | some ha => exact .cons ha .nil

/-- Both are absent, or both are there. -/
theorem Like.absent_or {a a' : Option α} (ha : Like ρ a a') :
    (a = Option.none ∧ a' = Option.none) ∨ ∃ b b', a = Option.some b ∧ a' = Option.some b' ∧ Like ρ b b' := by
  cases ha with
  | none => exact .inl ⟨rfl, rfl⟩
  | some hb => exact .inr ⟨_, _, rfl, rfl, hb⟩

theorem Like.isSome {a a' : Option α} (ha : Like ρ a a') : a'.isSome = a.isSome := by
  cases ha <;> rfl

theorem Like.headD {a a' : α} (ha : Like ρ a a') {as as' : List α} (has : Like ρ as as') :
    Like ρ (as.headD a) (as'.headD a') := by
  cases has with
  | nil => exact ha
  | cons hb _ => exact hb

theorem Like.getElem? {as as' : List α} (has : Like ρ as as') (n : Nat) : Like ρ as[n]? as'[n]? := by
  induction has generalizing n with
  | nil => exact .none
  | cons ha _ ih =>
    cases n with
    | zero => exact .some ha
    | succ n => exact ih n

end

/-! ## Echoes -/

namespace Echoes

variable {α β γ : Type} [Likened P α] [Likened P β] [Likened P γ] {ρ : Likeness P} {x x' : Effect L α}
  {c c' : Effect L Unit}

theorem pure {a a' : α} (ha : Like ρ a a') : Echoes ρ (Pure.pure a) (Pure.pure a') :=
  ⟨fun _ _ hw => .pure ⟨ρ, .refl ρ, hw, ha⟩⟩

/-- What is not needed to tell how it goes on, is not known any more; the rest is like each other still. -/
theorem bind {f f' : α → Effect L β} {k k' : γ} (hk : Like ρ k k') (hx : Echoes ρ x x')
    (hf : ∀ ρ : Likeness P, Like ρ k k' → ∀ a a', Like ρ a a' → Echoes ρ (f a) (f' a')) : Echoes ρ (x >>= f) (x' >>= f') := by
  constructor
  intro w w' hw
  refine .bind (hx.twins w w' hw) ?_
  rintro a v a' v' ⟨κ, hκ, hv, ha⟩
  refine ((hf κ (hk.mono hκ) a a' ha).twins v v' hv).mono id ?_ fun _ _ _ => trivial
  rintro b u b' u' ⟨μ, hμ, hu, hb⟩
  exact ⟨μ, hκ.trans hμ, hu, hb⟩

/-- After computations that leave nothing to remember. -/
theorem next {f f' : α → Effect L β} (hx : Echoes ρ x x') (hf : ∀ (ρ : Likeness P) a a', Like ρ a a' → Echoes ρ (f a) (f' a')) :
    Echoes ρ (x >>= f) (x' >>= f') :=
  bind (show Like ρ () () from rfl) hx fun κ _ a a' ha => hf κ a a' ha

/-- Where there is a result, no cleanup for panics ran. -/
theorem onPanic (hx : Echoes ρ x x') : Echoes ρ (x.onPanic c) (x'.onPanic c') :=
  ⟨fun w w' hw => .onPanic (hx.twins w w' hw) False.elim⟩

theorem andFinally {k k' : γ} (hk : Like ρ k k') (hx : Echoes ρ x x') (hc : ∀ ρ : Likeness P, Like ρ k k' → Echoes ρ c c') :
    Echoes ρ (x.andFinally c) (x'.andFinally c') := by
  constructor
  intro w w' hw
  refine .andFinally (hx.twins w w' hw) ?_ False.elim
  rintro a v a' v' ⟨κ, hκ, hv, ha⟩
  refine ((hc κ (hk.mono hκ)).twins v v' hv).mono id ?_ fun _ _ _ => trivial
  rintro _ u _ u' ⟨μ, hμ, hu, -⟩
  exact ⟨μ, hκ.trans hμ, hu, ha.mono hμ⟩

theorem panic (message : String) : Echoes ρ (.panic message : Effect L α) x' := ⟨fun _ _ _ => ⟨False.elim⟩⟩

theorem stop : Echoes ρ (.stop : Effect L α) x' := ⟨fun _ _ _ => ⟨trivial⟩⟩

/-- What is read from worlds that mirror each other. -/
theorem gets {f f' : World L → α} (hf : ∀ w w', w.Mirrors ρ w' → Like ρ (f w) (f' w')) :
    Echoes ρ (.gets f) (.gets f') :=
  ⟨fun w w' hw => ⟨_, w', rfl, ρ, .refl ρ, hw, hf w w' hw⟩⟩

theorem modifyGet {f f' : World L → α × World L} (hf : ∀ w w', w.Mirrors ρ w' →
    ∃ κ, ρ.Grows κ ∧ (f w).2.Mirrors κ (f' w').2 ∧ Like κ (f w).1 (f' w').1) :
    Echoes ρ (.modifyGet f) (.modifyGet f') :=
  ⟨fun w w' hw => ⟨_, _, rfl, hf w w' hw⟩⟩

theorem modify {f f' : World L → World L} (hf : ∀ w w', w.Mirrors ρ w' → (f w).Mirrors ρ (f' w')) :
    Echoes ρ (.modify f) (.modify f') :=
  ⟨fun w w' hw => ⟨(), _, rfl, ρ, .refl ρ, hf w w' hw, rfl⟩⟩

end Echoes

end CoroutineEngine
