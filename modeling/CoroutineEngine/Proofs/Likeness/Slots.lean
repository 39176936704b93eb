import CoroutineEngine.Operation.Objects
import CoroutineEngine.Proofs.Likeness.Requests
import Mathlib.Data.String.Basic

/-!
# Named places side by side

Slots and weak references have names. Where the names are in order, each of them once, the place of a name is filled
and emptied without any consequence for the places of other names.

Results:
* `Named.lookup_insert`, `Named.lookup_remove`: what is found under a name afterwards.
* `World.Mirrors.insertSlot`, `World.Mirrors.removeSlot`: slots within reach are filled and emptied alike.
-/

namespace CoroutineEngine

/-! ## Places -/

namespace Named

variable {α : Type} {s : Named α} {name m : String}

theorem lookup_cons (n : String) (a : α) (s : Named α) :
    List.lookup m ((n, a) :: s) = if m = n then some a else s.lookup m := by
  rw [List.lookup_cons]
  by_cases h : m = n
  · simp [h]
  · have hne : (m == n) = false := by simpa using h
    simp [h, hne]

/-- Below the first name there is none. -/
theorem lookup_below (h : ∀ p ∈ s, name < p.1) : s.lookup name = none := by
  refine List.lookup_eq_none_iff.mpr fun p hp => ?_
  simpa using (h p hp).ne

theorem lookup_insert (a : α) : (s.insert name a).1.lookup m = if m = name then some a else s.lookup m := by
  induction s with
  | nil => exact lookup_cons name a []
  | cons p s ih =>
    obtain ⟨n, old⟩ := p
    unfold insert
    split
    · next hn =>
      subst hn
      simp only [lookup_cons]
      split <;> rfl
    · next hn =>
      split
      · exact lookup_cons name a _
      · simp only [lookup_cons, ih]
        by_cases hm : m = n
        · subst hm
          rw [if_pos rfl, if_neg hn, if_pos rfl]
        · rw [if_neg hm, if_neg hm]

/-- What is given back is what was there. -/
theorem insert_previous (hs : s.IsSorted) (a : α) : (s.insert name a).2 = s.lookup name := by
  induction s with
  | nil => rfl
  | cons p s ih =>
    obtain ⟨n, old⟩ := p
    obtain ⟨hp, hs⟩ := List.pairwise_cons.mp hs
    unfold insert
    split
    · next hn => rw [lookup_cons, if_pos hn.symm]
    · next hn =>
      rw [lookup_cons, if_neg (Ne.symm hn)]
      split
      · next hlt => exact (lookup_below fun q hq => hlt.trans (hp q hq)).symm
      · exact ih hs

theorem mem_insert (a : α) {p : String × α} (hp : p ∈ (s.insert name a).1) : p.1 = name ∨ p ∈ s := by
  induction s with
  | nil =>
    rw [List.mem_singleton.mp hp]
    exact .inl rfl
  | cons q s ih =>
    obtain ⟨n, old⟩ := q
    unfold insert at hp
    split at hp
    · next hn =>
      rcases List.mem_cons.mp hp with rfl | hp
      · exact .inl hn
      · exact .inr (.tail _ hp)
    · split at hp
      · rcases List.mem_cons.mp hp with rfl | hp
        · exact .inl rfl
        · exact .inr hp
      · rcases List.mem_cons.mp hp with rfl | hp
        · exact .inr (.head _)
        · exact (ih hp).imp_right (.tail _)

theorem IsSorted.insert (hs : s.IsSorted) (a : α) : (s.insert name a).1.IsSorted := by
  induction s with
  | nil => exact List.pairwise_singleton _ _
  | cons p s ih =>
    obtain ⟨n, old⟩ := p
    obtain ⟨hp, hrest⟩ := List.pairwise_cons.mp hs
    unfold Named.insert
    split
    · exact List.pairwise_cons.mpr ⟨hp, hrest⟩
    · next hn =>
      split
      · next hlt =>
        refine List.pairwise_cons.mpr ⟨List.forall_mem_cons.mpr ⟨hlt, ?_⟩, hs⟩
        exact fun q hq => hlt.trans (hp q hq)
      · next hnlt =>
        refine List.pairwise_cons.mpr ⟨fun q hq => ?_, ih hrest⟩
        rcases mem_insert a hq with h | h
        · rw [h]
          exact lt_of_le_of_ne (not_lt.mp hnlt) hn
        · exact hp q h

theorem remove_found : (s.remove name).2 = s.lookup name := by
  induction s with
  | nil => rfl
  | cons p s ih =>
    obtain ⟨n, old⟩ := p
    unfold remove
    split
    · next hn => rw [lookup_cons, if_pos hn.symm]
    · next hn => rw [lookup_cons, if_neg (Ne.symm hn), ← ih]

theorem lookup_remove (hs : s.IsSorted) : (s.remove name).1.lookup m = if m = name then none else s.lookup m := by
  induction s with
  | nil =>
    split <;> rfl
  | cons p s ih =>
    obtain ⟨n, old⟩ := p
    obtain ⟨hp, hs⟩ := List.pairwise_cons.mp hs
    unfold remove
    split
    · next hn =>
      subst hn
      rw [lookup_cons]
      split
      · next hm => exact hm ▸ lookup_below hp
      · rfl
    · next hn =>
      simp only [lookup_cons, ih hs]
      by_cases hm : m = n
      · subst hm
        rw [if_pos rfl, if_neg hn, if_pos rfl]
      · rw [if_neg hm, if_neg hm]

theorem remove_sublist : (s.remove name).1.Sublist s := by
  induction s with
  | nil => exact .refl _
  | cons p s ih =>
    obtain ⟨n, old⟩ := p
    unfold remove
    split
    · exact List.sublist_cons_self _ _
    · exact ih.cons_cons _

theorem IsSorted.remove (hs : s.IsSorted) : (s.remove name).1.IsSorted := List.Pairwise.sublist remove_sublist hs

end Named

/-! ## Places within reach -/

variable {L : Language} {P : Privacy L} {ρ : Likeness P}

namespace World.Mirrors

variable {w w' : World L}

theorem insertSlot (hw : w.Mirrors ρ w') (name : String) {v v' : Value} (hv : Like ρ v v') :
    World.Mirrors ρ { w with slots := (w.slots.insert name v).1 } { w' with slots := (w'.slots.insert name v').1 } :=
  { hw with
    slots := by
      intro m hm
      simp only [Named.lookup_insert]
      split
      · exact hv.some
      · exact hw.slots hm
    sorted := fun hm => ⟨(hw.sorted hm).1.insert v, (hw.sorted hm).2.insert v'⟩ }

theorem removeSlot (hw : w.Mirrors ρ w') (name : String) :
    World.Mirrors ρ { w with slots := (w.slots.remove name).1 } { w' with slots := (w'.slots.remove name).1 } :=
  { hw with
    slots := by
      intro m hm
      rw [Named.lookup_remove (hw.sorted hm).1, Named.lookup_remove (hw.sorted hm).2]
      split
      · exact .none
      · exact hw.slots hm
    sorted := fun hm => ⟨(hw.sorted hm).1.remove, (hw.sorted hm).2.remove⟩ }

theorem insertWeak (hw : w.Mirrors ρ w') (name : String) {c c' : CoroutineId} (hc : Like ρ c c') :
    World.Mirrors ρ { w with weaks := (w.weaks.insert name c).1 } { w' with weaks := (w'.weaks.insert name c').1 } :=
  { hw with
    weaks := by
      intro m hm
      simp only [Named.lookup_insert]
      split
      · exact hc.some
      · exact hw.weaks hm }

end World.Mirrors

namespace Echoes

theorem storeSlot {E F : Engine L} (hE : E.IsEchoedBy P F) {slot : String} (hslot : P.reach.slots slot)
    {v v' : Value} (hv : Like ρ v v') :
    Echoes ρ (CoroutineEngine.storeSlot E slot v) (CoroutineEngine.storeSlot F slot v') := by
  refine .next (.modifyGet fun w w' hw => ⟨ρ, .refl ρ, hw.insertSlot slot hv, ?_⟩) fun _ _ _ h => releaseOption hE h
  have h := hw.slots hslot
  rw [← Named.insert_previous (hw.sorted hslot).1 v, ← Named.insert_previous (hw.sorted hslot).2 v'] at h
  exact h

theorem removeSlot {slot : String} (hslot : P.reach.slots slot) :
    Echoes (L := L) ρ (.modifyGet fun w => ((w.slots.remove slot).2, { w with slots := (w.slots.remove slot).1 }))
      (.modifyGet fun w => ((w.slots.remove slot).2, { w with slots := (w.slots.remove slot).1 })) := by
  refine .modifyGet fun w w' hw => ⟨ρ, .refl ρ, hw.removeSlot slot, ?_⟩
  rw [Named.remove_found, Named.remove_found]
  exact hw.slots hslot

end Echoes

end CoroutineEngine
