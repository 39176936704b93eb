import CoroutineEngine.Script.Machine
import CoroutineEngine.World.Objects
import Mathlib.Data.List.Nodup
import Mathlib.Logic.Relation

/-!
# The descent of classes

Every class but the root derives from one that was there before, so the classes that are defined one after another
form a tree, whatever they are called. Matching asks for the way up: a class matches those that it descends from.

Results:
* `IsOrderly.isSubclassOf_iff_descends`: matching is the closure of the relation between a class and its base.
* `matching_ordered`: it orders every collection of classes as a tree, and two classes of signals have no
  descendant in common.
-/

namespace CoroutineEngine

variable {L : Language}

namespace ExceptionClass

/-! ## Definitions -/

/-- Classes that are defined one after another, after some classes are there and at least `n` identities are given
out; in the end `m` are. A class is defined in any world, under any name, and from any class there is. -/
inductive Defines (L : Language) (cs : List ExceptionClass) (n : Nat) : List ExceptionClass → Nat → Prop
  | nothing : Defines L cs n cs n
  | oneMore {ds : List ExceptionClass} {m : Nat} (h : Defines L cs n ds m) (name : String)
      {base c : ExceptionClass} {w v : World L} (hbase : base ∈ ds) (hw : m ≤ w.serial)
      (hc : makeClass name base w = (.ok c, v)) : Defines L cs n (ds ++ [c]) v.serial

/-- A collection of classes: the built-in ones, and what was defined from them. A fresh world has one identity
given out. -/
def Collection (L : Language) (cs : List ExceptionClass) (n : Nat) : Prop := Defines L builtins 1 cs n

/-- A class is another one or comes to it from base to base, by way of classes of a collection. -/
def Descends (cs : List ExceptionClass) : ExceptionClass → ExceptionClass → Prop :=
  Relation.ReflTransGen fun a b => a ∈ cs ∧ b ∈ cs ∧ a.base = some b

/-- How matching orders a collection of classes.

* `distinct`: no class is there twice, also if names are.
* `walk`: a class is compared with itself and with one base after another, with none of them twice and all of them
  from the collection, so that matching is over after as many comparisons as there are classes.
* `closure`: what matches is what a class descends from.
* `antisymm`, `greatest`, `chain`: this is a partial order with the root on top, in which what lies above a class is
  totally ordered.
* `lasting`: whatever is defined later, a class of the collection still descends from the same classes.
* `stops`, `exits`, `apart`: an exception is an exhaustion or a cancellation signal just if its class descends from
  the one or the other, and it is never both. -/
structure Ordered (L : Language) (cs : List ExceptionClass) (n : Nat) : Prop where
  distinct : cs.Nodup
  walk : ∀ a ∈ cs, (∀ b, a.isSubclassOf b = true ↔ b ∈ a.lineage) ∧ a.lineage.Nodup ∧ a.lineage ⊆ cs ∧
    a.lineage.length ≤ cs.length
  closure : ∀ a ∈ cs, ∀ b, a.isSubclassOf b = true ↔ Descends cs a b
  antisymm : ∀ a b, Descends cs a b → Descends cs b a → a = b
  greatest : root ∈ cs ∧ ∀ a ∈ cs, Descends cs a root
  chain : ∀ a b c, Descends cs a b → Descends cs a c → Descends cs b c ∨ Descends cs c b
  lasting : ∀ ds m, Defines L cs n ds m → ∀ a ∈ cs, a ∈ ds ∧ ∀ b, Descends ds a b ↔ Descends cs a b
  stops : ∀ e : Exception, e.cls ∈ cs →
    (e.cls.isSubclassOf .stopIteration = true ↔ Descends cs e.cls .stopIteration)
  exits : ∀ e : Exception, e.cls ∈ cs →
    (e.cls.isSubclassOf .generatorExit = true ↔ Descends cs e.cls .generatorExit)
  apart : ∀ e : Exception,
    ¬ (e.cls.isSubclassOf .stopIteration = true ∧ e.cls.isSubclassOf .generatorExit = true)

/-! ## Helpers -/

/-- The serial number of a class. -/
def serial : ExceptionClass → Nat
  | root => 0
  | derived _ serial _ => serial

/-- What a lineage starts with, and what follows. -/
theorem mem_lineage_iff {a b : ExceptionClass} :
    b ∈ a.lineage ↔ b = a ∨ ∃ c, a.base = some c ∧ b ∈ c.lineage := by
  cases a <;> simp [lineage, base]

theorem mem_lineage_self (a : ExceptionClass) : a ∈ a.lineage := mem_lineage_iff.mpr (.inl rfl)

theorem isSubclassOf_base {a b : ExceptionClass} (h : a.base = some b) : a.isSubclassOf b = true :=
  (isSubclassOf_iff_mem_lineage a b).mpr (mem_lineage_iff.mpr (.inr ⟨b, h, mem_lineage_self b⟩))

/-- A class that is not its base's base: lineages get shorter on the way up. -/
theorem lineage_length_le {a b : ExceptionClass} (h : b ∈ a.lineage) : b.lineage.length ≤ a.lineage.length := by
  induction a with
  | root => simp_all [lineage]
  | derived name serial base ih =>
    rcases List.mem_cons.mp h with rfl | h
    · exact Nat.le_refl _
    · exact Nat.le_succ_of_le (ih h)

/-- Who comes before in a lineage has the longer one. -/
theorem lineage_length_lt {a b c : ExceptionClass} (hb : a.base = some b) (hc : c ∈ b.lineage) :
    c.lineage.length < a.lineage.length := by
  cases a with
  | root => cases hb
  | derived name serial base =>
    obtain rfl := Option.some.inj hb
    exact Nat.lt_succ_of_le (lineage_length_le hc)

theorem nodup_lineage (a : ExceptionClass) : a.lineage.Nodup := by
  induction a with
  | root => simp [lineage]
  | derived name serial base ih =>
    refine List.nodup_cons.mpr ⟨fun h => ?_, ih⟩
    exact Nat.lt_irrefl _ (lineage_length_lt (a := derived name serial base) rfl h)

theorem isSubclassOf_antisymm {a b : ExceptionClass} (hab : a.isSubclassOf b = true)
    (hba : b.isSubclassOf a = true) : a = b := by
  rcases mem_lineage_iff.mp ((isSubclassOf_iff_mem_lineage a b).mp hab) with rfl | ⟨c, hc, hb⟩
  · rfl
  · -- `b` would lie properly above `a`, so `a` cannot lie above `b`
    have hlt := lineage_length_lt hc hb
    have hle := lineage_length_le ((isSubclassOf_iff_mem_lineage b a).mp hba)
    omega

/-- Of two classes above one, one lies above the other. -/
theorem isSubclassOf_total {a b c : ExceptionClass} (hb : a.isSubclassOf b = true) (hc : a.isSubclassOf c = true) :
    b.isSubclassOf c = true ∨ c.isSubclassOf b = true := by
  induction a with
  | root =>
    obtain rfl : b = root := by simpa [isSubclassOf] using hb
    exact .inl hc
  | derived name serial base ih =>
    rcases Bool.or_eq_true_iff.mp hb with hb' | hb'
    · obtain rfl : b = derived name serial base := by simpa using hb'
      exact .inl hc
    · rcases Bool.or_eq_true_iff.mp hc with hc' | hc'
      · obtain rfl : c = derived name serial base := by simpa using hc'
        exact .inr hb
      · exact ih hb' hc'

theorem makeClass_eq_ok {name : String} {base c : ExceptionClass} {w v : World L}
    (h : makeClass name base w = (.ok c, v)) : c = derived name w.serial base ∧ v.serial = w.serial + 1 := by
  obtain ⟨hc, hv⟩ := Prod.mk.inj h
  exact ⟨(Outcome.ok.inj hc).symm, hv ▸ rfl⟩

theorem isSubclassOf_of_descends {cs : List ExceptionClass} {a b : ExceptionClass} (h : Descends cs a b) :
    a.isSubclassOf b = true := by
  induction h with
  | refl => exact isSubclassOf_refl a
  | tail _ hstep ih => exact isSubclassOf_trans ih (isSubclassOf_base hstep.2.2)

theorem Descends.eq_of_not_mem {cs : List ExceptionClass} {a b : ExceptionClass} (h : Descends cs a b)
    (ha : a ∉ cs) : a = b := by
  rcases Relation.ReflTransGen.cases_head h with rfl | ⟨c, hstep, -⟩
  · rfl
  · exact absurd hstep.1 ha

/-- What holds of every collection: whoever is there has its base there, and a serial number that was given out. -/
structure IsOrderly (cs : List ExceptionClass) (n : Nat) : Prop where
  nodup : cs.Nodup
  root_mem : root ∈ cs
  base_mem : ∀ a ∈ cs, ∀ b, a.base = some b → b ∈ cs
  serial_lt : ∀ a ∈ cs, a.serial < n

theorem isOrderly_builtins : IsOrderly builtins 1 := by
  constructor <;> decide +revert

theorem IsOrderly.defines {cs ds : List ExceptionClass} {n m : Nat} (hcs : IsOrderly cs n)
    (h : Defines L cs n ds m) : IsOrderly ds m ∧ cs ⊆ ds ∧ n ≤ m := by
  induction h with
  | nothing => exact ⟨hcs, List.Subset.refl _, Nat.le_refl n⟩
  | @oneMore ds m _ name base c w v hbase hw hc ih =>
    obtain ⟨hds, hsub, hle⟩ := ih
    obtain ⟨rfl, hv⟩ := makeClass_eq_ok hc
    refine ⟨⟨?_, List.mem_append_left _ hds.root_mem, ?_, ?_⟩, List.Subset.trans hsub (List.subset_append_left ds _), by omega⟩
    · -- the number of the new class is above all that were given out
      refine List.nodup_append.mpr ⟨hds.nodup, List.pairwise_singleton _ _, ?_⟩
      rintro a ha _ hb rfl
      obtain rfl := List.mem_singleton.mp hb
      have hlt := hds.serial_lt _ ha
      exact absurd hw (Nat.not_le_of_lt hlt)
    · intro a ha b hb
      rcases List.mem_append.mp ha with ha | ha
      · exact List.mem_append_left _ (hds.base_mem a ha b hb)
      · obtain rfl := List.mem_singleton.mp ha
        obtain rfl := Option.some.inj hb
        exact List.mem_append_left _ hbase
    · intro a ha
      rcases List.mem_append.mp ha with ha | ha
      · have hlt := hds.serial_lt a ha
        omega
      · obtain rfl := List.mem_singleton.mp ha
        show w.serial < v.serial
        omega

namespace IsOrderly

variable {cs : List ExceptionClass} {n : Nat}

theorem lineage_subset (h : IsOrderly cs n) {a : ExceptionClass} (ha : a ∈ cs) : a.lineage ⊆ cs := by
  induction a with
  | root => simpa [lineage] using ha
  | derived name serial base ih =>
    exact List.cons_subset.mpr ⟨ha, ih (h.base_mem _ ha _ rfl)⟩

/-- A class of an orderly collection matches what it descends from. -/
theorem isSubclassOf_iff_descends (h : IsOrderly cs n) {a : ExceptionClass} (ha : a ∈ cs) (b : ExceptionClass) :
    a.isSubclassOf b = true ↔ Descends cs a b := by
  constructor
  · intro hab
    induction a with
    | root =>
      obtain rfl : b = root := by simpa [isSubclassOf] using hab
      exact .refl
    | derived name serial base ih =>
      have hbase : base ∈ cs := h.base_mem _ ha _ rfl
      rcases Bool.or_eq_true_iff.mp hab with hab | hab
      · obtain rfl : b = derived name serial base := by simpa using hab
        exact .refl
      · exact .head ⟨ha, hbase, rfl⟩ (ih hbase hab)
  · exact isSubclassOf_of_descends

end IsOrderly

/-- Neither class of signals descends from the other, so no class descends from both. -/
theorem signals_apart (a : ExceptionClass) :
    ¬ (a.isSubclassOf stopIteration = true ∧ a.isSubclassOf generatorExit = true) := by
  rintro ⟨hstop, hexit⟩
  have hnot : ¬ (stopIteration.isSubclassOf generatorExit = true ∨
      generatorExit.isSubclassOf stopIteration = true) := by decide
  exact hnot (isSubclassOf_total hstop hexit)

/-- What a class descends from is in the collection, if the class is. -/
theorem Descends.mem {cs : List ExceptionClass} {a b : ExceptionClass} (h : Descends cs a b) (ha : a ∈ cs) :
    b ∈ cs := by
  induction h with
  | refl => exact ha
  | tail _ hstep _ => exact hstep.2.1

/-! ## The order of a collection -/

/-- Matching orders every collection of classes as a tree, whatever the classes are called and in whichever order
they are defined. -/
theorem matching_ordered {cs : List ExceptionClass} {n : Nat} (h : Collection L cs n) : Ordered L cs n := by
  have hcs : IsOrderly cs n := (isOrderly_builtins.defines h).1
  have up {a b : ExceptionClass} (hab : Descends cs a b) : a.isSubclassOf b = true := isSubclassOf_of_descends hab
  constructor
  case distinct => exact hcs.nodup
  case walk =>
    intro a ha
    have hsub := hcs.lineage_subset ha
    exact ⟨isSubclassOf_iff_mem_lineage a, nodup_lineage a, hsub, (nodup_lineage a).length_le_of_subset hsub⟩
  case closure => exact fun a ha => hcs.isSubclassOf_iff_descends ha
  case antisymm => exact fun a b hab hba => isSubclassOf_antisymm (up hab) (up hba)
  case greatest =>
    refine ⟨hcs.root_mem, fun a ha => ?_⟩
    exact (hcs.isSubclassOf_iff_descends ha root).mp (isSubclassOf_root a)
  case chain =>
    intro a b c hb hc
    -- a class that descends from another one is there, unless the two are the same
    by_cases ha : a ∈ cs
    · rcases isSubclassOf_total (up hb) (up hc) with h | h
      · exact .inl ((hcs.isSubclassOf_iff_descends (hb.mem ha) c).mp h)
      · exact .inr ((hcs.isSubclassOf_iff_descends (hc.mem ha) b).mp h)
    · obtain rfl := hb.eq_of_not_mem ha
      exact .inl hc
  case lasting =>
    intro ds m hds a ha
    obtain ⟨hds, hsub, -⟩ := hcs.defines hds
    refine ⟨hsub ha, fun b => ?_⟩
    rw [← hcs.isSubclassOf_iff_descends ha, ← hds.isSubclassOf_iff_descends (hsub ha)]
  case stops => exact fun e he => hcs.isSubclassOf_iff_descends he _
  case exits => exact fun e he => hcs.isSubclassOf_iff_descends he _
  case apart => exact fun e => signals_apart e.cls

/-- Two classes of one name, of which the one derives from the exhaustion signal and the other from the first. -/
theorem matching_ordered_namesakes :
    ∃ cs n, Collection Script.language cs n ∧ Ordered Script.language cs n ∧
      ∃ a b, a ∈ cs ∧ b ∈ cs ∧ a ≠ b ∧ a.name = b.name ∧ Descends cs b a ∧ Descends cs a stopIteration := by
  let w : World Script.language := .fresh 0
  let a := derived "Done" 1 stopIteration
  let b := derived "Done" 2 a
  have ha : Collection Script.language (builtins ++ [a]) 2 :=
    .oneMore .nothing "Done" (w := w) (by decide) (Nat.le_refl 1) rfl
  have h : Collection Script.language (builtins ++ [a] ++ [b]) 3 :=
    .oneMore ha "Done" (w := { w with serial := 2 }) (by decide) (Nat.le_refl 2) rfl
  have ho := matching_ordered h
  refine ⟨_, _, h, ho, a, b, by decide, by decide, by decide, rfl, ?_, ?_⟩
  · exact (ho.closure b (by decide) a).mp (by decide)
  · exact (ho.closure a (by decide) stopIteration).mp (by decide)

end ExceptionClass

end CoroutineEngine
