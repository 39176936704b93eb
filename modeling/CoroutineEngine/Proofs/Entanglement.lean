import CoroutineEngine.Proofs.Provenance.Runs
import CoroutineEngine.Proofs.Texts
import CoroutineEngine.Script.Machine
import Mathlib.Data.Finset.Card
import Mathlib.Data.Finset.Range
import Mathlib.Logic.Relation

/-!
# Texts that have no end

The text of a value contains the texts of what it leads to: the items of a tuple, the arguments of an exception, the
content of a cell. Tuples and the arguments of exceptions are made before what holds them and never change, so only
a cell can lead back to itself. A text has an end just if no cell does that the value leads to, and then the descent
is no deeper than there are objects.

Results:
* `World.Genuine.renders`: in a genuine world, a text has an end unless the value is entangled.
* `rendering_ends`: so it is in whatever world a client gets to.
* `knotted_endless`: a cell that a client puts into itself has no text, and no exception has one that holds it.
-/

namespace CoroutineEngine

open Relation (ReflTransGen TransGen)

variable {L : Language}

/-! ## Definitions -/

namespace World

/-- The text of a value contains the text of another one. -/
inductive Leads (w : World L) : Value → Value → Prop
  | item {i : Nat} {items : List Value} {v : Value} (h : v ∈ items) : Leads w (.tuple i items) v
  | argument {e : Exception} {v : Value} (h : v ∈ (w.exception e).args) : Leads w (.exception e) v
  | content {c : CellId} {v : Value} (h : (w.cell c).content = some v) : Leads w (.cell c) v

/-- From a value one comes to a cell that leads back to itself. -/
def Entangled (w : World L) (v : Value) : Prop :=
  ∃ c : CellId, ReflTransGen w.Leads v (.cell c) ∧ TransGen w.Leads (.cell c) (.cell c)

/-- The texts of a value.

* `debug`, `display`: they have an end just if the value is not entangled.
* `endless`: otherwise there is none, however deep the descent may go.
* `stable`: a text that some descent comes to is the text of the value.
* `exception`: of an exception, the same holds of its message and of its sentence.
* `holding`: an exception that has an entangled argument has no text. -/
structure Renders (w : World L) (v : Value) : Prop where
  debug : (∃ s, w.debug v = some s) ↔ ¬ w.Entangled v
  display : (∃ s, w.display v = some s) ↔ ¬ w.Entangled v
  endless : w.Entangled v → ∀ fuel, w.debug? fuel v = none ∧ w.display? fuel v = none
  stable : ∀ fuel s, (w.debug? fuel v = some s → w.debug v = some s) ∧
    (w.display? fuel v = some s → w.display v = some s)
  exception : ∀ e, v = .exception e →
    ((∃ s, w.message e = some s) ↔ ¬ w.Entangled v) ∧ ((∃ s, w.exceptionText e = some s) ↔ ¬ w.Entangled v)
  holding : ∀ e, v ∈ (w.exception e).args → w.Entangled v →
    w.debug (.exception e) = none ∧ w.message e = none ∧ w.exceptionText e = none

/-! ## Helpers -/

variable {w : World L}

/-! ### Endless descents -/

/-- A value whose text has an end starts no endless descent. -/
theorem acc_of_debug? {fuel : Nat} {v : Value} {s : String} (hs : w.debug? fuel v = some s) :
    Acc (fun u v => w.Leads v u) v := by
  induction fuel generalizing v s with
  | zero => cases hs
  | succ fuel ih =>
    refine ⟨_, fun u hu => ?_⟩
    cases hu with
    | item h =>
      rw [debug?_tuple] at hs
      obtain ⟨ss, hss, -⟩ := Option.map_eq_some_iff.mp hs
      obtain ⟨t, ht⟩ := mapM_isSome_iff.mp ⟨ss, hss⟩ u h
      exact ih ht
    | argument h =>
      rw [debug?_exception] at hs
      obtain ⟨ss, hss, -⟩ := Option.map_eq_some_iff.mp hs
      obtain ⟨t, ht⟩ := mapM_isSome_iff.mp ⟨ss, hss⟩ u h
      cases u with
      | str text => exact ⟨_, fun _ hu => nomatch hu⟩
      | _ => exact ih ht
    | content h =>
      rw [debug?_cell h] at hs
      obtain ⟨t, ht, -⟩ := Option.map_eq_some_iff.mp hs
      exact ih ht

theorem acc_of_display? {fuel : Nat} {v : Value} {s : String} (hs : w.display? fuel v = some s) :
    Acc (fun u v => w.Leads v u) v := by
  induction fuel generalizing v s with
  | zero => cases hs
  | succ fuel ih =>
    cases v with
    | str t => exact ⟨_, fun _ hu => nomatch hu⟩
    | exception e =>
      refine ⟨_, fun u hu => ?_⟩
      cases hu with
      | argument h =>
        rw [display?_exception] at hs
        split at hs
        · next hargs => exact absurd h (by simp [hargs])
        · next single hargs =>
          obtain rfl : u = single := by simpa [hargs] using h
          exact ih hs
        · obtain ⟨ss, hss, -⟩ := Option.map_eq_some_iff.mp hs
          obtain ⟨t, ht⟩ := mapM_isSome_iff.mp ⟨ss, hss⟩ u h
          exact acc_of_debug? ht
    | _ => exact acc_of_debug? (show w.debug? (fuel + 1) _ = some s from hs)

/-- An entangled value leads to another one. -/
theorem Entangled.next {v : Value} (h : w.Entangled v) : ∃ u, w.Leads v u ∧ w.Entangled u := by
  obtain ⟨c, hc, hcc⟩ := h
  rcases ReflTransGen.cases_head hc with rfl | ⟨u, hu, huc⟩
  · obtain ⟨u, hu, huc⟩ := TransGen.head'_iff.mp hcc
    exact ⟨u, hu, c, huc, hcc⟩
  · exact ⟨u, hu, c, huc, hcc⟩

/-- An entangled value starts an endless descent. -/
theorem not_entangled_of_acc {v : Value} (hv : Acc (fun u v => w.Leads v u) v) : ¬ w.Entangled v := by
  induction hv with
  | intro v _ ih =>
    intro h
    obtain ⟨u, hu, he⟩ := h.next
    exact ih u hu he

theorem Entangled.endless {v : Value} (h : w.Entangled v) (fuel : Nat) :
    w.debug? fuel v = none ∧ w.display? fuel v = none := by
  constructor
  · exact Option.eq_none_iff_forall_ne_some.mpr fun s hs => not_entangled_of_acc (acc_of_debug? hs) h
  · exact Option.eq_none_iff_forall_ne_some.mpr fun s hs => not_entangled_of_acc (acc_of_display? hs) h

/-! ### Bounded descents -/

/-- No descent from a value passes so many values. -/
def EndsWithin (w : World L) : Nat → Value → Prop
  | 0, _ => False
  | n + 1, v => ∀ u, w.Leads v u → w.EndsWithin n u

theorem debug?_of_endsWithin {n : Nat} {v : Value} (h : w.EndsWithin n v) : ∃ s, w.debug? n v = some s := by
  induction n generalizing v with
  | zero => exact h.elim
  | succ n ih =>
    cases v with
    | tuple i items =>
      obtain ⟨ss, hss⟩ := mapM_isSome_iff.mpr fun u hu => ih (h u (.item hu))
      exact ⟨_, by rw [debug?_tuple, hss, Option.map_some]⟩
    | exception e =>
      have hargs : ∀ u ∈ (w.exception e).args, ∃ s, w.argument? n u = some s := by
        intro u hu
        cases u with
        | str t => exact ⟨_, rfl⟩
        | _ => exact ih (h _ (.argument hu))
      obtain ⟨ss, hss⟩ := mapM_isSome_iff.mpr hargs
      exact ⟨_, by rw [debug?_exception, hss, Option.map_some]⟩
    | cell c =>
      cases hc : (w.cell c).content with
      | none => exact ⟨_, debug?_emptyCell hc n⟩
      | some content =>
        obtain ⟨s, hs⟩ := ih (h content (.content hc))
        exact ⟨_, by rw [debug?_cell hc, hs, Option.map_some]⟩
    | _ => exact ⟨_, rfl⟩

theorem display?_of_endsWithin {n : Nat} {v : Value} (h : w.EndsWithin n v) :
    ∃ s, w.display? n v = some s := by
  induction n generalizing v with
  | zero => exact h.elim
  | succ n ih =>
    cases v with
    | str t => exact ⟨_, rfl⟩
    | exception e =>
      rw [display?_exception]
      split
      · exact ⟨_, rfl⟩
      · next single hargs => exact ih (h single (.argument (by simp [hargs])))
      · obtain ⟨ss, hss⟩ := mapM_isSome_iff.mpr fun u hu => debug?_of_endsWithin (h u (.argument hu))
        exact ⟨_, by rw [hss, Option.map_some]⟩
    | _ => exact debug?_of_endsWithin h

/-! ### Places -/

/-- The place of an object among the tuples, the exceptions and the cells. -/
def place? (w : World L) : Value → Option Nat
  | .tuple i _ => some i
  | .exception e => some (w.tuples.size + e.index)
  | .cell c => some (w.tuples.size + w.exceptions.size + c.index)
  | _ => none

/-- How many places there are. -/
def places (w : World L) : Nat := w.tuples.size + w.exceptions.size + w.cells.size

namespace Genuine

variable {ι : Inventory} (hw : w.Genuine ι)

include hw

theorem leads {u v : Value} (hv : CoroutineEngine.Genuine ι v) (h : w.Leads v u) :
    CoroutineEngine.Genuine ι u := by
  cases h with
  | item h => exact Value.areGenuine_iff.mp hv.2 u h
  | argument h => exact hw.args _ u h
  | content h => exact hw.contents _ u h

theorem tuple_lt {i : Nat} {items : List Value} (h : CoroutineEngine.Genuine ι (Value.tuple i items)) :
    i < w.tuples.size := by
  rw [hw.tuples]
  exact (List.getElem?_eq_some_iff.mp h.1).1

theorem exception_lt {e : Exception} (h : CoroutineEngine.Genuine ι (Value.exception e)) :
    e.index < w.exceptions.size := by
  rw [hw.exceptions]
  exact h

/-- What leads to anything has a place. -/
theorem place_of_leads {u v : Value} (hv : CoroutineEngine.Genuine ι v) (h : w.Leads v u) :
    ∃ k < w.places, w.place? v = some k := by
  unfold places
  cases h with
  | item h =>
    have hi := hw.tuple_lt hv
    exact ⟨_, by omega, rfl⟩
  | argument h =>
    have he := hw.exception_lt hv
    exact ⟨_, by omega, rfl⟩
  | @content c _ h =>
    have hc : c.index < w.cells.size := by
      by_contra hc
      rw [World.cell, Table.get_of_size_le _ (Nat.le_of_not_lt hc)] at h
      cases h
    exact ⟨_, by omega, rfl⟩

/-- What is at one place leads to the same values. -/
theorem leads_of_place {u v x : Value} (hu : CoroutineEngine.Genuine ι u) (hv : CoroutineEngine.Genuine ι v)
    (hplace : w.place? v = w.place? u) (h : w.Leads u x) : w.Leads v x := by
  cases h with
  | @item i items _ h =>
    have hi := hw.tuple_lt hu
    cases v with
    | tuple j items' =>
      obtain rfl : j = i := Option.some.inj hplace
      obtain rfl : items' = items := Option.some.inj (hv.1.symm.trans hu.1)
      exact .item h
    | exception e => exact absurd (Option.some.inj hplace) (by omega)
    | cell c => exact absurd (Option.some.inj hplace) (by omega)
    | _ => cases hplace
  | @argument e _ h =>
    have he := hw.exception_lt hu
    cases v with
    | tuple j items =>
      have hj := hw.tuple_lt hv
      exact absurd (Option.some.inj hplace) (by omega)
    | exception e' =>
      have hindex : e'.index = e.index := Nat.add_left_cancel (Option.some.inj hplace)
      refine .argument ?_
      rwa [World.exception, hindex]
    | cell c => exact absurd (Option.some.inj hplace) (by omega)
    | _ => cases hplace
  | @content c _ h =>
    cases v with
    | tuple j items =>
      have hj := hw.tuple_lt hv
      exact absurd (Option.some.inj hplace) (by omega)
    | exception e =>
      have he := hw.exception_lt hv
      exact absurd (Option.some.inj hplace) (by omega)
    | cell c' =>
      have hindex : c'.index = c.index := Nat.add_left_cancel (Option.some.inj hplace)
      refine .content ?_
      rwa [World.cell, hindex]
    | _ => cases hplace

/-! ### Ways back -/

/-- A value that leads back to itself, once one has come from it to some value, does so through any value at its
place. -/
theorem leads_back {u v : Value} (hu : CoroutineEngine.Genuine ι u) (hv : CoroutineEngine.Genuine ι v)
    (hplace : w.place? v = w.place? u) (h : TransGen w.Leads u v) : TransGen w.Leads v v := by
  obtain ⟨x, hx, hxv⟩ := TransGen.head'_iff.mp h
  exact .head' (hw.leads_of_place hu hv hplace hx) hxv

/-- Away from cells every descent comes to an end: the items of a tuple are its parts, and the arguments of an
exception are older than itself. -/
theorem acc_away_from_cells {n : Nat} {v : Value} (hv : CoroutineEngine.Genuine (ι.before n) v) :
    Acc (fun u v => w.Leads v u ∧ ∀ c, v ≠ .cell c) v := by
  refine ⟨_, fun u ⟨hu, hc⟩ => ?_⟩
  cases hu with
  | @item i items _ h => exact acc_away_from_cells (n := n) (Value.areGenuine_iff.mp hv.2 u h)
  | @argument e _ h =>
    have he : e.index < n := hv
    exact acc_away_from_cells (n := e.index) (hw.arguments e.index u h)
  | content => exact absurd rfl (hc _)
termination_by (n, sizeOf v)

/-- A value that leads back to itself comes by a cell on the way. -/
theorem entangled_of_circle {v : Value} (hv : CoroutineEngine.Genuine ι v) (h : TransGen w.Leads v v) :
    w.Entangled v := by
  have hacc : Acc (fun u v => w.Leads v u ∧ ∀ c, v ≠ .cell c) v := hw.acc_away_from_cells (n := ι.exceptions) hv
  clear hv
  induction hacc with
  | intro v _ ih =>
    obtain ⟨u, hu, huv⟩ := TransGen.head'_iff.mp h
    by_cases hc : ∃ c, v = .cell c
    · obtain ⟨c, rfl⟩ := hc
      exact ⟨c, .refl, h⟩
    · obtain ⟨c, huc, hcc⟩ := ih u ⟨hu, fun c hv => hc ⟨c, hv⟩⟩ (.tail' huv hu)
      exact ⟨c, .head hu huc, hcc⟩

/-- On a descent that comes by no place twice, one passes no more values than there are places; here those places
are listed that one has come by. -/
theorem endsWithin_of_path {n : Nat} {v : Value} (path : List Nat) (hv : CoroutineEngine.Genuine ι v)
    (hfree : ¬ w.Entangled v) (hnodup : path.Nodup) (hlt : ∀ k ∈ path, k < w.places)
    (hpath : ∀ k ∈ path, ∃ u, CoroutineEngine.Genuine ι u ∧ w.place? u = some k ∧ TransGen w.Leads u v)
    (hn : w.places + 2 ≤ n + path.length) : w.EndsWithin n v := by
  induction n generalizing v path with
  | zero =>
    have hle : path.length ≤ w.places := by
      have h := Finset.card_le_card (s := path.toFinset) (t := Finset.range w.places) fun k hk =>
        Finset.mem_range.mpr (hlt k (List.mem_toFinset.mp hk))
      rwa [List.toFinset_card_of_nodup hnodup, Finset.card_range] at h
    omega
  | succ n ih =>
    intro u hu
    obtain ⟨k, hk, hplace⟩ := hw.place_of_leads hv hu
    have hnew : k ∉ path := by
      intro hmem
      obtain ⟨x, hx, hxk, hxv⟩ := hpath k hmem
      exact hfree (hw.entangled_of_circle hv (hw.leads_back hx hv (hplace.trans hxk.symm) hxv))
    refine ih (k :: path) (hw.leads hv hu) ?_ (List.nodup_cons.mpr ⟨hnew, hnodup⟩) ?_ ?_ ?_
    · rintro ⟨c, huc, hcc⟩
      exact hfree ⟨c, .head hu huc, hcc⟩
    · intro j hj
      rcases List.mem_cons.mp hj with rfl | hj
      · exact hk
      · exact hlt j hj
    · intro j hj
      rcases List.mem_cons.mp hj with rfl | hj
      · exact ⟨v, hv, hplace, .single hu⟩
      · obtain ⟨x, hx, hxj, hxv⟩ := hpath j hj
        exact ⟨x, hx, hxj, .tail hxv hu⟩
    · rw [List.length_cons]
      omega

/-- There are as many steps in the descent as it can need. -/
theorem endsWithin {v : Value} (hv : CoroutineEngine.Genuine ι v) (hfree : ¬ w.Entangled v) :
    w.EndsWithin w.depthBound v :=
  hw.endsWithin_of_path [] hv hfree .nil nofun nofun (Nat.le_refl _)

end Genuine

theorem Entangled.of_leads {u v : Value} (h : w.Entangled u) (hv : w.Leads v u) : w.Entangled v := by
  obtain ⟨c, hc, hcc⟩ := h
  exact ⟨c, .head hv hc, hcc⟩

theorem exceptionText_isSome {e : Exception} : (∃ s, w.exceptionText e = some s) ↔ ∃ s, w.message e = some s := by
  unfold exceptionText
  cases w.message e <;> simp

/-- Two descents that come to a text come to the same one. -/
theorem debug?_unique {n m : Nat} {v : Value} {s t : String} (hs : w.debug? n v = some s)
    (ht : w.debug? m v = some t) : s = t :=
  Option.some.inj ((debug?_mono (Nat.le_max_left n m) v hs).symm.trans (debug?_mono (Nat.le_max_right n m) v ht))

theorem display?_unique {n m : Nat} {v : Value} {s t : String} (hs : w.display? n v = some s)
    (ht : w.display? m v = some t) : s = t :=
  Option.some.inj
    ((display?_mono (Nat.le_max_left n m) v hs).symm.trans (display?_mono (Nat.le_max_right n m) v ht))

/-! ## Texts -/

theorem Genuine.renders {ι : Inventory} (hw : w.Genuine ι) {v : Value} (hv : CoroutineEngine.Genuine ι v) :
    w.Renders v := by
  have hdebug : (∃ s, w.debug v = some s) ↔ ¬ w.Entangled v :=
    ⟨fun ⟨_, hs⟩ => not_entangled_of_acc (acc_of_debug? hs), fun h => debug?_of_endsWithin (hw.endsWithin hv h)⟩
  have hdisplay : (∃ s, w.display v = some s) ↔ ¬ w.Entangled v :=
    ⟨fun ⟨_, hs⟩ => not_entangled_of_acc (acc_of_display? hs), fun h => display?_of_endsWithin (hw.endsWithin hv h)⟩
  constructor
  · exact hdebug
  · exact hdisplay
  · exact Entangled.endless
  · intro fuel s
    constructor
    · intro hs
      obtain ⟨t, ht⟩ := hdebug.mpr (not_entangled_of_acc (acc_of_debug? hs))
      rw [ht, debug?_unique hs ht]
    · intro hs
      obtain ⟨t, ht⟩ := hdisplay.mpr (not_entangled_of_acc (acc_of_display? hs))
      rw [ht, display?_unique hs ht]
  · rintro e rfl
    exact ⟨hdisplay, exceptionText_isSome.trans hdisplay⟩
  · intro e he h
    obtain ⟨hdebug, hmessage⟩ := (h.of_leads (.argument he)).endless w.depthBound
    refine ⟨hdebug, hmessage, ?_⟩
    rw [exceptionText, message, display, hmessage, Option.map_none]

end World

/-! ## Runs -/

theorem rendering_ends {w : World L} {vs : List Value} (h : Arises L w vs) : ∀ v ∈ vs, w.Renders v := by
  obtain ⟨ι, hw, hvs⟩ := h.genuine
  exact fun v hv => hw.renders (hvs v hv)

/-! ## A knot -/

theorem Arises.told {w : World L} {vs : List Value} (h : Arises L w vs) (n : Nat) (op : Operation L.Script)
    (given : Answered) (hg : (perform (.ofDepth L n) .outer op w).1 = .ok given) :
    Arises L (perform (.ofDepth L n) .outer op w).2 (given.owned ++ vs) := .answered n op h (Prod.ext hg rfl)

/-- A step of a client that is not told what it is given. -/
def performed (w : World Script.language) (op : Operation Script.Block) : World Script.language :=
  (perform (.ofDepth Script.language 2) .outer op w).2

/-- A client makes a tuple with a cell in it, and a cell that it puts into itself. -/
def knotted : World Script.language :=
  [.evaluate (.tuple [.int 1, .cell (.int 2)]), .setSlot "k" .emptyCell, .setCell (.slot "k") (.slot "k"),
    .evaluate (.slot "k"), .evaluate (.exception (.builtinClass "ValueError") [.slot "k"])].foldl performed (.fresh 0)

/-- The tuple, the cell that is in itself, and an exception with this cell. -/
theorem knotted_arises :
    Arises Script.language knotted
      [.exception ⟨0, .valueError⟩, .cell ⟨1⟩, .tuple 0 [.int 1, .cell ⟨0⟩]] := by
  have made : Arises Script.language (performed (.fresh 0) (.evaluate (.tuple [.int 1, .cell (.int 2)])))
      [.tuple 0 [.int 1, .cell ⟨0⟩]] := (Arises.fresh 0).told 2 _ (.ok (.value (.tuple 0 [.int 1, .cell ⟨0⟩]))) rfl
  have put := (made.ended 2 (.setSlot "k" .emptyCell)).ended 2 (.setCell (.slot "k") (.slot "k"))
  have got := put.told 2 (.evaluate (.slot "k")) (.ok (.value (.cell ⟨1⟩))) rfl
  exact got.told 2 _ (.ok (.value (.exception ⟨0, .valueError⟩))) rfl

theorem knotted_entangled : knotted.Entangled (.cell ⟨1⟩) :=
  ⟨⟨1⟩, .refl, .single (.content rfl)⟩

/-- The tuple has its text, and the cell has none. -/
theorem renders_knotted :
    Arises Script.language knotted
        [.exception ⟨0, .valueError⟩, .cell ⟨1⟩, .tuple 0 [.int 1, .cell ⟨0⟩]] ∧
      knotted.Renders (.tuple 0 [.int 1, .cell ⟨0⟩]) ∧ knotted.Renders (.cell ⟨1⟩) :=
  ⟨knotted_arises, rendering_ends knotted_arises _ (by simp), rendering_ends knotted_arises _ (by simp)⟩

/-- However deep the descent may go, neither the cell nor the exception has a text. -/
theorem knotted_endless :
    Arises Script.language knotted
        [.exception ⟨0, .valueError⟩, .cell ⟨1⟩, .tuple 0 [.int 1, .cell ⟨0⟩]] ∧
      (knotted.exception ⟨0, .valueError⟩).args = [.cell ⟨1⟩] ∧
      (∀ fuel, knotted.debug? fuel (.cell ⟨1⟩) = none ∧ knotted.display? fuel (.cell ⟨1⟩) = none) ∧
      (∀ fuel, knotted.debug? fuel (.exception ⟨0, .valueError⟩) = none ∧
        knotted.display? fuel (.exception ⟨0, .valueError⟩) = none) ∧
      knotted.message ⟨0, .valueError⟩ = none ∧ knotted.exceptionText ⟨0, .valueError⟩ = none := by
  have held : knotted.Entangled (.exception ⟨0, .valueError⟩) :=
    knotted_entangled.of_leads (.argument (List.mem_singleton.mpr rfl))
  have hmessage : knotted.message ⟨0, .valueError⟩ = none := (held.endless _).2
  refine ⟨knotted_arises, rfl, knotted_entangled.endless, held.endless, hmessage, ?_⟩
  rw [World.exceptionText, hmessage, Option.map_none]

end CoroutineEngine
