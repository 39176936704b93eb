import CoroutineEngine.Proofs.Provenance.Bodies

/-!
# What a client gets to

A client begins with a fresh world and gets everything from the engine: it puts operations to it, stores what it is
given in slots, and releases it. So whatever it is given was made by the engine, and all that is kept in its world
was.

Result:
* `Arises.genuine`: a world that a client gets to, and what it was given, are genuine.
-/

namespace CoroutineEngine

variable {L : Language}

/-! ## Definitions -/

/-- What a client gets to: a world, and all values that it was given on the way. It puts operations to engines of
any depth, however they end, and stores or releases what it was given. The clock may be wound at any time. -/
inductive Arises (L : Language) : World L → List Value → Prop
  | fresh (clock : Nat) : Arises L (.fresh clock) []
  | answered {w v : World L} {vs : List Value} {given : Answered} (n : Nat) (op : Operation L.Script)
      (h : Arises L w vs) (hv : perform (.ofDepth L n) .outer op w = (.ok given, v)) :
      Arises L v (given.owned ++ vs)
  | ended {w : World L} {vs : List Value} (n : Nat) (op : Operation L.Script) (h : Arises L w vs) :
      Arises L (perform (.ofDepth L n) .outer op w).2 vs
  | stored {w : World L} {vs : List Value} {v : Value} (n : Nat) (slot : String) (h : Arises L w vs) (hv : v ∈ vs) :
      Arises L (storeSlot (.ofDepth L n) slot v w).2 vs
  | released {w : World L} {vs : List Value} {v : Value} (n : Nat) (h : Arises L w vs) (hv : v ∈ vs) :
      Arises L ((Engine.ofDepth L n).release v w).2 vs
  | wound {w : World L} {vs : List Value} (clock : Nat) (h : Arises L w vs) : Arises L { w with clock } vs

/-! ## Helpers -/

namespace Inventory

/-- The inventory of a fresh world. -/
def fresh : Inventory := ⟨[""], [], 0, rfl⟩

end Inventory

theorem Text.genuine_default (ι : Inventory) : Genuine ι (default : Text) := ι.first

theorem CoroutineRecord.genuine_default (ι : Inventory) : Genuine ι (default : CoroutineRecord L) where
  name := Text.genuine_default ι
  qualname := Text.genuine_default ι
  code := ⟨Text.genuine_default ι, Text.genuine_default ι⟩
  fiber := genuine_none
  pending := genuine_none
  frame := genuine_none
  awaiting := genuine_none
  handled := genuine_none
  inputs := genuine_nil

/-- Nothing was made yet, and the default entries have no parts but the first identity. -/
theorem World.fresh_genuine (clock : Nat) : (World.fresh clock : World L).Genuine .fresh where
  serial := rfl
  tuples := rfl
  exceptions := rfl
  arguments i := by
    rw [Table.get_of_size_le _ (Nat.zero_le i)]
    exact genuine_nil
  chained i := by
    rw [Table.get_of_size_le _ (Nat.zero_le i)]
    exact ⟨genuine_none, genuine_none⟩
  contents i := by
    rw [Table.get_of_size_le _ (Nat.zero_le i)]
    exact genuine_none
  coroutines i := by
    rw [Table.get_of_size_le _ (Nat.zero_le i)]
    exact CoroutineRecord.genuine_default _
  backs i := by
    rw [Table.get_of_size_le _ (Nat.zero_le i)]
    exact genuine_none
  ambient := ⟨genuine_none, genuine_none, genuine_none, genuine_none⟩
  slots := genuine_nil

theorem Answered.genuine_owned {ι : Inventory} {given : Answered} (h : Genuine ι given) : Genuine ι given.owned := by
  rcases given with e | v | d
  · exact Genuine.single (a := Value.exception e) h
  · exact Genuine.single (a := v) h
  · exact genuine_nil

/-- However an honest computation ends, the world is genuine, and so is what was genuine before. -/
theorem Honest.genuine {α : Type} [Certified α] {ι : Inventory} {x : Effect L α} (hx : Honest ι x) {w : World L}
    (hw : w.Genuine ι) {vs : List Value} (hvs : Genuine ι vs) :
    ∃ κ, (x w).2.Genuine κ ∧ Genuine κ vs := by
  have h := (hx.meets w hw).holds
  rcases hr : x w with ⟨_ | _ | _, v⟩ <;> rw [hr] at h
  · obtain ⟨κ, hκ, hv, -⟩ := h
    exact ⟨κ, hv, hvs.mono hκ⟩
  · obtain ⟨κ, hκ, hv⟩ := h
    exact ⟨κ, hv, hvs.mono hκ⟩
  · obtain ⟨κ, hκ, hv⟩ := h
    exact ⟨κ, hv, hvs.mono hκ⟩

theorem Scope.genuine_outer (ι : Inventory) : Genuine ι Scope.outer := ⟨genuine_none, genuine_nil⟩

/-! ## Runs -/

/-- Every step of a client keeps its world and what it was given genuine. -/
theorem Arises.genuine {w : World L} {vs : List Value} (h : Arises L w vs) :
    ∃ ι : Inventory, w.Genuine ι ∧ Genuine ι vs := by
  induction h with
  | fresh clock => exact ⟨.fresh, World.fresh_genuine clock, genuine_nil⟩
  | answered n op _ hv ih =>
    obtain ⟨ι, hw, hvs⟩ := ih
    have hx := Honest.perform (Engine.ofDepth_isHonest n) (Scope.genuine_outer ι) op
    obtain ⟨κ, hκ, hv, hgiven⟩ := (hx.meets _ hw).ok hv
    exact ⟨κ, hv, genuine_append.mpr ⟨Answered.genuine_owned hgiven, hvs.mono hκ⟩⟩
  | ended n op _ ih =>
    obtain ⟨ι, hw, hvs⟩ := ih
    exact (Honest.perform (Engine.ofDepth_isHonest n) (Scope.genuine_outer ι) op).genuine hw hvs
  | stored n slot _ hv ih =>
    obtain ⟨ι, hw, hvs⟩ := ih
    exact (Honest.storeSlot (Engine.ofDepth_isHonest n) slot (hvs _ hv)).genuine hw hvs
  | released n _ hv ih =>
    obtain ⟨ι, hw, hvs⟩ := ih
    exact ((Engine.ofDepth_isHonest n).release (hvs _ hv)).genuine hw hvs
  | wound clock _ ih =>
    obtain ⟨ι, hw, hvs⟩ := ih
    exact ⟨ι, { hw with }, hvs⟩

end CoroutineEngine
