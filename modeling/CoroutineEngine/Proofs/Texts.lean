import CoroutineEngine.Report.Rendering

/-!
# Descents into values

The text of a value is written by a descent into its parts, which may go so deep and no deeper.

Results:
* `World.debug?_mono`, `World.display?_mono`: a text that some descent comes to is what a deeper one comes to.
-/

namespace CoroutineEngine

variable {L : Language}

namespace World

/-! ## Lists of texts -/

theorem mapM_isSome_iff {α β : Type} {f : α → Option β} {as : List α} :
    (∃ bs, as.mapM f = some bs) ↔ ∀ a ∈ as, ∃ b, f a = some b := by
  induction as with
  | nil => simp
  | cons a as ih =>
    simp only [List.mapM_cons, List.forall_mem_cons, ← ih, Option.bind_eq_bind, Option.bind_eq_some_iff]
    constructor
    · rintro ⟨_, b, hb, bs, hbs, -⟩
      exact ⟨⟨b, hb⟩, bs, hbs⟩
    · rintro ⟨⟨b, hb⟩, bs, hbs⟩
      exact ⟨_, b, hb, bs, hbs, rfl⟩

theorem mapM_mono {α β : Type} {f g : α → Option β} {as : List α} (h : ∀ a ∈ as, ∀ b, f a = some b → g a = some b)
    {bs : List β} (hbs : as.mapM f = some bs) : as.mapM g = some bs := by
  induction as generalizing bs with
  | nil => exact hbs
  | cons a as ih =>
    simp only [List.mapM_cons, Option.bind_eq_bind, Option.bind_eq_some_iff] at hbs ⊢
    obtain ⟨b, hb, bs', hbs', heq⟩ := hbs
    exact ⟨b, h a List.mem_cons_self b hb, bs', ih (fun a ha => h a (List.mem_cons_of_mem _ ha)) hbs', heq⟩

/-! ## Descents -/

variable {w : World L}

/-- The text of an argument: a string stands in plain quotes. -/
def argument? (w : World L) (fuel : Nat) : Value → Option String
  | .str t => some ("'" ++ t.content ++ "'")
  | a => w.debug? fuel a

theorem debug?_exception (fuel : Nat) (e : Exception) :
    w.debug? (fuel + 1) (.exception e) =
      ((w.exception e).args.mapM (w.argument? fuel)).map (callText e.cls) := rfl

theorem debug?_tuple (fuel i : Nat) (items : List Value) :
    w.debug? (fuel + 1) (.tuple i items) = (items.mapM (w.debug? fuel)).map tupleText := rfl

theorem debug?_cell {c : CellId} {content : Value} (h : (w.cell c).content = some content) (fuel : Nat) :
    w.debug? (fuel + 1) (.cell c) = (w.debug? fuel content).map fun s => "<cell: " ++ s ++ ">" := by
  simp only [debug?, h]

theorem debug?_emptyCell {c : CellId} (h : (w.cell c).content = none) (fuel : Nat) :
    w.debug? (fuel + 1) (.cell c) = some "<cell: empty>" := by
  simp only [debug?, h]

theorem argument?_mono {n m : Nat} (h : ∀ v s, w.debug? n v = some s → w.debug? m v = some s) {v : Value}
    {s : String} (hs : w.argument? n v = some s) : w.argument? m v = some s := by
  cases v with
  | str t => exact hs
  | _ => exact h _ s hs

/-- A deeper descent comes to the same text. -/
theorem debug?_mono {n m : Nat} (hnm : n ≤ m) (v : Value) {s : String} (hs : w.debug? n v = some s) :
    w.debug? m v = some s := by
  induction n generalizing m v s with
  | zero => cases hs
  | succ n ih =>
    obtain ⟨m, rfl⟩ := Nat.exists_eq_succ_of_ne_zero (Nat.ne_zero_of_lt hnm)
    have next (v : Value) (s : String) (hs : w.debug? n v = some s) : w.debug? m v = some s :=
      ih (Nat.le_of_succ_le_succ hnm) v hs
    cases v with
    | tuple i items =>
      rw [debug?_tuple] at hs ⊢
      obtain ⟨ss, hss, rfl⟩ := Option.map_eq_some_iff.mp hs
      rw [mapM_mono (fun a _ => next a) hss, Option.map_some]
    | exception e =>
      rw [debug?_exception] at hs ⊢
      obtain ⟨ss, hss, rfl⟩ := Option.map_eq_some_iff.mp hs
      rw [mapM_mono (fun a _ s h => argument?_mono next h) hss, Option.map_some]
    | cell c =>
      cases hc : (w.cell c).content with
      | none => rwa [debug?_emptyCell hc] at hs ⊢
      | some content =>
        rw [debug?_cell hc] at hs ⊢
        obtain ⟨s', hs', rfl⟩ := Option.map_eq_some_iff.mp hs
        rw [next content s' hs', Option.map_some]
    | _ => exact hs

theorem display?_exception (fuel : Nat) (e : Exception) :
    w.display? (fuel + 1) (.exception e) =
      match (w.exception e).args with
      | [] => some ""
      | [single] => w.display? fuel single
      | many => (many.mapM (w.debug? fuel)).map tupleText := rfl

/-- A value that is neither a string nor an exception is shown by itself as it is shown in a container. -/
theorem display?_other {v : Value} (hs : v.asText? = none) (he : v.asException? = none) (fuel : Nat) :
    w.display? (fuel + 1) v = w.debug? (fuel + 1) v := by
  cases v with
  | str t => cases hs
  | exception e => cases he
  | _ => rfl

theorem display?_mono {n m : Nat} (hnm : n ≤ m) (v : Value) {s : String} (hs : w.display? n v = some s) :
    w.display? m v = some s := by
  induction n generalizing m v s with
  | zero => cases hs
  | succ n ih =>
    obtain ⟨m, rfl⟩ := Nat.exists_eq_succ_of_ne_zero (Nat.ne_zero_of_lt hnm)
    have hnm' := Nat.le_of_succ_le_succ hnm
    cases v with
    | str t => exact hs
    | exception e =>
      rw [display?_exception] at hs ⊢
      split at hs
      · exact hs
      · exact ih hnm' _ hs
      · obtain ⟨ss, hss, rfl⟩ := Option.map_eq_some_iff.mp hs
        rw [mapM_mono (fun a _ s h => debug?_mono hnm' a h) hss, Option.map_some]
    | _ =>
      rw [display?_other rfl rfl] at hs ⊢
      exact debug?_mono hnm _ hs

end World

end CoroutineEngine
