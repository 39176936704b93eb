import CoroutineEngine.Proofs.Rejection

/-!
# Counting handles

Every handle is counted by the object behind it. Taking a handle adds one to the count of that object and of no
other, and giving one up that is not the last takes one away; instances stay as they are.

Results:
* `retainAll_counts`: what taking handles adds.
* `releaseAll_spare`: handles of objects that are held elsewhere are given up without any consequence.
-/

namespace CoroutineEngine

variable {L : Language}

/-! ## Definitions -/

/-- An object whose handles are counted. -/
inductive Counted
  | tuple (index : Nat)
  | exception (index : Nat)
  | cell (index : Nat)
  | coroutine (index : Nat)
  | wrapper (index : Nat)
  deriving DecidableEq

/-- The object behind a value. -/
def Value.counted? : Value → Option Counted
  | .tuple identity _ => some (.tuple identity)
  | .exception e => some (.exception e.index)
  | .cell c => some (.cell c.index)
  | .coroutine c => some (.coroutine c.index)
  | .wrapper x => some (.wrapper x.index)
  | _ => Option.none

/-- How many handles of an object there are. -/
def World.count (w : World L) : Counted → Nat
  | .tuple index => w.tuples.get index
  | .exception index => (w.exceptions.get index).handles
  | .cell index => (w.cells.get index).handles
  | .coroutine index => (w.coroutines.get index).handles
  | .wrapper index => (w.wrappers.get index).handles

/-- The world in which an object has another number of handles. -/
def World.recount (w : World L) (n : Nat) : Counted → World L
  | .tuple index => { w with tuples := w.tuples.modify index fun _ => n }
  | .exception index =>
    { w with exceptions := w.exceptions.modify index fun r => { r with handles := n } }
  | .cell index => { w with cells := w.cells.modify index fun r => { r with handles := n } }
  | .coroutine index =>
    { w with coroutines := w.coroutines.modify index fun r => { r with handles := n } }
  | .wrapper index => { w with wrappers := w.wrappers.modify index fun r => { r with handles := n } }

/-- The object behind a value, if there is one, has more than `k` handles. -/
def World.Holds (w : World L) (k : Nat) (v : Value) : Prop := ∀ o ∈ v.counted?, k < w.count o

/-- An instance as far as a driver can see it. -/
def ExceptionRecord.content (r : ExceptionRecord) : ExceptionRecord := { r with handles := 0 }

/-- Between two worlds no instance was made or changed. -/
structure World.SameInstances (w v : World L) : Prop where
  size : v.exceptions.size = w.exceptions.size
  content : ∀ e : Exception, (v.exception e).content = (w.exception e).content

/-- How many of the values are handles of an object. -/
def handlesIn (o : Counted) (vs : List Value) : Nat := vs.countP (·.counted? = some o)

/-! ## Helpers -/

variable {w v u : World L} {E F G : Engine L} {o o' : Counted} {x : Value} {xs : List Value} {n : Nat}

theorem Table.modify_congr {α : Type} [Inhabited α] (t : Table α) (i : Nat) {f g : α → α}
    (h : f (t.get i) = g (t.get i)) : t.modify i f = t.modify i g := by
  rcases Nat.lt_or_ge i t.entries.size with hi | hi
  · have hget : t.get i = t.entries[i] := by simp [Table.get, Array.getD, hi]
    rw [hget] at h
    refine congrArg Table.mk (Array.ext (by simp) fun j hj hj' => ?_)
    by_cases hij : i = j
    · subst hij
      rw [Array.getElem_modify_self, Array.getElem_modify_self, h]
    · rw [Array.getElem_modify_of_ne hij, Array.getElem_modify_of_ne hij]
  · rw [Table.modify_of_size_le t f hi, Table.modify_of_size_le t g hi]

/-- A number that an entry has, and a missing entry has not, after a change of one entry. -/
theorem Table.number_modify {α : Type} [Inhabited α] (t : Table α) (i j : Nat) (f : α → α) (g : α → Nat)
    (hg : g default = 0) (h : 0 < g (t.get i)) :
    g ((t.modify i f).get j) = if j = i then g (f (t.get i)) else g (t.get j) := by
  have hi : i < t.size := by
    by_contra hge
    rw [Table.get_of_size_le _ (Nat.le_of_not_lt hge), hg] at h
    exact absurd h (Nat.lt_irrefl _)
  split
  · next hj => rw [hj, Table.get_modify_self _ _ hi]
  · next hj => rw [Table.get_modify_ne _ _ hj]

/-- Objects that have handles have been made. -/
theorem count_recount (h : 0 < w.count o) (n : Nat) (o' : Counted) :
    (w.recount n o).count o' = if o' = o then n else w.count o' := by
  cases o <;> cases o' <;>
    simp only [World.count, World.recount, reduceCtorEq, if_false, Counted.tuple.injEq, Counted.cell.injEq,
      Counted.exception.injEq, Counted.coroutine.injEq, Counted.wrapper.injEq] at h ⊢
  · exact Table.number_modify _ _ _ _ id rfl h
  · exact Table.number_modify _ _ _ _ ExceptionRecord.handles rfl h
  · exact Table.number_modify _ _ _ _ CellRecord.handles rfl h
  · exact Table.number_modify _ _ _ _ CoroutineRecord.handles rfl h
  · exact Table.number_modify _ _ _ _ WrapperRecord.handles rfl h

namespace World.SameInstances

theorem refl (w : World L) : w.SameInstances w := ⟨rfl, fun _ => rfl⟩

theorem trans (h : w.SameInstances v) (h' : v.SameInstances u) : w.SameInstances u :=
  ⟨h'.size.trans h.size, fun e => (h'.content e).trans (h.content e)⟩

theorem of_eq (h : v.exceptions = w.exceptions) : w.SameInstances v :=
  ⟨by rw [h], fun e => by rw [World.exception, World.exception, h]⟩

/-- The number of its handles is not part of an instance. -/
theorem recounted (w : World L) (e : Exception) {f : ExceptionRecord → ExceptionRecord}
    (hf : ∀ r, (f r).content = r.content) : w.SameInstances (w.modifyException e f) :=
  ⟨by simp [World.modifyException], fun e' => exception_modified w e e' _ hf⟩

theorem recount (w : World L) (n : Nat) (o : Counted) : w.SameInstances (w.recount n o) := by
  cases o with
  | exception index =>
    exact .recounted w ⟨index, .root⟩ (f := fun r => { r with handles := n }) fun _ => rfl
  | _ => exact .of_eq rfl

theorem retain (w : World L) (x : Value) : w.SameInstances (w.retain x) := by
  cases x with
  | exception e => exact .recounted w e fun _ => rfl
  | _ => exact .of_eq rfl

end World.SameInstances

theorem exception_lt_size {e : Exception} (h : w.Holds 0 (.exception e)) :
    e.index < w.exceptions.size := by
  by_contra hge
  have hd : (w.exceptions.get e.index).handles = 0 := by
    rw [Table.get_of_size_le _ (Nat.le_of_not_lt hge)]
    rfl
  exact absurd (h _ rfl) (by simp [World.count, hd])

/-! ### One handle -/

/-- A handle that is taken is counted by the object behind it. -/
theorem retain_eq (hx : x.counted? = some o) (h : 0 < w.count o) :
    w.retain x = w.recount (w.count o + 1) o := by
  have hne := Nat.ne_of_gt h
  cases x with
  | tuple i items =>
    cases hx
    exact congrArg (fun t => { w with tuples := t })
      (Table.modify_congr w.tuples i (f := (· + 1)) (g := fun _ => w.tuples.get i + 1) rfl)
  | exception e =>
    cases hx
    exact congrArg (fun t => { w with exceptions := t })
      (Table.modify_congr w.exceptions e.index (f := fun r => { r with handles := r.handles + 1 })
        (g := fun r => { r with handles := (w.exceptions.get e.index).handles + 1 }) rfl)
  | cell c =>
    cases hx
    exact congrArg (fun t => { w with cells := t })
      (Table.modify_congr w.cells c.index (f := fun r => { r with handles := r.handles + 1 })
        (g := fun r => { r with handles := (w.cells.get c.index).handles + 1 }) rfl)
  | coroutine c =>
    cases hx
    refine congrArg (fun t => { w with coroutines := t })
      (Table.modify_congr w.coroutines c.index (f := CoroutineRecord.retained)
        (g := fun r => { r with handles := (w.coroutines.get c.index).handles + 1 }) ?_)
    rw [CoroutineRecord.retained, if_neg (show ¬ (w.coroutines.get c.index).handles = 0 from hne)]
  | wrapper y =>
    cases hx
    refine congrArg (fun t => { w with wrappers := t })
      (Table.modify_congr w.wrappers y.index (f := WrapperRecord.retained)
        (g := fun r => { r with handles := (w.wrappers.get y.index).handles + 1 }) ?_)
    exact if_neg hne
  | _ => cases hx

theorem retain_of_uncounted (hx : x.counted? = none) : w.retain x = w := by
  cases x <;> first | rfl | cases hx

/-- Giving a handle of a coroutine up that is not the last. -/
theorem releaseCoroutine_shared {c : CoroutineId} (h : 1 < (w.coroutine c).handles) :
    releaseCoroutine E c w =
      (.ok (), w.modifyCoroutine c fun r => { r with handles := (w.coroutine c).handles - 1 }) := by
  have hfinalize : finalize E c w = (.ok (), w) := by
    refine (Effect.bind_ok rfl _).trans ?_
    rw [if_neg fun hr => absurd hr.1 (Nat.ne_of_gt h)]
    rfl
  have hdrop : dropHandle E c w =
      (.ok (), w.modifyCoroutine c fun _ => { w.coroutine c with handles := (w.coroutine c).handles - 1 }) := by
    refine (Effect.bind_ok rfl _).trans ?_
    rw [if_neg (by omega)]
    rfl
  rw [releaseCoroutine, Effect.andFinally_ok hfinalize hdrop]
  exact congrArg (fun t => (Outcome.ok (), { w with coroutines := t }))
    (Table.modify_congr w.coroutines c.index (f := fun _ => { w.coroutine c with handles := (w.coroutine c).handles - 1 })
      (g := fun r => { r with handles := (w.coroutine c).handles - 1 }) rfl)

/-- A handle that is not the last is given up without any consequence. -/
theorem releaseHandle_shared (hx : x.counted? = some o) (h : 1 < w.count o) :
    releaseHandle E x w = (.ok (), w.recount (w.count o - 1) o) := by
  have hleft : ¬ w.count o - 1 = 0 := by omega
  cases x with
  | tuple i items =>
    cases hx
    refine (Effect.bind_ok rfl _).trans ?_
    refine (congrFun (if_neg hleft) _).trans ?_
    rfl
  | exception e =>
    cases hx
    refine (Effect.bind_ok rfl _).trans ?_
    refine (congrFun (if_neg hleft) _).trans ?_
    exact congrArg (fun t => (Outcome.ok (), { w with exceptions := t }))
      (Table.modify_congr w.exceptions e.index (f := fun r => { r with handles := (w.exception e).handles - 1 })
        (g := fun r => { r with handles := (w.exception e).handles - 1 }) rfl)
  | cell c =>
    cases hx
    refine (Effect.bind_ok rfl _).trans ?_
    refine (congrFun (if_neg hleft) _).trans ?_
    rfl
  | coroutine c =>
    cases hx
    exact releaseCoroutine_shared h
  | wrapper y =>
    cases hx
    have hleave : leaveWrapper y w =
        (.ok ((w.wrapper y).handles - 1, (w.wrapper y).coroutine),
          w.recount ((w.wrapper y).handles - 1) (.wrapper y.index)) := by
      refine (Effect.bind_ok rfl _).trans ?_
      refine (congrFun (if_neg hleft) _).trans ?_
      rfl
    refine (Effect.bind_ok hleave _).trans ?_
    refine (congrFun (if_neg hleft) _).trans ?_
    rfl
  | _ => cases hx

theorem releaseHandle_of_uncounted (hx : x.counted? = none) : releaseHandle E x w = (.ok (), w) := by
  cases x <;> first | rfl | cases hx

/-- What taking a handle does to the counts. -/
theorem retain_counts (hx : w.Holds 0 x) (o : Counted) :
    (w.retain x).count o = w.count o + handlesIn o [x] := by
  cases hc : x.counted? with
  | none => simp [retain_of_uncounted hc, handlesIn, hc]
  | some o' =>
    rw [retain_eq hc (hx o' hc), count_recount (hx o' hc)]
    by_cases ho : o = o'
    · simp [ho, handlesIn, hc]
    · simp [ho, handlesIn, hc, Ne.symm ho]

/-- What giving a handle up does to the counts, if there is another one. -/
theorem releaseHandle_counts (hx : w.Holds 1 x) :
    ∃ v, releaseHandle E x w = (.ok (), v) ∧ w.SameInstances v ∧
      ∀ o, v.count o = w.count o - handlesIn o [x] := by
  cases hc : x.counted? with
  | none => exact ⟨w, releaseHandle_of_uncounted hc, .refl w, fun o => by simp [handlesIn, hc]⟩
  | some o =>
    refine ⟨_, releaseHandle_shared hc (hx o hc), .recount w _ o, fun o' => ?_⟩
    rw [count_recount (Nat.lt_trans Nat.one_pos (hx o hc))]
    by_cases ho : o' = o
    · simp [ho, handlesIn, hc]
    · simp [ho, handlesIn, hc, Ne.symm ho]

/-! ### Handles in a row -/

theorem handlesIn_cons (o : Counted) (x : Value) (xs : List Value) :
    handlesIn o (x :: xs) = handlesIn o [x] + handlesIn o xs := by
  rw [handlesIn, handlesIn, handlesIn, List.countP_cons, List.countP_cons, List.countP_nil]
  omega

/-- Taking handles of live objects adds as many as are taken. -/
theorem retainAll_counts (hxs : ∀ x ∈ xs, w.Holds 0 x) :
    ∃ v, retainAll xs w = (.ok (), v) ∧ w.SameInstances v ∧
      ∀ o, v.count o = w.count o + handlesIn o xs := by
  induction xs generalizing w with
  | nil => exact ⟨w, rfl, .refl w, fun _ => rfl⟩
  | cons x xs ih =>
    have hcount := retain_counts (hxs x List.mem_cons_self)
    obtain ⟨v, hv, hsame, hcount'⟩ := ih (w := w.retain x) fun y hy o ho => by
      rw [hcount]
      exact Nat.lt_of_lt_of_le (hxs y (List.mem_cons_of_mem _ hy) o ho) (Nat.le_add_right _ _)
    refine ⟨v, (Effect.bind_ok rfl _).trans hv, (World.SameInstances.retain w x).trans hsame, fun o => ?_⟩
    rw [hcount', hcount, handlesIn_cons o x xs, Nat.add_assoc]

/-- Handles of objects that are held elsewhere as well are given up without any consequence. -/
theorem releaseAll_spare (hE : ∀ y, E.release y = releaseHandle F y)
    (hxs : ∀ o, 0 < handlesIn o xs → handlesIn o xs < w.count o) :
    ∃ v, E.releaseAll xs w = (.ok (), v) ∧ w.SameInstances v := by
  induction xs generalizing w with
  | nil => exact ⟨w, rfl, .refl w⟩
  | cons x xs ih =>
    have hx : w.Holds 1 x := fun o ho => by
      have hone : handlesIn o [x] = 1 := by simp [handlesIn, Option.mem_def.1 ho]
      have h := hxs o
      rw [handlesIn_cons, hone] at h
      omega
    obtain ⟨v, hv, hsame, hcount⟩ := releaseHandle_counts (E := F) hx
    obtain ⟨u, hu, hsame'⟩ := ih (w := v) fun o ho => by
      have h := hxs o
      rw [handlesIn_cons] at h
      rw [hcount]
      omega
    exact ⟨u, Effect.andFinally_ok (by rw [hE]; exact hv) hu, hsame.trans hsame'⟩

/-- A tuple is given up without any consequence but for its items, which are held elsewhere as well. -/
theorem release_tuple_spare (hE : ∀ y, E.release y = releaseHandle F y)
    (hF : ∀ y, F.release y = releaseHandle G y) {identity : Nat} (h : 0 < w.count (.tuple identity))
    (hxs : ∀ o, 0 < handlesIn o xs → handlesIn o xs < w.count o) :
    ∃ v, E.release (.tuple identity xs) w = (.ok (), v) ∧ w.SameInstances v := by
  rw [hE]
  rcases Nat.lt_or_ge 1 (w.count (.tuple identity)) with hshared | hlast
  · exact ⟨_, releaseHandle_shared rfl hshared, .recount w _ _⟩
  · have hone : w.count (.tuple identity) = 1 := Nat.le_antisymm hlast h
    have hleft : w.tuples.get identity - 1 = 0 := by rw [show w.tuples.get identity = 1 from hone]
    obtain ⟨v, hv, hsame⟩ := releaseAll_spare (w := w.recount 0 (.tuple identity)) hF fun o ho => by
      have hlt := hxs o ho
      -- a tuple whose only handle this is has no handle among its own items
      rw [count_recount h, if_neg]
      · exact hlt
      · rintro rfl
        omega
    refine ⟨v, ?_, (World.SameInstances.recount w 0 _).trans hsame⟩
    refine (Effect.bind_ok rfl _).trans ((congrFun (if_pos hleft) _).trans ?_)
    rw [hleft]
    exact hv

end CoroutineEngine
