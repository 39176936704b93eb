/-!
# Tables

Objects of one kind, numbered in the order of their making. Looking up a number that was never given
out finds the default entry; changing it changes nothing.

Results:
* `get_push_self`, `get_push_ne`: a new entry is found under its number and disturbs no other.
* `get_modify_self`, `get_modify_ne`: changing an entry changes that entry alone.
* `modify_of_size_le`: changing an entry that was never made changes nothing.
-/

namespace CoroutineEngine

/-! ## Definitions -/

/-- Entries by number. -/
structure Table (α : Type) where
  entries : Array α

namespace Table

variable {α : Type}

/-- No entries. -/
def empty : Table α := ⟨#[]⟩

instance : Inhabited (Table α) := ⟨empty⟩

/-- The number that the next entry gets. -/
def size (t : Table α) : Nat := t.entries.size

/-- The entry of a number. -/
def get [Inhabited α] (t : Table α) (i : Nat) : α := t.entries.getD i default

/-- A new entry, under the number `t.size`. -/
def push (t : Table α) (a : α) : Table α := ⟨t.entries.push a⟩

/-- Changes one entry. -/
def modify (t : Table α) (i : Nat) (f : α → α) : Table α := ⟨t.entries.modify i f⟩

/-! ## Helpers -/

@[simp] theorem size_push (t : Table α) (a : α) : (t.push a).size = t.size + 1 := by
  simp [push, size]

@[simp] theorem size_modify (t : Table α) (i : Nat) (f : α → α) : (t.modify i f).size = t.size := by
  simp [modify, size]

theorem get_of_size_le [Inhabited α] (t : Table α) {i : Nat} (h : t.size ≤ i) :
    t.get i = default := by
  have h' : ¬ i < t.entries.size := Nat.not_lt.mpr h
  simp [get, Array.getD, h']

theorem get_push_self [Inhabited α] (t : Table α) (a : α) : (t.push a).get t.size = a := by
  simp [push, get, size, Array.getD]

theorem get_push_lt [Inhabited α] (t : Table α) (a : α) {i : Nat} (h : i < t.size) :
    (t.push a).get i = t.get i := by
  have h' : i < t.entries.size := h
  have h'' : i < t.entries.size + 1 := Nat.lt_succ_of_lt h'
  simp [push, get, Array.getD, h', h'', Array.getElem_push_lt]

theorem get_push_ne [Inhabited α] (t : Table α) (a : α) {i : Nat} (h : i ≠ t.size) :
    (t.push a).get i = t.get i := by
  rcases Nat.lt_or_ge i t.size with hi | hi
  · exact get_push_lt t a hi
  · have hgt : t.size < i := Nat.lt_of_le_of_ne hi (Ne.symm h)
    rw [get_of_size_le t hi, get_of_size_le _ (by rw [size_push]; exact hgt)]

theorem get_modify_self [Inhabited α] (t : Table α) (f : α → α) {i : Nat} (h : i < t.size) :
    (t.modify i f).get i = f (t.get i) := by
  have h' : i < t.entries.size := h
  simp [modify, get, Array.getD, h', Array.getElem_modify_self]

theorem get_modify_ne [Inhabited α] (t : Table α) (f : α → α) {i j : Nat} (h : j ≠ i) :
    (t.modify i f).get j = t.get j := by
  by_cases h' : j < t.entries.size
  · simp [modify, get, Array.getD, h', Array.getElem_modify, h.symm]
  · simp [modify, get, Array.getD, h']

theorem modify_of_size_le (t : Table α) (f : α → α) {i : Nat} (h : t.size ≤ i) :
    t.modify i f = t := by
  have he : t.entries.modify i f = t.entries := by
    refine Array.ext (by simp) fun j hj hj' => ?_
    have hne : i ≠ j := fun he => absurd (Nat.lt_of_le_of_lt h (he ▸ hj')) (Nat.lt_irrefl _)
    exact Array.getElem_modify_of_ne hne _ _
  rw [modify, he]

end Table

end CoroutineEngine
