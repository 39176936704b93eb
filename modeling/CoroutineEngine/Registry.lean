import CoroutineEngine.Value

/-!
# The registry of tracked objects

Objects that may be part of a reference cycle enroll for their whole lifetime. The registry counts how
many are enrolled, how many ever were, and how many withdrew.

Results:
* `Orderly.track`, `Orderly.untrack`: the counts stay right, and nothing is enrolled twice.
* `mem_track`, `mem_untrack`: what is enrolled afterwards.
-/

namespace CoroutineEngine

/-! ## Definitions -/

/-- The identity of a tracked object. -/
inductive TrackedId
  | coroutine (c : CoroutineId)
  | wrapper (w : WrapperId)
  | foreign (id : Int)
  deriving DecidableEq, Inhabited, Repr

/-- It is no object of the engine. -/
def TrackedId.isForeign : TrackedId → Bool
  | foreign _ => true
  | coroutine _ | wrapper _ => false

/-- The registry: what is enrolled, and the statistics that are given out. `guests` is ghost state: it
counts, for statements, how many of those that ever enrolled are no objects of the engine. -/
structure Registry where
  objects : List TrackedId
  tracked : Nat
  totalTracked : Nat
  totalUntracked : Nat
  guests : Nat
  deriving Inhabited, Repr

namespace Registry

/-- A registry with nothing enrolled yet. -/
def empty : Registry := ⟨[], 0, 0, 0, 0⟩

/-- Whether an object is enrolled. -/
def isTracked (r : Registry) (id : TrackedId) : Bool := r.objects.contains id

/-- The number of enrolled objects. -/
def count (r : Registry) : Nat := r.objects.length

/-- Enrolls an object; enrolling twice changes nothing. -/
def track (r : Registry) (id : TrackedId) : Registry :=
  if r.isTracked id then { r with tracked := r.count }
  else
    { r with
      objects := id :: r.objects
      tracked := r.count + 1
      totalTracked := r.totalTracked + 1
      guests := r.guests + if id.isForeign then 1 else 0 }

/-- Withdraws an object, if it is enrolled. -/
def untrack (r : Registry) (id : TrackedId) : Registry :=
  let objects := r.objects.erase id
  { r with
    objects
    tracked := objects.length
    totalUntracked := r.totalUntracked + if r.isTracked id then 1 else 0 }

/-- Nothing is enrolled twice, and the statistics agree with what is enrolled: enrolled and withdrawn
objects are all that ever enrolled. -/
structure Orderly (r : Registry) : Prop where
  nodup : r.objects.Nodup
  tracked : r.tracked = r.count
  balanced : r.tracked + r.totalUntracked = r.totalTracked

/-! ## Helpers -/

theorem isTracked_iff {r : Registry} {id : TrackedId} : r.isTracked id = true ↔ id ∈ r.objects := by
  simp [isTracked]

theorem mem_track {r : Registry} {id other : TrackedId} :
    other ∈ (r.track id).objects ↔ other = id ∨ other ∈ r.objects := by
  unfold track
  split
  · rename_i hid
    rw [isTracked_iff] at hid
    exact ⟨.inr, fun h => h.elim (fun he => he ▸ hid) fun hm => hm⟩
  · exact List.mem_cons

theorem nodup_track {r : Registry} (id : TrackedId) (h : r.objects.Nodup) :
    (r.track id).objects.Nodup := by
  unfold track
  split
  · exact h
  · rename_i hid
    exact List.nodup_cons.mpr ⟨fun hm => hid (isTracked_iff.mpr hm), h⟩

theorem nodup_untrack {r : Registry} (id : TrackedId) (h : r.objects.Nodup) :
    (r.untrack id).objects.Nodup := h.sublist List.erase_sublist

theorem mem_of_mem_untrack {r : Registry} {id other : TrackedId}
    (h : other ∈ (r.untrack id).objects) : other ∈ r.objects := List.mem_of_mem_erase h

theorem mem_untrack {r : Registry} (h : r.objects.Nodup) {id other : TrackedId} :
    other ∈ (r.untrack id).objects ↔ other ≠ id ∧ other ∈ r.objects := h.mem_erase_iff

theorem mem_untrack_of_ne {r : Registry} {id other : TrackedId} (hne : other ≠ id)
    (h : other ∈ r.objects) : other ∈ (r.untrack id).objects := (List.mem_erase_of_ne hne).mpr h

/-- What enrolls for the first time is counted. -/
theorem totalTracked_track {r : Registry} {id : TrackedId} (h : id ∉ r.objects) :
    (r.track id).totalTracked = r.totalTracked + 1 ∧
      (r.track id).guests = r.guests + if id.isForeign then 1 else 0 := by
  unfold track
  rw [if_neg fun ht => h (isTracked_iff.mp ht)]
  exact ⟨rfl, rfl⟩

namespace Orderly

variable {r : Registry}

theorem empty : Registry.empty.Orderly := ⟨.nil, rfl, rfl⟩

theorem track (h : r.Orderly) (id : TrackedId) : (r.track id).Orderly := by
  refine ⟨nodup_track id h.nodup, ?_, ?_⟩
  · unfold Registry.track
    split <;> rfl
  · have ht := h.tracked
    have hb := h.balanced
    unfold Registry.track
    split
    · exact ht ▸ hb
    · show r.count + 1 + r.totalUntracked = r.totalTracked + 1
      omega

theorem untrack (h : r.Orderly) (id : TrackedId) : (r.untrack id).Orderly := by
  refine ⟨nodup_untrack id h.nodup, rfl, ?_⟩
  have ht := h.tracked
  have hb := h.balanced
  show (r.objects.erase id).length + (r.totalUntracked + if r.isTracked id then 1 else 0) =
    r.totalTracked
  rw [ht, count] at hb
  split
  · rename_i hid
    rw [isTracked_iff] at hid
    have hl := List.length_erase_of_mem hid
    have hp : 0 < r.objects.length := List.length_pos_of_mem hid
    omega
  · rename_i hid
    rw [isTracked_iff] at hid
    rw [List.erase_of_not_mem hid]
    exact hb

end Orderly

end Registry

end CoroutineEngine
