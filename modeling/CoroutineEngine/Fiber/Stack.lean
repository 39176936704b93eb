/-!
# Stacks of fibers

A fiber runs on a stack of its own: whole pages of memory with one page below that nobody may touch.

Results:
* `grant_eq_granted_iff`: a stack is granted exactly if the machine has memory for it.
-/

namespace CoroutineEngine

/-! ## Definitions -/

/-- Why a fiber refuses. -/
inductive FiberError
  | stackAllocation (size : Nat) (cause : String)
  | released
  | completed
  deriving DecidableEq, Repr

/-- The text of a fiber error. -/
def FiberError.message : FiberError → String
  | stackAllocation size cause =>
    "failed to allocate a fiber stack of " ++ toString size ++ " bytes: " ++ cause
  | released => "fiber has already been released"
  | completed => "fiber has already completed"

namespace Stack

/-- The bytes of a page. -/
def pageSize : Nat := 4096

/-- The least number of bytes that no address counts: `2^64`. -/
def addressLimit : Nat := 18446744073709551616

/-- The bytes of memory that the machine can promise: `2^36`. -/
def memoryLimit : Nat := 68719476736

/-- The cause that is given when there is no memory for a stack. -/
def outOfMemory : String := "Cannot allocate memory (os error 12)"

/-- The message of the panic when a size cannot be rounded up. -/
def overflowMessage : String := "integer overflow while calculating stack size"

/-- What becomes of a request for a stack: it is granted, the machine has no memory for it, or its size
with the page below cannot be rounded up to whole pages. -/
inductive Grant
  | granted
  | outOfMemory
  | overflow
  deriving DecidableEq, Repr

/-- What becomes of a request for a stack of so many bytes. -/
def grant (size : Nat) : Grant :=
  if addressLimit ≤ size + (2 * pageSize - 1) then .overflow
  else if memoryLimit < size then .outOfMemory
  else .granted

/-! ## Helpers -/

theorem grant_eq_granted_iff (size : Nat) : grant size = .granted ↔ size ≤ memoryLimit := by
  unfold grant
  split
  · simp only [reduceCtorEq, false_iff, memoryLimit]
    simp only [addressLimit, pageSize] at *
    omega
  · split <;> simp <;> omega

end Stack

end CoroutineEngine
