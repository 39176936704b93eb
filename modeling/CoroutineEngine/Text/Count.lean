/-!
# Counts in text

A count is written in ASCII decimal digits, with an optional plus sign, and must not exceed a limit.

Results:
* `parse?_le`: what is read is within the limit.
* `parse?_nil`, `parse?_plus`: no digits are no count.
-/

namespace CoroutineEngine.Count

/-! ## Definitions -/

/-- The greatest count of 64 bits. -/
def limit64 : Nat := 18446744073709551615

/-- The digit that a character stands for. -/
def digit? (c : Char) : Option Nat :=
  if '0' ≤ c ∧ c ≤ '9' then some (c.toNat - '0'.toNat) else none

/-- Goes on reading digits after `n`; stops as soon as the limit is passed. -/
def digits? (limit : Nat) : Nat → List Char → Option Nat
  | n, [] => some n
  | n, c :: rest =>
    match digit? c with
    | none => none
    | some d => if n * 10 + d ≤ limit then digits? limit (n * 10 + d) rest else none

/-- Reads a count that fills the whole text. -/
def parse? (limit : Nat) (s : List Char) : Option Nat :=
  match s with
  | [] => none
  | ['+'] => none
  | '+' :: rest => digits? limit 0 rest
  | s => digits? limit 0 s

/-- Reads a count from a string. -/
def ofString? (limit : Nat) (s : String) : Option Nat := parse? limit s.toList

/-! ## Helpers -/

theorem digits?_le (limit n m : Nat) (s : List Char) (hn : n ≤ limit)
    (h : digits? limit n s = some m) : m ≤ limit := by
  induction s generalizing n with
  | nil =>
    simp only [digits?, Option.some.injEq] at h
    exact h ▸ hn
  | cons c rest ih =>
    simp only [digits?] at h
    split at h
    · simp at h
    · split at h
      · exact ih _ ‹_› h
      · simp at h

theorem parse?_le (limit m : Nat) (s : List Char) (h : parse? limit s = some m) : m ≤ limit := by
  unfold parse? at h
  split at h
  · simp at h
  · simp at h
  · exact digits?_le limit 0 m _ (Nat.zero_le _) h
  · exact digits?_le limit 0 m _ (Nat.zero_le _) h

theorem parse?_nil (limit : Nat) : parse? limit [] = none := rfl

theorem parse?_plus (limit : Nat) : parse? limit ['+'] = none := rfl

end CoroutineEngine.Count
