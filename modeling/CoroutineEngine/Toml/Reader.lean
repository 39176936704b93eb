/-!
# Readers

A reader takes a piece off the front of a text and says what it read, or refuses the text.

Results:
* `item_cons`, `exactly_cons`: reading one character.
* `run_append`: a run ends where its characters end.
-/

namespace CoroutineEngine.Toml

/-! ## Definitions -/

/-- A reader of pieces of type `α`. -/
abbrev Reader := StateT (List Char) Option

namespace Reader

variable {α β : Type}

/-- One character of a class. -/
def item (p : Char → Bool) : Reader Char := fun s =>
  match s with
  | c :: rest => if p c then some (c, rest) else none
  | [] => none

/-- This character. -/
def exactly (c : Char) : Reader Unit := fun s =>
  match s with
  | d :: rest => if d = c then some ((), rest) else none
  | [] => none

/-- These characters, one after another. -/
def phrase : List Char → Reader Unit
  | [] => pure ()
  | c :: cs => do
    exactly c
    phrase cs

/-- As many characters of a class as there are. -/
def run (p : Char → Bool) : Reader (List Char) := fun s => some (s.takeWhile p, s.dropWhile p)

/-- At least one character of a class, and as many as there are. -/
def run1 (p : Char → Bool) : Reader (List Char) := do
  let c ← item p
  let cs ← run p
  return c :: cs

/-- Exactly `n` characters of a class. -/
def count (p : Char → Bool) : Nat → Reader (List Char)
  | 0 => pure []
  | n + 1 => do
    let c ← item p
    let cs ← count p n
    return c :: cs

/-- A piece, or nothing. -/
def maybe (x : Reader α) : Reader (Option α) := fun s =>
  match x s with
  | some (a, rest) => some (some a, rest)
  | none => some (none, s)

/-- The first of two readers that does not refuse. -/
def orElse (x y : Reader α) : Reader α := fun s =>
  match x s with
  | some r => some r
  | none => y s

/-- The first of some readers that does not refuse. -/
def firstOf : List (Reader α) → Reader α
  | [] => fun _ => none
  | x :: xs => orElse x (firstOf xs)

/-- Pieces one after another, at most `n`; a piece that takes nothing off the text ends them. -/
def upTo (x : Reader α) : Nat → Reader (List α)
  | 0 => pure []
  | n + 1 => fun s =>
    match x s with
    | none => some ([], s)
    | some (a, rest) =>
      if rest.length < s.length then
        match upTo x n rest with
        | some (as, rest) => some (a :: as, rest)
        | none => none
      else some ([], s)

/-- As many pieces as there are. -/
def many (x : Reader α) : Reader (List α) := fun s => upTo x s.length s

/-- Pieces with something between each two of them; none at all is fine too. -/
def separated (x : Reader α) (between : Reader Unit) : Reader (List α) := fun s =>
  match x s with
  | none => some ([], s)
  | some (a, rest) =>
    match many (between *> x) rest with
    | some (as, rest) => some (a :: as, rest)
    | none => none

/-- What a reader accepts, if a condition holds of it. -/
def satisfying (x : Reader α) (p : α → Bool) : Reader α := fun s =>
  match x s with
  | some (a, rest) => if p a then some (a, rest) else none
  | none => none

/-- Nothing, where the text is over. -/
def atEnd : Reader Unit := fun s => if s.isEmpty then some ((), s) else none

/-- Nothing, where a character of a class does not follow. -/
def notBefore (p : Char → Bool) : Reader Unit := fun s =>
  match s with
  | c :: _ => if p c then none else some ((), s)
  | [] => some ((), s)

/-! ## Helpers -/

theorem item_cons {p : Char → Bool} {c : Char} (rest : List Char) (h : p c = true) :
    item p (c :: rest) = some (c, rest) := by
  simp [item, h]

theorem exactly_cons (c : Char) (rest : List Char) : exactly c (c :: rest) = some ((), rest) := by
  simp [exactly]

theorem run_append {p : Char → Bool} (cs rest : List Char) (h : ∀ c ∈ cs, p c = true)
    (hr : ∀ c, rest.head? = some c → p c = false) : run p (cs ++ rest) = some (cs, rest) := by
  have stop : rest.takeWhile p = [] ∧ rest.dropWhile p = rest := by
    cases rest with
    | nil => simp
    | cons c rest => simp [hr c rfl]
  simp [run, List.takeWhile_append_of_pos h, List.dropWhile_append_of_pos h, stop]

end Reader

end CoroutineEngine.Toml
