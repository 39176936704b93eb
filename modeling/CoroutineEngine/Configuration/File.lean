import CoroutineEngine.Configuration.Basic
import CoroutineEngine.Toml.Document

/-!
# Configuration files

A configuration is written as three sections of one value each. Reading takes the standard value for
whatever is missing and ignores what it does not know. A section may also be given as an array, whose
items stand for its values, and a level as a table with one empty entry under its name.

Results:
* `ofTable?_nil`: an empty file gives the standard configuration.
* `text?_eq_none_iff`: only stacks beyond the integers of a document cannot be written.
-/

namespace CoroutineEngine.Configuration

/-! ## Reading -/

/-- The only value of a section: nothing if the section cannot be one, and no value if it is missing
there. -/
def onlyValue? (name : String) : Toml.Value → Option (Option Toml.Value)
  | .table entries => some (entries.lookup name)
  | .array items => some items.head?
  | .moment => some none
  | _ => none

/-- A value of a section, or the standard one where the section or the value is missing. -/
def fromSection? {α : Type} (root : List (String × Toml.Value)) (heading name : String) (standard : α)
    (read? : Toml.Value → Option α) : Option α :=
  match root.lookup heading with
  | none => some standard
  | some v =>
    match onlyValue? name v with
    | none => none
    | some none => some standard
    | some (some v) => read? v

/-- A stack size. -/
def stackSizeOf? : Toml.Value → Option Nat
  | .integer i => if 0 ≤ i then some i.toNat else none
  | _ => none

/-- A truth value. -/
def truthOf? : Toml.Value → Option Bool
  | .boolean b => some b
  | _ => none

/-- A level. -/
def levelOf? : Toml.Value → Option LogLevel
  | .text s => LogLevel.named? s
  | .table [(name, .table [])] => LogLevel.named? name
  | .table [(name, .array [])] => LogLevel.named? name
  | _ => none

/-- The configuration that the root table of a document describes. -/
def ofTable? (root : List (String × Toml.Value)) : Option Configuration := do
  let stackSize ← fromSection? root "fiber" "stack_size" standard.stackSize stackSizeOf?
  let reportChildren ← fromSection? root "gc" "report_owned_children" standard.reportChildren truthOf?
  let level ← fromSection? root "log" "level" standard.level levelOf?
  return { stackSize, reportChildren, level }

/-- The configuration that a text describes; it need not be valid. -/
def ofText? (s : String) : Option Configuration := do ofTable? (← Toml.document? s)

/-- The valid configuration that a text describes. -/
def read (s : String) : Except ConfigurationError Configuration :=
  match ofText? s with
  | none => .error .malformed
  | some c =>
    match c.validate with
    | .ok () => .ok c
    | .error e => .error e

/-! ## Writing -/

/-- The lines of a configuration file. -/
def fileLines (c : Configuration) : List String :=
  ["[fiber]", "stack_size = " ++ toString c.stackSize, "",
    "[gc]", "report_owned_children = " ++ (if c.reportChildren then "true" else "false"), "",
    "[log]", "level = \"" ++ c.level.name ++ "\""]

/-- The text of a configuration file; there is none for a stack size that no document can hold. -/
def text? (c : Configuration) : Option String :=
  if Toml.isStorable c.stackSize then some (String.join (c.fileLines.map (· ++ "\n"))) else none

/-! ## Helpers -/

theorem ofTable?_nil : ofTable? [] = some standard := rfl

theorem text?_eq_none_iff (c : Configuration) :
    c.text? = none ↔ Toml.greatestInteger < c.stackSize := by
  unfold text?
  split <;> rename_i h <;> rw [Toml.isStorable_iff] at h <;> simp only [reduceCtorEq, true_iff, false_iff] <;> omega

end CoroutineEngine.Configuration
