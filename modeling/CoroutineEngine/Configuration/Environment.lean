import CoroutineEngine.Configuration.Basic
import CoroutineEngine.Text.Blank
import CoroutineEngine.Text.Count

/-!
# The environment of a configuration

An environment variable overrides the stack size, and others tell where the user's configuration lies.

Results:
* `override_none`: without the variable nothing changes.
* `override_eq_ok`: otherwise nothing but the stack size does.
-/

namespace CoroutineEngine.Configuration

/-! ## Definitions -/

/-- The variables of an environment. -/
abbrev Environment := List (String × String)

/-- The stack size that the text of the variable gives: a count of 64 bits, with blanks around it. -/
def stackSizeOfText? (raw : String) : Option Nat :=
  Count.parse? Count.limit64 (Blank.trim raw.toList)

/-- Overrides the stack size by the text of the variable, if it is set. -/
def override (c : Configuration) (raw : Option String) : Except ConfigurationError Configuration :=
  match raw with
  | none => .ok c
  | some raw =>
    match stackSizeOfText? raw with
    | some stackSize => .ok { c with stackSize }
    | none => .error (.invalidVariable raw)

/-- Overrides the stack size from an environment. -/
def overrideFrom (c : Configuration) (e : Environment) : Except ConfigurationError Configuration :=
  c.override (e.lookup stackSizeVariable)

/-- A path seen from a directory; one that starts at the root stays as it is. An empty directory is where
one is. -/
def join (directory path : String) : String :=
  if directory.isEmpty || path.startsWith "/" then path
  else if directory.endsWith "/" then directory ++ path
  else directory ++ "/" ++ path

/-- The directory of the user's configuration. -/
def directory? (e : Environment) : Option String :=
  match e.lookup "XDG_CONFIG_HOME" with
  | some base => some (join base "yieldfiber")
  | none =>
    match e.lookup "HOME" with
    | some home => some (join (join home ".config") "yieldfiber")
    | none => (e.lookup "APPDATA").map (join · "yieldfiber")

/-- The file of the user's configuration. -/
def location? (e : Environment) : Option String := (directory? e).map (join · "config.toml")

/-! ## Helpers -/

theorem override_none (c : Configuration) : c.override none = .ok c := rfl

theorem override_eq_ok {c d : Configuration} {raw : Option String} (h : c.override raw = .ok d) :
    d.reportChildren = c.reportChildren ∧ d.level = c.level := by
  unfold override at h
  split at h
  · simp_all
  · split at h <;> simp_all
    subst h
    simp

end CoroutineEngine.Configuration
