import CoroutineEngine.Configuration.Environment
import CoroutineEngine.Configuration.File
import CoroutineEngine.Configuration.Storage

/-!
# Loading configurations

A configuration comes from a file, or is the standard one where the user has no file. The environment
and the command line lie above it in layers, and the outcome must be valid.

Results:
* `layered_eq_ok`: what a layered configuration consists of.
-/

namespace CoroutineEngine.Configuration

/-! ## Definitions -/

/-- What the files of a system hold, by path. -/
abbrev Files := String → Except StorageFault Content

/-- The configuration that a file describes. -/
def load : Except StorageFault Content → Except ConfigurationError Configuration
  | .ok (.text s) => read s
  | .ok .bytes => .error (.storage .notText)
  | .error fault => .error (.storage fault)

/-- The user's configuration; the standard one where there is no such file. -/
def loadUser (files : Files) (e : Environment) : Except ConfigurationError Configuration :=
  match location? e with
  | none => .ok standard
  | some path =>
    match files path with
    | .error fault => if fault.isAbsence then .ok standard else .error (.storage fault)
    | content => load content

/-- Why layers give no configuration: the file, the environment, or the outcome. -/
inductive LayerError
  | file (e : ConfigurationError)
  | environment (e : ConfigurationError)
  | outcome (e : ConfigurationError)
  deriving DecidableEq, Repr

/-- What the command line lies over the configuration: a stack size, and whether everything is logged. -/
structure Overlay where
  stackSize : Option Nat
  verbose : Bool
  deriving DecidableEq, Inhabited, Repr

/-- The configuration under an overlay. -/
def under (c : Configuration) (o : Overlay) : Configuration :=
  { stackSize := o.stackSize.getD c.stackSize
    reportChildren := c.reportChildren
    level := if o.verbose then .debug else c.level }

/-- Lays the environment and the command line over a configuration from a file. -/
def layered (file : Except ConfigurationError Configuration) (raw : Option String) (o : Overlay) :
    Except LayerError Configuration :=
  match file with
  | .error e => .error (.file e)
  | .ok c =>
    match c.override raw with
    | .error e => .error (.environment e)
    | .ok c =>
      match (c.under o).validate with
      | .error e => .error (.outcome e)
      | .ok () => .ok (c.under o)

/-! ## Helpers -/

theorem layered_eq_ok {file : Except ConfigurationError Configuration} {raw : Option String}
    {o : Overlay} {d : Configuration} (h : layered file raw o = .ok d) :
    ∃ c c', file = .ok c ∧ c.override raw = .ok c' ∧ d = c'.under o ∧ d.validate = .ok () := by
  unfold layered at h
  split at h
  · simp at h
  · next c =>
    split at h
    · simp at h
    · next c' hc =>
      split at h
      · simp at h
      · next hv =>
        simp only [Except.ok.injEq] at h
        subst h
        exact ⟨c, c', rfl, hc, rfl, hv⟩

end CoroutineEngine.Configuration
