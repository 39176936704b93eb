import CoroutineEngine.Report.Level
import CoroutineEngine.Text.Quoted
import CoroutineEngine.World.Basic

/-!
# Configurations

The settings that coroutines are built under, together with the level of the log, and what can be wrong
with a configuration or with the place it comes from.

Results:
* `validate_standard`: the standard configuration is valid.
* `validate_eq_ok_iff`: a configuration is valid iff its stacks are great enough.
-/

namespace CoroutineEngine

/-! ## Definitions -/

/-- A configuration. -/
structure Configuration extends Settings where
  level : LogLevel
  deriving DecidableEq, Repr

/-- Why a place of the file system refuses. -/
inductive StorageFault
  | notFound
  | notDirectory
  | isDirectory
  | alreadyThere
  | nameTooLong
  | nulInPath
  | notText
  | other (reason : String)
  deriving DecidableEq, Repr

/-- The text of a storage fault. -/
def StorageFault.message : StorageFault → String
  | notFound => "No such file or directory (os error 2)"
  | notDirectory => "Not a directory (os error 20)"
  | isDirectory => "Is a directory (os error 21)"
  | alreadyThere => "File exists (os error 17)"
  | nameTooLong => "File name too long (os error 36)"
  | nulInPath => "file name contained an unexpected NUL byte"
  | notText => "stream did not contain valid UTF-8"
  | other reason => reason

/-- Whether a fault means that nothing is there. -/
def StorageFault.isAbsence : StorageFault → Bool
  | notFound | notDirectory | nameTooLong | nulInPath => true
  | isDirectory | alreadyThere | notText | other _ => false

/-- Why there is no configuration.

* `storage`: the file system refuses. `malformed`: a file holds no configuration.
* `unwritable`: a stack size is too great to be written down.
* `invalidVariable`: the environment variable for the stack size holds no size.
* `stackTooSmall`: stacks of this size are refused. -/
inductive ConfigurationError
  | storage (fault : StorageFault)
  | malformed
  | unwritable
  | invalidVariable (raw : String)
  | stackTooSmall (size : Nat)
  deriving DecidableEq, Repr

namespace Configuration

/-- The environment variable that overrides the stack size. -/
def stackSizeVariable : String := "YIELDFIBER_STACK_SIZE"

/-- The least stack size that is accepted. -/
def leastStackSize : Nat := 16 * 1024

/-- The standard configuration. -/
def standard : Configuration := { Settings.fresh with level := .standard }

instance : Inhabited Configuration := ⟨standard⟩

/-- Refuses values that the engine cannot run with. -/
def validate (c : Configuration) : Except ConfigurationError Unit :=
  if c.stackSize < leastStackSize then .error (.stackTooSmall c.stackSize) else .ok ()

end Configuration

/-- The text of a configuration error. Texts about the form of a file end where the description of the
fault would begin. -/
def ConfigurationError.message : ConfigurationError → String
  | storage fault => "IO error: " ++ fault.message
  | malformed => "Config parse error"
  | unwritable => "Config serialize error"
  | invalidVariable raw =>
    "Invalid value " ++ Quoted.quote raw ++ " in " ++ Configuration.stackSizeVariable
  | stackTooSmall size =>
    "Fiber stack size " ++ toString size ++ " is below the minimum of "
      ++ toString Configuration.leastStackSize ++ " bytes"

namespace Configuration

/-! ## Helpers -/

theorem validate_standard : standard.validate = .ok () := rfl

theorem validate_eq_ok_iff (c : Configuration) : c.validate = .ok () ↔ leastStackSize ≤ c.stackSize := by
  unfold validate
  split <;> simp <;> omega

end Configuration

end CoroutineEngine
