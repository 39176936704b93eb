import CoroutineEngine.Report.Picture

/-!
# Names of log levels

A level has a name in lower case, which configurations and command lines use, and a label in upper case,
which log lines use. Reading a level ignores the case of ASCII letters and knows one synonym.

Results:
* `ofText?_name`: every level is read back from its name.
* `named?_name`: so it is where only the exact names count.
-/

namespace CoroutineEngine.LogLevel

/-! ## Definitions -/

/-- The level that is used where none is given. -/
def standard : LogLevel := .info

/-- The name of a level. -/
def name : LogLevel → String
  | trace => "trace"
  | debug => "debug"
  | info => "info"
  | warn => "warn"
  | error => "error"

/-- The label of a level. -/
def label : LogLevel → String
  | trace => "TRACE"
  | debug => "DEBUG"
  | info => "INFO"
  | warn => "WARN"
  | error => "ERROR"

/-- The level with exactly this name. -/
def named? : String → Option LogLevel
  | "trace" => some trace
  | "debug" => some debug
  | "info" => some info
  | "warn" => some warn
  | "error" => some error
  | _ => none

/-- A text with its ASCII letters in lower case; other letters stay as they are. -/
def lowered (s : String) : String := String.ofList (s.toList.map Char.toLower)

/-- The level that a text names in any case; `warning` is another word for `warn`. -/
def ofText? (s : String) : Option LogLevel :=
  if lowered s = "warning" then some warn else named? (lowered s)

/-- The message about a text that names no level. -/
def unknownMessage (s : String) : String := "unknown log level: " ++ lowered s

/-! ## Helpers -/

theorem named?_name (l : LogLevel) : named? l.name = some l := by
  cases l <;> rfl

theorem lowered_name (l : LogLevel) : lowered l.name = l.name := by
  cases l <;> simp [lowered, name]

theorem ofText?_name (l : LogLevel) : ofText? l.name = some l := by
  simp only [ofText?, lowered_name, named?_name]
  cases l <;> rfl

end CoroutineEngine.LogLevel
