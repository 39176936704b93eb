import CoroutineEngine.Coroutine.Normalize

/-!
# The attributes of a coroutine

Reading and writing attributes by name. Only the two names can be written, and only with strings.
-/

namespace CoroutineEngine

variable {L : Language}

/-! ## Definitions -/

/-- The message about an attribute that does not exist. -/
def noAttribute (name : String) : String :=
  "'compiled_coroutine' object has no attribute '" ++ name ++ "'"

/-- Reads an attribute. -/
def getAttribute (c : CoroutineId) (name : String) : Effect L Reply := do
  let r ← recordOf c
  let read (v : Value) : Effect L Reply := do
    retain v
    return .ok v
  match name with
  | "__name__" => read (.str r.name)
  | "__qualname__" => read (.str r.qualname)
  | "cr_await" => read (r.awaiting.getD .none)
  | "cr_code" => read (.code r.code)
  | "cr_frame" => read (match r.frame with | some f => .frame f | none => .none)
  | "cr_running" => read (.bool r.running)
  | other => return .error (← makeError .attributeError (noAttribute other))

/-- Writes one of the names, which takes strings only. Takes the value over. -/
def assignName (E : Engine L) (label : String) (value : Value) (set : Text → Effect L Unit) :
    Effect L (Except Exception Unit) := do
  match value with
  | .str text =>
    set text
    return .ok ()
  | other => refuse E (.notAString label) [other]

/-- Sets the name of a coroutine. -/
def setName (E : Engine L) (c : CoroutineId) (value : Value) : Effect L (Except Exception Unit) :=
  assignName E "__name__" value fun name => modifyCoroutine c fun r => { r with name }

/-- Sets the qualified name of a coroutine. -/
def setQualname (E : Engine L) (c : CoroutineId) (value : Value) :
    Effect L (Except Exception Unit) :=
  assignName E "__qualname__" value fun qualname => modifyCoroutine c fun r => { r with qualname }

/-- Why an attribute cannot be written; nothing for the two names. -/
def writeError? (name : String) : Option (ExceptionClass × String) :=
  match name with
  | "__name__" | "__qualname__" => none
  | "cr_code" | "cr_frame" => some (.runtimeError, name ++ " is not writable")
  | "cr_running" => some (.attributeError, "readonly attribute")
  | "cr_await" =>
    some (.attributeError, "attribute 'cr_await' of 'compiled_coroutine' objects is not writable")
  | other => some (.attributeError, noAttribute other)

/-- Writes an attribute. Takes the value over. -/
def setAttribute (E : Engine L) (c : CoroutineId) (name : String) (value : Value) :
    Effect L (Except Exception Unit) := do
  match writeError? name with
  | some (cls, message) =>
    let e ← makeError cls message
    E.owning [.exception e] (E.release value)
    return .error e
  | none => if name = "__name__" then setName E c value else setQualname E c value

/-! ## Helpers -/

theorem writeError?_eq_none_iff (name : String) :
    writeError? name = none ↔ name = "__name__" ∨ name = "__qualname__" := by
  unfold writeError?
  split <;> simp_all

end CoroutineEngine
