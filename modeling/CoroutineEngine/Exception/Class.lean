/-!
# Exception classes

A class is the root `BaseException` or derives from one base. Classes compare by identity: a class
defined while the engine runs carries a serial number that no other class has, the built-in ones
carry the serial 0 and differ by name.

Results:
* `isSubclassOf_refl`, `isSubclassOf_trans`: matching is reflexive and transitive.
* `isSubclassOf_root`: every class derives from the root.
-/

namespace CoroutineEngine

/-! ## Definitions -/

/-- An exception class with the chain of its bases. -/
inductive ExceptionClass
  | root
  | derived (name : String) (serial : Nat) (base : ExceptionClass)
  deriving DecidableEq, Inhabited, Repr

namespace ExceptionClass

/-- The name shown for a class. -/
def name : ExceptionClass → String
  | root => "BaseException"
  | derived name _ _ => name

/-- The class it derives from; the root has none. -/
def base : ExceptionClass → Option ExceptionClass
  | root => none
  | derived _ _ base => some base

/-- A class with all its bases, from the class itself to the root. -/
def lineage : ExceptionClass → List ExceptionClass
  | root => [root]
  | derived name serial base => derived name serial base :: base.lineage

/-- `a.isSubclassOf b` holds iff `b` is `a` or one of its bases. -/
def isSubclassOf : ExceptionClass → ExceptionClass → Bool
  | root, b => b == root
  | derived name serial base, b => b == derived name serial base || base.isSubclassOf b

/-- The class of ordinary errors. -/
def exception : ExceptionClass := derived "Exception" 0 root

/-- Raised for an operand of the wrong type. -/
def typeError : ExceptionClass := derived "TypeError" 0 exception

/-- Raised for an operand of the right type and an unusable value. -/
def valueError : ExceptionClass := derived "ValueError" 0 exception

/-- Raised for a failure with no class of its own. -/
def runtimeError : ExceptionClass := derived "RuntimeError" 0 exception

/-- Raised when memory for a coroutine is refused. -/
def memoryError : ExceptionClass := derived "MemoryError" 0 exception

/-- Raised for an attribute that is absent or read-only. -/
def attributeError : ExceptionClass := derived "AttributeError" 0 exception

/-- The exhaustion signal. -/
def stopIteration : ExceptionClass := derived "StopIteration" 0 exception

/-- The cancellation signal: no ordinary error, so a handler of `exception` lets it pass. -/
def generatorExit : ExceptionClass := derived "GeneratorExit" 0 root

/-- The classes that exist before any is defined. -/
def builtins : List ExceptionClass :=
  [root, exception, typeError, valueError, runtimeError, memoryError, attributeError, stopIteration,
    generatorExit]

/-- The built-in class of a name. -/
def ofName? (name : String) : Option ExceptionClass :=
  builtins.find? (·.name == name)

/-! ## Helpers -/

theorem isSubclassOf_iff_mem_lineage (a b : ExceptionClass) :
    a.isSubclassOf b = true ↔ b ∈ a.lineage := by
  induction a with
  | root => simp [isSubclassOf, lineage]
  | derived n s base ih => simp [isSubclassOf, lineage, ih]

theorem isSubclassOf_refl (a : ExceptionClass) : a.isSubclassOf a = true := by
  cases a <;> simp [isSubclassOf]

theorem isSubclassOf_trans {a b c : ExceptionClass} (hab : a.isSubclassOf b = true)
    (hbc : b.isSubclassOf c = true) : a.isSubclassOf c = true := by
  induction a with
  | root =>
    have hb : b = root := by simpa [isSubclassOf] using hab
    exact hb ▸ hbc
  | derived n s base ih =>
    rcases Bool.or_eq_true_iff.1 hab with h | h
    · have hb : b = derived n s base := by simpa using h
      exact hb ▸ hbc
    · simp [isSubclassOf, ih h]

theorem isSubclassOf_root (a : ExceptionClass) : a.isSubclassOf root = true := by
  induction a with
  | root => exact isSubclassOf_refl root
  | derived n s base ih => simp [isSubclassOf, ih]

end ExceptionClass

end CoroutineEngine
