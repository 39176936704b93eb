/-!
# Pictures and reports

What an observer sees of a run: pictures of values at a moment, data about objects, and the events
of a run in the order in which they happen.
-/

namespace CoroutineEngine

/-! ## Definitions -/

/-- The entries of a traceback, outermost first. -/
abbrev TracebackPicture := List (String × UInt32)

/-- A value as it looked at one moment. `elided` stands for what lies too deep to be shown. -/
inductive Picture
  | none
  | bool (b : Bool)
  | int (i : Int64)
  | text (s : String)
  | float (s : String)
  | tuple (items : List Picture)
  | exceptionClass (name : String)
  | exception (cls : String) (args : List Picture) (display : String)
      (traceback : Option TracebackPicture) (suppress : Bool) (cause context : Option Picture)
  | traceback (entries : TracebackPicture)
  | cell (content : Option Picture)
  | code (name qualname : String) (firstLine : UInt32) (generatorStop : Bool)
  | frame (qualname : String) (line : UInt32)
  | coroutine (qualname status : String)
  | wrapper (qualname : String)
  | elided
  deriving Inhabited

/-- Data about an object. -/
inductive Datum
  | null
  | bool (b : Bool)
  | int (i : Int)
  | text (s : String)
  | picture (p : Picture)
  | list (items : List Datum)
  | record (fields : List (String × Datum))
  deriving Inhabited

namespace Datum

/-- An optional text. -/
def ofText? : Option String → Datum
  | some s => text s
  | none => null

/-- A count. -/
def ofNat (n : Nat) : Datum := int n

/-- A list of texts. -/
def ofTexts (texts : List String) : Datum := list (texts.map text)

/-- The entries of a traceback. -/
def ofTraceback (entries : TracebackPicture) : Datum :=
  list (entries.map fun (name, line) => list [text name, ofNat line.toNat])

/-- The entries of a traceback that may be absent. -/
def ofTraceback? : Option TracebackPicture → Datum
  | some entries => ofTraceback entries
  | none => null

end Datum

/-- How grave a log line is. -/
inductive LogLevel
  | trace
  | debug
  | info
  | warn
  | error
  deriving DecidableEq, Inhabited, Repr

/-- An observable event of a run. -/
inductive Event
  | said (value : Picture)
  | info (data : Datum)
  | pending (data : Datum)
  | transfer (debug : String)
  | unraisable (object display : String) (errorSet : Bool) (debug mode : String)
  | unwound (fiber : String)
  | log (level : LogLevel) (message : String) (fields : List (String × Datum))
  deriving Inhabited

end CoroutineEngine
