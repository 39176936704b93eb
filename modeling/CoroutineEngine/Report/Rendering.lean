import CoroutineEngine.Decimal.Floating
import CoroutineEngine.Effect
import CoroutineEngine.Text.Quoted

/-!
# The texts of values

Two texts of a value: the one inside a container (`debug`) and the one by itself (`display`), and the
texts of exceptions, frames, codes and coroutines. A cell can hold itself, so a text may have no end;
the functions therefore take the number of objects they may descend through, and `World.depthBound` is
enough for every value whose text is finite.
-/

namespace CoroutineEngine

variable {L : Language}

/-! ## Pieces -/

/-- Pieces between brackets, with the comma that marks a tuple of one. -/
def tupleText (items : List String) : String :=
  "(" ++ ", ".intercalate items ++ (if items.length = 1 then "," else "") ++ ")"

/-- A truth value as values show it. -/
def truthText (b : Bool) : String := if b then "True" else "False"

/-- A name with fields, as records are shown. -/
def recordText (name : String) (fields : List (String × String)) : String :=
  name ++ " \x7b " ++ ", ".intercalate (fields.map fun (n, v) => n ++ ": " ++ v) ++ " \x7d"

/-- An optional text, as optional fields are shown. -/
def optionText : Option String → String
  | some s => "Some(" ++ s ++ ")"
  | none => "None"

/-- A class inside a container. -/
def ExceptionClass.debug (c : ExceptionClass) : String := "<class '" ++ c.name ++ "'>"

namespace Traceback

/-- The lines of a traceback, as a list of quoted places. -/
def debug (t : Traceback) : String :=
  "[" ++ ", ".intercalate
    (t.entries.map fun e => Quoted.quote (e.name ++ ":" ++ toString e.line.toNat)) ++ "]"

/-- The lines of a traceback, most recent call last. -/
def format (t : Traceback) : String :=
  t.entries.foldl
    (fun out e => out ++ "  in " ++ e.name ++ ", line " ++ toString e.line.toNat ++ "\n")
    "Traceback (most recent call last):\n"

/-- The places of a traceback. -/
def picture (t : Traceback) : TracebackPicture := t.entries.map fun e => (e.name, e.line)

end Traceback

/-- A code object with its fields. -/
def Code.debug (c : Code) : String :=
  "CodeObject \x7b name: " ++ Quoted.quote c.name.content ++ ", qualname: "
    ++ Quoted.quote c.qualname.content ++ ", first_line: " ++ toString c.firstLine.toNat ++ ", flags: "
    ++ recordText "CodeFlags" [("generator_stop", toString c.generatorStop)] ++ ", .. \x7d"

/-! ## Values -/

namespace World

/-- A frame with its current line. -/
def frameText (w : World L) (f : Frame) : String :=
  "<frame " ++ f.code.qualname.content ++ " line " ++ toString (w.frame f).line.toNat ++ ">"

/-- A coroutine with its current name. Its address is not shown. -/
def coroutineRepr (w : World L) (c : CoroutineId) : String :=
  "<compiled_coroutine object " ++ (w.coroutine c).qualname.content ++ " at 0x*>"

/-- A coroutine with its state. -/
def coroutineDebug (w : World L) (c : CoroutineId) : String :=
  let r := w.coroutine c
  recordText "Coroutine"
    [("qualname", Quoted.quote r.qualname.content), ("status", r.status.debug),
      ("running", toString r.running)]

/-- A wrapper with the current name of its coroutine. -/
def wrapperText (w : World L) (x : WrapperId) : String :=
  "<compiled_coroutine_wrapper object of "
    ++ (w.coroutine (w.wrapper x).coroutine).qualname.content ++ ">"

/-- The call that makes an exception, from the texts of its arguments. -/
def callText (cls : ExceptionClass) (args : List String) : String :=
  cls.name ++ "(" ++ ", ".intercalate args ++ ")"

/-- The text of a value inside a container. -/
def debug? (w : World L) : Nat → Value → Option String
  | 0, _ => none
  | fuel + 1, v =>
    match v with
    | .none => some "None"
    | .bool b => some (truthText b)
    | .int i => some (toString i.toInt)
    | .float x => some (Decimal.floatText x)
    | .str t => some (Quoted.quote t.content)
    | .tuple _ items => (items.mapM (w.debug? fuel)).map tupleText
    | .exceptionClass c => some c.debug
    | .exception e =>
      Option.map (callText e.cls) ((w.exception e).args.mapM fun a =>
        match a with
        | .str t => some ("'" ++ t.content ++ "'")
        | a => w.debug? fuel a)
    | .traceback t => some ("<traceback depth=" ++ toString t.entries.length ++ ">")
    | .cell c =>
      match (w.cell c).content with
      | some content => (w.debug? fuel content).map fun s => "<cell: " ++ s ++ ">"
      | none => some "<cell: empty>"
    | .code c => some ("<code object " ++ c.name.content ++ ">")
    | .frame f => some (w.frameText f)
    | .coroutine c => some (w.coroutineRepr c)
    | .wrapper x => some (w.wrapperText x)

/-- The text of a value by itself: a string without quotes, an exception by its message. -/
def display? (w : World L) : Nat → Value → Option String
  | 0, _ => none
  | fuel + 1, v =>
    match v with
    | .str t => some t.content
    | .exception e =>
      match (w.exception e).args with
      | [] => some ""
      | [single] => w.display? fuel single
      | many => (many.mapM (w.debug? fuel)).map tupleText
    | other => w.debug? (fuel + 1) other

/-- More objects than any descent without a cycle can pass. -/
def depthBound (w : World L) : Nat := w.tuples.size + w.exceptions.size + w.cells.size + 2

/-- The text of a value inside a container; nothing if it has no end. -/
def debug (w : World L) (v : Value) : Option String := w.debug? w.depthBound v

/-- The text of a value by itself; nothing if it has no end. -/
def display (w : World L) (v : Value) : Option String := w.display? w.depthBound v

/-- The message of an exception: the text of its arguments. -/
def message (w : World L) (e : Exception) : Option String := w.display (.exception e)

/-- An exception in a sentence: its class, and its message unless that is empty. -/
def exceptionText (w : World L) (e : Exception) : Option String :=
  (w.message e).map fun m => if m.isEmpty then e.cls.name else e.cls.name ++ ": " ++ m

/-- A pending triple with its parts. -/
def pendingDebug (w : World L) (p : PendingException) : Option String := do
  let value ← match p.value with
    | some e => some <$> w.debug (.exception e)
    | none => some none
  return recordText "PendingException"
    [("kind", p.kind.debug), ("value", optionText value),
      ("traceback", optionText (p.traceback.map (·.debug)))]

/-- A transfer with its parts. -/
def transferDebug (w : World L) (t : Transfer) : Option String := do
  let value ← w.debug t.value
  let pending ← match t.exception with
    | some p => some <$> w.pendingDebug p
    | none => some none
  return recordText "Transfer" [("value", value), ("exception", optionText pending)]

/-- A report about an error that nobody received. -/
def reportDebug (w : World L) (object : String) (e : Exception) : Option String :=
  (w.debug (.exception e)).map fun s =>
    recordText "UnraisableReport" [("object", Quoted.quote object), ("exception", s)]

end World

/-- A text that may have no end; writing an endless text ends the run. -/
def rendered (text : World L → Option String) : Effect L String := fun w =>
  match text w with
  | some s => (.ok s, w)
  | none => (.stop, w)

end CoroutineEngine
