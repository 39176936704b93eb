import CoroutineEngine.Toml.Node
import CoroutineEngine.Toml.Number

/-!
# TOML documents

A document is read line by line, and its lines then build the root table. Arrays and inline tables may be
nested up to a limit, which also bounds the length of a path of keys.

Results:
* `build?_nil`: no lines leave an empty table.
-/

namespace CoroutineEngine.Toml

open Reader

/-! ## Keys -/

/-- A character of a key that needs no quotes. -/
def isBare (c : Char) : Bool := c.isAlphanum || c == '-' || c == '_'

/-- One key. -/
def simpleKey : Reader String := orElse (String.ofList <$> run1 isBare) quotedText

/-- The bound on nesting: there are fewer levels, and fewer keys in a path. -/
def nestingBound : Nat := 80

/-- A path of keys with points between them. -/
def keyPath : Reader (List String) :=
  satisfying (separated (blanks *> simpleKey <* blanks) (exactly '.')) fun path =>
    !path.isEmpty && path.length < nestingBound

/-! ## Values -/

/-- An array of values. -/
def array (inner : Reader Value) : Reader Value := do
  exactly '['
  let items ← separated (spacing *> inner <* spacing) (exactly ',')
  if !items.isEmpty then
    discard (maybe (exactly ','))
  spacing
  exactly ']'
  return .array items

/-- A key with its value. -/
def entry (inner : Reader Value) : Reader (List String × Value) := do
  let path ← keyPath
  exactly '='
  blanks
  let v ← inner
  return (path, v)

/-- A table on one line. -/
def inlineTable (inner : Reader Value) : Reader Value := do
  exactly '\x7b'
  let items ← separated (entry inner <* blanks) (exactly ',')
  blanks
  exactly '\x7d'
  match items.foldlM (fun entries (path, v) => Entries.assign v true path entries) [] with
  | some entries => return .table (Entries.values entries)
  | none => failure

/-- A value with at most so many levels of arrays and inline tables. -/
def value : Nat → Reader Value
  | 0 => simpleValue
  | levels + 1 => fun s => firstOf [simpleValue, array (value levels), inlineTable (value levels)] s

/-! ## Lines -/

/-- A line without its end. -/
def lineContent : Reader Line :=
  firstOf
    [do
      phrase ['[', '[']
      let path ← keyPath
      phrase [']', ']']
      return .element path,
    do
      exactly '['
      let path ← keyPath
      exactly ']'
      return .header path,
    do
      let (path, v) ← entry (value (nestingBound - 1))
      return .entry path v,
    pure .blank]

/-- A line. -/
def line : Reader Line := do
  blanks
  let l ← lineContent
  lineEnd
  return l

/-- The lines of a text; every line takes something off the text. -/
def lines : Nat → List Char → Option (List Line)
  | _, [] => some []
  | 0, _ :: _ => none
  | n + 1, s => do
    let (l, rest) ← line s
    let ls ← lines n rest
    return l :: ls

/-- A text without the mark of its byte order in front. -/
def withoutMark : List Char → List Char
  | '\uFEFF' :: rest => rest
  | s => s

/-! ## Documents -/

/-- A document under construction: its root table, and the path of the table that its entries go to. -/
structure Draft where
  root : Entries
  current : List String

namespace Draft

/-- Puts one line into a document. -/
def add (d : Draft) : Line → Option Draft
  | .blank => some d
  | .entry path v => (d.root.at? (Entries.assign v true path) d.current).map ({ d with root := · })
  | .header path =>
    match path.getLast? with
    | none => none
    | some key => (d.root.at? (Entries.openTable key) path.dropLast).map (⟨·, path⟩)
  | .element path =>
    match path.getLast? with
    | none => none
    | some key => (d.root.at? (Entries.addElement key) path.dropLast).map (⟨·, path⟩)

end Draft

/-- The root table that lines build. -/
def build? (ls : List Line) : Option (List (String × Value)) :=
  (ls.foldlM Draft.add ⟨[], []⟩).map fun d => Entries.values d.root

/-- The root table of a document; nothing if the text is no document. -/
def document? (s : String) : Option (List (String × Value)) := do
  let text := withoutMark s.toList
  build? (← lines text.length text)

/-! ## Helpers -/

theorem build?_nil : build? [] = some [] := rfl

end CoroutineEngine.Toml
