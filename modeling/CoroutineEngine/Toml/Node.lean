import CoroutineEngine.Toml.Value

/-!
# Growing tables

While a document is read its tables grow. What may still be added to a table depends on what made it: a
table that a header opened cannot be opened again, a table that dotted keys made grows by dotted keys
only, and a value that is complete does not grow at all.

Results:
* `alter_new`: a new key goes to the end.
-/

namespace CoroutineEngine.Toml

/-! ## Definitions -/

/-- What made a table: its own header, the header of a table inside it, or a dotted key. -/
inductive Origin
  | header
  | path
  | dotted
  deriving DecidableEq

/-- A node under a key: a complete value, a table, or an array of tables, the newest first. -/
inductive Node
  | leaf (v : Value)
  | table (origin : Origin) (entries : List (String × Node))
  | elements (tables : List (List (String × Node)))

/-- The content of a growing table. -/
abbrev Entries := List (String × Node)

namespace Entries

/-- Changes what is under a key, or puts something there. -/
def alter (key : String) (f : Option Node → Option Node) : Entries → Option Entries
  | [] => (f none).map fun n => [(key, n)]
  | (k, n) :: rest =>
    if k = key then (f (some n)).map fun n => (k, n) :: rest
    else (alter key f rest).map ((k, n) :: ·)

/-- Puts a value under a path of keys. A path through tables that are still missing makes them; the last
key must be new, and it must not lie in a table that a header made. `grows` tells whether the table at
hand takes a value directly. -/
def assign (v : Value) (grows : Bool) : List String → Entries → Option Entries
  | [], _ => none
  | [key], entries =>
    if grows then entries.alter key fun n => if n.isSome then none else some (.leaf v) else none
  | key :: more, entries =>
    entries.alter key fun
      | none => (assign v true more []).map (.table .dotted)
      | some (.leaf _) => none
      | some (.table .header _) => none
      | some (.table origin sub) => (assign v (origin = .dotted) more sub).map (.table origin)
      | some (.elements (newest :: older)) =>
        (assign v false more newest).map fun t => .elements (t :: older)
      | some (.elements []) => none

/-- Changes the table that a header path leads to; tables that are missing on the way are made. The path
goes through the newest table of an array. -/
def at? (f : Entries → Option Entries) : List String → Entries → Option Entries
  | [], entries => f entries
  | key :: more, entries =>
    entries.alter key fun
      | none => (at? f more []).map (.table .path)
      | some (.leaf _) => none
      | some (.table origin sub) => (at? f more sub).map (.table origin)
      | some (.elements (newest :: older)) => (at? f more newest).map fun t => .elements (t :: older)
      | some (.elements []) => none

/-- Opens a table: a new one, or one that so far only headers of its parts made. -/
def openTable (key : String) (entries : Entries) : Option Entries :=
  entries.alter key fun
    | none => some (.table .header [])
    | some (.table .path sub) => some (.table .header sub)
    | some _ => none

/-- Adds an empty table to an array of tables. -/
def addElement (key : String) (entries : Entries) : Option Entries :=
  entries.alter key fun
    | none => some (.elements [[]])
    | some (.elements tables) => some (.elements ([] :: tables))
    | some _ => none

end Entries

mutual

/-- The value of a node that has stopped growing. -/
def Node.value : Node → Value
  | .leaf v => v
  | .table _ entries => .table (Entries.values entries)
  | .elements tables => .array (Entries.tableValues tables).reverse

/-- The values of entries that have stopped growing. -/
def Entries.values : List (String × Node) → List (String × Value)
  | [] => []
  | (key, n) :: rest => (key, n.value) :: Entries.values rest

/-- The values of tables that have stopped growing. -/
def Entries.tableValues : List (List (String × Node)) → List Value
  | [] => []
  | t :: rest => .table (Entries.values t) :: Entries.tableValues rest

end

/-! ## Helpers -/

theorem Entries.alter_new (key : String) (f : Option Node → Option Node) (entries : Entries) (n : Node)
    (hf : f none = some n) (h : ∀ e ∈ entries, e.1 ≠ key) :
    entries.alter key f = some (entries ++ [(key, n)]) := by
  induction entries with
  | nil => simp [alter, hf]
  | cons e rest ih =>
    have hk : e.1 ≠ key := h e (by simp)
    simp [alter, hk, ih fun e he => h e (by simp [he])]

end CoroutineEngine.Toml
