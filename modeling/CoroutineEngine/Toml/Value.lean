/-!
# Values of a TOML document

What a document says, without its layout. A table keeps its keys in the order of their making; no key
occurs twice in it. Floating-point numbers and moments are only told apart from the rest: nothing reads
their content.
-/

namespace CoroutineEngine.Toml

/-- A value. -/
inductive Value
  | text (s : String)
  | integer (i : Int)
  | float
  | boolean (b : Bool)
  | moment
  | array (items : List Value)
  | table (entries : List (String × Value))
  deriving Inhabited

/-- A line of a document: nothing but layout, a header that opens a table, a header that adds a table to
an array of tables, or a value under a path of keys. -/
inductive Line
  | blank
  | header (path : List String)
  | element (path : List String)
  | entry (path : List String) (value : Value)
  deriving Inhabited

end CoroutineEngine.Toml
