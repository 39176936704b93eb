/-!
# Expressions

What a client can write where a value is wanted. An expression reads slots, locals and the state of
the engine, and makes new objects; it never runs a body.
-/

namespace CoroutineEngine

/-- An expression. The names in `property` are those that `World.property` knows. -/
inductive Expr
  | none
  | bool (b : Bool)
  | int (i : Int64)
  | str (s : String)
  | tuple (items : List Expr)
  | slot (name : String)
  | localVar (name : String)
  | float (bits : UInt64)
  | builtinClass (name : String)
  | exception (cls : Expr) (args : List Expr)
  | stopIteration (value : Expr)
  | generatorExit
  | traceback (entries : List (String × UInt32))
  | emptyCell
  | cell (content : Expr)
  | nest (depth : Nat) (value : Expr)
  | repeated (s : String) (times : Nat)
  | range (size : Nat)
  | add (a b : Expr)
  | display (value : Expr)
  | joined (a b : Expr)
  | equal (a b : Expr)
  | identical (a b : Expr)
  | less (a b : Expr)
  | not (value : Expr)
  | isInstance (value cls : Expr)
  | handled
  | topFrame
  | property (value : Expr) (name : String)
  | parameter (index : Nat)
  | closureCell (index : Nat)
  | self
  | ownFrame
  | ownCode
  deriving Inhabited

end CoroutineEngine
