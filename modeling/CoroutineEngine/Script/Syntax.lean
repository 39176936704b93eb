import CoroutineEngine.Client.Operation

/-!
# Scripts

The language in which bodies are written down: statements with exceptions, handlers and cleanup.
-/

namespace CoroutineEngine.Script

mutual

/-- A statement.

* `yield`, `await`: suspend with a value, or delegate; what comes back goes to a local.
* `result`: ends the body with a value. `raise`: raises a class or an instance.
* `leaveLoop`: ends the innermost loop.
* `attempt`: runs a body; an exception goes to the first clause that takes it; the last block runs in
  any case, and wins if it ends otherwise than by its end.
* `branch`: one of two blocks. `loop`: a block again and again, or so many times.
* `perform`: an operation, whose value goes to a local. `panic`: dies. -/
inductive Statement
  | yield (value : Expr) (target : Option String)
  | await (value : Expr) (target : Option String)
  | result (value : Expr)
  | raise (value arg : Expr)
  | leaveLoop
  | attempt (body : List Statement) (clauses : List Clause) (cleanup : List Statement)
  | branch (condition : Expr) (yes no : List Statement)
  | loop (times : Option Nat) (body : List Statement)
  | perform (op : Operation (List Statement)) (target : Option String)
  | panic (message : String)

/-- A handler clause: the class it takes (any, if none is given), the local that keeps the exception,
whether the exception is the handled one meanwhile, and its block. -/
inductive Clause
  | mk (pattern : Option Expr) (target : Option String) (handles : Bool) (body : List Statement)

end

instance : Inhabited Statement := ⟨.leaveLoop⟩

instance : Inhabited Clause := ⟨.mk none none false []⟩

/-- A block of statements. -/
abbrev Block := List Statement

namespace Clause

/-- The class that a clause takes. -/
def pattern : Clause → Option Expr
  | mk pattern _ _ _ => pattern

/-- The local that keeps the exception. -/
def target : Clause → Option String
  | mk _ target _ _ => target

/-- Whether the exception is handled while the block runs. -/
def handles : Clause → Bool
  | mk _ _ handles _ => handles

/-- The block of a clause. -/
def body : Clause → Block
  | mk _ _ _ body => body

end Clause

end CoroutineEngine.Script
