import CoroutineEngine.Client.Expr

/-!
# Operations

The requests that a client puts to the engine. Operands are expressions, so a client never holds a
handle of its own: handles live in slots, in the locals of an activation, and inside objects.
-/

namespace CoroutineEngine

/-- A code object to be made; `S` is the type of the programs that bodies run. -/
structure CodeSpec (S : Type) where
  name : String
  qualname : Option String
  firstLine : Option UInt32
  generatorStop : Option Bool
  body : S
  deriving Inhabited

/-- Where the code of a coroutine comes from: made on the spot, or the value of an expression. -/
inductive CodeSource (S : Type)
  | spec (code : CodeSpec S)
  | value (code : Expr)

instance {S : Type} : Inhabited (CodeSource S) := ⟨.value .none⟩

/-- A coroutine to be built. `failures` is the number of fiber creations that fail before one
succeeds, `lostAt` the number of the switch on which its fiber is lost. -/
structure CoroutineSpec (S : Type) where
  code : CodeSource S
  name : Option String
  qualname : Option String
  parameters : List Expr
  closure : List Expr
  stackSize : Option Nat
  reportChildren : Option Bool
  failures : Option Nat
  lostAt : Option Nat

/-- The operands of a pending triple. -/
structure TripleSpec where
  kind : Expr
  value : Expr
  traceback : Expr

/-- A fiber of integers to be made: after each input it hands out the running total plus the next
summand, and completes when the summands are used up. -/
structure FiberSpec where
  summands : List Int64
  stackSize : Nat
  byFactory : Bool

/-- A request to the engine. -/
inductive Operation (S : Type)
  | makeCode (code : CodeSpec S)
  | makeCoroutine (spec : CoroutineSpec S)
  | send (on value : Expr)
  | throw (on : Expr) (triple : TripleSpec)
  | throwException (on value : Expr)
  | close (on : Expr)
  | step (on : Expr)
  | wrap (on : Expr)
  | iterate (on : Expr) (steps : Nat)
  | getAttribute (on : Expr) (name : String)
  | setAttribute (on : Expr) (name : String) (value : Expr)
  | setName (on value : Expr)
  | setQualname (on value : Expr)
  | downgrade (on : Expr) (weak : String)
  | upgrade (weak : String)
  | isAlive (weak : String)
  | handleCount (slot : String)
  | evaluate (value : Expr)
  | setSlot (slot : String) (value : Expr)
  | dropSlot (slot : String)
  | say (value : Expr)
  | describe (value : Expr)
  | compare (a b : Expr)
  | defineClass (name : String) (base : Expr)
  | compareClasses (a b : Expr)
  | inspect (on : Expr)
  | setCause (on value : Expr)
  | setContext (on value : Expr)
  | setTraceback (on value : Expr)
  | pushTraceback (on value : Expr)
  | setCell (on value : Expr)
  | clearCell (on : Expr)
  | sameCell (on value : Expr)
  | makeFrame (code : CodeSource S)
  | setFrameLine (on value : Expr)
  | setFrameBack (on value : Expr)
  | normalize (triple : TripleSpec)
  | makePending (triple : TripleSpec)
  | makeTransfer (triple : TripleSpec)
  | tryInputs (parameters closure : List Expr) (index : Nat)
  | setError (value : Expr)
  | fetchError
  | currentError
  | restoreError (triple : TripleSpec)
  | setHandled (value : Expr)
  | pushFrame (code : CodeSource S)
  | popFrame
  | setTopFrame (value : Expr)
  | listFrames
  | writeUnraisable (object : String) (value : Expr)
  | installHook (mode : String)
  | track (id : Int)
  | untrack (id : Int)
  | isTracked (id : Int)
  | registryStats
  | activate (stackSize : Option Nat) (reportChildren : Option Bool)
  | makeFiber (name : String) (spec : FiberSpec)
  | switchFiber (name : String) (value : Int64)
  | releaseFiber (name : String)
  | inspectFiber (name : String)
  | setLine (line : UInt32)
  | enterHandler (value : Expr)
  | leaveHandler (value : Expr)

instance {S : Type} : Inhabited (Operation S) := ⟨.fetchError⟩

end CoroutineEngine
