import CoroutineEngine.Client.Language
import CoroutineEngine.Script.Syntax

/-!
# Running scripts

A script is a client of the engine: a control stack, and what to do with the next answer. Values live in
the activation: the result of a `result` statement, an exception on its way and, while a clause handles
an exception, the one that was handled before are held values, the newest on top.

Results:
* `next_raised`: an exception always unwinds the control stack.
-/

namespace CoroutineEngine.Script

/-! ## Definitions -/

/-- How a block ends. A result and an exception are on top of the held values. -/
inductive Signal
  | normal
  | broken
  | returned
  | raised
  deriving DecidableEq, Repr

/-- The number of held values that a signal carries. -/
def Signal.carried : Signal → Nat
  | normal | broken => 0
  | returned | raised => 1

/-- A level of the control stack: a block with its remaining statements, a loop with the rounds that are
left, an attempt whose body runs, a clause whose block runs, and a cleanup with the signal that waits
for its end. -/
inductive Level
  | block (rest : Block)
  | loop (left : Option Nat) (body : Block)
  | attempt (clauses : List Clause) (cleanup : Block)
  | clause (handles : Bool) (cleanup : Block)
  | cleanup (waiting : Signal)

/-- What the machine does with the next answer. -/
inductive Phase
  | run
  | unwind (s : Signal)
  | branch (yes no : Block)
  | select (c : Clause) (rest : List Clause) (cleanup : Block)
  | bound (c : Clause) (cleanup : Block)
  | entered (c : Clause) (cleanup : Block)
  | left (s : Signal) (cleanup : Block)

/-- The control state of a script. -/
structure Machine where
  phase : Phase
  levels : List Level

/-- The command of a machine with its next state. -/
abbrev Move := Command Block × Machine

namespace Machine

/-- Starts a script. -/
def start (script : Block) : Machine := ⟨.run, [.block script]⟩

/-- Runs a cleanup block, after which a signal goes on. -/
def cleanUp (s : Signal) (cleanup : Block) (levels : List Level) : Move :=
  (.pass, ⟨.run, .block cleanup :: .cleanup s :: levels⟩)

/-- Runs the block of a clause. -/
def runClause (c : Clause) (cleanup : Block) (levels : List Level) : Move :=
  (.pass, ⟨.run, .block c.body :: .clause c.handles cleanup :: levels⟩)

/-- Gives the caught exception away before the block of the clause runs: it becomes the handled one, if
the clause asks for it, and is released otherwise. -/
def enterClause (c : Clause) (cleanup : Block) (levels : List Level) : Move :=
  (if c.handles then .enter else .discard 0, ⟨.entered c cleanup, levels⟩)

/-- Keeps the caught exception in a local, if the clause asks for it. -/
def takeClause (c : Clause) (cleanup : Block) (levels : List Level) : Move :=
  match c.target with
  | some target => (.bind target, ⟨.bound c cleanup, levels⟩)
  | none => enterClause c cleanup levels

/-- Looks for a clause that takes the exception on top of the held values. -/
def selectClause (clauses : List Clause) (cleanup : Block) (levels : List Level) : Move :=
  match clauses with
  | [] => cleanUp .raised cleanup levels
  | c :: rest =>
    match c.pattern with
    | some cls => (.caught cls, ⟨.select c rest cleanup, levels⟩)
    | none => takeClause c cleanup levels

/-- Leaves a clause with a signal. The exception that was handled before lies below what the signal
carries. -/
def leaveClause (s : Signal) (handles : Bool) (cleanup : Block) (levels : List Level) : Move :=
  if handles then (.leave s.carried, ⟨.left s cleanup, levels⟩) else cleanUp s cleanup levels

/-- Executes a statement. -/
def runStatement (statement : Statement) (levels : List Level) : Move :=
  match statement with
  | .yield value target => (.yield value target, ⟨.run, levels⟩)
  | .await value target => (.await value target, ⟨.run, levels⟩)
  | .result value => (.hold value, ⟨.unwind .returned, levels⟩)
  | .raise value arg => (.raise value arg, ⟨.unwind .raised, levels⟩)
  | .leaveLoop => (.pass, ⟨.unwind .broken, levels⟩)
  | .attempt body clauses cleanup =>
    (.pass, ⟨.run, .block body :: .attempt clauses cleanup :: levels⟩)
  | .branch condition yes no => (.test condition, ⟨.branch yes no, levels⟩)
  | .loop times body => (.pass, ⟨.run, .loop times body :: levels⟩)
  | .perform op target => (.perform op target, ⟨.run, levels⟩)
  | .panic message => (.panic message, ⟨.run, levels⟩)

/-- Goes on with the control stack. A script that comes to its end gives the empty value. -/
def run (levels : List Level) : Move :=
  match levels with
  | [] => (.hold .none, ⟨.unwind .returned, []⟩)
  | .block [] :: rest => (.pass, ⟨.run, rest⟩)
  | .block (statement :: more) :: rest => runStatement statement (.block more :: rest)
  | .loop (some 0) _ :: rest => (.pass, ⟨.run, rest⟩)
  | .loop left body :: rest =>
    (.pass, ⟨.run, .block body :: .loop (left.map (· - 1)) body :: rest⟩)
  | .attempt _ cleanup :: rest => cleanUp .normal cleanup rest
  | .clause handles cleanup :: rest => leaveClause .normal handles cleanup rest
  | .cleanup .normal :: rest => (.pass, ⟨.run, rest⟩)
  | .cleanup s :: rest => (.pass, ⟨.unwind s, rest⟩)

/-- Unwinds the control stack with a signal. -/
def unwind (s : Signal) (levels : List Level) : Move :=
  match levels with
  | [] =>
    match s with
    | .returned => (.finish, ⟨.run, []⟩)
    | .raised => (.fail, ⟨.run, []⟩)
    | .normal | .broken => (.hold .none, ⟨.unwind .returned, []⟩)
  | .block _ :: rest => (.pass, ⟨.unwind s, rest⟩)
  | .loop .. :: rest =>
    if s = .broken then (.pass, ⟨.run, rest⟩) else (.pass, ⟨.unwind s, rest⟩)
  | .attempt clauses cleanup :: rest =>
    if s = .raised then selectClause clauses cleanup rest else cleanUp s cleanup rest
  | .clause handles cleanup :: rest => leaveClause s handles cleanup rest
  | .cleanup waiting :: rest =>
    if waiting.carried = 0 then (.pass, ⟨.unwind s, rest⟩)
    else (.discard s.carried, ⟨.unwind s, rest⟩)

/-- The next command after an answer that is no exception. -/
def goOn (m : Machine) (truth : Bool) : Move :=
  match m.phase with
  | .run => run m.levels
  | .unwind s => unwind s m.levels
  | .branch yes no => (.pass, ⟨.run, .block (if truth then yes else no) :: m.levels⟩)
  | .select c rest cleanup =>
    if truth then takeClause c cleanup m.levels else selectClause rest cleanup m.levels
  | .bound c cleanup => enterClause c cleanup m.levels
  | .entered c cleanup => runClause c cleanup m.levels
  | .left s cleanup => cleanUp s cleanup m.levels

/-- The next command of a machine. -/
def next (m : Machine) (answer : Answer) : Move :=
  match answer with
  | .raised _ => unwind .raised m.levels
  | .truth b => m.goOn b
  | .start | .value _ | .done => m.goOn false

/-! ## Helpers -/

end Machine

/-! ## The language -/

/-- An exception with a message. -/
def errorExpr (cls message : String) : Expr := .exception (.builtinClass cls) [.str message]

/-- What the hook of a mode does with a report, besides noting it. -/
def reaction (mode : String) : Block :=
  match mode with
  | "nest" => [.perform (.writeUnraisable "nested" (errorExpr "RuntimeError" "from hook")) none]
  | "replace" => [.perform (.installHook "second") none]
  | "dirty" => [.perform (.setError (errorExpr "RuntimeError" "left by hook")) none]
  | "victim" => [.perform (.dropSlot "victim") none]
  | "keep" => [.perform (.setSlot "kept" (.localVar "exception")) none]
  | _ => []

/-- The language of scripts. -/
def language : Language where
  Script := Block
  State := Machine
  start := Machine.start
  next := Machine.next
  reaction := reaction

end CoroutineEngine.Script
