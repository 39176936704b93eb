import CoroutineEngine.Configuration.Loading
import CoroutineEngine.Scenario.Basic

/-!
# Command lines

A command line names a command and may give options before and after it, each at most once in either
place; the one after the command counts. The arguments are read one by one, so what asks for help is
answered unless something before it was wrong. The value of an option is looked at only when the next
option or the end of its place is reached.

Results:
* `parse_nil`: a command is required.
-/

namespace CoroutineEngine.CommandLine

open CoroutineEngine.Configuration (Overlay)

/-! ## Definitions -/

/-- What a program run is asked to do. -/
inductive Command
  | demo (s : Scenario)
  | config
  | version
  deriving DecidableEq, Repr

/-- A place that arguments belong to: the program itself, or one of its commands. -/
inductive Topic
  | program
  | demo
  | config
  | version
  | help
  deriving DecidableEq, Repr

/-- The meaning of a command line: a command with a configuration file and what lies over it, a request
for help or for the version, or nothing that makes sense. -/
inductive Request
  | run (command : Command) (file : Option String) (overlay : Overlay)
  | help (topic : Topic) (long : Bool)
  | version
  | refused
  deriving DecidableEq, Repr

/-- A value that was given but not looked at yet. -/
inductive Pending
  | file (text : String)
  | stackSize (text : String)
  | scenario (text : String)
  deriving DecidableEq, Repr

/-- The options of one place. -/
structure Options where
  file : Option String
  stackSize : Option Nat
  verbose : Bool
  scenario : Option Scenario
  pending : Option Pending
  deriving Inhabited

namespace Options

/-- No options. -/
def none : Options := ⟨.none, .none, false, .none, .none⟩

/-- Looks at a value that waits. -/
def resolve (o : Options) : Option Options :=
  match o.pending with
  | .none => some o
  | some (.file text) =>
    if text.isEmpty || o.file.isSome then .none else some { o with file := some text, pending := .none }
  | some (.stackSize text) =>
    if o.stackSize.isSome then .none
    else (Count.ofString? Count.limit64 text).map
      fun n => { o with stackSize := some n, pending := .none }
  | some (.scenario text) =>
    (Scenario.ofName? false text).map fun s => { o with scenario := some s, pending := .none }

/-- Looks at what waits, then lets another value wait. -/
def postpone (o : Options) (p : Pending) : Option Options :=
  o.resolve.map fun o => { o with pending := some p }

/-- Takes a value over at once. -/
def take (o : Options) (p : Pending) : Option Options := (o.postpone p).bind resolve

/-- Asks for everything to be logged. -/
def raiseVerbosity (o : Options) : Option Options :=
  o.resolve.bind fun o => if o.verbose then .none else some { o with verbose := true }

/-- Whether a scenario was given. -/
def namesScenario (o : Options) : Bool :=
  o.scenario.isSome || match o.pending with
    | some (.scenario _) => true
    | _ => false

end Options

/-- The state of reading: the place that is reached, its options, those of the program, and whether
nothing is an option any more. -/
structure Reading where
  topic : Topic
  options : Options
  outer : Options
  verbatim : Bool

/-- The option that a name stands for, if it takes a value. -/
def valued? : String → Option (String → Pending)
  | "config" => some .file
  | "stack-size" => some .stackSize
  | _ => none

/-- The place of a command. -/
def topic? : String → Option Topic
  | "demo" => some .demo
  | "config" => some .config
  | "version" => some .version
  | _ => none

/-- What is asked for by the names after the word for help. -/
def helpRequest : List String → Request
  | [] => .help .program true
  | ["help"] => .help .help true
  | [name] => (topic? name).elim .refused fun topic => .help topic true
  | _ => .refused

/-- The command of a place, if its options are complete. -/
def command? (topic : Topic) (o : Options) : Option Command :=
  match topic with
  | .demo => o.scenario.map .demo
  | .config => some .config
  | .version => some .version
  | .program | .help => none

/-- The meaning of what was read, at the end of the arguments. -/
def finish (r : Reading) : Request :=
  match r.options.resolve with
  | none => .refused
  | some o =>
    match command? r.topic o, r.outer.resolve with
    | some command, some outer =>
      .run command (o.file <|> outer.file) ⟨o.stackSize <|> outer.stackSize, o.verbose || outer.verbose⟩
    | _, _ => .refused

/-- Whether an argument can be the value of the option before it. -/
def isValue (arg : String) : Bool := !arg.startsWith "-" || arg = "-"

/-- Reads letters of short options; gives the options, or the end of reading. -/
def letters (topic : Topic) (o : Options) : List Char → Except Request Options
  | [] => .ok o
  | 'v' :: rest =>
    match o.raiseVerbosity with
    | some o => letters topic o rest
    | none => .error .refused
  | 'h' :: _ => .error (if o.resolve.isSome then .help topic false else .refused)
  | 'V' :: _ =>
    .error (if o.resolve.isSome ∧ topic = .program then .version else .refused)
  | _ :: _ => .error .refused

/-- A long option without a value. -/
def longFlag (topic : Topic) (o : Options) (name : String) : Except Request Options :=
  match name with
  | "verbose" => o.raiseVerbosity.elim (.error .refused) .ok
  | "help" => .error (if o.resolve.isSome then .help topic true else .refused)
  | "version" => .error (if o.resolve.isSome ∧ topic = .program then .version else .refused)
  | _ => .error .refused

/-- A long option whose value is in the same argument. -/
def attached (o : Options) (name value : String) : Except Request Options :=
  match valued? name with
  | some make => (o.take (make value)).elim (.error .refused) .ok
  | none => .error .refused

/-- A name or value that is no option; at the program itself it must name a command. -/
def word (r : Reading) (arg : String) : Except Request Reading :=
  match r.topic with
  | .program =>
    match if r.verbatim then none else topic? arg with
    | some topic => .ok { topic, options := .none, outer := r.options, verbatim := false }
    | none => .error .refused
  | .demo =>
    if r.options.namesScenario then .error .refused
    else (r.options.postpone (.scenario arg)).elim (.error .refused)
      fun options => .ok { r with options }
  | .config | .version | .help => .error .refused

/-- Reads the arguments from left to right. -/
def read (r : Reading) : List String → Request
  | [] => finish r
  | arg :: rest =>
    let goOn : Except Request Options → Request
      | .ok options => read { r with options } rest
      | .error request => request
    if r.verbatim then
      match word r arg with
      | .ok r => read r rest
      | .error request => request
    else if arg = "--" then read { r with verbatim := true } rest
    else if arg.startsWith "--" then
      let name := (arg.drop 2).toString
      match name.splitOn "=" with
      | first :: second :: more => goOn (attached r.options first ("=".intercalate (second :: more)))
      | _ =>
        match valued? name with
        | none => goOn (longFlag r.topic r.options name)
        | some make =>
          match rest with
          | [] => .refused
          | value :: rest =>
            if isValue value then
              match r.options.postpone (make value) with
              | some options => read { r with options } rest
              | none => .refused
            else .refused
    else if arg.startsWith "-" && arg ≠ "-" then goOn (letters r.topic r.options (arg.toList.drop 1))
    else if arg = "help" && r.topic = .program then helpRequest rest
    else
      match word r arg with
      | .ok r => read r rest
      | .error request => request

/-- The meaning of a command line. -/
def parse (args : List String) : Request := read ⟨.program, .none, .none, false⟩ args

/-! ## Helpers -/

theorem parse_nil : parse [] = .refused := rfl

end CoroutineEngine.CommandLine
