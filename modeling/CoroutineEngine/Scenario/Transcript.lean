import CoroutineEngine.Coroutine.Body
import CoroutineEngine.Operation.Thread
import CoroutineEngine.Scenario.Basic
import CoroutineEngine.Scenario.Body

/-!
# What scenarios show

A scenario drives its coroutines and prints every step; on a terminal the log lines of the engine come in
between.
-/

namespace CoroutineEngine.Scenario

/-! ## Printing -/

variable {L : Language}

/-- Prints a line. -/
def print (s : String) : Effect L Unit := emit (.said (.text s))

/-- A text with spaces up to a width. -/
def padded (width : Nat) (s : String) : String := s.pushn ' ' (width - s.length)

/-- The width of what stands in front of a result. -/
def labelWidth : Nat := 28

/-- The text of a reply: what was yielded, the value of an exhaustion signal, or what was raised. -/
def replyText : Reply → Effect L String
  | .ok v => do
    return "yielded " ++ (← rendered (·.debug v))
  | .error e => do
    if e.cls.isSubclassOf .stopIteration then
      return "StopIteration(" ++ (← rendered fun w => w.debug ((w.exception e).args.headD .none)) ++ ")"
    else
      return "raised " ++ (← rendered (·.exceptionText e))

/-- Prints a reply behind a label. -/
def report (label : String) (r : Reply) : Effect L Unit := do
  print (padded labelWidth label ++ " -> " ++ (← replyText r))

/-- Makes a request, prints its reply and lets go of it. -/
def showing (E : Engine L) (label : String) (request : Effect L Reply) : Effect L Unit := do
  let r ← request
  report label r
  E.releaseReply r

/-! ## The scenarios -/

/-- A coroutine of a code. -/
def start (code : CodeSpec L.Script) (parameters : List Value) : Effect L CoroutineId := do
  makeCoroutine
    { code := ← makeCode code, name := none, qualname := none, parameters, closure := []
      stackSize := none, reportChildren := none, failures := 0, lossIn := none }

/-- Prints the status of a coroutine. -/
def printStatus (label : String) (c : CoroutineId) : Effect L Unit := do
  print (label ++ (← recordOf c).status.display)

/-- Sends to a coroutine until it raises, at most so many times. -/
def sendAll (E : Engine L) (c : CoroutineId) : Nat → Effect L Unit
  | 0 => pure ()
  | n + 1 => do
    let r ← send E c .none
    let line ← Effect.gets fun w => (w.coroutine c).frame.map fun f => (w.frame f).line
    report ("send(None) [" ++ (← recordOf c).status.display ++ "]") r
    if let some line := line then
      print (padded labelWidth "" ++ "    suspended at line " ++ toString line.toNat)
    E.releaseReply r
    if let .ok _ := r then
      sendAll E c n

/-- Counts down from this number. -/
def countdownFrom : Nat := 3

open Script (language)

/-- The countdown. -/
def runCountdown (E : Engine language) : Effect language Unit := do
  let c ← start (codeOfBody "countdown" countdownBody) [.int (Int64.ofNat countdownFrom)]
  E.holding (.coroutine c) do
    print (← Effect.gets (·.coroutineRepr c))
    sendAll E c (countdownFrom + 1)
    showing E "send(None) again" (send E c .none)

/-- Sends to a coroutine of a body, closes it, and prints both under its name. -/
def showClosing (E : Engine language) (name : String) (c : CoroutineId) : Effect language Unit := do
  showing E (name ++ ": send(None)") (send E c .none)
  showing E (name ++ ": close()") (CoroutineEngine.close E c)
  printStatus (name ++ " status: ") c

/-- Closing. -/
def runClose (E : Engine language) : Effect language Unit := do
  let polite ← start (codeOfBody "polite" politeBody) []
  E.holding (.coroutine polite) do
    showClosing E "polite" polite
    let stubborn ← start (codeOfBody "stubborn" stubbornBody) []
    E.holding (.coroutine stubborn) (showClosing E "stubborn" stubborn)

/-- Prints the lines of a traceback. -/
def printTraceback (t : Traceback) : Effect L Unit := do
  for line in (t.format.splitOn "\n").dropLast do
    print line

/-- Throwing. -/
def runThrow (E : Engine language) : Effect language Unit := do
  let c ← start (codeOfBody "guarded" guardedBody) []
  E.holding (.coroutine c) do
    showing E "send(None)" (send E c .none)
    showing E "throw(ValueError, 'bad')"
      (do CoroutineEngine.throw E c (.exceptionClass .valueError) (← makeString "bad") .none)
    let r ← CoroutineEngine.throw E c (.exceptionClass .typeError) .none .none
    report "throw(TypeError)" r
    if let .error e := r then
      if let some t ← Effect.gets fun w => (w.exception e).traceback then
        printTraceback t
    printStatus "status: " c
    E.releaseReply r

/-- Prints what a coroutine awaits. -/
def printAwaited (c : CoroutineId) : Effect L Unit := do
  let text ← rendered fun w => w.debug ((w.coroutine c).awaiting.getD .none)
  print ("cr_await: " ++ text)

/-- Delegating. -/
def runAwait (E : Engine language) : Effect language Unit := do
  let inner ← start (codeOfBody "inner" innerBody) []
  let outer ← start (codeOfBody "outer" outerBody) [.coroutine inner]
  E.holding (.coroutine outer) do
    showing E "outer.send(None)" (send E outer .none)
    printAwaited outer
    showing E "outer.send(None)" (send E outer .none)
    printAwaited outer
    showing E "outer.send(None)" (send E outer .none)

/-- The mode of the hook that collects reports. -/
def collectingMode : String := "collect"

/-- Prints the report of an exception that nobody received. -/
def printUnraisable : Event → Effect L Unit
  | .unraisable object display _ _ _ => do
    print ("Exception ignored in: " ++ object)
    print display
  | _ => pure ()

/-- Leaking. -/
def runLeak (E : Engine language) : Effect language Unit := do
  let before ← Effect.gets (·.events.size)
  let previous ← swapHook (hookOf? language collectingMode)
  let c ← start (codeOfBody "leaky" leakyBody) []
  E.holding (.coroutine c) do
    showing E "send(None)" (send E c .none)
    print ("dropping " ++ (← Effect.gets (·.coroutineRepr c)) ++ " without close()")
  let _ ← swapHook previous
  for event in (← Effect.gets fun w => (w.events.extract before w.events.size).toList) do
    printUnraisable event

/-- Runs a scenario. -/
def run (E : Engine language) (s : Scenario) : Effect language Unit := do
  print ("== " ++ s.name ++ " ==")
  match s with
  | countdown => runCountdown E
  | close => runClose E
  | throw => runThrow E
  | await => runAwait E
  | leak => runLeak E

/-- More steps and deeper nesting than any scenario needs. -/
def ample : Nat := 1000000

/-- The world in which a scenario runs. -/
def world (settings : Settings) (logLevel : LogLevel) : World language :=
  { World.fresh ample with settings, logLevel := some logLevel }

/-- How a scenario ends under given settings, and its events. -/
def play (s : Scenario) (settings : Settings) (logLevel : LogLevel) : Outcome Unit × List Event :=
  let (outcome, w) := s.run (.ofDepth language ample) (world settings logLevel)
  (outcome, w.events.toList)

/-- The text of a log field. -/
def fieldText : Datum → String
  | .bool b => toString b
  | .int i => toString i
  | .text s => s
  | _ => ""

/-- A log line: the label of its level to the right, the message, and the fields. -/
def logText (level : LogLevel) (message : String) (fields : List (String × Datum)) : String :=
  "".pushn ' ' (5 - level.label.length) ++ level.label ++ " " ++ message
    ++ String.join (fields.map fun (name, d) => " " ++ name ++ "=" ++ fieldText d)

/-- The line that an event puts on a terminal. -/
def terminalLine? : Event → Option String
  | .said (.text s) => some s
  | .log level message fields => some (logText level message fields)
  | _ => none

/-- The line that a scenario itself prints. -/
def ownLine? : Event → Option String
  | .said (.text s) => some s
  | _ => none

/-- What a scenario prints under the settings of a fresh thread. -/
def lines (s : Scenario) : List String := (s.play .fresh .standard).2.filterMap ownLine?

/-- What a terminal shows of a scenario, log lines included, and the message of the panic that ends it,
if one does. -/
def onTerminal (s : Scenario) (settings : Settings) (logLevel : LogLevel) :
    List String × Option String :=
  let (outcome, events) := s.play settings logLevel
  (events.filterMap terminalLine?,
    match outcome with
    | .panic message => some message
    | .ok _ | .stop => none)

end CoroutineEngine.Scenario
