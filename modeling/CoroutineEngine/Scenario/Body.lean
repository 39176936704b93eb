import CoroutineEngine.Script.Machine

/-!
# The bodies of the scenarios
-/

namespace CoroutineEngine.Scenario

open Script (Block)

/-- The code of a body. -/
def codeOfBody (name : String) (body : Block) : CodeSpec Block := ⟨name, none, none, none, body⟩

/-- Counts from its parameter down to 1 and returns a text. -/
def countdownBody : Block :=
  [.perform (.evaluate (.parameter 0)) (some "n"),
    .loop none
      [.branch (.less (.int 0) (.localVar "n")) [] [.leaveLoop],
        .perform (.setLine 3) none,
        .yield (.localVar "n") none,
        .perform (.evaluate (.add (.localVar "n") (.int (-1)))) (some "n")],
    .perform (.setLine 5) none,
    .result (.str "liftoff")]

/-- Yields the same text for ever. -/
def politeBody : Block := [.loop none [.yield (.str "tick") none]]

/-- Yields for ever, and once more when it is to be closed. -/
def stubbornBody : Block :=
  [.loop none
    [.attempt [.yield (.str "tick") none]
      [.mk (some (.builtinClass "GeneratorExit")) none false [.yield (.str "still here") none]] []]]

/-- Recovers from one kind of error and says so. -/
def guardedBody : Block :=
  [.attempt [.yield (.str "ready") none, .result .none]
    [.mk (some (.builtinClass "ValueError")) (some "e") true
      [.yield (.joined (.str "recovered from ValueError: ") (.localVar "e")) none]] [],
    .result (.str "finished")]

/-- Yields once and returns a number. -/
def innerBody : Block := [.yield (.str "inner step") none, .result (.int 42)]

/-- Awaits its parameter, tells its result, and returns it. -/
def outerBody : Block :=
  [.await (.parameter 0) (some "result"),
    .yield (.joined (.str "inner returned ") (.localVar "result")) none,
    .result (.localVar "result")]

/-- Fails when it is to be closed. -/
def leakyBody : Block :=
  [.attempt [.yield (.int 1) none]
    [.mk (some (.builtinClass "GeneratorExit")) none false
      [.raise (Script.errorExpr "RuntimeError" "cleanup failed") .none]] []]

end CoroutineEngine.Scenario
