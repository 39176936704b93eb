import CoroutineEngine.Report.Rendering

/-!
# Pictures of values and data about objects

What a client is told about an object without changing it.
-/

namespace CoroutineEngine

variable {L : Language}

/-! ## Pictures -/

/-- How many levels of a value are shown. -/
def pictureLevels : Nat := 111

/-- How many causes and contexts are followed on the way from a value down to one of its parts. -/
def pictureLinks : Nat := 2

/-- How many are followed from the value of a pending triple. -/
def pendingPictureLinks : Nat := 1

namespace World

/-- An exception as it looks now: `part` shows an argument and `link` a cause or a context. Nothing if a
text in it has no end. -/
def exceptionPicture? (w : World L) (part : Value → Option Picture)
    (link : Exception → Option Picture) (e : Exception) : Option Picture := do
  let r := w.exception e
  let display ← w.exceptionText e
  let args ← r.args.mapM part
  let chained : Option Exception → Option (Option Picture)
    | none => some none
    | some x => some <$> link x
  return .exception e.cls.name args display (r.traceback.map (·.picture)) r.suppressContext
    (← chained r.cause) (← chained r.context)

/-- A value as it looks now. `levels` bounds the levels that are shown; `link` shows a cause or a context
of an exception whose own parts have so many levels. Nothing if a text in it has no end. -/
def valuePicture? (w : World L) (link : Nat → Exception → Option Picture) :
    Nat → Value → Option Picture
  | 0, _ => some .elided
  | levels + 1, v =>
    match v with
    | .none => some .none
    | .bool b => some (.bool b)
    | .int i => some (.int i)
    | .float x => some (.float (Decimal.floatText x))
    | .str t => some (.text t.content)
    | .tuple _ items => (items.mapM (w.valuePicture? link levels)).map .tuple
    | .exceptionClass c => some (.exceptionClass c.name)
    | .exception e => w.exceptionPicture? (w.valuePicture? link levels) (link (levels - 1)) e
    | .traceback t => some (.traceback t.picture)
    | .cell c =>
      match (w.cell c).content with
      | some content => (w.valuePicture? link levels content).map fun p => .cell (some p)
      | none => some (.cell none)
    | .code c => some (.code c.name.content c.qualname.content c.firstLine c.generatorStop)
    | .frame f => some (.frame f.code.qualname.content (w.frame f).line)
    | .coroutine c =>
      some (.coroutine (w.coroutine c).qualname.content (w.coroutine c).status.display)
    | .wrapper x => some (.wrapper (w.coroutine (w.wrapper x).coroutine).qualname.content)

/-- A cause or a context as it looks now, if so many links may still be followed; its arguments have so
many levels. A link is shown even where values are too deep to be shown. -/
def linkPicture? (w : World L) : Nat → Nat → Exception → Option Picture
  | 0, _, _ => some .elided
  | links + 1, levels, e =>
    w.exceptionPicture? (w.valuePicture? (w.linkPicture? links) levels)
      (w.linkPicture? links (levels - 1)) e

/-- A value as it looks now. -/
def picture (w : World L) (v : Value) : Option Picture :=
  w.valuePicture? (w.linkPicture? pictureLinks) pictureLevels v

/-- An exception as the value of a pending triple shows it. -/
def pendingValuePicture (w : World L) (e : Exception) : Option Picture :=
  w.valuePicture? (w.linkPicture? pendingPictureLinks) pictureLevels (.exception e)

end World

/-- A value as it looks now; if a text in it has no end, the run ends. -/
def pictureOf (v : Value) : Effect L Picture := fun w =>
  match w.picture v with
  | some p => (.ok p, w)
  | none => (.stop, w)

/-- Data that may hold an endless text. -/
def inspected (data : World L → Option Datum) : Effect L Datum := fun w =>
  match data w with
  | some d => (.ok d, w)
  | none => (.stop, w)

/-! ## Data -/

namespace World

/-- The kinds of the children that a coroutine reports to a collector: cells, parameters, frame, awaited
value and primed exception, or nothing if it was built not to report. -/
def coroutineChildren (w : World L) (c : CoroutineId) : List String :=
  let r := w.coroutine c
  if r.reportChildren then
    r.inputs.kinds ++ r.frame.toList.map (fun _ => "frame") ++ r.awaiting.toList.map (·.typeName)
      ++ ((r.pending.bind (·.value)).toList.map fun _ => "exception")
  else []

/-- The kinds of the children that a wrapper reports. -/
def wrapperChildren : List String := ["compiled_coroutine"]

/-- The number of frames from one frame down to the bottom of its stack. -/
def frameDepth (w : World L) (f : Option Frame) : Option Nat := (w.callers? f).map (·.length)

/-- A pending triple with the classes it belongs to. -/
def pendingData (w : World L) (p : PendingException) : Option Datum := do
  let value ← match p.value with
    | some e => .picture <$> w.pendingValuePicture e
    | none => some .null
  let debug ← w.pendingDebug p
  return .record
    [("kind", .text p.kind.name), ("value", value),
      ("tb", .ofTraceback? (p.traceback.map (·.picture))), ("debug", .text debug),
      ("matches", .list ([.root, .exception, .generatorExit, .stopIteration].map
        fun cls => .bool (p.isA cls)))]

/-- The sentences of the causes of an exception, the next one first, at most `n`. -/
def causeTexts (w : World L) : Nat → Exception → Option (List String)
  | 0, _ => some []
  | n + 1, e =>
    match (w.exception e).cause with
    | none => some []
    | some cause => do
      let text ← w.exceptionText cause
      let rest ← w.causeTexts n cause
      return text :: rest

/-- Data about a coroutine. -/
def coroutineData (w : World L) (c : CoroutineId) : Option Datum := do
  let r := w.coroutine c
  let frame ← match r.frame with
    | none => some .null
    | some f => do
      let depth ← w.frameDepth r.frame
      pure <| .list [.text (w.frameText f), .ofNat depth,
        .ofText? ((w.frame f).back.map w.frameText)]
  let awaited ← w.picture (r.awaiting.getD .none)
  return .record
    [("status", .text r.status.display), ("running", .bool r.running),
      ("finalized", .bool r.finalized), ("name", .text r.name.content),
      ("qualname", .text r.qualname.content), ("code", .text r.code.name.content), ("frame", frame),
      ("await", .picture awaited), ("params", .ofNat r.inputs.parameters.length),
      ("cells", .ofNat r.inputs.closure.length), ("children", .ofTexts (w.coroutineChildren c)),
      ("tracked", .bool (w.registry.isTracked (.coroutine c))), ("repr", .text (w.coroutineRepr c)),
      ("debug", .text (w.coroutineDebug c))]

/-- Data about an exception. -/
def exceptionData (w : World L) (e : Exception) : Option Datum := do
  let r := w.exception e
  let display ← w.exceptionText e
  let repr ← w.debug (.exception e)
  let message ← w.message e
  let stopValue ← w.picture (r.args.headD .none)
  let sources ← w.causeTexts 4 e
  return .record
    [("display", .text display), ("repr", .text repr), ("debug", .text repr),
      ("message", .text message), ("nargs", .ofNat r.args.length),
      ("stop", .bool (e.cls.isSubclassOf .stopIteration)),
      ("exit", .bool (e.cls.isSubclassOf .generatorExit)), ("stop_value", .picture stopValue),
      ("suppress", .bool r.suppressContext), ("sources", .ofTexts sources),
      ("tb", .ofTraceback? (r.traceback.map (·.picture)))]

/-- Data about an object; nothing is known about a plain value. -/
def inspect (w : World L) (v : Value) : Option Datum :=
  match v with
  | .coroutine c => w.coroutineData c
  | .wrapper x =>
    some (.record [("debug", .text (w.wrapperText x)), ("children", .ofTexts wrapperChildren)])
  | .exception e => w.exceptionData e
  | .exceptionClass c =>
    some (.record [("name", .text c.name), ("debug", .text c.debug), ("display", .text c.name),
      ("bases", .ofTexts (c.lineage.map (·.name)))])
  | .traceback t =>
    some (.record [("name", .text t.head.name), ("line", .ofNat t.head.line.toNat),
      ("depth", .ofNat t.entries.length), ("format", .text t.format), ("debug", .text t.debug)])
  | .frame f => do
    let depth ← w.frameDepth (some f)
    return .record [("debug", .text (w.frameText f)), ("depth", .ofNat depth),
      ("back", .ofText? ((w.frame f).back.map w.frameText)), ("code", .text f.code.name.content)]
  | .code c => some (.record [("debug", .text c.debug)])
  | .cell c => do
    let debug ← w.debug v
    return .record [("debug", .text debug), ("bound", .bool (w.cell c).content.isSome)]
  | _ => some .null

/-- Data about any value. -/
def describe (w : World L) (v : Value) : Option Datum := do
  let debug ← w.debug v
  let display ← w.display v
  return .record
    [("type", .text v.typeName), ("debug", .text debug), ("display", .text display),
      ("int", match v.asInt? with | some i => .int i.toInt | none => .null),
      ("str", .ofText? v.asText?), ("none", .bool v.isNone),
      ("exc", .bool v.asException?.isSome), ("coro", .bool v.asCoroutine?.isSome)]

end World

end CoroutineEngine
