import CoroutineEngine.Coroutine.Record
import CoroutineEngine.Fiber.Counting
import CoroutineEngine.Registry
import CoroutineEngine.Report.Picture
import CoroutineEngine.World.Table

/-!
# The world of one thread

Everything that a run can read or change: the objects behind the handles, with the number of handles
each has, the ambient state of the thread, the registry, the slots of the client, and the events so
far.
-/

namespace CoroutineEngine

/-! ## Objects -/

/-- An exception instance. A cause and a context are attached at most once. -/
structure ExceptionRecord where
  handles : Nat
  args : List Value
  cause : Option Exception
  context : Option Exception
  suppressContext : Bool
  traceback : Option Traceback
  deriving Inhabited

namespace ExceptionRecord

/-- What an instance owns, in the order of release. -/
def owned (r : ExceptionRecord) : List Value :=
  r.args ++ r.cause.toList.map .exception ++ r.context.toList.map .exception

end ExceptionRecord

/-- A cell; an unbound one has no content. -/
structure CellRecord where
  handles : Nat
  content : Option Value
  deriving Inhabited

/-- An awaiter: it owns one handle of its coroutine. -/
structure WrapperRecord where
  handles : Nat
  coroutine : CoroutineId
  deriving Inhabited

/-- The record with one more handle, unless the wrapper was torn down. -/
def WrapperRecord.retained (r : WrapperRecord) : WrapperRecord :=
  if r.handles = 0 then r else { r with handles := r.handles + 1 }

/-- The changing part of a frame: its line and the frame it returns to. -/
structure FrameRecord where
  line : UInt32
  back : Option Frame
  deriving Inhabited

/-! ## Ambient state -/

/-- A hook for errors that nobody can receive: it notes the report under its mode and then runs a
program. It may own handles of its own. -/
structure Hook (L : Language) where
  mode : String
  program : L.Script
  owned : List Value

/-- What a driver and a body implicitly share: the error slot, the handled exception, the top of the
frame stack, and the hook. `borrowed` is set while the state is being changed; using it then is an
error of the program. `asked` is ghost state: the hooks that were asked for so far, the last one first. -/
structure Ambient (L : Language) where
  error : Option PendingException
  handled : Option Exception
  top : Option Frame
  hook : Option (Hook L)
  borrowed : Bool
  asked : List (Option (Hook L))
  deriving Inhabited

namespace Ambient

variable {L : Language}

/-- The state of a fresh thread. -/
def fresh : Ambient L := ⟨none, none, none, none, false, []⟩

end Ambient

/-! ## Named places -/

/-- Values by name, sorted by name. -/
abbrev Named (α : Type) := List (String × α)

namespace Named

variable {α : Type}

/-- Puts a value under a name and gives back the old one. -/
def insert : Named α → String → α → Named α × Option α
  | [], name, a => ([(name, a)], none)
  | (n, old) :: rest, name, a =>
    if n = name then ((n, a) :: rest, some old)
    else if name < n then ((name, a) :: (n, old) :: rest, none)
    else
      let (rest', previous) := insert rest name a
      ((n, old) :: rest', previous)

/-- Takes the value of a name away. -/
def remove : Named α → String → Named α × Option α
  | [], _ => ([], none)
  | (n, a) :: rest, name =>
    if n = name then (rest, some a)
    else
      let (rest', found) := remove rest name
      ((n, a) :: rest', found)

end Named

/-! ## Settings -/

/-- The settings that coroutines are built under. -/
structure Settings where
  stackSize : Nat
  reportChildren : Bool
  deriving DecidableEq, Inhabited, Repr

/-- The stack size of a coroutine's fiber unless something else is asked for. -/
def defaultStackSize : Nat := 256 * 1024

namespace Settings

/-- The settings of a fresh thread. -/
def fresh : Settings := ⟨defaultStackSize, true⟩

end Settings

/-! ## The world -/

/-- The world. `serial` is the next fresh identity; `tuples` counts the handles of each tuple; `clock`
is the number of steps that clients may still take before the run is cut. -/
structure World (L : Language) where
  programs : Array L.Script
  frames : Table FrameRecord
  tuples : Table Nat
  exceptions : Table ExceptionRecord
  cells : Table CellRecord
  coroutines : Table (CoroutineRecord L)
  wrappers : Table WrapperRecord
  serial : Nat
  ambient : Ambient L
  registry : Registry
  slots : Named Value
  weaks : Named CoroutineId
  fibers : Named CountingFiber
  settings : Settings
  logLevel : Option LogLevel
  events : Array Event
  clock : Nat

namespace World

variable {L : Language}

/-- The world before anything happened. -/
def fresh (clock : Nat) : World L where
  programs := #[]
  frames := .empty
  tuples := .empty
  exceptions := .empty
  cells := .empty
  coroutines := .empty
  wrappers := .empty
  serial := 1
  ambient := .fresh
  registry := .empty
  slots := []
  weaks := []
  fibers := []
  settings := .fresh
  logLevel := none
  events := #[]
  clock := clock

instance : Inhabited (World L) := ⟨fresh 0⟩

/-- The record of an exception. -/
def exception (w : World L) (e : Exception) : ExceptionRecord := w.exceptions.get e.index

/-- The record of a cell. -/
def cell (w : World L) (c : CellId) : CellRecord := w.cells.get c.index

/-- The record of a coroutine. -/
def coroutine (w : World L) (c : CoroutineId) : CoroutineRecord L := w.coroutines.get c.index

/-- The record of a wrapper. -/
def wrapper (w : World L) (x : WrapperId) : WrapperRecord := w.wrappers.get x.index

/-- The changing part of a frame. -/
def frame (w : World L) (f : Frame) : FrameRecord := w.frames.get f.index

/-- The coroutines that are finished. -/
def finished (w : World L) : List CoroutineId :=
  ((List.range w.coroutines.size).map fun n => ⟨n⟩).filter fun c => (w.coroutine c).status == .finished

/-- Whether a coroutine has not been torn down. -/
def isAlive (w : World L) (c : CoroutineId) : Bool := (w.coroutine c).handles != 0

/-- Changes the record of an exception. -/
def modifyException (w : World L) (e : Exception) (f : ExceptionRecord → ExceptionRecord) : World L :=
  { w with exceptions := w.exceptions.modify e.index f }

/-- Changes the record of a cell. -/
def modifyCell (w : World L) (c : CellId) (f : CellRecord → CellRecord) : World L :=
  { w with cells := w.cells.modify c.index f }

/-- Changes the record of a coroutine. -/
def modifyCoroutine (w : World L) (c : CoroutineId)
    (f : CoroutineRecord L → CoroutineRecord L) : World L :=
  { w with coroutines := w.coroutines.modify c.index f }

/-- Changes the record of a wrapper. -/
def modifyWrapper (w : World L) (x : WrapperId) (f : WrapperRecord → WrapperRecord) : World L :=
  { w with wrappers := w.wrappers.modify x.index f }

/-- Changes the changing part of a frame. -/
def modifyFrame (w : World L) (f : Frame) (g : FrameRecord → FrameRecord) : World L :=
  { w with frames := w.frames.modify f.index g }

/-- One more handle of the object behind a value. -/
def retain (w : World L) : Value → World L
  | .tuple identity _ => { w with tuples := w.tuples.modify identity (· + 1) }
  | .exception e => w.modifyException e fun r => { r with handles := r.handles + 1 }
  | .cell c => w.modifyCell c fun r => { r with handles := r.handles + 1 }
  | .coroutine c => w.modifyCoroutine c CoroutineRecord.retained
  | .wrapper x => w.modifyWrapper x WrapperRecord.retained
  | _ => w

/-- The chain of frames from a frame down to the bottom of its stack, or nothing if the chain is longer
than `fuel`. -/
def chain? (w : World L) : Nat → Option Frame → Option (List Frame)
  | _, none => some []
  | 0, some _ => none
  | fuel + 1, some f => (w.chain? fuel (w.frame f).back).map (f :: ·)

/-- The frames from a frame down to the bottom; nothing if the chain never ends. A chain without
repetition is no longer than the number of frames. -/
def callers? (w : World L) (top : Option Frame) : Option (List Frame) := w.chain? w.frames.size top

end World

end CoroutineEngine
