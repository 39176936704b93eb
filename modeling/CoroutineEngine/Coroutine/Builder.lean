import CoroutineEngine.Coroutine.Error

/-!
# Building coroutines and wrappers

A coroutine takes its inputs over, is enrolled with the registry, and starts with one handle, which
belongs to the caller. What is not asked for comes from the code and from the active settings.
-/

namespace CoroutineEngine

variable {L : Language}

/-- What a coroutine is built from. A supply that refuses or loses fibers has stacks of the standard
size. -/
structure Blueprint where
  code : Code
  name : Option Text
  qualname : Option Text
  parameters : List Value
  closure : List CellId
  stackSize : Option Nat
  reportChildren : Option Bool
  failures : Nat
  lossIn : Option Nat

/-- Where the coroutine will get its fiber. -/
def Blueprint.supply (b : Blueprint) (settings : Settings) : FiberSupply :=
  if b.failures = 0 ∧ b.lossIn = none then ⟨b.stackSize.getD settings.stackSize, 0, none⟩
  else ⟨defaultStackSize, b.failures, b.lossIn⟩

/-- The record of a coroutine that was never resumed. -/
def Blueprint.record (b : Blueprint) (settings : Settings) : CoroutineRecord L where
  handles := 1
  name := b.name.getD b.code.name
  qualname := b.qualname.getD b.code.qualname
  code := b.code
  status := .unused
  running := false
  finalized := false
  fiber := none
  supply := b.supply settings
  pending := none
  frame := none
  awaiting := none
  handled := none
  inputs := .new b.parameters b.closure
  reportChildren := b.reportChildren.getD settings.reportChildren
  history := .new b.parameters b.closure

/-- The kind under which coroutines are enrolled. -/
def coroutineKind : String := "compiled_coroutine"

/-- The kind under which wrappers are enrolled. -/
def wrapperKind : String := "compiled_coroutine_wrapper"

/-- Builds a coroutine. -/
def makeCoroutine (b : Blueprint) : Effect L CoroutineId := do
  let c ← .modifyGet fun w =>
    ((⟨w.coroutines.size⟩ : CoroutineId),
      { w with coroutines := w.coroutines.push (b.record w.settings) })
  trackObject (.coroutine c) coroutineKind
  logCoroutine .debug "coroutine created" c []
  return c

/-- Builds an awaiter of a coroutine, which takes a handle of the coroutine over. -/
def makeWrapper (c : CoroutineId) : Effect L WrapperId := do
  let x ← .modifyGet fun w =>
    ((⟨w.wrappers.size⟩ : WrapperId), { w with wrappers := w.wrappers.push ⟨1, c⟩ })
  trackObject (.wrapper x) wrapperKind
  return x

end CoroutineEngine
