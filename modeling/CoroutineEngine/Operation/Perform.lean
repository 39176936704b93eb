import CoroutineEngine.Operation.Coroutines
import CoroutineEngine.Operation.Fibers
import CoroutineEngine.Operation.Thread

/-!
# Performing operations

Every request of a client, from its operands to its answer.
-/

namespace CoroutineEngine

variable {L : Language}

/-- Moves the frame of a body to a line. -/
def performSetLine (scope : Scope) (line : UInt32) : Effect L Answered := do
  if let some context := scope.context then
    moveFrame context.frame line
  return .nothing

/-- Performs an operation for a client. -/
def perform (E : Engine L) (scope : Scope) : Operation L.Script → Effect L Answered
  | .makeCode spec => do
    return .ok (.value (.code (← makeCode spec)))
  | .makeCoroutine spec => buildCoroutine E scope spec
  | .send on value => performSend E scope on value
  | .throw on triple => performThrow E scope on triple
  | .throwException on value => performThrowException E scope on value
  | .close on => performClose E scope on
  | .step on => performStep E scope on
  | .wrap on => wrapCoroutine E scope on
  | .iterate on steps => performIterate E scope on steps
  | .getAttribute on name => performGet E scope on name
  | .setAttribute on name value => performWrite E scope on value fun c => setAttribute E c name
  | .setName on value => performWrite E scope on value (setName E)
  | .setQualname on value => performWrite E scope on value (setQualname E)
  | .downgrade on weak => performDowngrade E scope on weak
  | .upgrade weak => performUpgrade weak
  | .isAlive weak => performIsAlive weak
  | .handleCount slot => handleCount slot
  | .evaluate value => do
    return .ok (.value (← evaluate E scope value))
  | .setSlot slot value => performSetSlot E scope slot value
  | .dropSlot slot => performDropSlot E slot
  | .say value => performSay E scope value
  | .describe value => performRead E scope value World.describe
  | .compare a b => performCompare E scope a b
  | .defineClass name base => performDefineClass E scope name base
  | .compareClasses a b => performCompareClasses E scope a b
  | .inspect on => performRead E scope on World.inspect
  | .setCause on value => performAttach E scope on value attachCause
  | .setContext on value => performAttach E scope on value attachContext
  | .setTraceback on value => performSetTraceback E scope on value
  | .pushTraceback on value => performPushTraceback E scope on value
  | .setCell on value => performSetCell E scope on value
  | .clearCell on => performClearCell E scope on
  | .sameCell on value => performSameCell E scope on value
  | .makeFrame code => performMakeFrame E scope code
  | .setFrameLine on value => performSetFrameLine E scope on value
  | .setFrameBack on value => performSetFrameBack E scope on value
  | .normalize triple => performNormalize E scope triple
  | .makePending triple => performMakePending E scope triple
  | .makeTransfer triple => performMakeTransfer E scope triple
  | .tryInputs parameters closure index => performTryInputs E scope parameters closure index
  | .setError value => performSetError E scope value
  | .fetchError => performFetchError
  | .currentError => performCurrentError E
  | .restoreError triple => performRestoreError E scope triple
  | .setHandled value => performSetHandled E scope value
  | .pushFrame code => performPushFrame E scope code
  | .popFrame => performPopFrame
  | .setTopFrame value => performSetTopFrame E scope value
  | .listFrames => performListFrames
  | .writeUnraisable object value => performWriteUnraisable E scope object value
  | .installHook mode => performInstallHook E mode
  | .track id => performTrack id
  | .untrack id => performUntrack id
  | .isTracked id => performIsTracked id
  | .registryStats => registryStats
  | .activate stackSize reportChildren => performActivate stackSize reportChildren
  | .makeFiber name spec => performMakeFiber name spec
  | .switchFiber name value => performSwitch name value
  | .releaseFiber name => performReleaseFiber name
  | .inspectFiber name => performInspectFiber name
  | .setLine line => performSetLine scope line
  | .enterHandler value => performEnterHandler E scope value
  | .leaveHandler value => performLeaveHandler E scope value

end CoroutineEngine
