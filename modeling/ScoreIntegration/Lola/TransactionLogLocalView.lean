import ScoreIntegration.Lola.EventControl

/-!
# The transaction log of a proxy

A proxy brackets every change of a reference count and of the subscription state by two
flags in its log.  `rollbackProxyElementLog` gives back what the flags have recorded.
-/

namespace ScoreIntegration.Lola

open Concurrency

/-- The errors of `ComErrc` that the modelled functions report. -/
inductive ComErrc where
  | kCouldNotRestartProxy
  | kMaxSubscribersExceeded
  | kMaxSampleCountNotRealizable
  deriving DecidableEq, Repr

/-- A view on the log `log` of one control section; `slots` is the size of
`reference_count_slots_local_`. -/
structure TransactionLogLocalView (ι : Type) where
  quality : QualityType
  log : ι
  slots : Nat

namespace TransactionLogLocalView

variable {ι : Type} (view : TransactionLogLocalView ι)

def getTransactionBegin (view : TransactionLogLocalView ι) (entry : LogEntry) : Control ι Bool :=
  atomically (.getTransactionBegin view.quality view.log entry)

def getTransactionEnd (view : TransactionLogLocalView ι) (entry : LogEntry) : Control ι Bool :=
  atomically (.getTransactionEnd view.quality view.log entry)

def setTransactionBegin (view : TransactionLogLocalView ι) (entry : LogEntry)
    (value : Bool) : Control ι Unit :=
  atomically (.setTransactionBegin view.quality view.log entry value)

def setTransactionEnd (view : TransactionLogLocalView ι) (entry : LogEntry)
    (value : Bool) : Control ι Unit :=
  atomically (.setTransactionEnd view.quality view.log entry value)

section

variable (view : TransactionLogLocalView ι)

def requireBegin (entry : LogEntry) (expected : Bool) : Control ι Unit := do
  let transactionBegin ← view.getTransactionBegin entry
  .require (transactionBegin == expected) .transactionPrecondition

def requireEnd (entry : LogEntry) (expected : Bool) : Control ι Unit := do
  let transactionEnd ← view.getTransactionEnd entry
  .require (transactionEnd == expected) .transactionPrecondition

/-! ## Subscriptions -/

def subscribeTransactionBegin (subscriptionMaxSampleCount : Nat) : Control ι Unit := do
  view.requireBegin .subscribe false
  view.requireEnd .subscribe false
  view.setTransactionBegin .subscribe true
  atomically (.setMaxSampleCount view.quality view.log (some subscriptionMaxSampleCount))

def subscribeTransactionCommit : Control ι Unit := do
  view.requireBegin .subscribe true
  view.requireEnd .subscribe false
  view.setTransactionEnd .subscribe true

def subscribeTransactionAbort : Control ι Unit := do
  view.requireBegin .subscribe true
  view.requireEnd .subscribe false
  view.setTransactionBegin .subscribe false

def unsubscribeTransactionBegin : Control ι Unit := do
  view.requireBegin .subscribe true
  view.requireEnd .subscribe true
  view.setTransactionBegin .subscribe false

def unsubscribeTransactionCommit : Control ι Unit := do
  view.requireBegin .subscribe false
  view.requireEnd .subscribe true
  atomically (.setMaxSampleCount view.quality view.log none)
  view.setTransactionEnd .subscribe false

end

/-! ## References -/

def kRetryCount : Nat := 10

/-- `WaitForTransactionEndToBecomeFalse`, with the number of polls left. -/
def waitForTransactionEndToBecomeFalse (view : TransactionLogLocalView ι)
    (entry : LogEntry) : Nat → Control ι Unit
  | 0 => .abort .transactionEndTimeout
  | retries + 1 => do
    let transactionEnd ← view.getTransactionEnd entry
    if transactionEnd then
      view.waitForTransactionEndToBecomeFalse entry retries
    else
      pure ()

section

variable (view : TransactionLogLocalView ι) (slotIndex : SlotIndex)

def requireSlot : Control ι Unit :=
  .require (decide (slotIndex < view.slots)) .transactionPrecondition

def referenceTransactionBegin : Control ι Unit := do
  view.requireSlot slotIndex
  view.requireBegin (.reference slotIndex) false
  view.waitForTransactionEndToBecomeFalse (.reference slotIndex) kRetryCount
  view.setTransactionBegin (.reference slotIndex) true

def referenceTransactionCommit : Control ι Unit := do
  view.requireSlot slotIndex
  view.requireBegin (.reference slotIndex) true
  view.waitForTransactionEndToBecomeFalse (.reference slotIndex) kRetryCount
  view.setTransactionEnd (.reference slotIndex) true

def referenceTransactionAbort : Control ι Unit := do
  view.requireSlot slotIndex
  view.requireBegin (.reference slotIndex) true
  view.waitForTransactionEndToBecomeFalse (.reference slotIndex) kRetryCount
  view.setTransactionBegin (.reference slotIndex) false

def dereferenceTransactionBegin : Control ι Unit := do
  view.requireSlot slotIndex
  view.requireBegin (.reference slotIndex) true
  view.requireEnd (.reference slotIndex) true
  view.setTransactionBegin (.reference slotIndex) false

def dereferenceTransactionCommit : Control ι Unit := do
  view.requireSlot slotIndex
  view.requireBegin (.reference slotIndex) false
  view.requireEnd (.reference slotIndex) true
  view.setTransactionEnd (.reference slotIndex) false

end

/-! ## Rollback -/

/-- One of the two flags of an entry is set; the end flag is read only if the
begin flag is clear. -/
def isAnyFlagSet (view : TransactionLogLocalView ι) (entry : LogEntry) : Control ι Bool := do
  let transactionBegin ← view.getTransactionBegin entry
  if transactionBegin then
    pure true
  else
    view.getTransactionEnd entry

/-- `DoesLogContainIncrementOrDecrementTransactions` from a slot on. -/
def doesLogContainIncrementOrDecrementTransactions
    (view : TransactionLogLocalView ι) : List SlotIndex → Control ι Bool
  | [] => pure false
  | slotIndex :: rest => do
    let anyFlagSet ← view.isAnyFlagSet (.reference slotIndex)
    if anyFlagSet then
      pure true
    else
      view.doesLogContainIncrementOrDecrementTransactions rest

/-- `RollbackIncrementTransactions` over the slots still to visit. -/
def rollbackIncrementTransactions (view : TransactionLogLocalView ι)
    (dereferenceSlotCallback : SlotIndex → Control ι Unit) :
    List SlotIndex → Control ι (Except ComErrc Unit)
  | [] => pure (.ok ())
  | slotIndex :: rest => do
    let transactionBegin ← view.getTransactionBegin (.reference slotIndex)
    let transactionEnd ← view.getTransactionEnd (.reference slotIndex)
    if transactionBegin && transactionEnd then
      view.dereferenceTransactionBegin slotIndex
      dereferenceSlotCallback slotIndex
      view.dereferenceTransactionCommit slotIndex
      view.rollbackIncrementTransactions dereferenceSlotCallback rest
    else if transactionBegin || transactionEnd then
      pure (.error .kCouldNotRestartProxy)
    else
      view.rollbackIncrementTransactions dereferenceSlotCallback rest

def rollbackSubscribeTransactions (unsubscribeCallback : Nat → Control ι Unit) :
    Control ι (Except ComErrc Unit) := do
  let transactionBegin ← view.getTransactionBegin .subscribe
  let transactionEnd ← view.getTransactionEnd .subscribe
  if transactionBegin && transactionEnd then
    view.unsubscribeTransactionBegin
    let maxSampleCount ← atomically (.getMaxSampleCount view.quality view.log)
    match maxSampleCount with
    | none => .abort .missingSampleCount
    | some count =>
      unsubscribeCallback count
      view.unsubscribeTransactionCommit
      pure (.ok ())
  else if transactionBegin || transactionEnd then
    pure (.error .kCouldNotRestartProxy)
  else
    pure (.ok ())

/-- The check at the start of a rollback: without a recorded subscription
there must be no recorded reference. -/
def requireSubscribeOrNoReferences : Control ι Unit := do
  let subscribeRecorded ← view.isAnyFlagSet .subscribe
  if subscribeRecorded then
    pure ()
  else do
    let containsIncrementOrDecrementTransactions ←
      view.doesLogContainIncrementOrDecrementTransactions (List.range view.slots)
    .require (!containsIncrementOrDecrementTransactions) .referencesWithoutSubscription

def rollbackProxyElementLog (dereferenceSlotCallback : SlotIndex → Control ι Unit)
    (unsubscribeCallback : Nat → Control ι Unit) :
    Control ι (Except ComErrc Unit) := do
  view.requireSubscribeOrNoReferences
  let rollbackIncrementTransactionsResult ←
    view.rollbackIncrementTransactions dereferenceSlotCallback (List.range view.slots)
  match rollbackIncrementTransactionsResult with
  | .error error => pure (.error error)
  | .ok () => view.rollbackSubscribeTransactions unsubscribeCallback

end TransactionLogLocalView

end ScoreIntegration.Lola
