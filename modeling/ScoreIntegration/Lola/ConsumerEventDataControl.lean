import ScoreIntegration.Lola.EventSubscriptionControl

/-!
# Consumer access to the slots of an event

A consumer looks for the newest sample inside a window of time stamps, takes a reference
by a compare-exchange of the slot's word and records it in its transaction log.
`SlotCollector` repeats this with a falling upper bound.
-/

namespace ScoreIntegration.Lola

open Concurrency

/-- `ConsumerEventDataControlLocalView`: a view on the slots of a section
together with the transaction log that has been set for it. -/
abbrev ConsumerEventDataControlLocalView := TransactionLogLocalView

namespace TransactionLogLocalView

variable {ι : Type} (view : ConsumerEventDataControlLocalView ι)

def MAX_REFERENCE_RETRIES : Nat := 100

/-- The slot found so far and the status whose time stamp the next one has to
exceed. -/
structure Candidate where
  possibleIndex : Option SlotIndex
  candidateSlotStatus : EventSlotStatus

/-- One pass of `ReferenceNextEvent` over the slots. -/
def searchCandidate (view : ConsumerEventDataControlLocalView ι) (upperLimit : EventTimeStamp) :
    List SlotIndex → Candidate → Control ι Candidate
  | [], candidate => pure candidate
  | slotIndex :: rest, candidate => do
    let slotStatus ← atomically (.loadSlot view.quality slotIndex)
    if slotStatus.isTimeStampBetween candidate.candidateSlotStatus.getTimeStamp upperLimit then
      view.searchCandidate upperLimit rest ⟨some slotIndex, slotStatus⟩
    else
      view.searchCandidate upperLimit rest candidate

def tryReference (view : ConsumerEventDataControlLocalView ι)
    (possibleIndex : SlotIndex) (candidateSlotStatus : EventSlotStatus) :
    Control ι Bool := do
  Program.require (decide (candidateSlotStatus.data ≠ BitVec.allOnes 64)) .slotStatusOverflow
  view.referenceTransactionBegin possibleIndex
  let exchanged ←
    atomically (.compareExchangeWeakSlot view.quality view.log possibleIndex
      candidateSlotStatus ⟨candidateSlotStatus.data + 1#64⟩)
  if exchanged then do
    view.referenceTransactionCommit possibleIndex
    pure true
  else do
    view.referenceTransactionAbort possibleIndex
    pure false

/-- `ReferenceNextEvent` with the number of attempts left. -/
def referenceNextEventLoop (view : ConsumerEventDataControlLocalView ι)
    (lastSearchTime upperLimit : EventTimeStamp) :
    Nat → Control ι (Option SlotIndex)
  | 0 => pure none
  | retries + 1 => do
    let candidate ← view.searchCandidate upperLimit (List.range view.slots)
        ⟨none, EventSlotStatus.make lastSearchTime 0#32⟩
    match candidate.possibleIndex with
    | none => pure none
    | some possibleIndex => do
      let referenced ← view.tryReference possibleIndex candidate.candidateSlotStatus
      if referenced then
        pure (some possibleIndex)
      else
        view.referenceNextEventLoop lastSearchTime upperLimit retries

def referenceNextEvent (lastSearchTime upperLimit : EventTimeStamp) :
    Control ι (Option SlotIndex) :=
  view.referenceNextEventLoop lastSearchTime upperLimit MAX_REFERENCE_RETRIES

def dereferenceEventWithoutTransactionLogging (eventSlotIndex : SlotIndex) : Control ι Unit := do
  Program.require (decide (eventSlotIndex < view.slots)) .slotIndexOutOfRange
  let _ ← atomically (.fetchSubSlot view.quality view.log eventSlotIndex 1#64)
  pure ()

def dereferenceEvent (eventSlotIndex : SlotIndex) : Control ι Unit := do
  view.dereferenceTransactionBegin eventSlotIndex
  view.dereferenceEventWithoutTransactionLogging eventSlotIndex
  view.dereferenceTransactionCommit eventSlotIndex

/-- `operator[]`. -/
def slotStatus (slotIndex : SlotIndex) : Control ι EventSlotStatus := do
  Program.require (decide (slotIndex < view.slots)) .slotIndexOutOfRange
  atomically (.loadSlot view.quality slotIndex)

/-- `RollbackProxyElementLog` with the callbacks of
`TransactionLogSet::RollbackProxyTransactions`. -/
def rollback (control : EventSubscriptionControl) : Control ι (Except ComErrc Unit) :=
  view.rollbackProxyElementLog view.dereferenceEventWithoutTransactionLogging fun count =>
      control.unsubscribe view.quality view.log (BitVec.ofNat 16 count)

end TransactionLogLocalView

/-! ## Collecting samples -/

/-- `SlotCollector`; `maxSlots` is the size of `collected_slots_`. -/
structure SlotCollector where
  lastTs : EventTimeStamp
  maxSlots : Nat
  deriving DecidableEq, Repr

namespace SlotCollector

variable {ι : Type}

/-- The loop of `CollectSlots`: `count` iterations and `room` places in the
buffer are left.  The slots come newest first. -/
def collectSlotsLoop (collector : SlotCollector) (view : ConsumerEventDataControlLocalView ι) :
    (count room : Nat) → EventTimeStamp → Control ι (List SlotIndex)
  | 0, _, _ => pure []
  | _ + 1, 0, _ => pure []
  | count + 1, room + 1, currentHighest => do
    let slot ← view.referenceNextEvent collector.lastTs currentHighest
    match slot with
    | none => pure []
    | some slotIndex => do
      let eventStatus ← view.slotStatus slotIndex
      let rest ← collector.collectSlotsLoop view count room eventStatus.getTimeStamp
      pure (slotIndex :: rest)

def collectSlots (collector : SlotCollector)
    (view : ConsumerEventDataControlLocalView ι) (maxCount : Nat) :
    Control ι (List SlotIndex) := do
  Program.require (decide (0 < collector.maxSlots)) .emptySlotBuffer
  collector.collectSlotsLoop view maxCount collector.maxSlots EventSlotStatus.TIMESTAMP_MAX

/-- The loop of `GetNewSamplesSlotIndices` over the collected slots, oldest
first. -/
def newestDelivered (view : ConsumerEventDataControlLocalView ι) :
    List SlotIndex → EventTimeStamp → Control ι EventTimeStamp
  | [], newest => pure newest
  | slotIndex :: rest, newest => do
    let slotStatus ← view.slotStatus slotIndex
    newestDelivered view rest (if newest < slotStatus.getTimeStamp then slotStatus.getTimeStamp
        else newest)

/-- `GetNewSamplesSlotIndices`: the collector afterwards and the slots in the
order in which they are handed out. -/
def getNewSamplesSlotIndices (collector : SlotCollector)
    (view : ConsumerEventDataControlLocalView ι) (maxCount : Nat) :
    Control ι (SlotCollector × List SlotIndex) := do
  let collectedSlots ← collector.collectSlots view maxCount
  let newest ← newestDelivered view collectedSlots.reverse collector.lastTs
  pure ({ collector with lastTs := newest }, collectedSlots.reverse)

/-- The loop of `ProxyEvent::GetNewSamples`: the slots with the time stamps
that are passed to the receiver. -/
def handOut (view : ConsumerEventDataControlLocalView ι) :
    List SlotIndex → Control ι (List (SlotIndex × EventTimeStamp))
  | [] => pure []
  | slotIndex :: rest => do
    let eventSlotStatus ← view.slotStatus slotIndex
    let samples ← handOut view rest
    pure ((slotIndex, eventSlotStatus.getTimeStamp) :: samples)

/-- `ProxyEvent::GetNewSamples` of a subscribed proxy; `maxSampleCount` is the
number of free sample guards. -/
def getNewSamples (collector : SlotCollector)
    (view : ConsumerEventDataControlLocalView ι) (maxSampleCount : Nat) :
    Control ι (SlotCollector × List (SlotIndex × EventTimeStamp)) := do
  let (collector', slotIndices) ← collector.getNewSamplesSlotIndices view maxSampleCount
  let samples ← handOut view slotIndices
  pure (collector', samples)

end SlotCollector

end ScoreIntegration.Lola
