import ScoreIntegration.Lola.EventControl

/-!
# Provider access to the slots of an event

The provider claims an unused slot by a compare-exchange with `kInWriting`, writes the
sample and publishes it by a store.  With an ASIL-B section a slot is claimed in both
sections or, after the QM section has been given up, in the ASIL-B section only.
-/

namespace ScoreIntegration.Lola

open Concurrency

structure SlotInfo where
  slotIndex : SlotIndex
  slotValue : EventSlotStatus
  deriving DecidableEq, Repr

structure ProviderEventDataControlLocalView where
  quality : QualityType
  slots : Nat

namespace ProviderEventDataControlLocalView

variable {ι : Type}

def MAX_ALLOCATE_RETRIES : Nat := 100

structure OldestSlot where
  oldestTimeStamp : EventTimeStamp
  slotInfo : Option SlotInfo

/-- `FindOldestUnusedSlot` over the slots still to visit. -/
def findOldestUnusedSlotLoop (view : ProviderEventDataControlLocalView) :
    List SlotIndex → OldestSlot → Control ι (Option SlotInfo)
  | [], oldest => pure oldest.slotInfo
  | slotIndex :: rest, oldest => do
    let status ← atomically (.loadSlot view.quality slotIndex)
    if status.isInvalid then
      pure (some ⟨slotIndex, status⟩)
    else if status.getReferenceCount = 0#32 ∧ status.isInWriting = false ∧
        status.getTimeStamp < oldest.oldestTimeStamp then
      view.findOldestUnusedSlotLoop rest ⟨status.getTimeStamp, some ⟨slotIndex, status⟩⟩
    else
      view.findOldestUnusedSlotLoop rest oldest

section

variable (view : ProviderEventDataControlLocalView)

def findOldestUnusedSlot : Control ι (Option SlotInfo) :=
  view.findOldestUnusedSlotLoop (List.range view.slots) ⟨EventSlotStatus.TIMESTAMP_MAX, none⟩

def requireSlot (slotIndex : SlotIndex) : Control ι Unit :=
  Program.require (decide (slotIndex < view.slots)) .slotIndexOutOfRange

/-- `TryAllocateSlot`: the word the slot had, if it could be claimed. -/
def tryAllocateSlot (slotInfo : SlotInfo) : Control ι (Option EventSlotStatus) := do
  view.requireSlot slotInfo.slotIndex
  let wasSlotAllocated ←
    atomically (.compareExchangeStrongSlot view.quality slotInfo.slotIndex
      slotInfo.slotValue EventSlotStatus.inWriting)
  if wasSlotAllocated then
    pure (some slotInfo.slotValue)
  else
    pure none

end

/-- `AllocateNextSlot` with the number of attempts left. -/
def allocateNextSlotLoop (view : ProviderEventDataControlLocalView) :
    Nat → Control ι (Option SlotIndex)
  | 0 => pure none
  | retries + 1 => do
    let oldestUnusedSlot ← view.findOldestUnusedSlot
    match oldestUnusedSlot with
    | none => view.allocateNextSlotLoop retries
    | some slotInfo => do
      let oldValue ← view.tryAllocateSlot slotInfo
      if oldValue.isSome then
        pure (some slotInfo.slotIndex)
      else
        view.allocateNextSlotLoop retries

section

variable (view : ProviderEventDataControlLocalView)

/-- The retry counter runs from zero to the limit inclusive. -/
def allocateNextSlot : Control ι (Option SlotIndex) :=
  view.allocateNextSlotLoop (MAX_ALLOCATE_RETRIES + 1)

def setSlotValue (slotInfo : SlotInfo) : Control ι Unit := do
  view.requireSlot slotInfo.slotIndex
  atomically (.storeSlot view.quality slotInfo.slotIndex slotInfo.slotValue)

def eventReady (slotIndex : SlotIndex) (timeStamp : EventTimeStamp) : Control ι Unit := do
  view.requireSlot slotIndex
  atomically (.storeSlot view.quality slotIndex (EventSlotStatus.make timeStamp 0#32))

def discard (slotIndex : SlotIndex) : Control ι Unit := do
  view.requireSlot slotIndex
  let slot ← atomically (.loadSlot view.quality slotIndex)
  if slot.isInWriting then
    atomically (.storeSlot view.quality slotIndex slot.markInvalid)
  else
    pure ()

end

/-- `RemoveAllocationsForWriting` over the slots still to visit. -/
def removeAllocationsForWritingLoop (view : ProviderEventDataControlLocalView) :
    List SlotIndex → Control ι Unit
  | [] => pure ()
  | slotIndex :: rest => do
    let status ← atomically (.loadSlot view.quality slotIndex)
    if status.isInWriting then do
      let exchanged ←
        atomically (.compareExchangeStrongSlot view.quality slotIndex status
          EventSlotStatus.invalid)
      Program.require exchanged .allocationRemovalRace
      view.removeAllocationsForWritingLoop rest
    else
      view.removeAllocationsForWritingLoop rest

def removeAllocationsForWriting (view : ProviderEventDataControlLocalView) : Control ι Unit :=
  view.removeAllocationsForWritingLoop (List.range view.slots)

end ProviderEventDataControlLocalView

/-! ## Both sections -/

/-- `EventDataControlComposite`: both sections have `slots` slots; without
`asilB` there is only the QM section. -/
structure EventDataControlComposite where
  slots : Nat
  asilB : Bool
  ignoreQmControl : Bool
  deriving DecidableEq, Repr

namespace EventDataControlComposite

variable {ι : Type}

def MAX_MULTI_ALLOCATE_RETRY_COUNT : Nat := 100

section

variable (composite : EventDataControlComposite)

def asilQmControlLocal : ProviderEventDataControlLocalView := ⟨.asilQm, composite.slots⟩

def asilBControlLocal : ProviderEventDataControlLocalView := ⟨.asilB, composite.slots⟩

/-- `GetNextFreeMultiSlot` over the slots still to visit. -/
def getNextFreeMultiSlotLoop : List SlotIndex → EventTimeStamp → Option SlotInfo →
      Control ι (Option SlotInfo)
  | [], _, slotInfo => pure slotInfo
  | slotIndex :: rest, oldestTimeStamp, slotInfo => do
    let slotQm ← atomically (.loadSlot .asilQm slotIndex)
    let slotB ← atomically (.loadSlot .asilB slotIndex)
    if slotB.isInvalid && !slotQm.isInvalid then
      pure none
    else if !slotQm.isUsed && !slotB.isUsed && decide (slotB.getTimeStamp < oldestTimeStamp) then do
      Program.require (decide (slotQm = slotB)) .multiSlotMismatch
      getNextFreeMultiSlotLoop rest slotB.getTimeStamp (some ⟨slotIndex, slotQm⟩)
    else
      getNextFreeMultiSlotLoop rest oldestTimeStamp slotInfo

def getNextFreeMultiSlot : Control ι (Option SlotInfo) :=
  getNextFreeMultiSlotLoop (List.range composite.slots) EventSlotStatus.TIMESTAMP_MAX none

/-- One attempt of `AllocateNextMultiSlot` to claim a slot in both sections;
the QM word is put back if the ASIL-B word cannot be claimed. -/
def tryAllocateMultiSlot (slotInfo : SlotInfo) : Control ι Bool := do
  let qmOldSlotValue ← composite.asilQmControlLocal.tryAllocateSlot slotInfo
  match qmOldSlotValue with
  | none => pure false
  | some oldSlotValue => do
    let asilBAllocation ← composite.asilBControlLocal.tryAllocateSlot slotInfo
    if asilBAllocation.isSome then
      pure true
    else do
      composite.asilQmControlLocal.setSlotValue ⟨slotInfo.slotIndex, oldSlotValue⟩
      pure false

end

/-- `AllocateNextMultiSlot` with the number of attempts left. -/
def allocateNextMultiSlotLoop (composite : EventDataControlComposite) :
    Nat → Control ι (Option SlotIndex)
  | 0 => pure none
  | retries + 1 => do
    let freeMultiSlot ← composite.getNextFreeMultiSlot
    match freeMultiSlot with
    | none => composite.allocateNextMultiSlotLoop retries
    | some slotInfo => do
      let allocated ← composite.tryAllocateMultiSlot slotInfo
      if allocated then
        pure (some slotInfo.slotIndex)
      else
        composite.allocateNextMultiSlotLoop retries

def allocateNextMultiSlot (composite : EventDataControlComposite) : Control ι (Option SlotIndex) :=
  composite.allocateNextMultiSlotLoop MAX_MULTI_ALLOCATE_RETRY_COUNT

/-- `AllocateNextSlot`: the composite afterwards and the slot, if any. -/
def allocateNextSlot (composite : EventDataControlComposite) :
    Control ι (EventDataControlComposite × Option SlotIndex) :=
  if composite.asilB = false then do
    let slot ← composite.asilQmControlLocal.allocateNextSlot
    pure (composite, slot)
  else if composite.ignoreQmControl then do
    let slot ← composite.asilBControlLocal.allocateNextSlot
    pure (composite, slot)
  else do
    let multiSlot ← composite.allocateNextMultiSlot
    match multiSlot with
    | some slot => pure (composite, some slot)
    | none => do
      let slot ← composite.asilBControlLocal.allocateNextSlot
      pure ({ composite with ignoreQmControl := true }, slot)

/-- Run a step in the ASIL-B section, if there is one, and then in the QM
section, unless it is ignored. -/
def inBothSections (composite : EventDataControlComposite)
    (step : ProviderEventDataControlLocalView → Control ι Unit) :
    Control ι Unit := do
  let qmStep : Control ι Unit :=
    if composite.ignoreQmControl then pure ()
    else step composite.asilQmControlLocal
  if composite.asilB then do
    step composite.asilBControlLocal
    qmStep
  else
    qmStep

def eventReady (composite : EventDataControlComposite)
    (slotIndex : SlotIndex) (timeStamp : EventTimeStamp) : Control ι Unit :=
  composite.inBothSections fun view => view.eventReady slotIndex timeStamp

def discard (composite : EventDataControlComposite) (slotIndex : SlotIndex) : Control ι Unit :=
  composite.inBothSections fun view => view.discard slotIndex

/-- `CleanupSharedMemoryAfterCrash` for one event. -/
def cleanupSharedMemoryAfterCrash (composite : EventDataControlComposite) : Control ι Unit := do
  composite.asilQmControlLocal.removeAllocationsForWriting
  if composite.asilB then
    composite.asilBControlLocal.removeAllocationsForWriting
  else
    pure ()

/-- `GetLatestTimestamp` over the slots still to visit. -/
def getLatestTimestampLoop (quality : QualityType) :
    List SlotIndex → EventTimeStamp → Control ι EventTimeStamp
  | [], latestTimeStamp => pure latestTimeStamp
  | slotIndex :: rest, latestTimeStamp => do
    let slot ← atomically (.loadSlot quality slotIndex)
    if slot.isInvalid = false ∧ slot.isInWriting = false ∧ latestTimeStamp < slot.getTimeStamp then
      getLatestTimestampLoop quality rest slot.getTimeStamp
    else
      getLatestTimestampLoop quality rest latestTimeStamp

def getLatestTimestamp (composite : EventDataControlComposite) : Control ι EventTimeStamp :=
  getLatestTimestampLoop (if composite.asilB then .asilB else .asilQm)
    (List.range composite.slots) EventSlotStatus.INVALID_TIMESTAMP

end EventDataControlComposite

end ScoreIntegration.Lola
