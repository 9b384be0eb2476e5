import Mathlib.Data.Fintype.Card
import ScoreIntegration.Concurrency.System
import ScoreIntegration.Lola.EventSlotStatus

/-!
# The shared memory of one event

An event has one control section for each quality level, with the control words of
the slots, the packed subscription state and the transaction logs of the proxies.

`Ledger` holds history variables that no program can read: which log has a
reference or subscription on its account, and which word the provider replaced
when it last claimed a slot of the QM section.
-/

namespace ScoreIntegration.Lola

open Concurrency Function

inductive QualityType where
  | asilQm
  | asilB
  deriving DecidableEq, Repr

abbrev SlotIndex := Nat

/-- `TransactionLogSlot`: the begin and the end flag of one transaction. -/
structure TransactionLogSlot where
  transactionBegin : Bool
  transactionEnd : Bool
  deriving DecidableEq, Repr

namespace TransactionLogSlot

def empty : TransactionLogSlot := ⟨false, false⟩

def recorded : TransactionLogSlot := ⟨true, true⟩

end TransactionLogSlot

/-- The entries of a `TransactionLog`: `reference slot` is
`reference_count_slots_[slot]`, `subscribe` is `subscribe_transactions_`. -/
inductive LogEntry where
  | reference (slot : SlotIndex)
  | subscribe
  deriving DecidableEq, Repr

abbrev TransactionLogId := BitVec 32

def kInvalidTransactionLogId : TransactionLogId := 0xFFFFFFFF#32

/-! ## Pointwise updates -/

section Put

variable {α β γ δ : Type} [DecidableEq α] [DecidableEq β] [DecidableEq γ] {row : α} {column : β}
  {row' : α} {column' : β} {value : δ} {layer layer' : γ}

def put2 (table : α → β → δ) (row : α) (column : β) (value : δ) : α → β → δ :=
  Function.update table row (Function.update (table row) column value)

def put3 (table : α → β → γ → δ) (row : α) (column : β) (layer : γ) (value : δ) : α → β → γ → δ :=
  Function.update table row (put2 (table row) column layer value)

section

variable (table : α → β → δ)

@[simp]
theorem put2_row (row : α) (column : β) (value : δ) : put2 table row column value row =
      update (table row) column value :=
  update_self row _ table

theorem put2_row_of_ne (column : β) (value : δ) (differ : row' ≠ row) :
    put2 table row column value row' = table row' :=
  update_of_ne differ _ table

theorem put2_of_ne (value : δ) (differ : ¬ (row' = row ∧ column' = column)) :
    put2 table row column value row' column' = table row' column' := by
  by_cases sameRow : row' = row
  · subst row'
    have otherColumn : column' ≠ column := fun same => differ ⟨rfl, same⟩
    rw [put2_row, update_of_ne otherColumn]
  · rw [put2_row_of_ne table column value sameRow]

@[simp]
theorem put2_put2 (row : α) (column : β) (first second : δ) :
    put2 (put2 table row column first) row column second = put2 table row column second := by
  simp [put2]

end

theorem put2_eq_self {table : α → β → δ}
    (same : table row column = value) : put2 table row column value = table := by
  simp [put2, ← same]

section

variable (table : α → β → γ → δ)

@[simp]
theorem put3_row (row : α) (column : β) (layer : γ) (value : δ) :
    put3 table row column layer value row column = update (table row column) layer value := by
  rw [put3, update_self, put2_row]

theorem put3_row_of_ne (layer : γ) (value : δ) (differ : ¬ (row' = row ∧ column' = column)) :
    put3 table row column layer value row' column' = table row' column' := by
  by_cases sameRow : row' = row
  · subst row'
    have otherColumn : column' ≠ column := fun same => differ ⟨rfl, same⟩
    rw [put3, update_self, put2_row_of_ne (table row) layer value otherColumn]
  · rw [put3, update_of_ne sameRow]

theorem put3_of_ne (value : δ) (differ : ¬ (row' = row ∧ column' = column ∧ layer' = layer)) :
    put3 table row column layer value row' column' layer' = table row' column' layer' := by
  by_cases sameLine : row' = row ∧ column' = column
  · obtain ⟨rfl, rfl⟩ := sameLine
    have otherLayer : layer' ≠ layer := fun same => differ ⟨rfl, rfl, same⟩
    rw [put3_row, update_of_ne otherLayer]
  · rw [put3_row_of_ne table layer value sameLine]

theorem put3_put3 (row : α) (column : β) (layer : γ) (first second : δ) :
    put3 (put3 table row column layer first) row column layer second =
      put3 table row column layer second := by
  simp [put3]

end

theorem put3_eq_self {table : α → β → γ → δ} (same : table row column layer = value) :
    put3 table row column layer value = table := by
  simp [put3, put2, ← same]

variable (table : α → β → γ → δ) (row : α) (column : β)

/-- The cells of one layer, read across the columns. -/
theorem put3_layer (layer : γ) (value : δ) :
    (fun column' => put3 table row column layer value row column' layer) =
      update (fun column' => table row column' layer) column value := by
  funext column'
  by_cases same : column' = column
  · subst column'
    simp
  · have differ : ¬ (row = row ∧ column' = column) := fun both => same both.2
    rw [put3_row_of_ne table layer value differ, update_of_ne same]

theorem put3_layer_of_ne (value : δ) (differ : layer' ≠ layer) :
    (fun column' => put3 table row column layer value row column' layer') =
      fun column' => table row column' layer' := by
  funext column'
  by_cases same : column' = column
  · subst column'
    rw [put3_row, update_of_ne differ]
  · have otherColumn : ¬ (row = row ∧ column' = column) := fun both => same both.2
    rw [put3_row_of_ne table layer value otherColumn]

end Put

/-! ## State -/

/-- The control sections of an event; `ι` indexes the transaction logs. -/
structure EventControl (ι : Type) where
  stateSlots : QualityType → SlotIndex → EventSlotStatus
  currentSubscriptionState : QualityType → BitVec 32
  transactions : QualityType → ι → LogEntry → TransactionLogSlot
  subscriptionMaxSampleCount : QualityType → ι → Option Nat
  transactionLogId : QualityType → ι → TransactionLogId
  needsRollback : QualityType → ι → Bool

/-- History variables: the time stamp at which a log took a reference that it has not given
back, the samples of a log that is subscribed, the slots that the provider has claimed and
not stored to, the QM slot it claimed last with the word it replaced, and the same while
the ASIL-B half of that claim has failed. -/
structure Ledger (ι : Type) where
  references : QualityType → ι → SlotIndex → Option EventTimeStamp
  subscriptions : QualityType → ι → Option Nat
  allocated : QualityType → SlotIndex → Bool
  claimed : Option (SlotIndex × EventSlotStatus)
  failedClaim : Option (SlotIndex × EventSlotStatus)

structure Shared (ι : Type) extends EventControl ι, Ledger ι

def bookedCount {ι α : Type} [Fintype ι] (booked : ι → Option α) : Nat :=
  (Finset.univ.filter fun log => (booked log).isSome).card

namespace Shared

variable {ι : Type}

def empty : Shared ι where
  stateSlots _ _ := EventSlotStatus.invalid
  currentSubscriptionState _ := 0#32
  transactions _ _ _ := TransactionLogSlot.empty
  subscriptionMaxSampleCount _ _ := none
  transactionLogId _ _ := kInvalidTransactionLogId
  needsRollback _ _ := false
  references _ _ _ := none
  subscriptions _ _ := none
  allocated _ _ := false
  claimed := none
  failedClaim := none

def referenceCount [Fintype ι] (state : Shared ι) (quality : QualityType)
    (slot : SlotIndex) : Nat :=
  bookedCount fun log => state.references quality log slot

end Shared

/-! ## The packed subscription state -/

def getSubscribersFromState (subscriptionState : BitVec 32) : BitVec 8 :=
  (subscriptionState >>> 16).setWidth 8

def getSubscribedSamplesFromState (subscriptionState : BitVec 32) : BitVec 16 :=
  (subscriptionState &&& 0x0000FFFF#32).setWidth 16

def createState (subscriberCount : BitVec 8) (subscribedSlots : BitVec 16) : BitVec 32 :=
  (subscriberCount.setWidth 32 <<< 16) + subscribedSlots.setWidth 32

/-- What a successful compare-exchange of the subscription state books for
the log it is made for: the samples it adds if it raises the subscriber
count, nothing if it lowers it. -/
def subscriptionBooked (expected desired : BitVec 32) : Option Nat :=
  if (getSubscribersFromState expected).toNat < (getSubscribersFromState desired).toNat then
    some ((getSubscribedSamplesFromState desired).toNat -
      (getSubscribedSamplesFromState expected).toNat)
  else
    none

/-! ## Operations -/

/-- The atomic steps on the control sections.  `corruptSlot` is the write of a process that does
not keep to the protocol. -/
inductive ControlOp (ι : Type) where
  | loadSlot (quality : QualityType) (slot : SlotIndex)
  | storeSlot (quality : QualityType) (slot : SlotIndex) (value : EventSlotStatus)
  | compareExchangeStrongSlot (quality : QualityType) (slot : SlotIndex)
      (expected desired : EventSlotStatus)
  | compareExchangeWeakSlot (quality : QualityType) (log : ι)
      (slot : SlotIndex) (expected desired : EventSlotStatus)
  | fetchSubSlot (quality : QualityType) (log : ι) (slot : SlotIndex) (amount : BitVec 64)
  | corruptSlot (quality : QualityType) (slot : SlotIndex) (value : EventSlotStatus)
  | loadSubscriptionState (quality : QualityType)
  | compareExchangeWeakSubscriptionState (quality : QualityType) (log : ι)
      (expected desired : BitVec 32)
  | getTransactionBegin (quality : QualityType) (log : ι) (entry : LogEntry)
  | getTransactionEnd (quality : QualityType) (log : ι) (entry : LogEntry)
  | setTransactionBegin (quality : QualityType) (log : ι) (entry : LogEntry) (value : Bool)
  | setTransactionEnd (quality : QualityType) (log : ι) (entry : LogEntry) (value : Bool)
  | getMaxSampleCount (quality : QualityType) (log : ι)
  | setMaxSampleCount (quality : QualityType) (log : ι) (value : Option Nat)
  | loadTransactionLogId (quality : QualityType) (log : ι)
  | storeTransactionLogId (quality : QualityType) (log : ι) (value : TransactionLogId)
  | compareExchangeStrongTransactionLogId (quality : QualityType) (log : ι)
      (expected desired : TransactionLogId)
  | loadNeedsRollback (quality : QualityType) (log : ι)
  | storeNeedsRollback (quality : QualityType) (log : ι) (value : Bool)

namespace ControlOp

variable {ι : Type}

abbrev Answer : ControlOp ι → Type
  | .loadSlot _ _ => EventSlotStatus
  | .storeSlot _ _ _ => Unit
  | .compareExchangeStrongSlot _ _ _ _ => Bool
  | .compareExchangeWeakSlot _ _ _ _ _ => Bool
  | .fetchSubSlot _ _ _ _ => EventSlotStatus
  | .corruptSlot _ _ _ => Unit
  | .loadSubscriptionState _ => BitVec 32
  | .compareExchangeWeakSubscriptionState _ _ _ _ => Bool
  | .getTransactionBegin _ _ _ => Bool
  | .getTransactionEnd _ _ _ => Bool
  | .setTransactionBegin _ _ _ _ => Unit
  | .setTransactionEnd _ _ _ _ => Unit
  | .getMaxSampleCount _ _ => Option Nat
  | .setMaxSampleCount _ _ _ => Unit
  | .loadTransactionLogId _ _ => TransactionLogId
  | .storeTransactionLogId _ _ _ => Unit
  | .compareExchangeStrongTransactionLogId _ _ _ _ => Bool
  | .loadNeedsRollback _ _ => Bool
  | .storeNeedsRollback _ _ _ => Unit

/-- A claim of a QM slot is open until the ASIL-B slot is claimed too. -/
def bookClaim (quality : QualityType) (slot : SlotIndex)
    (expected : EventSlotStatus) : Option (SlotIndex × EventSlotStatus) :=
  match quality with
  | .asilQm => some (slot, expected)
  | .asilB => none

/-- A failed claim of an ASIL-B slot puts the open QM claim in question. -/
def bookFailedClaim (quality : QualityType) (claimed : Option (SlotIndex × EventSlotStatus)) :
    Option (SlotIndex × EventSlotStatus) :=
  match quality with
  | .asilQm => none
  | .asilB => claimed

variable [DecidableEq ι] {op : ControlOp ι} {fault : Bool} {s : Shared ι} {i : SlotIndex}
  {word : EventSlotStatus}

/-- The effect of an operation; `fault` lets a weak compare-exchange fail
although the word has the expected value. -/
def exec : (op : ControlOp ι) → Bool → Shared ι → op.Answer × Shared ι
  | .loadSlot quality slot, _, state => (state.stateSlots quality slot, state)
  | .storeSlot quality slot value, _, state =>
    ((), { state with
      stateSlots := put2 state.stateSlots quality slot value
      allocated := put2 state.allocated quality slot false
      claimed := none
      failedClaim := none })
  | .compareExchangeStrongSlot quality slot expected desired, _, state =>
    if state.stateSlots quality slot = expected then
      (true, { state with
        stateSlots := put2 state.stateSlots quality slot desired
        allocated := put2 state.allocated quality slot desired.isInWriting
        claimed := bookClaim quality slot expected
        failedClaim := none })
    else
      (false, { state with
        failedClaim := bookFailedClaim quality state.claimed })
  | .compareExchangeWeakSlot quality log slot expected desired, fault, state =>
    if fault = false ∧ state.stateSlots quality slot = expected then
      (true, { state with
        stateSlots := put2 state.stateSlots quality slot desired
        references := put3 state.references quality log slot (some expected.getTimeStamp) })
    else
      (false, state)
  | .fetchSubSlot quality log slot amount, _, state =>
    (state.stateSlots quality slot, { state with
        stateSlots :=
          put2 state.stateSlots quality slot ⟨(state.stateSlots quality slot).data - amount⟩
        references := put3 state.references quality log slot none })
  | .corruptSlot quality slot value, _, state =>
    ((), { state with
      stateSlots := put2 state.stateSlots quality slot value })
  | .loadSubscriptionState quality, _, state => (state.currentSubscriptionState quality, state)
  | .compareExchangeWeakSubscriptionState quality log expected desired, fault, state =>
    if fault = false ∧ state.currentSubscriptionState quality = expected then
      (true, { state with
        currentSubscriptionState := Function.update state.currentSubscriptionState quality desired
        subscriptions :=
          put2 state.subscriptions quality log (subscriptionBooked expected desired) })
    else
      (false, state)
  | .getTransactionBegin quality log entry, _, state =>
    ((state.transactions quality log entry).transactionBegin, state)
  | .getTransactionEnd quality log entry, _, state =>
    ((state.transactions quality log entry).transactionEnd, state)
  | .setTransactionBegin quality log entry value, _, state =>
    ((), { state with
      transactions :=
        put3 state.transactions quality log entry
          { state.transactions quality log entry with
            transactionBegin := value } })
  | .setTransactionEnd quality log entry value, _, state =>
    ((), { state with
      transactions :=
        put3 state.transactions quality log entry
          { state.transactions quality log entry with
            transactionEnd := value } })
  | .getMaxSampleCount quality log, _, state =>
    (state.subscriptionMaxSampleCount quality log, state)
  | .setMaxSampleCount quality log value, _, state =>
    ((), { state with
      subscriptionMaxSampleCount := put2 state.subscriptionMaxSampleCount quality log value })
  | .loadTransactionLogId quality log, _, state => (state.transactionLogId quality log, state)
  | .storeTransactionLogId quality log value, _, state =>
    ((), { state with
      transactionLogId := put2 state.transactionLogId quality log value })
  | .compareExchangeStrongTransactionLogId quality log expected desired, _, state =>
    if state.transactionLogId quality log = expected then
      (true, { state with
        transactionLogId := put2 state.transactionLogId quality log desired })
    else
      (false, state)
  | .loadNeedsRollback quality log, _, state => (state.needsRollback quality log, state)
  | .storeNeedsRollback quality log value, _, state =>
    ((), { state with
      needsRollback := put2 state.needsRollback quality log value })

theorem eq_fetchSubSlot_of_dropped {q log} (booked : (s.references q log i).isSome)
    (dropped : (op.exec fault s).2.references q log i = none) :
    ∃ amount, op = .fetchSubSlot q log i amount := by
  have kept (keep : (op.exec fault s).2.references = s.references) : False := by
    rw [keep] at dropped
    rw [dropped] at booked
    cases booked
  cases op with
  | fetchSubSlot quality' log' slot' amount =>
    by_cases same : q = quality' ∧ log = log' ∧ i = slot'
    · obtain ⟨rfl, rfl, rfl⟩ := same
      exact ⟨amount, rfl⟩
    · simp only [exec, put3_of_ne _ _ same] at dropped
      rw [dropped] at booked
      cases booked
  | compareExchangeWeakSlot quality' log' slot' want desired =>
    simp only [exec] at dropped
    split at dropped
    · by_cases same : q = quality' ∧ log = log' ∧ i = slot'
      · obtain ⟨rfl, rfl, rfl⟩ := same
        simp at dropped
      · simp only [put3_of_ne _ _ same] at dropped
        rw [dropped] at booked
        cases booked
    · rw [dropped] at booked
      cases booked
  | compareExchangeStrongSlot quality' slot' want desired
  | compareExchangeWeakSubscriptionState quality' log' want desired
  | compareExchangeStrongTransactionLogId quality' log' want desired =>
    refine (kept ?_).elim
    simp only [exec]
    split <;> rfl
  | _ => exact (kept rfl).elim

theorem claimed_eq_some (claimed : (op.exec fault s).2.claimed = some (i, word)) :
    s.claimed = some (i, word) ∨ s.stateSlots .asilQm i = word := by
  cases op with
  | compareExchangeStrongSlot q slot' want desired =>
    simp only [exec] at claimed
    split at claimed
    next succeeds =>
      cases q with
      | asilB => cases claimed
      | asilQm =>
        cases claimed
        exact .inr succeeds
    · exact .inl claimed
  | storeSlot q slot' value => cases claimed
  | compareExchangeWeakSlot q log slot' want desired
  | compareExchangeWeakSubscriptionState q log want desired
  | compareExchangeStrongTransactionLogId q log want desired =>
    simp only [exec] at claimed
    split at claimed <;> exact .inl claimed
  | _ => exact .inl claimed

theorem failedClaim_eq_some (failed : (op.exec fault s).2.failedClaim = some (i, word)) :
    s.failedClaim = some (i, word) ∨ s.claimed = some (i, word) := by
  cases op with
  | compareExchangeStrongSlot q slot' want desired =>
    simp only [exec] at failed
    split at failed
    · cases failed
    · cases q with
      | asilQm => cases failed
      | asilB => exact .inr failed
  | storeSlot q slot' value => cases failed
  | compareExchangeWeakSlot q log slot' want desired
  | compareExchangeWeakSubscriptionState q log want desired
  | compareExchangeStrongTransactionLogId q log want desired =>
    simp only [exec] at failed
    split at failed <;> exact .inl failed
  | _ => exact .inl failed

end ControlOp

/-! ## Failures -/

inductive Failure where
  | slotIndexOutOfRange
  | slotStatusOverflow
  | multiSlotMismatch
  | allocationRemovalRace
  | transactionPrecondition
  | transactionEndTimeout
  | emptySlotBuffer
  | noSubscriber
  | tooFewSubscribedSlots
  | unsubscribeRetryLimit
  | arithmeticOverflow
  | missingSampleCount
  | maxSubscribersOverflow
  | referencesWithoutSubscription
  | invalidTransactionLogId
  | staleTransactions
  | releaseOfFreeLog
  | notOffered
  deriving DecidableEq, Repr

abbrev Control (ι α : Type) := Program (ControlOp ι) ControlOp.Answer Failure α

abbrev atomically {ι : Type} (op : ControlOp ι) : Control ι op.Answer := Program.atomic op

/-- The control sections in runs all of whose steps are `admissible`. -/
def controlMachine (ι : Type) [DecidableEq ι]
    (admissible : ControlOp ι → Shared ι → Shared ι → Prop) :
    Machine (ControlOp ι) ControlOp.Answer (Shared ι) where
  exec := ControlOp.exec
  admissible := admissible

namespace Shared

variable {ι : Type} [Fintype ι]

/-- The reference counters do not run over. -/
def FewReferences (state : Shared ι) : Prop :=
  ∀ quality slot, state.referenceCount quality slot < 2 ^ 32 - 1

theorem fewReferences_of_card (few : Fintype.card ι < 2 ^ 32 - 1)
    (s : Shared ι) : s.FewReferences := by
  intro q i
  have bound : s.referenceCount q i ≤ Fintype.card ι := Finset.card_le_univ _
  omega

end Shared

end ScoreIntegration.Lola
