import ScoreIntegration.Lola.TransactionLogLocalView

/-!
# Subscribing to an event

One word packs the number of subscribers and the sum of their sample counts.  `Subscribe` and
`Unsubscribe` change it in compare-exchange loops with a bounded number of attempts.
-/

namespace ScoreIntegration.Lola

open Concurrency

inductive SubscribeResult where
  | kSuccess
  | kMaxSubscribersOverflow
  | kSlotOverflow
  | kUpdateRetryFailure
  deriving DecidableEq, Repr

structure EventSubscriptionControl where
  maxSubscribableSlots : BitVec 16
  maxSubscribers : BitVec 8
  enforceMaxSamples : Bool

/-- `safe_math::Add<kAbortOnError>` on slot numbers. -/
def safeAdd {ι : Type} (left right : BitVec 16) : Control ι (BitVec 16) :=
  if left.toNat + right.toNat < 2 ^ 16 then
    .done (left + right)
  else
    .abort .arithmeticOverflow

namespace EventSubscriptionControl

variable {ι : Type} (control : EventSubscriptionControl)

/-- The check of the sample limit; it is made only if the limit is enforced. -/
def exceedsMaxSamples (control : EventSubscriptionControl)
    (currentSubscribedSlots slotCount : BitVec 16) : Control ι Bool :=
  if control.enforceMaxSamples then do
    let total ← safeAdd currentSubscribedSlots slotCount
    pure (decide (control.maxSubscribableSlots < total))
  else
    pure false

/-- `Subscribe` with the number of attempts left. -/
def subscribeLoop (control : EventSubscriptionControl) (quality : QualityType)
    (log : ι) (slotCount : BitVec 16) : Nat → Control ι SubscribeResult
  | 0 => pure .kUpdateRetryFailure
  | retries + 1 => do
    let currentState ← atomically (.loadSubscriptionState quality)
    let currentSubscribers := getSubscribersFromState currentState
    if control.maxSubscribers ≤ currentSubscribers then
      pure .kMaxSubscribersOverflow
    else do
      let currentSubscribedSlots := getSubscribedSamplesFromState currentState
      let exceeds ← control.exceedsMaxSamples currentSubscribedSlots slotCount
      if exceeds then
        pure .kSlotOverflow
      else do
        let newSubscribedSlots ← safeAdd currentSubscribedSlots slotCount
        let success ←
          atomically (.compareExchangeWeakSubscriptionState quality log currentState
            (createState (currentSubscribers + 1#8) newSubscribedSlots))
        if success then
          pure .kSuccess
        else
          control.subscribeLoop quality log slotCount retries

def subscribe (quality : QualityType)
    (log : ι) (slotCount : BitVec 16) : Control ι SubscribeResult :=
  control.subscribeLoop quality log slotCount ((2 * control.maxSubscribers.toNat) % 2 ^ 16)

/-- `Unsubscribe` with the number of attempts left. -/
def unsubscribeLoop (quality : QualityType) (log : ι) (slotCount : BitVec 16) : Nat → Control ι Unit
  | 0 => .abort .unsubscribeRetryLimit
  | retries + 1 => do
    let currentState ← atomically (.loadSubscriptionState quality)
    let currentSubscribers := getSubscribersFromState currentState
    if currentSubscribers = 0#8 then
      .abort .noSubscriber
    else
      let currentSubscribedSlots := getSubscribedSamplesFromState currentState
      if currentSubscribedSlots < slotCount then
        .abort .tooFewSubscribedSlots
      else do
        let success ←
          atomically (.compareExchangeWeakSubscriptionState quality log currentState
            (createState (currentSubscribers - 1#8) (currentSubscribedSlots - slotCount)))
        if success then
          pure ()
        else
          unsubscribeLoop quality log slotCount retries

def unsubscribe (quality : QualityType) (log : ι) (slotCount : BitVec 16) : Control ι Unit :=
  unsubscribeLoop quality log slotCount ((3 * control.maxSubscribers.toNat) % 2 ^ 16)

/-! ## The transactions of a proxy -/

variable (view : TransactionLogLocalView ι) (maxSampleCount : Nat)

/-- The part of `NotSubscribedState::SubscribeEvent` that follows the
registration of the transaction log. -/
def subscribeTransaction : Control ι SubscribeResult := do
  view.subscribeTransactionBegin maxSampleCount
  let subscribeResult ← control.subscribe view.quality view.log (BitVec.ofNat 16 maxSampleCount)
  if subscribeResult = .kSuccess then do
    view.subscribeTransactionCommit
    pure subscribeResult
  else do
    Program.require (decide (subscribeResult ≠ .kMaxSubscribersOverflow)) .maxSubscribersOverflow
    view.subscribeTransactionAbort
    pure subscribeResult

/-- The part of `NotSubscribedState::OnEntry` that gives the subscription
back. -/
def unsubscribeTransaction : Control ι Unit := do
  view.unsubscribeTransactionBegin
  control.unsubscribe view.quality view.log (BitVec.ofNat 16 maxSampleCount)
  view.unsubscribeTransactionCommit

end EventSubscriptionControl

end ScoreIntegration.Lola
