import ScoreIntegration.Concurrency.Transitions

/-!
# The subscription state machine of a proxy event

The receive handler is kept in two places: `eventReceiverHandler` waits for a registration,
and the active handler is registered with the notification runtime.
-/

namespace ScoreIntegration.Lola

open Concurrency

inductive SubscriptionStateMachineState where
  | notSubscribed
  | subscriptionPending
  | subscribed
  deriving DecidableEq, Repr

inductive SubscribeError where
  | maxSubscribersExceeded
  | maxSampleCountNotRealizable
  deriving DecidableEq, Repr

structure RegisteredNotificationHandler (η : Type) where
  handler : η
  registerNo : Nat
  deriving DecidableEq, Repr

/-- The notification runtime, as far as the registrations of one proxy event go:
no call of the machine concerns those of the others. -/
structure NotificationRuntime (η : Type) where
  curRegistrationNo : Nat
  eventUpdateHandlers : List (RegisteredNotificationHandler η)
  deriving DecidableEq, Repr

namespace NotificationRuntime

variable {η : Type} (runtime : NotificationRuntime η)

def registerEventNotification (handler : η) : NotificationRuntime η × Nat :=
  ({ curRegistrationNo := runtime.curRegistrationNo + 1
     eventUpdateHandlers := runtime.eventUpdateHandlers ++ [⟨handler, runtime.curRegistrationNo⟩] },
    runtime.curRegistrationNo)

def unregisterEventNotification (registrationNo : Nat) : NotificationRuntime η :=
  { runtime with
    eventUpdateHandlers := runtime.eventUpdateHandlers.eraseP fun registered =>
      registered.registerNo = registrationNo }

def handlers : List η := runtime.eventUpdateHandlers.map RegisteredNotificationHandler.handler

end NotificationRuntime

/-- `EventReceiveHandlerManager` together with the runtime it calls. -/
structure EventReceiveHandlerManager (η : Type) where
  eventSourcePid : Nat
  registrationNumber : Option Nat
  runtime : NotificationRuntime η
  deriving DecidableEq, Repr

namespace EventReceiveHandlerManager

variable {η : Type} (manager : EventReceiveHandlerManager η)

def unregister : EventReceiveHandlerManager η :=
  match manager.registrationNumber with
  | none => manager
  | some registrationNo =>
    { manager with
      registrationNumber := none
      runtime := manager.runtime.unregisterEventNotification registrationNo }

def register (handler : η) : EventReceiveHandlerManager η :=
  let manager := manager.unregister
  let (runtime, registrationNo) := manager.runtime.registerEventNotification handler
  { manager with
    registrationNumber := some registrationNo
    runtime := runtime }

/-- Without a new handler the runtime only tells the new provider process about
the old registration; the handler stays registered. -/
def reregister (newEventReceiverHandler : Option η) : EventReceiveHandlerManager η :=
  match newEventReceiverHandler with
  | some handler => manager.register handler
  | none => manager

def updatePid (newPid : Nat) : EventReceiveHandlerManager η :=
  { manager with eventSourcePid := newPid }

end EventReceiveHandlerManager

structure SubscriptionStateMachine (η : Type) where
  currentState : SubscriptionStateMachineState
  maxSampleCount : Option (BitVec 16)
  eventReceiverHandler : Option η
  eventReceiveHandlerManager : EventReceiveHandlerManager η
  providerServiceInstanceIsAvailable : Bool
  transactionLogRegistered : Bool
  deriving DecidableEq, Repr

inductive SubscriptionReply where
  | granted
  | noTransactionLog
  | rejected
  deriving DecidableEq, Repr

inductive SubscriptionCall (η : Type) where
  | subscribeEvent (maxSampleCount : Nat) (reply : SubscriptionReply)
  | unsubscribeEvent
  | stopOfferEvent
  | reOfferEvent (newEventSourcePid : Nat)
  | setReceiveHandler (handler : η)
  | unsetReceiveHandler
  deriving DecidableEq, Repr

namespace SubscriptionStateMachine

variable {η : Type}

section

variable (machine : SubscriptionStateMachine η)

/-- `NotSubscribedState::OnEntry`, the end of a subscription. -/
def toNotSubscribed : SubscriptionStateMachine η :=
  { machine with
    currentState := .notSubscribed
    eventReceiveHandlerManager := machine.eventReceiveHandlerManager.unregister
    maxSampleCount := none
    transactionLogRegistered := false }

/-- `NotSubscribedState::SubscribeEvent` once the shared memory has granted the
subscription. -/
def enterSubscription (maxSampleCount : Nat) : SubscriptionStateMachine η :=
  let machine := { machine with
    maxSampleCount := some (BitVec.ofNat 16 maxSampleCount)
    transactionLogRegistered := true }
  if machine.providerServiceInstanceIsAvailable then
    match machine.eventReceiverHandler with
    | some handler =>
      { machine with
        eventReceiveHandlerManager := machine.eventReceiveHandlerManager.register handler
        eventReceiverHandler := none
        currentState := .subscribed }
    | none => { machine with currentState := .subscribed }
  else
    { machine with currentState := .subscriptionPending }

/-- `SubscribeEvent`.  The subscribed state narrows the count before it compares
it, the pending state does not. -/
def subscribeEvent (maxSampleCount : Nat) (reply : SubscriptionReply) :
    SubscriptionStateMachine η × Except SubscribeError Unit :=
  match machine.currentState with
  | .notSubscribed =>
    match reply with
    | .noTransactionLog => (machine, .error .maxSubscribersExceeded)
    | .rejected => (machine, .error .maxSampleCountNotRealizable)
    | .granted => (machine.enterSubscription maxSampleCount, .ok ())
  | .subscribed =>
    if machine.maxSampleCount = some (BitVec.ofNat 16 maxSampleCount) then
      (machine, .ok ())
    else
      (machine, .error .maxSampleCountNotRealizable)
  | .subscriptionPending =>
    if machine.maxSampleCount.map BitVec.toNat = some maxSampleCount then
      (machine, .ok ())
    else
      (machine, .error .maxSampleCountNotRealizable)

def unsubscribeEvent : SubscriptionStateMachine η :=
  match machine.currentState with
  | .notSubscribed => machine
  | .subscribed => machine.toNotSubscribed
  | .subscriptionPending => machine.toNotSubscribed

/-- `StopOfferEvent`; the pending state terminates the process. -/
def stopOfferEvent : Option (SubscriptionStateMachine η) :=
  match machine.currentState with
  | .notSubscribed => some { machine with providerServiceInstanceIsAvailable := false }
  | .subscribed =>
    some { machine with
      providerServiceInstanceIsAvailable := false
      currentState := .subscriptionPending }
  | .subscriptionPending => none

def reOfferEvent (newEventSourcePid : Nat) : SubscriptionStateMachine η :=
  match machine.currentState with
  | .notSubscribed =>
    { machine with
      eventReceiveHandlerManager := machine.eventReceiveHandlerManager.updatePid newEventSourcePid
      providerServiceInstanceIsAvailable := true }
  | .subscribed => machine
  | .subscriptionPending =>
    { machine with
      providerServiceInstanceIsAvailable := true
      eventReceiveHandlerManager :=
        (machine.eventReceiveHandlerManager.updatePid
          newEventSourcePid).reregister machine.eventReceiverHandler
      eventReceiverHandler := none
      currentState := .subscribed }

def setReceiveHandler (handler : η) : SubscriptionStateMachine η :=
  match machine.currentState with
  | .subscribed =>
    { machine with
      eventReceiveHandlerManager := machine.eventReceiveHandlerManager.register handler }
  | .notSubscribed => { machine with eventReceiverHandler := some handler }
  | .subscriptionPending => { machine with eventReceiverHandler := some handler }

def unsetReceiveHandler : SubscriptionStateMachine η :=
  match machine.currentState with
  | .subscribed =>
    { machine with
      eventReceiveHandlerManager := machine.eventReceiveHandlerManager.unregister }
  | .notSubscribed => { machine with eventReceiverHandler := none }
  | .subscriptionPending => { machine with eventReceiverHandler := none }

/-- One call; `none` is the termination of the process. -/
def step : SubscriptionCall η → Option (SubscriptionStateMachine η)
  | .subscribeEvent maxSampleCount reply => some (machine.subscribeEvent maxSampleCount reply).1
  | .unsubscribeEvent => some machine.unsubscribeEvent
  | .stopOfferEvent => machine.stopOfferEvent
  | .reOfferEvent newEventSourcePid => some (machine.reOfferEvent newEventSourcePid)
  | .setReceiveHandler handler => some (machine.setReceiveHandler handler)
  | .unsetReceiveHandler => some machine.unsetReceiveHandler

end

/-- A new machine; the runtime may have numbered other registrations before. -/
def start (eventSourcePid curRegistrationNo : Nat) : SubscriptionStateMachine η where
  currentState := .notSubscribed
  maxSampleCount := none
  eventReceiverHandler := none
  eventReceiveHandlerManager := ⟨eventSourcePid, none, ⟨curRegistrationNo, []⟩⟩
  providerServiceInstanceIsAvailable := true
  transactionLogRegistered := false

end SubscriptionStateMachine

end ScoreIntegration.Lola
