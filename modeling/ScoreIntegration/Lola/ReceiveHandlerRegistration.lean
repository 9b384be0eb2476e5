import ScoreIntegration.Lola.SubscriptionStateMachine

/-!
# Which receive handler is registered

While a proxy event is subscribed, the handler that the user has set last is registered,
unless `UnsetReceiveHandler` or `UnsubscribeEvent` hit the pending state.
-/

namespace ScoreIntegration.Lola

open Concurrency TransitionSystem.Reachable

variable {η : Type}

namespace EventReceiveHandlerManager

structure Registers (manager : EventReceiveHandlerManager η) (active : Option η) : Prop where
  handlers : manager.runtime.handlers = active.toList
  number : manager.registrationNumber =
    (manager.runtime.eventUpdateHandlers.head?).map RegisteredNotificationHandler.registerNo

section Registers

variable {manager : EventReceiveHandlerManager η} {active : Option η}

section

variable (registers : manager.Registers active)
include registers

theorem Registers.number_eq_none_iff : manager.registrationNumber = none ↔ active = none := by
  have handlers := registers.handlers
  rw [registers.number]
  cases reg : manager.runtime.eventUpdateHandlers with
  | nil =>
    cases active with
    | none => simp
    | some handler => simp [NotificationRuntime.handlers, reg] at handlers
  | cons first rest =>
    cases active with
    | none => simp [NotificationRuntime.handlers, reg] at handlers
    | some handler => simp

theorem Registers.unregister : manager.unregister.Registers none := by
  have handlers := registers.handlers
  have number := registers.number
  cases reg : manager.runtime.eventUpdateHandlers with
  | nil =>
    rw [reg] at number
    have keep : manager.unregister = manager := by
      simp [EventReceiveHandlerManager.unregister, number]
    rw [keep]
    exact ⟨by simp [NotificationRuntime.handlers, reg], by simp [number, reg]⟩
  | cons first rest =>
    rw [reg] at number
    have single : rest = [] := by
      cases active with
      | none => simp [NotificationRuntime.handlers, reg] at handlers
      | some handler => simpa [NotificationRuntime.handlers, reg] using congrArg List.tail handlers
    subst single
    constructor
    · simp [EventReceiveHandlerManager.unregister, number, reg, NotificationRuntime.handlers,
        NotificationRuntime.unregisterEventNotification]
    · simp [EventReceiveHandlerManager.unregister, number, reg,
        NotificationRuntime.unregisterEventNotification]

theorem Registers.register (handler : η) : (manager.register handler).Registers (some handler) := by
  have removed := registers.unregister
  have empty : manager.unregister.runtime.eventUpdateHandlers = [] := by
    simpa [NotificationRuntime.handlers] using removed.handlers
  constructor
  · simp [EventReceiveHandlerManager.register, NotificationRuntime.handlers,
      NotificationRuntime.registerEventNotification, empty]
  · simp [EventReceiveHandlerManager.register, NotificationRuntime.registerEventNotification, empty]

theorem Registers.updatePid (newPid : Nat) : (manager.updatePid newPid).Registers active :=
  ⟨registers.handlers, registers.number⟩

theorem Registers.reregister (wait : Option η) :
    (manager.reregister wait).Registers (wait.or active) := by
  cases wait with
  | none => exact registers
  | some handler => exact registers.register handler

end

end Registers

end EventReceiveHandlerManager

/-! ## The request of the user -/

/-- A machine and the handler the user has asked for since the machine last
returned to the not-subscribed state. -/
structure TrackedMachine (η : Type) where
  machine : SubscriptionStateMachine η
  requested : Option η
  deriving DecidableEq

namespace TrackedMachine

def requestAfter (tracked : TrackedMachine η) : SubscriptionCall η → Option η
  | .setReceiveHandler handler => some handler
  | .unsetReceiveHandler => none
  | .unsubscribeEvent =>
    if tracked.machine.currentState = .notSubscribed then tracked.requested
    else none
  | _ => tracked.requested

def step (tracked : TrackedMachine η) (call : SubscriptionCall η) : Option (TrackedMachine η) :=
  (tracked.machine.step call).map fun machine => ⟨machine, tracked.requestAfter call⟩

def start (eventSourcePid curRegistrationNo : Nat) : TrackedMachine η :=
  ⟨SubscriptionStateMachine.start eventSourcePid curRegistrationNo, none⟩

def system (η : Type) (eventSourcePid curRegistrationNo : Nat) :
    TransitionSystem (TrackedMachine η) (SubscriptionCall η) :=
  .ofStep (start eventSourcePid curRegistrationNo) step

/-- No handler is left behind by a call in the pending state: a handler is not
unset while it is registered, and not unsubscribed while it waits. -/
def Reaches (tracked : TrackedMachine η) (call : SubscriptionCall η) : Prop :=
  tracked.machine.currentState = .subscriptionPending → (call = .unsetReceiveHandler →
      tracked.machine.eventReceiveHandlerManager.registrationNumber = none) ∧
    (call = .unsubscribeEvent → tracked.machine.eventReceiverHandler = none)

/-- Where the requested handler is: `active` is registered. -/
structure Placed (tracked : TrackedMachine η) (active : Option η) : Prop where
  registers : tracked.machine.eventReceiveHandlerManager.Registers active
  notSubscribed : tracked.machine.currentState = .notSubscribed →
    active = none ∧ tracked.requested = tracked.machine.eventReceiverHandler
  pending : tracked.machine.currentState = .subscriptionPending →
    tracked.requested = tracked.machine.eventReceiverHandler.or active
  subscribed : tracked.machine.currentState = .subscribed →
    tracked.machine.eventReceiverHandler = none ∧ tracked.requested = active

section Steps

variable {tracked : TrackedMachine η} {active : Option η}

section

variable (placed : tracked.Placed active)
include placed

theorem Placed.enterSubscription
    (idle : tracked.machine.currentState = .notSubscribed) (cap : Nat) :
    ∃ active', Placed ⟨tracked.machine.enterSubscription cap, tracked.requested⟩ active' := by
  obtain ⟨nothing, requested⟩ := placed.notSubscribed idle
  unfold SubscriptionStateMachine.enterSubscription
  cases available : tracked.machine.providerServiceInstanceIsAvailable with
  | false =>
    refine ⟨active, placed.registers, ?_, ?_, ?_⟩
    · simp
    · simp [requested, nothing]
    · simp
  | true =>
    cases wait : tracked.machine.eventReceiverHandler with
    | none =>
      refine ⟨active, placed.registers, ?_, ?_, ?_⟩
      · simp
      · simp
      · simp [requested, nothing, wait]
    | some handler =>
      refine ⟨some handler, placed.registers.register handler, ?_, ?_, ?_⟩
      · simp
      · simp
      · simp [requested, wait]

theorem Placed.subscribeEvent (cap : Nat) (reply : SubscriptionReply) :
    ∃ active', Placed ⟨(tracked.machine.subscribeEvent cap reply).1,
        tracked.requested⟩ active' := by
  unfold SubscriptionStateMachine.subscribeEvent
  cases s : tracked.machine.currentState with
  | notSubscribed =>
    cases reply with
    | granted => exact placed.enterSubscription s cap
    | noTransactionLog | rejected => exact ⟨active, placed⟩
  | _ =>
    refine ⟨active, ?_⟩
    dsimp only
    split
    · exact placed
    · exact placed

theorem Placed.toNotSubscribed (nothingWaits : tracked.machine.eventReceiverHandler = none) :
    Placed ⟨tracked.machine.toNotSubscribed, none⟩ none where
  registers := placed.registers.unregister
  notSubscribed _ := ⟨rfl, nothingWaits.symm⟩
  pending bad := by cases bad
  subscribed bad := by cases bad

theorem Placed.unsubscribeEvent (reaches : tracked.Reaches .unsubscribeEvent) :
    ∃ active', Placed ⟨tracked.machine.unsubscribeEvent,
        tracked.requestAfter .unsubscribeEvent⟩ active' := by
  unfold SubscriptionStateMachine.unsubscribeEvent requestAfter
  cases s : tracked.machine.currentState with
  | notSubscribed => exact ⟨active, placed⟩
  | subscriptionPending => exact ⟨none, placed.toNotSubscribed ((reaches s).2 rfl)⟩
  | subscribed => exact ⟨none, placed.toNotSubscribed (placed.subscribed s).1⟩

theorem Placed.stopOfferEvent {machine} (stopped : tracked.machine.stopOfferEvent = some machine) :
    Placed ⟨machine, tracked.requested⟩ active := by
  unfold SubscriptionStateMachine.stopOfferEvent at stopped
  cases s : tracked.machine.currentState with
  | subscriptionPending =>
    rw [s] at stopped
    cases stopped
  | notSubscribed =>
    rw [s] at stopped
    cases stopped
    exact ⟨placed.registers, fun _ => placed.notSubscribed s, nofun, nofun⟩
  | subscribed =>
    rw [s] at stopped
    cases stopped
    obtain ⟨nothingWaits, requested⟩ := placed.subscribed s
    refine ⟨placed.registers, ?_, ?_, ?_⟩
    · nofun
    · intro _
      simp [nothingWaits, requested]
    · nofun

theorem Placed.reOfferEvent (newPid : Nat) :
    ∃ active', Placed ⟨tracked.machine.reOfferEvent newPid, tracked.requested⟩ active' := by
  unfold SubscriptionStateMachine.reOfferEvent
  cases s : tracked.machine.currentState with
  | subscribed => exact ⟨active, placed⟩
  | notSubscribed =>
    exact ⟨active, placed.registers.updatePid newPid, fun _ => placed.notSubscribed s, nofun, nofun⟩
  | subscriptionPending =>
    refine ⟨tracked.machine.eventReceiverHandler.or active, ?_, ?_, ?_, ?_⟩
    · exact (placed.registers.updatePid newPid).reregister _
    · nofun
    · nofun
    · intro _
      exact ⟨rfl, placed.pending s⟩

theorem Placed.setReceiveHandler (handler : η) : ∃ active', Placed
      ⟨tracked.machine.setReceiveHandler handler, some handler⟩ active' := by
  unfold SubscriptionStateMachine.setReceiveHandler
  cases s : tracked.machine.currentState with
  | notSubscribed =>
    obtain ⟨nothing, -⟩ := placed.notSubscribed s
    refine ⟨active, placed.registers, ?_, ?_, ?_⟩
    · exact fun _ => ⟨nothing, rfl⟩
    · intro _
      simp
    · simp
  | subscriptionPending =>
    refine ⟨active, placed.registers, ?_, ?_, ?_⟩
    · simp
    · intro _
      simp
    · simp
  | subscribed =>
    refine ⟨some handler, placed.registers.register handler, ?_, ?_, ?_⟩
    · simp
    · simp
    · exact fun _ => ⟨(placed.subscribed s).1, rfl⟩

theorem Placed.unsetReceiveHandler (reaches : tracked.Reaches .unsetReceiveHandler) :
    ∃ active', Placed ⟨tracked.machine.unsetReceiveHandler, none⟩ active' := by
  unfold SubscriptionStateMachine.unsetReceiveHandler
  cases s : tracked.machine.currentState with
  | notSubscribed =>
    obtain ⟨nothing, -⟩ := placed.notSubscribed s
    refine ⟨active, placed.registers, ?_, ?_, ?_⟩
    · exact fun _ => ⟨nothing, rfl⟩
    · simp
    · simp
  | subscriptionPending =>
    have nothing : active = none := placed.registers.number_eq_none_iff.mp ((reaches s).1 rfl)
    refine ⟨active, placed.registers, ?_, ?_, ?_⟩
    · simp
    · simp [nothing]
    · simp
  | subscribed =>
    refine ⟨none, placed.registers.unregister, ?_, ?_, ?_⟩
    · simp
    · simp
    · exact fun _ => ⟨(placed.subscribed s).1, rfl⟩

theorem Placed.step {call} (reaches : tracked.Reaches call)
    {s'} (stepped : tracked.step call = some s') : ∃ active', s'.Placed active' := by
  obtain ⟨machine, machineStep, rfl⟩ := Option.map_eq_some_iff.mp stepped
  cases call with
  | subscribeEvent cap reply =>
    cases machineStep
    exact placed.subscribeEvent cap reply
  | unsubscribeEvent =>
    cases machineStep
    exact placed.unsubscribeEvent reaches
  | stopOfferEvent => exact ⟨active, placed.stopOfferEvent machineStep⟩
  | reOfferEvent newPid =>
    cases machineStep
    exact placed.reOfferEvent newPid
  | setReceiveHandler handler =>
    cases machineStep
    exact placed.setReceiveHandler handler
  | unsetReceiveHandler =>
    cases machineStep
    exact placed.unsetReceiveHandler reaches

end

end Steps

/-- In every sequence of calls none of which leaves a handler behind, the
subscribed machine has registered the handler that was set last, or none. -/
theorem reachable_handler_registered {eventSourcePid curRegistrationNo : Nat}
    {tracked : TrackedMachine η}
    (reachable : ((system η eventSourcePid curRegistrationNo).restrict Reaches).Reachable tracked)
    (subscribed : tracked.machine.currentState = .subscribed) :
    tracked.machine.eventReceiveHandlerManager.runtime.handlers = tracked.requested.toList := by
  have placed : ∃ active, tracked.Placed active := by
    refine invariant
      (fun state => ∃ active, state.Placed active) ?_ ?_ reachable
    · intro state isStart
      cases isStart
      refine ⟨none, ⟨rfl, rfl⟩, fun _ => ⟨rfl, rfl⟩, ?_, ?_⟩
      · nofun
      · nofun
    · rintro before call after ⟨active, placed⟩ ⟨reaches, stepped⟩
      exact placed.step reaches stepped
  obtain ⟨active, placed⟩ := placed
  rw [(placed.subscribed subscribed).2]
  exact placed.registers.handlers

/-! ## Handlers that are left behind -/

/-- The machine has subscribed, its provider has gone away, the handler was
unset, and the provider has come back. -/
def unsetWhilePending : List (SubscriptionCall Nat) :=
  [.subscribeEvent 1 .granted, .setReceiveHandler 7, .stopOfferEvent,
    .unsetReceiveHandler, .reOfferEvent 2]

/-- A handler is set while the provider is away, and the subscription is ended
and made anew. -/
def unsubscribeWhilePending : List (SubscriptionCall Nat) :=
  [.subscribeEvent 1 .granted, .stopOfferEvent, .setReceiveHandler 7,
    .unsubscribeEvent, .subscribeEvent 1 .granted, .reOfferEvent 2]

/-- In both sequences the user has no handler set, but one is registered. -/
theorem handler_left_behind : (∃ tracked, (system Nat 1 0).Reachable tracked ∧
      TransitionSystem.run step (start 1 0) unsetWhilePending = some tracked ∧
      tracked.machine.currentState = .subscribed ∧
      tracked.requested = none ∧
      tracked.machine.eventReceiveHandlerManager.runtime.handlers = [7]) ∧
    (∃ tracked, (system Nat 1 0).Reachable tracked ∧
      TransitionSystem.run step (start 1 0) unsubscribeWhilePending = some tracked ∧
      tracked.machine.currentState = .subscribed ∧
      tracked.requested = none ∧
      tracked.machine.eventReceiveHandlerManager.runtime.handlers = [7]) := by
  constructor
  · exact TransitionSystem.exists_reachable unsetWhilePending ⟨_, rfl, rfl, rfl, rfl, rfl⟩
  · exact TransitionSystem.exists_reachable unsubscribeWhilePending ⟨_, rfl, rfl, rfl, rfl, rfl⟩

def registeredMachine : TrackedMachine Nat :=
  ⟨{ currentState := .subscribed
     maxSampleCount := some 1#16
     eventReceiverHandler := none
     eventReceiveHandlerManager := ⟨1, some 0, ⟨1, [⟨7, 0⟩]⟩⟩
     providerServiceInstanceIsAvailable := true
     transactionLogRegistered := true }, some 7⟩

theorem registeredMachine_handler_registered :
    registeredMachine.machine.eventReceiveHandlerManager.runtime.handlers = (some 7).toList := by
  have subscribed : ((system Nat 1 0).restrict Reaches).Reachable
      ⟨(SubscriptionStateMachine.start 1 0).enterSubscription 1, none⟩ :=
    .step (.initial rfl) ⟨nofun, (show step (start 1 0) (.subscribeEvent 1 .granted) = _ from rfl)⟩
  have registered : ((system Nat 1 0).restrict Reaches).Reachable registeredMachine :=
    .step subscribed ⟨nofun, (show step _ (.setReceiveHandler 7) = _ from rfl)⟩
  exact reachable_handler_registered registered rfl

end TrackedMachine

end ScoreIntegration.Lola
