import Mathlib.Data.Finset.Basic
import Mathlib.Logic.Function.Basic

/-!
# The LoLa gateway application

The application forwards services that the service discovery finds to the peer gateway, and
provides services of the peer locally.  Events come in any order, and every call of the
middleware or of the transport may fail.
-/

namespace ScoreIntegration.LolaGateway

abbrev Specifier := String
abbrev ElementName := String

inductive ServiceElementType where
  | invalid
  | event
  | field
  | method
  deriving DecidableEq, Repr

inductive AssertionFailure where
  | unavailableWithoutProxy
  | propagatedWithoutProxy
  | unregisterOnlySupportsEvents
  | notifyOnlySupportsEvents
  deriving DecidableEq, Repr

inductive GatewayErrorc where
  | nonWhitelistedService
  | skeletonCreationFailed
  | skeletonOfferFailed
  | unknownServiceInstance
  | unknownServiceElement
  | subscriptionFailed
  | receiveHandlerRegistrationFailed
  | notificationFailed
  deriving DecidableEq, Repr

/-- What the transport logs after it has called the application. -/
abbrev Answer := Except GatewayErrorc Unit

/-- `isValid` is the check of `InstanceSpecifier::Create`. -/
structure GatewayConfiguration where
  receivedServices : List Specifier
  isValid : Specifier → Bool

/-- What the middleware and the transport answer while one callback or message is
handled. -/
structure Outcomes where
  /-- The elements of the new proxy. -/
  proxy : Option (Finset ElementName)
  requestSent : Bool
  sharedMemoryBound : Bool
  skeletonCreated : Bool
  offered : Bool
  subscribed : Bool
  receiveHandlerSet : Bool
  notified : Bool

inductive TransportMessage where
  | provideServiceRequest (specifier : Specifier) (elements : Finset ElementName)
  | offerServiceRequest (specifier : Specifier)
  | stopOfferServiceRequest (specifier : Specifier)
  | registerNotificationRequest (specifier : Specifier)
      (elementType : ServiceElementType) (elementName : ElementName)
  | unregisterNotificationRequest (specifier : Specifier)
      (elementType : ServiceElementType) (elementName : ElementName)
  | updateNotification (specifier : Specifier) (elementType : ServiceElementType)
      (elementName : ElementName)
  /-- No message, an unexpected type or a type that does not fit the content. -/
  | unexpected

def TransportMessage.specifier : TransportMessage → Specifier
  | .provideServiceRequest specifier _ => specifier
  | .offerServiceRequest specifier => specifier
  | .stopOfferServiceRequest specifier => specifier
  | .registerNotificationRequest specifier _ _ => specifier
  | .unregisterNotificationRequest specifier _ _ => specifier
  | .updateNotification specifier _ _ => specifier
  | .unexpected => ""

/-- The proxies and skeletons with the names of their events. -/
structure GatewayApplication where
  proxies : Specifier → Option (Finset ElementName)
  skeletons : Specifier → Option (Finset ElementName)
  activeEventSubscriptions : Specifier → Finset ElementName

namespace GatewayApplication

def start : GatewayApplication where
  proxies _ := none
  skeletons _ := none
  activeEventSubscriptions _ := ∅

variable (config : GatewayConfiguration) (app : GatewayApplication)

section

variable (specifier : Specifier)

/-- The proxy is erased when the request cannot be sent, to be created anew when the
service is found again. -/
def propagateService (outcomes : Outcomes) : Except AssertionFailure GatewayApplication :=
  match app.proxies specifier with
  | none => .error .propagatedWithoutProxy
  | some _ =>
    if !config.isValid specifier then .ok app
    else if outcomes.requestSent then .ok app
    else .ok { app with proxies := Function.update app.proxies specifier none }

/-- The proxy is kept, and with it the marker that the service is in use. -/
def onServiceUnavailable : Except AssertionFailure GatewayApplication :=
  match app.proxies specifier with
  | none => .error .unavailableWithoutProxy
  | some _ => .ok app

def onServiceAvailabilityChanged (hasHandles : Bool)
    (outcomes : Outcomes) : Except AssertionFailure GatewayApplication :=
  if !hasHandles then app.onServiceUnavailable specifier
  else if (app.proxies specifier).isSome then
    app.propagateService config specifier outcomes
  else
    match outcomes.proxy with
    | none => .ok app
    | some elements =>
      propagateService config
        { app with proxies := Function.update app.proxies specifier (some elements) }
        specifier outcomes

def onSubscriptionStateChanged (elementName : ElementName)
    (hasSubscribers : Bool) : GatewayApplication :=
  if !config.isValid specifier then app
  else
    let active := app.activeEventSubscriptions specifier
    { app with
      activeEventSubscriptions := Function.update app.activeEventSubscriptions
        specifier (if hasSubscribers then insert elementName active else active.erase elementName) }

/-- An existing skeleton is offered again, also if that fails. -/
def provideService (elements : Finset ElementName)
    (outcomes : Outcomes) : GatewayApplication × Answer :=
  if specifier ∉ config.receivedServices then (app, .error .nonWhitelistedService)
  else if (app.skeletons specifier).isSome then (app, .ok ())
  else if outcomes.skeletonCreated && outcomes.offered then
    ({ app with skeletons := Function.update app.skeletons specifier (some elements) }, .ok ())
  else (app, .error .skeletonCreationFailed)

def offerService (outcomes : Outcomes) : Answer :=
  if (app.skeletons specifier).isSome && outcomes.offered then .ok ()
  else .error .skeletonOfferFailed

def registerUpdateNotification (elementName : ElementName) (outcomes : Outcomes) : Answer :=
  match app.proxies specifier with
  | none => .error .unknownServiceInstance
  | some elements =>
    if elementName ∉ elements then .error .unknownServiceElement
    else if !outcomes.subscribed then .error .subscriptionFailed
    else if !outcomes.receiveHandlerSet then .error .receiveHandlerRegistrationFailed
    else .ok ()

variable (elementType : ServiceElementType) (elementName : ElementName)

def unregisterUpdateNotification : Except AssertionFailure Answer :=
  match app.proxies specifier with
  | none => .ok (.error .unknownServiceInstance)
  | some elements =>
    if elementType ≠ .event then .error .unregisterOnlySupportsEvents
    else if elementName ∉ elements then .ok (.error .unknownServiceElement)
    else .ok (.ok ())

def notifyUpdate (outcomes : Outcomes) : Except AssertionFailure Answer :=
  match app.skeletons specifier with
  | none => .ok (.error .unknownServiceInstance)
  | some elements =>
    if elementType ≠ .event then .error .notifyOnlySupportsEvents
    else if elementName ∉ elements then .ok (.error .unknownServiceElement)
    else if !outcomes.notified then .ok (.error .notificationFailed)
    else .ok (.ok ())

end

/-- The handlers of the transport, with the answer of the application if one is
called that has an answer. -/
def onMessageReceived (outcomes : Outcomes) (message : TransportMessage) :
    Except AssertionFailure (GatewayApplication × Option Answer) :=
  if !config.isValid message.specifier then .ok (app, none)
  else
    match message with
    | .provideServiceRequest specifier elements =>
      if outcomes.sharedMemoryBound then
        let provided := app.provideService config specifier elements outcomes
        .ok (provided.1, some provided.2)
      else .ok (app, none)
    | .offerServiceRequest specifier => .ok (app, some (app.offerService specifier outcomes))
    -- The skeleton is kept, to be offered again.
    | .stopOfferServiceRequest _ => .ok (app, none)
    | .registerNotificationRequest specifier _ elementName =>
      .ok (app, some (app.registerUpdateNotification specifier elementName outcomes))
    | .unregisterNotificationRequest specifier elementType elementName => do
      let answer ← app.unregisterUpdateNotification specifier elementType elementName
      .ok (app, some answer)
    | .updateNotification specifier elementType elementName => do
      let answer ← app.notifyUpdate specifier elementType elementName outcomes
      .ok (app, some answer)
    | .unexpected => .ok (app, none)

inductive Input where
  | findService (specifier : Specifier) (hasHandles : Bool)
  | subscription (specifier : Specifier) (elementName : ElementName) (hasSubscribers : Bool)
  | message (message : TransportMessage)

def handle (input : Input) (outcomes : Outcomes) : Except AssertionFailure GatewayApplication :=
  match input with
  | .findService specifier hasHandles =>
    app.onServiceAvailabilityChanged config specifier hasHandles outcomes
  | .subscription specifier elementName hasSubscribers =>
    .ok (app.onSubscriptionStateChanged config specifier elementName hasSubscribers)
  | .message message => do
    let received ← app.onMessageReceived config outcomes message
    .ok received.1

def run (app : GatewayApplication) : List (Input × Outcomes) →
    Except AssertionFailure GatewayApplication
  | [] => .ok app
  | (input, outcomes) :: inputs => do
    let after ← app.handle config input outcomes
    after.run inputs

/-! ## Histories -/

/-- The callbacks and messages of a run, with what the middleware and the transport answered. -/
abbrev History := List (Input × Outcomes)

section

variable (specifier : Specifier)

/-- The service is found, and a proxy can be created for it. -/
def Creates : Input × Outcomes → Prop
  | (.findService found true, outcomes) => specifier = found ∧ outcomes.proxy.isSome
  | _ => False

/-- If the service is found, the request to the peer can be sent. -/
def Sends : Input × Outcomes → Prop
  | (.findService found true, outcomes) =>
    specifier = found → config.isValid specifier → outcomes.requestSent
  | _ => True

/-- The peer requests a service that may be received, and all that it takes succeeds. -/
def Provides : Input × Outcomes → Prop
  | (.message (.provideServiceRequest requested _), outcomes) =>
    specifier = requested ∧ config.isValid specifier ∧ specifier ∈ config.receivedServices ∧
      outcomes.sharedMemoryBound ∧ outcomes.skeletonCreated ∧ outcomes.offered
  | _ => False

/-- A proxy was created, and no request has failed since. -/
def Forwarded (history : History) : Prop :=
  ∃ earlier event later, history = earlier ++ event :: later ∧ Creates specifier event ∧
    ∀ sent ∈ event :: later, Sends config specifier sent

def Provided (history : History) : Prop := ∃ event ∈ history, Provides config specifier event

end

/-- A forwarded service disappears, and the peer names an event when it notifies of an update
of a provided service or unregisters from updates of a forwarded one. -/
def Expects (forwarded provided : Specifier → Prop) : Input → Prop
  | .findService specifier hasHandles => hasHandles = false → forwarded specifier
  | .subscription _ _ _ => True
  | .message (.unregisterNotificationRequest specifier elementType _) =>
    config.isValid specifier → forwarded specifier → elementType = .event
  | .message (.updateNotification specifier elementType _) =>
    config.isValid specifier → provided specifier → elementType = .event
  | .message _ => True

def Expected (history : History) : Input → Prop :=
  Expects config (Forwarded config · history) (Provided config · history)

/-- The maps of the application agree with what has happened. -/
structure Follows (history : History) (app : GatewayApplication) : Prop where
  proxies : ∀ specifier, (app.proxies specifier).isSome ↔ Forwarded config specifier history
  skeletons : ∀ specifier, (app.skeletons specifier).isSome ↔ Provided config specifier history

section

variable {config app} {history : History} {event : Input × Outcomes} {outcomes : Outcomes}
  {after : GatewayApplication} {s : Specifier}

theorem forwarded_concat : Forwarded config s (history ++ [event]) ↔
      (Forwarded config s history ∨ Creates s event) ∧ Sends config s event := by
  constructor
  · rintro ⟨earlier, created, later, split, creates, sends⟩
    rcases List.eq_nil_or_concat' later with rfl | ⟨rest, last, rfl⟩
    · cases (List.append_inj' split rfl).2
      exact ⟨.inr creates, sends event (.head _)⟩
    · rw [← List.cons_append, ← List.append_assoc] at split
      obtain ⟨rfl, isLast⟩ := List.append_inj' split rfl
      cases isLast
      obtain ⟨sent, sendsLast⟩ := List.forall_mem_append.mp (List.cons_append ▸ sends)
      exact ⟨.inl ⟨earlier, created, rest, rfl, creates, sent⟩, sendsLast event (.head _)⟩
  · rintro ⟨⟨earlier, created, later, rfl, creates, sent⟩ | creates, sends⟩
    · refine ⟨earlier, created, later ++ [event], by simp, creates, ?_⟩
      rw [← List.cons_append]
      exact List.forall_mem_append.mpr ⟨sent, List.forall_mem_singleton.mpr sends⟩
    · exact ⟨history, event, [], rfl, creates, List.forall_mem_singleton.mpr sends⟩

theorem provided_concat : Provided config s (history ++ [event]) ↔
      Provided config s history ∨ Provides config s event := by
  simp [Provided, or_and_right, exists_or]

theorem findService_maps {specifier hasHandles}
    (handled : app.onServiceAvailabilityChanged config specifier hasHandles outcomes = .ok after) :
    ((after.proxies s).isSome ↔ ((app.proxies s).isSome ∨
      Creates s (.findService specifier hasHandles, outcomes)) ∧
        Sends config s (.findService specifier hasHandles, outcomes)) ∧
      after.skeletons = app.skeletons := by
  unfold onServiceAvailabilityChanged onServiceUnavailable propagateService at handled
  dsimp only at handled
  split_ifs at handled <;> (repeat' split at handled) <;> cases handled <;>
    by_cases same : s = specifier <;> simp_all [Creates, Sends]

theorem subscription_maps (specifier : Specifier) (elementName : ElementName)
    (hasSubscribers : Bool) :
    (app.onSubscriptionStateChanged config specifier elementName hasSubscribers).proxies =
        app.proxies ∧
      (app.onSubscriptionStateChanged config specifier elementName hasSubscribers).skeletons =
        app.skeletons := by
  unfold onSubscriptionStateChanged
  split <;> exact ⟨rfl, rfl⟩

theorem provideService_maps (specifier : Specifier) (elems : Finset ElementName)
    (outcomes : Outcomes) :
    (app.provideService config specifier elems outcomes).1.proxies = app.proxies ∧
      (((app.provideService config specifier elems outcomes).1.skeletons s).isSome ↔
        (app.skeletons s).isSome ∨ s = specifier ∧ specifier ∈ config.receivedServices ∧
          outcomes.skeletonCreated ∧ outcomes.offered) := by
  unfold provideService
  by_cases same : s = specifier <;> split_ifs <;> simp_all

theorem message_maps {msg received}
    (handled : app.onMessageReceived config outcomes msg = .ok received) :
    received.1.proxies = app.proxies ∧ ((received.1.skeletons s).isSome ↔
      (app.skeletons s).isSome ∨ Provides config s (.message msg, outcomes)) := by
  unfold onMessageReceived at handled
  cases msg with
  | provideServiceRequest specifier elems =>
    obtain ⟨proxies, skeletons⟩ := @provideService_maps config app s specifier elems outcomes
    cases valid : config.isValid specifier <;> cases bound : outcomes.sharedMemoryBound <;>
      simp [TransportMessage.specifier, valid, bound] at handled <;> subst handled <;>
      by_cases same : s = specifier <;> simp_all [Provides]
  | unregisterNotificationRequest specifier elementType elementName =>
    cases answered : app.unregisterUpdateNotification specifier elementType elementName <;>
      simp only [answered] at handled <;> split at handled <;> cases handled <;> simp [Provides]
  | updateNotification specifier elementType elementName =>
    cases answered : app.notifyUpdate specifier elementType elementName outcomes <;>
      simp only [answered] at handled <;> split at handled <;> cases handled <;> simp [Provides]
  | _ => split at handled <;> cases handled <;> simp [Provides]

theorem handle_message {msg} (handled : app.handle config (.message msg) outcomes = .ok after) :
    ∃ received, app.onMessageReceived config outcomes msg = .ok received ∧ received.1 = after := by
  rw [GatewayApplication.handle] at handled
  cases answered : app.onMessageReceived config outcomes msg <;> rw [answered] at handled <;>
    cases handled
  exact ⟨_, rfl, rfl⟩

theorem Follows.handle {input} (follows : Follows config history app)
    (handled : app.handle config input outcomes = .ok after) :
    Follows config (history ++ [(input, outcomes)]) after := by
  refine ⟨fun s => ?_, fun s => ?_⟩
  · rw [forwarded_concat, ← follows.proxies]
    cases input with
    | findService specifier hasHandles => exact (findService_maps handled).1
    | subscription specifier elementName hasSubscribers =>
      cases handled
      simp [subscription_maps, Creates, Sends]
    | message msg =>
      obtain ⟨received, answered, rfl⟩ := handle_message handled
      simp [(message_maps (s := s) answered).1, Creates, Sends]
  · rw [provided_concat, ← follows.skeletons]
    cases input with
    | findService specifier hasHandles =>
      rw [(findService_maps (s := s) handled).2]
      simp [Provides]
    | subscription specifier elementName hasSubscribers =>
      cases handled
      simp [subscription_maps, Provides]
    | message msg =>
      obtain ⟨received, answered, rfl⟩ := handle_message handled
      exact (message_maps answered).2

end

/-- The inputs that are expected where the maps are as they are. -/
def Accepts : Input → Prop :=
  Expects config (fun specifier => (app.proxies specifier).isSome)
    fun specifier => (app.skeletons specifier).isSome

section

variable {ε α β : Type}

@[simp]
theorem isOk_ok (res : α) : (.ok res : Except ε α).isOk = true := rfl

@[simp]
theorem isOk_error (failure : ε) : (.error failure : Except ε α).isOk = false := rfl

theorem isOk_bind_ok (computation : Except ε α) (next : α → β) :
    (computation >>= fun res => .ok (next res)).isOk = computation.isOk := by
  cases computation <;> rfl

end

theorem propagateService_isOk {specifier}
    (hasProxy : (app.proxies specifier).isSome) (outcomes : Outcomes) :
    (app.propagateService config specifier outcomes).isOk := by
  obtain ⟨elems, isProxy⟩ := Option.isSome_iff_exists.mp hasProxy
  simp [propagateService, isProxy, apply_ite Except.isOk]

section

variable (specifier : Specifier) (elementType : ServiceElementType) (elementName : ElementName)

theorem unregisterUpdateNotification_isOk_iff :
    (app.unregisterUpdateNotification specifier elementType elementName).isOk ↔
      ((app.proxies specifier).isSome → elementType = .event) := by
  unfold unregisterUpdateNotification
  cases app.proxies specifier with
  | none => simp
  | some elems => by_cases isEvent : elementType = .event <;> simp [isEvent, apply_ite Except.isOk]

theorem notifyUpdate_isOk_iff (outcomes : Outcomes) :
    (app.notifyUpdate specifier elementType elementName outcomes).isOk ↔
      ((app.skeletons specifier).isSome → elementType = .event) := by
  unfold notifyUpdate
  cases app.skeletons specifier with
  | none => simp
  | some elems => by_cases isEvent : elementType = .event <;> simp [isEvent, apply_ite Except.isOk]

end

theorem onMessageReceived_isOk_iff (outcomes : Outcomes) (msg : TransportMessage) :
    (app.onMessageReceived config outcomes msg).isOk ↔ app.Accepts config (.message msg) := by
  unfold onMessageReceived
  by_cases isValid : config.isValid msg.specifier = true
  · rw [isValid]
    simp only [Bool.not_true, Bool.false_eq_true, if_false]
    cases msg with
    | unregisterNotificationRequest specifier elementType elementName =>
      rw [isOk_bind_ok, unregisterUpdateNotification_isOk_iff]
      exact ⟨fun known _ => known, fun known => known isValid⟩
    | updateNotification specifier elementType elementName =>
      rw [isOk_bind_ok, notifyUpdate_isOk_iff]
      exact ⟨fun known _ => known, fun known => known isValid⟩
    | provideServiceRequest specifier elems =>
      dsimp only
      split <;> exact iff_of_true rfl trivial
    | _ => exact iff_of_true rfl trivial
  · simp only [isValid, Bool.not_false, if_true]
    refine iff_of_true rfl ?_
    cases msg with
    | unregisterNotificationRequest specifier elementType elementName
    | updateNotification specifier elementType elementName =>
      exact fun valid => absurd valid isValid
    | _ => trivial

theorem handle_isOk_iff (input : Input) (outcomes : Outcomes) :
    (app.handle config input outcomes).isOk ↔ app.Accepts config input := by
  cases input with
  | findService specifier hasHandles =>
    rw [handle, Accepts, Expects]
    unfold onServiceAvailabilityChanged onServiceUnavailable
    cases hasHandles with
    | false => cases app.proxies specifier <;> simp
    | true =>
      simp only [Bool.not_true, Bool.false_eq_true, if_false, Bool.true_eq_false,
        false_implies, iff_true]
      split
      next hasProxy => exact propagateService_isOk config app hasProxy outcomes
      · split
        · rfl
        · exact propagateService_isOk config _ (by simp) outcomes
  | subscription specifier elementName hasSubscribers =>
    simp [handle, Accepts, Expects]
  | message msg => rw [← onMessageReceived_isOk_iff config app outcomes msg, handle, isOk_bind_ok]

theorem accepts_iff {history} (follows : Follows config history app) (input : Input) :
    app.Accepts config input ↔ Expected config history input := by
  have proxies := funext fun specifier => propext (follows.proxies specifier)
  have skeletons := funext fun specifier => propext (follows.skeletons specifier)
  rw [Accepts, Expected, proxies, skeletons]

theorem run_isOk_iff_of_follows {history} (follows : Follows config history app)
    (inputs : History) : (app.run config inputs).isOk ↔
      ∀ earlier input outcomes later, inputs = earlier ++ (input, outcomes) :: later →
        Expected config (history ++ earlier) input := by
  induction inputs generalizing history app with
  | nil => simp [run]
  | cons first rest ih =>
    obtain ⟨input, outcomes⟩ := first
    have splits : (∀ earlier other answers later,
          (input, outcomes) :: rest = earlier ++ (other, answers) :: later →
            Expected config (history ++ earlier) other) ↔
        Expected config history input ∧ ∀ earlier other answers later,
          rest = earlier ++ (other, answers) :: later →
            Expected config (history ++ [(input, outcomes)] ++ earlier) other := by
      constructor
      · intro all
        refine ⟨by simpa using all [] input outcomes rest rfl, ?_⟩
        rintro earlier other answers later rfl
        simpa using all ((input, outcomes) :: earlier) other answers later rfl
      · rintro ⟨isFirst, others⟩ (_ | ⟨head, earlier⟩) other answers later split <;> cases split
        · simpa using isFirst
        · simpa using others earlier other answers later rfl
    rw [splits, ← accepts_iff config app follows, ← handle_isOk_iff config app input outcomes, run]
    cases handled : app.handle config input outcomes with
    | error failure => exact iff_of_false Bool.false_ne_true fun both => nomatch both.1
    | ok after =>
      rw [← ih after (follows.handle handled)]
      exact (and_iff_right rfl).symm

/-- A sequence of inputs is handled without a failed assertion exactly when each of
them is expected after the callbacks and messages before it. -/
theorem run_isOk_iff (inputs : History) : (start.run config inputs).isOk ↔
      ∀ earlier input outcomes later, inputs = earlier ++ (input, outcomes) :: later →
        Expected config earlier input := by
  have follows : Follows config [] start :=
    ⟨by simp [start, Forwarded], by simp [start, Provided]⟩
  exact run_isOk_iff_of_follows config start follows inputs

/-- A proxy cannot be created for a service that is found, and then the service
disappears. -/
theorem vanished_service_fails_assertion : start.run ⟨[], fun _ => true⟩
      [(.findService "service" true, ⟨none, true, true, true, true, true, true, true⟩),
        (.findService "service" false, ⟨none, true, true, true, true, true, true, true⟩)] =
      .error .unavailableWithoutProxy :=
  rfl

end GatewayApplication

end ScoreIntegration.LolaGateway
