import ScoreIntegration.Lola.ServiceDiscoveryClient
import ScoreIntegration.Lola.SubscriptionStateMachine

/-!
# A proxy, its events and the service discovery

The worker thread of the discovery client reads flag-file events and calls the handlers
of the searches; the handler of the proxy tells every event whether the provider is
there.  In between searches start and stop, and users call the events.
-/

namespace ScoreIntegration.Lola

open Concurrency

/-- `OfferedStateMachine::State`. -/
inductive OfferedState where
  | offered
  | stopOffered
  | reOffered
  deriving DecidableEq, Repr

namespace OfferedState

/-- `Offer`; the service cannot be offered again while it is re-offered. -/
def offer : OfferedState → Option OfferedState
  | .offered => some .offered
  | .stopOffered => some .reOffered
  | .reOffered => none

def stopOffer : OfferedState → Option OfferedState
  | .offered => some .stopOffered
  | .stopOffered => none
  | .reOffered => some .stopOffered

end OfferedState

inductive ProxyFailure where
  | discovery (failure : DiscoveryFailure)
  | startFindServiceFailed
  | stopOfferWhilePending
  | offeredStateMachine
  | eventNameNotUnique
  | maxSampleCountTooLarge
  deriving DecidableEq, Repr

structure ProxyEvent (η : Type) where
  eventName : String
  subscriptionEventStateMachine : SubscriptionStateMachine η
  deriving DecidableEq, Repr

inductive ProxyEventCall (η : Type) where
  | subscribe (maxSampleCount : Nat) (reply : SubscriptionReply)
  | unsubscribe
  | setReceiveHandler (handler : η)
  | unsetReceiveHandler
  deriving DecidableEq, Repr

namespace ProxyEvent

variable {η : Type}

def notifyServiceInstanceChangedAvailability (event : ProxyEvent η)
    (isAvailable : Bool) (newEventSourcePid : Nat) : Except ProxyFailure (ProxyEvent η) :=
  if isAvailable then
    .ok { event with
      subscriptionEventStateMachine :=
        event.subscriptionEventStateMachine.reOfferEvent newEventSourcePid }
  else
    match event.subscriptionEventStateMachine.stopOfferEvent with
    | some machine => .ok { event with subscriptionEventStateMachine := machine }
    | none => .error .stopOfferWhilePending

def call (event : ProxyEvent η) : ProxyEventCall η → Except ProxyFailure (ProxyEvent η)
  | .subscribe maxSampleCount reply =>
    if maxSampleCount ≤ 255 then
      .ok { event with
        subscriptionEventStateMachine :=
          (event.subscriptionEventStateMachine.subscribeEvent maxSampleCount reply).1 }
    else .error .maxSampleCountTooLarge
  | .unsubscribe =>
    .ok { event with
      subscriptionEventStateMachine := event.subscriptionEventStateMachine.unsubscribeEvent }
  | .setReceiveHandler handler =>
    .ok { event with
      subscriptionEventStateMachine :=
        event.subscriptionEventStateMachine.setReceiveHandler handler }
  | .unsetReceiveHandler =>
    .ok { event with
      subscriptionEventStateMachine := event.subscriptionEventStateMachine.unsetReceiveHandler }

end ProxyEvent

/-- The proxy.  Its events stand in the order in which they were registered. -/
structure Proxy (η : Type) where
  findServiceHandle : FindServiceHandle
  proxyEvents : List (ProxyEvent η)
  isServiceInstanceAvailable : Bool
  offeredStateMachine : OfferedState
  areProxyMethodsSetup : Bool
  areProxyMethodsSubscribed : Bool
  deriving DecidableEq, Repr

namespace Proxy

variable {η : Type}

def create (findServiceHandle : FindServiceHandle) : Proxy η where
  findServiceHandle := findServiceHandle
  proxyEvents := []
  isServiceInstanceAvailable := false
  offeredStateMachine := .offered
  areProxyMethodsSetup := false
  areProxyMethodsSubscribed := false

/-- `RegisterEvent`, called by the constructor of the event. -/
def registerEvent (proxy : Proxy η) (eventName : String)
    (sourcePid curRegistrationNo : Nat) : Except ProxyFailure (Proxy η) :=
  if proxy.proxyEvents.any fun event => event.eventName = eventName then
    .error .eventNameNotUnique
  else do
    let event : ProxyEvent η := ⟨eventName, .start sourcePid curRegistrationNo⟩
    let event ← event.notifyServiceInstanceChangedAvailability
      proxy.isServiceInstanceAvailable sourcePid
    .ok { proxy with proxyEvents := proxy.proxyEvents ++ [event] }

/-- `ServiceAvailabilityChangeHandler` after the loop over the events.  `replied`
tells whether the provider has accepted the subscription of the methods. -/
def updateOffered (proxy : Proxy η) (replied : Bool) : Except ProxyFailure (Proxy η) :=
  let changed :=
    if proxy.isServiceInstanceAvailable then proxy.offeredStateMachine.offer
    else proxy.offeredStateMachine.stopOffer
  match changed with
  | none => .error .offeredStateMachine
  | some state =>
    let proxy := { proxy with offeredStateMachine := state }
    if proxy.areProxyMethodsSetup then
      match state with
      | .stopOffered => .ok { proxy with areProxyMethodsSubscribed := false }
      | .reOffered =>
        if replied then .ok { proxy with areProxyMethodsSubscribed := true }
        else .ok proxy
      | .offered => .ok proxy
    else .ok proxy

end Proxy

/-- The worker is idle, or it calls handlers and may have creations to handle
afterwards. -/
inductive DiscoveryWorker where
  | idle
  | calling (keys : List FindServiceHandle) (creations : Option (List InotifyEvent))

/-- The process.  While the handler of the proxy runs, `notifying` counts the
events that it has told.  `handlerCalls` lists the calls of the handler, the last
one first. -/
structure ProxySystem (η : Type) where
  client : ServiceDiscoveryClient
  nextFreeUid : Nat
  worker : DiscoveryWorker
  proxy : Option (Proxy η)
  notifying : Option Nat
  handlerCalls : List Bool

inductive ProxySystemStep (η : Type) where
  | startFindService (identifier : EnrichedInstanceIdentifier)
      (crawled : Option FlagFileCrawler.Crawled)
  | stopFindService (key : FindServiceHandle)
  | createProxy (instanceIdentifier serviceId instanceId : Nat)
      (qualityType : QualityType) (crawled : Option FlagFileCrawler.Crawled)
  | handleEvents (expectedEvents : Option (List InotifyEvent))
  | callHandler
  | handleCreations
  | finishEvents
  | notifyEvent (newEventSourcePid : Nat)
  | finishNotification (replied : Bool)
  | registerEvent (eventName : String) (sourcePid curRegistrationNo : Nat)
  | callEvent (position : Nat) (call : ProxyEventCall η)
  | setupMethods
  | subscribeMethods (replied : Bool)

namespace ProxySystem

variable {η : Type}

def start : ProxySystem η where
  client := .start
  nextFreeUid := 0
  worker := .idle
  proxy := none
  notifying := none
  handlerCalls := []

/-- The handler of the proxy has taken its lock and set the availability. -/
def enterHandler (system : ProxySystem η) (proxy : Proxy η)
    (handles : Finset HandleType) : ProxySystem η :=
  let isAvailable := decide (handles ≠ ∅)
  { system with
    proxy := some { proxy with isServiceInstanceAvailable := isAvailable }
    notifying := some 0
    handlerCalls := isAvailable :: system.handlerCalls }

/-- `ServiceDiscovery::StartFindService` of another search; a failure is followed
by `StopFindService`. -/
def startFindService (system : ProxySystem η) (identifier : EnrichedInstanceIdentifier)
    (crawled : Option FlagFileCrawler.Crawled) : Except ProxyFailure (ProxySystem η) :=
  let key := system.nextFreeUid
  match system.client.startFindService key identifier crawled with
  | .error failure => .error (.discovery failure)
  | .ok none =>
    .ok { system with
      client := system.client.stopFindService key
      nextFreeUid := key + 1 }
  | .ok (some (client, _)) => .ok { system with client := client, nextFreeUid := key + 1 }

/-- The constructor of the proxy, up to the handler that the start of the search
calls. -/
def createProxy (system : ProxySystem η) (identifier : EnrichedInstanceIdentifier)
    (crawled : Option FlagFileCrawler.Crawled) : Except ProxyFailure (ProxySystem η) :=
  let key := system.nextFreeUid
  match system.client.startFindService key identifier crawled with
  | .error failure => .error (.discovery failure)
  | .ok none => .error .startFindServiceFailed
  | .ok (some (client, handles)) =>
    let system := { system with client := client, nextFreeUid := key + 1 }
    if handles = ∅ then .ok { system with proxy := some (.create key) }
    else .ok (system.enterHandler (.create key) handles)

def handleEvents (system : ProxySystem η) (expectedEvents : Option (List InotifyEvent)) :
    Except ProxyFailure (ProxySystem η) :=
  match system.client.handleEvents expectedEvents with
  | .error failure => .error (.discovery failure)
  | .ok (client, keys, creations) =>
    .ok { system with
      client := client
      worker := .calling keys (some creations) }

/-- The worker calls the next handler.  Other handlers than that of the proxy act
by the other steps. -/
def callHandler (system : ProxySystem η) (key : FindServiceHandle)
    (worker : DiscoveryWorker) : Except ProxyFailure (ProxySystem η) :=
  match system.client.callHandler key with
  | .error failure => .error (.discovery failure)
  | .ok (client, none) => .ok { system with client := client, worker := worker }
  | .ok (client, some handles) =>
    let system := { system with client := client, worker := worker }
    match system.proxy with
    | none => .ok system
    | some proxy =>
      if proxy.findServiceHandle = key then
        .ok (system.enterHandler proxy handles)
      else .ok system

def handleCreations (system : ProxySystem η) (creations : List InotifyEvent) :
    Except ProxyFailure (ProxySystem η) :=
  match system.client.handleCreationEvents [] creations with
  | .error failure => .error (.discovery failure)
  | .ok (client, keys) => .ok { system with client := client, worker := .calling keys none }

def notifyEvent (system : ProxySystem η) (proxy : Proxy η) (position : Nat)
    (event : ProxyEvent η) (newEventSourcePid : Nat) :
    Except ProxyFailure (ProxySystem η) := do
  let event ← event.notifyServiceInstanceChangedAvailability
    proxy.isServiceInstanceAvailable newEventSourcePid
  .ok { system with
    proxy := some { proxy with proxyEvents := proxy.proxyEvents.set position event }
    notifying := some (position + 1) }

def finishNotification (system : ProxySystem η) (proxy : Proxy η)
    (replied : Bool) : Except ProxyFailure (ProxySystem η) := do
  let proxy ← proxy.updateOffered replied
  .ok { system with proxy := some proxy, notifying := none }

def registerEvent (system : ProxySystem η) (proxy : Proxy η) (eventName : String)
    (sourcePid curRegistrationNo : Nat) : Except ProxyFailure (ProxySystem η) := do
  let proxy ← proxy.registerEvent eventName sourcePid curRegistrationNo
  .ok { system with proxy := some proxy }

def callEvent (system : ProxySystem η) (proxy : Proxy η) (position : Nat)
    (event : ProxyEvent η) (call : ProxyEventCall η) :
    Except ProxyFailure (ProxySystem η) := do
  let event ← event.call call
  .ok { system with
    proxy := some { proxy with proxyEvents := proxy.proxyEvents.set position event } }

/-- One step; `none` if it cannot be taken.  The worker waits while the handler
of the proxy runs, and so does the registration of an event. -/
def next (system : ProxySystem η) : ProxySystemStep η → Option (Except ProxyFailure (ProxySystem η))
  | .startFindService identifier crawled => some (system.startFindService identifier crawled)
  | .stopFindService key => some (.ok { system with client := system.client.stopFindService key })
  | .createProxy instanceIdentifier serviceId instanceId qualityType crawled =>
    match system.proxy with
    | some _ => none
    | none => some (system.createProxy
        ⟨instanceIdentifier, serviceId, some instanceId, some qualityType⟩
        crawled)
  | .handleEvents expectedEvents =>
    match system.notifying, system.worker with
    | none, .idle => some (system.handleEvents expectedEvents)
    | _, _ => none
  | .callHandler =>
    match system.notifying, system.worker with
    | none, .calling (key :: keys) creations =>
      some (system.callHandler key (.calling keys creations))
    | _, _ => none
  | .handleCreations =>
    match system.notifying, system.worker with
    | none, .calling [] (some creations) => some (system.handleCreations creations)
    | _, _ => none
  | .finishEvents =>
    match system.notifying, system.worker with
    | none, .calling [] none => some (.ok { system with worker := .idle })
    | _, _ => none
  | .notifyEvent newEventSourcePid =>
    match system.notifying, system.proxy with
    | some position, some proxy =>
      match proxy.proxyEvents[position]? with
      | some event => some (system.notifyEvent proxy position event newEventSourcePid)
      | none => none
    | _, _ => none
  | .finishNotification replied =>
    match system.notifying, system.proxy with
    | some position, some proxy =>
      if proxy.proxyEvents.length ≤ position then
        some (system.finishNotification proxy replied)
      else none
    | _, _ => none
  | .registerEvent eventName sourcePid curRegistrationNo =>
    match system.notifying, system.proxy with
    | none, some proxy => some (system.registerEvent proxy eventName sourcePid curRegistrationNo)
    | _, _ => none
  | .callEvent position call =>
    match system.proxy with
    | some proxy =>
      match proxy.proxyEvents[position]? with
      | some event => some (system.callEvent proxy position event call)
      | none => none
    | none => none
  | .setupMethods =>
    match system.proxy with
    | some proxy => some (.ok { system with
        proxy := some { proxy with areProxyMethodsSetup := true } })
    | none => none
  | .subscribeMethods replied =>
    match system.proxy with
    | some proxy => some (.ok { system with
        proxy := some { proxy with
            areProxyMethodsSubscribed := proxy.areProxyMethodsSubscribed || replied } })
    | none => none

def step (system : ProxySystem η) (label : ProxySystemStep η) : Option (ProxySystem η) :=
  match system.next label with
  | some (.ok after) => some after
  | _ => none

def transitions (η : Type) : TransitionSystem (ProxySystem η) (ProxySystemStep η) :=
  .ofStep start step

end ProxySystem

end ScoreIntegration.Lola
