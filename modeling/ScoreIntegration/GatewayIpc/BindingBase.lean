import Mathlib.Data.Finset.Basic
import Mathlib.Logic.Function.Basic

/-!
# The gateway IPC binding

`Gateway_ipc_binding_base` connects the services of its SOCom runtime with its clients, who
request services, are told of offers, connect and subscribe to events.  A handler is one
step; it runs under the mutex of the binding, but for the end of the handler of a reply to
`Connect_service`, which creates the server connector.
-/

namespace ScoreIntegration.GatewayIpc

/-- The number that `Keys` gives to a service interface and instance. -/
abbrev Key := Nat
abbrev ClientId := Nat
abbrev RemoteHandle := Nat
abbrev EventId := Nat
abbrev SlotHandle := Nat

inductive Message where
  | connect
  | connectReply (status : Bool)
  | requestService (key : Key) (inUse : Bool)
  | offerService (key : Key) (offered : Bool)
  | connectService (key : Key) (requiredId : RemoteHandle) (inUse : Bool)
  | connectServiceReply (requiredId providedId : RemoteHandle)
  | subscribeEvent (providedId : RemoteHandle) (eventId : EventId) (subscribe : Bool)
  | eventUpdate (requiredId : RemoteHandle) (eventId : EventId) (slot : SlotHandle)
  | payloadConsumed (requiredId : RemoteHandle) (slot : SlotHandle)
  deriving DecidableEq, Repr

inductive BindingFailure where
  | clientIdExists
  | connectionNotFound
  | mappingExists
  | inconsistentMapping
  | noServiceState
  | noSlotManager
  | noServerConnector
  | noReadOnlySlotManager
  | noPayload
  | updateRejected
  | serverConnectorNotCreated
  deriving DecidableEq, Repr

/-- An established connection, `Connection_metadata::Ids`. -/
structure Ids where
  key : Key
  localHandle : RemoteHandle
  remoteHandle : RemoteHandle
  deriving DecidableEq, Repr

structure OfferState where
  offered : Bool
  connectSent : Bool
  requiredId : RemoteHandle
  deriving DecidableEq, Repr

/-- The enabled connector is given by the client and the handle that its callbacks
capture.  An event without subscribers has no entry in the source. -/
structure ServiceState where
  requested : Bool
  offers : List (ClientId × OfferState)
  clientConnector : Bool
  clientConnectorPending : Bool
  enabledConnector : Option (ClientId × RemoteHandle)
  eventSubscriptions : EventId → Finset (ClientId × RemoteHandle)

def ServiceState.fresh : ServiceState where
  requested := false
  offers := []
  clientConnector := false
  clientConnectorPending := false
  enabledConnector := none
  eventSubscriptions _ := ∅

/-- What the channels, the shared memory and SOCom answer while a handler runs. -/
structure Outcomes where
  /-- The channel of the client takes a message. -/
  accepts : ClientId → Bool := fun _ => true
  slotManager : Bool := true
  clientConnector : Bool := true
  /-- No other server of the runtime has the interface and instance. -/
  serverConnector : Bool := true
  readOnlySlotManager : Bool := true
  payload : Bool := true
  updated : Bool := true

/-- `sent` lists the messages that the channels took, the oldest first. -/
structure BindingBase where
  connections : List ClientId
  services : Key → Option ServiceState
  idMapping : ClientId → List Ids
  localOffers : Key → Bool
  pendingConnects : RemoteHandle → Option (Key × ClientId)
  interestedPeers : Key → Finset ClientId
  nextLocalId : RemoteHandle
  pendingConsumers : Key → SlotHandle → Nat
  sent : List (ClientId × Message)

namespace BindingBase

def start : BindingBase where
  connections := []
  services _ := none
  idMapping _ := []
  localOffers _ := false
  pendingConnects _ := none
  interestedPeers _ := ∅
  nextLocalId := 1
  pendingConsumers _ _ := 0
  sent := []

variable (binding : BindingBase) (outcomes : Outcomes) (client : ClientId)

def setService (key : Key) (state : Option ServiceState) : BindingBase :=
  { binding with services := Function.update binding.services key state }

def getOrCreate (key : Key) : ServiceState := (binding.services key).getD .fresh

def hasClientConnector (key : Key) : Bool :=
  (binding.services key).any fun state => state.clientConnectorPending || state.clientConnector

def hasConnector (key : Key) : Bool :=
  (binding.services key).any fun state => state.enabledConnector.isSome

def send (client : ClientId) (message : Message) : BindingBase :=
  if outcomes.accepts client then
    { binding with sent := binding.sent ++ [(client, message)] }
  else binding

def sendToAll (message : Message) : BindingBase :=
  binding.connections.foldl (fun binding client => binding.send outcomes client message) binding

/-! ## Connection metadata and pending connects -/

def addMapping (client : ClientId) (ids : Ids) : Except BindingFailure BindingBase :=
  match (binding.idMapping client).find? fun existing =>
      existing.localHandle = ids.localHandle ∨ existing.key = ids.key with
  | some existing =>
    if existing.localHandle = ids.localHandle ∧ existing.key = ids.key then
      .error .mappingExists
    else .error .inconsistentMapping
  | none =>
    .ok { binding with
      idMapping := Function.update binding.idMapping client (binding.idMapping client ++ [ids]) }

def getByRemoteHandle (client : ClientId) (handle : RemoteHandle) : Option Ids :=
  (binding.idMapping client).find? fun ids => ids.remoteHandle = handle

def getByLocalHandle (client : ClientId) (handle : RemoteHandle) : Option Ids :=
  (binding.idMapping client).find? fun ids => ids.localHandle = handle

def filterMappings (keep : ClientId → Ids → Bool) : BindingBase :=
  { binding with
    idMapping := fun client => (binding.idMapping client).filter (keep client) }

def removeService (key : Key) : BindingBase := binding.filterMappings fun _ ids => ids.key ≠ key

def removeMappingForClientAndKey (client : ClientId) (key : Key) : BindingBase :=
  binding.filterMappings fun other ids => other ≠ client ∨ ids.key ≠ key

def removeMapping (client : ClientId) (handle : RemoteHandle) : BindingBase :=
  binding.filterMappings fun other ids => other ≠ client ∨ ids.remoteHandle ≠ handle

def clearPendingConnects (checker : Key × ClientId → Bool) : BindingBase :=
  { binding with
    pendingConnects := fun handle =>
      (binding.pendingConnects handle).filter fun pending => !checker pending }

def clearPendingConnectsForKeyLocked (key : Key) (client : ClientId) : BindingBase :=
  binding.clearPendingConnects fun pending => pending.1 = key ∧ pending.2 = client

/-! ## Event subscriptions -/

/-- The subscriptions that `keep` selects stay.  The client connector of a service is
subscribed to the events that have a subscriber. -/
def ServiceState.filterSubscriptions (state : ServiceState)
    (keep : ClientId × RemoteHandle → Bool) : ServiceState :=
  { state with
    eventSubscriptions := fun event => (state.eventSubscriptions event).filter
      fun endpoint => keep endpoint }

def removeEventSubscriptionsForClient (client : ClientId) : BindingBase :=
  { binding with
    services := fun key => (binding.services key).map fun state =>
      ServiceState.filterSubscriptions state fun endpoint => endpoint.1 ≠ client }

def removeEventSubscriptionsForConnection (key : Key) (client : ClientId)
    (providedId : RemoteHandle) : BindingBase :=
  binding.setService key <| (binding.services key).map fun state =>
    ServiceState.filterSubscriptions state fun endpoint => endpoint ≠ (client, providedId)

def clearEventSubscriptions (key : Key) : BindingBase :=
  binding.setService key <| (binding.services key).map fun state =>
    ServiceState.filterSubscriptions state fun _ => false

def updateEventSubscription (key : Key) (endpoint : ClientId × RemoteHandle)
    (event : EventId) (subscribe : Bool) : BindingBase :=
  binding.setService key <| (binding.services key).map fun state =>
    let subscribers := state.eventSubscriptions event
    { state with
      eventSubscriptions := Function.update state.eventSubscriptions event
        (if subscribe then insert endpoint subscribers else subscribers.erase endpoint) }

/-! ## Requests, offers and connects -/

/-- One offer of `send_connect_service`: the connect is pending also when the channel
does not take it, and is then tried again later. -/
def sendConnect (key : Key) (client : ClientId) (offer : OfferState) :
    Except BindingFailure (BindingBase × OfferState) :=
  if !offer.offered || offer.connectSent then .ok (binding, offer)
  else if !outcomes.slotManager then .error .noSlotManager
  else if client ∉ binding.connections then .error .connectionNotFound
  else
    let isNew := offer.requiredId = 0
    let requiredId := if isNew then binding.nextLocalId else offer.requiredId
    let pending := (binding.pendingConnects requiredId).getD (key, client)
    let binding := { binding with
      nextLocalId := if isNew then binding.nextLocalId + 1 else binding.nextLocalId
      pendingConnects := Function.update binding.pendingConnects requiredId (some pending) }
    .ok (binding.send outcomes client (.connectService key requiredId true),
      { offer with connectSent := outcomes.accepts client, requiredId := requiredId })

def sendConnects (key : Key) : BindingBase → List (ClientId × OfferState) →
    Except BindingFailure (BindingBase × List (ClientId × OfferState))
  | binding, [] => .ok (binding, [])
  | binding, (client, offer) :: offers => do
    let (binding, offer) ← binding.sendConnect outcomes key client offer
    let (binding, offers) ← sendConnects key binding offers
    .ok (binding, (client, offer) :: offers)

def maybeSendConnectServiceLocked (key : Key) : Except BindingFailure BindingBase :=
  match binding.services key with
  | none => .ok binding
  | some state =>
    if !state.requested then .ok binding
    else do
      let (binding, offers) ← sendConnects outcomes key binding state.offers
      .ok (binding.setService key (some { state with offers := offers }))

/-- Nothing is sent when the request comes from our own client connector. -/
def sendRequestServiceLocked (key : Key) (inUse : Bool) : BindingBase :=
  if binding.hasClientConnector key then binding
  else binding.sendToAll outcomes (.requestService key inUse)

/-- A `Request_service_handle` is created or destroyed. -/
def sendRequestService (key : Key) (inUse : Bool) : Except BindingFailure BindingBase :=
  if binding.hasClientConnector key then .ok binding
  else
    let sent := binding.sendToAll outcomes (.requestService key inUse)
    if inUse then
      maybeSendConnectServiceLocked (sent.setService key
        (some { sent.getOrCreate key with requested := true })) outcomes key
    else
      .ok (((sent.setService key none).removeService key).clearPendingConnects
        fun pending => pending.1 = key)

/-! ## Messages -/

def addClient (client : ClientId) : Except BindingFailure BindingBase :=
  if client ∈ binding.connections then .error .clientIdExists
  else .ok { binding with connections := binding.connections ++ [client] }

def ServiceState.removeOffers (state : ServiceState) (client : ClientId) : ServiceState :=
  if state.offers.all fun offer => offer.1 ≠ client then state
  else
    let offers := state.offers.filter fun offer => offer.1 ≠ client
    if offers ≠ [] then { state with offers := offers }
    else
      { state with
        offers := []
        eventSubscriptions := fun _ => ∅
        enabledConnector := none }

def removeClient : BindingBase :=
  let binding := removeEventSubscriptionsForClient
    { binding with connections := binding.connections.erase client } client
  let binding := { binding with
    services := fun key => (binding.services key).map fun state =>
      ServiceState.removeOffers state client
    interestedPeers := fun key => (binding.interestedPeers key).erase client
    idMapping := Function.update binding.idMapping client [] }
  binding.clearPendingConnects fun pending => pending.2 = client

/-- `order` is the order in which the map of services is traversed. -/
def handleConnectMessage (order : List Key) : BindingBase :=
  order.foldl (fun binding key =>
      if (binding.services key).any fun state => state.requested then
        binding.send outcomes client (.requestService key true)
      else binding)
    (binding.send outcomes client (.connectReply true))

def handleConnectReplyMessage (order : List Key) : Except BindingFailure BindingBase :=
  order.foldlM (fun binding key =>
      let requested := (binding.services key).any fun state => state.requested
      maybeSendConnectServiceLocked
        (if requested then binding.sendRequestServiceLocked outcomes key true
          else binding) outcomes key)
    binding

def handleRequestServiceMessage (key : Key) (inUse : Bool) : BindingBase :=
  if !inUse then
    let binding := ((binding.removeEventSubscriptionsForClient client
      ).removeMappingForClientAndKey client key).clearPendingConnectsForKeyLocked key client
    { binding with
      interestedPeers := Function.update binding.interestedPeers key
        ((binding.interestedPeers key).erase client) }
  else
    let binding := { binding with
      interestedPeers := Function.update binding.interestedPeers key
        (insert client (binding.interestedPeers key)) }
    if binding.localOffers key then
      binding.send outcomes client (.offerService key true)
    else if binding.hasClientConnector key || binding.hasConnector key ||
        (binding.services key).any fun state => state.requested then binding
    else
      binding.setService key (some { binding.getOrCreate key with
        clientConnector := outcomes.clientConnector })

def handleOfferServiceMessage (key : Key) (offered : Bool) : Except BindingFailure BindingBase :=
  let state := binding.getOrCreate key
  if !offered then
    let binding := binding.setService key (some { state with
      offers := state.offers.filter fun offer => offer.1 ≠ client
      enabledConnector := none })
    .ok (((binding.clearEventSubscriptions key).removeService key
      ).clearPendingConnectsForKeyLocked key client)
  else
    let known := state.offers.any fun offer => offer.1 = client
    let offers := if known then state.offers else state.offers ++ [(client, ⟨true, false, 0⟩)]
    maybeSendConnectServiceLocked
      (binding.setService key (some { state with offers := offers })) outcomes key

def handleSubscribeEventMessage (providedId : RemoteHandle)
    (event : EventId) (subscribe : Bool) : BindingBase :=
  match binding.getByLocalHandle client providedId with
  | none => binding
  | some ids => binding.updateEventSubscription ids.key (client, providedId) event subscribe

def handleEventUpdateMessage (requiredId : RemoteHandle) : Except BindingFailure BindingBase :=
  match binding.getByRemoteHandle client requiredId with
  | none => .ok binding
  | some ids =>
    if !binding.hasConnector ids.key then .error .noServerConnector
    else if !outcomes.readOnlySlotManager then .error .noReadOnlySlotManager
    else if !outcomes.payload then .error .noPayload
    else if !outcomes.updated then .error .updateRejected
    else .ok binding

def payloadConsumed (key : Key) (slot : SlotHandle) : BindingBase :=
  { binding with
    pendingConsumers := Function.update binding.pendingConsumers key
      (Function.update (binding.pendingConsumers key) slot
        (binding.pendingConsumers key slot - 1)) }

def handlePayloadConsumedMessage (requiredId : RemoteHandle) (slot : SlotHandle) : BindingBase :=
  match binding.getByRemoteHandle client requiredId with
  | none => binding
  | some ids => binding.payloadConsumed ids.key slot

def handleConnectServiceMessage (key : Key) (requiredId : RemoteHandle) (inUse : Bool) :
    Except BindingFailure BindingBase :=
  if !inUse then
    let binding := match binding.getByRemoteHandle client requiredId with
      | none => binding
      | some ids => binding.removeEventSubscriptionsForConnection key client ids.localHandle
    let binding := (binding.removeMapping client requiredId
      ).clearPendingConnectsForKeyLocked key client
    .ok (binding.setService key <| (binding.services key).map fun state =>
      { state with clientConnectorPending := false, clientConnector := false })
  else if !outcomes.slotManager then .error .noSlotManager
  else do
    let providedId := binding.nextLocalId
    let binding ← addMapping { binding with nextLocalId := providedId + 1 } client
      ⟨key, providedId, requiredId⟩
    if (binding.services key).isNone then .error .noServiceState
    else .ok (binding.send outcomes client (.connectServiceReply requiredId providedId))

def handleConnectServiceReplyMessage (requiredId providedId : RemoteHandle) :
    Except BindingFailure BindingBase :=
  match binding.pendingConnects requiredId with
  | none => .ok binding
  | some (key, pendingClient) =>
    if pendingClient ≠ client then .ok binding
    else
      let erased := { binding with
        pendingConnects := Function.update binding.pendingConnects requiredId none }
      match binding.services key with
      | none => .ok erased
      | some state =>
        if !outcomes.slotManager then .error .noSlotManager
        else do
          let mapped ← erased.addMapping client ⟨key, providedId, requiredId⟩
          if state.enabledConnector.isSome || !outcomes.serverConnector then
            .error .serverConnectorNotCreated
          else .ok (mapped.setService key (some { state with
            enabledConnector := some (client, providedId) }))

end BindingBase

end ScoreIntegration.GatewayIpc
