import Mathlib.Data.Finset.Sort
import ScoreIntegration.Concurrency.Transitions
import ScoreIntegration.GatewayIpc.BindingBase

/-!
# Runs of the gateway IPC binding

Messages, requests of the local runtime and callbacks of its connectors come in any order.
A client is added before its first message and removed after its last one, as in
`Gateway_ipc_binding_server`.  Then no reply channel is missing where the binding asserts it.
-/

namespace ScoreIntegration.GatewayIpc

namespace BindingBase

section

variable (binding : BindingBase) (outcomes : Outcomes)

/-- A loop over recorded clients needs the reply channel of each of them. -/
def sendToRecorded (client : ClientId) (message : Message) : Except BindingFailure BindingBase :=
  if client ∈ binding.connections then .ok (binding.send outcomes client message)
  else .error .connectionNotFound

def addService (key : Key) : BindingBase :=
  binding.setService key (some { binding.getOrCreate key with requested := true })

/-- A callback of the client connector, as is `sendEventUpdate`. -/
def serviceStateChange (key : Key) (isAvailable : Bool) : Except BindingFailure BindingBase :=
  let binding := if isAvailable then binding else binding.removeService key
  let binding := addService { binding with
    localOffers := Function.update binding.localOffers key isAvailable } key
  (binding.interestedPeers key).sort.foldlM (fun binding client =>
    binding.sendToRecorded outcomes client (.offerService key isAvailable)) binding

/-- `order` is the order in which the map of clients is traversed. -/
def sendEventUpdate (key : Key) (event : EventId) (slot : SlotHandle) (order : List ClientId) :
    Except BindingFailure BindingBase := do
  let sent ← order.foldlM (fun (sent : BindingBase × Nat) client =>
      match (sent.1.idMapping client).find? fun ids => ids.key = key with
      | none => .ok sent
      | some ids => do
        let binding ← sent.1.sendToRecorded outcomes client
          (.eventUpdate ids.remoteHandle event slot)
        .ok (binding, sent.2 + (outcomes.accepts client).toNat))
    (binding, 0)
  .ok { sent.1 with
    pendingConsumers := Function.update sent.1.pendingConsumers key
      (Function.update (sent.1.pendingConsumers key) slot
        (sent.1.pendingConsumers key slot + sent.2)) }

def onReceiveMessage (client : ClientId) (order : List Key) :
    Message → Except BindingFailure BindingBase
  | .connect => .ok (binding.handleConnectMessage outcomes client order)
  | .connectReply status =>
    if status then binding.handleConnectReplyMessage outcomes order else .ok binding
  | .requestService key inUse =>
    .ok (binding.handleRequestServiceMessage outcomes client key inUse)
  | .offerService key offered => binding.handleOfferServiceMessage outcomes client key offered
  | .connectService key requiredId inUse =>
    binding.handleConnectServiceMessage outcomes client key requiredId inUse
  | .connectServiceReply requiredId providedId =>
    binding.handleConnectServiceReplyMessage outcomes client requiredId providedId
  | .subscribeEvent providedId event subscribe =>
    .ok (binding.handleSubscribeEventMessage client providedId event subscribe)
  | .eventUpdate requiredId _ _ => binding.handleEventUpdateMessage outcomes client requiredId
  | .payloadConsumed requiredId slot =>
    .ok (binding.handlePayloadConsumedMessage client requiredId slot)

end

/-- What an event of the binding leads to. -/
inductive Attempts (binding : BindingBase) : Except BindingFailure BindingBase → Prop
  | addClient (client) : Attempts binding (binding.addClient client)
  | removeClient (client) : Attempts binding (.ok (binding.removeClient client))
  | receive (outcomes client order message) : client ∈ binding.connections →
    Attempts binding (binding.onReceiveMessage outcomes client order message)
  | requestService (outcomes key inUse) :
    Attempts binding (binding.sendRequestService outcomes key inUse)
  | serviceStateChange (outcomes key isAvailable) :
    Attempts binding (binding.serviceStateChange outcomes key isAvailable)
  | sendEventUpdate (outcomes key event slot order) :
    Attempts binding (binding.sendEventUpdate outcomes key event slot order)

def transitions : Concurrency.TransitionSystem BindingBase Unit where
  initial binding := binding = start
  step before _ after := Attempts before (.ok after)

/-! ## Known clients -/

def ServiceState.Known (connected : List ClientId) (state : ServiceState) : Prop :=
  (∀ offer ∈ state.offers, offer.1 ∈ connected) ∧
    ∀ event, ∀ endpoint ∈ state.eventSubscriptions event, endpoint.1 ∈ connected

/-- Every client that the binding names is connected. -/
structure Known (connected : List ClientId) (binding : BindingBase) : Prop where
  connections : binding.connections = connected
  services : ∀ key, ∀ state ∈ binding.services key, ServiceState.Known connected state
  interest : ∀ key, ∀ client ∈ binding.interestedPeers key, client ∈ connected
  mappings : ∀ client, ∀ ids ∈ binding.idMapping client, client ∈ connected
  pending : ∀ handle, ∀ target ∈ binding.pendingConnects handle, target.2 ∈ connected

/-- What holds of a result that is not the failure of a missing reply channel. -/
def Ensures {α : Type} (post : α → Prop) : Except BindingFailure α → Prop
  | .ok result => post result
  | .error failure => failure ≠ .connectionNotFound

section

variable {b : BindingBase} {l : List ClientId} {outcomes : Outcomes} {c : ClientId} {k : Key}
  {m : Message} {α β : Type}

theorem Ensures.bind {p : α → Prop} {post : β → Prop} {x : Except BindingFailure α}
    {f : α → Except BindingFailure β} (first : Ensures p x)
    (next : ∀ res, p res → Ensures post (f res)) : Ensures post (x >>= f) := by
  cases x with
  | ok res => exact next res first
  | error err => exact first

theorem Ensures.foldlM {inv : α → Prop} {f : α → β → Except BindingFailure α} {xs : List β}
    (kept : ∀ s, ∀ x ∈ xs, inv s → Ensures inv (f s x)) {s : α} (holds : inv s) :
    Ensures inv (xs.foldlM f s) := by
  induction xs generalizing s with
  | nil => exact holds
  | cons x xs ih =>
    rw [List.foldlM_cons]
    refine (kept s x List.mem_cons_self holds).bind fun _ next => ih (fun s y isIn => ?_) next
    exact kept s y (List.mem_cons_of_mem x isIn)

theorem forall_mem_update {ι γ σ : Type} [DecidableEq ι] [Membership σ γ] {f : ι → γ} {i : ι}
    {v : γ} {p : ι → σ → Prop} (old : ∀ j, ∀ x ∈ f j, p j x) (new : ∀ x ∈ v, p i x) :
    ∀ j, ∀ x ∈ Function.update f i v j, p j x := by
  intro j x isIn
  by_cases same : j = i
  · subst same
    rw [Function.update_self] at isIn
    exact new x isIn
  · rw [Function.update_of_ne same] at isIn
    exact old j x isIn

theorem Known.send (known : Known l b) : Known l (b.send outcomes c m) := by
  unfold BindingBase.send
  split <;> exact { known with }

theorem Known.filterMappings (known : Known l b) (keep : ClientId → Ids → Bool) :
    Known l (b.filterMappings keep) :=
  { known with
    mappings := fun client ids isIn => known.mappings client ids (List.mem_of_mem_filter isIn) }

theorem Known.clearPendingConnects (known : Known l b) (checker : Key × ClientId → Bool) :
    Known l (b.clearPendingConnects checker) :=
  { known with
    pending := fun handle _ isIn => known.pending handle _ (Option.mem_filter_iff.mp isIn).1 }

theorem Known.getOrCreate (known : Known l b) : ServiceState.Known l (b.getOrCreate k) := by
  unfold BindingBase.getOrCreate
  cases found : b.services k with
  | none => exact ⟨by simp [ServiceState.fresh], by simp [ServiceState.fresh]⟩
  | some state => exact known.services k state found

theorem Known.setService (known : Known l b) {state : Option ServiceState}
    (ok : ∀ found ∈ state, ServiceState.Known l found) : Known l (b.setService k state) :=
  { known with services := forall_mem_update known.services ok }

theorem Known.setState (known : Known l b) {state : ServiceState}
    (ok : ServiceState.Known l state) : Known l (b.setService k (some state)) := by
  refine known.setService fun _ isState => ?_
  cases isState
  exact ok

theorem Known.mapService (known : Known l b) {f : ServiceState → ServiceState}
    (ok : ∀ state, ServiceState.Known l state → ServiceState.Known l (f state)) :
    Known l (b.setService k ((b.services k).map f)) := by
  refine known.setService fun _ isMapped => ?_
  obtain ⟨state, found, rfl⟩ := Option.mem_map.mp isMapped
  exact ok state (known.services k state found)

theorem ServiceState.Known.filterSubscriptions {state : ServiceState}
    (known : ServiceState.Known l state) (keep : ClientId × RemoteHandle → Bool) :
    ServiceState.Known l (ServiceState.filterSubscriptions state keep) :=
  ⟨known.1, fun event _ isIn => known.2 event _ (Finset.mem_filter.mp isIn).1⟩

theorem Known.addMapping (known : Known l b) (isIn : c ∈ l) (ids : Ids) :
    Ensures (Known l) (b.addMapping c ids) := by
  unfold BindingBase.addMapping
  split
  · split <;> simp [Ensures]
  · exact { known with mappings := forall_mem_update known.mappings fun _ _ => isIn }

/-! ## Connects -/

theorem Known.sendConnect (known : Known l b) (isIn : c ∈ l) (state : OfferState) :
    Ensures (fun res => Known l res.1) (b.sendConnect outcomes k c state) := by
  unfold BindingBase.sendConnect
  split
  · exact known
  split
  · simp [Ensures]
  split
  next missing => exact absurd (known.connections ▸ isIn) missing
  refine Known.send { known with pending := forall_mem_update known.pending fun _ isNew => ?_ }
  cases isNew
  -- `emplace` keeps the target of a handle that is pending already.
  cases found : b.pendingConnects _ with
  | none => exact isIn
  | some pending => exact known.pending _ pending found

theorem Known.sendConnects (known : Known l b) {offers : List (ClientId × OfferState)}
    (offering : ∀ offer ∈ offers, offer.1 ∈ l) :
    Ensures (fun res => Known l res.1 ∧ ∀ offer ∈ res.2, offer.1 ∈ l)
      (sendConnects outcomes k b offers) := by
  induction offers generalizing b with
  | nil => exact ⟨known, offering⟩
  | cons offer offers ih =>
    rw [List.forall_mem_cons] at offering
    refine (known.sendConnect offering.1 offer.2).bind fun first sentFirst => ?_
    refine (ih sentFirst offering.2).bind fun others sentOthers => ⟨sentOthers.1, ?_⟩
    exact List.forall_mem_cons.mpr ⟨offering.1, sentOthers.2⟩

theorem Known.maybeSendConnectServiceLocked (known : Known l b) :
    Ensures (Known l) (b.maybeSendConnectServiceLocked outcomes k) := by
  unfold BindingBase.maybeSendConnectServiceLocked
  split
  · exact known
  next state found =>
  split
  · exact known
  have ok := known.services k state found
  exact (known.sendConnects ok.1).bind fun res sent => sent.1.setState ⟨sent.2, ok.2⟩

/-! ## Requests and offers -/

theorem Known.addService (known : Known l b) : Known l (b.addService k) :=
  known.setState known.getOrCreate

theorem Known.sendToAll (known : Known l b) : Known l (b.sendToAll outcomes m) :=
  List.foldlRecOn b.connections _ known fun _ kept _ _ => kept.send

theorem Known.sendRequestService (known : Known l b) (inUse : Bool) :
    Ensures (Known l) (b.sendRequestService outcomes k inUse) := by
  unfold BindingBase.sendRequestService
  split
  · exact known
  cases inUse with
  | true => exact known.sendToAll.addService.maybeSendConnectServiceLocked
  | false => exact ((known.sendToAll.setService (by simp)).filterMappings _).clearPendingConnects _

theorem Known.handleConnectReplyMessage (known : Known l b) (order : List Key) :
    Ensures (Known l) (b.handleConnectReplyMessage outcomes order) := by
  refine Ensures.foldlM (fun s key _ kept => ?_) known
  refine Known.maybeSendConnectServiceLocked ?_
  unfold sendRequestServiceLocked
  split
  · split
    · exact kept
    · exact kept.sendToAll
  · exact kept

theorem Known.setInterest (known : Known l b) {peers : Finset ClientId}
    (ok : ∀ client ∈ peers, client ∈ l) :
    Known l { b with interestedPeers := Function.update b.interestedPeers k peers } :=
  { known with interest := forall_mem_update known.interest ok }

theorem Known.handleRequestServiceMessage (known : Known l b) (isIn : c ∈ l) (inUse : Bool) :
    Known l (b.handleRequestServiceMessage outcomes c k inUse) := by
  unfold BindingBase.handleRequestServiceMessage
  split
  · have cleared : Known l (b.removeEventSubscriptionsForClient c) := by
      refine { known with services := fun key _ isMapped => ?_ }
      obtain ⟨state, found, rfl⟩ := Option.mem_map.mp isMapped
      exact (known.services key state found).filterSubscriptions _
    refine ((cleared.filterMappings _).clearPendingConnects _).setInterest fun client isPeer => ?_
    exact known.interest k client (Finset.mem_of_mem_erase isPeer)
  have added := known.setInterest (k := k) (Finset.forall_mem_insert _ _ _ |>.mpr
    ⟨isIn, known.interest k⟩)
  dsimp only
  split
  · exact added.send
  split
  · exact added
  · exact added.setState added.getOrCreate

theorem Known.handleOfferServiceMessage (known : Known l b) (isIn : c ∈ l) (offered : Bool) :
    Ensures (Known l) (b.handleOfferServiceMessage outcomes c k offered) := by
  have ok := known.getOrCreate (k := k)
  unfold BindingBase.handleOfferServiceMessage
  cases offered with
  | false =>
    refine Known.clearPendingConnects (Known.filterMappings (Known.mapService
      (known.setState ?_) fun _ ok => ok.filterSubscriptions _) _) _
    exact ⟨fun offer isOffer => ok.1 offer (List.mem_of_mem_filter isOffer), ok.2⟩
  | true =>
    refine (known.setState ?_).maybeSendConnectServiceLocked
    refine ⟨fun offer isOffer => ?_, ok.2⟩
    dsimp only at isOffer
    split at isOffer
    · exact ok.1 offer isOffer
    · rcases List.mem_append.mp isOffer with old | new
      · exact ok.1 offer old
      · cases List.mem_singleton.mp new
        exact isIn

/-! ## Connections, events and clients -/

theorem Known.handleSubscribeEventMessage (known : Known l b) (isIn : c ∈ l)
    (providedId : RemoteHandle) (event : EventId) (subscribe : Bool) :
    Known l (b.handleSubscribeEventMessage c providedId event subscribe) := by
  unfold BindingBase.handleSubscribeEventMessage
  split
  · exact known
  refine known.mapService fun state ok => ⟨ok.1, forall_mem_update ok.2 fun endpoint isNew => ?_⟩
  split at isNew
  · rcases Finset.mem_insert.mp isNew with rfl | old
    · exact isIn
    · exact ok.2 event endpoint old
  · exact ok.2 event endpoint (Finset.mem_of_mem_erase isNew)

theorem Known.handleEventUpdateMessage (known : Known l b) (requiredId : RemoteHandle) :
    Ensures (Known l) (b.handleEventUpdateMessage outcomes c requiredId) := by
  unfold BindingBase.handleEventUpdateMessage
  split
  · exact known
  · split_ifs <;> first | exact known | simp [Ensures]

theorem Known.handleConnectServiceMessage (known : Known l b) (isIn : c ∈ l)
    (requiredId : RemoteHandle) (inUse : Bool) :
    Ensures (Known l) (b.handleConnectServiceMessage outcomes c k requiredId inUse) := by
  unfold BindingBase.handleConnectServiceMessage
  split
  · dsimp only
    refine Known.mapService (((?_ : Known l _).filterMappings _).clearPendingConnects _)
      fun _ ok => ok
    split
    · exact known
    · exact known.mapService fun _ ok => ok.filterSubscriptions _
  split
  · simp [Ensures]
  have issued : Known l { b with nextLocalId := b.nextLocalId + 1 } := { known with }
  refine (issued.addMapping isIn _).bind fun res mapped => ?_
  split
  · simp [Ensures]
  · exact mapped.send

theorem Known.handleConnectServiceReplyMessage (known : Known l b) (isIn : c ∈ l)
    (requiredId providedId : RemoteHandle) :
    Ensures (Known l) (b.handleConnectServiceReplyMessage outcomes c requiredId providedId) := by
  unfold BindingBase.handleConnectServiceReplyMessage
  split
  · exact known
  split
  · exact known
  have erased : Known l { b with
      pendingConnects := Function.update b.pendingConnects requiredId none } :=
    { known with pending := forall_mem_update known.pending fun _ isNew => by cases isNew }
  dsimp only
  split
  · exact erased
  next state isState =>
  split
  · simp [Ensures]
  refine (erased.addMapping isIn _).bind fun res mapped => ?_
  split
  · simp [Ensures]
  · exact mapped.setState (known.services _ state isState)

theorem Known.onReceiveMessage (known : Known l b) (isIn : c ∈ l) (order : List Key) :
    Ensures (Known l) (b.onReceiveMessage outcomes c order m) := by
  cases m with
  | connect =>
    refine List.foldlRecOn (motive := Known l) order _ known.send fun s kept key _ => ?_
    split
    · exact kept.send
    · exact kept
  | connectReply status =>
    cases status with
    | false => exact known
    | true => exact known.handleConnectReplyMessage order
  | requestService key inUse => exact known.handleRequestServiceMessage isIn inUse
  | offerService key offered => exact known.handleOfferServiceMessage isIn offered
  | connectService key requiredId inUse =>
    exact known.handleConnectServiceMessage isIn requiredId inUse
  | connectServiceReply requiredId providedId =>
    exact known.handleConnectServiceReplyMessage isIn requiredId providedId
  | subscribeEvent providedId event subscribe =>
    exact known.handleSubscribeEventMessage isIn providedId event subscribe
  | eventUpdate requiredId event slot => exact known.handleEventUpdateMessage requiredId
  | payloadConsumed requiredId slot =>
    change Known l (b.handlePayloadConsumedMessage c requiredId slot)
    unfold BindingBase.handlePayloadConsumedMessage
    split
    · exact known
    · exact { known with }

theorem Known.sendToRecorded (known : Known l b) (isIn : c ∈ l) :
    Ensures (Known l) (b.sendToRecorded outcomes c m) := by
  rw [BindingBase.sendToRecorded, if_pos (known.connections ▸ isIn)]
  exact known.send

theorem Known.serviceStateChange (known : Known l b) (isAvailable : Bool) :
    Ensures (Known l) (b.serviceStateChange outcomes k isAvailable) := by
  have removed : Known l (if isAvailable then b else b.removeService k) := by
    split
    · exact known
    · exact known.filterMappings _
  unfold BindingBase.serviceStateChange
  dsimp only
  -- Adding the service leaves the interested peers alone.
  generalize (if isAvailable then b else b.removeService k) = s at removed ⊢
  refine Ensures.foldlM (fun s client isIn kept => ?_) (Known.addService { removed with })
  exact kept.sendToRecorded (removed.interest k client ((Finset.mem_sort _).mp isIn))

theorem Known.sendEventUpdate (known : Known l b) (event : EventId) (slot : SlotHandle)
    (order : List ClientId) :
    Ensures (Known l) (b.sendEventUpdate outcomes k event slot order) := by
  refine Ensures.bind (p := fun sent => Known l sent.1) ?_ fun _ kept => { kept with }
  refine Ensures.foldlM (fun s client _ kept => ?_) known
  split
  · exact kept
  next ids found =>
    have isIn := kept.mappings client ids (List.mem_of_find?_eq_some found)
    exact (kept.sendToRecorded isIn).bind fun _ sent => sent

theorem ServiceState.Known.removeOffers {state : ServiceState}
    (known : ServiceState.Known l state) :
    ServiceState.Known (l.erase c) (ServiceState.removeOffers
      (ServiceState.filterSubscriptions state fun endpoint => endpoint.1 ≠ c) c) := by
  have subscribed : ∀ event, ∀ endpoint ∈ (ServiceState.filterSubscriptions state
      fun endpoint => endpoint.1 ≠ c).eventSubscriptions event, endpoint.1 ∈ l.erase c := by
    intro event endpoint isSubscribed
    obtain ⟨old, kept⟩ := Finset.mem_filter.mp isSubscribed
    exact (List.mem_erase_of_ne (by simpa using kept)).mpr (known.2 event endpoint old)
  have offering : ∀ offer ∈ state.offers, offer.1 ≠ c → offer.1 ∈ l.erase c :=
    fun offer isOffer other => (List.mem_erase_of_ne other).mpr (known.1 offer isOffer)
  unfold ServiceState.removeOffers
  split
  next others =>
    refine ⟨fun offer isOffer => offering offer isOffer ?_, subscribed⟩
    simpa using List.all_eq_true.mp others offer isOffer
  dsimp only
  split
  · refine ⟨fun offer isOffer => ?_, subscribed⟩
    obtain ⟨old, other⟩ := List.mem_filter.mp isOffer
    exact offering offer old (by simpa using other)
  · exact ⟨by simp, by simp⟩

theorem Known.removeClient (known : Known l b) : Known (l.erase c) (b.removeClient c) := by
  have other : ∀ {client}, client ≠ c → client ∈ l → client ∈ l.erase c :=
    fun different => (List.mem_erase_of_ne different).mpr
  refine ⟨congrArg (·.erase c) known.connections, fun key state found => ?_,
    fun key client isPeer => ?_, fun client ids isMapped => ?_, fun handle target isPending => ?_⟩
  · obtain ⟨filtered, isFiltered, rfl⟩ := Option.mem_map.mp found
    obtain ⟨old, isOld, rfl⟩ := Option.mem_map.mp isFiltered
    exact (known.services key old isOld).removeOffers
  · obtain ⟨different, old⟩ := Finset.mem_erase.mp isPeer
    exact other different (known.interest key client old)
  · change ids ∈ Function.update b.idMapping c [] client at isMapped
    by_cases same : client = c
    · rw [same, Function.update_self] at isMapped
      cases isMapped
    · rw [Function.update_of_ne same] at isMapped
      exact other same (known.mappings client ids isMapped)
  · obtain ⟨old, kept⟩ := Option.filter_eq_some_iff.mp isPending
    exact other (by simpa using kept) (known.pending handle target old)

theorem Known.addClient (known : Known b.connections b) :
    Ensures (fun res => Known res.connections res) (b.addClient c) := by
  unfold BindingBase.addClient
  split
  · simp [Ensures]
  have old : ∀ client ∈ b.connections, client ∈ b.connections ++ [c] :=
    fun _ => List.mem_append_left [c]
  refine ⟨rfl, fun key state found => ?_, fun key client isPeer => ?_,
    fun client ids isMapped => ?_, fun handle target isPending => ?_⟩
  · have ok := known.services key state found
    exact ⟨fun offer isOffer => old _ (ok.1 offer isOffer),
      fun event endpoint isSubscribed => old _ (ok.2 event endpoint isSubscribed)⟩
  · exact old client (known.interest key client isPeer)
  · exact old client (known.mappings client ids isMapped)
  · exact old target.2 (known.pending handle target isPending)

theorem Known.attempt (known : Known b.connections b) {result : Except BindingFailure BindingBase}
    (attempted : Attempts b result) : Ensures (fun res => Known res.connections res) result := by
  have sameClients : ∀ {result}, Ensures (Known b.connections) result →
      Ensures (fun res => Known res.connections res) result := by
    intro result ensured
    cases result with
    | ok res =>
      change Known res.connections res
      rw [ensured.connections]
      exact ensured
    | error failure => exact ensured
  cases attempted with
  | addClient => exact known.addClient
  | removeClient client => exact known.removeClient (c := client)
  | receive outcomes client order message isIn =>
    exact sameClients (known.onReceiveMessage isIn order)
  | requestService outcomes key inUse => exact sameClients (known.sendRequestService inUse)
  | serviceStateChange outcomes key isAvailable =>
    exact sameClients (known.serviceStateChange isAvailable)
  | sendEventUpdate outcomes key event slot order =>
    exact sameClients (known.sendEventUpdate event slot order)

end

/-- No assertion that a reply channel exists fails. -/
theorem reachable_clients_connected {binding : BindingBase}
    (reachable : transitions.Reachable binding) :
    Known binding.connections binding ∧
      ∀ result, Attempts binding result → result ≠ .error .connectionNotFound := by
  have known : Known binding.connections binding := by
    induction reachable with
    | initial isStart =>
      cases isStart
      exact ⟨rfl, by simp [start], by simp [start], by simp [start], by simp [start]⟩
    | step _ taken ih =>
      have ensured := ih.attempt taken
      exact ensured
  refine ⟨known, fun result attempted failed => ?_⟩
  subst failed
  exact known.attempt attempted rfl

theorem connecting_client_connected : ∃ binding, transitions.Reachable binding ∧
    binding.pendingConnects 1 = some (0, 7) ∧ 7 ∈ binding.connections := by
  have initial : transitions.Reachable start := .initial rfl
  have added := initial.step (show transitions.step start () _ from .addClient 7)
  have offered := added.step (show transitions.step _ () _ from
    .receive {} 7 [] (.offerService 0 true) (by decide))
  have requested := offered.step (show transitions.step _ () _ from .requestService {} 0 true)
  exact ⟨_, requested, rfl, (reachable_clients_connected requested).1.pending 1 (0, 7) rfl⟩

end BindingBase

end ScoreIntegration.GatewayIpc
