import ScoreIntegration.GatewayIpc.BindingBase

/-!
# Withdrawal of a service request

A peer that no longer uses a service must keep its other services.  The handler removes the
event subscriptions of the peer for all services.
-/

namespace ScoreIntegration.GatewayIpc

namespace BindingBase

section

variable (binding : BindingBase) (key : Key)

def Subscribed (event : EventId) (endpoint : ClientId × RemoteHandle) : Prop :=
  ∃ state, binding.services key = some state ∧ endpoint ∈ state.eventSubscriptions event

def offersOf : List (ClientId × OfferState) :=
  ((binding.services key).map ServiceState.offers).getD []

/-- An event of the service is sent to the client: the connector is subscribed to it,
and the client is connected to the service. -/
def SendsEvent (event : EventId) (client : ClientId) : Prop :=
  (∃ endpoint, binding.Subscribed key event endpoint) ∧
    ∃ ids ∈ binding.idMapping client, ids.key = key

end

structure Unchanged (before after : BindingBase) (peer : ClientId) (key : Key) : Prop where
  subscriptions : ∀ event handle, after.Subscribed key event (peer, handle) ↔
    before.Subscribed key event (peer, handle)
  mappings : ∀ ids, ids.key = key → (ids ∈ after.idMapping peer ↔ ids ∈ before.idMapping peer)
  offers : ∀ offer, (peer, offer) ∈ after.offersOf key ↔ (peer, offer) ∈ before.offersOf key
  interest : peer ∈ after.interestedPeers key ↔ peer ∈ before.interestedPeers key

section Withdrawal

variable (binding : BindingBase) (outcomes : Outcomes) (client : ClientId) (key : Key)

theorem subscribed_withdrawn (o : Key) (event : EventId) (endpoint : ClientId × RemoteHandle) :
    (binding.handleRequestServiceMessage outcomes client key false).Subscribed o event endpoint ↔
      binding.Subscribed o event endpoint ∧ endpoint.1 ≠ client := by
  change (∃ state, (binding.services o).map _ = some state ∧ _) ↔ _
  unfold Subscribed
  cases binding.services o with
  | none => simp
  | some state => simp [ServiceState.filterSubscriptions]

theorem mem_idMapping_withdrawn (peer : ClientId) (ids : Ids) :
    ids ∈ (binding.handleRequestServiceMessage outcomes client key false).idMapping peer ↔
      ids ∈ binding.idMapping peer ∧ (peer ≠ client ∨ ids.key ≠ key) := by
  change ids ∈ (binding.idMapping peer).filter _ ↔ _
  rw [List.mem_filter, decide_eq_true_iff]

theorem offersOf_withdrawn (o : Key) :
    (binding.handleRequestServiceMessage outcomes client key false).offersOf o =
      binding.offersOf o := by
  change (((binding.services o).map _).map ServiceState.offers).getD [] = _
  rw [Option.map_map]
  rfl

/-- A withdrawal is local exactly if the peer has no event subscription of another
service. -/
theorem withdrawal_local_iff : ((∀ peer other, (peer, other) ≠ (client, key) →
        Unchanged binding (binding.handleRequestServiceMessage outcomes client key
          false) peer other) ∧
      ∀ other, other ≠ key → ∀ event peer,
        (binding.handleRequestServiceMessage outcomes client key false).SendsEvent
          other event peer ↔ binding.SendsEvent other event peer) ↔
    ∀ other, other ≠ key → ∀ event handle, ¬ binding.Subscribed other event (client, handle) := by
  constructor
  · rintro ⟨isLocal, -⟩ other different event handle subscribed
    have unchanged := isLocal client other fun same => different (Prod.mk.inj same).2
    have stays := (unchanged.subscriptions event handle).mpr subscribed
    exact ((binding.subscribed_withdrawn outcomes client key _ _ _).mp stays).2 rfl
  · intro unsubscribed
    have sameSubscriptions : ∀ other, other ≠ key → ∀ event endpoint,
        (binding.handleRequestServiceMessage outcomes client key false).Subscribed
          other event endpoint ↔ binding.Subscribed other event endpoint := by
      intro other different event endpoint
      rw [subscribed_withdrawn]
      refine ⟨And.left, fun subscribed => ⟨subscribed, fun own => ?_⟩⟩
      exact unsubscribed other different event endpoint.2 (own ▸ subscribed)
    refine ⟨fun peer other different => ?_, fun other different event peer => ?_⟩
    · have apart : peer ≠ client ∨ other ≠ key := by
        by_contra same
        rw [not_or, not_ne_iff, not_ne_iff] at same
        exact different (Prod.ext same.1 same.2)
      refine ⟨fun event handle => ?_, fun ids isKey => ?_, fun offer => ?_, ?_⟩
      · by_cases same : other = key
        · rw [subscribed_withdrawn]
          exact and_iff_left (apart.resolve_right (not_not_intro same))
        · exact sameSubscriptions other same event (peer, handle)
      · rw [mem_idMapping_withdrawn, isKey]
        exact and_iff_left apart
      · rw [offersOf_withdrawn]
      · change peer ∈ Function.update binding.interestedPeers key
          ((binding.interestedPeers key).erase client) other ↔ _
        by_cases same : other = key
        · simp [same, apart.resolve_right (not_not_intro same)]
        · simp [same]
    · unfold SendsEvent
      refine and_congr (exists_congr (sameSubscriptions other different event)) ?_
      refine exists_congr fun ids => and_congr_left fun isKey => ?_
      rw [mem_idMapping_withdrawn, isKey]
      exact and_iff_left (.inr different)

end Withdrawal

/-- A peer requests two services, connects to both and subscribes to an event of
each. -/
def twoSubscriptions : Except BindingFailure BindingBase := do
  let binding ← start.addClient 7
  let binding := (binding.handleRequestServiceMessage {} 7 0 true
    ).handleRequestServiceMessage {} 7 1 true
  let binding ← binding.handleConnectServiceMessage {} 7 0 1 true
  let binding ← binding.handleConnectServiceMessage {} 7 1 2 true
  .ok ((binding.handleSubscribeEventMessage 7 1 5 true ).handleSubscribeEventMessage 7 2 5 true)

theorem withdrawal_ends_other_subscription :
    ∃ binding, twoSubscriptions = .ok binding ∧ binding.SendsEvent 1 5 7 ∧
      ¬ (binding.handleRequestServiceMessage {} 7 0 false).SendsEvent 1 5 7 := by
  refine ⟨_, rfl, ⟨⟨(7, 2), _, rfl, by decide⟩, ⟨1, 2, 2⟩, by decide, rfl⟩, ?_⟩
  rintro ⟨⟨endpoint, subscribed⟩, -⟩
  obtain ⟨⟨state, found, member⟩, other⟩ :=
    (subscribed_withdrawn _ _ 7 0 1 5 endpoint).mp subscribed
  cases found
  change endpoint ∈ (insert (7, 2) ∅ : Finset (ClientId × RemoteHandle)) at member
  rw [insert_empty_eq, Finset.mem_singleton] at member
  exact other (congrArg Prod.fst member)

end BindingBase

end ScoreIntegration.GatewayIpc
