import ScoreIntegration.Concurrency.Transitions

/-!
# The provider half of a bridged service

A SOCom service is offered by a `mw::com` skeleton while it is available.  A report of its
state holds `m_mutex` only while it changes the flags and while it catches up with the
subscriptions; in between the interest of a peer may change.  `interest` is a history
variable, what was reported last for an event; it outlives the events of a skeleton.
-/

namespace ScoreIntegration.GatewayIpc

open Concurrency List Bool TransitionSystem

/-- An event of the skeleton; `subscribed` if the binding holds a SOCom subscription. -/
structure Event where
  wantedByPeer : Bool := false
  subscribed : Bool := false
  deriving DecidableEq

/-- `reconcile_subscription`; `accepted` is the answer of `subscribe_event`. -/
def Event.reconcileSubscription (event : Event) (serviceAvailable accepted : Bool) : Event :=
  let desired := serviceAvailable && event.wantedByPeer
  if desired = event.subscribed then event
  else if desired && !accepted then event
  else { event with subscribed := desired }

/-- What is left to do in `on_service_state_change`. -/
inductive StateChange where
  | done
  | withdrawing (noPeerHoldsASubscription : Bool)
  | offering
  | catchingUp
  deriving DecidableEq

/-- How far `create_skeleton` gets: the skeleton, the events found in it, the handlers. -/
structure Creation where
  created : Bool
  resolved : Nat
  registered : Nat

structure ProviderServiceBinding where
  configuredEvents : Nat
  skeleton : Bool
  events : List Event
  /-- How many events have a handler for changes of the interest. -/
  handlers : Nat
  serviceAvailable : Bool
  clientConnector : Bool
  stateChange : StateChange
  /-- An operation was called on the skeleton while there was none. -/
  accessedWithout : Bool
  /-- What the peers have reported last, with or without a skeleton. -/
  interest : Nat → Bool

inductive BindingStep where
  /-- The end of `create_client_connector`. -/
  | createClientConnector (accepted : Nat → Bool)
  | onServiceStateChange (available : Bool)
  | withdraw
  | offer (creation : Creation) (offered : Bool)
  | catchUp (accepted : Nat → Bool)
  | onPeerInterestChange (eventId : Nat) (wanted accepted : Bool)

namespace ProviderServiceBinding

/-- After `create_skeleton` in `create`. -/
def start (configuredEvents : Nat) : ProviderServiceBinding where
  configuredEvents
  skeleton := true
  events := List.replicate configuredEvents {}
  handlers := configuredEvents
  serviceAvailable := false
  clientConnector := false
  stateChange := .done
  accessedWithout := false
  interest _ := false

variable (binding : ProviderServiceBinding)

def reconcileSubscriptions (accepted : Nat → Bool) : ProviderServiceBinding :=
  if binding.clientConnector then
    { binding with events := binding.events.mapIdx fun index event =>
        event.reconcileSubscription binding.serviceAvailable (accepted index) }
  else binding

def onServiceStateChange (available : Bool) : ProviderServiceBinding :=
  if available = binding.serviceAvailable then binding
  else if available then
    { binding with serviceAvailable := available, stateChange := .offering }
  else
    { binding with
      serviceAvailable := available
      -- SOCom has dropped all subscriptions.
      events := binding.events.map ({ · with subscribed := false })
      stateChange := .withdrawing (binding.events.all (!·.wantedByPeer)) }

def accessSkeleton : ProviderServiceBinding :=
  { binding with accessedWithout := binding.accessedWithout || !binding.skeleton }

def withdraw (noPeerHoldsASubscription : Bool) : ProviderServiceBinding :=
  let withdrawn := { binding.accessSkeleton with stateChange := .done }
  if noPeerHoldsASubscription then { withdrawn with skeleton := false, events := [], handlers := 0 }
  else withdrawn

def createSkeleton (creation : Creation) : ProviderServiceBinding :=
  if creation.created then
    { binding with
      skeleton := true
      events := List.replicate (min creation.resolved binding.configuredEvents) {}
      handlers := if binding.configuredEvents ≤ creation.resolved then
        min creation.registered binding.configuredEvents else 0 }
  else binding

def offerService (offered : Bool) : ProviderServiceBinding :=
  { binding.accessSkeleton with stateChange := if offered then .catchingUp else .done }

def offer (creation : Creation) (offered : Bool) : ProviderServiceBinding :=
  if binding.skeleton then binding.offerService offered
  else if creation.created ∧ binding.configuredEvents ≤ creation.resolved ∧
      binding.configuredEvents ≤ creation.registered then
    (binding.createSkeleton creation).offerService offered
  else { binding.createSkeleton creation with stateChange := .done }

def onPeerInterestChange (eventId : Nat) (wanted accepted : Bool) : ProviderServiceBinding :=
  { binding with
    events := binding.events.modify eventId fun event =>
      let told := { event with wantedByPeer := wanted }
      if binding.clientConnector then
        told.reconcileSubscription binding.serviceAvailable accepted
      else told
    interest := Function.update binding.interest eventId wanted }

/-- `m_offer_mutex` admits one report at a time. -/
def step : BindingStep → Option ProviderServiceBinding
  | .createClientConnector accepted =>
    if binding.clientConnector then none
    else some ({ binding with clientConnector := true }.reconcileSubscriptions accepted)
  | .onServiceStateChange available =>
    match binding.stateChange with
    | .done => some (binding.onServiceStateChange available)
    | _ => none
  | .withdraw =>
    match binding.stateChange with
    | .withdrawing noPeerHoldsASubscription => some (binding.withdraw noPeerHoldsASubscription)
    | _ => none
  | .offer creation offered =>
    match binding.stateChange with
    | .offering => some (binding.offer creation offered)
    | _ => none
  | .catchUp accepted =>
    match binding.stateChange with
    | .catchingUp => some ({ binding with stateChange := .done }.reconcileSubscriptions accepted)
    | _ => none
  | .onPeerInterestChange eventId wanted accepted =>
    if eventId < binding.handlers then
      some (binding.onPeerInterestChange eventId wanted accepted)
    else none

def system (configuredEvents : Nat) : TransitionSystem ProviderServiceBinding BindingStep :=
  .ofStep (start configuredEvents) step

def Reconciled (eventId : Nat) : Prop :=
  binding.events[eventId]?.any (·.subscribed) = true ↔
    binding.serviceAvailable = true ∧ binding.interest eventId = true

/-- A skeleton can be created whenever that is tried, an offer fails only while no peer has
reported interest, no interest is reported between the look at the flags and the end of the
skeleton, and SOCom accepts the subscriptions. -/
def Undisturbed : BindingStep → Prop
  | .offer creation offered =>
    creation.created = true ∧ (offered = false → ∀ eventId, binding.interest eventId = false)
  | .createClientConnector accepted => ∀ index, accepted index = true
  | .catchUp accepted => ∀ index, accepted index = true
  | .onPeerInterestChange _ wanted accepted =>
    accepted = true ∧ (wanted = true → binding.stateChange ≠ .withdrawing true)
  | _ => True

structure Sound (binding : ProviderServiceBinding) : Prop where
  subscribed : ∀ event ∈ binding.events, event.subscribed = true →
    binding.clientConnector = true ∧ binding.serviceAvailable = true ∧ event.wantedByPeer = true
  /-- The flags are what the peers have reported. -/
  told : ∀ eventId, binding.interest eventId = binding.events[eventId]?.any (·.wantedByPeer)
  handled : binding.handlers ≤ binding.events.length
  events : binding.skeleton = false → binding.events = []
  present : binding.serviceAvailable = true → binding.stateChange ≠ .offering →
    binding.skeleton = true
  withdrawing : ∀ noPeer, binding.stateChange = .withdrawing noPeer →
    binding.serviceAvailable = false ∧ binding.skeleton = true ∧
      (noPeer = true → ∀ eventId, binding.interest eventId = false)
  accesses : binding.accessedWithout = false

structure Consistent (binding : ProviderServiceBinding) : Prop extends Sound binding where
  complete : binding.stateChange = .done → binding.clientConnector = true →
    ∀ event ∈ binding.events, binding.serviceAvailable = true → event.wantedByPeer = true →
      event.subscribed = true

theorem reconcile_wantedByPeer (event : Event) (available accepted : Bool) :
    (event.reconcileSubscription available accepted).wantedByPeer = event.wantedByPeer := by
  unfold Event.reconcileSubscription
  dsimp only
  split_ifs <;> rfl

theorem reconcile_subscribed (event : Event) (available : Bool) :
    (event.reconcileSubscription available true).subscribed =
      (available && event.wantedByPeer) := by
  unfold Event.reconcileSubscription
  dsimp only
  split_ifs with keep refused
  · exact keep.symm
  · simp at refused
  · rfl

variable {b : ProviderServiceBinding}

theorem any_of_map {f : Event → Event}
    (keeps : ∀ event, (f event).wantedByPeer = event.wantedByPeer) (event : Option Event) :
    (event.map f).any (·.wantedByPeer) = event.any (·.wantedByPeer) := by
  cases event with
  | none => rfl
  | some event => exact keeps event

theorem Sound.quiet (sound : b.Sound) (silent : ∀ eventId, b.interest eventId = false) {event}
    (mem : event ∈ b.events) : event.wantedByPeer = false := by
  obtain ⟨eventId, found⟩ := mem_iff_getElem?.mp mem
  have told := sound.told eventId
  rw [silent, found] at told
  exact told.symm

theorem Sound.reconcileSubscriptions {accepted : Nat → Bool} (sound : b.Sound)
    (accepts : ∀ index, accepted index = true) :
    (b.reconcileSubscriptions accepted).Consistent := by
  unfold ProviderServiceBinding.reconcileSubscriptions
  split
  next connected =>
    have reconciled : ∀ event ∈ b.events.mapIdx fun index event =>
        event.reconcileSubscription b.serviceAvailable (accepted index),
        event.subscribed = (b.serviceAvailable && event.wantedByPeer) := by
      intro event mem
      obtain ⟨index, lt, rfl⟩ := mem_mapIdx.mp mem
      rw [accepts, reconcile_subscribed, reconcile_wantedByPeer]
    refine ⟨{ sound with subscribed := ?_, told := ?_, handled := ?_, events := ?_ },
      fun _ _ event mem available wanted => ?_⟩
    · intro event mem held
      rw [reconciled event mem] at held
      exact ⟨connected, and_eq_true_iff.mp held⟩
    · intro eventId
      rw [getElem?_mapIdx, any_of_map fun _ => reconcile_wantedByPeer ..]
      exact sound.told eventId
    · rw [length_mapIdx]
      exact sound.handled
    · intro without
      dsimp only
      rw [sound.events without]
      rfl
    · rw [reconciled event mem]
      exact and_eq_true_iff.mpr ⟨available, wanted⟩
  next unconnected => exact ⟨sound, fun _ connected => absurd connected unconnected⟩

theorem Consistent.onServiceStateChange {available : Bool} (ok : b.Consistent)
    (isDone : b.stateChange = .done) : (b.onServiceStateChange available).Consistent := by
  unfold ProviderServiceBinding.onServiceStateChange
  split_ifs with same isAvailable
  · exact ok
  · refine ⟨{ ok.toSound with
      subscribed := ?_, present := fun _ differs => absurd rfl differs, withdrawing := nofun },
      nofun⟩
    intro event mem held
    obtain ⟨connected, -, wanted⟩ := ok.subscribed event mem held
    exact ⟨connected, isAvailable, wanted⟩
  · have isUnavailable := eq_false_iff.mpr isAvailable
    have wasAvailable : b.serviceAvailable = true := by
      rw [isUnavailable] at same
      exact ne_false_iff.mp (Ne.symm same)
    have present := ok.present wasAvailable (isDone ▸ nofun)
    refine ⟨{ ok.toSound with
      subscribed := ?_, told := ?_, handled := ?_, events := ?_, present := ?_, withdrawing := ?_ },
      nofun⟩
    · intro event mem held
      obtain ⟨old, -, rfl⟩ := mem_map.mp mem
      cases held
    · intro eventId
      rw [getElem?_map, any_of_map]
      · exact ok.told eventId
      · exact fun _ => rfl
    · rw [length_map]
      exact ok.handled
    · intro without
      cases present.symm.trans without
    · intro stillAvailable
      cases isUnavailable.symm.trans stillAvailable
    · rintro _ ⟨⟩
      refine ⟨isUnavailable, present, fun nobody eventId => ?_⟩
      rw [ok.told eventId, Option.any_eq_false]
      intro event found
      simpa using all_eq_true.mp nobody event (mem_of_getElem? found)

theorem Consistent.withdraw {noPeer : Bool} (ok : b.Consistent)
    (isWithdrawing : b.stateChange = .withdrawing noPeer) :
    (b.withdraw noPeer).Consistent := by
  obtain ⟨isUnavailable, present, silent⟩ := ok.withdrawing noPeer isWithdrawing
  have accesses : b.accessSkeleton.accessedWithout = false := by
    simp [accessSkeleton, ok.accesses, present]
  have unavailable : ¬ b.serviceAvailable = true := isUnavailable ▸ Bool.false_ne_true
  unfold ProviderServiceBinding.withdraw
  split_ifs with nobody
  · exact ⟨⟨nofun, silent nobody, Nat.le_refl _, fun _ => rfl,
      fun available => absurd available unavailable, nofun, accesses⟩, nofun⟩
  · exact ⟨{ ok.toSound with
      present := fun _ _ => present, withdrawing := nofun, accesses }, fun _ _ _ _ available =>
        absurd available unavailable⟩

theorem Sound.offerService {offered : Bool} (sound : b.Sound) (present : b.skeleton = true)
    (silent : offered = false → ∀ eventId, b.interest eventId = false) :
    (b.offerService offered).Consistent := by
  refine ⟨{ sound with present := fun _ _ => present, withdrawing := ?_, accesses := ?_ }, ?_⟩
  · cases offered <;> nofun
  · simp [ProviderServiceBinding.offerService, accessSkeleton, sound.accesses, present]
  · intro isDone _ event mem _ wanted
    cases offered with
    | true => cases isDone
    | false => cases (sound.quiet (silent rfl) mem).symm.trans wanted

theorem Sound.createSkeleton {creation : Creation} (sound : b.Sound)
    (isOffering : b.stateChange = .offering) (created : creation.created = true)
    (silent : ∀ eventId, b.interest eventId = false) :
    (b.createSkeleton creation).Sound ∧ (b.createSkeleton creation).skeleton = true ∧
      (b.createSkeleton creation).interest = b.interest := by
  rw [ProviderServiceBinding.createSkeleton, if_pos created]
  refine ⟨⟨fun event mem held => ?_, fun eventId => ?_, ?_, nofun, fun _ _ => rfl,
    fun noPeer isWithdrawing => ?_, sound.accesses⟩, rfl, rfl⟩
  · rw [(mem_replicate.mp mem).2] at held
    cases held
  · rw [getElem?_replicate]
    refine (silent eventId).trans ?_
    split <;> rfl
  · rw [length_replicate]
    dsimp only
    split <;> omega
  · cases isOffering.symm.trans isWithdrawing

theorem Consistent.offer {creation : Creation} {offered : Bool} (ok : b.Consistent)
    (isOffering : b.stateChange = .offering)
    (undisturbed : b.Undisturbed (.offer creation offered)) :
    (b.offer creation offered).Consistent := by
  unfold ProviderServiceBinding.offer
  split
  next present => exact ok.toSound.offerService present undisturbed.2
  next absent =>
    have silent : ∀ eventId, b.interest eventId = false := by
      intro eventId
      rw [ok.told eventId, ok.events (eq_false_iff.mpr absent)]
      rfl
    obtain ⟨sound, present, same⟩ := ok.toSound.createSkeleton isOffering undisturbed.1 silent
    rw [← same] at silent
    split
    · exact sound.offerService present fun _ => silent
    · refine ⟨{ sound with present := fun _ _ => present, withdrawing := nofun }, ?_⟩
      intro _ _ event mem _ wanted
      cases (sound.quiet silent mem).symm.trans wanted

theorem Consistent.onPeerInterestChange {eventId : Nat} {wanted : Bool} (ok : b.Consistent)
    (hasHandler : eventId < b.handlers)
    (notLost : wanted = true → b.stateChange ≠ .withdrawing true) :
    (b.onPeerInterestChange eventId wanted true).Consistent := by
  have changed : ∀ event ∈ (b.onPeerInterestChange eventId wanted true).events,
      event ∈ b.events ∨ event.subscribed =
        (b.clientConnector && (b.serviceAvailable && event.wantedByPeer)) := by
    intro event mem
    obtain ⟨index, found⟩ := mem_iff_getElem?.mp mem
    rw [ProviderServiceBinding.onPeerInterestChange, getElem?_modify] at found
    obtain ⟨old, foundOld, rfl⟩ := Option.map_eq_some_iff.mp found
    have oldMem := mem_of_getElem? foundOld
    dsimp only
    split_ifs with here connected
    · rw [reconcile_subscribed, reconcile_wantedByPeer, connected, Bool.true_and]
      exact .inr rfl
    · have unconnected := Bool.eq_false_iff.mpr connected
      have unsubscribed : old.subscribed = false := Bool.eq_false_iff.mpr fun held =>
        connected (ok.subscribed old oldMem held).1
      exact .inr (unsubscribed.trans (by rw [unconnected, Bool.false_and]))
    · exact .inl oldMem
  refine ⟨{ ok.toSound with
    subscribed := ?_, told := ?_, handled := ?_, events := ?_, withdrawing := ?_ },
    fun done connected event mem available isWanted => ?_⟩
  · intro event mem held
    rcases changed event mem with oldMem | equal
    · exact ok.subscribed event oldMem held
    · rw [equal, Bool.and_eq_true_iff, Bool.and_eq_true_iff] at held
      exact held
  · intro other
    rw [ProviderServiceBinding.onPeerInterestChange, getElem?_modify]
    dsimp only
    by_cases same : other = eventId
    · have found := getElem?_eq_getElem (Nat.lt_of_lt_of_le hasHandler ok.handled)
      rw [same, Function.update_self, found]
      simp only [if_true, Option.map_eq_map, Option.map_some, Option.any_some]
      split
      · rw [reconcile_wantedByPeer]
      · rfl
    · rw [Function.update_of_ne same, ok.told other]
      simp [Ne.symm same]
  · simpa [ProviderServiceBinding.onPeerInterestChange] using ok.handled
  · intro without
    simp [ProviderServiceBinding.onPeerInterestChange, ok.events without]
  · intro noPeer isWithdrawing
    obtain ⟨unavailable, present, silent⟩ := ok.withdrawing noPeer isWithdrawing
    refine ⟨unavailable, present, fun nobody other => ?_⟩
    have refused : wanted = false := eq_false_iff.mpr fun isWanted =>
      notLost isWanted (nobody ▸ isWithdrawing)
    simp [ProviderServiceBinding.onPeerInterestChange, refused, Function.update_apply,
      silent nobody]
  · rcases changed event mem with oldMem | equal
    · exact ok.complete done connected event oldMem available isWanted
    · rw [equal, Bool.and_eq_true_iff, Bool.and_eq_true_iff]
      exact ⟨connected, available, isWanted⟩

theorem Consistent.step {label : BindingStep} {s' : ProviderServiceBinding}
    (ok : b.Consistent) (undisturbed : b.Undisturbed label)
    (taken : b.step label = some s') : s'.Consistent := by
  -- One goal for each label that the state admits.
  cases label <;> rw [ProviderServiceBinding.step] at taken <;> split at taken <;> cases taken
  next =>
    exact Sound.reconcileSubscriptions { ok.toSound with subscribed := fun event mem held =>
      ⟨rfl, (ok.subscribed event mem held).2⟩ } undisturbed
  next isDone => exact ok.onServiceStateChange isDone
  next isWithdrawing => exact ok.withdraw isWithdrawing
  next isOffering => exact ok.offer isOffering undisturbed
  next isCatchingUp =>
    refine Sound.reconcileSubscriptions { ok.toSound with present := ?_, withdrawing := nofun }
      undisturbed
    exact fun available _ => ok.present available (isCatchingUp ▸ nofun)
  next hasHandler =>
    obtain ⟨rfl, notLost⟩ := undisturbed
    exact ok.onPeerInterestChange hasHandler notLost

theorem consistent_start (configuredEvents : Nat) : (start configuredEvents).Consistent := by
  have fresh : ∀ event ∈ (start configuredEvents).events, event = {} :=
    fun event mem => (mem_replicate.mp mem).2
  refine ⟨⟨fun event mem held => ?_, fun eventId => ?_, ?_, nofun, nofun, nofun, rfl⟩,
    fun _ _ _ _ => nofun⟩
  · rw [fresh event mem] at held
    cases held
  · rw [start, getElem?_replicate]
    dsimp only
    split <;> rfl
  · exact Nat.le_of_eq length_replicate.symm

/-- The skeleton is only accessed while it exists, and the subscriptions follow the interest
that was reported last whenever no report of the state is handled. -/
theorem reachable_reconciled {configuredEvents : Nat} {binding : ProviderServiceBinding}
    (reachable : ((system configuredEvents).restrict Undisturbed).Reachable binding) :
    binding.accessedWithout = false ∧
      (binding.stateChange = .done → binding.clientConnector = true →
        ∀ eventId, binding.Reconciled eventId) := by
  have consistent : binding.Consistent :=
    reachable.preserves (consistent_start configuredEvents) Consistent.step
  refine ⟨consistent.accesses, fun done connected eventId => ?_⟩
  rw [Reconciled, consistent.told]
  cases found : binding.events[eventId]? with
  | none => simp
  | some event =>
    have mem := mem_of_getElem? found
    exact ⟨fun held => (consistent.subscribed event mem held).2,
      fun ⟨available, wanted⟩ => consistent.complete done connected event mem available wanted⟩

/-- The skeleton is created anew, and then a peer wants the event. -/
theorem wanted_event_subscribed : ∃ binding : ProviderServiceBinding,
    ((system 1).restrict Undisturbed).Reachable binding ∧
      binding.events = [⟨true, true⟩] ∧ binding.accessedWithout = false ∧
      (binding.stateChange = .done → binding.clientConnector = true →
        ∀ eventId, binding.Reconciled eventId) := by
  have begun : ((system 1).restrict Undisturbed).Reachable (start 1) := .initial rfl
  have connected := begun.allowedStep (.createClientConnector fun _ => true) (fun _ => rfl) rfl
  have came := connected.allowedStep (.onServiceStateChange true) trivial rfl
  have offered := came.allowedStep (.offer ⟨true, 1, 1⟩ true) ⟨rfl, nofun⟩ rfl
  have caughtUp := offered.allowedStep (.catchUp fun _ => true) (fun _ => rfl) rfl
  have left := caughtUp.allowedStep (.onServiceStateChange false) trivial rfl
  have withdrawn := left.allowedStep .withdraw trivial rfl
  have cameAgain := withdrawn.allowedStep (.onServiceStateChange true) trivial rfl
  have offeredAgain := cameAgain.allowedStep (.offer ⟨true, 1, 1⟩ true) ⟨rfl, nofun⟩ rfl
  have wanted := offeredAgain.allowedStep (.onPeerInterestChange 0 true true) ⟨rfl, nofun⟩ rfl
  have ready := wanted.allowedStep (.catchUp fun _ => true) (fun _ => rfl) rfl
  exact ⟨_, ready, rfl, reachable_reconciled ready⟩

/-- A skeleton that could not be created again is withdrawn.  A wanted event has no subscription
after a failed offer, nor if it was reported while the skeleton was given up, and with it the
flag. -/
theorem failed_setup_disturbs :
    (∃ binding, (system 1).Reachable binding ∧ binding.accessedWithout = true) ∧
      ∀ flag, ∃ binding, (system 1).Reachable binding ∧ binding.events = [⟨flag, false⟩] ∧
        binding.stateChange = .done ∧ binding.clientConnector = true ∧ ¬binding.Reconciled 0 := by
  unfold Reconciled
  refine ⟨?_, fun flag => ?_⟩
  · exact exists_reachable [.createClientConnector fun _ => true,
      .onServiceStateChange true, .offer ⟨true, 1, 1⟩ true, .catchUp fun _ => true,
      .onServiceStateChange false, .withdraw, .onServiceStateChange true,
      .offer ⟨false, 0, 0⟩ true, .onServiceStateChange false, .withdraw] ⟨_, rfl, rfl⟩
  cases flag with
  | true =>
    exact exists_reachable [.createClientConnector fun _ => true,
      .onPeerInterestChange 0 true true, .onServiceStateChange true,
      .offer ⟨true, 1, 1⟩ false] ⟨_, rfl, rfl, rfl, rfl, by decide⟩
  | false =>
    exact exists_reachable [.createClientConnector fun _ => true,
      .onServiceStateChange true, .offer ⟨true, 1, 1⟩ true, .catchUp fun _ => true,
      .onServiceStateChange false, .onPeerInterestChange 0 true true, .withdraw,
      .onServiceStateChange true, .offer ⟨true, 1, 1⟩ true, .catchUp fun _ => true]
      ⟨_, rfl, rfl, rfl, rfl, by decide⟩

end ProviderServiceBinding

end ScoreIntegration.GatewayIpc
