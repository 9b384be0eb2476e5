import ScoreIntegration.Lola.ProxySystem
import ScoreIntegration.Lola.ServiceDiscoverySearches

/-!
# Availability changes never terminate a proxy

A handler is called only when the handles of its search have changed, and the search of
a proxy is for one instance.  So the calls alternate, and an event is told of a provider
that leaves only after it was told that it is there.
-/

namespace ScoreIntegration.Lola

open Concurrency Containers ServiceDiscoveryClient SubscriptionStateMachine List Function Nat Proxy
open ProxyEvent

variable {η : Type}

namespace SubscriptionStateMachine

/-- The machine has been told of the availability of its provider last. -/
structure Follows (machine : SubscriptionStateMachine η) (isAvailable : Bool) : Prop where
  available : machine.providerServiceInstanceIsAvailable = isAvailable
  subscribed : machine.currentState = .subscribed → isAvailable = true
  pending : machine.currentState = .subscriptionPending → isAvailable = false

section Follows

variable {machine : SubscriptionStateMachine η} {isAvailable : Bool}

theorem follows_start (eventSourcePid curRegistrationNo : Nat) :
    (start eventSourcePid curRegistrationNo : SubscriptionStateMachine η).Follows true := by
  refine ⟨rfl, ?_, ?_⟩
  · nofun
  · nofun

section

variable (follows : machine.Follows isAvailable)
include follows

theorem Follows.toNotSubscribed : machine.toNotSubscribed.Follows isAvailable := by
  refine { follows with subscribed := ?_, pending := ?_ }
  · nofun
  · nofun

theorem Follows.enterSubscription (cap : Nat) :
    (machine.enterSubscription cap).Follows isAvailable := by
  have available := follows.available
  cases isAvailable with
  | true =>
    cases wait : machine.eventReceiverHandler with
    | none | some handler => constructor <;> simp [enterSubscription, available, wait]
  | false => constructor <;> simp [enterSubscription, available]

theorem Follows.subscribeEvent (cap : Nat) (reply : SubscriptionReply) :
    (machine.subscribeEvent cap reply).1.Follows isAvailable := by
  unfold SubscriptionStateMachine.subscribeEvent
  split
  · cases reply with
    | granted => exact follows.enterSubscription cap
    | _ => exact follows
  · split
    · exact follows
    · exact follows
  · split
    · exact follows
    · exact follows

theorem Follows.unsubscribeEvent : machine.unsubscribeEvent.Follows isAvailable := by
  unfold SubscriptionStateMachine.unsubscribeEvent
  split
  · exact follows
  · exact follows.toNotSubscribed
  · exact follows.toNotSubscribed

theorem Follows.setReceiveHandler
    (handler : η) : (machine.setReceiveHandler handler).Follows isAvailable := by
  unfold SubscriptionStateMachine.setReceiveHandler
  split
  · exact { follows with }
  · exact { follows with }
  · exact { follows with }

theorem Follows.unsetReceiveHandler : machine.unsetReceiveHandler.Follows isAvailable := by
  unfold SubscriptionStateMachine.unsetReceiveHandler
  split
  · exact { follows with }
  · exact { follows with }
  · exact { follows with }

end

theorem Follows.stopOfferEvent (follows : machine.Follows true) :
    ∃ s', machine.stopOfferEvent = some s' ∧ s'.Follows false := by
  cases s : machine.currentState with
  | subscriptionPending => cases follows.pending s
  | _ =>
    refine ⟨_, by rw [SubscriptionStateMachine.stopOfferEvent, s], rfl, ?_, ?_⟩
    · nofun
    · exact fun _ => rfl

theorem Follows.reOfferEvent (follows : machine.Follows isAvailable) (newPid : Nat) :
    (machine.reOfferEvent newPid).Follows true := by
  cases s : machine.currentState with
  | subscribed =>
    have available := follows.available.trans (follows.subscribed s)
    constructor <;> simp [SubscriptionStateMachine.reOfferEvent, s, available]
  | _ => constructor <;> simp [SubscriptionStateMachine.reOfferEvent, s]

end Follows

end SubscriptionStateMachine

namespace ProxyEvent

variable {event : ProxyEvent η} {isAvailable : Bool}

theorem notify_follows (follows : event.subscriptionEventStateMachine.Follows (!isAvailable) ∨
      event.subscriptionEventStateMachine.Follows true)
    (newPid : Nat) :
    ∃ s', event.notifyServiceInstanceChangedAvailability isAvailable newPid = .ok s' ∧
      s'.subscriptionEventStateMachine.Follows isAvailable := by
  cases isAvailable with
  | true =>
    refine ⟨_, if_pos rfl, ?_⟩
    rcases follows with changed | started
    · exact changed.reOfferEvent newPid
    · exact started.reOfferEvent newPid
  | false =>
    obtain ⟨machine, stopped, absent⟩ := Follows.stopOfferEvent (or_self_iff.mp follows)
    refine ⟨{ event with subscriptionEventStateMachine := machine }, ?_, absent⟩
    simp [notifyServiceInstanceChangedAvailability, stopped]

theorem call_follows {s'} (follows : event.subscriptionEventStateMachine.Follows isAvailable)
    {call} (ok : event.call call = .ok s') :
    s'.subscriptionEventStateMachine.Follows isAvailable := by
  cases call with
  | subscribe cap reply =>
    rw [call] at ok
    split at ok
    · cases ok
      exact follows.subscribeEvent cap reply
    · cases ok
  | unsubscribe =>
    cases ok
    exact follows.unsubscribeEvent
  | setReceiveHandler handler =>
    cases ok
    exact follows.setReceiveHandler handler
  | unsetReceiveHandler =>
    cases ok
    exact follows.unsetReceiveHandler

theorem call_ne_stopOfferWhilePending (event : ProxyEvent η) (call : ProxyEventCall η) :
    event.call call ≠ .error .stopOfferWhilePending := by
  cases call with
  | subscribe cap reply =>
    rw [call]
    split
    · nofun
    · nofun
  | _ => nofun

end ProxyEvent

/-! ## Calls of the handler -/

/-- The calls of the handler, the last one first: available and unavailable by
turns, beginning with available. -/
def Alternates (calls : List Bool) : Prop := calls.IsChain (· ≠ ·) ∧ calls.getLast? ≠ some false

theorem Alternates.cons {calls} (alternates : Alternates calls)
    {call} (changed : call = !calls.headD false) : Alternates (call :: calls) := by
  cases calls with
  | nil =>
    subst changed
    exact ⟨.singleton _, by simp⟩
  | cons last old =>
    subst changed
    refine ⟨isChain_cons_cons.mpr ⟨by simp, alternates.1⟩, ?_⟩
    rw [getLast?_cons_cons]
    exact alternates.2

/-- The search of the proxy: for one instance, with its handle exactly while the
instance is available. -/
structure SearchRequest.Reports (request : SearchRequest) (isAvailable : Bool) : Prop where
  single : ∃ instanceId, request.enrichedInstanceIdentifier.instanceId = some instanceId ∧
      (request.handles = ∅ ∨ request.handles =
        {⟨request.enrichedInstanceIdentifier.instanceIdentifier, instanceId⟩})
  available : decide (request.handles ≠ ∅) = isAvailable

theorem SearchRequest.Reports.changed {req : SearchRequest}
    {isAvailable : Bool} (reports : req.Reports isAvailable)
    {known : KnownInstances} {handles : Finset HandleType}
    (found : getKnownHandles req.enrichedInstanceIdentifier known = .ok handles)
    (differ : req.handles ≠ handles) :
    decide (handles ≠ ∅) = !isAvailable ∧ SearchRequest.Reports { req with handles := handles }
        (decide (handles ≠ ∅)) := by
  obtain ⟨⟨inst, single, pre⟩, available⟩ := reports
  have s' := getKnownHandles_of_instanceId single found
  refine ⟨?_, ⟨inst, single, s'⟩, rfl⟩
  rw [← available]
  rcases pre with noneBefore | oneBefore
  · rcases s' with noneAfter | oneAfter
    · exact absurd (noneBefore.trans noneAfter.symm) differ
    · simp [noneBefore, oneAfter]
  · rcases s' with noneAfter | oneAfter
    · simp [oneBefore, noneAfter]
    · exact absurd (oneBefore.trans oneAfter.symm) differ

structure OfferedState.Fits (state : OfferedState) (isAvailable : Bool) : Prop where
  stopOffered : state = .stopOffered → isAvailable = false
  reOffered : state = .reOffered → isAvailable = true

section Offered

variable {s : OfferedState}

theorem OfferedState.Fits.offer (fits : s.Fits false) : ∃ s', s.offer = some s' ∧ s'.Fits true := by
  cases s with
  | offered => exact ⟨.offered, rfl, by constructor <;> simp⟩
  | stopOffered => exact ⟨.reOffered, rfl, by constructor <;> simp⟩
  | reOffered => cases fits.reOffered rfl

theorem OfferedState.Fits.stopOffer (fits : s.Fits true) :
    ∃ s', s.stopOffer = some s' ∧ s'.Fits false := by
  cases s with
  | stopOffered => cases fits.stopOffered rfl
  | _ => exact ⟨.stopOffered, rfl, by constructor <;> simp⟩

theorem Proxy.updateOffered_spec {px : Proxy η}
    (fits : px.offeredStateMachine.Fits (!px.isServiceInstanceAvailable)) (replied : Bool) :
    ∃ s subscribed, px.updateOffered replied =
        .ok { px with
          offeredStateMachine := s
          areProxyMethodsSubscribed := subscribed } ∧
      s.Fits px.isServiceInstanceAvailable := by
  have changes : ∃ s, (if px.isServiceInstanceAvailable then px.offeredStateMachine.offer
        else px.offeredStateMachine.stopOffer) = some s ∧
      s.Fits px.isServiceInstanceAvailable := by
    cases available : px.isServiceInstanceAvailable with
    | true =>
      rw [available] at fits
      exact OfferedState.Fits.offer fits
    | false =>
      rw [available] at fits
      exact OfferedState.Fits.stopOffer fits
  obtain ⟨s, changed, fitsAfter⟩ := changes
  unfold updateOffered
  rw [changed]
  dsimp only
  split
  · cases s with
    | reOffered =>
      cases replied with
      | true | false => exact ⟨_, _, rfl, fitsAfter⟩
    | _ => exact ⟨_, _, rfl, fitsAfter⟩
  · exact ⟨_, _, rfl, fitsAfter⟩

end Offered

namespace ProxySystem

/-- The availability that the event at a position was told last. -/
def toldAvailability (notifying : Option Nat) (isAvailable : Bool) (position : Nat) : Bool :=
  match notifying with
  | none => isAvailable
  | some told => if position < told then isAvailable else !isAvailable

structure Sound (system : ProxySystem η) (proxy : Proxy η) : Prop where
  numbered : proxy.findServiceHandle < system.nextFreeUid
  search : ∀ request, system.client.searchRequests proxy.findServiceHandle = some request →
      request.Reports proxy.isServiceInstanceAvailable
  events : ∀ (position : Nat) (event : ProxyEvent η), proxy.proxyEvents[position]? = some event →
    event.subscriptionEventStateMachine.Follows
      (toldAvailability system.notifying proxy.isServiceInstanceAvailable position)
  offered : proxy.offeredStateMachine.Fits (match system.notifying with
      | none => proxy.isServiceInstanceAvailable
      | some _ => !proxy.isServiceInstanceAvailable)
  calls : system.handlerCalls.headD false = proxy.isServiceInstanceAvailable
  alternates : Alternates system.handlerCalls

/-- Before the proxy is there its handler has not been called. -/
def Invariant (system : ProxySystem η) : Prop :=
  match system.proxy with
  | none => system.notifying = none ∧ system.handlerCalls = []
  | some proxy => system.Sound proxy

section Steps

variable {sys s' : ProxySystem η} {px : Proxy η} {c : ServiceDiscoveryClient}
  {ident : EnrichedInstanceIdentifier} {crawled : Option FlagFileCrawler.Crawled}
  {pos : Nat} {event : ProxyEvent η} {handles : Finset HandleType}
  {inst : LolaInstanceId} {client' : ServiceDiscoveryClient} {k : FindServiceHandle}
  {worker : DiscoveryWorker}

theorem Invariant.sound (inv : sys.Invariant) (found : sys.proxy = some px) : sys.Sound px := by
  rw [Invariant, found] at inv
  exact inv

/-- Steps of the client and the worker keep the invariant if they keep the
searches that have a number. -/
theorem Invariant.of_client (inv : sys.Invariant) {nextFreeUid}
    (grown : sys.nextFreeUid ≤ nextFreeUid)
    (kept : ∀ k < sys.nextFreeUid, ∀ req, c.searchRequests k = some req →
        ∃ old, sys.client.searchRequests k = some old ∧
          old.enrichedInstanceIdentifier = req.enrichedInstanceIdentifier ∧
          old.handles = req.handles)
    (worker : DiscoveryWorker) :
    Invariant { sys with
      client := c, nextFreeUid := nextFreeUid, worker := worker } := by
  cases found : sys.proxy with
  | none =>
    rw [Invariant, found] at inv
    simpa [Invariant] using inv
  | some px =>
    have sound := inv.sound found
    have search : ∀ req, c.searchRequests px.findServiceHandle = some req →
          req.Reports px.isServiceInstanceAvailable := by
      intro req st
      obtain ⟨old, storedBefore, sameIdentifier, sameHandles⟩ := kept _ sound.numbered _ st
      have reports := sound.search old storedBefore
      refine ⟨?_, ?_⟩
      · rw [← sameIdentifier, ← sameHandles]
        exact reports.single
      · rw [← sameHandles]
        exact reports.available
    simp only [Invariant]
    exact { sound with numbered := lt_of_lt_of_le sound.numbered grown, search := search }

theorem Invariant.of_keepsSearches (inv : sys.Invariant)
    (kept : ServiceDiscoveryClient.KeepsSearches sys.client c) (worker : DiscoveryWorker) :
    Invariant { sys with client := c, worker := worker } :=
  inv.of_client le_rfl (fun k _ req st => kept k req st) worker

theorem reports_of_started (single : ident.instanceId = some inst)
    (started : c.startFindService k ident crawled = .ok (some (client', handles)))
    {req} (st : client'.searchRequests k = some req) :
    req.Reports (decide (handles ≠ ∅)) := by
  obtain ⟨kept, known, found⟩ := startFindService_spec started
  obtain ⟨added, addedThere, sameIdentifier, sameHandles⟩ := kept _ _ st
  rw [withSearch_searchRequests, update_self, Option.some.injEq] at addedThere
  subst addedThere
  refine ⟨⟨inst, ?_⟩, ?_⟩
  · rw [← sameIdentifier, ← sameHandles]
    exact ⟨single, getKnownHandles_of_instanceId single found⟩
  · rw [← sameHandles]

theorem events_set {events : List (ProxyEvent η)} {told told' : Nat → Bool}
    (follows : ∀ (o : Nat) (event : ProxyEvent η), events[o]? = some event →
        event.subscriptionEventStateMachine.Follows (told o))
    (replaced : event.subscriptionEventStateMachine.Follows (told' pos))
    (keep : ∀ o, o ≠ pos → told' o = told o) :
    ∀ (o : Nat) (found : ProxyEvent η), (events.set pos event)[o]? = some found →
        found.subscriptionEventStateMachine.Follows (told' o) := by
  intro o found there
  by_cases same : o = pos
  · subst same
    rw [getElem?_set_self'] at there
    cases pre : events[o]? with
    | none =>
      rw [pre] at there
      cases there
    | some old =>
      rw [pre] at there
      cases there
      exact replaced
  · rw [getElem?_set_ne (Ne.symm same)] at there
    rw [keep o same]
    exact follows o found there

section

variable (sound : sys.Sound px)
include sound

theorem notifyEvent_spec (notifying : sys.notifying = some pos)
    (reg : px.proxyEvents[pos]? = some event) (newPid : Nat) :
    ∃ s', sys.notifyEvent px pos event newPid = .ok s' ∧ s'.Invariant := by
  have pre := sound.events pos event reg
  rw [notifying] at pre
  simp only [toldAvailability, lt_irrefl, if_false] at pre
  obtain ⟨told, ok, follows⟩ := notify_follows (.inl pre) newPid
  refine ⟨_, by rw [notifyEvent, ok]; rfl, ?_⟩
  refine { sound with events := ?_, offered := ?_ }
  · refine events_set sound.events ?_ ?_
    · simpa [toldAvailability] using follows
    · intro o differ
      rw [notifying]
      simp only [toldAvailability]
      by_cases old : o < pos
      · rw [if_pos old, if_pos (lt_succ_of_lt old)]
      · rw [if_neg old, if_neg (by omega)]
  · have offered := sound.offered
    rw [notifying] at offered
    exact offered

theorem finishNotification_spec (notifying : sys.notifying = some pos)
    (complete : px.proxyEvents.length ≤ pos) (replied : Bool) :
    ∃ s', sys.finishNotification px replied = .ok s' ∧ s'.Invariant := by
  have offered := sound.offered
  rw [notifying] at offered
  obtain ⟨s, subscribed, updated, fits⟩ := updateOffered_spec offered replied
  refine ⟨_, by rw [finishNotification, updated]; rfl, ?_⟩
  refine { sound with events := ?_, offered := fits }
  -- The loop has reached every event.
  intro o event reg
  have follows := sound.events o event reg
  have inside := (List.getElem?_eq_some_iff.mp reg).1
  rw [notifying] at follows
  simpa [toldAvailability, lt_of_lt_of_le inside complete] using follows

end

def Safe (result : Except ProxyFailure (ProxySystem η)) : Prop :=
  match result with
  | .ok after => after.Invariant
  | .error failure => failure ≠ .stopOfferWhilePending

section

variable (inv : sys.Invariant)
include inv

theorem safe_startFindService (ident : EnrichedInstanceIdentifier)
    (crawled : Option FlagFileCrawler.Crawled) :
    Safe (sys.startFindService ident crawled) := by
  unfold startFindService
  dsimp only
  split
  · simp [Safe]
  · have kept := keepsSearches_stopFindService sys.client sys.nextFreeUid
    exact inv.of_client (le_succ _) (fun k _ req st => kept k req st) sys.worker
  next c handles started =>
    refine inv.of_client (le_succ _) (fun k older req st => ?_) sys.worker
    obtain ⟨old, storedBefore, same⟩ := (startFindService_spec started).1 k req st
    refine ⟨old, ?_, same⟩
    rwa [withSearch_searchRequests, update_of_ne (Nat.ne_of_lt older)] at storedBefore

theorem safe_createProxy (absent : sys.proxy = none)
    (single : ident.instanceId = some inst) (crawled : Option FlagFileCrawler.Crawled) :
    Safe (sys.createProxy ident crawled) := by
  rw [Invariant, absent] at inv
  obtain ⟨notNotifying, noCalls⟩ := inv
  unfold createProxy
  dsimp only
  split
  · simp [Safe]
  · simp [Safe]
  next c handles started =>
    split
    next noHandles =>
      refine ⟨lt_succ_self _, ?_, ?_, ?_, ?_, ?_⟩
      · intro req st
        have reports := reports_of_started single started st
        rwa [decide_eq_false (not_not.mpr noHandles)] at reports
      · nofun
      · rw [notNotifying]
        constructor <;> simp [create]
      · simp [noCalls, create]
      · simp [noCalls, Alternates]
    next someHandles =>
      have available : decide (handles ≠ ∅) = true := decide_eq_true someHandles
      refine ⟨lt_succ_self _, ?_, ?_, ?_, ?_, ?_⟩
      · intro req st
        exact reports_of_started single started st
      · nofun
      · constructor <;> simp [enterHandler, create]
      · rfl
      · simp [enterHandler, noCalls, Alternates, someHandles]

theorem safe_handleEvents (expectedEvents : Option (List InotifyEvent)) :
    Safe (sys.handleEvents expectedEvents) := by
  unfold handleEvents
  split
  · simp [Safe]
  next c keys creations handled => exact inv.of_keepsSearches (keepsSearches_handleEvents handled) _

theorem safe_callHandler (notNotifying : sys.notifying = none) (k : FindServiceHandle)
    (worker : DiscoveryWorker) : Safe (sys.callHandler k worker) := by
  unfold callHandler
  split
  · simp [Safe]
  next c called =>
    have keep := callHandler_none called
    exact inv.of_keepsSearches (.of_eq (by rw [keep])) worker
  next c handles called =>
    dsimp only
    split
    next absent =>
      rw [Invariant, absent] at inv
      simpa [Safe, Invariant, absent] using inv
    next px found =>
      have sound := inv.sound found
      split
      next own =>
        subst own
        obtain ⟨req, st, differ, known, updated⟩ := callHandler_some called
        obtain ⟨changed, reports⟩ := (sound.search req st).changed known differ
        have old : (!decide (handles ≠ ∅)) = px.isServiceInstanceAvailable := by
          rw [changed, Bool.not_not]
        refine ⟨sound.numbered, ?_, ?_, ?_, rfl, ?_⟩
        · intro found storedAfter
          change c.searchRequests _ = _ at storedAfter
          rw [updated, update_self, Option.some.injEq] at storedAfter
          subst storedAfter
          exact reports
        · intro pos event reg
          have follows := sound.events pos event reg
          rw [notNotifying] at follows
          simp only [enterHandler, toldAvailability, not_lt_zero, if_false]
          rw [old]
          exact follows
        · have offered := sound.offered
          rw [notNotifying] at offered
          simp only [enterHandler]
          rw [old]
          exact offered
        · refine sound.alternates.cons ?_
          rw [sound.calls]
          exact changed
      next o =>
        obtain ⟨req, st, differ, known, updated⟩ := callHandler_some called
        rw [Safe, Invariant, found]
        refine { sound with search := ?_ }
        intro req storedAfter
        change c.searchRequests _ = _ at storedAfter
        rw [updated, update_of_ne o] at storedAfter
        exact sound.search req storedAfter

theorem safe_handleCreations
    (creations : List InotifyEvent) : Safe (sys.handleCreations creations) := by
  unfold handleCreations
  split
  · simp [Safe]
  next c keys handled => exact inv.of_keepsSearches (keepsSearches_handleCreationEvents handled) _

end

theorem safe_registerEvent (sound : sys.Sound px)
    (notNotifying : sys.notifying = none) (eventName : String)
    (sourcePid curRegistrationNo : Nat) :
    Safe (sys.registerEvent px eventName sourcePid curRegistrationNo) := by
  unfold registerEvent Proxy.registerEvent
  split
  · exact nofun
  · have started : (ProxyEvent.mk eventName (.start sourcePid curRegistrationNo) :
        ProxyEvent η).subscriptionEventStateMachine.Follows true :=
      follows_start sourcePid curRegistrationNo
    obtain ⟨event, notified, follows⟩ := ProxyEvent.notify_follows (.inr started) sourcePid
    dsimp only
    rw [notified]
    refine { sound with events := ?_ }
    intro pos found there
    by_cases inside : pos < px.proxyEvents.length
    · rw [getElem?_append_left inside] at there
      exact sound.events pos found there
    · rw [getElem?_append_right (Nat.le_of_not_lt inside)] at there
      obtain rfl : found = event := mem_singleton.mp (mem_of_getElem? there)
      rw [notNotifying]
      exact follows

theorem safe_callEvent (sound : sys.Sound px)
    (reg : px.proxyEvents[pos]? = some event) (call : ProxyEventCall η) :
    Safe (sys.callEvent px pos event call) := by
  cases called : event.call call with
  | error err =>
    rw [callEvent, called]
    intro bad
    subst bad
    exact event.call_ne_stopOfferWhilePending call called
  | ok s' =>
    have follows := call_follows (sound.events pos event reg) called
    rw [callEvent, called]
    refine { sound with events := ?_ }
    exact events_set sound.events follows fun _ _ => rfl

theorem safe_next (inv : sys.Invariant) {label} {res}
    (taken : sys.next label = some res) : Safe res := by
  cases label with
  | startFindService ident crawled =>
    cases taken
    exact safe_startFindService inv ident crawled
  | stopFindService k =>
    cases taken
    exact inv.of_keepsSearches (keepsSearches_stopFindService _ k) sys.worker
  | createProxy instanceIdentifier sid inst qualityType crawled =>
    rw [next] at taken
    split at taken
    · cases taken
    next absent =>
      cases taken
      exact safe_createProxy inv absent rfl crawled
  | handleEvents expectedEvents =>
    rw [next] at taken
    split at taken
    · cases taken
      exact safe_handleEvents inv expectedEvents
    · cases taken
  | callHandler =>
    rw [next] at taken
    split at taken
    next notNotifying _ =>
      cases taken
      exact safe_callHandler inv notNotifying _ _
    · cases taken
  | handleCreations =>
    rw [next] at taken
    split at taken
    · cases taken
      exact safe_handleCreations inv _
    · cases taken
  | finishEvents =>
    rw [next] at taken
    split at taken
    · cases taken
      exact inv.of_keepsSearches (.of_eq rfl) .idle
    · cases taken
  | notifyEvent newPid =>
    rw [next] at taken
    split at taken
    next pos px notifying found =>
      split at taken
      next event reg =>
        cases taken
        obtain ⟨s', ok, kept⟩ := notifyEvent_spec (inv.sound found) notifying reg newPid
        rw [ok]
        exact kept
      · cases taken
    · cases taken
  | finishNotification replied =>
    rw [next] at taken
    split at taken
    next pos px notifying found =>
      split at taken
      next complete =>
        cases taken
        obtain ⟨s', ok, kept⟩ := finishNotification_spec
          (inv.sound found) notifying complete replied
        rw [ok]
        exact kept
      · cases taken
    · cases taken
  | registerEvent eventName sourcePid curRegistrationNo =>
    rw [next] at taken
    split at taken
    next px notNotifying found =>
      cases taken
      exact safe_registerEvent (inv.sound found) notNotifying _ _ _
    · cases taken
  | callEvent pos call =>
    rw [next] at taken
    split at taken
    next px found =>
      split at taken
      next event reg =>
        cases taken
        exact safe_callEvent (inv.sound found) reg call
      · cases taken
    · cases taken
  | _ =>
    rw [next] at taken
    split at taken
    next px found =>
      cases taken
      exact { inv.sound found with }
    · cases taken

end Steps

theorem invariant_of_reachable {sys} (reach : (transitions η).Reachable sys) : sys.Invariant := by
  refine reach.invariant Invariant ?_ ?_
  · intro s isStart
    cases isStart
    exact ⟨rfl, rfl⟩
  · intro pre label s' inv taken
    change pre.step label = some s' at taken
    unfold step at taken
    split at taken
    next reached ok =>
      cases taken
      exact safe_next inv ok
    · cases taken

/-- The handler of the proxy is called with available and unavailable by turns,
and an availability change never hits an event that waits for its subscription. -/
theorem reachable_availability_alternates {system : ProxySystem η}
    (reachable : (transitions η).Reachable system) :
    Alternates system.handlerCalls ∧
      ∀ label, system.next label ≠ some (.error .stopOfferWhilePending) := by
  have invariant := invariant_of_reachable reachable
  constructor
  · cases found : system.proxy with
    | none =>
      rw [Invariant, found] at invariant
      rw [invariant.2]
      exact ⟨.nil, by simp⟩
    | some proxy => exact (invariant.sound found).alternates
  · intro label taken
    exact safe_next invariant taken rfl

/-! ## A provider that comes and goes -/

/-- A flag file of instance 2 of service 1 is deleted or created. -/
def flagFileEvent (deleted : Bool) : InotifyEvent where
  watchDescriptor := 5
  inQOverflow := false
  inIgnored := false
  inDelete := deleted
  inCreate := !deleted
  name := "12_asil-qm_7".toList
  crawled := none

/-- The proxy finds its provider, an event is subscribed, and the provider leaves
and comes back. -/
def providerRestart : List (ProxySystemStep Nat) :=
  [.createProxy 0 1 2 .asilQm (some ⟨[(5, ⟨0, 1, some 2, none⟩)], fun _ => {(1, 2)}⟩),
    .finishNotification true, .registerEvent "event" 12 0,
    .callEvent 0 (.subscribe 1 .granted),
    .handleEvents (some [flagFileEvent true, flagFileEvent false]),
    .callHandler, .notifyEvent 12, .finishNotification true, .handleCreations,
    .callHandler, .notifyEvent 13, .finishNotification true, .finishEvents]

theorem providerRestart_alternates : ∃ system, (transitions Nat).Reachable system ∧
      system.handlerCalls = [true, false, true] ∧
      Alternates system.handlerCalls ∧
      ∀ label, system.next label ≠ some (.error .stopOfferWhilePending) := by
  obtain ⟨system, reachable, calls⟩ : ∃ system, (transitions Nat).Reachable system ∧
      system.handlerCalls = [true, false, true] :=
    TransitionSystem.exists_reachable providerRestart ⟨_, rfl, rfl⟩
  exact ⟨system, reachable, calls, reachable_availability_alternates reachable⟩

end ProxySystem

end ScoreIntegration.Lola
