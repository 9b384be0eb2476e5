import Mathlib.Algebra.Group.Nat.Defs
import Mathlib.Data.Finset.Card
import Mathlib.Logic.Function.Basic
import ScoreIntegration.Concurrency.Transitions

/-!
# Registration with a provider in another process

The proxies of one process share one registration.  A counter under a mutex decides whether
a message is sent, which happens after the mutex was released.  A restarted provider has
another process id.
-/

namespace ScoreIntegration.Lola

open Concurrency Function List Option Nat TransitionSystem

inductive NotifierMessage where
  | registerEventNotifier
  | unregisterEventNotifier
  deriving DecidableEq, Repr

/-- An entry of `event_update_remote_registrations_`; the counter has 16 bits. -/
structure NodeCounter where
  nodeId : Nat
  counter : Nat
  deriving DecidableEq, Repr

inductive RemoteProxy where
  | idle
  | registering (registrationNo targetNodeId : Nat)
  | sendingRegister (registrationNo targetNodeId : Nat)
  | registered (registrationNo targetNodeId : Nat)
  | reregistering (registrationNo sourceNodeId targetNodeId : Nat)
  | unregistering (targetNodeId : Nat)
  | sendingUnregister (targetNodeId : Nat)
  deriving DecidableEq, Repr

/-- The process with the proxies, the connections to the providers and what each
provider knows of the process.  The first provider is the current one. -/
structure RemoteNotifications where
  eventUpdateHandlers : Option (List Nat)
  curRegistrationNo : Nat
  eventUpdateRemoteRegistrations : Option NodeCounter
  proxies : Nat → RemoteProxy
  queues : Nat → List NotifierMessage
  interested : Nat → Bool
  currentProvider : Nat
  formerProviders : List Nat

inductive RemoteStep where
  | restartProvider (newNodeId : Nat)
  | registerEventNotification (proxy targetNodeId : Nat)
  | reregisterEventNotification (proxy targetNodeId : Nat)
  | unregisterEventNotification (proxy : Nat)
  | continueCall (proxy : Nat)
  | handleMessage (nodeId : Nat)
  deriving DecidableEq, Repr

namespace RemoteNotifications

def start (provider : Nat) : RemoteNotifications where
  eventUpdateHandlers := none
  curRegistrationNo := 0
  eventUpdateRemoteRegistrations := none
  proxies := fun _ => .idle
  queues := fun _ => []
  interested := fun _ => false
  currentProvider := provider
  formerProviders := []

variable (state : RemoteNotifications)

def providers : List Nat := state.currentProvider :: state.formerProviders

def setProxy (proxy : Nat) (position : RemoteProxy) : RemoteNotifications :=
  { state with proxies := Function.update state.proxies proxy position }

theorem proxies_setProxy_of_ne {px o} (differ : o ≠ px) (pos : RemoteProxy) :
    (state.setProxy px pos).proxies o = state.proxies o :=
  update_of_ne differ ..

def send (targetNodeId : Nat) (message : NotifierMessage) : RemoteNotifications :=
  { state with
    queues := Function.update state.queues targetNodeId (state.queues targetNodeId ++ [message]) }

def increment (counter : Nat) : Nat := (counter + 1) % 2 ^ 16

/-- The section of `RegisterEventNotificationRemote` under its mutex. -/
def registerEventNotificationRemote
    (proxy registrationNo targetNodeId : Nat) : RemoteNotifications :=
  let entry := match state.eventUpdateRemoteRegistrations with
    | none => ⟨targetNodeId, 1⟩
    | some entry =>
      if entry.nodeId ≠ targetNodeId then ⟨targetNodeId, 1⟩
      else { entry with counter := increment entry.counter }
  { state with eventUpdateRemoteRegistrations := some entry }.setProxy proxy
    (if entry.counter = 1 then .sendingRegister registrationNo targetNodeId
      else .registered registrationNo targetNodeId)

/-- The section of `ReregisterEventNotification` under the mutex of the remote
registrations.  Without an entry the call only logs an error. -/
def reregisterEventNotificationRemote
    (proxy registrationNo targetNodeId : Nat) : RemoteNotifications :=
  match state.eventUpdateRemoteRegistrations with
  | none => state.setProxy proxy (.registered registrationNo targetNodeId)
  | some entry =>
    if entry.nodeId = targetNodeId then
      { state with
        eventUpdateRemoteRegistrations :=
          some { entry with counter := increment entry.counter } }.setProxy proxy
        (.registered registrationNo targetNodeId)
    else
      { state with
        eventUpdateRemoteRegistrations := some ⟨targetNodeId, 1⟩ }.setProxy proxy
        (.sendingRegister registrationNo targetNodeId)

/-- The section of `UnregisterEventNotificationRemote` under its mutex; nothing if
its assertion fails. -/
def unregisterEventNotificationRemote (proxy targetNodeId : Nat) : Option RemoteNotifications :=
  match state.eventUpdateRemoteRegistrations with
  | none => some (state.setProxy proxy .idle)
  | some entry =>
    if entry.counter = 0 then none
    else if entry.nodeId ≠ targetNodeId then some (state.setProxy proxy .idle)
    else if entry.counter - 1 = 0 then
      some ({ state with eventUpdateRemoteRegistrations := none }.setProxy proxy
        (.sendingUnregister targetNodeId))
    else
      some ({ state with
        eventUpdateRemoteRegistrations :=
          some { entry with counter := entry.counter - 1 } }.setProxy proxy .idle)

def continueCall (proxy : Nat) : Option RemoteNotifications :=
  match state.proxies proxy with
  | .idle => none
  | .registered _ _ => none
  | .registering registrationNo targetNodeId =>
    some (state.registerEventNotificationRemote proxy registrationNo targetNodeId)
  | .sendingRegister registrationNo targetNodeId =>
    some ((state.send targetNodeId .registerEventNotifier).setProxy proxy
      (.registered registrationNo targetNodeId))
  | .reregistering registrationNo _ targetNodeId =>
    some (state.reregisterEventNotificationRemote proxy registrationNo targetNodeId)
  | .unregistering targetNodeId => state.unregisterEventNotificationRemote proxy targetNodeId
  | .sendingUnregister targetNodeId =>
    some ((state.send targetNodeId .unregisterEventNotifier).setProxy proxy .idle)

def registerEventNotification (proxy targetNodeId : Nat) : RemoteNotifications :=
  { state with
    eventUpdateHandlers := some (state.eventUpdateHandlers.getD [] ++ [state.curRegistrationNo])
    curRegistrationNo := state.curRegistrationNo + 1 }.setProxy proxy
    (.registering state.curRegistrationNo targetNodeId)

/-- The first section of `ReregisterEventNotification`; without handlers the call
only logs an error. -/
def reregisterEventNotification
    (proxy registrationNo sourceNodeId targetNodeId : Nat) : RemoteNotifications :=
  match state.eventUpdateHandlers with
  | none => state.setProxy proxy (.registered registrationNo targetNodeId)
  | some _ => state.setProxy proxy (.reregistering registrationNo sourceNodeId targetNodeId)

/-- The first section of `UnregisterEventNotification`; a handler that is not
found only logs a warning. -/
def unregisterEventNotification (proxy registrationNo targetNodeId : Nat) : RemoteNotifications :=
  match state.eventUpdateHandlers with
  | none => state.setProxy proxy .idle
  | some handlers =>
    if registrationNo ∈ handlers then
      { state with
        eventUpdateHandlers := some (handlers.erase registrationNo) }.setProxy
        proxy (.unregistering targetNodeId)
    else state.setProxy proxy .idle

def handleMessage (nodeId : Nat) : Option RemoteNotifications :=
  match state.queues nodeId with
  | [] => none
  | message :: messages =>
    some { state with
      queues := Function.update state.queues nodeId messages
      interested := Function.update state.interested nodeId
        (decide (message = .registerEventNotifier)) }

/-- One step.  Calls name a process that has provided the event. -/
def step : RemoteStep → Option RemoteNotifications
  | .restartProvider newNodeId =>
    some { state with
      currentProvider := newNodeId
      formerProviders := state.providers
      queues := Function.update state.queues newNodeId []
      interested := Function.update state.interested newNodeId false }
  | .registerEventNotification proxy targetNodeId =>
    if state.proxies proxy = .idle ∧ targetNodeId ∈ state.providers then
      some (state.registerEventNotification proxy targetNodeId)
    else none
  | .reregisterEventNotification proxy targetNodeId =>
    match state.proxies proxy with
    | .registered registrationNo sourceNodeId =>
      if targetNodeId ∈ state.providers then
        some (state.reregisterEventNotification proxy registrationNo sourceNodeId targetNodeId)
      else none
    | _ => none
  | .unregisterEventNotification proxy =>
    match state.proxies proxy with
    | .registered registrationNo targetNodeId =>
      some (state.unregisterEventNotification proxy registrationNo targetNodeId)
    | _ => none
  | .continueCall proxy => state.continueCall proxy
  | .handleMessage nodeId => state.handleMessage nodeId

def system (provider : Nat) : TransitionSystem RemoteNotifications RemoteStep :=
  .ofStep (start provider) step

def Quiet : Prop :=
  ∀ proxy, state.proxies proxy = .idle ∨
    ∃ registrationNo nodeId, state.proxies proxy = .registered registrationNo nodeId

end RemoteNotifications

/-! ## Calls in order -/

namespace RemoteProxy

def registrationNo : RemoteProxy → Option Nat
  | .registering registrationNo _ => some registrationNo
  | .sendingRegister registrationNo _ => some registrationNo
  | .registered registrationNo _ => some registrationNo
  | .reregistering registrationNo _ _ => some registrationNo
  | .idle => none
  | .unregistering _ => none
  | .sendingUnregister _ => none

def countedAt : RemoteProxy → Option Nat
  | .sendingRegister _ targetNodeId => some targetNodeId
  | .registered _ targetNodeId => some targetNodeId
  | .reregistering _ sourceNodeId _ => some sourceNodeId
  | .unregistering targetNodeId => some targetNodeId
  | .idle => none
  | .registering _ _ => none
  | .sendingUnregister _ => none

def nodes : RemoteProxy → List Nat
  | .idle => []
  | .registering _ targetNodeId => [targetNodeId]
  | .sendingRegister _ targetNodeId => [targetNodeId]
  | .registered _ targetNodeId => [targetNodeId]
  | .reregistering _ sourceNodeId targetNodeId => [sourceNodeId, targetNodeId]
  | .unregistering targetNodeId => [targetNodeId]
  | .sendingUnregister targetNodeId => [targetNodeId]

theorem mem_nodes_of_countedAt {pos : RemoteProxy} {nodeId : Nat}
    (counted : pos.countedAt = some nodeId) : nodeId ∈ pos.nodes := by
  cases pos <;> simp_all [countedAt, nodes]

end RemoteProxy

def NodeCounter.at (entry : Option NodeCounter) (nodeId : Nat) : Nat :=
  match entry with
  | none => 0
  | some entry => if entry.nodeId = nodeId then entry.counter else 0

namespace RemoteNotifications

/-- A registration may enter its section: no unregistration is about to send its
message, the entry is not taken away from the current provider, and the counter
does not overflow. -/
structure Admits (state : RemoteNotifications) (targetNodeId : Nat) : Prop where
  noUnregister : ∀ proxy nodeId, state.proxies proxy ≠ .sendingUnregister nodeId
  current : ∀ entry, state.eventUpdateRemoteRegistrations = some entry →
    entry.nodeId = state.currentProvider → targetNodeId = state.currentProvider
  bounded : ∀ entry, state.eventUpdateRemoteRegistrations = some entry → entry.counter + 1 < 2 ^ 16

/-- The calls come in order: a restarted provider has a new process id, a proxy
re-registers with another process than before and while there is an entry, and
registrations are admitted. -/
def Orderly (state : RemoteNotifications) : RemoteStep → Prop
  | .restartProvider newNodeId => newNodeId ∉ state.providers
  | .reregisterEventNotification proxy targetNodeId =>
    ∀ registrationNo sourceNodeId, state.proxies proxy = .registered registrationNo sourceNodeId →
        sourceNodeId ≠ targetNodeId
  | .continueCall proxy =>
    match state.proxies proxy with
    | .registering _ targetNodeId => state.Admits targetNodeId
    | .reregistering _ _ targetNodeId =>
      state.Admits targetNodeId ∧ state.eventUpdateRemoteRegistrations ≠ none
    | _ => True
  | .registerEventNotification _ _ => True
  | .unregisterEventNotification _ => True
  | .handleMessage _ => True

def outcome (state : RemoteNotifications) (nodeId : Nat) : Bool :=
  match (state.queues nodeId).getLast? with
  | none => state.interested nodeId
  | some message => decide (message = .registerEventNotifier)

/-- The handlers of the proxies are registered under numbers of their own. -/
structure Handled (state : RemoteNotifications) : Prop where
  stored : ∀ proxy registrationNo, (state.proxies proxy).registrationNo = some registrationNo →
      ∃ handlers, state.eventUpdateHandlers = some handlers ∧ registrationNo ∈ handlers
  below : ∀ proxy registrationNo, (state.proxies proxy).registrationNo = some registrationNo →
      registrationNo < state.curRegistrationNo
  distinct : ∀ proxy other registrationNo,
    (state.proxies proxy).registrationNo = some registrationNo →
      (state.proxies other).registrationNo = some registrationNo → proxy = other

/-- Only processes that have provided the event are named. -/
structure Known (state : RemoteNotifications) : Prop where
  proxies : ∀ proxy nodeId, nodeId ∈ (state.proxies proxy).nodes → nodeId ∈ state.providers
  entry : ∀ entry, state.eventUpdateRemoteRegistrations = some entry →
    entry.nodeId ∈ state.providers
  positive : ∀ entry, state.eventUpdateRemoteRegistrations = some entry → 0 < entry.counter
  moves : ∀ proxy registrationNo sourceNodeId targetNodeId,
    state.proxies proxy = .reregistering registrationNo sourceNodeId targetNodeId →
      sourceNodeId ≠ targetNodeId

/-- The entry counts the proxies of the current provider, and the messages tell it
whether there are any. -/
structure Accurate (state : RemoteNotifications) : Prop where
  counted : ∃ counted : Finset Nat, (∀ proxy, proxy ∈ counted ↔
      (state.proxies proxy).countedAt = some state.currentProvider) ∧
    NodeCounter.at state.eventUpdateRemoteRegistrations state.currentProvider = counted.card
  present : (∃ proxy, (state.proxies proxy).countedAt = some state.currentProvider) →
    state.outcome state.currentProvider = true ∨ ∃ proxy registrationNo, state.proxies proxy =
        .sendingRegister registrationNo state.currentProvider
  absent : (∀ proxy, (state.proxies proxy).countedAt ≠ some state.currentProvider) →
    state.outcome state.currentProvider = false ∨
      ∃ proxy, state.proxies proxy = .sendingUnregister state.currentProvider
  leaving : ∀ proxy, state.proxies proxy = .sendingUnregister state.currentProvider →
    ∀ other, (state.proxies other).countedAt ≠ some state.currentProvider

structure Invariant (state : RemoteNotifications) : Prop where
  handled : state.Handled
  known : state.Known
  accurate : state.Accurate

attribute [grind] RemoteProxy.registrationNo RemoteProxy.countedAt RemoteProxy.nodes

section Steps

variable {s s' : RemoteNotifications} {px : Nat} {pos : RemoteProxy} {targetNodeId : Nat}

theorem proxies_of_update (proxies : s'.proxies = update s.proxies px pos) (o : Nat) :
    s'.proxies o = if o = px then pos else s.proxies o := by
  rw [proxies, update_apply]

theorem Handled.move (handled : s.Handled)
    (handlers : s'.eventUpdateHandlers = s.eventUpdateHandlers)
    (numbers : s'.curRegistrationNo = s.curRegistrationNo)
    (proxies : s'.proxies = update s.proxies px pos)
    (kept : ∀ no, pos.registrationNo = some no →
      (s.proxies px).registrationNo = some no) : s'.Handled := by
  have old : ∀ o no, (s'.proxies o).registrationNo = some no →
        (s.proxies o).registrationNo = some no := by
    grind [proxies_of_update proxies]
  refine ⟨?_, ?_, ?_⟩
  · rw [handlers]
    exact fun o number numbered => handled.stored o number (old o _ numbered)
  · rw [numbers]
    exact fun o number numbered => handled.below o number (old o _ numbered)
  · exact fun first second number isFirst isSecond => handled.distinct first second number
      (old first _ isFirst) (old second _ isSecond)

theorem Known.move (known : s.Known) (cur : s'.currentProvider = s.currentProvider)
    (former : s'.formerProviders = s.formerProviders)
    (proxies : s'.proxies = update s.proxies px pos)
    (named : ∀ nodeId ∈ pos.nodes, nodeId ∈ s.providers)
    (e : ∀ e, s'.eventUpdateRemoteRegistrations = some e → e.nodeId ∈ s.providers ∧ 0 < e.counter)
    (moves : ∀ no sourceNodeId targetNodeId, pos = .reregistering no sourceNodeId targetNodeId →
        sourceNodeId ≠ targetNodeId) : s'.Known := by
  have sameProviders : s'.providers = s.providers := by
    rw [providers, providers, cur, former]
  refine ⟨?_, ?_, fun found there => (e found there).2, ?_⟩
  · grind [proxies_of_update proxies, known.proxies]
  · rw [sameProviders]
    exact fun found there => (e found there).1
  · grind [proxies_of_update proxies, known.moves]

abbrev counterAt (s : RemoteNotifications) (nodeId : Nat) : Nat :=
  NodeCounter.at s.eventUpdateRemoteRegistrations nodeId

section

variable (accurate : s.Accurate) (cur : s'.currentProvider = s.currentProvider)
  (proxies : s'.proxies = Function.update s.proxies px pos)
include accurate cur proxies

theorem Accurate.move
    (e : s'.counterAt s.currentProvider = s.counterAt s.currentProvider)
    (out : s'.outcome s.currentProvider = s.outcome s.currentProvider)
    (counted : pos.countedAt = some s.currentProvider ↔
      (s.proxies px).countedAt = some s.currentProvider)
    (sends : ∀ no, s.proxies px ≠ .sendingRegister no s.currentProvider)
    (withdraws : s.proxies px ≠ .sendingUnregister s.currentProvider)
    (sending : pos ≠ .sendingUnregister s.currentProvider) : s'.Accurate := by
  have place := proxies_of_update proxies
  have countedSame : ∀ o, (s'.proxies o).countedAt = some s.currentProvider ↔
        (s.proxies o).countedAt = some s.currentProvider := by
    grind
  obtain ⟨set, members, card⟩ := accurate.counted
  refine ⟨⟨set, by grind, by grind⟩, ?_, ?_, ?_⟩
  · rintro ⟨o, isCounted⟩
    rw [cur] at isCounted ⊢
    rcases accurate.present ⟨o, (countedSame o).mp isCounted⟩ with
      done | ⟨sender, no, isSending⟩
    · exact .inl (out.trans done)
    · exact .inr ⟨sender, no, by grind⟩
  · grind [accurate.absent]
  · grind [accurate.leaving]

theorem Accurate.join
    (e : s'.counterAt s.currentProvider = s.counterAt s.currentProvider + 1)
    (out : s'.outcome s.currentProvider = s.outcome s.currentProvider)
    (pre : (s.proxies px).countedAt ≠ some s.currentProvider)
    (counted : pos.countedAt = some s.currentProvider)
    (noUnregister : ∀ o nodeId, s.proxies o ≠ .sendingUnregister nodeId)
    (first : s.counterAt s.currentProvider = 0 →
      ∃ no, pos = .sendingRegister no s.currentProvider) :
    s'.Accurate := by
  unfold counterAt at e first
  have place := proxies_of_update proxies
  obtain ⟨set, members, card⟩ := accurate.counted
  refine ⟨⟨insert px set, by grind, ?_⟩, ?_, ?_, ?_⟩
  · rw [cur, e, card, Finset.card_insert_of_notMem (by grind)]
  · -- Without an earlier registration the proxy itself is about to send the message.
    rcases Nat.eq_zero_or_pos set.card with none | some
    · grind
    · obtain ⟨o, mem⟩ := Finset.card_pos.mp some
      grind [accurate.present ⟨o, (members o).mp mem⟩]
  · grind
  · grind

theorem Accurate.tell
    (e : s'.eventUpdateRemoteRegistrations = s.eventUpdateRemoteRegistrations)
    (counted : pos.countedAt = (s.proxies px).countedAt)
    (sending : pos ≠ .sendingUnregister s.currentProvider)
    (out : s'.outcome s.currentProvider = true ↔
      ∃ o, (s.proxies o).countedAt = some s.currentProvider) : s'.Accurate := by
  have place := proxies_of_update proxies
  have countedSame : ∀ o, (s'.proxies o).countedAt = (s.proxies o).countedAt := by
    intro o
    rw [place o]
    split
    next same => rw [same, counted]
    next => rfl
  obtain ⟨set, members, card⟩ := accurate.counted
  refine ⟨⟨set, by simpa only [countedSame, cur] using members, by rw [e, cur, card]⟩,
    ?_, ?_, ?_⟩ <;> simp only [countedSame, cur]
  · exact fun anyone => .inl (out.mpr anyone)
  · exact fun nobody => .inl (Bool.eq_false_iff.mpr fun told =>
      (out.mp told).elim fun o => nobody o)
  · grind [accurate.leaving]

theorem Accurate.leave
    (e : s'.counterAt s.currentProvider = s.counterAt s.currentProvider - 1)
    (out : s'.outcome s.currentProvider = s.outcome s.currentProvider)
    (unregistering : s.proxies px = .unregistering s.currentProvider)
    (gone : pos.countedAt = none)
    (last : s.counterAt s.currentProvider = 1 ↔
      pos = .sendingUnregister s.currentProvider) : s'.Accurate := by
  unfold counterAt at e last
  have place := proxies_of_update proxies
  obtain ⟨set, members, card⟩ := accurate.counted
  have isMember : px ∈ set := (members px).mpr (by grind)
  have remaining : ∀ o, o ∈ set.erase px ↔ (s'.proxies o).countedAt = some s.currentProvider := by
    grind
  -- The proxy sends its message exactly if it was the only one.
  have alone : pos = .sendingUnregister s.currentProvider ↔ set.erase px = ∅ := by
    rw [← last, card, ← Finset.card_erase_add_one isMember, ← Finset.card_eq_zero]
    omega
  refine ⟨⟨set.erase px, ?_, ?_⟩, ?_, ?_, ?_⟩
  · rw [cur]
    exact remaining
  · rw [cur, e, card, Finset.card_erase_of_mem isMember]
  · rw [cur, out]
    intro _
    rcases accurate.present ⟨px, by grind⟩ with done | ⟨sender, no, sends⟩
    · exact .inl done
    · exact .inr ⟨sender, no, by grind⟩
  · rw [cur]
    intro nobody
    refine .inr ⟨px, ?_⟩
    rw [place, if_pos rfl, alone]
    exact Finset.eq_empty_of_forall_notMem fun o mem => nobody o ((remaining o).mp mem)
  · rw [cur]
    intro o leaves witness isCounted
    by_cases same : o = px
    · have none := alone.mp (by grind)
      have mem := (remaining witness).mpr isCounted
      rw [none] at mem
      cases mem
    · exact accurate.leaving o (by grind) px (by grind)

end

theorem Accurate.entry (accurate : s.Accurate)
    (counted : (s.proxies px).countedAt = some s.currentProvider) :
    ∃ e, s.eventUpdateRemoteRegistrations = some e ∧ e.nodeId = s.currentProvider := by
  obtain ⟨set, members, card⟩ := accurate.counted
  have positive := Finset.card_pos.mpr ⟨px, (members px).mpr counted⟩
  rw [← card] at positive
  cases there : s.eventUpdateRemoteRegistrations with
  | none =>
    rw [there] at positive
    cases positive
  | some e =>
    refine ⟨e, rfl, ?_⟩
    by_contra other
    rw [there, NodeCounter.at, if_neg other] at positive
    cases positive

variable {e : NodeCounter} {no nodeId sourceNodeId : Nat}

theorem at_of_ne (o : e.nodeId ≠ nodeId) : NodeCounter.at (some e) nodeId = 0 := if_neg o

theorem at_of_eq (same : e.nodeId = nodeId) : NodeCounter.at (some e) nodeId = e.counter :=
  if_pos same

theorem counterAt_eq_zero
    (o : ∀ e, s.eventUpdateRemoteRegistrations = some e → e.nodeId ≠ nodeId) :
    s.counterAt nodeId = 0 := by
  unfold counterAt
  cases there : s.eventUpdateRemoteRegistrations with
  | none => rfl
  | some e => exact at_of_ne (o e there)

theorem Admits.increment (admits : s.Admits targetNodeId)
    (there : s.eventUpdateRemoteRegistrations = some e) :
    increment e.counter = e.counter + 1 :=
  mod_eq_of_lt (admits.bounded e there)

structure Registers (state : RemoteNotifications) (targetNodeId : Nat)
    (entry : NodeCounter) (sends : Bool) : Prop where
  node : entry.nodeId = targetNodeId
  counter : entry.counter = NodeCounter.at state.eventUpdateRemoteRegistrations targetNodeId + 1
  first : NodeCounter.at state.eventUpdateRemoteRegistrations targetNodeId = 0 → sends = true

theorem Registers.increment (known : s.Known) (admits : s.Admits targetNodeId)
    (there : s.eventUpdateRemoteRegistrations = some e)
    (same : e.nodeId = targetNodeId) (sends : Bool) :
    s.Registers targetNodeId
      { e with counter := RemoteNotifications.increment e.counter } sends := by
  have counter := at_of_eq same
  have positive := known.positive e there
  refine ⟨same, ?_, fun none => ?_⟩
  · rw [there, counter]
    exact admits.increment there
  · rw [there, counter] at none
    omega

theorem Registers.fresh (o : ∀ e, s.eventUpdateRemoteRegistrations = some e →
      e.nodeId ≠ targetNodeId) : s.Registers targetNodeId ⟨targetNodeId, 1⟩ true :=
  ⟨rfl, congrArg succ (counterAt_eq_zero o).symm, fun _ => rfl⟩

theorem Invariant.registered (inv : s.Invariant) {sends}
    (numbered : (s.proxies px).registrationNo = some no)
    (named : targetNodeId ∈ s.providers) (admits : s.Admits targetNodeId)
    (elsewhere : (s.proxies px).countedAt ≠ some targetNodeId)
    (silent : ∀ number nodeId, s.proxies px ≠ .sendingRegister number nodeId)
    (registers : s.Registers targetNodeId e sends) :
    Invariant ({ s with
      eventUpdateRemoteRegistrations := some e }.setProxy px
        (if sends then .sendingRegister no targetNodeId else .registered no targetNodeId)) := by
  obtain ⟨place, isPlace⟩ : ∃ place : RemoteProxy, place = if sends then
    .sendingRegister no targetNodeId else .registered no targetNodeId :=
    ⟨_, rfl⟩
  rw [← isPlace]
  have counted : place.countedAt = some targetNodeId := by grind
  refine ⟨?_, ?_, ?_⟩
  · exact inv.handled.move rfl rfl rfl (by grind)
  · refine inv.known.move rfl rfl rfl (by grind) ?_ (by grind)
    intro found there
    cases there
    rw [registers.node, registers.counter]
    exact ⟨named, succ_pos _⟩
  · by_cases isCurrent : targetNodeId = s.currentProvider
    · subst isCurrent
      refine inv.accurate.join rfl rfl ?_ rfl elsewhere counted admits.noUnregister ?_
      · exact (at_of_eq registers.node).trans registers.counter
      · intro none
        rw [isPlace, registers.first none]
        exact ⟨no, rfl⟩
    · have notCounted : (s.proxies px).countedAt ≠ some s.currentProvider := by
        intro isCounted
        obtain ⟨found, there, node⟩ := inv.accurate.entry isCounted
        exact isCurrent (admits.current found there node)
      refine inv.accurate.move rfl rfl ?_ rfl (by grind) (fun _ => silent _ _)
        (admits.noUnregister _ _) (by grind)
      refine (at_of_ne (registers.node ▸ isCurrent)).trans (counterAt_eq_zero ?_).symm
      exact fun found there node => isCurrent (admits.current found there node)

theorem invariant_registerRemote (inv : s.Invariant) (registering : s.proxies px =
      .registering no targetNodeId)
    (admits : s.Admits targetNodeId) :
    (s.registerEventNotificationRemote px no targetNodeId).Invariant := by
  have numbered : (s.proxies px).registrationNo = some no := by grind
  have admitted : ∀ e : NodeCounter, s.Registers targetNodeId e (decide (e.counter = 1)) →
      Invariant ({ s with
        eventUpdateRemoteRegistrations := some e }.setProxy px
          (if e.counter = 1 then .sendingRegister no targetNodeId
            else .registered no targetNodeId)) := by
    intro e registers
    have res := inv.registered numbered
      (inv.known.proxies px targetNodeId (by grind)) admits (by grind) (by grind)
      registers
    simpa only [decide_eq_true_eq] using res
  unfold registerEventNotificationRemote
  cases there : s.eventUpdateRemoteRegistrations with
  | none => exact admitted ⟨targetNodeId, 1⟩ (.fresh (by grind))
  | some e =>
    by_cases o : e.nodeId ≠ targetNodeId
    · simp only [if_pos o]
      exact admitted ⟨targetNodeId, 1⟩ (.fresh (by grind))
    · simp only [if_neg o]
      exact admitted _ (.increment inv.known admits there (not_not.mp o) _)

theorem invariant_reregisterRemote (inv : s.Invariant)
    (reregistering : s.proxies px = .reregistering no sourceNodeId targetNodeId)
    (admits : s.Admits targetNodeId) (hasEntry : s.eventUpdateRemoteRegistrations ≠ none) :
    (s.reregisterEventNotificationRemote px no targetNodeId).Invariant := by
  have moves := inv.known.moves _ _ _ _ reregistering
  have admitted : ∀ {e sends}, s.Registers targetNodeId e sends →
      Invariant ({ s with
        eventUpdateRemoteRegistrations := some e }.setProxy px
          (if sends then .sendingRegister no targetNodeId else .registered no targetNodeId)) :=
    inv.registered (by grind) (inv.known.proxies px targetNodeId (by grind))
      admits (by grind) (by grind)
  unfold reregisterEventNotificationRemote
  cases there : s.eventUpdateRemoteRegistrations with
  | none => exact absurd there hasEntry
  | some e =>
    by_cases same : e.nodeId = targetNodeId
    · simp only [if_pos same]
      exact admitted (.increment inv.known admits there same false)
    · simp only [if_neg same]
      exact admitted (.fresh (by grind))

/-! ## The other steps -/

theorem outcome_send_self (targetNodeId : Nat) (msg : NotifierMessage) :
    (s.send targetNodeId msg).outcome targetNodeId = decide (msg = .registerEventNotifier) := by
  simp [outcome, send]

theorem outcome_send_of_ne (differ : nodeId ≠ targetNodeId) (msg : NotifierMessage) :
    (s.send targetNodeId msg).outcome nodeId = s.outcome nodeId := by
  simp [outcome, send, update_of_ne differ]

theorem Known.entries (known : s.Known) : ∀ e, s.eventUpdateRemoteRegistrations = some e →
      e.nodeId ∈ s.providers ∧ 0 < e.counter :=
  fun e there => ⟨known.entry e there, known.positive e there⟩

variable (inv : s.Invariant)
include inv

theorem Invariant.unregistered (unregistering : s.proxies px = .unregistering targetNodeId)
    {e} (place : pos = .idle ∨ pos = .sendingUnregister targetNodeId)
    (entries : ∀ found, e = some found → found.nodeId ∈ s.providers ∧ 0 < found.counter)
    (own : targetNodeId = s.currentProvider →
      NodeCounter.at e targetNodeId = s.counterAt targetNodeId - 1 ∧ (s.counterAt targetNodeId = 1 ↔
        pos = .sendingUnregister targetNodeId))
    (o : targetNodeId ≠ s.currentProvider →
      NodeCounter.at e s.currentProvider = s.counterAt s.currentProvider) :
    Invariant ({ s with
      eventUpdateRemoteRegistrations := e }.setProxy px pos) := by
  have gone : pos.countedAt = none := by grind
  refine ⟨inv.handled.move rfl rfl rfl (by grind), ?_, ?_⟩
  · refine inv.known.move rfl rfl rfl (fun nodeId mem => ?_) entries (by grind)
    exact inv.known.proxies px nodeId (by grind)
  · by_cases isCurrent : targetNodeId = s.currentProvider
    · subst isCurrent
      obtain ⟨counter, last⟩ := own rfl
      exact inv.accurate.leave rfl rfl counter rfl unregistering gone last
    · exact inv.accurate.move rfl rfl (o isCurrent) rfl (by grind) (by grind) (by grind) (by grind)

theorem invariant_unregisterRemote (unregistering : s.proxies px = .unregistering targetNodeId)
    (taken : s.unregisterEventNotificationRemote px targetNodeId = some s') : s'.Invariant := by
  have entryOfCurrent : targetNodeId = s.currentProvider →
      ∃ e, s.eventUpdateRemoteRegistrations = some e ∧ e.nodeId = targetNodeId := by
    rintro rfl
    have counted : (s.proxies px).countedAt = some s.currentProvider := by grind
    exact inv.accurate.entry counted
  -- An unregistration that finds no entry of its own leaves everything as it is.
  have ignored : (∀ e, s.eventUpdateRemoteRegistrations = some e →
      e.nodeId ≠ targetNodeId) → (s.setProxy px .idle).Invariant := by
    intro foreign
    refine inv.unregistered unregistering (.inl rfl) inv.known.entries ?_ (fun _ => rfl)
    intro isCurrent
    obtain ⟨e, there, node⟩ := entryOfCurrent isCurrent
    exact absurd node (foreign e there)
  unfold unregisterEventNotificationRemote at taken
  split at taken
  next there =>
    cases taken
    exact ignored (by grind)
  next e there =>
    split_ifs at taken with zero foreign last
    · cases taken
      exact ignored (by grind)
    · have node : e.nodeId = targetNodeId := not_not.mp foreign
      cases taken
      refine inv.unregistered unregistering (.inr rfl) nofun ?_ ?_
      · grind [NodeCounter.at]
      · grind [NodeCounter.at]
    · have node : e.nodeId = targetNodeId := not_not.mp foreign
      cases taken
      refine inv.unregistered unregistering (.inl rfl) ?_ ?_ ?_
      · grind [inv.known.entries e there]
      · grind [NodeCounter.at]
      · grind [NodeCounter.at]

/-! ## Calls that start, messages and restarts -/

theorem invariant_registerEventNotification (idle : s.proxies px = .idle)
    (named : targetNodeId ∈ s.providers) :
    (s.registerEventNotification px targetNodeId).Invariant := by
  have handled := inv.handled
  have place := proxies_of_update (rfl : (s.registerEventNotification px targetNodeId).proxies = _)
  refine ⟨⟨?_, ?_, ?_⟩, ?_, ?_⟩
  · intro o no numbered
    refine ⟨_, rfl, ?_⟩
    rw [place] at numbered
    split at numbered
    · cases numbered
      exact mem_append_right _ (mem_singleton_self _)
    · obtain ⟨handlers, there, mem⟩ := handled.stored o _ numbered
      rw [there]
      exact mem_append_left _ mem
  · intro o no numbered
    rw [place] at numbered
    split at numbered
    · cases numbered
      exact lt_succ_self _
    · exact lt_succ_of_lt (handled.below o _ numbered)
  · -- The number of the new registration is above the others.
    have below := handled.below
    have distinct := handled.distinct
    intro first second no isFirst isSecond
    rw [place] at isFirst isSecond
    split at isFirst <;> split at isSecond <;> grind
  · exact inv.known.move rfl rfl rfl (by grind) inv.known.entries nofun
  · exact inv.accurate.move rfl rfl rfl rfl (by grind) (by grind) (by grind) nofun

theorem invariant_unregisterEventNotification (reg : s.proxies px = .registered no targetNodeId) :
    (s.unregisterEventNotification px no targetNodeId).Invariant := by
  have handled := inv.handled
  have numbered : (s.proxies px).registrationNo = some no := by grind
  obtain ⟨handlers, there, mem⟩ := handled.stored px _ numbered
  simp only [unregisterEventNotification, there, if_pos mem]
  have old : ∀ {o number : Nat}, ((update s.proxies px
      (.unregistering targetNodeId)) o).registrationNo = some number →
        o ≠ px ∧ (s.proxies o).registrationNo = some number := by
    grind [update_apply]
  refine ⟨⟨?_, ?_, ?_⟩, ?_, ?_⟩
  · intro o number isNumbered
    obtain ⟨differ, pre⟩ := old isNumbered
    obtain ⟨found, isFound, inHandlers⟩ := handled.stored o _ pre
    cases there.symm.trans isFound
    refine ⟨_, rfl, (mem_erase_of_ne ?_).mpr inHandlers⟩
    rintro rfl
    exact differ (handled.distinct o px _ pre numbered)
  · exact fun o number isNumbered => handled.below o _ (old isNumbered).2
  · exact fun first second number isFirst isSecond =>
      handled.distinct first second _ (old isFirst).2 (old isSecond).2
  · refine inv.known.move rfl rfl rfl (fun nodeId mem => ?_) inv.known.entries nofun
    exact inv.known.proxies px nodeId (by grind)
  · exact inv.accurate.move rfl rfl rfl rfl (by grind) (by grind) (by grind) nofun

theorem invariant_handleMessage (taken : s.handleMessage nodeId = some s') : s'.Invariant := by
  unfold handleMessage at taken
  split at taken
  · cases taken
  next msg messages queue =>
    cases taken
    have sameOutcome : ∀ other, outcome { s with
        queues := update s.queues nodeId messages
        interested := update s.interested nodeId (decide (msg = .registerEventNotifier)) } other =
        s.outcome other := by
      intro other
      by_cases same : other = nodeId
      · subst same
        cases messages with
        | nil => simp [outcome, queue]
        | cons next rest => simp [outcome, queue, getLast?_eq_some_getLast]
      · simp [outcome, update_of_ne same]
    have accurate := inv.accurate
    refine ⟨{ inv.handled with }, { inv.known with },
      { accurate with present := ?_, absent := ?_ }⟩
    · rw [sameOutcome]
      exact accurate.present
    · rw [sameOutcome]
      exact accurate.absent

theorem invariant_restartProvider {newNodeId : Nat} (new : newNodeId ∉ s.providers) :
    Invariant { s with
      currentProvider := newNodeId
      formerProviders := s.providers
      queues := update s.queues newNodeId []
      interested := update s.interested newNodeId false } := by
  have known := inv.known
  have nobody : ∀ px, (s.proxies px).countedAt ≠ some newNodeId :=
    fun px counted => new (known.proxies px newNodeId (RemoteProxy.mem_nodes_of_countedAt counted))
  refine ⟨{ inv.handled with }, { known with proxies := ?_, entry := ?_ },
    ⟨⟨∅, ?_, ?_⟩, ?_, ?_, ?_⟩⟩
  · intro px nodeId mem
    exact .tail _ (known.proxies px nodeId mem)
  · intro e there
    exact .tail _ (known.entry e there)
  · intro px
    exact ⟨fun bad => absurd bad (Finset.notMem_empty _), fun counted => absurd counted (nobody px)⟩
  · refine counterAt_eq_zero fun e there (same : e.nodeId = newNodeId) => ?_
    rw [← same] at new
    exact new (known.entry e there)
  · rintro ⟨px, counted⟩
    exact absurd counted (nobody px)
  · intro _
    exact .inl (by simp [outcome])
  · intro _ _
    exact nobody

theorem invariant_continueCall (orderly : s.Orderly (.continueCall px))
    (taken : s.continueCall px = some s') : s'.Invariant := by
  cases pos : s.proxies px with
  | registering no targetNodeId =>
    simp only [continueCall, pos, some.injEq] at taken
    simp only [Orderly, pos] at orderly
    subst taken
    exact invariant_registerRemote inv pos orderly
  | sendingRegister no targetNodeId =>
    simp only [continueCall, pos, some.injEq] at taken
    subst taken
    refine ⟨inv.handled.move rfl rfl rfl (by grind), ?_, ?_⟩
    · refine inv.known.move rfl rfl rfl (fun nodeId mem => ?_) inv.known.entries nofun
      exact inv.known.proxies px nodeId (by grind)
    · by_cases isCurrent : targetNodeId = s.currentProvider
      · subst isCurrent
        refine inv.accurate.tell rfl rfl rfl (by grind) nofun ?_
        exact iff_of_true (outcome_send_self _ _) ⟨px, by grind⟩
      · exact inv.accurate.move rfl rfl rfl (outcome_send_of_ne (Ne.symm isCurrent) _)
          (by grind) (by grind) (by grind) nofun
  | reregistering no sourceNodeId targetNodeId =>
    simp only [continueCall, pos, some.injEq] at taken
    simp only [Orderly, pos] at orderly
    subst taken
    exact invariant_reregisterRemote inv pos orderly.1 orderly.2
  | unregistering targetNodeId =>
    simp only [continueCall, pos] at taken
    exact invariant_unregisterRemote inv pos taken
  | sendingUnregister targetNodeId =>
    simp only [continueCall, pos, some.injEq] at taken
    subst taken
    refine ⟨inv.handled.move rfl rfl rfl nofun,
      inv.known.move rfl rfl rfl nofun inv.known.entries nofun, ?_⟩
    by_cases isCurrent : targetNodeId = s.currentProvider
    · subst isCurrent
      refine inv.accurate.tell rfl rfl rfl (by grind) nofun ?_
      refine iff_of_false (fun told => ?_) (not_exists.mpr (inv.accurate.leaving px pos))
      cases (outcome_send_self _ _).symm.trans told
    · exact inv.accurate.move rfl rfl rfl (outcome_send_of_ne (Ne.symm isCurrent) _)
        (by grind) (by grind) (by grind) nofun
  | _ => simp [continueCall, pos] at taken

theorem invariant_step {label}
    (orderly : s.Orderly label) (taken : s.step label = some s') : s'.Invariant := by
  cases label with
  | restartProvider newNodeId =>
    cases taken
    exact invariant_restartProvider inv orderly
  | registerEventNotification px targetNodeId =>
    obtain ⟨⟨idle, named⟩, reached⟩ := ite_none_right_eq_some.mp taken
    cases reached
    exact invariant_registerEventNotification inv idle named
  | reregisterEventNotification px targetNodeId =>
    simp only [step] at taken
    split at taken
    next no sourceNodeId reg =>
      obtain ⟨named, reached⟩ := ite_none_right_eq_some.mp taken
      cases reached
      have moves := orderly _ _ reg
      obtain ⟨handlers, there, _⟩ := inv.handled.stored px no (by grind)
      have source := inv.known.proxies px sourceNodeId (by grind)
      rw [reregisterEventNotification, there]
      refine ⟨inv.handled.move rfl rfl rfl (by grind), ?_, ?_⟩
      · exact inv.known.move rfl rfl rfl (by grind) inv.known.entries (by grind)
      · exact inv.accurate.move rfl rfl rfl rfl (by grind) (by grind) (by grind) nofun
    · cases taken
  | unregisterEventNotification px =>
    simp only [step] at taken
    split at taken
    next reg =>
      cases taken
      exact invariant_unregisterEventNotification inv reg
    · cases taken
  | continueCall px => exact invariant_continueCall inv orderly taken
  | handleMessage nodeId => exact invariant_handleMessage inv taken

end Steps

theorem invariant_start (p : Nat) : (start p).Invariant := by
  refine ⟨⟨?_, ?_, ?_⟩, ⟨?_, ?_, ?_, ?_⟩, ⟨⟨∅, ?_, rfl⟩, ?_, ?_, ?_⟩⟩
  · nofun
  · nofun
  · nofun
  · nofun
  · nofun
  · nofun
  · nofun
  · intro px
    exact ⟨fun bad => absurd bad (Finset.notMem_empty _), nofun⟩
  · rintro ⟨_, bad⟩
    cases bad
  · exact fun _ => .inl rfl
  · nofun

/-- With no call in progress and all messages handled, the current provider has the process
among the interested nodes exactly if a proxy is registered with it. -/
theorem reachable_interested_iff_registered {provider : Nat} {state : RemoteNotifications}
    (reachable : ((system provider).restrict Orderly).Reachable state)
    (quiet : state.Quiet) (handled : state.queues state.currentProvider = []) :
    state.interested state.currentProvider = true ↔ ∃ proxy registrationNo, state.proxies proxy =
        .registered registrationNo state.currentProvider := by
  have invariant : state.Invariant :=
    reachable.preserves (invariant_start provider) fun kept orderly => invariant_step kept orderly
  have settled : state.outcome state.currentProvider = state.interested state.currentProvider := by
    simp [outcome, handled]
  have registered_of_counted : ∀ proxy,
      (state.proxies proxy).countedAt = some state.currentProvider →
        ∃ registrationNo, state.proxies proxy =
          .registered registrationNo state.currentProvider := by
    intro proxy counted
    rcases quiet proxy with idle | ⟨registrationNo, nodeId, registered⟩
    · rw [idle] at counted
      cases counted
    · rw [registered] at counted
      cases counted
      exact ⟨registrationNo, registered⟩
  constructor
  · intro interested
    by_contra nobody
    have notCounted : ∀ proxy, (state.proxies proxy).countedAt ≠ some state.currentProvider := by
      intro proxy counted
      exact nobody ⟨proxy, registered_of_counted proxy counted⟩
    rcases invariant.accurate.absent notCounted with gone | ⟨proxy, sending⟩
    · rw [settled, interested] at gone
      cases gone
    · rcases quiet proxy with idle | ⟨_, _, registered⟩
      · cases idle.symm.trans sending
      · cases registered.symm.trans sending
  · rintro ⟨proxy, registrationNo, registered⟩
    have counted : (state.proxies proxy).countedAt = some state.currentProvider := by
      rw [registered]
      rfl
    rcases invariant.accurate.present ⟨proxy, counted⟩ with
      present | ⟨sender, number, sending⟩
    · exact settled.symm.trans present
    · rcases quiet sender with idle | ⟨_, _, isRegistered⟩
      · cases idle.symm.trans sending
      · cases isRegistered.symm.trans sending

/-! ## Calls out of order -/

/-- The last proxy unregisters while another one registers, and the messages are
sent in the other order. -/
def overtakingUnregister : List RemoteStep :=
  [.registerEventNotification 0 10, .continueCall 0, .continueCall 0,
    .unregisterEventNotification 0, .continueCall 0,
    .registerEventNotification 1 10, .continueCall 1, .continueCall 1,
    .continueCall 0, .handleMessage 10, .handleMessage 10, .handleMessage 10]

/-- After a restart the first proxy registers anew and unregisters before the
second one registers anew. -/
def reregisterWithoutEntry : List RemoteStep :=
  [.registerEventNotification 0 10, .continueCall 0, .continueCall 0,
    .registerEventNotification 1 10, .continueCall 1, .handleMessage 10,
    .restartProvider 11, .reregisterEventNotification 0 11, .continueCall 0,
    .continueCall 0, .unregisterEventNotification 0, .continueCall 0,
    .continueCall 0, .reregisterEventNotification 1 11, .continueCall 1,
    .handleMessage 11, .handleMessage 11]

theorem quiet_of_two {s : RemoteNotifications}
    (first : s.proxies 0 = .idle) {registrationNo nodeId : Nat}
    (second : s.proxies 1 = .registered registrationNo nodeId)
    (others : ∀ proxy, s.proxies (proxy + 2) = .idle) : s.Quiet := by
  intro proxy
  match proxy with
  | 0 => exact .inl first
  | 1 => exact .inr ⟨registrationNo, nodeId, second⟩
  | proxy + 2 => exact .inl (others proxy)

/-- A proxy is registered with the current provider, which does not know of it. -/
def Overlooked (state : RemoteNotifications) : Prop :=
  state.Quiet ∧ state.queues state.currentProvider = [] ∧
    state.proxies 1 = .registered 1 state.currentProvider ∧
    state.interested state.currentProvider = false

theorem registered_but_not_interested : (∃ state, (system 10).Reachable state ∧
      run step (start 10) overtakingUnregister = some state ∧
      state.Overlooked) ∧
    (∃ state, (system 10).Reachable state ∧
      run step (start 10) reregisterWithoutEntry = some state ∧
      state.Overlooked) := by
  constructor
  · exact exists_reachable overtakingUnregister
      ⟨_, rfl, rfl, quiet_of_two rfl rfl fun _ => rfl, rfl, rfl, rfl⟩
  · exact exists_reachable reregisterWithoutEntry
      ⟨_, rfl, rfl, quiet_of_two rfl rfl fun _ => rfl, rfl, rfl, rfl⟩

theorem registeredProxy_interested : ∃ state, ((system 10).restrict Orderly).Reachable state ∧
      state.proxies 1 = .registered 0 state.currentProvider ∧
      (state.interested state.currentProvider = true ↔ ∃ proxy registrationNo, state.proxies proxy =
          .registered registrationNo state.currentProvider) := by
  have started : ((system 10).restrict Orderly).Reachable (start 10) := .initial rfl
  have registering := started.allowedStep (.registerEventNotification 1 10) trivial rfl
  have admits : (registerEventNotification (start 10) 1 10).Admits 10 := by
    refine ⟨?_, ?_, ?_⟩
    · intro proxy nodeId
      by_cases same : proxy = 1
      · subst same
        exact RemoteProxy.noConfusion
      · rw [registerEventNotification, proxies_setProxy_of_ne _ same]
        exact RemoteProxy.noConfusion
    · nofun
    · nofun
  have sending := registering.allowedStep (.continueCall 1) admits rfl
  have sent := sending.allowedStep (.continueCall 1) trivial rfl
  have handled := sent.allowedStep (.handleMessage 10) trivial rfl
  exact ⟨_, handled, rfl, reachable_interested_iff_registered handled
    (quiet_of_two rfl rfl fun _ => rfl) rfl⟩

end RemoteNotifications

end ScoreIntegration.Lola
