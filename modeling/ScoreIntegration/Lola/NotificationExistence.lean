import Mathlib.Data.Finset.Card
import Mathlib.Logic.Function.Basic
import ScoreIntegration.Concurrency.Transitions

/-!
# Whether anyone waits for an event

A `SkeletonEvent` only notifies if a flag says that a handler is registered, locally or
by another process.  The flag is set by a callback after the mutex sections that decide
about it.  The model has one event of one quality, with calls split at their sections.
-/

namespace ScoreIntegration.Lola

open Concurrency Option Finset TransitionSystem

/-- Where a thread is in a registration, an unregistration or a message. -/
inductive NotificationThread where
  | idle
  | handlingRegister (senderNodeId : Nat) (hasLocalHandlers : Bool)
  | handlingUnregister (senderNodeId : Nat) (hasLocalHandlers : Bool)
  | notifying (hasHandlers : Bool)
  deriving DecidableEq, Repr

inductive SkeletonEventPhase where
  | stopped
  | readingHandlers
  | readingNodes (hasLocalHandlers : Bool)
  | notifying
  | offered
  | stopping
  deriving DecidableEq, Repr

structure NotificationRegistrations where
  eventUpdateHandlers : List Nat
  eventUpdateInterestedNodes : Finset Nat
  deriving DecidableEq

structure EventNotifications where
  registrations : NotificationRegistrations
  curRegistrationNo : Nat
  handlerStatusChangeCallback : Bool
  eventUpdateNotificationsRegistered : Bool
  threads : Nat → NotificationThread
  skeletonEvent : SkeletonEventPhase

inductive NotificationStep where
  | registerEventNotification (thread : Nat)
  | unregisterEventNotification (thread registrationNo : Nat)
  | handleRegisterNotificationMsg (thread senderNodeId : Nat)
  | handleUnregisterNotificationMsg (thread senderNodeId : Nat)
  | handleOutdatedNodeIdMsg (pidToUnregister : Nat)
  | continueCall (thread : Nat)
  | prepareOffer
  | prepareStopOffer
  | continueOffer
  deriving DecidableEq, Repr

namespace NotificationRegistrations

variable (registrations : NotificationRegistrations)

def hasLocalHandlers : Bool := decide (registrations.eventUpdateHandlers ≠ [])

def hasRemoteHandlers : Bool := decide (registrations.eventUpdateInterestedNodes ≠ ∅)

def hasAnyHandlers : Bool := registrations.hasLocalHandlers || registrations.hasRemoteHandlers

end NotificationRegistrations

namespace EventNotifications

def start : EventNotifications where
  registrations := ⟨[], ∅⟩
  curRegistrationNo := 0
  handlerStatusChangeCallback := false
  eventUpdateNotificationsRegistered := false
  threads := fun _ => .idle
  skeletonEvent := .stopped

variable (state : EventNotifications)

def setThread (thread : Nat) (position : NotificationThread) : EventNotifications :=
  { state with threads := Function.update state.threads thread position }

/-- The end of a call: the callback is still to be called, or the call is over. -/
def finish (thread : Nat) (notifyStatusChange hasHandlers : Bool) : EventNotifications :=
  state.setThread thread (if notifyStatusChange then .notifying hasHandlers else .idle)

/-- The callback of the `SkeletonEvent`, under the lock of the callbacks. -/
def callback (hasHandlers : Bool) : EventNotifications :=
  if state.handlerStatusChangeCallback then
    { state with eventUpdateNotificationsRegistered := hasHandlers }
  else state

/-- The section of `RegisterEventNotification` under the lock of the handlers.
No other section reads the handlers before it ends, so it takes effect when it
reads the nodes. -/
def registerEventNotification (thread : Nat) : EventNotifications :=
  let registrations := state.registrations
  let wasEmpty := !registrations.hasLocalHandlers
  let state := { state with
    registrations := { registrations with
      eventUpdateHandlers := registrations.eventUpdateHandlers ++ [state.curRegistrationNo] }
    curRegistrationNo := state.curRegistrationNo + 1 }
  state.finish thread (wasEmpty && !registrations.hasRemoteHandlers) true

/-- The section of `UnregisterEventNotification` under the lock of the handlers. -/
def unregisterEventNotification (thread registrationNo : Nat) : EventNotifications :=
  if registrationNo ∈ state.registrations.eventUpdateHandlers then
    let registrations := { state.registrations with
      eventUpdateHandlers := state.registrations.eventUpdateHandlers.erase registrationNo }
    let state := { state with registrations := registrations }
    state.finish thread (!registrations.hasLocalHandlers && !registrations.hasRemoteHandlers) false
  else state

/-- The section of `HandleRegisterNotificationMsg` under the lock of the nodes. -/
def insertNode (thread senderNodeId : Nat) (hasLocalHandlers : Bool) : EventNotifications :=
  let nodes := state.registrations.eventUpdateInterestedNodes
  let alreadyRegistered := decide (senderNodeId ∈ nodes)
  let nodes := insert senderNodeId nodes
  let state := { state with
    registrations := { state.registrations with
      eventUpdateInterestedNodes := nodes } }
  state.finish thread (!alreadyRegistered && decide (nodes.card = 1) && !hasLocalHandlers) true

/-- The section of `HandleUnregisterNotificationMsg` under the lock of the nodes. -/
def eraseNode (thread senderNodeId : Nat) (hasLocalHandlers : Bool) : EventNotifications :=
  let nodes := state.registrations.eventUpdateInterestedNodes
  let registrationFound := decide (senderNodeId ∈ nodes)
  let nodes := nodes.erase senderNodeId
  let state := { state with
    registrations := { state.registrations with
      eventUpdateInterestedNodes := nodes } }
  state.finish thread (registrationFound && decide (nodes = ∅) && !hasLocalHandlers) false

/-- `HandleOutdatedNodeIdMsg`, which does not call the callback. -/
def handleOutdatedNodeIdMsg (pidToUnregister : Nat) : EventNotifications :=
  { state with
    registrations := { state.registrations with
      eventUpdateInterestedNodes :=
        state.registrations.eventUpdateInterestedNodes.erase pidToUnregister } }

def continueCall (thread : Nat) : Option EventNotifications :=
  match state.threads thread with
  | .idle => none
  | .handlingRegister senderNodeId hasLocalHandlers =>
    some (state.insertNode thread senderNodeId hasLocalHandlers)
  | .handlingUnregister senderNodeId hasLocalHandlers =>
    some (state.eraseNode thread senderNodeId hasLocalHandlers)
  | .notifying hasHandlers => some ((state.callback hasHandlers).setThread thread .idle)

/-- The next section of `RegisterEventNotificationExistenceChangedCallback`, or the
reset of the flag by `PrepareStopOffer`. -/
def continueOffer : Option EventNotifications :=
  match state.skeletonEvent with
  | .readingHandlers =>
    some { state with
      skeletonEvent := .readingNodes state.registrations.hasLocalHandlers }
  | .readingNodes hasLocalHandlers =>
    if hasLocalHandlers || state.registrations.hasRemoteHandlers then
      some { state with skeletonEvent := .notifying }
    else some { state with skeletonEvent := .offered }
  | .notifying => some { state.callback true with skeletonEvent := .offered }
  | .stopping =>
    some { state with
      eventUpdateNotificationsRegistered := false
      skeletonEvent := .stopped }
  | .stopped => none
  | .offered => none

def step : NotificationStep → Option EventNotifications
  | .registerEventNotification thread =>
    if state.threads thread = .idle then
      some (state.registerEventNotification thread)
    else none
  | .unregisterEventNotification thread registrationNo =>
    if state.threads thread = .idle then
      some (state.unregisterEventNotification thread registrationNo)
    else none
  | .handleRegisterNotificationMsg thread senderNodeId =>
    if state.threads thread = .idle then
      some (state.setThread thread
        (.handlingRegister senderNodeId state.registrations.hasLocalHandlers))
    else none
  | .handleUnregisterNotificationMsg thread senderNodeId =>
    if state.threads thread = .idle then
      some (state.setThread thread
        (.handlingUnregister senderNodeId state.registrations.hasLocalHandlers))
    else none
  | .handleOutdatedNodeIdMsg pidToUnregister => some (state.handleOutdatedNodeIdMsg pidToUnregister)
  | .continueCall thread => state.continueCall thread
  | .prepareOffer =>
    if state.skeletonEvent = .stopped then
      some { state with
        handlerStatusChangeCallback := true
        skeletonEvent := .readingHandlers }
    else none
  | .prepareStopOffer =>
    if state.skeletonEvent = .offered then
      some { state with
        handlerStatusChangeCallback := false
        skeletonEvent := .stopping }
    else none
  | .continueOffer => state.continueOffer

def system : TransitionSystem EventNotifications NotificationStep := .ofStep start step

def Quiet : Prop := ∀ thread, state.threads thread = .idle

end EventNotifications

/-! ## Calls that do not hinder each other -/

def NotificationThread.Registers : NotificationThread → Prop
  | .handlingRegister _ _ => True
  | .notifying hasHandlers => hasHandlers = true
  | .idle => False
  | .handlingUnregister _ _ => False

def NotificationThread.Unregisters : NotificationThread → Prop
  | .handlingUnregister _ _ => True
  | .notifying hasHandlers => hasHandlers = false
  | .idle => False
  | .handlingRegister _ _ => False

def SkeletonEventPhase.Registers : SkeletonEventPhase → Prop
  | .readingHandlers => True
  | .readingNodes _ => True
  | .notifying => True
  | .stopped => False
  | .offered => False
  | .stopping => False

def SkeletonEventPhase.hasCallback : SkeletonEventPhase → Bool
  | .readingHandlers => true
  | .readingNodes _ => true
  | .notifying => true
  | .offered => true
  | .stopped => false
  | .stopping => false

namespace EventNotifications

def Registering (state : EventNotifications) : Prop :=
  (∃ thread, (state.threads thread).Registers) ∨ state.skeletonEvent.Registers

/-- Calls that register do not overlap with calls that unregister, local
unregistrations not with those of other processes, and an outdated node is not
the last one registered. -/
def Separate (state : EventNotifications) : NotificationStep → Prop
  | .registerEventNotification _ => ∀ other, ¬(state.threads other).Unregisters
  | .handleRegisterNotificationMsg _ _ => ∀ other, ¬(state.threads other).Unregisters
  | .prepareOffer => ∀ other, ¬(state.threads other).Unregisters
  | .unregisterEventNotification _ _ =>
    ¬state.Registering ∧ ∀ other sender hasLocalHandlers,
      state.threads other ≠ .handlingUnregister sender hasLocalHandlers
  | .handleUnregisterNotificationMsg _ _ => ¬state.Registering
  | .handleOutdatedNodeIdMsg pidToUnregister =>
    ¬state.Registering ∧ (pidToUnregister ∈ state.registrations.eventUpdateInterestedNodes →
        state.registrations.eventUpdateHandlers ≠ [] ∨
          ∃ other ∈ state.registrations.eventUpdateInterestedNodes, other ≠ pidToUnregister)
  | .continueCall _ => True
  | .prepareStopOffer => True
  | .continueOffer => True

def Fits (registrations : NotificationRegistrations) : NotificationThread → Prop
  | .idle => True
  | .handlingRegister _ hasLocalHandlers =>
    hasLocalHandlers = true → registrations.hasLocalHandlers = true
  | .handlingUnregister _ hasLocalHandlers => hasLocalHandlers = registrations.hasLocalHandlers
  | .notifying hasHandlers => hasHandlers = registrations.hasAnyHandlers

def OfferFits (registrations : NotificationRegistrations) : SkeletonEventPhase → Prop
  | .readingNodes hasLocalHandlers =>
    hasLocalHandlers = true → registrations.hasLocalHandlers = true
  | .notifying => registrations.hasAnyHandlers = true
  | .readingHandlers => True
  | .stopped => True
  | .offered => True
  | .stopping => True

def Announced (state : EventNotifications) : Prop :=
  (∃ thread, state.threads thread = .notifying true) ∨ state.skeletonEvent = .readingHandlers ∨
    state.skeletonEvent = .readingNodes true ∨
    (state.skeletonEvent = .readingNodes false ∧ state.registrations.hasRemoteHandlers = true) ∨
    state.skeletonEvent = .notifying

structure Invariant (state : EventNotifications) : Prop where
  fits : ∀ thread, Fits state.registrations (state.threads thread)
  offerFits : OfferFits state.registrations state.skeletonEvent
  separate : state.Registering → ∀ other, ¬(state.threads other).Unregisters
  callback : state.handlerStatusChangeCallback = state.skeletonEvent.hasCallback
  missing : state.handlerStatusChangeCallback = true → state.registrations.hasAnyHandlers = true →
    state.eventUpdateNotificationsRegistered = false → state.Announced
  surplus : state.handlerStatusChangeCallback = true → state.registrations.hasAnyHandlers = false →
    state.eventUpdateNotificationsRegistered = true →
      ∃ thread, state.threads thread = .notifying false
  stopped : state.skeletonEvent = .stopped → state.eventUpdateNotificationsRegistered = false

theorem invariant_start : start.Invariant := by
  refine ⟨fun _ => trivial, trivial, ?_, rfl, ?_, ?_, fun _ => rfl⟩
  · intro _ _ bad
    exact bad
  · nofun
  · nofun

attribute [grind] NotificationThread.Registers NotificationThread.Unregisters
  SkeletonEventPhase.Registers SkeletonEventPhase.hasCallback Fits OfferFits

section Steps

variable {s : EventNotifications} {t : Nat} {pre s' regs : NotificationRegistrations}

structure Grows (before after : NotificationRegistrations) : Prop where
  locals : before.hasLocalHandlers = true → after.hasLocalHandlers = true
  remotes : before.hasRemoteHandlers = true → after.hasRemoteHandlers = true

theorem Grows.any (grows : Grows pre s') (any : pre.hasAnyHandlers = true) :
    s'.hasAnyHandlers = true := by
  rcases Bool.or_eq_true_iff.mp any with locals | remotes
  · exact Bool.or_eq_true_iff.mpr (.inl (grows.locals locals))
  · exact Bool.or_eq_true_iff.mpr (.inr (grows.remotes remotes))

variable {pos : NotificationThread} {hasLocalHandlers notify hasHandlers : Bool}
  {senderNodeId : Nat}

theorem Fits.grow (grows : Grows pre s')
    (fits : Fits pre pos) (separate : ¬pos.Unregisters) : Fits s' pos := by
  cases pos with
  | notifying hasHandlers => grind [grows.any]
  | _ => grind [grows.locals]

theorem OfferFits.grow (grows : Grows pre s') {phase}
    (fits : OfferFits pre phase) : OfferFits s' phase := by
  cases phase with
  | readingNodes hasLocalHandlers => exact fun read => grows.locals (fits read)
  | notifying => exact grows.any fits
  | _ => trivial

@[grind =]
theorem threads_setThread (s : EventNotifications) (t : Nat) (pos : NotificationThread) (o : Nat) :
    (s.setThread t pos).threads o = if o = t then pos else s.threads o :=
  Function.update_apply ..

/-- A registration: what is registered grows, and if it is the first one then the
callback will be called. -/
theorem Invariant.register (inv : s.Invariant) {curRegistrationNo}
    (own : s.threads t ≠ .notifying true)
    (separate : ∀ o, ¬(s.threads o).Unregisters)
    (grows : Grows s.registrations regs) (any : regs.hasAnyHandlers = true)
    (first : s.registrations.hasAnyHandlers = false → notify = true) :
    Invariant (finish { s with
      registrations := regs
      curRegistrationNo := curRegistrationNo } t notify true) := by
  refine ⟨fun o => ?_, inv.offerFits.grow grows, fun _ => by grind [finish],
    inv.callback, ?_, ?_, inv.stopped⟩
  · have fits := (inv.fits o).grow grows (separate o)
    by_cases same : o = t
    · simp only [finish, threads_setThread, if_pos same]
      change Fits regs _
      grind
    · simp only [finish, threads_setThread, if_neg same]
      exact fits
  · intro hasCb _ notRegistered
    cases anyBefore : s.registrations.hasAnyHandlers with
    | false => exact .inl ⟨t, by grind [finish]⟩
    | true =>
      rcases inv.missing hasCb anyBefore notRegistered with
        ⟨o, notifying⟩ | reading | readLocals | ⟨readNone, remotes⟩ | notifying
      · exact .inl ⟨o, by grind [finish]⟩
      · exact .inr (.inl reading)
      · exact .inr (.inr (.inl readLocals))
      · exact .inr (.inr (.inr (.inl ⟨readNone, grows.remotes remotes⟩)))
      · exact .inr (.inr (.inr (.inr notifying)))
  · intro _ none
    exact absurd (any.symm.trans none) Bool.noConfusion

theorem Announced.registering (announced : s.Announced) : s.Registering := by
  rcases announced with ⟨o, notifying⟩ | offering
  · exact .inl ⟨o, by grind⟩
  · exact .inr (by grind)

theorem OfferFits.of_not_registers {phase} (separate : ¬phase.Registers) :
    OfferFits regs phase := by
  cases phase <;> grind

theorem Fits.shrink (shrinks : pre.hasAnyHandlers = false → s'.hasAnyHandlers = false)
     (fits : Fits pre pos) (separate : ¬pos.Registers)
    (locals : ∀ sender hasLocalHandlers, pos = .handlingUnregister sender hasLocalHandlers →
        s'.hasLocalHandlers = pre.hasLocalHandlers) : Fits s' pos := by
  cases pos <;> grind

theorem Invariant.unregister (inv : s.Invariant)
    (own : s.threads t ≠ .notifying false) (separate : ¬s.Registering)
    (shrinks : s.registrations.hasAnyHandlers = false → regs.hasAnyHandlers = false)
    (locals : ∀ o sender hasLocalHandlers, o ≠ t →
      s.threads o = .handlingUnregister sender hasLocalHandlers →
        regs.hasLocalHandlers = s.registrations.hasLocalHandlers)
    (last : s.registrations.hasAnyHandlers = true → regs.hasAnyHandlers = false → notify = true)
    (gone : notify = true → regs.hasAnyHandlers = false) :
    Invariant (finish { s with registrations := regs } t notify false) := by
  obtain ⟨noThread, noPhase⟩ := not_or.mp separate
  refine ⟨fun o => ?_, OfferFits.of_not_registers noPhase, ?_, inv.callback, ?_, ?_, inv.stopped⟩
  · by_cases same : o = t
    · simp only [finish, threads_setThread, if_pos same]
      change Fits regs _
      grind
    · simp only [finish, threads_setThread, if_neg same]
      exact (inv.fits o).shrink shrinks (not_exists.mp noThread o)
        fun sender hasLocalHandlers => locals o sender hasLocalHandlers same
  · rintro (⟨o, registers⟩ | phase)
    · grind [finish]
    · exact absurd phase noPhase
  · intro hasCb any notRegistered
    cases anyBefore : s.registrations.hasAnyHandlers with
    | false => exact absurd ((shrinks anyBefore).symm.trans any) Bool.noConfusion
    | true => exact absurd (inv.missing hasCb anyBefore notRegistered).registering separate
  · intro hasCb none reg
    cases anyBefore : s.registrations.hasAnyHandlers with
    | false =>
      obtain ⟨o, notifying⟩ := inv.surplus hasCb anyBefore reg
      exact ⟨o, by grind [finish]⟩
    | true => exact ⟨t, by grind [finish, last anyBefore none]⟩

theorem any_eq_false_iff : regs.hasAnyHandlers = false ↔
      regs.eventUpdateHandlers = [] ∧ regs.eventUpdateInterestedNodes = ∅ := by
  simp [NotificationRegistrations.hasAnyHandlers, NotificationRegistrations.hasLocalHandlers,
    NotificationRegistrations.hasRemoteHandlers]

section

variable (inv : s.Invariant) (idle : s.threads t = .idle)
include inv idle

theorem invariant_registerEventNotification (separate : ∀ o, ¬(s.threads o).Unregisters) :
    (s.registerEventNotification t).Invariant := by
  refine inv.register ?_ separate ⟨?_, id⟩ ?_ ?_
  · rw [idle]
    exact NotificationThread.noConfusion
  · intro _
    simp [NotificationRegistrations.hasLocalHandlers]
  · simp [NotificationRegistrations.hasAnyHandlers, NotificationRegistrations.hasLocalHandlers]
  · intro none
    obtain ⟨noHandlers, noNodes⟩ := any_eq_false_iff.mp none
    simp [NotificationRegistrations.hasLocalHandlers,
      NotificationRegistrations.hasRemoteHandlers, noHandlers, noNodes]

theorem invariant_unregisterEventNotification {no} (separate : ¬s.Registering)
    (noRemote : ∀ o sender hasLocalHandlers,
      s.threads o ≠ .handlingUnregister sender hasLocalHandlers) :
    (s.unregisterEventNotification t no).Invariant := by
  unfold unregisterEventNotification
  split
  next found =>
    refine inv.unregister ?_ separate ?_ ?_ ?_ ?_
    · rw [idle]
      exact NotificationThread.noConfusion
    · intro none
      rw [(any_eq_false_iff.mp none).1] at found
      cases found
    · intro o sender hasLocalHandlers _ handling
      exact absurd handling (noRemote o sender hasLocalHandlers)
    · intro _ none
      obtain ⟨noHandlers, noNodes⟩ := any_eq_false_iff.mp none
      simp_all [NotificationRegistrations.hasLocalHandlers,
        NotificationRegistrations.hasRemoteHandlers]
    · intro notify
      refine any_eq_false_iff.mpr ?_
      simpa [NotificationRegistrations.hasLocalHandlers,
        NotificationRegistrations.hasRemoteHandlers] using notify
  · exact inv

theorem Invariant.handle (fits : Fits s.registrations pos)
    (separate : (s.setThread t pos).Registering →
      ∀ o, ¬((s.setThread t pos).threads o).Unregisters) :
    (s.setThread t pos).Invariant := by
  refine ⟨fun o => ?_, inv.offerFits, separate, inv.callback, ?_, ?_, inv.stopped⟩
  · rw [threads_setThread]
    split
    · exact fits
    · exact inv.fits o
  · intro hasCb any notRegistered
    rcases inv.missing hasCb any notRegistered with
      ⟨o, notifying⟩ | offering
    · exact .inl ⟨o, by grind⟩
    · exact .inr offering
  · intro hasCb none reg
    obtain ⟨o, notifying⟩ := inv.surplus hasCb none reg
    exact ⟨o, by grind⟩

end

theorem invariant_handleOutdatedNodeIdMsg (inv : s.Invariant)
    {pidToUnregister} (separate : ¬s.Registering)
    (remains : pidToUnregister ∈ s.registrations.eventUpdateInterestedNodes →
      s.registrations.eventUpdateHandlers ≠ [] ∨
        ∃ o ∈ s.registrations.eventUpdateInterestedNodes, o ≠ pidToUnregister) :
    (s.handleOutdatedNodeIdMsg pidToUnregister).Invariant := by
  have same : (s.handleOutdatedNodeIdMsg pidToUnregister).registrations.hasAnyHandlers =
        s.registrations.hasAnyHandlers := by
    rw [Bool.eq_iff_iff, ← Bool.not_eq_false, ← Bool.not_eq_false, not_iff_not,
      any_eq_false_iff, any_eq_false_iff]
    refine and_congr_right fun noHandlers => ?_
    change s.registrations.eventUpdateInterestedNodes.erase _ = ∅ ↔ _
    rw [erase_eq_empty_iff]
    refine or_iff_left fun only => ?_
    rcases remains (by simp [only]) with handlers | ⟨o, there, differ⟩
    · exact handlers noHandlers
    · rw [only] at there
      exact differ (mem_singleton.mp there)
  refine ⟨?_, OfferFits.of_not_registers fun phase => separate (.inr phase),
    inv.separate, inv.callback, ?_, ?_, inv.stopped⟩
  · intro o
    exact (inv.fits o).shrink (fun none => same.trans none)
      (fun registers => separate (.inl ⟨o, registers⟩)) fun _ _ _ => rfl
  · intro hasCb any notRegistered
    exact absurd (inv.missing hasCb (same.symm.trans any) notRegistered).registering separate
  · intro hasCb none reg
    exact inv.surplus hasCb (same.symm.trans none) reg

theorem invariant_eraseNode (inv : s.Invariant) (handling : s.threads t =
      .handlingUnregister senderNodeId hasLocalHandlers) :
    (s.eraseNode t senderNodeId hasLocalHandlers).Invariant := by
  have separate : ¬s.Registering := by
    intro registering
    refine inv.separate registering t ?_
    rw [handling]
    trivial
  have fits := inv.fits t
  rw [handling] at fits
  change hasLocalHandlers = s.registrations.hasLocalHandlers at fits
  refine inv.unregister ?_ separate ?_ ?_ ?_ ?_
  · rw [handling]
    exact NotificationThread.noConfusion
  · intro none
    obtain ⟨noHandlers, noNodes⟩ := any_eq_false_iff.mp none
    exact any_eq_false_iff.mpr ⟨noHandlers, by simp [noNodes]⟩
  · exact fun _ _ _ _ _ => rfl
  · intro any none
    obtain ⟨noHandlers, noNodes⟩ := any_eq_false_iff.mp none
    change s.registrations.eventUpdateHandlers = [] at noHandlers
    change s.registrations.eventUpdateInterestedNodes.erase _ = ∅ at noNodes
    have mem : senderNodeId ∈ s.registrations.eventUpdateInterestedNodes := by
      by_contra absent
      rw [erase_eq_of_notMem absent] at noNodes
      have none := any_eq_false_iff.mpr ⟨noHandlers, noNodes⟩
      exact absurd (none.symm.trans any) Bool.noConfusion
    simp [mem, noNodes, fits, NotificationRegistrations.hasLocalHandlers, noHandlers]
  · intro notify
    simp only [Bool.and_eq_true, decide_eq_true_eq, Bool.not_eq_true'] at notify
    obtain ⟨⟨_, noNodes⟩, noLocals⟩ := notify
    refine any_eq_false_iff.mpr ⟨?_, noNodes⟩
    simpa [NotificationRegistrations.hasLocalHandlers] using fits.symm.trans noLocals

theorem callback_eq (s : EventNotifications) (hasHandlers : Bool) :
    s.callback hasHandlers = { s with
      eventUpdateNotificationsRegistered := if s.handlerStatusChangeCallback = true then hasHandlers
        else s.eventUpdateNotificationsRegistered } := by
  unfold callback
  split <;> rfl

theorem invariant_notify (inv : s.Invariant) (notifying : s.threads t = .notifying hasHandlers) :
    ((s.callback hasHandlers).setThread t .idle).Invariant := by
  have fits := inv.fits t
  rw [notifying] at fits
  change hasHandlers = s.registrations.hasAnyHandlers at fits
  rw [callback_eq]
  refine ⟨fun o => ?_, inv.offerFits, fun registering => ?_, inv.callback, ?_, ?_, ?_⟩
  · rw [threads_setThread]
    by_cases same : o = t
    · rw [if_pos same]
      trivial
    · rw [if_neg same]
      exact inv.fits o
  · have pre : s.Registering := by
      rcases registering with ⟨o, registers⟩ | phase
      · exact .inl ⟨o, by grind⟩
      · exact .inr phase
    grind [inv.separate pre]
  · intro hasCb any notRegistered
    cases notRegistered.symm.trans ((if_pos hasCb).trans (fits.trans any))
  · intro hasCb none reg
    cases reg.symm.trans ((if_pos hasCb).trans (fits.trans none))
  · -- A stopped event has no callback, so its flag stays.
    intro stopped
    have absent : s.handlerStatusChangeCallback ≠ true := by
      rw [inv.callback, show s.skeletonEvent = _ from stopped]
      exact Bool.false_ne_true
    exact (if_neg absent).trans (inv.stopped stopped)

theorem Invariant.phase (inv : s.Invariant) (hasCb : s.handlerStatusChangeCallback = true)
    {phase} (offers : phase.hasCallback = true)
    (registers : phase.Registers → s.skeletonEvent.Registers)
    (fits : OfferFits s.registrations phase)
    (announced : s.registrations.hasAnyHandlers = true → s.Announced →
      Announced { s with skeletonEvent := phase }) :
    Invariant { s with skeletonEvent := phase } := by
  refine ⟨inv.fits, fits, ?_, hasCb.trans offers.symm, ?_, inv.surplus, ?_⟩
  · rintro (busy | registering)
    · exact inv.separate (.inl busy)
    · exact inv.separate (.inr (registers registering))
  · intro _ any notRegistered
    exact announced any (inv.missing hasCb any notRegistered)
  · intro stopped
    change phase = .stopped at stopped
    rw [stopped] at offers
    cases offers

variable (inv : s.Invariant)
include inv

theorem invariant_prepareStopOffer : Invariant { s with
      handlerStatusChangeCallback := false
      skeletonEvent := .stopping } := by
  refine ⟨inv.fits, trivial, ?_, rfl, ?_, ?_, ?_⟩
  · rintro (busy | bad)
    · exact inv.separate (.inl busy)
    · cases bad
  · nofun
  · nofun
  · nofun

theorem hasCallback_of_phase {phase} (cur : s.skeletonEvent = phase)
    (offers : phase.hasCallback = true) : s.handlerStatusChangeCallback = true := by
  rw [inv.callback, cur]
  exact offers

theorem invariant_readNodes (reading : s.skeletonEvent = .readingNodes hasLocalHandlers)
    {s'} (taken : s.continueOffer = some s') : s'.Invariant := by
  have hasCb := hasCallback_of_phase inv reading rfl
  have fits := inv.offerFits
  rw [reading] at fits
  simp only [continueOffer, reading] at taken
  split at taken
  next some =>
    cases taken
    refine inv.phase hasCb rfl ?_ ?_ ?_
    · intro _
      rw [reading]
      trivial
    · rcases Bool.or_eq_true_iff.mp some with locals | remotes
      · exact Bool.or_eq_true_iff.mpr (.inl (fits locals))
      · exact Bool.or_eq_true_iff.mpr (.inr remotes)
    · exact fun _ _ => .inr (.inr (.inr (.inr rfl)))
  next none =>
    cases taken
    refine inv.phase hasCb rfl (fun bad => absurd bad id) trivial ?_
    -- Nothing was read, so another call sets the flag.
    rintro _ (notifying | readingAll | readLocals | ⟨_, remotes⟩ | notifying)
    · exact .inl notifying
    · rw [reading] at readingAll
      cases readingAll
    · rw [reading] at readLocals
      cases readLocals
      simp at none
    · simp [remotes] at none
    · rw [reading] at notifying
      cases notifying

theorem invariant_notifyOffer (notifying : s.skeletonEvent = .notifying) :
    Invariant { s.callback true with skeletonEvent := .offered } := by
  have hasCb := hasCallback_of_phase inv notifying rfl
  have any := inv.offerFits
  rw [notifying] at any
  simp only [callback, hasCb, if_true]
  refine ⟨inv.fits, trivial, ?_, rfl, ?_, ?_, ?_⟩
  · rintro (busy | bad)
    · exact inv.separate (.inl busy)
    · cases bad
  · nofun
  · intro _ none
    exact absurd (Eq.trans (Eq.symm none) any) Bool.noConfusion
  · nofun

theorem invariant_continueOffer {s'} (taken : s.continueOffer = some s') : s'.Invariant := by
  cases phase : s.skeletonEvent with
  | readingHandlers =>
    simp only [continueOffer, phase, some.injEq] at taken
    subst taken
    refine inv.phase (hasCallback_of_phase inv phase rfl) rfl ?_ id ?_
    · intro _
      rw [phase]
      trivial
    · intro any announced
      cases locals : s.registrations.hasLocalHandlers with
      | true => exact .inr (.inr (.inl rfl))
      | false =>
        refine .inr (.inr (.inr (.inl ⟨rfl, ?_⟩)))
        simpa [NotificationRegistrations.hasAnyHandlers, locals] using any
  | readingNodes hasLocalHandlers => exact invariant_readNodes inv phase taken
  | notifying =>
    simp only [continueOffer, phase, some.injEq] at taken
    subst taken
    exact invariant_notifyOffer inv phase
  | stopping =>
    simp only [continueOffer, phase, some.injEq] at taken
    subst taken
    have absent : s.handlerStatusChangeCallback = false := by
      rw [inv.callback, phase]
      rfl
    refine ⟨inv.fits, trivial, ?_, absent, ?_, ?_, fun _ => rfl⟩
    · rintro (busy | bad)
      · exact inv.separate (.inl busy)
      · cases bad
    · intro hasCb
      exact absurd (absent.symm.trans hasCb) Bool.noConfusion
    · intro hasCb
      exact absurd (absent.symm.trans hasCb) Bool.noConfusion
  | _ => simp [continueOffer, phase] at taken

theorem invariant_continueCall {s'} (taken : s.continueCall t = some s') : s'.Invariant := by
  unfold continueCall at taken
  split at taken
  · cases taken
  next senderNodeId hasLocalHandlers handling =>
    cases taken
    have registering : s.Registering := .inl ⟨t, by rw [handling]; trivial⟩
    refine inv.register ?_ (inv.separate registering) ⟨id, ?_⟩ ?_ ?_
    · rw [handling]
      exact NotificationThread.noConfusion
    · intro _
      simp [NotificationRegistrations.hasRemoteHandlers]
    · simp [NotificationRegistrations.hasAnyHandlers, NotificationRegistrations.hasRemoteHandlers]
    · intro none
      have fits := inv.fits t
      rw [handling] at fits
      obtain ⟨noHandlers, noNodes⟩ := any_eq_false_iff.mp none
      cases hasLocalHandlers with
      | true =>
        have read := fits rfl
        simp [NotificationRegistrations.hasLocalHandlers, noHandlers] at read
      | false => simp [noNodes]
  next handling =>
    cases taken
    exact invariant_eraseNode inv handling
  next notifying =>
    cases taken
    exact invariant_notify inv notifying

theorem invariant_step {label} (separate : s.Separate label) {s'}
    (taken : s.step label = some s') : s'.Invariant := by
  cases label with
  | registerEventNotification t =>
    obtain ⟨idle, reached⟩ := ite_none_right_eq_some.mp taken
    cases reached
    exact invariant_registerEventNotification inv idle separate
  | unregisterEventNotification t no =>
    obtain ⟨idle, reached⟩ := ite_none_right_eq_some.mp taken
    cases reached
    exact invariant_unregisterEventNotification inv idle separate.1 separate.2
  | handleRegisterNotificationMsg t senderNodeId =>
    obtain ⟨idle, reached⟩ := ite_none_right_eq_some.mp taken
    cases reached
    exact inv.handle idle (fun read => read) fun _ o => by grind [separate o]
  | handleUnregisterNotificationMsg t senderNodeId =>
    obtain ⟨idle, reached⟩ := ite_none_right_eq_some.mp taken
    cases reached
    refine inv.handle idle rfl ?_
    rintro (⟨o, registers⟩ | phase)
    · exact absurd (.inl ⟨o, by grind⟩) separate
    · exact absurd (.inr phase) separate
  | handleOutdatedNodeIdMsg pidToUnregister =>
    cases taken
    exact invariant_handleOutdatedNodeIdMsg inv separate.1 separate.2
  | continueCall t => exact invariant_continueCall inv taken
  | prepareOffer =>
    obtain ⟨stopped, reached⟩ := ite_none_right_eq_some.mp taken
    cases reached
    refine ⟨inv.fits, trivial, fun _ => separate, rfl, ?_, ?_, ?_⟩
    · exact fun _ _ _ => .inr (.inl rfl)
    · intro _ _ reg
      exact absurd ((inv.stopped stopped).symm.trans reg) Bool.noConfusion
    · nofun
  | prepareStopOffer =>
    obtain ⟨_, reached⟩ := ite_none_right_eq_some.mp taken
    cases reached
    exact invariant_prepareStopOffer inv
  | continueOffer => exact invariant_continueOffer inv taken

end Steps

/-- In a run in which the calls do not hinder each other, the flag of an offered
event tells whether a handler is registered whenever no call is in progress. -/
theorem reachable_flag_iff_registered {state : EventNotifications}
    (reachable : (system.restrict Separate).Reachable state)
    (quiet : state.Quiet) (offered : state.skeletonEvent = .offered) :
    state.eventUpdateNotificationsRegistered = true ↔ state.registrations.eventUpdateHandlers ≠ [] ∨
        state.registrations.eventUpdateInterestedNodes ≠ ∅ := by
  have invariant : state.Invariant :=
    reachable.preserves invariant_start fun kept separate => invariant_step kept separate
  have hasCallback := hasCallback_of_phase invariant offered rfl
  constructor
  · intro registered
    by_contra none
    obtain ⟨noHandlers, noNodes⟩ := not_or.mp none
    obtain ⟨thread, notifying⟩ := invariant.surplus hasCallback
      (any_eq_false_iff.mpr ⟨not_not.mp noHandlers, not_not.mp noNodes⟩) registered
    rw [quiet thread] at notifying
    cases notifying
  · intro some
    by_contra notRegistered
    have any : state.registrations.hasAnyHandlers = true := by
      simpa [NotificationRegistrations.hasAnyHandlers, NotificationRegistrations.hasLocalHandlers,
        NotificationRegistrations.hasRemoteHandlers] using some
    rcases invariant.missing hasCallback any (Bool.not_eq_true _ ▸ notRegistered) with
      ⟨thread, notifying⟩ | reading | reading | ⟨reading, _⟩ | notifying
    · rw [quiet thread] at notifying
      cases notifying
    all_goals simp_all

/-! ## Calls that hinder each other -/

/-- A local handler is removed between the two sections of a message that
registers a node. -/
def registerDuringUnregister : List NotificationStep :=
  [.prepareOffer, .continueOffer, .continueOffer, .registerEventNotification 0,
    .continueCall 0, .handleRegisterNotificationMsg 1 42,
    .unregisterEventNotification 0 0, .continueCall 1, .continueCall 0]

def outdatedNode : List NotificationStep :=
  [.prepareOffer, .continueOffer, .continueOffer,
    .handleRegisterNotificationMsg 0 42, .continueCall 0, .continueCall 0,
    .handleOutdatedNodeIdMsg 42]

theorem quiet_of_two {s : EventNotifications}
    (first : s.threads 0 = .idle) (second : s.threads 1 = .idle)
    (others : ∀ thread, s.threads (thread + 2) = .idle) : s.Quiet := by
  intro thread
  match thread with
  | 0 => exact first
  | 1 => exact second
  | thread + 2 => exact others thread

/-- After the first run a node is registered and the flag is not set; after the
second one nothing is registered and the flag is set. -/
theorem flag_wrong_when_quiet : (∃ state, system.Reachable state ∧ state.Quiet ∧
      run step start registerDuringUnregister = some state ∧
      state.skeletonEvent = .offered ∧
      state.eventUpdateNotificationsRegistered = false ∧
      state.registrations = ⟨[], {42}⟩) ∧
    (∃ state, system.Reachable state ∧ state.Quiet ∧
      run step start outdatedNode = some state ∧
      state.skeletonEvent = .offered ∧
      state.eventUpdateNotificationsRegistered = true ∧
      state.registrations = ⟨[], ∅⟩) := by
  constructor
  · exact exists_reachable registerDuringUnregister
      ⟨_, rfl, quiet_of_two rfl rfl fun _ => rfl, rfl, rfl, rfl, rfl⟩
  · exact exists_reachable outdatedNode
      ⟨_, rfl, quiet_of_two rfl rfl fun _ => rfl, rfl, rfl, rfl, rfl⟩

theorem handledEvent_flag_iff_registered : ∃ state, (system.restrict Separate).Reachable state ∧
      state.registrations = ⟨[0], ∅⟩ ∧
      (state.eventUpdateNotificationsRegistered = true ↔
        state.registrations.eventUpdateHandlers ≠ [] ∨
          state.registrations.eventUpdateInterestedNodes ≠ ∅) := by
  have started : (system.restrict Separate).Reachable start := .initial rfl
  have offering := started.allowedStep .prepareOffer (fun _ impossible => impossible) rfl
  have offered := (offering.allowedStep .continueOffer trivial rfl).allowedStep
    .continueOffer trivial rfl
  have registered := offered.allowedStep (.registerEventNotification 0)
    (fun _ impossible => impossible) rfl
  have notified := registered.allowedStep (.continueCall 0) trivial rfl
  exact ⟨_, notified, rfl, reachable_flag_iff_registered notified
    (quiet_of_two rfl rfl fun _ => rfl) rfl⟩

end EventNotifications

end ScoreIntegration.Lola
