import Mathlib.Data.List.AList
import ScoreIntegration.Lola.EventControl
import ScoreIntegration.Lola.MethodReply

/-!
# Subscribing to the methods of a skeleton

A proxy puts the call queues of its methods into a shared memory region.  The skeleton
maps the region and registers a call handler for each method that it lists.  Regions are
kept per application, process and proxy instance.
-/

namespace ScoreIntegration.Lola

open Function AList

/-- A call queue in the region of a proxy. -/
structure MethodCallQueue where
  uniqueMethodIdentifier : UniqueMethodIdentifier
  deriving DecidableEq, Repr

/-- A mapped region.  Mappings are numbered in the order in which they are made; the
region was opened as one that the user `proxyUid` provides. -/
structure MethodRegion where
  mapping : Nat
  proxyUid : Nat
  methodCallQueues : List MethodCallQueue
  deriving DecidableEq, Repr

structure ProcessSpecificResourceMap where
  pid : Nat
  innerResourceMap : AList (fun _ : UInt16 => MethodRegion)

/-! ## `MethodResourceMap` -/

abbrev MethodResourceMap := UInt32 → Option ProcessSpecificResourceMap

namespace MethodResourceMap

def contains (resources : MethodResourceMap)
    (proxyInstanceIdentifier : ProxyInstanceIdentifier) (proxyPid : Nat) : Bool :=
  match resources proxyInstanceIdentifier.applicationId with
  | none => false
  | some found =>
    if found.pid ≠ proxyPid then false
    else (found.innerResourceMap.lookup proxyInstanceIdentifier.proxyInstanceCounter).isSome

/-- An entry that exists is kept, but the process id is overwritten. -/
def insert (resources : MethodResourceMap)
    (proxyInstanceIdentifier : ProxyInstanceIdentifier) (proxyPid : Nat)
    (region : MethodRegion) : MethodRegion × MethodResourceMap :=
  let inner := ((resources proxyInstanceIdentifier.applicationId).map
    ProcessSpecificResourceMap.innerResourceMap).getD ∅
  match inner.lookup proxyInstanceIdentifier.proxyInstanceCounter with
  | some existing =>
    (existing, Function.update resources proxyInstanceIdentifier.applicationId
      (some ⟨proxyPid, inner⟩))
  | none =>
    (region, Function.update resources proxyInstanceIdentifier.applicationId (some ⟨proxyPid,
        inner.insert proxyInstanceIdentifier.proxyInstanceCounter region⟩))

section

variable (resources : MethodResourceMap) (proxyInstanceIdentifier : ProxyInstanceIdentifier)

/-- `EraseRegionsFromCrashedProcesses`. -/
def cleanUpOldRegions (proxyPid : Nat) : MethodResourceMap :=
  match resources proxyInstanceIdentifier.applicationId with
  | none => resources
  | some found =>
    if found.pid ≠ proxyPid then
      Function.update resources proxyInstanceIdentifier.applicationId none
    else resources

def remove : MethodResourceMap :=
  match resources proxyInstanceIdentifier.applicationId with
  | none => resources
  | some found =>
    let inner := found.innerResourceMap.erase proxyInstanceIdentifier.proxyInstanceCounter
    if inner.entries.isEmpty then
      Function.update resources proxyInstanceIdentifier.applicationId none
    else
      Function.update resources proxyInstanceIdentifier.applicationId (some ⟨found.pid, inner⟩)

def region : Option MethodRegion :=
  (resources proxyInstanceIdentifier.applicationId).bind
    (·.innerResourceMap.lookup proxyInstanceIdentifier.proxyInstanceCounter)

end

variable {px : ProxyInstanceIdentifier} {resources : MethodResourceMap}
  {o : ProxyInstanceIdentifier} {proxyPid : Nat} {app : UInt32}

theorem region_eq_of_eq {pre s' : MethodResourceMap}
    (same : s' px.applicationId = pre px.applicationId) :
    s'.region px = pre.region px := by
  rw [region, region, same]

theorem ext_proxy (sameApp : o.applicationId = px.applicationId)
    (sameCounter : o.proxyInstanceCounter = px.proxyInstanceCounter) : o = px := by
  cases o
  cases px
  cases sameApp
  cases sameCounter
  rfl

theorem region_cleanUpOldRegions_self (absent : resources.contains px proxyPid = false) :
    (resources.cleanUpOldRegions px proxyPid).region px = none := by
  rw [contains] at absent
  rw [region, cleanUpOldRegions]
  cases found : resources px.applicationId with
  | none => simp only [found, Option.bind_none]
  | some process =>
    rw [found] at absent
    dsimp only at absent ⊢
    by_cases otherPid : process.pid ≠ proxyPid
    · rw [if_pos otherPid, update_self, Option.bind_none]
    · rw [if_neg otherPid] at absent ⊢
      rw [found, Option.bind_some]
      exact Option.isNone_iff_eq_none.mp (by simpa using absent)

theorem insert_of_missing (missing : resources.region px = none) (proxyPid : Nat)
    (entered : MethodRegion) :
    resources.insert px proxyPid entered =
      (entered, update resources px.applicationId (some ⟨proxyPid,
        (((resources px.applicationId).map
          ProcessSpecificResourceMap.innerResourceMap).getD ∅).insert
            px.proxyInstanceCounter entered⟩)) := by
  have noEntry : (((resources px.applicationId).map
      ProcessSpecificResourceMap.innerResourceMap).getD ∅).lookup
        px.proxyInstanceCounter = none := by
    rw [region] at missing
    cases found : resources px.applicationId with
    | none => exact lookup_empty _
    | some process =>
      rw [found] at missing
      exact missing
  simp only [insert, noEntry]

theorem region_insert (missing : resources.region px = none) (proxyPid : Nat)
    (entered : MethodRegion) (o : ProxyInstanceIdentifier) :
    (resources.insert px proxyPid entered).2.region o =
      if o = px then some entered else resources.region o := by
  rw [insert_of_missing missing]
  by_cases sameApp : o.applicationId = px.applicationId
  · simp only [region, sameApp, update_self, Option.bind_some]
    by_cases same : o = px
    · rw [if_pos same, same, lookup_insert]
    · rw [if_neg same, lookup_insert_ne
        (fun sameCounter => same (ext_proxy sameApp sameCounter))]
      cases resources px.applicationId with
      | none => exact lookup_empty _
      | some process => rfl
  · have differ : o ≠ px := fun same => sameApp (by rw [same])
    rw [if_neg differ]
    refine region_eq_of_eq ?_
    exact update_of_ne sameApp _ _

section

variable (resources : MethodResourceMap) (px : ProxyInstanceIdentifier)

theorem cleanUpOldRegions_of_ne (proxyPid : Nat) (differ : app ≠ px.applicationId) :
    resources.cleanUpOldRegions px proxyPid app = resources app := by
  rw [cleanUpOldRegions]
  cases resources px.applicationId with
  | none => rfl
  | some found =>
    by_cases samePid : found.pid ≠ proxyPid
    · simp only [if_pos samePid, update_of_ne differ]
    · simp only [if_neg samePid]

theorem remove_of_ne (differ : app ≠ px.applicationId) :
    resources.remove px app = resources app := by
  rw [remove]
  cases resources px.applicationId with
  | none => rfl
  | some found =>
    dsimp only
    split <;> rw [update_of_ne differ]

end

theorem region_remove (resources : MethodResourceMap) (px o : ProxyInstanceIdentifier) :
    (resources.remove px).region o = if o = px then none else resources.region o := by
  by_cases sameApp : o.applicationId = px.applicationId
  · rw [region, region, remove, sameApp]
    cases found : resources px.applicationId with
    | none => simp [found]
    | some process =>
      dsimp only
      have erased : (process.innerResourceMap.erase
          px.proxyInstanceCounter).lookup o.proxyInstanceCounter =
          if o = px then none
          else process.innerResourceMap.lookup o.proxyInstanceCounter := by
        by_cases same : o = px
        · rw [if_pos same, same]
          exact lookup_erase _ _
        · rw [if_neg same]
          exact lookup_erase_ne (fun sameCounter => same (ext_proxy sameApp sameCounter))
      split
      next empty =>
        rw [update_self, Option.bind_none, Option.bind_some, ← erased]
        have noEntries := List.isEmpty_iff.mp empty
        rw [lookup, noEntries]
        rfl
      · rw [update_self, Option.bind_some, Option.bind_some]
        exact erased
  · have differ : o ≠ px := fun same => sameApp (by rw [same])
    rw [if_neg differ]
    exact region_eq_of_eq (remove_of_ne resources px sameApp)

def pid (resources : MethodResourceMap) (applicationId : UInt32) : Option Nat :=
  (resources applicationId).map ProcessSpecificResourceMap.pid

theorem pid_insert (missing : resources.region px = none) (proxyPid : Nat)
    (entered : MethodRegion) (app : UInt32) :
    (resources.insert px proxyPid entered).2.pid app =
      if app = px.applicationId then some proxyPid
      else resources.pid app := by
  rw [insert_of_missing missing, pid, pid]
  dsimp only
  by_cases same : app = px.applicationId
  · rw [if_pos same, same, update_self]
    rfl
  · rw [if_neg same, update_of_ne same]

theorem cleanUpOldRegions_of_pid (cur : resources.pid px.applicationId = some proxyPid) :
    resources.cleanUpOldRegions px proxyPid = resources := by
  rw [pid] at cur
  rw [cleanUpOldRegions]
  cases found : resources px.applicationId with
  | none => rfl
  | some process =>
    rw [found] at cur
    cases cur
    exact if_neg (fun differ => differ rfl)

theorem pid_remove (left : ((resources.remove px).region o).isSome = true) :
    (resources.remove px).pid o.applicationId = resources.pid o.applicationId := by
  by_cases sameApp : o.applicationId = px.applicationId
  · rw [region, sameApp] at left
    rw [pid, pid, sameApp]
    rw [remove] at left ⊢
    cases found : resources px.applicationId with
    | none => simp only [found]
    | some process =>
      rw [found] at left
      dsimp only at left ⊢
      split at left
      · rw [update_self] at left
        cases left
      next nonempty =>
        rw [if_neg nonempty, update_self]
        rfl
  · rw [pid, pid, remove_of_ne _ _ sameApp]

end MethodResourceMap

/-! ## The provider -/

/-- The handler that is registered for calls of a method by one proxy instance: it
reads arguments from its queue and writes return values into it. -/
structure MethodCallHandler where
  region : MethodRegion
  queue : MethodCallQueue
  allowedProxyUid : Nat
  deriving DecidableEq, Repr

/-- An entry of `registration_guards_`.  Destroying it unregisters the handler. -/
structure RegistrationGuard where
  pid : Nat
  asilLevel : QualityType
  deriving DecidableEq, Repr

/-- A process with one skeleton: its methods and the registered handlers for calls.  The keys
of guards name the method, so the guards of all methods are one map. -/
structure MethodProvider where
  skeletonMethods : List UniqueMethodIdentifier
  hasCallback : UniqueMethodIdentifier → Bool
  methodResources : MethodResourceMap
  registrationGuards : AList (fun _ : ProxyMethodInstanceIdentifier => RegistrationGuard)
  callMethodHandlers : QualityType → ProxyMethodInstanceIdentifier → Option MethodCallHandler
  mappings : Nat

namespace MethodProvider

def start (skeletonMethods : List UniqueMethodIdentifier)
    (hasCallback : UniqueMethodIdentifier → Bool) : MethodProvider where
  skeletonMethods := skeletonMethods
  hasCallback := hasCallback
  methodResources := fun _ => none
  registrationGuards := ∅
  callMethodHandlers := fun _ _ => none
  mappings := 0

section

variable (provider : MethodProvider) (asilLevel : QualityType)
  (identifier : ProxyMethodInstanceIdentifier)

def setCallHandler (handler : Option MethodCallHandler) : MethodProvider :=
  { provider with
    callMethodHandlers := fun level key =>
      if level = asilLevel ∧ key = identifier then handler
      else provider.callMethodHandlers level key }

def registerMethodCallHandler (handler : MethodCallHandler) : Except Violation MethodProvider :=
  if (provider.callMethodHandlers asilLevel identifier).isSome then
    .error .assertionInHandler
  else .ok (provider.setCallHandler asilLevel identifier (some handler))

def unregisterMethodCallHandler : Except Violation MethodProvider :=
  if (provider.callMethodHandlers asilLevel identifier).isNone then
    .error .assertionInHandler
  else .ok (provider.setCallHandler asilLevel identifier none)

end

/-- `OnProxyMethodUnsubscribe`: the guard is erased and unregisters its handler.  The
result tells whether there was one. -/
def onProxyMethodUnsubscribe (provider : MethodProvider)
    (identifier : ProxyMethodInstanceIdentifier) : Except Violation (Bool × MethodProvider) :=
  match provider.registrationGuards.lookup identifier with
  | none => .ok (false, provider)
  | some guard =>
    (unregisterMethodCallHandler { provider with
        registrationGuards := provider.registrationGuards.erase identifier }
      guard.asilLevel identifier).map (true, ·)

def eraseGuards : List ProxyMethodInstanceIdentifier → MethodProvider →
    Except Violation MethodProvider
  | [], provider => .ok provider
  | identifier :: identifiers, provider =>
    match provider.onProxyMethodUnsubscribe identifier with
    | .error violation => .error violation
    | .ok (_, after) => eraseGuards identifiers after

def ofApplication (applicationId : UInt32) (method : UniqueMethodIdentifier)
    (identifier : ProxyMethodInstanceIdentifier) : Bool :=
  identifier.proxyInstanceIdentifier.applicationId == applicationId &&
    identifier.uniqueMethodIdentifier == method

def cleanUpOldHandlers (provider : MethodProvider) (method : UniqueMethodIdentifier)
    (applicationId : UInt32) (proxyPid : Nat) : Except Violation MethodProvider :=
  if provider.registrationGuards.entries.any (fun entry =>
      ofApplication applicationId method entry.1 && entry.2.pid == proxyPid) then
    .ok provider
  else
    eraseGuards (provider.registrationGuards.keys.filter
      (ofApplication applicationId method)) provider

/-- `OnProxyMethodSubscribeFinished`; `registration` is what the registration of the
handler returns. -/
def onProxyMethodSubscribeFinished (provider : MethodProvider)
    (registration : MethodResult) (region : MethodRegion) (queue : MethodCallQueue)
    (proxyInstanceIdentifier : ProxyInstanceIdentifier) (proxyUid proxyPid : Nat)
    (asilLevel : QualityType) : Except Violation (MethodResult × MethodProvider) :=
  if !provider.hasCallback queue.uniqueMethodIdentifier then
    .error .assertionInHandler
  else
    match provider.cleanUpOldHandlers queue.uniqueMethodIdentifier
        proxyInstanceIdentifier.applicationId proxyPid with
    | .error violation => .error violation
    | .ok cleaned =>
      match registration with
      | .error error => .ok (.error error, cleaned)
      | .ok () =>
        let identifier : ProxyMethodInstanceIdentifier :=
          ⟨proxyInstanceIdentifier, queue.uniqueMethodIdentifier⟩
        match cleaned.registerMethodCallHandler asilLevel identifier ⟨region, queue, proxyUid⟩ with
        | .error violation => .error violation
        | .ok registered =>
          if (registered.registrationGuards.lookup identifier).isSome then
            .error .assertionInHandler
          else
            .ok (.ok (), { registered with
              registrationGuards := registered.registrationGuards.insert
                identifier ⟨proxyPid, asilLevel⟩ })

/-- What the surroundings decide for a subscription: the queues in the region that is
opened, if it can be opened, and the results of registrations. -/
structure SubscriptionOutcome where
  opened : Option (List MethodCallQueue)
  registration : UniqueMethodIdentifier → MethodResult

/-- `SubscribeMethods`: `subscribed` are the methods before the current one.  With an
error the methods to unsubscribe are returned. -/
def subscribeMethods (registration : UniqueMethodIdentifier → MethodResult)
    (region : MethodRegion) (proxyInstanceIdentifier : ProxyInstanceIdentifier)
    (proxyUid proxyPid : Nat) (asilLevel : QualityType) :
    List MethodCallQueue → List UniqueMethodIdentifier → MethodProvider →
    Except Violation ((MethodResult × List UniqueMethodIdentifier) × MethodProvider)
  | [], _, provider => .ok ((.ok (), []), provider)
  | queue :: queues, subscribed, provider =>
    if !provider.skeletonMethods.contains queue.uniqueMethodIdentifier then
      .error .assertionInHandler
    else
      match provider.onProxyMethodSubscribeFinished
          (registration queue.uniqueMethodIdentifier) region queue
          proxyInstanceIdentifier proxyUid proxyPid asilLevel with
      | .error violation => .error violation
      | .ok (.error error, after) => .ok ((.error error, subscribed), after)
      | .ok (.ok (), after) =>
        subscribeMethods registration region proxyInstanceIdentifier proxyUid
          proxyPid asilLevel queues (subscribed ++ [queue.uniqueMethodIdentifier])
          after

/-- `UnsubscribeMethods`: each of the methods must have been registered. -/
def unsubscribeMethods (proxyInstanceIdentifier : ProxyInstanceIdentifier) :
    List UniqueMethodIdentifier → MethodProvider → Except Violation MethodProvider
  | [], provider => .ok provider
  | method :: methods, provider =>
    match provider.onProxyMethodUnsubscribe ⟨proxyInstanceIdentifier, method⟩ with
    | .error violation => .error violation
    | .ok (erased, after) =>
      if !erased then .error .assertionInHandler
      else unsubscribeMethods proxyInstanceIdentifier methods after

/-- Where the region was opened: it is entered into the map and its methods are
subscribed.  After a failure the region stays in the map. -/
def subscribeOpened (registration : UniqueMethodIdentifier → MethodResult)
    (methodCallQueues : List MethodCallQueue)
    (proxyInstanceIdentifier : ProxyInstanceIdentifier) (proxyUid : Nat)
    (asilLevel : QualityType) (proxyPid : Nat) :
    HandlerRun MethodProvider MethodResult := fun provider =>
  let (resource, resources) := MethodResourceMap.insert provider.methodResources
    proxyInstanceIdentifier proxyPid ⟨provider.mappings, proxyUid, methodCallQueues⟩
  match subscribeMethods registration resource proxyInstanceIdentifier proxyUid
      proxyPid asilLevel resource.methodCallQueues []
      { provider with
        methodResources := resources
        mappings := provider.mappings + 1 } with
  | .error violation => .error violation
  | .ok ((.error error, methodIdsToUnsubscribe), after) =>
    (unsubscribeMethods proxyInstanceIdentifier methodIdsToUnsubscribe after).map (.error error, ·)
  | .ok ((.ok (), _), after) => .ok (.ok (), after)

def onServiceMethodsSubscribed (outcome : SubscriptionOutcome)
    (proxyInstanceIdentifier : ProxyInstanceIdentifier) (proxyUid : Nat)
    (asilLevel : QualityType) (proxyPid : Nat) :
    HandlerRun MethodProvider MethodResult := fun provider =>
  if MethodResourceMap.contains provider.methodResources proxyInstanceIdentifier proxyPid then
    .ok (.ok (), provider)
  else
    let cleaned : MethodProvider :=
      { provider with
        methodResources := MethodResourceMap.cleanUpOldRegions provider.methodResources
          proxyInstanceIdentifier proxyPid }
    match outcome.opened with
    | none => .ok (.error bindingFailure, cleaned)
    | some methodCallQueues =>
      subscribeOpened outcome.registration methodCallQueues proxyInstanceIdentifier
        proxyUid asilLevel proxyPid cleaned

/-- All methods of the skeleton are looked at, also those that the proxy does not
use. -/
def onServiceMethodsUnsubscribed (proxyInstanceIdentifier : ProxyInstanceIdentifier) :
    HandlerRun MethodProvider MethodResult := fun provider =>
  (eraseGuards (provider.skeletonMethods.map (⟨proxyInstanceIdentifier, ·⟩))
    { provider with
      methodResources := MethodResourceMap.remove provider.methodResources
        proxyInstanceIdentifier }).map (.ok (), ·)

end MethodProvider

end ScoreIntegration.Lola
