import ScoreIntegration.Databroker.Subscribing

/-!
# Providers of actuators and signals

A call that registers ids for a provider checks under a read lock of the subscriptions that
they have no provider yet, and registers them later under a write lock.
-/

namespace ScoreIntegration.Databroker

open Concurrency List Function TransitionSystem Database

namespace Database

variable (database : Database) (permissions : Permissions) (now : Nat)

def canWrite (granted : String → Except PermissionError Unit) (id : Int) : Except ReadError Unit :=
  match database.getEntryById permissions now id with
  | .ok entry => (granted entry.metadata.path).mapError .ofPermission
  | .error error => .error error

def canWriteActuatorTarget : Int → Except ReadError Unit :=
  database.canWrite permissions now (permissions.canWriteActuatorTarget now)

def canWriteDatapoint : Int → Except ReadError Unit :=
  database.canWrite permissions now (permissions.canWriteDatapoint now)

end Database

inductive ProviderKind where
  | actuation | signal
  deriving DecidableEq

/-- A provider is known by the number of the call that registered it, which also stands for
the uuid of a signal provider. -/
structure ProviderSubscription where
  provider : Nat
  vssIds : List Int
  permissions : Permissions

inductive ProviderError where
  | read (error : ReadError)
  | alreadyRegistered

inductive ProviderCall where
  | provideActuation
  | registerSignals
  | extendSignals (providerUuid : Nat)

namespace ProviderCall

def kind : ProviderCall → ProviderKind
  | .provideActuation => .actuation
  | _ => .signal

def authorize (database : Database) (permissions : Permissions) (now : Nat) :
    ProviderCall → Int → Except ReadError Unit
  | .provideActuation => database.canWriteActuatorTarget permissions now
  | _ => database.canWriteDatapoint permissions now

def provider (number : Nat) : ProviderCall → Nat
  | .extendSignals providerUuid => providerUuid
  | _ => number

end ProviderCall

inductive CallProgress where
  | authorizing (vssIds : List Int)
  | registering
  | returned (result : Except ProviderError Unit)

structure RegistrationCall where
  call : ProviderCall
  vssIds : List Int
  permissions : Permissions
  progress : CallProgress

structure ProviderRegistry where
  subscriptions : ProviderKind → List ProviderSubscription := fun _ => []
  calls : Nat → Option RegistrationCall := fun _ => none
  /-- The providers that are no longer available. -/
  closed : Finset Nat := ∅

/-- The sections of the calls and of the housekeeping.  The database may be changed between
the checks of two ids. -/
inductive ProviderStep where
  | call (number : Nat) (call : ProviderCall) (vssIds : List Int) (permissions : Permissions)
  | authorize (number : Nat) (database : Database) (now : Nat)
  | check (number : Nat)
  | register (number : Nat)
  | close (provider : Nat)
  | cleanup (kind : ProviderKind) (now : Nat)

namespace ProviderRegistry

variable (registry : ProviderRegistry)

def setCall (number : Nat) (call : RegistrationCall) : ProviderRegistry :=
  { registry with calls := Function.update registry.calls number (some call) }

def setSubscriptions (kind : ProviderKind) (subscriptions : List ProviderSubscription) :
    ProviderRegistry :=
  { registry with
    subscriptions := Function.update registry.subscriptions kind subscriptions }

/-- A signal provider that is gone is not extended. -/
def registered (number : Nat) (vssIds : List Int) (permissions : Permissions) :
    ProviderCall → List ProviderSubscription
  | .extendSignals providerUuid => (registry.subscriptions .signal).map fun subscription =>
      if subscription.provider = providerUuid then
        { subscription with vssIds := subscription.vssIds ++ vssIds }
      else subscription
  | call => registry.subscriptions call.kind ++ [⟨number, vssIds, permissions⟩]

def step : ProviderStep → Option ProviderRegistry
  | .call number call vssIds permissions =>
    if (registry.calls number).isSome then none
    else some (registry.setCall number ⟨call, vssIds, permissions, .authorizing vssIds⟩)
  | .authorize number database now =>
    match registry.calls number with
    | some ⟨call, vssIds, permissions, .authorizing (id :: rest)⟩ =>
      some (registry.setCall number ⟨call, vssIds, permissions,
        match call.authorize database permissions now id with
        | .ok () => .authorizing rest
        | .error error => .returned (.error (.read error))⟩)
    | _ => none
  | .check number =>
    match registry.calls number with
    | some ⟨call, vssIds, permissions, .authorizing []⟩ =>
      let provided := (registry.subscriptions call.kind).flatMap (·.vssIds)
      let intersection := vssIds.filter (· ∈ provided)
      some (registry.setCall number ⟨call, vssIds, permissions,
        if intersection = [] then .registering else .returned (.error .alreadyRegistered)⟩)
    | _ => none
  | .register number =>
    match registry.calls number with
    | some ⟨call, vssIds, permissions, .registering⟩ =>
      some <| (registry.setCall number
        ⟨call, vssIds, permissions, .returned (.ok ())⟩).setSubscriptions call.kind
          (registry.registered number vssIds permissions call)
    | _ => none
  | .close provider => some { registry with closed := insert provider registry.closed }
  | .cleanup kind now =>
    some (registry.setSubscriptions kind <| (registry.subscriptions kind).filter fun subscription =>
      subscription.provider ∉ registry.closed ∧ subscription.permissions.isExpired now = false)

inductive Claimant where
  | provider (provider : Nat)
  | call (number : Nat)

def Claims (kind : ProviderKind) (id : Int) : Claimant → Prop
  | .provider provider => ∃ subscription ∈ registry.subscriptions kind,
    subscription.provider = provider ∧ id ∈ subscription.vssIds
  | .call number => ∃ call, registry.calls number = some call ∧ call.progress = .registering ∧
    call.call.kind = kind ∧ id ∈ call.vssIds

/-- A call makes its check while no other call is about to register one of its ids. -/
def Apart : ProviderStep → Prop
  | .check number => ∀ call other, registry.calls number = some call →
    ∀ id ∈ call.vssIds, ¬registry.Claims call.call.kind id (.call other)
  | _ => True

def Exclusive : Prop :=
  ∀ kind id first second, registry.Claims kind id first → registry.Claims kind id second →
    first = second

variable {registry} {after : ProviderRegistry} {number : Nat} {call : RegistrationCall}
  {kind : ProviderKind} {id : Int} {claimant : Claimant}

theorem Exclusive.of_claims (exclusive : registry.Exclusive)
    (claims : ∀ kind id claimant, after.Claims kind id claimant → registry.Claims kind id claimant ∨
        ∀ o, after.Claims kind id o → o = claimant) : after.Exclusive := by
  intro kind id first second isFirst isSecond
  rcases claims kind id first isFirst with wasFirst | onlyFirst
  · rcases claims kind id second isSecond with wasSecond | onlySecond
    · exact exclusive kind id first second wasFirst wasSecond
    · exact onlySecond first isFirst
  · exact (onlyFirst second isSecond).symm

theorem claims_setCall (claims : (registry.setCall number call).Claims kind id claimant) :
    registry.Claims kind id claimant ∧ claimant ≠ .call number ∨ claimant = .call number ∧
      call.progress = .registering ∧ call.call.kind = kind ∧ id ∈ call.vssIds := by
  cases claimant with
  | provider p => exact .inl ⟨claims, nofun⟩
  | call o =>
    obtain ⟨found, isFound, registers⟩ := claims
    by_cases same : o = number
    · subst same
      cases (update_self ..).symm.trans isFound
      exact .inr ⟨rfl, registers⟩
    · refine .inl ⟨⟨found, (update_of_ne same ..).symm.trans isFound, registers⟩, ?_⟩
      exact fun isCall => same (Claimant.call.inj isCall)

theorem Exclusive.setCall (exclusive : registry.Exclusive)
    (notRegistering : call.progress ≠ .registering) : (registry.setCall number call).Exclusive :=
  exclusive.of_claims fun _ _ _ claims => .inl <| (claims_setCall claims).elim And.left
    fun isNew => absurd isNew.2.1 notRegistering

theorem claims_setSubscriptions {subs changed}
    (claims : (registry.setSubscriptions changed subs).Claims kind id claimant) :
    registry.Claims kind id claimant ∨ kind = changed ∧ ∃ sub ∈ subs,
      claimant = .provider sub.provider ∧ id ∈ sub.vssIds := by
  cases claimant with
  | call number => exact .inl claims
  | provider p =>
    obtain ⟨sub, isIn, rfl, isHeld⟩ := claims
    by_cases same : kind = changed
    · subst same
      simp only [setSubscriptions, update_self] at isIn
      exact .inr ⟨rfl, sub, isIn, rfl, isHeld⟩
    · simp only [setSubscriptions, update_of_ne same] at isIn
      exact .inl ⟨sub, isIn, rfl, isHeld⟩

theorem mem_registered {vssIds perms call sub}
    (isIn : sub ∈ registry.registered number vssIds perms call)
    (isHeld : id ∈ sub.vssIds) :
    registry.Claims call.kind id (.provider sub.provider) ∨
      sub.provider = call.provider number ∧ id ∈ vssIds := by
  cases call with
  | extendSignals providerUuid =>
    obtain ⟨pre, wasIn, rfl⟩ := mem_map.mp isIn
    split at isHeld
    next isProvider =>
      rw [if_pos isProvider]
      exact (mem_append.mp isHeld).imp (⟨pre, wasIn, rfl, ·⟩) (⟨isProvider, ·⟩)
    next isOther =>
      rw [if_neg isOther]
      exact .inl ⟨pre, wasIn, rfl, isHeld⟩
  | _ =>
    rcases mem_append.mp isIn with wasIn | isNew
    · exact .inl ⟨sub, wasIn, rfl, isHeld⟩
    · cases mem_singleton.mp isNew
      exact .inr ⟨rfl, isHeld⟩

theorem Exclusive.register {vssIds perms call} (exclusive : registry.Exclusive)
    (isCall : registry.calls number = some ⟨call, vssIds, perms, .registering⟩) :
    ((registry.setCall number ⟨call, vssIds, perms, .returned (.ok ())⟩).setSubscriptions
      call.kind (registry.registered number vssIds perms call)).Exclusive := by
  have claims : ∀ {kind id claimant}, ((registry.setCall number
        ⟨call, vssIds, perms, .returned (.ok ())⟩).setSubscriptions call.kind
        (registry.registered number vssIds perms call)).Claims kind id claimant →
      registry.Claims kind id claimant ∧ claimant ≠ .call number ∨
        claimant = .provider (call.provider number) ∧ registry.Claims kind id (.call number) := by
    intro kind id claimant isAfter
    rcases claims_setSubscriptions isAfter with isCalled | ⟨rfl, sub, isIn, rfl, isHeld⟩
    · exact .inl ((claims_setCall isCalled).resolve_right nofun)
    · exact (mem_registered isIn isHeld).imp (⟨·, nofun⟩) fun ⟨isProvider, isNew⟩ =>
        ⟨congrArg _ isProvider, _, isCall, rfl, rfl, isNew⟩
  refine exclusive.of_claims fun kind id claimant isAfter => ?_
  refine (claims isAfter).imp And.left fun ⟨isProvider, wasCalled⟩ other isOther => ?_
  rcases claims isOther with ⟨wasOther, notCall⟩ | ⟨isSame, -⟩
  · exact absurd (exclusive kind id _ _ wasOther wasCalled) notCall
  · exact isSame.trans isProvider.symm

theorem Exclusive.check (exclusive : registry.Exclusive)
    (others : ∀ o, ∀ id ∈ call.vssIds, ¬registry.Claims call.call.kind id (.call o))
    (noneProvided : call.vssIds.filter
      (· ∈ (registry.subscriptions call.call.kind).flatMap (·.vssIds)) = []) :
    (registry.setCall number call).Exclusive := by
  refine exclusive.of_claims fun kind id claimant isAfter => ?_
  refine (claims_setCall isAfter).imp And.left fun ⟨isNew, _, isKind, isIn⟩ o isOther => ?_
  subst isKind
  rcases claims_setCall isOther with ⟨wasOther, -⟩ | ⟨isSame, -⟩
  · cases o with
    | call o => exact absurd wasOther (others o id isIn)
    | provider p =>
      obtain ⟨sub, isSubscription, -, isProvided⟩ := wasOther
      refine absurd (decide_eq_true ?_) (filter_eq_nil_iff.mp noneProvided id isIn)
      exact mem_flatMap.mpr ⟨sub, isSubscription, isProvided⟩
  · exact isSame.trans isNew.symm

theorem Exclusive.step {taking} (exclusive : registry.Exclusive)
    (apart : registry.Apart taking) (taken : registry.step taking = some after) :
    after.Exclusive := by
  cases taking with
  | call number call vssIds perms =>
    obtain ⟨-, taken⟩ := Option.ite_none_left_eq_some.mp taken
    cases taken
    exact exclusive.setCall nofun
  | authorize number db now =>
    simp only [ProviderRegistry.step] at taken
    split at taken
    · cases taken
      refine exclusive.setCall ?_
      dsimp only
      split <;> exact nofun
    · cases taken
  | check number =>
    simp only [ProviderRegistry.step] at taken
    split at taken
    next isCall =>
      cases taken
      have others := fun o => apart _ o isCall
      split
      next noneProvided => exact exclusive.check others noneProvided
      · exact exclusive.setCall nofun
    · cases taken
  | register number =>
    simp only [ProviderRegistry.step] at taken
    split at taken
    next isCall =>
      cases taken
      exact exclusive.register isCall
    · cases taken
  | close p =>
    cases taken
    exact exclusive
  | cleanup kind now =>
    cases taken
    refine exclusive.of_claims fun kind id claimant isAfter => .inl ?_
    rcases claims_setSubscriptions isAfter with pre | ⟨rfl, sub, isIn, rfl, isHeld⟩
    · exact pre
    · exact ⟨sub, mem_of_mem_filter isIn, rfl, isHeld⟩

/-- No id has two providers, available or not. -/
theorem reachable_one_provider
    (reachable : ((ofStep {} step).restrict Apart).Reachable registry)
    {first second : ProviderSubscription} (isFirst : first ∈ registry.subscriptions kind)
    (isSecond : second ∈ registry.subscriptions kind) (inFirst : id ∈ first.vssIds)
    (inSecond : id ∈ second.vssIds) : first.provider = second.provider := by
  have exclusive : registry.Exclusive := by
    refine reachable.invariant Exclusive ?_ ?_
    · rintro _ rfl kind id (_ | _) second isFirst
      · cases isFirst.choose_spec.1
      · cases isFirst.choose_spec.1
    · intro before taking after exclusive taken
      exact exclusive.step taken.1 taken.2
  exact Claimant.provider.inj (exclusive kind id (.provider _) (.provider _)
    ⟨first, isFirst, rfl, inFirst⟩ ⟨second, isSecond, rfl, inSecond⟩)

/-- A second provider is refused while the first one is registered. -/
theorem registered_gear_has_one_provider : ∃ registry,
    ((ofStep {} step).restrict Apart).Reachable registry ∧
      (registry.calls 1).map (·.progress) = some (.returned (.error .alreadyRegistered)) ∧
      ∃ subscription ∈ registry.subscriptions .signal, 0 ∈ subscription.vssIds ∧
        ∀ other ∈ registry.subscriptions .signal, 0 ∈ other.vssIds →
          subscription.provider = other.provider := by
  have called := (.initial rfl : ((ofStep {} step).restrict Apart).Reachable
    {}).allowedStep (.call 0 .registerSignals [0] everything) trivial rfl
  have authorized := called.allowedStep (.authorize 0 SubscribingBroker.gear 0) trivial rfl
  have checked := authorized.allowedStep (.check 0) (by
    rintro _ (_ | other) _ id _ ⟨_, isCall, registers, _⟩ <;> cases isCall
    cases registers) rfl
  have registered := checked.allowedStep (.register 0) trivial rfl
  have called' := registered.allowedStep (.call 1 .registerSignals [0] everything) trivial rfl
  have authorized' := called'.allowedStep (.authorize 1 SubscribingBroker.gear 0) trivial rfl
  have ends : ∃ registry, ((ofStep {} step).restrict Apart).Reachable registry ∧
      (registry.calls 1).map (·.progress) = some (.returned (.error .alreadyRegistered)) ∧
      ∃ subscription ∈ registry.subscriptions .signal, 0 ∈ subscription.vssIds :=
    ⟨_, authorized'.allowedStep (.check 1) (by
      rintro _ (_ | _ | other) _ id _ ⟨_, isCall, registers, _⟩ <;> cases isCall <;>
        cases registers) rfl, rfl, _, .head _, .head _⟩
  obtain ⟨registry, reachable, isRefused, subscription, isIn, isHeld⟩ := ends
  exact ⟨registry, reachable, isRefused, subscription, isIn, isHeld, fun other isOther otherHeld =>
    reachable_one_provider reachable isIn isOther isHeld otherHeld⟩

/-- Calls that make all their checks before the first one registers. -/
def race : List ProviderStep :=
  let calls := [(0, .provideActuation), (1, .provideActuation), (2, .registerSignals),
    (3, .registerSignals)]
  calls.map (fun (number, call) => .call number call [0] Database.everything) ++
    calls.map (fun (number, _) => .authorize number SubscribingBroker.gear 0) ++
    calls.map (fun (number, _) => .check number) ++ calls.map fun (number, _) => .register number

theorem raced_gear_has_two_providers : ∃ registry,
    (ofStep {} step).Reachable registry ∧ registry.closed = ∅ ∧
      registry.subscriptions .actuation =
        [⟨0, [0], everything⟩, ⟨1, [0], everything⟩] ∧
      registry.subscriptions .signal =
        [⟨2, [0], everything⟩, ⟨3, [0], everything⟩] := by
  exact exists_reachable race ⟨_, rfl, rfl, rfl, rfl⟩

end ProviderRegistry

end ScoreIntegration.Databroker
