import ScoreIntegration.Databroker.Providers

/-!
# Requests of a provider stream

A provider stream keeps the uuid of its registration and looks the provider up for every
request, while the housekeeping removes providers.
-/

namespace ScoreIntegration.Databroker

open Concurrency Containers List Function TransitionSystem Option

inductive ProviderRequest where
  | publishProviderError
  | publishValues (dataPoints : List (Int × Datapoint))

inductive ProviderAnswer where
  | updateEntries (updates : List (Int × EntryUpdate))
  | alreadyRegistered

namespace ProviderRegistry

variable (registry : ProviderRegistry) (providerUuid : Nat)

/-- `none` is the panic of `unwrap` on a provider that is not registered. -/
def keySet : Option (List Int) :=
  ((registry.subscriptions .signal).find? (·.provider = providerUuid)).map (·.vssIds)

def publishProviderError : Option (List (Int × EntryUpdate)) :=
  (registry.keySet providerUuid).map fun keySet => keySet.map ((·, {}))

def validProviderPublishSignals (signalRequest : List Int) : Option Bool :=
  (registry.keySet providerUuid).map fun keySet => decide (signalRequest ⊆ keySet)

def answer : ProviderRequest → Option ProviderAnswer
  | .publishProviderError => (registry.publishProviderError providerUuid).map .updateEntries
  | .publishValues dataPoints =>
    (registry.validProviderPublishSignals providerUuid (dataPoints.map (·.1))).map fun valid =>
      if valid then
        .updateEntries (dataPoints.map fun (id, datapoint) => (id, { datapoint := datapoint }))
      else .alreadyRegistered

end ProviderRegistry

structure ProviderStreams where
  registry : ProviderRegistry := {}
  panicked : Bool := false

inductive StreamStep where
  | registry (step : ProviderStep)
  | request (providerUuid : Nat) (request : ProviderRequest)

namespace ProviderStreams

variable (streams : ProviderStreams)

/-- A stream has a uuid once its call of `register_signals` has returned one. -/
def step : StreamStep → Option ProviderStreams
  | .registry step => (streams.registry.step step).map ({ streams with registry := · })
  | .request providerUuid request =>
    match streams.registry.calls providerUuid with
    | some ⟨.registerSignals, _, _, .returned (.ok ())⟩ =>
      let panics := (streams.registry.answer providerUuid request).isNone
      some { streams with panicked := streams.panicked || panics }
    | _ => none

/-- Requests are made while the provider is available, and the housekeeping finds no available
provider whose permissions have expired. -/
def Available : StreamStep → Prop
  | .request providerUuid _ => providerUuid ∉ streams.registry.closed
  | .registry (.cleanup .signal now) => ∀ subscription ∈ streams.registry.subscriptions .signal,
    subscription.provider ∉ streams.registry.closed → subscription.permissions.isExpired now = false
  | _ => True

end ProviderStreams

namespace ProviderRegistry

def Listed (registry : ProviderRegistry) : Prop :=
  ∀ uuid call, registry.calls uuid = some call → call.call = .registerSignals →
    call.progress = .returned (.ok ()) → uuid ∉ registry.closed →
      ∃ sub ∈ registry.subscriptions .signal, sub.provider = uuid

variable {registry after : ProviderRegistry} {number uuid : Nat} {call : RegistrationCall}

theorem Listed.setCall (listed : registry.Listed)
    (notReturned : call.progress ≠ .returned (.ok ())) : (registry.setCall number call).Listed := by
  intro uuid found isFound
  refine of_update_some (fun found : RegistrationCall => found.call = .registerSignals →
    found.progress = .returned (.ok ()) → _) ?_ (listed uuid found) isFound
  intro _ isReturned
  exact absurd isReturned notReturned

theorem Listed.register {vssIds perms call} (listed : registry.Listed) :
    ((registry.setCall number ⟨call, vssIds, perms, .returned (.ok ())⟩).setSubscriptions
      call.kind (registry.registered number vssIds perms call)).Listed := by
  intro uuid found isFound isRegistered isReturned isOpen
  simp only [setSubscriptions, update_apply]
  by_cases same : uuid = number
  · subst same
    cases (update_self ..).symm.trans isFound
    subst isRegistered
    exact ⟨_, mem_append_right _ (mem_singleton_self _), rfl⟩
  · have wasIn := listed uuid found ((update_of_ne same ..).symm.trans isFound) isRegistered
      isReturned isOpen
    split
    next isSignal =>
      obtain ⟨sub, isIn, isProvider⟩ := wasIn
      rw [isSignal] at isIn
      cases call with
      | extendSignals _ =>
        refine ⟨_, mem_map_of_mem isIn, ?_⟩
        split
        · exact isProvider
        · exact isProvider
      | _ => exact ⟨sub, mem_append_left _ isIn, isProvider⟩
    next => exact wasIn

theorem Listed.step {taking} {panicked : Bool} (listed : registry.Listed)
    (available : ProviderStreams.Available ⟨registry, panicked⟩ (.registry taking))
    (taken : registry.step taking = some after) : after.Listed := by
  cases taking with
  | call number call vssIds perms =>
    obtain ⟨-, taken⟩ := ite_none_left_eq_some.mp taken
    cases taken
    exact listed.setCall nofun
  | authorize number db now =>
    simp only [ProviderRegistry.step] at taken
    split at taken
    · cases taken
      refine listed.setCall ?_
      dsimp only
      split <;> exact (by cases ·)
    · cases taken
  | check number =>
    simp only [ProviderRegistry.step] at taken
    split at taken
    · cases taken
      refine listed.setCall ?_
      dsimp only
      split <;> exact (by cases ·)
    · cases taken
  | register number =>
    simp only [ProviderRegistry.step] at taken
    split at taken
    · cases taken
      exact listed.register
    · cases taken
  | close p =>
    cases taken
    intro uuid call isCall isRegistered isReturned isOpen
    exact listed uuid call isCall isRegistered isReturned fun wasClosed =>
      isOpen (Finset.mem_insert_of_mem wasClosed)
  | cleanup kind now =>
    cases taken
    intro uuid call isCall isRegistered isReturned isOpen
    obtain ⟨sub, isIn, rfl⟩ := listed uuid call isCall isRegistered isReturned isOpen
    cases kind with
    | actuation => exact ⟨sub, isIn, rfl⟩
    | signal =>
      refine ⟨sub, mem_filter.mpr ⟨isIn, decide_eq_true ⟨isOpen, ?_⟩⟩, rfl⟩
      exact available sub isIn isOpen

theorem answer_isSome (isIn : ∃ sub ∈ registry.subscriptions .signal, sub.provider = uuid)
    (request : ProviderRequest) : (registry.answer uuid request).isNone = false := by
  obtain ⟨sub, isIn, isProvider⟩ := isIn
  have isKeySet : (registry.keySet uuid).isSome := by
    rw [keySet, isSome_map, find?_isSome]
    exact ⟨sub, isIn, decide_eq_true isProvider⟩
  cases request with
  | publishProviderError => simpa [answer, publishProviderError] using isKeySet
  | publishValues dataPoints => simpa [answer, validProviderPublishSignals] using isKeySet

end ProviderRegistry

namespace ProviderStreams

def Served (streams : ProviderStreams) : Prop := streams.registry.Listed ∧ streams.panicked = false

variable {streams after : ProviderStreams} {taking : StreamStep}

theorem Served.step (served : streams.Served) (available : streams.Available taking)
    (taken : streams.step taking = some after) : after.Served := by
  cases taking with
  | registry step =>
    obtain ⟨registry, stepped, rfl⟩ := map_eq_some_iff.mp taken
    exact ⟨served.1.step available stepped, served.2⟩
  | request uuid request =>
    simp only [ProviderStreams.step] at taken
    split at taken
    next isCall =>
      cases taken
      have isAnswered := ProviderRegistry.answer_isSome
        (served.1 uuid _ isCall rfl rfl available) request
      exact ⟨served.1, by simp only [served.2, isAnswered, Bool.or_false]⟩
    · cases taken

/-- While the housekeeping keeps the available providers, no request of one of them finds it
missing from the registry. -/
theorem reachable_answers
    (reachable : ((ofStep {} step).restrict Available).Reachable streams) :
    streams.panicked = false := by
  have served : streams.Served := by
    refine reachable.preserves ⟨fun _ _ isCall => (nomatch isCall), rfl⟩ ?_
    intro before taking after served available taken
    exact served.step available taken
  exact served.2

theorem registered_provider_answered : ∃ streams,
    ((ofStep {} step).restrict Available).Reachable streams ∧
      streams.registry.keySet 0 = some [0] ∧ streams.panicked = false := by
  have called := (.initial rfl : ((ofStep {} step).restrict Available).Reachable
    {}).allowedStep (.registry (.call 0 .registerSignals [0] Database.everything)) trivial rfl
  have authorized := called.allowedStep (.registry (.authorize 0 SubscribingBroker.gear 0))
    trivial rfl
  have checked := authorized.allowedStep (.registry (.check 0)) trivial rfl
  have registered := checked.allowedStep (.registry (.register 0)) trivial rfl
  have kept := registered.allowedStep (.registry (.cleanup .signal 0)) (by
    rintro _ (_ | ⟨_, ⟨⟩⟩) _
    rfl) rfl
  have requested := kept.allowedStep (.request 0 .publishProviderError)
    (Finset.notMem_empty _) rfl
  exact ⟨_, requested, rfl, reachable_answers requested⟩

theorem removed_provider_panics : ∃ streams,
    (ofStep {} step).Reachable streams ∧ streams.panicked = true :=
  exists_reachable [.registry (.call 0 .registerSignals [] Database.everything),
    .registry (.check 0), .registry (.register 0), .registry (.close 0),
    .registry (.cleanup .signal 0), .request 0 .publishProviderError] ⟨_, rfl, rfl⟩

end ProviderStreams

end ScoreIntegration.Databroker
