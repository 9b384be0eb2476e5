import ScoreIntegration.Containers.OptionMap
import ScoreIntegration.Lola.ServiceDiscoveryClient

/-!
# What happens to a search

Between the rounds of `CallHandlers` a search stays as it is, up to its watches, or it is
removed.
-/

namespace ScoreIntegration.Lola

open Containers Function

namespace ServiceDiscoveryClient

/-- Every search of the client afterwards was there before, for the same
instances and with the same handles. -/
def KeepsSearches (before after : ServiceDiscoveryClient) : Prop :=
  ∀ key request, after.searchRequests key = some request →
    ∃ earlier, before.searchRequests key = some earlier ∧
      earlier.enrichedInstanceIdentifier = request.enrichedInstanceIdentifier ∧
      earlier.handles = request.handles

section KeepsSearches

variable {pre mid s' : ServiceDiscoveryClient} {k : FindServiceHandle}

theorem KeepsSearches.of_eq (keep : s'.searchRequests = pre.searchRequests) :
    KeepsSearches pre s' := by
  intro k req found
  rw [keep] at found
  exact ⟨req, found, rfl, rfl⟩

theorem KeepsSearches.trans (first : KeepsSearches pre mid)
    (second : KeepsSearches mid s') : KeepsSearches pre s' := by
  intro k req found
  obtain ⟨between, foundBetween, sameIdentifier, sameHandles⟩ := second k req found
  obtain ⟨old, foundEarlier, earlierIdentifier, earlierHandles⟩ := first k between foundBetween
  exact ⟨old, foundEarlier, earlierIdentifier.trans sameIdentifier,
    earlierHandles.trans sameHandles⟩

theorem KeepsSearches.of_update {req} (found : pre.searchRequests k = some req) {wds}
    (updated : s'.searchRequests = update pre.searchRequests k
      (some { req with watchDescriptors := wds })) : KeepsSearches pre s' := by
  intro o found' foundAfter
  rw [updated] at foundAfter
  by_cases same : o = k
  · subst same
    rw [update_self, Option.some.injEq] at foundAfter
    subst foundAfter
    exact ⟨req, found, rfl, rfl⟩
  · rw [update_of_ne same] at foundAfter
    exact ⟨found', foundAfter, rfl, rfl⟩

theorem KeepsSearches.of_erase (updated : s'.searchRequests =
      update pre.searchRequests k none) : KeepsSearches pre s' := by
  intro o req foundAfter
  rw [updated] at foundAfter
  by_cases same : o = k
  · subst same
    rw [update_self] at foundAfter
    cases foundAfter
  · rw [update_of_ne same] at foundAfter
    exact ⟨req, foundAfter, rfl, rfl⟩

end KeepsSearches

section Calls

variable {c s' : ServiceDiscoveryClient} {wd : InotifyWatchDescriptor}
  {k : FindServiceHandle} {keys : List FindServiceHandle}
  {ident : EnrichedInstanceIdentifier} {handles : Finset HandleType} {w : Watch}
  {impacted : List FindServiceHandle} {events : List InotifyEvent}
  {crawled : Option FlagFileCrawler.Crawled}

theorem eraseWatch_searchRequests (ok : c.eraseWatch wd w = .ok s') :
    s'.searchRequests = c.searchRequests := by
  unfold eraseWatch at ok
  split at ok
  · cases ok
  · cases ok
    rfl

theorem keepsSearches_linkWatchWithSearchRequest (ok : c.linkWatchWithSearchRequest wd k = .ok s') :
    KeepsSearches c s' := by
  unfold linkWatchWithSearchRequest at ok
  split at ok
  next w req foundW found =>
    cases ok
    exact .of_update found rfl
  · cases ok

theorem keepsSearches_unlinkWatchWithSearchRequest {req} (found : c.searchRequests k = some req)
    (ok : c.unlinkWatchWithSearchRequest wd w k req = .ok s') : KeepsSearches c s' := by
  unfold unlinkWatchWithSearchRequest at ok
  split at ok
  · cases ok
    exact .of_update found rfl
  · cases ok

theorem keepsSearches_releaseWatch (ok : c.releaseWatch k wd = .ok s') : KeepsSearches c s' := by
  unfold releaseWatch at ok
  split at ok
  next w req foundW found =>
    obtain ⟨unlinked, unlink, rest⟩ := exists_of_bind_eq_ok ok
    have kept := keepsSearches_unlinkWatchWithSearchRequest found unlink
    refine kept.trans ?_
    split at rest
    · split at rest
      · exact .of_eq ((eraseWatch_searchRequests rest).trans rfl)
      · cases rest
        exact .of_eq rfl
    · cases rest
      exact .of_eq rfl
  · cases ok
    exact .of_eq rfl

theorem keepsSearches_releaseWatches {wds}
    (ok : c.releaseWatches k wds = .ok s') : KeepsSearches c s' := by
  induction wds generalizing c with
  | nil =>
    cases ok
    exact .of_eq rfl
  | cons wd wds ih =>
    obtain ⟨released, release, rest⟩ := exists_of_bind_eq_ok ok
    exact (keepsSearches_releaseWatch release).trans (ih rest)

theorem keepsSearches_transferObsoleteSearchRequest
    (ok : c.transferObsoleteSearchRequest k = .ok s') : KeepsSearches c s' := by
  unfold transferObsoleteSearchRequest at ok
  split at ok
  · cases ok
    exact .of_eq rfl
  · obtain ⟨released, release, rest⟩ := exists_of_bind_eq_ok ok
    cases rest
    exact (keepsSearches_releaseWatches release).trans (.of_erase rfl)

theorem keepsSearches_transferEach (ok : c.transferEach keys = .ok s') : KeepsSearches c s' := by
  induction keys generalizing c with
  | nil =>
    cases ok
    exact .of_eq rfl
  | cons k keys ih =>
    obtain ⟨transferred, transfer, rest⟩ := exists_of_bind_eq_ok ok
    exact (keepsSearches_transferObsoleteSearchRequest transfer).trans (ih rest)

theorem keepsSearches_transferObsoleteSearchRequests
    (ok : c.transferObsoleteSearchRequests = .ok s') : KeepsSearches c s' := by
  obtain ⟨transferred, transfer, rest⟩ := exists_of_bind_eq_ok ok
  cases rest
  exact (keepsSearches_transferEach transfer).trans (.of_eq rfl)

theorem keepsSearches_stopFindService (c : ServiceDiscoveryClient) (k : FindServiceHandle) :
    KeepsSearches c (c.stopFindService k) :=
  .of_eq rfl

theorem keepsSearches_storeWatches {wds}
    (ok : c.storeWatches k wds = .ok s') : KeepsSearches c s' := by
  induction wds generalizing c with
  | nil =>
    cases ok
    exact .of_eq rfl
  | cons first wds ih =>
    obtain ⟨linked, link, rest⟩ := exists_of_bind_eq_ok ok
    have st : KeepsSearches c (c.storeWatch first.1 first.2) := .of_eq rfl
    exact (st.trans (keepsSearches_linkWatchWithSearchRequest link)).trans (ih rest)

theorem keepsSearches_linkSearches (ok : c.linkSearches wd keys = .ok s') : KeepsSearches c s' := by
  induction keys generalizing c with
  | nil =>
    cases ok
    exact .of_eq rfl
  | cons k keys ih =>
    obtain ⟨linked, link, rest⟩ := exists_of_bind_eq_ok ok
    exact (keepsSearches_linkWatchWithSearchRequest link).trans (ih rest)

theorem keepsSearches_onInstanceDirectoryCreated {event}
    (ok : c.onInstanceDirectoryCreated w event = .ok s') :
    KeepsSearches c s' := by
  unfold onInstanceDirectoryCreated at ok
  split at ok
  · cases ok
    exact .of_eq rfl
  · split at ok
    · cases ok
    next wd ident known _ =>
      obtain ⟨linked, link, rest⟩ := exists_of_bind_eq_ok ok
      cases rest
      have st : KeepsSearches c (c.storeWatch wd ident) := .of_eq rfl
      exact (st.trans (keepsSearches_linkSearches link)).trans (.of_eq rfl)
    · cases ok

theorem updateKnownInstances_searchRequests (name : List Char)
    (change : KnownInstancesContainer → KnownInstancesContainer) :
    (c.updateKnownInstances name change).searchRequests = c.searchRequests := by
  unfold updateKnownInstances
  split <;> rfl

theorem keepsSearches_handleDeletionEvents
    (ok : c.handleDeletionEvents impacted events = .ok (s', keys)) :
    KeepsSearches c s' := by
  induction events generalizing c impacted with
  | nil =>
    cases ok
    exact .of_eq rfl
  | cons event events ih =>
    rw [handleDeletionEvents] at ok
    split at ok
    · exact ih ok
    · split at ok
      · split at ok
        · exact KeepsSearches.trans (.of_eq (updateKnownInstances_searchRequests _ _)) (ih ok)
        · cases ok
      · exact ih ok

theorem keepsSearches_handleCreationEvents
    (ok : c.handleCreationEvents impacted events = .ok (s', keys)) :
    KeepsSearches c s' := by
  induction events generalizing c impacted with
  | nil =>
    cases ok
    exact .of_eq rfl
  | cons event events ih =>
    rw [handleCreationEvents] at ok
    split at ok
    · exact ih ok
    · split at ok
      · exact KeepsSearches.trans (.of_eq (updateKnownInstances_searchRequests _ _)) (ih ok)
      · obtain ⟨created, create, rest⟩ := exists_of_bind_eq_ok ok
        exact (keepsSearches_onInstanceDirectoryCreated create).trans (ih rest)

theorem keepsSearches_handleEvents {expectedEvents creations}
    (ok : c.handleEvents expectedEvents = .ok (s', keys, creations)) :
    KeepsSearches c s' := by
  obtain ⟨transferred, transfer, rest⟩ := exists_of_bind_eq_ok ok
  have kept := keepsSearches_transferObsoleteSearchRequests transfer
  split at rest
  · cases rest
    exact kept
  · split at rest
    · cases rest
    · obtain ⟨⟨deleted, impacted⟩, delete, res⟩ := exists_of_bind_eq_ok rest
      cases res
      exact kept.trans (keepsSearches_handleDeletionEvents delete)

/-! ## New searches and handler calls -/

def withSearch (client : ServiceDiscoveryClient) (key : FindServiceHandle)
    (identifier : EnrichedInstanceIdentifier) (handles : Finset HandleType) :
    ServiceDiscoveryClient :=
  { client with
    searchRequests := Function.update client.searchRequests key (some ⟨[], identifier, handles⟩) }

theorem withSearch_searchRequests (k : FindServiceHandle)
    (ident : EnrichedInstanceIdentifier) (handles : Finset HandleType) :
    (c.withSearch k ident handles).searchRequests =
      update c.searchRequests k (some ⟨[], ident, handles⟩) :=
  rfl

theorem keepsSearches_transferNewSearchRequest {crawled}
    (ok : c.transferNewSearchRequest k ident crawled handles =
      .ok s') : KeepsSearches (c.withSearch k ident handles) s' := by
  unfold transferNewSearchRequest at ok
  split at ok
  · cases ok
  · obtain ⟨st, store, rest⟩ := exists_of_bind_eq_ok ok
    cases rest
    exact (keepsSearches_storeWatches store).trans (.of_eq rfl)

theorem startNewSearch_spec (ok : c.startNewSearch k ident crawled = .ok (some (s', handles))) :
    KeepsSearches (c.withSearch k ident handles) s' ∧
      ∃ known, getKnownHandles ident known = .ok handles := by
  cases crawled with
  | none => cases ok
  | some crawled =>
    obtain ⟨found, known, rest⟩ := exists_of_bind_eq_ok ok
    obtain ⟨transferred, transfer, res⟩ := exists_of_bind_eq_ok rest
    cases res
    exact ⟨keepsSearches_transferNewSearchRequest transfer, _, known⟩

theorem startFindService_spec (ok : c.startFindService k ident crawled = .ok (some (s', handles))) :
    KeepsSearches (c.withSearch k ident handles) s' ∧
      ∃ known, getKnownHandles ident known = .ok handles := by
  unfold startFindService at ok
  split at ok
  · obtain ⟨found, known, rest⟩ := exists_of_bind_eq_ok ok
    obtain ⟨watches, matching, rest⟩ := exists_of_bind_eq_ok rest
    obtain ⟨transferred, transfer, res⟩ := exists_of_bind_eq_ok rest
    cases res
    exact ⟨keepsSearches_transferNewSearchRequest transfer, _, known⟩
  · exact startNewSearch_spec ok
  · exact startNewSearch_spec ok

theorem callHandler_none (ok : c.callHandler k = .ok (s', none)) : s' = c := by
  unfold callHandler at ok
  split at ok
  · cases ok
    rfl
  · split at ok
    · cases ok
      rfl
    · obtain ⟨newHandles, known, rest⟩ := exists_of_bind_eq_ok ok
      split at rest
      · cases rest
        rfl
      · cases rest

theorem callHandler_some (ok : c.callHandler k = .ok (s', some handles)) :
    ∃ req, c.searchRequests k = some req ∧ req.handles ≠ handles ∧
      getKnownHandles req.enrichedInstanceIdentifier c.knownInstances = .ok handles ∧
      s'.searchRequests = update c.searchRequests k (some { req with handles := handles }) := by
  unfold callHandler at ok
  split at ok
  · cases ok
  next req found =>
    split at ok
    · cases ok
    · obtain ⟨newHandles, known, rest⟩ := exists_of_bind_eq_ok ok
      split at rest
      · cases rest
      next changed =>
        cases rest
        exact ⟨req, found, changed, known, rfl⟩

theorem getKnownHandles_of_instanceId {inst} (single : ident.instanceId = some inst)
    {known} (found : getKnownHandles ident known = .ok handles) :
    handles = ∅ ∨ handles = {⟨ident.instanceIdentifier, inst⟩} := by
  unfold getKnownHandles at found
  split at found
  · cases found
    simp only [KnownInstancesContainer.getKnownHandles, single]
    split
    · exact .inr rfl
    · exact .inl rfl
  · cases found

end Calls

end ServiceDiscoveryClient

end ScoreIntegration.Lola
