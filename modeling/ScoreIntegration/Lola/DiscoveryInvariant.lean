import ScoreIntegration.Lola.DiscoverySystem

/-!
# Watches and searches in every run

Every step keeps the bookkeeping, every watch has a search, and a search for any instance
has the watches of all instance directories of its service, except those that are still to
be reported.
-/

namespace ScoreIntegration.Lola

open Containers List Option

namespace ServiceDiscoveryClient

structure SameWatches (client after : ServiceDiscoveryClient) : Prop where
  bookkeeping : ∀ {inotify}, client.Bookkeeping inotify → after.Bookkeeping inotify
  watchLists : ∀ descriptor key, after.WatchLists descriptor key ↔ client.WatchLists descriptor key
  watches : ∀ descriptor directory,
    after.Watches descriptor directory ↔ client.Watches descriptor directory
  searches : ∀ key identifier, after.Searches key identifier ↔ client.Searches key identifier

section SameWatches

variable {c mid s' : ServiceDiscoveryClient} {k : FindServiceHandle}

theorem SameWatches.of_maps (searchRequests : s'.searchRequests = c.searchRequests)
    (watches : s'.watches = c.watches)
    (watchedIdentifiers : s'.watchedIdentifiers = c.watchedIdentifiers) :
    c.SameWatches s' where
  bookkeeping kept := kept.of_maps kept.descriptor searchRequests watches watchedIdentifiers
  watchLists wd k := by
    unfold WatchLists
    rw [watches]
  watches wd dir := by
    unfold Watches
    rw [watches]
  searches k ident := by
    unfold Searches
    rw [searchRequests]

theorem SameWatches.trans (first : c.SameWatches mid)
    (second : mid.SameWatches s') : c.SameWatches s' where
  bookkeeping kept := second.bookkeeping (first.bookkeeping kept)
  watchLists wd k := (second.watchLists wd k).trans (first.watchLists wd k)
  watches wd dir := (second.watches wd dir).trans (first.watches wd dir)
  searches k ident := (second.searches k ident).trans (first.searches k ident)

theorem SameWatches.of_handles {req}
    (found : c.searchRequests k = some req) (handles : Finset HandleType)
    (searchRequests : s'.searchRequests = Function.update c.searchRequests
      k (some { req with handles := handles }))
    (watches : s'.watches = c.watches)
    (watchedIdentifiers : s'.watchedIdentifiers = c.watchedIdentifiers) :
    c.SameWatches s' := by
  have watchLists : ∀ wd k', s'.WatchLists wd k' ↔ c.WatchLists wd k' := by
    simp [WatchLists, watches]
  have sameWatches : ∀ wd dir, s'.Watches wd dir ↔ c.Watches wd dir := by
    simp [Watches, watches]
  refine ⟨fun {inotify} kept => ?_, watchLists, sameWatches, ?_⟩
  · refine kept.of_links ?_ sameWatches watchedIdentifiers ?_ ?_
    · intro wd k'
      rw [watchLists, kept.symmetric]
      simp only [SearchLists, searchRequests]
      refine (exists_update_some_iff found ?_).symm
      exact Iff.rfl
    · simp only [watches]
      exact kept.searchesNodup
    · have nodup := kept.watchesNodup found
      simp only [searchRequests]
      intro k' o st
      refine of_update_some (fun req : SearchRequest => req.watchDescriptors.Nodup)
        ?_ kept.watchesNodup st
      exact nodup
  · simp only [Searches, searchRequests]
    exact fun _ _ => exists_update_some_iff found Iff.rfl

theorem sameWatches_updateKnownInstances (name : List Char)
    (change : KnownInstancesContainer → KnownInstancesContainer) :
    c.SameWatches (c.updateKnownInstances name change) := by
  unfold updateKnownInstances
  split
  · exact .of_maps rfl rfl rfl
  · exact .of_maps rfl rfl rfl

theorem sameWatches_callHandler {called}
    (ok : c.callHandler k = .ok (s', called)) : c.SameWatches s' := by
  unfold callHandler at ok
  split at ok
  · cases ok
    exact .of_maps rfl rfl rfl
  next req found =>
    split at ok
    · cases ok
      exact .of_maps rfl rfl rfl
    · obtain ⟨newHandles, -, rest⟩ := exists_of_bind_eq_ok ok
      split at rest
      · cases rest
        exact .of_maps rfl rfl rfl
      · cases rest
        exact .of_handles found newHandles rfl rfl rfl

theorem sameWatches_handleDeletionEvents {impacted keys events}
    (ok : c.handleDeletionEvents impacted events = .ok (s', keys)) :
    c.SameWatches s' := by
  induction events generalizing c impacted with
  | nil =>
    cases ok
    exact .of_maps rfl rfl rfl
  | cons event events ih =>
    rw [handleDeletionEvents] at ok
    split at ok
    · exact ih ok
    · split at ok
      · split at ok
        · exact (sameWatches_updateKnownInstances _ _).trans (ih ok)
        · cases ok
      · exact ih ok

end SameWatches

end ServiceDiscoveryClient

namespace DiscoverySystem

structure Invariant (system : DiscoverySystem) : Prop where
  bookkeeping : system.client.Bookkeeping system.files.inotify
  searched : system.client.AllSearched
  own : ∀ {key identifier}, system.client.Searches key identifier →
    ∃ descriptor, system.client.Watches descriptor identifier.directory ∧
      system.client.WatchLists descriptor key
  service : ∀ {descriptor key serviceId}, system.client.Watches descriptor ⟨serviceId, none⟩ →
    system.client.WatchLists descriptor key →
    ∃ identifier, system.client.Searches key identifier ∧ identifier.directory = ⟨serviceId, none⟩
  children : ∀ {key identifier descriptor serviceId instanceId},
    system.client.Searches key identifier →
    identifier.directory = ⟨serviceId, none⟩ →
    system.client.Watches descriptor ⟨serviceId, some instanceId⟩ →
    system.client.WatchLists descriptor key ∨ system.CreationPending serviceId instanceId
  exist : ∀ {descriptor serviceId instanceId},
    system.client.Watches descriptor ⟨serviceId, some instanceId⟩ →
    (serviceId, instanceId) ∈ system.files.directories
  covered : ∀ {descriptor serviceId instanceId},
    system.client.Watches descriptor ⟨serviceId, none⟩ →
    (serviceId, instanceId) ∈ system.files.directories →
    (∃ child, system.client.Watches child ⟨serviceId, some instanceId⟩) ∨
      system.CreationPending serviceId instanceId
  fresh : ∀ {key identifier}, system.client.Searches key identifier → key < system.nextFreeUid
  quality : ∀ {key identifier}, system.client.Searches key identifier →
    identifier.qualityType ≠ none

theorem invariant_start : start.Invariant := by
  have noSearch : ∀ {k ident}, ¬ ServiceDiscoveryClient.start.Searches k ident := by
    rintro k ident ⟨req, found, -⟩
    cases found
  have noWatch : ∀ {wd dir}, ¬ ServiceDiscoveryClient.start.Watches wd dir := by
    rintro wd dir ⟨w, found, -⟩
    cases found
  exact {
    bookkeeping := ServiceDiscoveryClient.bookkeeping_start _
    searched := fun _ _ watched => absurd watched noWatch
    own := fun found => absurd found noSearch
    service := fun watched => absurd watched noWatch
    children := fun found => absurd found noSearch
    exist := fun watched => absurd watched noWatch
    covered := fun watched => absurd watched noWatch
    fresh := fun found => absurd found noSearch
    quality := fun found => absurd found noSearch }

section Steps

variable {sys s' : DiscoverySystem} {ident : EnrichedInstanceIdentifier}
  {sid : LolaServiceId} {mid : ServiceDiscoveryClient}

variable (inv : sys.Invariant)
include inv

theorem Invariant.serviceWatch {k} (found : sys.client.Searches k ident)
    (anyInst : ident.directory = ⟨sid, none⟩) :
    ∃ wd, sys.client.Watches wd ⟨sid, none⟩ ∧ sys.client.WatchLists wd k := by
  obtain ⟨wd, watched, lists⟩ := inv.own found
  exact ⟨wd, anyInst ▸ watched, lists⟩

theorem Invariant.watch_unique {one o dir} (watchesOne : sys.client.Watches one dir)
    (watchesOther : sys.client.Watches o dir) : one = o :=
  some.inj ((inv.bookkeeping.descriptor watchesOne).symm.trans
    (inv.bookkeeping.descriptor watchesOther))

theorem Invariant.of_sameWatches (same : sys.client.SameWatches s'.client)
    (sameFiles : s'.files = sys.files) (laterUid : sys.nextFreeUid ≤ s'.nextFreeUid)
    (pending : ∀ {wd sid inst}, sys.client.Watches wd ⟨sid, none⟩ → sys.CreationPending sid inst →
      s'.CreationPending sid inst) : s'.Invariant where
  bookkeeping := sameFiles ▸ same.bookkeeping inv.bookkeeping
  searched wd dir watched := by
    obtain ⟨k, lists⟩ := inv.searched wd dir ((same.watches _ _).mp watched)
    exact ⟨k, (same.watchLists _ _).mpr lists⟩
  own found := by
    obtain ⟨wd, watched, lists⟩ := inv.own ((same.searches _ _).mp found)
    exact ⟨wd, (same.watches _ _).mpr watched, (same.watchLists _ _).mpr lists⟩
  service watched lists := by
    obtain ⟨ident, found, anyInst⟩ := inv.service
      ((same.watches _ _).mp watched) ((same.watchLists _ _).mp lists)
    exact ⟨ident, (same.searches _ _).mpr found, anyInst⟩
  children found anyInst watched := by
    have foundBefore := (same.searches _ _).mp found
    obtain ⟨wd, watchedService, -⟩ := inv.serviceWatch foundBefore anyInst
    rcases inv.children foundBefore anyInst ((same.watches _ _).mp watched) with lists | wait
    · exact .inl ((same.watchLists _ _).mpr lists)
    · exact .inr (pending watchedService wait)
  exist watched := sameFiles ▸ inv.exist ((same.watches _ _).mp watched)
  covered watched exists_ := by
    have watchedBefore := (same.watches _ _).mp watched
    rcases inv.covered watchedBefore (sameFiles ▸ exists_) with
      ⟨child, watchedChild⟩ | wait
    · exact .inl ⟨child, (same.watches _ _).mpr watchedChild⟩
    · exact .inr (pending watchedBefore wait)
  fresh found := Nat.lt_of_lt_of_le (inv.fresh ((same.searches _ _).mp found)) laterUid
  quality found := inv.quality ((same.searches _ _).mp found)

theorem Invariant.grow {files} (grows : sys.files.Grows files) :
    Invariant { sys with files := files } := by
  have pending : ∀ {sid inst}, sys.CreationPending sid inst →
      CreationPending { sys with files := files } sid inst := by
    rintro sid inst ⟨wd, live, event, mem, reports⟩
    refine ⟨wd, grows.descriptors live, event, ?_, reports⟩
    rcases mem_append.mp mem with read | queued
    · exact mem_append_left _ read
    · exact mem_append_right _ (grows.queue queued)
  exact { inv with
    bookkeeping := inv.bookkeeping.of_maps
      (fun watched => grows.descriptors (inv.bookkeeping.descriptor watched))
      rfl rfl rfl
    children := fun found anyInst watched => (inv.children found anyInst watched).imp_right pending
    exist := fun watched => grows.directories (inv.exist watched)
    covered := by
      intro wd sid inst watched exists_
      have live := inv.bookkeeping.descriptor watched
      rcases grows.created exists_ live with old | ⟨event, queued, reports⟩
      · exact (inv.covered watched old).imp_right pending
      · exact .inr ⟨wd, grows.descriptors live, event, mem_append_right _ queued, reports⟩ }

/-- A search starts with watches of its own directory and, if it asks for any
instance, of every known directory of its service. -/
theorem Invariant.startSearch {crawled c} (history : List DiscoveryRecord)
    (kept : c.Bookkeeping sys.files.inotify)
    (started : sys.client.SearchStarted sys.nextFreeUid ident crawled c)
    (live : ∀ w ∈ crawled.watchDescriptors, sys.files.inotify.descriptors w.2.directory = some w.1)
    (own : ∃ w ∈ crawled.watchDescriptors, w.2.directory = ident.directory)
    (only : ∀ w ∈ crawled.watchDescriptors, ∀ sid, w.2.directory = ⟨sid, none⟩ →
      ident.directory = ⟨sid, none⟩)
    (exist : ∀ w ∈ crawled.watchDescriptors, ∀ sid inst, w.2.directory = ⟨sid, some inst⟩ →
      (sid, inst) ∈ sys.files.directories)
    (linked : ∀ {wd sid inst}, ident.directory = ⟨sid, none⟩ →
      sys.client.Watches wd ⟨sid, some inst⟩ →
      (∃ w ∈ crawled.watchDescriptors, w.1 = wd) ∨ sys.CreationPending sid inst)
    (covered : ∀ {sid inst}, ident.directory = ⟨sid, none⟩ → (sid, inst) ∈ sys.files.directories →
      (∃ child, c.Watches child ⟨sid, some inst⟩) ∨ sys.CreationPending sid inst)
    (q : ident.qualityType ≠ none) :
    Invariant { sys with
      client := c
      nextFreeUid := sys.nextFreeUid + 1
      history := history } := by
  have lists : ∀ {wd k}, sys.client.WatchLists wd k → c.WatchLists wd k :=
    fun listed => (started.watchLists _ _).mpr (.inl listed)
  have watches : ∀ {wd dir}, sys.client.Watches wd dir → c.Watches wd dir :=
    fun watched => (started.watches _ _).mpr (.inl watched)
  have ownLists : ∀ w ∈ crawled.watchDescriptors, c.WatchLists w.1 sys.nextFreeUid :=
    fun w mem => (started.watchLists _ _).mpr (.inr ⟨rfl, w, mem, rfl⟩)
  have ownWatches : ∀ w ∈ crawled.watchDescriptors, c.Watches w.1 w.2.directory :=
    fun w mem => (started.watches _ _).mpr (.inr ⟨w, mem, rfl, rfl⟩)
  refine ⟨kept, ?_, ?_, ?_, ?_, ?_, ?_, ?_, ?_⟩
  · intro wd dir watched
    rcases (started.watches _ _).mp watched with
      old | ⟨w, mem, rfl, rfl⟩
    · exact (inv.searched wd dir old).imp fun _ => lists
    · exact ⟨_, ownLists w mem⟩
  · intro k o found
    rcases (started.searches _ _).mp found with old | ⟨rfl, rfl⟩
    · grind [inv.own old]
    · obtain ⟨w, mem, isOwn⟩ := own
      exact ⟨w.1, isOwn ▸ ownWatches w mem, ownLists w mem⟩
  · intro wd k sid watched listed
    have watchedLive : sys.files.inotify.descriptors ⟨sid, none⟩ =
        some wd := kept.descriptor watched
    rcases (started.watchLists _ _).mp listed with
      old | ⟨rfl, w, mem, rfl⟩
    · obtain ⟨found, foundW, -⟩ := id old
      have watchedBefore := inv.bookkeeping.directory_eq watchedLive ⟨found, foundW, rfl⟩
      grind [inv.service ⟨found, foundW, watchedBefore⟩ old, started.searches]
    · have sameDirectory := sys.files.inotify.descriptor_injective (live w mem) watchedLive
      exact ⟨ident, (started.searches _ _).mpr (.inr ⟨rfl, rfl⟩), only w mem sid sameDirectory⟩
  · intro k o wd sid inst found anyInst watched
    rcases (started.watches _ _).mp watched with
      old | ⟨w, mem, rfl, isDirectory⟩
    · rcases (started.searches _ _).mp found with foundEarlier | ⟨rfl, rfl⟩
      · exact (inv.children foundEarlier anyInst old).imp_left lists
      · refine (linked anyInst old).imp_left ?_
        rintro ⟨w, mem, rfl⟩
        exact ownLists w mem
    · rcases (started.searches _ _).mp found with foundEarlier | ⟨rfl, rfl⟩
      · -- The directory was watched already, or its report is pending.
        obtain ⟨_, watchedService, -⟩ := inv.serviceWatch foundEarlier anyInst
        rcases inv.covered watchedService
          (exist w mem _ _ isDirectory) with ⟨child, watchedChild⟩ | wait
        · have liveChild := inv.bookkeeping.descriptor watchedChild
          rw [← isDirectory, live w mem, some.injEq] at liveChild
          rw [← liveChild] at watchedChild
          exact (inv.children foundEarlier anyInst watchedChild).imp_left lists
        · exact .inr wait
      · exact .inl (ownLists w mem)
  · intro wd sid inst watched
    rcases (started.watches _ _).mp watched with
      old | ⟨w, mem, rfl, isDirectory⟩
    · exact inv.exist old
    · exact exist w mem _ _ isDirectory
  · intro wd sid inst watched exists_
    rcases (started.watches _ _).mp watched with
      old | ⟨w, mem, rfl, isDirectory⟩
    · exact (inv.covered old exists_).imp_left fun ⟨child, isChild⟩ => ⟨child, watches isChild⟩
    · exact covered (only w mem sid isDirectory) exists_
  · intro k o found
    rcases (started.searches _ _).mp found with old | ⟨rfl, -⟩
    · exact Nat.lt_succ_of_lt (inv.fresh old)
    · exact Nat.lt_succ_self _
  · intro k o found
    rcases (started.searches _ _).mp found with old | ⟨-, rfl⟩
    · exact inv.quality old
    · exact q

theorem Invariant.release {ended : FindServiceHandle → Prop}
    (released : sys.client.Releases (fun _ k => ended k) ended mid)
    (same : mid.SameWatches s'.client) (kept : s'.client.Bookkeeping s'.files.inotify)
    (sameDirectories : s'.files.directories = sys.files.directories)
    (sameUid : s'.nextFreeUid = sys.nextFreeUid)
    (reported : ∀ event ∈ sys.pendingCreations, ∀ wd inst, WatchedFileSystem.Reports event wd inst →
      event ∈ s'.pendingCreations) : s'.Invariant := by
  have watchesBefore : ∀ {wd dir}, s'.client.Watches wd dir → sys.client.Watches wd dir :=
    fun watched => released.watches_before ((same.watches _ _).mp watched)
  have listsAfter : ∀ {wd k}, sys.client.WatchLists wd k → ¬ ended k → s'.client.WatchLists wd k :=
    fun listed running => (same.watchLists _ _).mpr
      ((released.watchLists _ _).mpr ⟨listed, running⟩)
  have watchesAfter : ∀ {wd dir k}, sys.client.Watches wd dir → s'.client.WatchLists wd k →
      s'.client.Watches wd dir :=
    fun watched listed => (same.watches _ _).mpr ((released.watches _ _).mpr
      ⟨watched, _, (same.watchLists _ _).mp listed⟩)
  have searchesBefore : ∀ {k ident}, s'.client.Searches k ident →
      sys.client.Searches k ident ∧ ¬ ended k :=
    fun found => (released.searches _ _).mp ((same.searches _ _).mp found)
  have pending : ∀ {wd sid inst}, s'.client.Watches wd ⟨sid, none⟩ → sys.CreationPending sid inst →
      s'.CreationPending sid inst := by
    rintro wd sid inst watched ⟨found, live, event, mem, reports⟩
    rw [inv.bookkeeping.descriptor (watchesBefore watched), some.injEq] at live
    subst live
    exact ⟨wd, kept.descriptor watched, event, reported event mem _ _ reports, reports⟩
  refine ⟨kept, ?_, ?_, ?_, ?_, ?_, ?_, ?_, ?_⟩
  · intro wd dir watched
    exact (released.allSearched wd dir ((same.watches _ _).mp watched)).imp
      fun _ => (same.watchLists _ _).mpr
  · intro k ident found
    obtain ⟨foundBefore, running⟩ := searchesBefore found
    grind [inv.own foundBefore]
  · intro wd k sid watched listed
    obtain ⟨listedBefore, running⟩ := (released.watchLists _ _).mp ((same.watchLists _ _).mp listed)
    grind [inv.service (watchesBefore watched) listedBefore, same.searches, released.searches]
  · intro k ident wd sid inst found anyInst watched
    obtain ⟨foundBefore, running⟩ := searchesBefore found
    have service := inv.serviceWatch foundBefore anyInst
    grind [inv.children foundBefore anyInst (watchesBefore watched)]
  · exact fun watched => sameDirectories ▸ inv.exist (watchesBefore watched)
  · intro wd sid inst watched exists_
    rcases inv.covered (watchesBefore watched)
      (sameDirectories ▸ exists_) with ⟨child, watchedChild⟩ | wait
    · -- A search of the service keeps the watch, or the report is pending.
      obtain ⟨k, listed⟩ := released.allSearched wd _ ((same.watches _ _).mp watched)
      obtain ⟨listedBefore, running⟩ := (released.watchLists _ _).mp listed
      obtain ⟨ident, found, anyInst⟩ := inv.service (watchesBefore watched) listedBefore
      grind [inv.children found anyInst watchedChild]
    · exact .inr (pending watched wait)
  · exact fun found => sameUid ▸ inv.fresh (searchesBefore found).1
  · exact fun found => inv.quality (searchesBefore found).1

/-- The report of a directory is handled: the searches of the service get its
watch. -/
theorem Invariant.directoryCreated {serviceDescriptor wd inst}
    (watchedService : sys.client.Watches serviceDescriptor ⟨sid, none⟩)
    (live : sys.files.inotify.descriptors ⟨sid, some inst⟩ = some wd)
    (exists_ : (sid, inst) ∈ sys.files.directories)
    (kept : mid.Bookkeeping sys.files.inotify)
    (st : sys.client.Stores (fun o k => o = wd ∧ sys.client.WatchLists serviceDescriptor k)
      (fun o dir => o = wd ∧ dir = ⟨sid, some inst⟩) mid)
    (same : mid.SameWatches s'.client) (sameFiles : s'.files = sys.files)
    (sameUid : s'.nextFreeUid = sys.nextFreeUid)
    (pending : ∀ {wd2 sid2 inst2}, sys.client.Watches wd2 ⟨sid2, none⟩ →
      sys.CreationPending sid2 inst2 →
      sid2 = sid ∧ inst2 = inst ∨ s'.CreationPending sid2 inst2) : s'.Invariant := by
  have lists : ∀ {o k}, sys.client.WatchLists o k → s'.client.WatchLists o k :=
    fun listed => (same.watchLists _ _).mpr ((st.watchLists _ _).mpr (.inl listed))
  have watches : ∀ {o dir}, sys.client.Watches o dir → s'.client.Watches o dir :=
    fun watched => (same.watches _ _).mpr ((st.watches _ _).mpr (.inl watched))
  have watchesBefore : ∀ {o dir}, s'.client.Watches o dir →
      sys.client.Watches o dir ∨ o = wd ∧ dir = ⟨sid, some inst⟩ :=
    fun watched => (st.watches _ _).mp ((same.watches _ _).mp watched)
  have searches : ∀ {k ident}, s'.client.Searches k ident ↔ sys.client.Searches k ident :=
    (same.searches _ _).trans (st.searches _ _)
  have newWatch : s'.client.Watches wd ⟨sid, some inst⟩ :=
    (same.watches _ _).mpr ((st.watches _ _).mpr (.inr ⟨rfl, rfl⟩))
  have newLists : ∀ {k ident}, sys.client.Searches k ident → ident.directory = ⟨sid, none⟩ →
      s'.client.WatchLists wd k := by
    intro k ident found anyInst
    obtain ⟨o, watchedOther, listed⟩ := inv.serviceWatch found anyInst
    rw [inv.watch_unique watchedOther watchedService] at listed
    exact (same.watchLists _ _).mpr ((st.watchLists _ _).mpr (.inr ⟨rfl, listed⟩))
  refine ⟨sameFiles ▸ same.bookkeeping kept, ?_, ?_, ?_, ?_, ?_, ?_, ?_, ?_⟩
  · intro o dir watched
    rcases watchesBefore watched with old | ⟨rfl, -⟩
    · exact (inv.searched o dir old).imp fun _ => lists
    · obtain ⟨k, listed⟩ := inv.searched _ _ watchedService
      grind [inv.service watchedService listed]
  · intro k ident found
    grind [inv.own (searches.mp found)]
  · intro o k sid2 watched listed
    rcases watchesBefore watched with old | ⟨-, bad⟩
    · rcases (st.watchLists _ _).mp ((same.watchLists _ _).mp listed) with
        listedEarlier | ⟨rfl, -⟩
      · grind [inv.service old listedEarlier]
      · cases congrArg LolaServiceInstanceIdentifier.instanceId
          (inv.bookkeeping.directory_eq live old)
    · cases congrArg LolaServiceInstanceIdentifier.instanceId bad
  · intro k ident o sid2 inst2 found anyInst watched
    have foundBefore := searches.mp found
    rcases watchesBefore watched with old | ⟨rfl, sameDirectory⟩
    · obtain ⟨_, watchedOther, -⟩ := inv.serviceWatch foundBefore anyInst
      have sameWatch := inv.bookkeeping.descriptor old
      grind [inv.children foundBefore anyInst old]
    · obtain ⟨sameService, -⟩ := LolaServiceInstanceIdentifier.mk.inj sameDirectory
      exact .inl (newLists foundBefore (sameService ▸ anyInst))
  · intro o sid2 inst2 watched
    grind [watchesBefore watched, inv.exist]
  · intro o sid2 inst2 watched existsOther
    rw [sameFiles] at existsOther
    rcases watchesBefore watched with old | ⟨-, bad⟩
    · grind [inv.covered old existsOther]
    · cases congrArg LolaServiceInstanceIdentifier.instanceId bad
  · exact fun found => sameUid ▸ inv.fresh (searches.mp found)
  · exact fun found => inv.quality (searches.mp found)

end Steps

end DiscoverySystem

end ScoreIntegration.Lola
