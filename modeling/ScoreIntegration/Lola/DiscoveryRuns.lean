import ScoreIntegration.Lola.DiscoveryInvariant

/-!
# The bookkeeping of watches along runs

Every step keeps the invariant, and the only failures are a search without a
quality, a lost event, a deleted directory and a crawl that fails.
-/

namespace ScoreIntegration.Lola

open Concurrency ServiceDiscoveryClient FlagFileCrawler WatchedFileSystem TransitionSystem
open EnrichedInstanceIdentifier List Option Nat

/-- The failures that do not come from the client's own maps. -/
def DiscoveryFailure.FromOutside (failure : DiscoveryFailure) : Prop :=
  failure = .qualityLevelNotSet ∨ failure = .eventLost ∨
    failure = .directoryDeleted ∨ failure = .crawlingFailed

namespace ServiceDiscoveryClient

section StartFindService

variable {c : ServiceDiscoveryClient} {inotify : InotifyInstance} {k : FindServiceHandle}
  {ident : EnrichedInstanceIdentifier} {q : QualityType}

theorem isWatched_iff {dir} : c.isWatched dir = true ↔ ∃ wd, c.MainWatch dir wd := by
  unfold isWatched MainWatch
  split
  next wd children found => exact ⟨fun _ => ⟨wd, _, found, rfl⟩, fun _ => rfl⟩
  next unwatched =>
    refine ⟨nofun, ?_⟩
    rintro ⟨wd, ⟨_, children⟩, found, rfl⟩
    exact absurd found (unwatched wd children)

theorem startFindService_watched (kept : c.Bookkeeping inotify) (unused : c.searchRequests k = none)
    (watched : c.isWatched ident.directory = true)
    (hasQuality : ident.qualityType = some q) (unread : Option FlagFileCrawler.Crawled) :
    ∃ s' watches, c.startFindService k ident unread =
        .ok (some (s', (c.knownInstances q).getKnownHandles ident)) ∧
      s'.Bookkeeping inotify ∧
      c.SearchStarted k ident ⟨watches, fun _ => ∅⟩ s' ∧
      (∀ w ∈ watches, c.Watches w.1 w.2.directory) ∧
      (∃ w ∈ watches, w.2.directory = ident.directory) ∧
      (∀ w ∈ watches, w.2.directory = ident.directory ∨ w.2.directory.instanceId ≠ none) ∧
      (∀ wd, c.ChildWatch ident.directory wd → ∃ w ∈ watches, w.1 = wd) := by
  obtain ⟨wd, isMain⟩ := isWatched_iff.mp watched
  have watchedOwn := kept.watchOfMain isMain
  obtain ⟨⟨_, children⟩, found, rfl⟩ := isMain
  have isChild : ∀ child ∈ children, c.ChildWatch ident.directory child :=
    fun child mem => ⟨_, found, mem⟩
  have allWatched : ∀ o ∈ wd :: children, ∃ dir, c.Watches o dir := by
    intro o mem
    rcases mem_cons.mp mem with rfl | later
    · exact ⟨_, watchedOwn⟩
    · obtain ⟨-, inst, watchedChild⟩ := kept.watchOfChild (isChild o later)
      exact ⟨_, watchedChild⟩
  obtain ⟨watches, matching, all, areWatched⟩ := matchingWatches_spec allWatched
  have watchOf : ∀ o ∈ wd :: children, ∃ w ∈ watches, w.1 = o := by
    intro o mem
    rw [← all] at mem
    exact mem_map.mp mem
  have liveWatches : ∀ w ∈ (⟨watches, fun _ => ∅⟩ : FlagFileCrawler.Crawled).watchDescriptors,
      inotify.descriptors w.2.directory = some w.1 :=
    fun w mem => kept.descriptor (areWatched w mem)
  obtain ⟨s', transfer, keptAfter, started⟩ :=
    transferNewSearchRequest_spec kept unused liveWatches ident
      ((c.knownInstances q).getKnownHandles ident)
  refine ⟨s', watches, ?_, keptAfter, started, areWatched, ?_, ?_, ?_⟩
  · unfold startFindService
    rw [show (⟨ident.serviceId, ident.instanceId⟩ :
      LolaServiceInstanceIdentifier) = ident.directory from rfl, found]
    simp only [getKnownHandles, hasQuality, matching, transfer, bind, Except.bind]
  · obtain ⟨w, mem, rfl⟩ := watchOf wd mem_cons_self
    exact ⟨w, mem, (areWatched w mem).unique watchedOwn⟩
  · intro w mem
    have listed : w.1 ∈ wd :: children := by
      rw [← all]
      exact mem_map_of_mem mem
    rcases mem_cons.mp listed with isOwn | later
    · exact .inl ((areWatched w mem).unique (isOwn ▸ watchedOwn))
    · exact .inr (kept.child_directory (areWatched w mem) (isChild _ later)).1
  · rintro child ⟨e, foundEntry, mem⟩
    rw [found, some.injEq] at foundEntry
    subst foundEntry
    exact watchOf child (mem_cons_of_mem _ mem)

theorem startFindService_unwatched (unwatched : c.isWatched ident.directory = false)
    (crawled : Option FlagFileCrawler.Crawled) :
    c.startFindService k ident crawled = c.startNewSearch k ident crawled := by
  unfold startFindService isWatched directory at *
  split at unwatched
  · cases unwatched
  next notMain =>
    split
    next wd children found => exact absurd found (notMain _ _)
    · rfl
    · rfl

/-- Without a quality the process terminates, unless the crawl fails before. -/
theorem startFindService_noQuality (c : ServiceDiscoveryClient)
    (k : FindServiceHandle) (noQuality : ident.qualityType = none)
    (crawled : Option FlagFileCrawler.Crawled) :
    c.startFindService k ident crawled = .error .qualityLevelNotSet ∨
      c.startFindService k ident crawled = .ok none := by
  have newSearch : c.startNewSearch k ident crawled = .error .qualityLevelNotSet ∨
      c.startNewSearch k ident crawled = .ok none := by
    cases crawled with
    | none => exact .inr rfl
    | some crawled =>
      refine .inl ?_
      unfold startNewSearch
      simp only [getKnownHandles, noQuality, bind, Except.bind]
  unfold startFindService
  split
  · refine .inl ?_
    simp only [getKnownHandles, noQuality, bind, Except.bind]
  · exact newSearch
  · exact newSearch

end StartFindService

section HandleEvents

variable {c s' : ServiceDiscoveryClient} {inotify : InotifyInstance}

theorem handleDeletionEvents_error {impacted events err}
    (failed : c.handleDeletionEvents impacted events = .error err) :
    err = .directoryDeleted := by
  induction events generalizing c impacted with
  | nil => cases failed
  | cons event events ih =>
    rw [handleDeletionEvents] at failed
    split at failed
    · exact ih failed
    · split at failed
      · split at failed
        · exact ih failed
        · cases failed
          rfl
      · exact ih failed

def creationsOf (expectedEvents : Option (List InotifyEvent)) : List InotifyEvent :=
  (expectedEvents.getD []).filter fun event => !isDeletion event && event.inCreate

theorem handleEvents_spec (kept : c.Bookkeeping inotify) (searched : c.AllSearched)
    (expectedEvents : Option (List InotifyEvent)) :
    (∃ err, c.handleEvents expectedEvents = .error err ∧ err.FromOutside) ∨
      ∃ mid s' keys, c.handleEvents expectedEvents = .ok (s', keys, creationsOf expectedEvents) ∧
        mid.Bookkeeping inotify ∧
        c.Releases (fun _ k => k ∈ c.obsoleteSearchRequests)
          (fun k => k ∈ c.obsoleteSearchRequests) mid ∧
        mid.SameWatches s' := by
  obtain ⟨mid, transfer, keptMiddle, released⟩ :=
    transferEach_spec kept searched c.obsoleteSearchRequests
  have sameMiddle : mid.SameWatches { mid with obsoleteSearchRequests := [] } :=
    .of_maps rfl rfl rfl
  unfold handleEvents transferObsoleteSearchRequests
  simp only [transfer, bind, Except.bind]
  cases expectedEvents with
  | none => exact .inr ⟨mid, _, [], rfl, keptMiddle, released, sameMiddle⟩
  | some events =>
    by_cases overflowed : events.any InotifyEvent.inQOverflow = true
    · refine .inl ⟨.eventLost, ?_, .inr (.inl rfl)⟩
      simp only [overflowed, if_pos]
    · simp only [overflowed, Bool.false_eq_true, if_false]
      cases deletions : handleDeletionEvents { mid with obsoleteSearchRequests := [] } []
          (events.filter isDeletion) with
      | error err =>
        have isDeleted := handleDeletionEvents_error deletions
        exact .inl ⟨err, rfl, .inr (.inr (.inl isDeleted))⟩
      | ok res =>
        exact .inr ⟨mid, res.1, res.2, rfl, keptMiddle, released,
          sameMiddle.trans (sameWatches_handleDeletionEvents deletions)⟩

theorem onInstanceDirectoryCreated_spec (kept : c.Bookkeeping inotify) {serviceDescriptor wd w}
    (foundW : c.watches serviceDescriptor = some w) (event : InotifyEvent) {inst}
    (named : convertFromStringToInstanceId event.name = some inst)
    {ident known} (crawled : event.crawled = some ⟨[(wd, ident)], known⟩)
    (live : inotify.descriptors ident.directory = some wd) :
    ∃ mid, c.onInstanceDirectoryCreated w event = .ok (mid.mergeKnownInstances known) ∧
      mid.Bookkeeping inotify ∧
      c.Stores (fun o k => o = wd ∧ c.WatchLists serviceDescriptor k)
        (fun o dir => o = wd ∧ dir = ident.directory) mid := by
  have lists : ∀ k, c.WatchLists serviceDescriptor k ↔ k ∈ w.findServiceHandles := by
    intro k
    unfold WatchLists
    simp [foundW]
  have st := stores_storeWatch kept live
  have isWatched : (c.storeWatch wd ident).Watches wd
      ident.directory := (st.watches _ _).mpr (.inr ⟨rfl, rfl⟩)
  have searched : ∀ k ∈ w.findServiceHandles, ∃ searchedIdentifier,
      (c.storeWatch wd ident).Searches k searchedIdentifier := by
    intro k mem
    obtain ⟨req, found, -⟩ := (kept.symmetric serviceDescriptor k).mp ((lists k).mpr mem)
    exact ⟨_, req, found, rfl⟩
  obtain ⟨mid, link, keptMiddle, linked⟩ :=
    linkSearches_spec (kept.storeWatch live) isWatched searched
  refine ⟨mid, ?_, keptMiddle, ?_⟩
  · unfold onInstanceDirectoryCreated
    simp only [named, crawled, link, bind, Except.bind]
  · simpa only [false_or, or_false, lists] using st.trans linked

end HandleEvents

end ServiceDiscoveryClient

namespace DiscoverySystem

/-- The step keeps the invariant, or the process terminates for a reason from
outside. -/
def Safe : Except DiscoveryFailure DiscoverySystem → Prop
  | .ok after => after.Invariant
  | .error failure => failure.FromOutside

section Steps

variable {sys : DiscoverySystem} {ident : EnrichedInstanceIdentifier}
  {files : WatchedFileSystem} {q : QualityType} {event : InotifyEvent}
  {inst : LolaInstanceId} {phase : EventPhase} {events : List InotifyEvent}
  {label : DiscoveryStep} {s' : DiscoverySystem}

theorem creatable_of_representable (files : WatchedFileSystem) {dir}
    (representable : Representable dir) : files.Creatable dir :=
  fun inst hasInstance => .inl (representable inst hasInstance)

theorem grows_crawl (files : WatchedFileSystem) (representable : Representable ident.directory)
    (found : Option KnownInstances) : files.Grows (crawl files ident found).1 := by
  cases found with
  | none => exact .refl
  | some found =>
    exact (crawlAndWatch_spec (creatable_of_representable _ representable) found).grows

section

variable (inv : sys.Invariant)
include inv

theorem Invariant.unused : sys.client.searchRequests sys.nextFreeUid = none := by
  cases found : sys.client.searchRequests sys.nextFreeUid with
  | none => rfl
  | some req => exact absurd (inv.fresh ⟨req, found, rfl⟩) (lt_irrefl _)

theorem Invariant.searchFailed (grows : sys.files.Grows files) :
    (sys.searchStarted ident files none).Invariant :=
  (inv.grow grows).of_sameWatches (.of_maps rfl rfl rfl) rfl (le_succ _) fun _ wait => wait

theorem Invariant.searchWatched (watched : sys.client.isWatched ident.directory = true)
    (hasQuality : ident.qualityType = some q) :
    ∃ res, sys.client.startFindService sys.nextFreeUid ident none = .ok res ∧
      (sys.searchStarted ident sys.files res).Invariant := by
  obtain ⟨s', watches, started, kept, search, areWatched, own, only, children⟩ :=
    startFindService_watched inv.bookkeeping inv.unused watched hasQuality none
  refine ⟨_, started, ?_⟩
  obtain ⟨ownWatch, ownMember, isOwn⟩ := id own
  have watchedOwn := areWatched ownWatch ownMember
  refine inv.startSearch _ kept search (fun w mem => inv.bookkeeping.descriptor (areWatched w mem))
    own ?_ ?_ ?_ ?_ ?_
  · intro w mem sid isService
    rcases only w mem with same | isInstance
    · exact same ▸ isService
    · rw [isService] at isInstance
      exact absurd rfl isInstance
  · intro w mem sid inst isInstance
    exact inv.exist (isInstance ▸ areWatched w mem)
  · intro wd sid inst anyInst watchedChild
    exact .inl (children wd (anyInst ▸ inv.bookkeeping.childOfWatch watchedChild))
  · intro sid inst anyInst exists_
    rw [isOwn, anyInst] at watchedOwn
    rcases inv.covered watchedOwn exists_ with ⟨child, watchedChild⟩ | wait
    · exact .inl ⟨child, (search.watches _ _).mpr (.inl watchedChild)⟩
    · exact .inr wait
  · rw [hasQuality]
    exact nofun

theorem Invariant.searchCrawled {crawled found}
    (crawl : sys.files.CrawlDone ident found files crawled)
    (hasQuality : ident.qualityType = some q) :
    ∃ res, sys.client.startNewSearch sys.nextFreeUid ident (some crawled) = .ok res ∧
      (sys.searchStarted ident files res).Invariant := by
  have grown := inv.grow crawl.grows
  obtain ⟨s', transfer, kept, search⟩ :=
    transferNewSearchRequest_spec grown.bookkeeping inv.unused crawl.live ident
      ((crawled.knownInstances q).getKnownHandles ident)
  refine ⟨some (s', (crawled.knownInstances q).getKnownHandles ident), ?_, ?_⟩
  · unfold startNewSearch
    simp only [getKnownHandles, hasQuality, transfer, bind, Except.bind]
  refine grown.startSearch _ kept search crawl.live crawl.own ?_ crawl.exist ?_ ?_ ?_
  · intro w mem sid isService
    rcases crawl.only w mem with same | ⟨-, inst, isInstance⟩
    · exact same ▸ isService
    · rw [isInstance] at isService
      cases congrArg LolaServiceInstanceIdentifier.instanceId isService
  · intro wd sid inst anyInst watched
    obtain ⟨sameService, noInstance⟩ := LolaServiceInstanceIdentifier.mk.inj anyInst
    obtain ⟨w, mem, isDirectory⟩ := crawl.all noInstance inst (sameService ▸ grown.exist watched)
    refine .inl ⟨w, mem, ?_⟩
    have live := crawl.live w mem
    rw [isDirectory, sameService] at live
    exact some.inj (live.symm.trans (grown.bookkeeping.descriptor watched))
  · intro sid inst anyInst exists_
    obtain ⟨sameService, noInstance⟩ := LolaServiceInstanceIdentifier.mk.inj anyInst
    obtain ⟨w, mem, isDirectory⟩ := crawl.all noInstance inst (sameService ▸ exists_)
    exact .inl ⟨w.1, (search.watches _ _).mpr (.inr ⟨w, mem, rfl, sameService ▸ isDirectory⟩)⟩
  · rw [hasQuality]
    exact nofun

end

theorem safe_startFindService (inv : sys.Invariant)
    (representable : Representable ident.directory) (found : Option KnownInstances) :
    Safe (sys.startFindService ident found) := by
  have growsCrawl := grows_crawl sys.files representable found
  cases hasQuality : ident.qualityType with
  | none =>
    simp only [DiscoverySystem.startFindService]
    rcases sys.client.startFindService_noQuality sys.nextFreeUid hasQuality _ with failed | nothing
    · rw [failed]
      exact .inl rfl
    · rw [nothing]
      refine inv.searchFailed ?_
      split
      · exact .refl
      · exact growsCrawl
  | some q =>
    cases watched : sys.client.isWatched ident.directory with
    | true =>
      simp only [DiscoverySystem.startFindService, watched, if_true]
      obtain ⟨res, started, kept⟩ := inv.searchWatched watched hasQuality
      rw [started]
      exact kept
    | false =>
      simp only [DiscoverySystem.startFindService, watched, Bool.false_eq_true, if_false,
        startFindService_unwatched watched]
      cases found with
      | none => exact inv.searchFailed growsCrawl
      | some found =>
        obtain ⟨res, started, kept⟩ := inv.searchCrawled
          (crawlAndWatch_spec (creatable_of_representable _ representable) found) hasQuality
        rw [crawl, started]
        exact kept

theorem readEvents_descriptors (inotify : InotifyInstance) (count : Option Nat) :
    (readEvents inotify count).1.descriptors = inotify.descriptors := by
  cases count <;> rfl

theorem mem_readEvents {inotify} (queued : event ∈ inotify.queue) {wd}
    (reports : WatchedFileSystem.Reports event wd inst) (count : Option Nat) :
    event ∈ creationsOf (readEvents inotify count).2 ++ (readEvents inotify count).1.queue := by
  cases count with
  | none => exact mem_append_right _ queued
  | some count =>
    rw [← take_append_drop count inotify.queue] at queued
    rcases mem_append.mp queued with taken | left
    · refine mem_append_left _ (mem_filter.mpr ⟨taken, ?_⟩)
      obtain ⟨-, notDeletion, created, -⟩ := reports
      simp [notDeletion, created]
    · exact mem_append_right _ left

theorem safe_handleEvents (inv : sys.Invariant)
    (idle : sys.phase = .idle) (count : Option Nat) : Safe (sys.handleEvents count) := by
  unfold handleEvents
  rcases handleEvents_spec inv.bookkeeping inv.searched (readEvents sys.files.inotify count).2 with
    ⟨failure, failed, fromOutside⟩ |
    ⟨middle, client, keys, handled, keptMiddle, released, same⟩
  · simp only [failed]
    exact fromOutside
  · simp only [handled]
    have keptClient := same.bookkeeping keptMiddle
    refine inv.release released same ?_ rfl rfl ?_
    · refine keptClient.of_maps ?_ rfl rfl rfl
      intro wd dir watched
      have live := keptClient.descriptor watched
      obtain ⟨w, found, -⟩ := watched
      refine filter_eq_some_iff.mpr ⟨?_, ?_⟩
      · rw [readEvents_descriptors]
        exact live
      · simp [found]
    · intro event mem wd inst reports
      unfold pendingCreations at mem
      rw [idle] at mem
      exact mem_readEvents mem reports count

theorem CreationPending.of_creations {sid} (wait : sys.CreationPending sid inst)
    (sameCreations : s'.phase.creations = sys.phase.creations) (sameFiles : s'.files = sys.files) :
    s'.CreationPending sid inst := by
  unfold CreationPending pendingCreations
  rw [sameCreations, sameFiles]
  exact wait

theorem safe_callHandler (inv : sys.Invariant) {k}
    (sameCreations : phase.creations = sys.phase.creations) :
    Safe (sys.callHandler k phase) := by
  unfold callHandler
  cases called : sys.client.callHandler k with
  | error err =>
    have noQuality : err = .qualityLevelNotSet := by
      unfold ServiceDiscoveryClient.callHandler at called
      split at called
      · cases called
      next req found =>
        split at called
        · cases called
        · unfold getKnownHandles at called
          split at called
          · dsimp only [bind, Except.bind] at called
            split at called <;> cases called
          · cases called
            rfl
    exact .inl noQuality
  | ok res =>
    exact inv.of_sameWatches (sameWatches_callHandler called) rfl (le_refl _)
      fun _ wait => wait.of_creations sameCreations rfl

theorem CreationPending.of_handled (isNext : sys.phase.creations = event :: events)
    (rest : s'.phase.creations = events) (sameFiles : s'.files = sys.files)
    {sid} (wait : sys.CreationPending sid inst) :
    (∃ wd, sys.files.inotify.descriptors ⟨sid, none⟩ = some wd ∧
      WatchedFileSystem.Reports event wd inst) ∨
      s'.CreationPending sid inst := by
  obtain ⟨wd, live, reported, mem, reports⟩ := wait
  unfold pendingCreations at mem
  rw [isNext, cons_append] at mem
  rcases mem_cons.mp mem with rfl | later
  · exact .inl ⟨wd, live, reports⟩
  · refine .inr ⟨wd, sameFiles ▸ live, reported, ?_, reports⟩
    unfold pendingCreations
    rw [rest, sameFiles]
    exact later

theorem Invariant.eventHandled (inv : sys.Invariant)
    (isNext : sys.phase.creations = event :: events) (rest : s'.phase.creations = events)
    (same : sys.client.SameWatches s'.client) (sameFiles : s'.files = sys.files)
    (sameUid : s'.nextFreeUid = sys.nextFreeUid)
    (unreported : ∀ {wd sid inst}, sys.client.Watches wd ⟨sid, none⟩ →
      ¬ WatchedFileSystem.Reports event wd inst) : s'.Invariant := by
  refine inv.of_sameWatches same sameFiles (le_of_eq sameUid.symm) ?_
  intro wd sid inst watched wait
  rcases wait.of_handled isNext rest sameFiles with
    ⟨reporting, live, reports⟩ | later
  · rw [inv.bookkeeping.descriptor watched, some.injEq] at live
    exact absurd (live ▸ reports) (unreported watched)
  · exact later

section HandleCreation

variable {event : InotifyEvent} {events : List InotifyEvent}
  {impacted : List FindServiceHandle} {w : Watch} {inst : LolaInstanceId}

theorem handleCreation_directory (invariant : sys.Invariant)
    (foundW : sys.client.watches event.watchDescriptor = some w)
    (isService : w.enrichedInstanceIdentifier.instanceId = none)
    (named : convertFromStringToInstanceId event.name =
      some inst) (found : KnownInstances) (events : List InotifyEvent)
    (impacted : List FindServiceHandle) :
    ∃ files wd crawled middle, sys.handleCreation event events impacted (some found) =
        .ok { sys with
          client := middle.mergeKnownInstances crawled.knownInstances
          files := files
          phase := .creating events (impacted ∪ w.findServiceHandles) } ∧
      sys.files.CrawlDone { w.enrichedInstanceIdentifier with instanceId := some inst }
        found files crawled ∧
      files.inotify.descriptors ⟨w.enrichedInstanceIdentifier.serviceId, some inst⟩ = some wd ∧
      middle.Bookkeeping files.inotify ∧
      sys.client.Stores (fun o k => o = wd ∧ sys.client.WatchLists event.watchDescriptor k)
        (fun o directory => o = wd ∧ directory =
          ⟨w.enrichedInstanceIdentifier.serviceId, some inst⟩)
        middle := by
  obtain ⟨identifier, isIdentifier⟩ : ∃ identifier,
      { w.enrichedInstanceIdentifier with instanceId := some inst } = identifier := ⟨_, rfl⟩
  have hasInstance : identifier.instanceId = some inst := isIdentifier ▸ rfl
  have directory : identifier.directory = ⟨w.enrichedInstanceIdentifier.serviceId, some inst⟩ :=
    isIdentifier ▸ rfl
  have representable : Representable identifier.directory := by
    intro o isOther
    rw [directory] at isOther
    cases isOther
    unfold convertFromStringToInstanceId at named
    dsimp only at named
    split at named
    · cases named
    next readable =>
      cases named
      exact not_le.mp fun tooLarge => readable (.inr tooLarge)
  have done := crawlAndWatch_spec (creatable_of_representable sys.files representable) found
  have crawls := crawlAndWatch_instance sys.files hasInstance found
  rw [crawls] at done
  have live := done.live _ (mem_singleton_self _)
  obtain ⟨middle, created, keptMiddle, st⟩ :=
    onInstanceDirectoryCreated_spec (invariant.grow done.grows).bookkeeping foundW
      { event with
        crawled := some (sys.files.crawlAndWatch identifier found).2 }
      named (congrArg some (congrArg Prod.snd crawls)) live
  have sameDirectory : ({ identifier with qualityType := none } :
      EnrichedInstanceIdentifier).directory =
        ⟨w.enrichedInstanceIdentifier.serviceId, some inst⟩ := directory
  rw [sameDirectory] at live st
  rw [isIdentifier]
  refine ⟨_, _, _, middle, ?_, done, live, keptMiddle, st⟩
  unfold handleCreation crawledIdentifier
  simp only [handleCreationEvents, foundW, isService,
    isSome_none, Bool.false_eq_true, if_false, named, map_some,
    isIdentifier, crawl, created, bind, Except.bind]
  rw [crawls]

variable (inv : sys.Invariant) (isNext : sys.phase.creations = event :: events)
include inv isNext

theorem Invariant.reportHandled (foundW : sys.client.watches event.watchDescriptor = some w)
    (isService : w.enrichedInstanceIdentifier.instanceId = none)
    (named : convertFromStringToInstanceId event.name = some inst) (found : KnownInstances) :
    Safe (sys.handleCreation event events impacted (some found)) := by
  obtain ⟨files, wd, crawled, mid, handled, done, live, kept, st⟩ :=
    handleCreation_directory inv foundW isService named found events impacted
  rw [handled]
  have grown := inv.grow done.grows
  have watchedService : sys.client.Watches event.watchDescriptor
      ⟨w.enrichedInstanceIdentifier.serviceId, none⟩ := by
    refine ⟨w, foundW, ?_⟩
    rw [directory, isService]
  obtain ⟨own, ownMember, ownDirectory⟩ := done.own
  refine grown.directoryCreated watchedService live
    (done.exist own ownMember _ _ ownDirectory) kept st
    (.of_maps rfl rfl rfl) rfl rfl ?_
  intro wd2 sid2 inst2 watched wait
  have grownNext : ({ sys with files := files } : DiscoverySystem).phase.creations =
      event :: events := isNext
  refine Or.imp_left ?_ (wait.of_handled grownNext (by rfl) (by rfl))
  rintro ⟨reporting, isLive, reports⟩
  have sameDirectory := grown.bookkeeping.directory_eq isLive (reports.1 ▸ watchedService)
  exact ⟨(LolaServiceInstanceIdentifier.mk.inj sameDirectory).1.symm,
    some.inj (reports.2.2.2.symm.trans named)⟩

theorem safe_handleCreation (found : Option KnownInstances) :
    Safe (sys.handleCreation event events impacted found) := by
  cases foundW : sys.client.watches event.watchDescriptor with
  | none =>
    simp only [handleCreation, crawledIdentifier, handleCreationEvents, foundW, bind, Except.bind]
    refine inv.eventHandled isNext rfl (.of_maps rfl rfl rfl) rfl rfl ?_
    rintro wd sid inst ⟨w, watched, -⟩ ⟨rfl, -⟩
    rw [foundW] at watched
    cases watched
  | some w =>
    cases hasInstance : w.enrichedInstanceIdentifier.instanceId with
    | some inst =>
      simp only [handleCreation, crawledIdentifier, handleCreationEvents, foundW, hasInstance,
        isSome_some, if_true, bind, Except.bind]
      have same : sys.client.SameWatches (sys.client.onInstanceFlagFileCreated w event.name) :=
        sameWatches_updateKnownInstances _ _
      refine inv.eventHandled isNext rfl same rfl rfl ?_
      rintro wd sid o watchedService ⟨rfl, -⟩
      have sameDirectory := ServiceDiscoveryClient.Watches.unique ⟨w, foundW, rfl⟩ watchedService
      rw [directory, hasInstance] at sameDirectory
      cases congrArg LolaServiceInstanceIdentifier.instanceId sameDirectory
    | none =>
      cases named : convertFromStringToInstanceId event.name with
      | none =>
        simp only [handleCreation, crawledIdentifier, handleCreationEvents, foundW, hasInstance,
          isSome_none, Bool.false_eq_true, if_false, onInstanceDirectoryCreated, named, map_none,
          bind, Except.bind]
        refine inv.eventHandled isNext rfl (.of_maps rfl rfl rfl) rfl rfl ?_
        rintro wd sid o - ⟨-, -, -, isNamed⟩
        rw [named] at isNamed
        cases isNamed
      | some inst =>
        cases found with
        | none =>
          simp only [handleCreation, crawledIdentifier, handleCreationEvents, foundW, hasInstance,
            isSome_none, Bool.false_eq_true, if_false, onInstanceDirectoryCreated, named, map_some,
            crawl, bind, Except.bind]
          exact .inr (.inr (.inr rfl))
        | some found => exact inv.reportHandled isNext foundW hasInstance named found

end HandleCreation

theorem Invariant.of_phase (inv : sys.Invariant)
    (sameCreations : phase.creations = sys.phase.creations) :
    Invariant { sys with phase := phase } :=
  inv.of_sameWatches (.of_maps rfl rfl rfl) rfl (le_refl _)
    fun _ wait => wait.of_creations sameCreations rfl

theorem safe_next (inv : sys.Invariant) {res} (taken : sys.next label = some res) : Safe res := by
  cases label with
  | startFindService ident found =>
    simp only [next] at taken
    split at taken
    · cases taken
    · split at taken
      next representable =>
        cases taken
        exact safe_startFindService inv representable found
      · cases taken
  | stopFindService k =>
    simp only [next] at taken
    split at taken
    · cases taken
    · cases taken
      exact inv.of_sameWatches (.of_maps rfl rfl rfl) rfl (le_refl _) fun _ wait => wait
  | createDirectory sid inst =>
    simp only [next] at taken
    split at taken
    next representable =>
      cases taken
      exact inv.grow (grows_createDirectory _ representable)
    · cases taken
  | addWatch dir =>
    simp only [next] at taken
    split at taken
    next representable =>
      cases taken
      exact inv.grow (grows_addWatchToInotifyInstance (creatable_of_representable _ representable))
    · cases taken
  | fileEvent event =>
    cases taken
    exact inv.grow ⟨id, id, mem_append_left _, fun exists_ _ => .inl exists_⟩
  | handleEvents count =>
    simp only [next] at taken
    split at taken
    next idle =>
      cases taken
      exact safe_handleEvents inv idle count
    · cases taken
  | callHandler k =>
    simp only [next] at taken
    split at taken
    next keys creations calling =>
      split at taken
      · cases taken
        refine safe_callHandler inv ?_
        rw [calling]
        cases creations <;> rfl
      · cases taken
    · cases taken
  | handleCreations =>
    simp only [next] at taken
    split at taken
    next creations calling =>
      cases taken
      exact inv.of_phase (by rw [calling]; rfl)
    · cases taken
  | handleCreation found =>
    simp only [next] at taken
    split at taken
    next event events impacted creating =>
      cases taken
      exact safe_handleCreation inv (by rw [creating]; rfl) found
    · cases taken
  | finishCreations =>
    simp only [next] at taken
    split at taken
    next impacted creating =>
      cases taken
      exact inv.of_phase (by rw [creating]; rfl)
    · cases taken
  | finishEvents =>
    simp only [next] at taken
    split at taken
    next calling =>
      cases taken
      exact inv.of_phase (by rw [calling]; rfl)
    · cases taken

theorem step_taken (taken : sys.step label = some s') : sys.next label = some (.ok s') := by
  unfold step at taken
  split at taken
  next out =>
    cases taken
    exact out
  · cases taken

theorem invariant_step (inv : sys.Invariant) (taken : sys.step label = some s') : s'.Invariant :=
  safe_next inv (step_taken taken)

end Steps

theorem reachable_invariant {sys} (reach : transitions.Reachable sys) : sys.Invariant := by
  refine reach.invariant Invariant ?_ ?_
  · rintro s rfl
    exact invariant_start
  · exact fun pre label s' inv taken => invariant_step inv taken

/-- The links between searches and watches are symmetric, every watch has a search, a search
for any instance has the watch of every instance directory unless its creation is still to
be handled, and the process terminates only for a reason from outside. -/
theorem reachable_watches_kept {system : DiscoverySystem}
    (reachable : transitions.Reachable system) :
    (∀ descriptor key, system.client.WatchLists descriptor key ↔
      system.client.SearchLists key descriptor) ∧
    (∀ descriptor watch, system.client.watches descriptor = some watch →
      watch.findServiceHandles ≠ []) ∧
    (∀ key request, system.client.searchRequests key = some request →
      request.enrichedInstanceIdentifier.instanceId = none →
      ∀ descriptor instanceId, system.client.Watches descriptor
        ⟨request.enrichedInstanceIdentifier.serviceId, some instanceId⟩ →
      descriptor ∈ request.watchDescriptors ∨ system.CreationPending
        request.enrichedInstanceIdentifier.serviceId instanceId) ∧
    (∀ directory entry, system.client.watchedIdentifiers directory = some entry →
      ∀ descriptor, entry.watchDescriptor = some descriptor ∨ descriptor ∈ entry.childWatches →
      ∃ watch, system.client.watches descriptor = some watch) ∧
    ∀ label failure, system.next label = some (.error failure) → failure.FromOutside := by
  have invariant := reachable_invariant reachable
  have kept := invariant.bookkeeping
  refine ⟨kept.symmetric, ?_, ?_, ?_, ?_⟩
  · intro descriptor watch found none
    obtain ⟨key, again, foundAgain, member⟩ := invariant.searched descriptor _ ⟨watch, found, rfl⟩
    rw [found, Option.some.injEq] at foundAgain
    rw [← foundAgain, none] at member
    exact absurd member List.not_mem_nil
  · intro key request found anyInstance descriptor instanceId watched
    have isDirectory : request.enrichedInstanceIdentifier.directory =
        ⟨request.enrichedInstanceIdentifier.serviceId, none⟩ := by
      rw [directory, anyInstance]
    rcases invariant.children ⟨request, found, rfl⟩ isDirectory watched with
      lists | waiting
    · obtain ⟨again, foundAgain, member⟩ := (kept.symmetric _ _).mp lists
      rw [found, Option.some.injEq] at foundAgain
      exact .inl (foundAgain ▸ member)
    · exact .inr waiting
  · rintro directory entry found descriptor (isMain | isChild)
    · obtain ⟨watch, watched, -⟩ := kept.watchOfMain ⟨entry, found, isMain⟩
      exact ⟨watch, watched⟩
    · obtain ⟨-, instanceId, watch, watched, -⟩ := kept.watchOfChild ⟨entry, found, isChild⟩
      exact ⟨watch, watched⟩
  · intro label failure failed
    exact safe_next invariant failed

def anySearchThenInstance : List DiscoveryStep :=
  [.startFindService ⟨0, 1, none, some .asilQm⟩ (some fun _ => ∅),
    .startFindService ⟨0, 1, some 5, some .asilQm⟩ (some fun _ => ∅)]

theorem run_anySearchThenInstance : ∃ system, run step start anySearchThenInstance = some system ∧
    ∃ request, system.client.searchRequests 0 = some request ∧
      request.enrichedInstanceIdentifier = ⟨0, 1, none, some .asilQm⟩ ∧
      system.client.Watches 1 ⟨1, some 5⟩ ∧ 1 ∉ request.watchDescriptors :=
  ⟨_, rfl, _, rfl, rfl, ⟨_, rfl, rfl⟩, by decide⟩

/-- The first search does not have the watch of the second one. -/
theorem search_without_new_watch : ∃ system, transitions.Reachable system ∧
      ∃ key request, system.client.searchRequests key = some request ∧
        request.enrichedInstanceIdentifier.instanceId = none ∧
        ∃ descriptor instanceId, system.client.Watches descriptor
            ⟨request.enrichedInstanceIdentifier.serviceId, some instanceId⟩ ∧
          descriptor ∉ request.watchDescriptors := by
  obtain ⟨system, ran, request, found, identifier, watched, unlinked⟩ := run_anySearchThenInstance
  refine ⟨system, .run (.initial rfl) ran, 0, request, found, ?_, 1, 5, ?_, unlinked⟩
  · rw [identifier]
  · rw [identifier]
    exact watched

/-- The creation of the directory of the second search is still to be handled. -/
theorem new_watch_pending :
    ∃ system, run step start anySearchThenInstance = some system ∧
      system.CreationPending 1 5 := by
  obtain ⟨system, ran, request, found, identifier, watched, unlinked⟩ := run_anySearchThenInstance
  obtain ⟨_, _, children, _⟩ := reachable_watches_kept (.run (.initial rfl) ran)
  have linked := children 0 request found (by rw [identifier]) 1 5
    (by rw [identifier]; exact watched)
  rw [identifier] at linked
  exact ⟨system, ran, linked.resolve_left unlinked⟩

/-- The search has a live watch of the directory. -/
def HasWatch (system : DiscoverySystem) (request : SearchRequest)
    (directory : LolaServiceInstanceIdentifier) : Prop :=
  ∃ descriptor ∈ request.watchDescriptors,
    system.files.inotify.descriptors directory = some descriptor

/-- No directory that a search asks for is overlooked. -/
theorem reachable_directories_watched {system : DiscoverySystem}
    (reachable : transitions.Reachable system) {key : FindServiceHandle} {request : SearchRequest}
    (found : system.client.searchRequests key = some request) :
    system.HasWatch request request.enrichedInstanceIdentifier.directory ∧
      (request.enrichedInstanceIdentifier.instanceId = none → ∀ serviceId instanceId,
        serviceId = request.enrichedInstanceIdentifier.serviceId →
        (serviceId, instanceId) ∈ system.files.directories →
        system.HasWatch request ⟨serviceId, some instanceId⟩ ∨
          system.CreationPending serviceId instanceId) := by
  have invariant := reachable_invariant reachable
  have hasWatch : ∀ {descriptor directory}, system.client.Watches descriptor directory →
      system.client.WatchLists descriptor key → system.HasWatch request directory := by
    intro descriptor directory watched lists
    obtain ⟨again, foundAgain, member⟩ := (invariant.bookkeeping.symmetric _ _).mp lists
    cases found.symm.trans foundAgain
    exact ⟨descriptor, member, invariant.bookkeeping.descriptor watched⟩
  obtain ⟨own, watchedOwn, listsOwn⟩ := invariant.own ⟨request, found, rfl⟩
  refine ⟨hasWatch watchedOwn listsOwn, ?_⟩
  rintro anyInstance _ instanceId rfl exists_
  have isDirectory : request.enrichedInstanceIdentifier.directory =
      ⟨request.enrichedInstanceIdentifier.serviceId, none⟩ := by
    rw [directory, anyInstance]
  rw [isDirectory] at watchedOwn
  rcases invariant.covered watchedOwn exists_ with ⟨child, watched⟩ | waiting
  · rcases invariant.children ⟨request, found, rfl⟩ isDirectory watched with lists | waiting
    · exact .inl (hasWatch watched lists)
    · exact .inr waiting
  · exact .inr waiting

theorem both_directories_watched : ∃ system, run step start anySearchThenInstance = some system ∧
    ∃ request, system.client.searchRequests 0 = some request ∧
      system.HasWatch request ⟨1, none⟩ ∧
      (system.HasWatch request ⟨1, some 5⟩ ∨ system.CreationPending 1 5) := by
  obtain ⟨system, ran, request, found, identifier, isDirectory⟩ : ∃ system,
      run step start anySearchThenInstance = some system ∧
      ∃ request, system.client.searchRequests 0 = some request ∧
        request.enrichedInstanceIdentifier = ⟨0, 1, none, some .asilQm⟩ ∧
        (1, 5) ∈ system.files.directories := ⟨_, rfl, _, rfl, rfl, by decide⟩
  obtain ⟨own, children⟩ := reachable_directories_watched (.run (.initial rfl) ran) found
  rw [identifier] at own children
  exact ⟨system, ran, request, found, own, children rfl 1 5 rfl isDirectory⟩

end DiscoverySystem

end ScoreIntegration.Lola
