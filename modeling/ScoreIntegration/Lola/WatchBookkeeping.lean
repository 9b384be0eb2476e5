import ScoreIntegration.Lola.ServiceDiscoverySearches
import ScoreIntegration.Lola.WatchedFileSystem

/-!
# The bookkeeping of watches and searches

A watch lists its searches, a search lists its watches, and the watched identifiers refer
to the watches of their directories.  Each operation is described by what it changes in
these relations.
-/

namespace ScoreIntegration.Lola

open Containers List Function EnrichedInstanceIdentifier KnownInstancesContainer IdentifierWatches

namespace ServiceDiscoveryClient

section

variable (client : ServiceDiscoveryClient)

def WatchLists (descriptor : InotifyWatchDescriptor) (key : FindServiceHandle) : Prop :=
  ∃ watch, client.watches descriptor = some watch ∧ key ∈ watch.findServiceHandles

def SearchLists (key : FindServiceHandle) (descriptor : InotifyWatchDescriptor) : Prop :=
  ∃ request, client.searchRequests key = some request ∧ descriptor ∈ request.watchDescriptors

def Watches (descriptor : InotifyWatchDescriptor)
    (directory : LolaServiceInstanceIdentifier) : Prop :=
  ∃ watch, client.watches descriptor = some watch ∧
    watch.enrichedInstanceIdentifier.directory = directory

section

variable (directory : LolaServiceInstanceIdentifier) (descriptor : InotifyWatchDescriptor)

/-- The watched identifiers name the watch of the directory. -/
def MainWatch : Prop :=
  ∃ entry, client.watchedIdentifiers directory = some entry ∧
    entry.watchDescriptor = some descriptor

/-- The watched identifiers name a watch below the directory. -/
def ChildWatch : Prop :=
  ∃ entry, client.watchedIdentifiers directory = some entry ∧ descriptor ∈ entry.childWatches

end

def Searches (key : FindServiceHandle) (identifier : EnrichedInstanceIdentifier) : Prop :=
  ∃ request, client.searchRequests key = some request ∧
    request.enrichedInstanceIdentifier = identifier

end

/-- The four maps agree with each other and with the live watches of inotify. -/
structure Bookkeeping (inotify : InotifyInstance) (client : ServiceDiscoveryClient) : Prop where
  symmetric : ∀ descriptor key, client.WatchLists descriptor key ↔ client.SearchLists key descriptor
  descriptor : ∀ {descriptor directory}, client.Watches descriptor directory →
    inotify.descriptors directory = some descriptor
  watchOfMain : ∀ {directory descriptor}, client.MainWatch directory descriptor →
    client.Watches descriptor directory
  watchOfChild : ∀ {directory descriptor}, client.ChildWatch directory descriptor →
    directory.instanceId = none ∧ ∃ instanceId,
      client.Watches descriptor ⟨directory.serviceId, some instanceId⟩
  mainOfWatch : ∀ {descriptor serviceId instanceId},
    client.Watches descriptor ⟨serviceId, some instanceId⟩ →
    client.MainWatch ⟨serviceId, some instanceId⟩ descriptor
  childOfWatch : ∀ {descriptor serviceId instanceId},
    client.Watches descriptor ⟨serviceId, some instanceId⟩ →
    client.ChildWatch ⟨serviceId, none⟩ descriptor
  mainOfInstance : ∀ {serviceId instanceId entry},
    client.watchedIdentifiers ⟨serviceId, some instanceId⟩ = some entry →
    ∃ descriptor, entry.watchDescriptor = some descriptor
  searchesNodup : ∀ {descriptor watch},
    client.watches descriptor = some watch → watch.findServiceHandles.Nodup
  watchesNodup : ∀ {key request},
    client.searchRequests key = some request → request.watchDescriptors.Nodup
  childrenNodup : ∀ {directory entry},
    client.watchedIdentifiers directory = some entry → entry.childWatches.Nodup

def AllSearched (client : ServiceDiscoveryClient) : Prop :=
  ∀ descriptor directory, client.Watches descriptor directory →
    ∃ key, client.WatchLists descriptor key

/-! ## What the operations change -/

section StoreWatch

variable (c : ServiceDiscoveryClient) (wd : InotifyWatchDescriptor)
  (ident : EnrichedInstanceIdentifier) {e : IdentifierWatches}

theorem watches_storeWatch (same : ∀ dir, c.Watches wd dir → dir = ident.directory)
    (o : InotifyWatchDescriptor) (dir : LolaServiceInstanceIdentifier) :
    (c.storeWatch wd ident).Watches o dir ↔ c.Watches o dir ∨ o = wd ∧ dir = ident.directory := by
  unfold Watches storeWatch
  cases found : c.watches wd with
  | some w =>
    have watched : c.Watches wd w.enrichedInstanceIdentifier.directory := ⟨w, found, rfl⟩
    have ownDirectory := same _ watched
    constructor
    · exact .inl
    · rintro (kept | ⟨rfl, rfl⟩)
      · exact kept
      · exact ⟨w, found, ownDirectory⟩
  | none =>
    by_cases isOther : o = wd
    · subst isOther
      simp [found, eq_comm]
    · simp [isOther]

theorem watchLists_storeWatch (o : InotifyWatchDescriptor) (k : FindServiceHandle) :
    (c.storeWatch wd ident).WatchLists o k ↔ c.WatchLists o k := by
  unfold WatchLists storeWatch
  cases found : c.watches wd with
  | some w => rfl
  | none =>
    by_cases isOther : o = wd
    · subst isOther
      simp [found]
    · simp [update_of_ne isOther]

section

variable (dir : LolaServiceInstanceIdentifier)

theorem storeWatch_watchedIdentifiers : (c.storeWatch wd ident).watchedIdentifiers dir =
      if ident.instanceId ≠ none ∧ dir = ⟨ident.serviceId, none⟩ then
        some ⟨(c.watchedIdentifiers dir).bind watchDescriptor,
          ((c.watchedIdentifiers dir).elim [] childWatches).insert wd⟩
      else if dir = ident.directory then
        some ((c.watchedIdentifiers dir).getD ⟨some wd, []⟩)
      else c.watchedIdentifiers dir := by
  rcases ident with ⟨_, sid, _ | inst, _⟩
  · unfold storeWatch directory
    cases found : c.watchedIdentifiers ⟨sid, none⟩ <;>
      by_cases own : dir = ⟨sid, none⟩ <;> simp [found, own]
  · unfold storeWatch directory
    cases found : c.watchedIdentifiers ⟨sid, some inst⟩ <;>
      cases foundAny : c.watchedIdentifiers ⟨sid, none⟩ <;>
        by_cases any : dir = ⟨sid, none⟩ <;> by_cases own : dir = ⟨sid, some inst⟩ <;> simp_all

theorem mainWatch_storeWatch (o : InotifyWatchDescriptor) :
    (c.storeWatch wd ident).MainWatch dir o ↔ c.MainWatch dir o ∨ dir = ident.directory ∧ o = wd ∧
          c.watchedIdentifiers ident.directory = none := by
  unfold MainWatch
  rw [storeWatch_watchedIdentifiers]
  split
  next isAny =>
    have notOwn : dir ≠ ident.directory := by
      simp [isAny.2, directory, isAny.1.symm]
    cases found : c.watchedIdentifiers dir <;> simp [notOwn]
  split
  next isOwn =>
    rw [← isOwn]
    cases found : c.watchedIdentifiers dir <;> simp [eq_comm]
  next notOwn => simp [notOwn]

theorem childWatch_storeWatch (o : InotifyWatchDescriptor) :
    (c.storeWatch wd ident).ChildWatch dir o ↔ c.ChildWatch dir o ∨
        ident.instanceId ≠ none ∧ dir = ⟨ident.serviceId, none⟩ ∧ o = wd := by
  unfold ChildWatch
  rw [storeWatch_watchedIdentifiers]
  split
  next isAny => cases found : c.watchedIdentifiers dir <;> simp [isAny, or_comm]
  next notAny =>
    have notNew : ¬(ident.instanceId ≠ none ∧ dir = ⟨ident.serviceId, none⟩ ∧ o = wd) :=
      fun new => notAny ⟨new.1, new.2.1⟩
    rw [or_iff_left notNew]
    split
    · cases found : c.watchedIdentifiers dir <;> simp
    · rfl

end

end StoreWatch

section Link

variable {c s' : ServiceDiscoveryClient} {wd : InotifyWatchDescriptor}
  {k : FindServiceHandle} {inotify : InotifyInstance}

structure LinkAdded (client : ServiceDiscoveryClient)
    (descriptor : InotifyWatchDescriptor) (key : FindServiceHandle)
    (after : ServiceDiscoveryClient) : Prop where
  watchLists : ∀ other otherKey, after.WatchLists other otherKey ↔
    client.WatchLists other otherKey ∨ other = descriptor ∧ otherKey = key
  searchLists : ∀ otherKey other, after.SearchLists otherKey other ↔
    client.SearchLists otherKey other ∨ other = descriptor ∧ otherKey = key
  watches : ∀ other directory, after.Watches other directory ↔ client.Watches other directory
  searches : ∀ otherKey identifier, after.Searches otherKey identifier ↔
    client.Searches otherKey identifier
  watchedIdentifiers : after.watchedIdentifiers = client.watchedIdentifiers
  searchesNodup : (∀ {other watch}, client.watches other = some watch →
      watch.findServiceHandles.Nodup) →
    ∀ {other watch}, after.watches other = some watch → watch.findServiceHandles.Nodup
  watchesNodup : (∀ {otherKey request}, client.searchRequests otherKey = some request →
      request.watchDescriptors.Nodup) →
    ∀ {otherKey request}, after.searchRequests otherKey = some request →
      request.watchDescriptors.Nodup

theorem linkWatchWithSearchRequest_spec (ok : c.linkWatchWithSearchRequest wd k = .ok s') :
    c.LinkAdded wd k s' := by
  unfold linkWatchWithSearchRequest at ok
  split at ok
  next w req foundW foundReq =>
    cases ok
    constructor
    · intro o k'
      simp only [WatchLists, exists_update_some]
      split
      next same => simp [same, foundW, or_comm]
      next same => simp [same]
    · intro k' o
      simp only [SearchLists, exists_update_some]
      split
      next same => simp [same, foundReq, or_comm]
      next same => simp [same]
    · exact fun _ _ => exists_update_some_iff foundW Iff.rfl
    · exact fun _ _ => exists_update_some_iff foundReq Iff.rfl
    · rfl
    · exact fun nodup _ _ => of_update_some (fun w : Watch => w.findServiceHandles.Nodup)
        (nodup foundW).insert nodup
    · exact fun nodup _ _ => of_update_some (fun req : SearchRequest => req.watchDescriptors.Nodup)
        (nodup foundReq).insert nodup
  next => cases ok

theorem linkWatchWithSearchRequest_ok {dir ident} (watched : c.Watches wd dir)
    (searched : c.Searches k ident) :
    ∃ s', c.linkWatchWithSearchRequest wd k = .ok s' := by
  obtain ⟨w, foundW, -⟩ := watched
  obtain ⟨req, foundReq, -⟩ := searched
  unfold linkWatchWithSearchRequest
  simp only [foundW, foundReq]
  exact ⟨_, rfl⟩

structure LinkRemoved (client : ServiceDiscoveryClient)
    (descriptor : InotifyWatchDescriptor) (key : FindServiceHandle)
    (after : ServiceDiscoveryClient) : Prop where
  watchLists : ∀ other otherKey, after.WatchLists other otherKey ↔
    client.WatchLists other otherKey ∧ ¬(other = descriptor ∧ otherKey = key)
  searchLists : ∀ otherKey other, after.SearchLists otherKey other ↔
    client.SearchLists otherKey other ∧ ¬(other = descriptor ∧ otherKey = key)
  watches : ∀ other directory, after.Watches other directory ↔ client.Watches other directory
  searches : ∀ otherKey identifier, after.Searches otherKey identifier ↔
    client.Searches otherKey identifier
  watchedIdentifiers : after.watchedIdentifiers = client.watchedIdentifiers
  knownInstances : after.knownInstances = client.knownInstances
  searchesNodup : ∀ {other watch}, after.watches other = some watch → watch.findServiceHandles.Nodup
  watchesNodup : ∀ {otherKey request}, after.searchRequests otherKey = some request →
      request.watchDescriptors.Nodup

theorem unlinkWatchWithSearchRequest_spec (kept : c.Bookkeeping inotify) {w req}
    (foundW : c.watches wd = some w)
    (foundReq : c.searchRequests k = some req)
    (linked : k ∈ w.findServiceHandles) :
    ∃ s', c.unlinkWatchWithSearchRequest wd w k req = .ok s' ∧ c.LinkRemoved wd k s' ∧
      s'.watches wd = some { w with
        findServiceHandles := w.findServiceHandles.erase k } := by
  have listed : wd ∈ req.watchDescriptors := by
    obtain ⟨found, foundAgain, mem⟩ := (kept.symmetric wd k).mp ⟨w, foundW, linked⟩
    rw [foundReq, Option.some.injEq] at foundAgain
    exact foundAgain ▸ mem
  unfold unlinkWatchWithSearchRequest
  rw [if_pos ⟨linked, listed⟩]
  refine ⟨_, rfl, ?_, update_self ..⟩
  constructor
  · intro o k'
    simp only [WatchLists, exists_update_some]
    split
    next same => simp [same, foundW, (kept.searchesNodup foundW).mem_erase_iff, and_comm]
    next same => simp [same]
  · intro k' o
    simp only [SearchLists, exists_update_some]
    split
    next same => simp [same, foundReq, (kept.watchesNodup foundReq).mem_erase_iff, and_comm]
    next same => simp [same]
  · exact fun _ _ => exists_update_some_iff foundW Iff.rfl
  · exact fun _ _ => exists_update_some_iff foundReq Iff.rfl
  · rfl
  · rfl
  · exact of_update_some (fun w : Watch => w.findServiceHandles.Nodup)
      ((kept.searchesNodup foundW).erase _) kept.searchesNodup
  · exact of_update_some (fun req : SearchRequest => req.watchDescriptors.Nodup)
      ((kept.watchesNodup foundReq).erase _) kept.watchesNodup

end Link

section Erase

variable {c s' : ServiceDiscoveryClient} {wd : InotifyWatchDescriptor}
  {inotify : InotifyInstance} {o : LolaServiceInstanceIdentifier} {w : Watch}
  {sid : LolaServiceId}

structure WatchErased (client : ServiceDiscoveryClient)
    (descriptor : InotifyWatchDescriptor)
    (directory : LolaServiceInstanceIdentifier)
    (after : ServiceDiscoveryClient) : Prop where
  watches : after.watches = Function.update client.watches descriptor none
  searchRequests : after.searchRequests = client.searchRequests
  knownInstances : after.knownInstances = client.knownInstances
  mainWatch : ∀ other found, after.MainWatch other found ↔
    client.MainWatch other found ∧ other ≠ directory
  childWatch : ∀ other found, after.ChildWatch other found ↔
    client.ChildWatch other found ∧ found ≠ descriptor
  mainOfInstance : ∀ {serviceId instanceId entry},
    after.watchedIdentifiers ⟨serviceId, some instanceId⟩ = some entry →
    ∃ found, entry.watchDescriptor = some found
  childrenNodup : ∀ {other entry},
    after.watchedIdentifiers other = some entry → entry.childWatches.Nodup

theorem Watches.unique {one} (watchesOne : c.Watches wd one)
    (watchesOther : c.Watches wd o) : one = o := by
  obtain ⟨w, found, rfl⟩ := watchesOne
  obtain ⟨again, foundAgain, rfl⟩ := watchesOther
  rw [found, Option.some.injEq] at foundAgain
  rw [foundAgain]

variable (kept : c.Bookkeeping inotify)
include kept

theorem Bookkeeping.child_directory {dir} (watched : c.Watches wd dir) (child : c.ChildWatch o wd) :
    dir.instanceId ≠ none ∧ o = ⟨dir.serviceId, none⟩ := by
  obtain ⟨isService, inst, watchedInstance⟩ := kept.watchOfChild child
  rw [watched.unique watchedInstance]
  refine ⟨nofun, ?_⟩
  cases o
  cases isService
  rfl

variable (foundW : c.watches wd = some w) (unsearched : w.findServiceHandles = [])
include foundW unsearched

theorem eraseWatch_instance {inst}
    (isInstance : w.enrichedInstanceIdentifier.directory = ⟨sid, some inst⟩) :
    ∃ s', c.eraseWatch wd w = .ok s' ∧ c.WatchErased wd ⟨sid, some inst⟩ s' := by
  have watched : c.Watches wd ⟨sid, some inst⟩ := ⟨w, foundW, isInstance⟩
  obtain ⟨e, foundEntry, isChild⟩ := kept.childOfWatch watched
  obtain ⟨sameService, sameInstance⟩ := LolaServiceInstanceIdentifier.mk.inj isInstance
  have differ : (⟨sid, none⟩ : LolaServiceInstanceIdentifier) ≠ ⟨sid, some inst⟩ := nofun
  unfold eraseWatch
  rw [if_neg (not_not_intro unsearched)]
  simp only [sameService, sameInstance, update_of_ne differ, foundEntry]
  refine ⟨_, rfl, rfl, rfl, rfl, ?_, ?_, ?_, ?_⟩
  · intro o found
    unfold MainWatch
    by_cases any : o = ⟨sid, none⟩
    · simp [any, foundEntry]
    · by_cases own : o = ⟨sid, some inst⟩ <;> simp [any, own]
  · intro o found
    by_cases any : o = ⟨sid, none⟩
    · subst any
      simp [ChildWatch, foundEntry, (kept.childrenNodup foundEntry).mem_erase_iff, and_comm]
    · have notChild : ∀ child, c.ChildWatch o child → child ≠ wd :=
        fun child isChild same => any (kept.child_directory watched (same ▸ isChild)).2
      rw [and_iff_left_of_imp (notChild found)]
      by_cases own : o = ⟨sid, some inst⟩
      · subst own
        refine iff_of_false (by simp [ChildWatch]) fun child => ?_
        cases (kept.watchOfChild child).1
      · simp [ChildWatch, any, own]
  · intro sid2 inst2 found st
    simp [update_of_ne] at st
    exact kept.mainOfInstance (of_update_none st)
  · exact of_update_some (fun e : IdentifierWatches => e.childWatches.Nodup)
      ((kept.childrenNodup foundEntry).erase _) fun st => kept.childrenNodup (of_update_none st)

theorem eraseWatch_service (isService : w.enrichedInstanceIdentifier.directory = ⟨sid, none⟩) :
    ∃ s', c.eraseWatch wd w = .ok s' ∧ c.WatchErased wd ⟨sid, none⟩ s' := by
  have watched : c.Watches wd ⟨sid, none⟩ := ⟨w, foundW, isService⟩
  have notChild : ∀ o child, c.ChildWatch o child → child ≠ wd :=
    fun o child isChild same => (kept.child_directory watched (same ▸ isChild)).1 rfl
  obtain ⟨sameService, noInstance⟩ := LolaServiceInstanceIdentifier.mk.inj isService
  unfold eraseWatch
  rw [if_neg (not_not_intro unsearched)]
  simp only [sameService, noInstance]
  cases foundEntry : c.watchedIdentifiers ⟨sid, none⟩ with
  | none =>
    refine ⟨_, rfl, rfl, rfl, rfl, ?_, ?_, kept.mainOfInstance, kept.childrenNodup⟩
    · intro o found
      refine (and_iff_left_of_imp ?_).symm
      rintro ⟨e, foundOther, isMain⟩ rfl
      simp [foundEntry] at foundOther
    · exact fun o found => (and_iff_left_of_imp (notChild o found)).symm
  | some e =>
    refine ⟨_, rfl, rfl, rfl, rfl, ?_, ?_, ?_, ?_⟩
    · intro o found
      by_cases own : o = ⟨sid, none⟩ <;> simp [MainWatch, own]
    · intro o found
      rw [and_iff_left_of_imp (notChild o found)]
      by_cases own : o = ⟨sid, none⟩ <;> simp [ChildWatch, own, foundEntry]
    · intro sid2 inst2 found st
      simp [update_of_ne] at st
      exact kept.mainOfInstance st
    · refine of_update_some (fun e : IdentifierWatches => e.childWatches.Nodup)
        ?_ kept.childrenNodup
      exact (kept.childrenNodup foundEntry : e.childWatches.Nodup)

theorem eraseWatch_spec : ∃ s', c.eraseWatch wd w = .ok s' ∧ c.WatchErased wd
        w.enrichedInstanceIdentifier.directory s' := by
  cases dir : w.enrichedInstanceIdentifier.directory with
  | mk sid inst =>
    cases inst with
    | none => exact eraseWatch_service kept foundW unsearched dir
    | some inst => exact eraseWatch_instance kept foundW unsearched dir

end Erase
/-! ## The bookkeeping is kept -/

section Kept

variable {c s' : ServiceDiscoveryClient} {wd : InotifyWatchDescriptor}
  {k : FindServiceHandle} {inotify : InotifyInstance} {dir : LolaServiceInstanceIdentifier}

theorem bookkeeping_start (inotify : InotifyInstance) : start.Bookkeeping inotify := by
  constructor <;> simp [WatchLists, SearchLists, Watches, MainWatch, ChildWatch, start]

section

variable (kept : c.Bookkeeping inotify)
include kept

theorem Bookkeeping.of_maps {laterInotify}
    (live : ∀ {wd dir}, c.Watches wd dir → laterInotify.descriptors dir = some wd)
    (searchRequests : s'.searchRequests = c.searchRequests)
    (watches : s'.watches = c.watches)
    (watchedIdentifiers : s'.watchedIdentifiers = c.watchedIdentifiers) :
    s'.Bookkeeping laterInotify := by
  rcases c with ⟨_, _, _, _, _⟩
  rcases s' with ⟨_, _, _, _, _⟩
  cases searchRequests
  cases watches
  cases watchedIdentifiers
  exact { kept with descriptor := live }

theorem Bookkeeping.directory_eq {o} (live : inotify.descriptors dir = some wd)
    (watched : c.Watches wd o) : o = dir :=
  inotify.descriptor_injective (kept.descriptor watched) live

theorem Bookkeeping.storeWatch {ident} (live : inotify.descriptors ident.directory = some wd) :
    (c.storeWatch wd ident).Bookkeeping inotify := by
  have watches := c.watches_storeWatch wd ident fun _ watched => kept.directory_eq live watched
  have mainWatch := c.mainWatch_storeWatch wd ident
  have childWatch := c.childWatch_storeWatch wd ident
  constructor
  · intro o k'
    rw [watchLists_storeWatch]
    exact kept.symmetric o k'
  · intro o dir watched
    rcases (watches o dir).mp watched with old | ⟨rfl, rfl⟩
    · exact kept.descriptor old
    · exact live
  · intro dir o isMain
    rw [watches]
    exact ((mainWatch dir o).mp isMain).imp kept.watchOfMain fun own => ⟨own.2.1, own.1⟩
  · intro dir o isChild
    rcases (childWatch dir o).mp isChild with
      old | ⟨isInstance, rfl, rfl⟩
    · obtain ⟨isService, inst, watched⟩ := kept.watchOfChild old
      exact ⟨isService, inst, (watches _ _).mpr (.inl watched)⟩
    · obtain ⟨inst, hasInstance⟩ := Option.ne_none_iff_exists'.mp isInstance
      refine ⟨rfl, inst, (watches _ _).mpr (.inr ⟨rfl, ?_⟩)⟩
      rw [directory, hasInstance]
  · intro o sid inst watched
    rw [mainWatch]
    rcases (watches o _).mp watched with old | ⟨rfl, isOwn⟩
    · exact .inl (kept.mainOfWatch old)
    · -- An entry of the directory would already name this descriptor.
      rw [isOwn]
      cases found : c.watchedIdentifiers ident.directory with
      | none => exact .inr ⟨rfl, rfl, rfl⟩
      | some e =>
        obtain ⟨named, isMain⟩ := kept.mainOfInstance (isOwn ▸ found)
        have namedMain : c.MainWatch ident.directory named := ⟨e, found, isMain⟩
        grind [kept.descriptor (kept.watchOfMain namedMain)]
  · intro o sid inst watched
    rw [childWatch]
    refine ((watches o _).mp watched).imp kept.childOfWatch fun own => ?_
    grind [directory]
  · intro sid inst e st
    rw [storeWatch_watchedIdentifiers, if_neg (by simp)] at st
    split at st
    · cases found : c.watchedIdentifiers ⟨sid, some inst⟩ with
      | none => exact ⟨wd, by grind⟩
      | some old => exact kept.mainOfInstance (found.trans (by grind))
    · exact kept.mainOfInstance st
  · intro o w found
    unfold ServiceDiscoveryClient.storeWatch at found
    cases old : c.watches wd with
    | some _ =>
      simp only [old] at found
      exact kept.searchesNodup found
    | none =>
      simp only [old] at found
      exact of_update_some (fun w : Watch => w.findServiceHandles.Nodup)
        nodup_nil kept.searchesNodup found
  · exact kept.watchesNodup
  · intro dir e st
    rw [storeWatch_watchedIdentifiers] at st
    have nodup := @kept.childrenNodup
    cases found : c.watchedIdentifiers dir with
    | none => grind [nodup_nil, insert]
    | some old => grind [insert]

theorem Bookkeeping.of_links (symmetric : ∀ wd k, s'.WatchLists wd k ↔ s'.SearchLists k wd)
    (watches : ∀ o dir, s'.Watches o dir ↔ c.Watches o dir)
    (watchedIdentifiers : s'.watchedIdentifiers = c.watchedIdentifiers)
    (searchesNodup : ∀ {wd w}, s'.watches wd = some w → w.findServiceHandles.Nodup)
    (watchesNodup : ∀ {k req}, s'.searchRequests k = some req → req.watchDescriptors.Nodup) :
    s'.Bookkeeping inotify := by
  have mainWatch : ∀ dir o, s'.MainWatch dir o ↔ c.MainWatch dir o := by
    simp [MainWatch, watchedIdentifiers]
  have childWatch : ∀ dir o, s'.ChildWatch dir o ↔ c.ChildWatch dir o := by
    simp [ChildWatch, watchedIdentifiers]
  refine ⟨symmetric, ?_, ?_, ?_, ?_, ?_, ?_, searchesNodup, watchesNodup, ?_⟩
  · simp only [watches]
    exact kept.descriptor
  · simp only [watches, mainWatch]
    exact kept.watchOfMain
  · simp only [watches, childWatch]
    exact kept.watchOfChild
  · simp only [watches, mainWatch]
    exact kept.mainOfWatch
  · simp only [watches, childWatch]
    exact kept.childOfWatch
  · simp only [watchedIdentifiers]
    exact kept.mainOfInstance
  · simp only [watchedIdentifiers]
    exact kept.childrenNodup

theorem Bookkeeping.linkAdded (linked : c.LinkAdded wd k s') : s'.Bookkeeping inotify := by
  refine kept.of_links ?_ linked.watches linked.watchedIdentifiers
    (linked.searchesNodup kept.searchesNodup)
    (linked.watchesNodup kept.watchesNodup)
  intro o k'
  rw [linked.watchLists, linked.searchLists, kept.symmetric]

theorem Bookkeeping.linkRemoved (unlinked : c.LinkRemoved wd k s') : s'.Bookkeeping inotify := by
  refine kept.of_links ?_ unlinked.watches unlinked.watchedIdentifiers
    unlinked.searchesNodup unlinked.watchesNodup
  intro o k'
  rw [unlinked.watchLists, unlinked.searchLists, kept.symmetric]

end

theorem watches_watchErased (erased : c.WatchErased wd dir s')
    (o : InotifyWatchDescriptor) (otherDirectory : LolaServiceInstanceIdentifier) :
    s'.Watches o otherDirectory ↔ c.Watches o otherDirectory ∧ o ≠ wd := by
  by_cases same : o = wd <;> simp [Watches, erased.watches, same]

theorem watchLists_watchErased (erased : c.WatchErased wd dir s')
    (unsearched : ∀ k, ¬ c.WatchLists wd k)
    (o : InotifyWatchDescriptor) (k' : FindServiceHandle) :
    s'.WatchLists o k' ↔ c.WatchLists o k' := by
  by_cases same : o = wd
  · subst same
    refine iff_of_false ?_ (unsearched k')
    simp [WatchLists, erased.watches]
  · simp [WatchLists, erased.watches, same]

theorem Bookkeeping.watchErased (kept : c.Bookkeeping inotify) (watched : c.Watches wd dir)
    (unsearched : ∀ k, ¬ c.WatchLists wd k)
    (erased : c.WatchErased wd dir s') : s'.Bookkeeping inotify := by
  have watches := watches_watchErased erased
  constructor
  · intro o k'
    rw [watchLists_watchErased erased unsearched, kept.symmetric]
    simp only [SearchLists, erased.searchRequests]
  · intro o otherDirectory otherWatched
    exact kept.descriptor ((watches _ _).mp otherWatched).1
  · intro otherDirectory o isMain
    obtain ⟨old, otherName⟩ := (erased.mainWatch _ _).mp isMain
    grind [kept.watchOfMain old, Watches.unique]
  · intro otherDirectory o isChild
    obtain ⟨old, differ⟩ := (erased.childWatch _ _).mp isChild
    grind [kept.watchOfChild old]
  · intro o sid inst otherWatched
    obtain ⟨old, differ⟩ := (watches _ _).mp otherWatched
    grind [erased.mainWatch, kept.mainOfWatch old, kept.descriptor old, kept.descriptor watched]
  · intro o sid inst otherWatched
    obtain ⟨old, differ⟩ := (watches _ _).mp otherWatched
    exact (erased.childWatch _ _).mpr ⟨kept.childOfWatch old, differ⟩
  · exact erased.mainOfInstance
  · intro o w found
    rw [erased.watches] at found
    exact kept.searchesNodup (of_update_none found)
  · simp only [erased.searchRequests]
    exact kept.watchesNodup
  · exact erased.childrenNodup

end Kept
/-! ## The end of searches -/

def Unwatches (client after : ServiceDiscoveryClient)
    (entry : LolaServiceId × LolaInstanceId) : Prop :=
  ∃ descriptor, client.Watches descriptor ⟨entry.1, some entry.2⟩ ∧
    ¬ after.Watches descriptor ⟨entry.1, some entry.2⟩

/-- Links and searches end.  A watch ends with its last link, and its instance is
forgotten. -/
structure Releases (client : ServiceDiscoveryClient)
    (removed : InotifyWatchDescriptor → FindServiceHandle → Prop)
    (ended : FindServiceHandle → Prop) (after : ServiceDiscoveryClient) : Prop where
  watchLists : ∀ descriptor key, after.WatchLists descriptor key ↔
    client.WatchLists descriptor key ∧ ¬ removed descriptor key
  watches : ∀ descriptor directory, after.Watches descriptor directory ↔
    client.Watches descriptor directory ∧ ∃ key, after.WatchLists descriptor key
  searches : ∀ key identifier, after.Searches key identifier ↔
    client.Searches key identifier ∧ ¬ ended key
  knownInstances : ∀ quality entry, entry ∈ after.knownInstances quality ↔
    entry ∈ client.knownInstances quality ∧ ¬ client.Unwatches after entry
  obsoleteSearchRequests : after.obsoleteSearchRequests = client.obsoleteSearchRequests

section Releases

variable {c mid s' : ServiceDiscoveryClient}
  {removed removedLater : InotifyWatchDescriptor → FindServiceHandle → Prop}
  {ended endedLater : FindServiceHandle → Prop}

theorem Releases.allSearched (released : c.Releases removed ended s') : s'.AllSearched :=
  fun wd dir watched => ((released.watches wd dir).mp watched).2

theorem Releases.watches_before (released : c.Releases removed ended s') {wd dir}
    (watched : s'.Watches wd dir) : c.Watches wd dir :=
  ((released.watches wd dir).mp watched).1

theorem Releases.refl (searched : c.AllSearched)
    (unlisted : ∀ wd k, removed wd k → ¬ c.WatchLists wd k)
    (missing : ∀ k ident, ended k → ¬ c.Searches k ident) :
    c.Releases removed ended c where
  watchLists wd k := ⟨fun listed => ⟨listed, fun gone => unlisted wd k gone listed⟩, And.left⟩
  watches wd dir := ⟨fun watched => ⟨watched, searched wd dir watched⟩, And.left⟩
  searches k ident := ⟨fun found => ⟨found, fun gone => missing k ident gone found⟩, And.left⟩
  knownInstances _ _ :=
    ⟨fun known => ⟨known, fun ⟨_, watched, unwatched⟩ => unwatched watched⟩, And.left⟩
  obsoleteSearchRequests := rfl

theorem Releases.trans (first : c.Releases removed ended mid)
    (second : mid.Releases removedLater endedLater s') :
    c.Releases (fun wd k => removed wd k ∨ removedLater wd k)
      (fun k => ended k ∨ endedLater k) s' where
  watchLists wd k := by
    rw [second.watchLists, first.watchLists, not_or, and_assoc]
  watches wd dir := by
    rw [second.watches, first.watches]
    grind [second.watchLists]
  searches k ident := by
    rw [second.searches, first.searches, not_or, and_assoc]
  knownInstances q e := by
    rw [second.knownInstances, first.knownInstances, and_assoc, ← not_or]
    refine and_congr_right fun _ => not_congr ?_
    -- A watch ends in the first part, or it is still there and ends in the second.
    grind [Unwatches, first.watches, second.watches]
  obsoleteSearchRequests := second.obsoleteSearchRequests.trans first.obsoleteSearchRequests

end Releases

section Transfer

variable {c : ServiceDiscoveryClient} {inotify : InotifyInstance} {k : FindServiceHandle}
  {wd : InotifyWatchDescriptor} {s' : ServiceDiscoveryClient} {w : Watch}

theorem mem_remove {known : KnownInstancesContainer} {ident : EnrichedInstanceIdentifier}
    {e : LolaServiceId × LolaInstanceId} :
    e ∈ known.remove ident ↔ e ∈ known ∧ ident.directory ≠ ⟨e.1, some e.2⟩ := by
  rcases ident with ⟨_, sid, _ | inst, _⟩
  · simp [remove, directory]
  · simp only [remove, Finset.mem_erase,
      directory]
    grind

theorem unlinkWatchWithSearchRequest_obsolete {req}
    (unlink : c.unlinkWatchWithSearchRequest wd w k req =
      .ok s') : s'.obsoleteSearchRequests = c.obsoleteSearchRequests := by
  unfold unlinkWatchWithSearchRequest at unlink
  split at unlink
  · cases unlink
    rfl
  · cases unlink

theorem eraseWatch_obsolete (erase : c.eraseWatch wd w = .ok s') :
    s'.obsoleteSearchRequests = c.obsoleteSearchRequests := by
  unfold eraseWatch at erase
  split at erase
  · cases erase
  · cases erase
    rfl

theorem LinkRemoved.releases (searched : c.AllSearched) (unlinked : c.LinkRemoved wd k s')
    (obsolete : s'.obsoleteSearchRequests = c.obsoleteSearchRequests)
    (others : ∃ k', s'.WatchLists wd k') :
    c.Releases (fun o k' => o = wd ∧ k' = k) (fun _ => False) s' where
  watchLists := unlinked.watchLists
  watches o dir := by
    rw [unlinked.watches]
    refine (and_iff_left_of_imp fun watched => ?_).symm
    by_cases same : o = wd
    · exact same ▸ others
    · obtain ⟨k', lists⟩ := searched o dir watched
      exact ⟨k', (unlinked.watchLists o k').mpr ⟨lists, fun removed => same removed.1⟩⟩
  searches k' ident := by
    simp [unlinked.searches]
  knownInstances q e := by
    simp [unlinked.knownInstances, Unwatches, unlinked.watches]
  obsoleteSearchRequests := obsolete

theorem WatchErased.releases {unlinked : ServiceDiscoveryClient}
    (foundW : c.watches wd = some w) (searched : c.AllSearched)
    (removedLink : c.LinkRemoved wd k unlinked)
    (obsolete : s'.obsoleteSearchRequests = c.obsoleteSearchRequests)
    (unsearched : ∀ k', ¬ unlinked.WatchLists wd k')
    (erased : ({ unlinked with
        knownInstances := fun q =>
          (unlinked.knownInstances q).remove w.enrichedInstanceIdentifier } :
      ServiceDiscoveryClient).WatchErased wd w.enrichedInstanceIdentifier.directory s') :
    c.Releases (fun o k' => o = wd ∧ k' = k) (fun _ => False) s' := by
  have watchLists := fun o k' =>
    (watchLists_watchErased erased unsearched o k').trans (removedLink.watchLists o k')
  have watches : ∀ o dir, s'.Watches o dir ↔ c.Watches o dir ∧ o ≠ wd :=
    fun o dir => (watches_watchErased erased o dir).trans
      (and_congr_left fun _ => removedLink.watches o dir)
  have watched : c.Watches wd w.enrichedInstanceIdentifier.directory := ⟨w, foundW, rfl⟩
  refine ⟨watchLists, ?_, ?_, ?_, obsolete⟩
  · intro o dir
    rw [watches]
    refine and_congr_right fun watchedOther => ⟨fun differ => ?_, ?_⟩
    · obtain ⟨k', lists⟩ := searched o dir watchedOther
      exact ⟨k', (watchLists o k').mpr ⟨lists, fun removed => differ removed.1⟩⟩
    · rintro ⟨k', lists⟩ rfl
      exact unsearched k' ((removedLink.watchLists _ _).mpr ((watchLists _ _).mp lists))
  · intro k' ident
    simpa [Searches, erased.searchRequests] using removedLink.searches k' ident
  · intro q e
    rw [erased.knownInstances, mem_remove, removedLink.knownInstances]
    refine and_congr_right fun _ => not_congr ⟨fun same => ?_, ?_⟩
    · rw [same] at watched
      exact ⟨wd, watched, fun later => ((watches wd _).mp later).2 rfl⟩
    · rintro ⟨o, watchedOther, unwatched⟩
      grind [watched.unique, watches o _]

variable (kept : c.Bookkeeping inotify)
include kept

theorem releaseWatch_spec (searched : c.AllSearched) (listed : c.SearchLists k wd) :
    ∃ s', c.releaseWatch k wd = .ok s' ∧ s'.Bookkeeping inotify ∧
      c.Releases (fun o k' => o = wd ∧ k' = k) (fun _ => False) s' := by
  obtain ⟨w, foundW, mem⟩ := (kept.symmetric wd k).mpr listed
  obtain ⟨req, foundReq, -⟩ := listed
  obtain ⟨unlinked, unlink, removedLink, foundUnlinked⟩ :=
    unlinkWatchWithSearchRequest_spec kept foundW foundReq mem
  have keptUnlinked := kept.linkRemoved removedLink
  have obsolete := unlinkWatchWithSearchRequest_obsolete unlink
  have lists : ∀ k', unlinked.WatchLists wd k' ↔ k' ∈ w.findServiceHandles.erase k := by
    intro k'
    unfold WatchLists
    simp [foundUnlinked]
  unfold releaseWatch
  simp only [foundW, foundReq, unlink, bind, Except.bind, foundUnlinked]
  by_cases last : w.findServiceHandles.erase k = []
  · rw [if_pos last]
    have keptForgotten : Bookkeeping inotify { unlinked with
        knownInstances := fun q =>
          (unlinked.knownInstances q).remove w.enrichedInstanceIdentifier } :=
      keptUnlinked.of_maps keptUnlinked.descriptor rfl rfl rfl
    obtain ⟨s', erase, erased⟩ := eraseWatch_spec keptForgotten foundUnlinked last
    have unsearched : ∀ k', ¬ unlinked.WatchLists wd k' := by
      intro k'
      rw [lists, last]
      exact not_mem_nil
    have obsoleteAfter := (eraseWatch_obsolete erase).trans obsolete
    refine ⟨s', erase, ?_, erased.releases foundW searched removedLink obsoleteAfter unsearched⟩
    exact keptForgotten.watchErased ⟨_, foundUnlinked, rfl⟩ unsearched erased
  · rw [if_neg last]
    obtain ⟨k', others⟩ := exists_mem_of_ne_nil _ last
    exact ⟨unlinked, rfl, keptUnlinked, removedLink.releases searched obsolete
      ⟨k', (lists k').mpr others⟩⟩

theorem releaseWatches_spec (searched : c.AllSearched) {wds} (nodup : wds.Nodup)
    (listed : ∀ wd ∈ wds, c.SearchLists k wd) :
    ∃ s', c.releaseWatches k wds = .ok s' ∧ s'.Bookkeeping inotify ∧
      c.Releases (fun o k' => o ∈ wds ∧ k' = k) (fun _ => False) s' := by
  induction wds generalizing c with
  | nil =>
    refine ⟨c, rfl, kept, .refl searched ?_ ?_⟩
    · rintro o k' ⟨mem, -⟩
      exact absurd mem not_mem_nil
    · exact fun _ _ bad => bad.elim
  | cons wd wds ih =>
    obtain ⟨fresh, nodupRest⟩ := nodup_cons.mp nodup
    obtain ⟨mid, release, keptMiddle, released⟩ :=
      releaseWatch_spec kept searched (listed wd mem_cons_self)
    have listedMiddle : ∀ o ∈ wds, mid.SearchLists k o := by
      intro o mem
      have lists := (kept.symmetric o k).mpr (listed o (mem_cons_of_mem _ mem))
      refine (keptMiddle.symmetric o k).mp
        ((released.watchLists o k).mpr ⟨lists, fun removed => ?_⟩)
      exact fresh (removed.1 ▸ mem)
    obtain ⟨s', rest, keptAfter, releasedRest⟩ :=
      ih keptMiddle released.allSearched nodupRest listedMiddle
    refine ⟨s', ?_, keptAfter, ?_⟩
    · rw [releaseWatches, release]
      exact rest
    · simpa only [mem_cons, or_and_right, or_self] using released.trans releasedRest

theorem Bookkeeping.eraseSearch (unlisted : ∀ wd, ¬ c.SearchLists k wd) :
    Bookkeeping inotify { c with
      searchRequests := update c.searchRequests k none } := by
  refine kept.of_links ?_ (fun _ _ => Iff.rfl) rfl kept.searchesNodup ?_
  · intro wd k'
    refine (kept.symmetric wd k').trans ?_
    by_cases same : k' = k
    · subst same
      exact iff_of_false (unlisted wd) (by simp [SearchLists])
    · simp [SearchLists, same]
  · exact fun found => kept.watchesNodup (of_update_none found)

theorem transferObsoleteSearchRequest_spec (searched : c.AllSearched) :
    ∃ s', c.transferObsoleteSearchRequest k = .ok s' ∧ s'.Bookkeeping inotify ∧
      c.Releases (fun _ k' => k' = k) (fun k' => k' = k) s' := by
  unfold transferObsoleteSearchRequest
  cases found : c.searchRequests k with
  | none =>
    have missing : ∀ wd, ¬ c.SearchLists k wd := by
      rintro wd ⟨req, foundAgain, -⟩
      rw [found] at foundAgain
      cases foundAgain
    refine ⟨c, rfl, kept, .refl searched ?_ ?_⟩
    · rintro wd k' rfl lists
      exact missing wd ((kept.symmetric _ _).mp lists)
    · rintro k' ident rfl ⟨req, foundAgain, -⟩
      rw [found] at foundAgain
      cases foundAgain
  | some req =>
    have listed : ∀ wd, c.SearchLists k wd ↔ wd ∈ req.watchDescriptors := by
      intro wd
      unfold SearchLists
      simp [found]
    obtain ⟨mid, release, keptMiddle, released⟩ :=
      releaseWatches_spec kept searched (kept.watchesNodup found) fun wd mem => (listed wd).mpr mem
    have unlisted : ∀ wd, ¬ mid.SearchLists k wd := by
      intro wd lists
      obtain ⟨listsBefore, notRemoved⟩ := (released.watchLists _ _).mp
        ((keptMiddle.symmetric _ _).mpr lists)
      exact notRemoved ⟨(listed _).mp ((kept.symmetric _ _).mp listsBefore), rfl⟩
    simp only [release, bind, bind]
    refine ⟨_, rfl, keptMiddle.eraseSearch unlisted, ?_, ?_, ?_,
      released.knownInstances, released.obsoleteSearchRequests⟩
    · intro wd k'
      refine (released.watchLists wd k').trans ?_
      refine and_congr_right fun lists => not_congr ⟨And.right, fun same => ⟨?_, same⟩⟩
      subst same
      exact (listed _).mp ((kept.symmetric _ _).mp lists)
    · exact released.watches
    · intro k' ident
      have foundMiddle := released.searches k' ident
      rw [not_false_eq_true, and_true] at foundMiddle
      rw [← foundMiddle]
      unfold Searches
      by_cases same : k' = k
      · simp [same]
      · simp [same]

theorem transferEach_spec (searched : c.AllSearched) (keys : List FindServiceHandle) :
    ∃ s', c.transferEach keys = .ok s' ∧ s'.Bookkeeping inotify ∧
      c.Releases (fun _ k => k ∈ keys) (fun k => k ∈ keys) s' := by
  induction keys generalizing c with
  | nil =>
    refine ⟨c, rfl, kept, .refl searched ?_ ?_⟩
    · exact fun _ _ mem => absurd mem not_mem_nil
    · exact fun _ _ mem => absurd mem not_mem_nil
  | cons k keys ih =>
    obtain ⟨mid, transfer, keptMiddle, released⟩ := transferObsoleteSearchRequest_spec kept searched
    obtain ⟨s', rest, keptAfter, releasedRest⟩ := ih keptMiddle released.allSearched
    refine ⟨s', ?_, keptAfter, ?_⟩
    · rw [transferEach, transfer]
      exact rest
    · simpa only [mem_cons] using released.trans releasedRest

end Transfer
/-! ## New watches and links -/

structure Stores (client : ServiceDiscoveryClient)
    (links : InotifyWatchDescriptor → FindServiceHandle → Prop)
    (watched : InotifyWatchDescriptor → LolaServiceInstanceIdentifier → Prop)
    (after : ServiceDiscoveryClient) : Prop where
  watchLists : ∀ descriptor key, after.WatchLists descriptor key ↔
    client.WatchLists descriptor key ∨ links descriptor key
  watches : ∀ descriptor directory, after.Watches descriptor directory ↔
    client.Watches descriptor directory ∨ watched descriptor directory
  searches : ∀ key identifier, after.Searches key identifier ↔ client.Searches key identifier
  knownInstances : after.knownInstances = client.knownInstances
  obsoleteSearchRequests : after.obsoleteSearchRequests = client.obsoleteSearchRequests

section Stores

variable {c mid s' : ServiceDiscoveryClient}
  {links linksLater : InotifyWatchDescriptor → FindServiceHandle → Prop}
  {watched watchedLater : InotifyWatchDescriptor → LolaServiceInstanceIdentifier → Prop}

theorem Stores.refl : c.Stores (fun _ _ => False) (fun _ _ => False) c where
  watchLists _ _ := (or_false _).symm ▸ Iff.rfl
  watches _ _ := (or_false _).symm ▸ Iff.rfl
  searches _ _ := Iff.rfl
  knownInstances := rfl
  obsoleteSearchRequests := rfl

theorem Stores.trans (first : c.Stores links watched mid)
    (second : mid.Stores linksLater watchedLater s') :
    c.Stores (fun wd k => links wd k ∨ linksLater wd k)
      (fun wd dir => watched wd dir ∨ watchedLater wd dir)
      s' where
  watchLists wd k := by
    rw [second.watchLists, first.watchLists, or_assoc]
  watches wd dir := by
    rw [second.watches, first.watches, or_assoc]
  searches k ident := by
    rw [second.searches, first.searches]
  knownInstances := second.knownInstances.trans first.knownInstances
  obsoleteSearchRequests := second.obsoleteSearchRequests.trans first.obsoleteSearchRequests

end Stores

section Store

variable {c s' : ServiceDiscoveryClient} {inotify : InotifyInstance}
  {k : FindServiceHandle} {wd : InotifyWatchDescriptor}
  {ident : EnrichedInstanceIdentifier}

theorem stores_storeWatch (kept : c.Bookkeeping inotify)
    (live : inotify.descriptors ident.directory = some wd) :
    c.Stores (fun _ _ => False) (fun o dir => o = wd ∧ dir = ident.directory)
      (c.storeWatch wd ident) where
  watchLists o k' := by
    rw [watchLists_storeWatch, or_false]
  watches := c.watches_storeWatch wd ident fun _ isWatched => kept.directory_eq live isWatched
  searches _ _ := Iff.rfl
  knownInstances := rfl
  obsoleteSearchRequests := rfl

theorem stores_link (ok : c.linkWatchWithSearchRequest wd k = .ok s') :
    c.Stores (fun o k' => o = wd ∧ k' = k) (fun _ _ => False) s' := by
  have added := linkWatchWithSearchRequest_spec ok
  unfold linkWatchWithSearchRequest at ok
  split at ok
  · cases ok
    refine ⟨added.watchLists, fun o dir => ?_, added.searches, rfl, rfl⟩
    rw [added.watches, or_false]
  · cases ok

theorem linkSearches_spec (kept : c.Bookkeeping inotify) {dir} (isWatched : c.Watches wd dir) {keys}
    (searched : ∀ k ∈ keys, ∃ ident, c.Searches k ident) :
    ∃ s', c.linkSearches wd keys = .ok s' ∧ s'.Bookkeeping inotify ∧
      c.Stores (fun o k => o = wd ∧ k ∈ keys) (fun _ _ => False) s' := by
  induction keys generalizing c with
  | nil => exact ⟨c, rfl, kept, by simpa using Stores.refl⟩
  | cons k keys ih =>
    obtain ⟨ident, found⟩ := searched k mem_cons_self
    obtain ⟨mid, link⟩ := linkWatchWithSearchRequest_ok isWatched found
    have st := stores_link link
    have searchedMiddle : ∀ k' ∈ keys, ∃ ident, mid.Searches k' ident := by
      intro k' mem
      obtain ⟨otherIdentifier, foundOther⟩ := searched k' (mem_cons_of_mem _ mem)
      exact ⟨otherIdentifier, (st.searches _ _).mpr foundOther⟩
    obtain ⟨s', rest, keptAfter, storedRest⟩ :=
      ih (kept.linkAdded (linkWatchWithSearchRequest_spec link))
        ((st.watches _ _).mpr (.inl isWatched)) searchedMiddle
    refine ⟨s', ?_, keptAfter, ?_⟩
    · rw [linkSearches, link]
      exact rest
    · simpa only [mem_cons, and_or_left, or_self] using st.trans storedRest

theorem storeWatches_spec (kept : c.Bookkeeping inotify) (found : c.Searches k ident) {watches}
    (live : ∀ w ∈ watches, inotify.descriptors w.2.directory = some w.1) :
    ∃ s', c.storeWatches k watches = .ok s' ∧ s'.Bookkeeping inotify ∧
      c.Stores (fun wd k' => k' = k ∧ ∃ w ∈ watches, w.1 = wd)
        (fun wd dir => ∃ w ∈ watches, w.1 = wd ∧ w.2.directory = dir) s' := by
  induction watches generalizing c with
  | nil => exact ⟨c, rfl, kept, by simpa using Stores.refl⟩
  | cons w watches ih =>
    have liveWatch := live w mem_cons_self
    have keptStored := kept.storeWatch liveWatch
    have st := stores_storeWatch kept liveWatch
    have isWatched : (c.storeWatch w.1 w.2).Watches w.1
        w.2.directory := (st.watches _ _).mpr (.inr ⟨rfl, rfl⟩)
    obtain ⟨mid, link⟩ := linkWatchWithSearchRequest_ok isWatched ((st.searches _ _).mpr found)
    have linked := st.trans (stores_link link)
    obtain ⟨s', rest, keptAfter, storedRest⟩ :=
      ih (keptStored.linkAdded (linkWatchWithSearchRequest_spec link))
        ((linked.searches _ _).mpr found)
        fun o mem => live o (mem_cons_of_mem _ mem)
    refine ⟨s', ?_, keptAfter, ?_⟩
    · rw [storeWatches, link]
      exact rest
    · simp only [exists_mem_cons_iff, and_or_left]
      simpa only [false_or, or_false, and_comm, eq_comm] using linked.trans storedRest

end Store
section NewSearch

variable {c : ServiceDiscoveryClient} {inotify : InotifyInstance} {k : FindServiceHandle}

/-- A new search has its watches, and what was crawled is known. -/
structure SearchStarted (client : ServiceDiscoveryClient)
    (key : FindServiceHandle) (identifier : EnrichedInstanceIdentifier)
    (crawled : FlagFileCrawler.Crawled) (after : ServiceDiscoveryClient) :
    Prop where
  watchLists : ∀ descriptor otherKey, after.WatchLists descriptor otherKey ↔
    client.WatchLists descriptor otherKey ∨
      otherKey = key ∧ ∃ watch ∈ crawled.watchDescriptors, watch.1 = descriptor
  watches : ∀ descriptor directory, after.Watches descriptor directory ↔
    client.Watches descriptor directory ∨ ∃ watch ∈ crawled.watchDescriptors,
        watch.1 = descriptor ∧ watch.2.directory = directory
  searches : ∀ otherKey otherIdentifier, after.Searches otherKey otherIdentifier ↔
      client.Searches otherKey otherIdentifier ∨ otherKey = key ∧ otherIdentifier = identifier
  knownInstances : ∀ quality, after.knownInstances quality =
    client.knownInstances quality ∪ crawled.knownInstances quality
  obsoleteSearchRequests : after.obsoleteSearchRequests = client.obsoleteSearchRequests

theorem Bookkeeping.withSearch (kept : c.Bookkeeping inotify)
    (ident : EnrichedInstanceIdentifier) (handles : Finset HandleType)
    (unused : c.searchRequests k = none) :
    (c.withSearch k ident handles).Bookkeeping inotify := by
  refine kept.of_links ?_ (fun _ _ => Iff.rfl) rfl kept.searchesNodup ?_
  · intro wd k'
    refine (kept.symmetric wd k').trans ?_
    simp only [SearchLists, ServiceDiscoveryClient.withSearch, exists_update_some]
    split
    next same => simp [same, unused]
    next => rfl
  · exact of_update_some (fun req : SearchRequest => req.watchDescriptors.Nodup)
      nodup_nil kept.watchesNodup

theorem transferNewSearchRequest_spec (kept : c.Bookkeeping inotify)
    (unused : c.searchRequests k = none) {crawled}
    (live : ∀ w ∈ crawled.watchDescriptors, inotify.descriptors w.2.directory = some w.1)
    (ident : EnrichedInstanceIdentifier) (handles : Finset HandleType) :
    ∃ s', c.transferNewSearchRequest k ident crawled handles = .ok s' ∧ s'.Bookkeeping inotify ∧
      c.SearchStarted k ident crawled s' := by
  have searches : ∀ k' o, (c.withSearch k ident handles).Searches k' o ↔
      c.Searches k' o ∨ k' = k ∧ o = ident := by
    intro k' o
    simp only [Searches, withSearch, exists_update_some]
    split
    next same => simp [same, unused, eq_comm]
    next same => simp [same]
  obtain ⟨mid, store, keptMiddle, st⟩ := storeWatches_spec (kept.withSearch ident handles unused)
    ((searches k ident).mpr (.inr ⟨rfl, rfl⟩)) live
  refine ⟨mid.mergeKnownInstances crawled.knownInstances, ?_, ?_, ?_⟩
  · unfold transferNewSearchRequest
    rw [unused]
    unfold withSearch at store
    simp only [store, bind, Except.bind]
  · exact keptMiddle.of_maps keptMiddle.descriptor rfl rfl rfl
  · refine { st with searches := ?_, knownInstances := ?_ }
    · intro k' otherIdentifier
      exact (st.searches k' otherIdentifier).trans (searches k' otherIdentifier)
    · intro q
      rw [mergeKnownInstances, st.knownInstances]
      rfl

theorem matchingWatches_spec {wds} (watched : ∀ wd ∈ wds, ∃ dir, c.Watches wd dir) :
    ∃ watches, c.matchingWatches wds = .ok watches ∧ watches.map Prod.fst = wds ∧
      ∀ w ∈ watches, c.Watches w.1 w.2.directory := by
  induction wds with
  | nil => exact ⟨[], rfl, rfl, fun _ mem => absurd mem not_mem_nil⟩
  | cons wd wds ih =>
    obtain ⟨dir, w, found, isDirectory⟩ := watched wd mem_cons_self
    obtain ⟨watches, matching, all, areWatched⟩ := ih fun o mem => watched o (mem_cons_of_mem _ mem)
    refine ⟨(wd, w.enrichedInstanceIdentifier) :: watches, ?_, ?_, ?_⟩
    · rw [matchingWatches]
      simp only [found, matching, bind, Except.bind]
    · rw [map_cons, all]
    · intro o mem
      rcases mem_cons.mp mem with rfl | later
      · exact ⟨w, found, rfl⟩
      · exact areWatched o later

end NewSearch
end ServiceDiscoveryClient

end ScoreIntegration.Lola
