import Mathlib.Data.List.Nodup
import Mathlib.Data.List.TakeWhile
import ScoreIntegration.Lola.ServiceDiscoveryClient

/-!
# The file system as the discovery client sees it

The directories of the instances, and the inotify instance with its live watches and its
queue of unread events.  Adding a watch once more gives the same descriptor, and a
descriptor is not used again.  Which flag files a crawl finds is left open.
-/

namespace ScoreIntegration.Lola

open EnrichedInstanceIdentifier List Function Nat FlagFileCrawler

def EnrichedInstanceIdentifier.directory (identifier : EnrichedInstanceIdentifier) :
    LolaServiceInstanceIdentifier :=
  ⟨identifier.serviceId, identifier.instanceId⟩

structure InotifyInstance where
  descriptors : LolaServiceInstanceIdentifier → Option InotifyWatchDescriptor
  nextDescriptor : InotifyWatchDescriptor
  queue : List InotifyEvent
  descriptor_lt : ∀ {directory descriptor},
    descriptors directory = some descriptor → descriptor < nextDescriptor
  descriptor_injective : ∀ {directory other descriptor}, descriptors directory = some descriptor →
    descriptors other = some descriptor → directory = other

namespace InotifyInstance

def start : InotifyInstance where
  descriptors := fun _ => none
  nextDescriptor := 0
  queue := []
  descriptor_lt := nofun
  descriptor_injective := nofun

variable (inotify : InotifyInstance)

/-- `AddWatch` of a directory without a live watch. -/
def watchNew (directory : LolaServiceInstanceIdentifier) : InotifyInstance where
  descriptors := Function.update inotify.descriptors directory (some inotify.nextDescriptor)
  nextDescriptor := inotify.nextDescriptor + 1
  queue := inotify.queue
  descriptor_lt := by
    intro other descriptor found
    by_cases same : other = directory
    · subst same
      rw [Function.update_self, Option.some.injEq] at found
      exact found ▸ Nat.lt_succ_self _
    · rw [Function.update_of_ne same] at found
      exact Nat.lt_succ_of_lt (inotify.descriptor_lt found)
  descriptor_injective := by
    intro one other descriptor foundOne foundOther
    by_cases sameOne : one = directory
    · by_cases sameOther : other = directory
      · exact sameOne.trans sameOther.symm
      · subst sameOne
        rw [Function.update_self, Option.some.injEq] at foundOne
        rw [Function.update_of_ne sameOther] at foundOther
        have older := inotify.descriptor_lt foundOther
        exact absurd foundOne (Nat.ne_of_gt older)
    · rw [Function.update_of_ne sameOne] at foundOne
      by_cases sameOther : other = directory
      · subst sameOther
        rw [Function.update_self, Option.some.injEq] at foundOther
        have older := inotify.descriptor_lt foundOne
        exact absurd foundOther (Nat.ne_of_gt older)
      · rw [Function.update_of_ne sameOther] at foundOther
        exact inotify.descriptor_injective foundOne foundOther

def addWatch (directory : LolaServiceInstanceIdentifier) :
    InotifyInstance × InotifyWatchDescriptor :=
  match inotify.descriptors directory with
  | some descriptor => (inotify, descriptor)
  | none => (inotify.watchNew directory, inotify.nextDescriptor)

/-- `RemoveWatch` of the descriptors that are no longer wanted. -/
def removeWatches (unwanted : InotifyWatchDescriptor → Bool) : InotifyInstance where
  descriptors := fun directory =>
    (inotify.descriptors directory).filter fun descriptor => !unwanted descriptor
  nextDescriptor := inotify.nextDescriptor
  queue := inotify.queue
  descriptor_lt := by
    intro directory descriptor found
    exact inotify.descriptor_lt (Option.filter_eq_some_iff.mp found).1
  descriptor_injective := by
    intro one other descriptor foundOne foundOther
    exact inotify.descriptor_injective (Option.filter_eq_some_iff.mp foundOne).1
      (Option.filter_eq_some_iff.mp foundOther).1

/-- An event in a directory is queued if the directory is watched. -/
def notify (directory : LolaServiceInstanceIdentifier)
    (event : InotifyWatchDescriptor → InotifyEvent) : InotifyInstance :=
  match inotify.descriptors directory with
  | some descriptor => { inotify with queue := inotify.queue ++ [event descriptor] }
  | none => inotify

def read (count : Nat) : InotifyInstance × List InotifyEvent :=
  ({ inotify with queue := inotify.queue.drop count }, inotify.queue.take count)

end InotifyInstance

def instanceDirectoryName (instanceId : LolaInstanceId) : List Char := Nat.toDigits 10 instanceId

theorem convertFromStringToInstanceId_instanceDirectoryName {inst} (representable : inst < 2 ^ 16) :
    convertFromStringToInstanceId (instanceDirectoryName inst) = some inst := by
  have allDigits : (toDigits 10 inst).takeWhile Char.isDigit = toDigits 10 inst :=
    takeWhile_eq_self_iff.mpr fun digit mem => isDigit_of_mem_toDigits (by decide) (by decide) mem
  have value : (toDigits 10 inst).foldl
      (fun value digit => value * 10 + (digit.toNat - 48)) 0 = inst := by
    have read := ofDigitChars_toDigits (n := inst) (show 1 < 10 by decide) (show 10 ≤ 10 by decide)
    rw [ofDigitChars_eq_foldl] at read
    simp only [mul_comm 10] at read
    exact read
  unfold convertFromStringToInstanceId instanceDirectoryName
  simp only [allDigits, value]
  rw [if_neg]
  intro unreadable
  rcases unreadable with empty | tooLarge
  · exact toDigits_ne_nil empty
  · exact absurd representable (not_lt.mpr tooLarge)

def creationEvent (name : List Char) (descriptor : InotifyWatchDescriptor) : InotifyEvent where
  watchDescriptor := descriptor
  inQOverflow := false
  inIgnored := false
  inDelete := false
  inCreate := true
  name := name
  crawled := none

structure WatchedFileSystem where
  directories : List (LolaServiceId × LolaInstanceId)
  inotify : InotifyInstance

namespace WatchedFileSystem

def start : WatchedFileSystem where
  directories := []
  inotify := .start

def createDirectory (files : WatchedFileSystem) (serviceId : LolaServiceId)
    (instanceId : LolaInstanceId) : WatchedFileSystem :=
  if (serviceId, instanceId) ∈ files.directories then files
  else
    { directories := (serviceId, instanceId) :: files.directories
      inotify := files.inotify.notify ⟨serviceId, none⟩
        (creationEvent (instanceDirectoryName instanceId)) }

section

variable (files : WatchedFileSystem) (directory : LolaServiceInstanceIdentifier)

def createSearchPath : WatchedFileSystem :=
  match directory.instanceId with
  | some instanceId => files.createDirectory directory.serviceId instanceId
  | none => files

def addWatchToInotifyInstance : WatchedFileSystem × InotifyWatchDescriptor :=
  let files := files.createSearchPath directory
  let added := files.inotify.addWatch directory
  ({ files with inotify := added.1 }, added.2)

end

def addWatches (files : WatchedFileSystem) : List EnrichedInstanceIdentifier →
      WatchedFileSystem × List (InotifyWatchDescriptor × EnrichedInstanceIdentifier)
  | [] => (files, [])
  | identifier :: identifiers =>
    let added := files.addWatchToInotifyInstance identifier.directory
    let rest := added.1.addWatches identifiers
    (rest.1, (added.2, identifier) :: rest.2)

def gatherExistingInstanceDirectories (files : WatchedFileSystem)
    (identifier : EnrichedInstanceIdentifier) : List EnrichedInstanceIdentifier :=
  (files.directories.filter fun entry => entry.1 = identifier.serviceId).map
    fun entry => { identifier with instanceId := some entry.2 }

def getAlreadyExistingInstances (found : KnownInstances)
    (identifiers : List EnrichedInstanceIdentifier) : KnownInstances :=
  fun quality => (found quality).filter fun entry =>
    ∃ identifier ∈ identifiers, identifier.directory = ⟨entry.1, some entry.2⟩

/-- `CrawlAndWatchImpl` with watches.  `found` tells the instances that have a
flag file when they are looked for.  The descriptors, an unordered map, are in the order in
which they were added. -/
def crawlAndWatch (files : WatchedFileSystem)
    (identifier : EnrichedInstanceIdentifier) (found : KnownInstances) :
    WatchedFileSystem × FlagFileCrawler.Crawled :=
  let qualityUnaware := { identifier with qualityType := none }
  let added := files.addWatchToInotifyInstance qualityUnaware.directory
  match identifier.instanceId with
  | some _ =>
    (added.1, ⟨[(added.2, qualityUnaware)], getAlreadyExistingInstances found [qualityUnaware]⟩)
  | none =>
    let identifiers := added.1.gatherExistingInstanceDirectories qualityUnaware
    let watched := added.1.addWatches identifiers
    (watched.1, ⟨(added.2, qualityUnaware) :: watched.2,
      getAlreadyExistingInstances found identifiers⟩)

/-! ## What adding watches and directories keeps -/

def Reports (event : InotifyEvent) (descriptor : InotifyWatchDescriptor)
    (instanceId : LolaInstanceId) : Prop :=
  event.watchDescriptor = descriptor ∧
    ServiceDiscoveryClient.isDeletion event = false ∧ event.inCreate = true ∧
    FlagFileCrawler.convertFromStringToInstanceId event.name = some instanceId

variable {inst : LolaInstanceId} {files : WatchedFileSystem}
  {ident : EnrichedInstanceIdentifier} {idents : List EnrichedInstanceIdentifier}

/-- Watches, directories and events are only added, and the watch of a service is
told of new directories. -/
structure Grows (files after : WatchedFileSystem) : Prop where
  descriptors : ∀ {directory descriptor}, files.inotify.descriptors directory = some descriptor →
    after.inotify.descriptors directory = some descriptor
  directories : ∀ {entry}, entry ∈ files.directories → entry ∈ after.directories
  queue : ∀ {event}, event ∈ files.inotify.queue → event ∈ after.inotify.queue
  created : ∀ {serviceId instanceId descriptor}, (serviceId, instanceId) ∈ after.directories →
    files.inotify.descriptors ⟨serviceId, none⟩ = some descriptor →
    (serviceId, instanceId) ∈ files.directories ∨
      ∃ event ∈ after.inotify.queue, Reports event descriptor instanceId

section Grows

variable {files mid s' : WatchedFileSystem}

theorem Grows.refl : files.Grows files := ⟨id, id, id, fun exists_ _ => .inl exists_⟩

theorem Grows.trans (first : files.Grows mid) (second : mid.Grows s') : files.Grows s' where
  descriptors live := second.descriptors (first.descriptors live)
  directories mem := second.directories (first.directories mem)
  queue mem := second.queue (first.queue mem)
  created := by
    intro sid inst wd mem live
    rcases second.created mem (first.descriptors live) with old | reported
    · rcases first.created old live with earliest | ⟨event, queued, reports⟩
      · exact .inl earliest
      · exact .inr ⟨event, second.queue queued, reports⟩
    · exact .inr reported

theorem grows_createDirectory (files : WatchedFileSystem) {sid inst}
    (representable : inst < 2 ^ 16) :
    files.Grows (files.createDirectory sid inst) := by
  unfold createDirectory
  split
  · exact .refl
  · unfold InotifyInstance.notify
    constructor
    · intro dir wd live
      dsimp only
      split
      · exact live
      · exact live
    · intro e mem
      exact mem_cons_of_mem _ mem
    · intro event mem
      dsimp only
      split
      · exact mem_append_left _ mem
      · exact mem
    · intro sid2 inst2 wd mem live
      rcases mem_cons.mp mem with isNew | old
      · obtain ⟨rfl, rfl⟩ := Prod.mk.inj isNew
        refine .inr ⟨creationEvent (instanceDirectoryName inst2) wd,
          ?_, rfl, rfl, rfl, convertFromStringToInstanceId_instanceDirectoryName representable⟩
        simp [live]
      · exact .inl old

theorem mem_createDirectory (files : WatchedFileSystem)
    (sid : LolaServiceId) (inst : LolaInstanceId) :
    (sid, inst) ∈ (files.createDirectory sid inst).directories := by
  unfold createDirectory
  split
  · assumption
  · exact mem_cons_self

/-- A directory can be created if its instance is a 16-bit number; an existing
one is left as it is. -/
def Creatable (files : WatchedFileSystem) (directory : LolaServiceInstanceIdentifier) : Prop :=
  ∀ instanceId, directory.instanceId = some instanceId →
    instanceId < 2 ^ 16 ∨ (directory.serviceId, instanceId) ∈ files.directories

theorem grows_createSearchPath {dir}
    (creatable : files.Creatable dir) : files.Grows (files.createSearchPath dir) := by
  unfold createSearchPath
  split
  next inst hasInstance =>
    rcases creatable inst hasInstance with representable | mem
    · exact grows_createDirectory files representable
    · rw [createDirectory, if_pos mem]
      exact .refl
  · exact .refl

theorem grows_addWatch (files : WatchedFileSystem) (dir : LolaServiceInstanceIdentifier) :
    files.Grows { files with inotify := (files.inotify.addWatch dir).1 } := by
  unfold InotifyInstance.addWatch
  split
  · exact .refl
  next missing =>
    refine ⟨?_, id, id, fun mem _ => .inl mem⟩
    intro o wd live
    have differ : o ≠ dir := by
      rintro rfl
      rw [missing] at live
      cases live
    simp only [InotifyInstance.watchNew, update_of_ne differ]
    exact live

theorem grows_addWatchToInotifyInstance {dir} (creatable : files.Creatable dir) :
    files.Grows (files.addWatchToInotifyInstance dir).1 :=
  (grows_createSearchPath creatable).trans (grows_addWatch _ dir)

section

variable (files : WatchedFileSystem) (dir : LolaServiceInstanceIdentifier)

theorem addWatchToInotifyInstance_live :
    (files.addWatchToInotifyInstance dir).1.inotify.descriptors dir =
      some (files.addWatchToInotifyInstance dir).2 := by
  unfold addWatchToInotifyInstance InotifyInstance.addWatch
  dsimp only
  split
  next live => exact live
  · exact update_self ..

end

end Grows

def AllExist (files : WatchedFileSystem) (identifiers : List EnrichedInstanceIdentifier) : Prop :=
  ∀ identifier ∈ identifiers, ∃ instanceId, identifier.instanceId = some instanceId ∧
      (identifier.serviceId, instanceId) ∈ files.directories

theorem AllExist.addWatch (exist : files.AllExist (ident :: idents)) :
    (files.addWatchToInotifyInstance ident.directory).1.directories = files.directories := by
  obtain ⟨inst, hasInstance, mem⟩ := exist ident mem_cons_self
  change (files.createSearchPath ident.directory).directories = _
  rw [createSearchPath, directory]
  simp only [hasInstance, createDirectory, if_pos mem]

theorem addWatches_spec (exist : files.AllExist idents) : files.Grows (files.addWatches idents).1 ∧
      (files.addWatches idents).1.directories = files.directories ∧
      (files.addWatches idents).2.map Prod.snd = idents ∧
      ∀ w ∈ (files.addWatches idents).2,
        (files.addWatches idents).1.inotify.descriptors w.2.directory = some w.1 := by
  induction idents generalizing files with
  | nil => exact ⟨.refl, rfl, rfl, fun _ mem => absurd mem not_mem_nil⟩
  | cons ident idents ih =>
    have sameDirectories := exist.addWatch
    have creatable : files.Creatable ident.directory := by
      intro inst hasInstance
      obtain ⟨found, hasFound, mem⟩ := exist ident mem_cons_self
      have same : found = inst := Option.some.inj (hasFound.symm.trans hasInstance)
      exact .inr (same ▸ mem)
    have existRest : (files.addWatchToInotifyInstance ident.directory).1.AllExist idents := by
      intro o mem
      rw [sameDirectories]
      exact exist o (mem_cons_of_mem _ mem)
    obtain ⟨grows, directories, all, live⟩ := ih existRest
    refine ⟨(grows_addWatchToInotifyInstance creatable).trans grows,
      directories.trans sameDirectories, ?_, ?_⟩
    · rw [addWatches, map_cons, all]
    · intro w mem
      rcases mem_cons.mp mem with rfl | later
      · exact grows.descriptors (files.addWatchToInotifyInstance_live _)
      · exact live w later

/-! ## Crawling -/

theorem mem_gatherExistingInstanceDirectories {found} :
    found ∈ files.gatherExistingInstanceDirectories ident ↔
      ∃ inst, (ident.serviceId, inst) ∈ files.directories ∧
        found = { ident with instanceId := some inst } := by
  unfold gatherExistingInstanceDirectories
  simp only [mem_map, mem_filter, decide_eq_true_eq, Prod.exists]
  constructor
  · rintro ⟨sid, inst, ⟨mem, rfl⟩, rfl⟩
    exact ⟨inst, mem, rfl⟩
  · rintro ⟨inst, mem, rfl⟩
    exact ⟨ident.serviceId, inst, ⟨mem, rfl⟩, rfl⟩

structure CrawlDone (files : WatchedFileSystem)
    (identifier : EnrichedInstanceIdentifier) (found : KnownInstances)
    (after : WatchedFileSystem) (crawled : FlagFileCrawler.Crawled) : Prop where
  grows : files.Grows after
  live : ∀ watch ∈ crawled.watchDescriptors,
    after.inotify.descriptors watch.2.directory = some watch.1
  own : ∃ watch ∈ crawled.watchDescriptors, watch.2.directory = identifier.directory
  only : ∀ watch ∈ crawled.watchDescriptors, watch.2.directory = identifier.directory ∨
      identifier.instanceId = none ∧
        ∃ instanceId, watch.2.directory = ⟨identifier.serviceId, some instanceId⟩
  exist : ∀ watch ∈ crawled.watchDescriptors, ∀ serviceId instanceId,
    watch.2.directory = ⟨serviceId, some instanceId⟩ →
    (serviceId, instanceId) ∈ after.directories
  all : identifier.instanceId = none → ∀ instanceId,
    (identifier.serviceId, instanceId) ∈ after.directories →
    ∃ watch ∈ crawled.watchDescriptors, watch.2.directory = ⟨identifier.serviceId, some instanceId⟩
  knownInstances : ∀ quality entry, entry ∈ crawled.knownInstances quality ↔
    entry ∈ found quality ∧ ∃ watch ∈ crawled.watchDescriptors,
      watch.2.directory = ⟨entry.1, some entry.2⟩

theorem crawlAndWatch_instance (files : WatchedFileSystem)
    (hasInstance : ident.instanceId = some inst) (found : KnownInstances) :
    files.crawlAndWatch ident found =
      ((files.addWatchToInotifyInstance ident.directory).1,
        ⟨[((files.addWatchToInotifyInstance ident.directory).2,
          { ident with qualityType := none })],
          getAlreadyExistingInstances found [{ ident with qualityType := none }]⟩) := by
  rcases ident with ⟨_, _, _, _⟩
  cases hasInstance
  rfl

theorem crawlAndWatch_any (files : WatchedFileSystem)
    (anyInst : ident.instanceId = none) (found : KnownInstances) {added}
    (isAdded : files.addWatchToInotifyInstance ident.directory = added)
    (areGathered : added.1.gatherExistingInstanceDirectories
      { ident with qualityType := none } = idents) :
    files.crawlAndWatch ident found =
      ((added.1.addWatches idents).1, ⟨(added.2, { ident with qualityType := none }) ::
            (added.1.addWatches idents).2,
          getAlreadyExistingInstances found idents⟩) := by
  subst isAdded
  subst areGathered
  rcases ident with ⟨_, _, _, _⟩
  cases anyInst
  rfl

theorem crawlAndWatch_spec
    (creatable : files.Creatable identifier.directory) (found : KnownInstances) :
    files.CrawlDone identifier found (files.crawlAndWatch identifier found).1
      (files.crawlAndWatch identifier found).2 := by
  have grows := grows_addWatchToInotifyInstance creatable
  have liveOwn := files.addWatchToInotifyInstance_live identifier.directory
  cases hasInstance : identifier.instanceId with
  | some inst =>
    rw [crawlAndWatch_instance files hasInstance]
    have directory : identifier.directory = ⟨identifier.serviceId, some inst⟩ := by
      rw [directory, hasInstance]
    constructor
    · exact grows
    · intro w member
      cases mem_singleton.mp member
      exact liveOwn
    · exact ⟨_, mem_singleton_self _, rfl⟩
    · intro w member
      cases mem_singleton.mp member
      exact .inl rfl
    · intro w member sid inst2 isDirectory
      cases mem_singleton.mp member
      change identifier.directory = _ at isDirectory
      rw [isDirectory]
      exact mem_createDirectory files sid inst2
    · intro missing
      rw [hasInstance] at missing
      cases missing
    · intro q e
      simp [getAlreadyExistingInstances]
  | none =>
    obtain ⟨added, isAdded⟩ :
        ∃ added, files.addWatchToInotifyInstance identifier.directory = added :=
      ⟨_, rfl⟩
    obtain ⟨idents, areGathered⟩ : ∃ idents, added.1.gatherExistingInstanceDirectories
          { identifier with qualityType := none } = idents := ⟨_, rfl⟩
    rw [isAdded] at grows liveOwn
    have gathered : ∀ o, o ∈ idents ↔ ∃ inst,
        (identifier.serviceId, inst) ∈ added.1.directories ∧ o = { identifier with
            qualityType := none, instanceId := some inst } :=
      fun o => areGathered ▸ mem_gatherExistingInstanceDirectories
    have exist : added.1.AllExist idents := by
      intro o member
      obtain ⟨inst, exists_, rfl⟩ := (gathered o).mp member
      exact ⟨inst, rfl, exists_⟩
    obtain ⟨growsRest, directories, all, live⟩ := addWatches_spec exist
    have watchOf : ∀ o ∈ idents, ∃ w ∈ (added.1.addWatches idents).2, w.2 = o := by
      intro o member
      rw [← all] at member
      exact mem_map.mp member
    have identifierOf : ∀ w ∈ (added.1.addWatches idents).2, w.2 ∈ idents := by
      intro w member
      rw [← all]
      exact mem_map_of_mem member
    rw [crawlAndWatch_any files hasInstance found isAdded areGathered]
    constructor
    · exact grows.trans growsRest
    · intro w member
      rcases mem_cons.mp member with rfl | later
      · exact growsRest.descriptors liveOwn
      · exact live w later
    · exact ⟨_, mem_cons_self, rfl⟩
    · intro w member
      rcases mem_cons.mp member with rfl | later
      · exact .inl rfl
      · obtain ⟨inst, -, same⟩ := (gathered w.2).mp (identifierOf w later)
        rw [same]
        exact .inr ⟨hasInstance, inst, rfl⟩
    · intro w member sid inst isDirectory
      rcases mem_cons.mp member with rfl | later
      · change identifier.directory = _ at isDirectory
        rw [directory, hasInstance] at isDirectory
        cases isDirectory
      · obtain ⟨found, exists_, same⟩ := (gathered w.2).mp (identifierOf w later)
        rw [same] at isDirectory
        cases isDirectory
        rw [directories]
        exact exists_
    · intro _ inst exists_
      rw [directories] at exists_
      obtain ⟨w, member, same⟩ := watchOf _ ((gathered _).mpr ⟨inst, exists_, rfl⟩)
      refine ⟨w, mem_cons_of_mem _ member, ?_⟩
      rw [same]
      rfl
    · intro q e
      simp only [getAlreadyExistingInstances, Finset.mem_filter]
      refine and_congr_right fun _ => ⟨?_, ?_⟩
      · rintro ⟨o, member, isDirectory⟩
        obtain ⟨w, st, same⟩ := watchOf o member
        exact ⟨w, mem_cons_of_mem _ st, same ▸ isDirectory⟩
      · rintro ⟨w, member, isDirectory⟩
        rcases mem_cons.mp member with rfl | later
        · change identifier.directory = _ at isDirectory
          rw [directory, hasInstance] at isDirectory
          cases congrArg LolaServiceInstanceIdentifier.instanceId isDirectory
        · exact ⟨w.2, identifierOf w later, isDirectory⟩

end WatchedFileSystem

end ScoreIntegration.Lola
