import ScoreIntegration.Concurrency.Transitions
import ScoreIntegration.Lola.WatchBookkeeping

/-!
# The discovery client at work

Users start and stop searches, also from within handlers, and the file system changes at
any time.  The worker reads some events, transfers the stopped searches, handles the
deletions and the creations, and calls the handlers of the impacted searches.
-/

namespace ScoreIntegration.Lola

open Concurrency

/-- Where the worker is in `HandleEvents`.  While it calls the handlers for the
deletions, the creations of the batch are still to be handled. -/
inductive EventPhase where
  | idle
  | calling (keys : List FindServiceHandle) (creations : Option (List InotifyEvent))
  | creating (events : List InotifyEvent) (impacted : List FindServiceHandle)

def EventPhase.creations : EventPhase → List InotifyEvent
  | .idle => []
  | .calling _ none => []
  | .calling _ (some creations) => creations
  | .creating events _ => events

/-- What the users of the client see: a call of a handler, with the handles that
match the search at that moment, or the end of a search. -/
inductive DiscoveryRecord where
  | called (key : FindServiceHandle) (handles matching : Finset HandleType)
  | transferred (key : FindServiceHandle)
  deriving DecidableEq

structure DiscoverySystem where
  client : ServiceDiscoveryClient
  files : WatchedFileSystem
  nextFreeUid : Nat
  phase : EventPhase
  history : List DiscoveryRecord

inductive DiscoveryStep where
  | startFindService (identifier : EnrichedInstanceIdentifier) (found : Option KnownInstances)
  | stopFindService (key : FindServiceHandle)
  | createDirectory (serviceId : LolaServiceId) (instanceId : LolaInstanceId)
  | addWatch (directory : LolaServiceInstanceIdentifier)
  | fileEvent (event : InotifyEvent)
  | handleEvents (count : Option Nat)
  | callHandler (key : FindServiceHandle)
  | handleCreations
  | handleCreation (found : Option KnownInstances)
  | finishCreations
  | finishEvents

namespace ServiceDiscoveryClient

variable (client : ServiceDiscoveryClient)

/-- The cached answer of `StartFindService` can be used. -/
def isWatched (directory : LolaServiceInstanceIdentifier) : Bool :=
  match client.watchedIdentifiers directory with
  | some ⟨some _, _⟩ => true
  | _ => false

def matchingHandles (identifier : EnrichedInstanceIdentifier) : Finset HandleType :=
  match identifier.qualityType with
  | some quality => (client.knownInstances quality).getKnownHandles identifier
  | none => ∅

/-- The identifier that a creation event makes the worker crawl for. -/
def crawledIdentifier (event : InotifyEvent) : Option EnrichedInstanceIdentifier :=
  match client.watches event.watchDescriptor with
  | none => none
  | some watch =>
    match watch.enrichedInstanceIdentifier.instanceId with
    | some _ => none
    | none =>
      (FlagFileCrawler.convertFromStringToInstanceId event.name).map fun instanceId =>
          { watch.enrichedInstanceIdentifier with instanceId := some instanceId }

end ServiceDiscoveryClient

namespace DiscoverySystem

def start : DiscoverySystem where
  client := .start
  files := .start
  nextFreeUid := 0
  phase := .idle
  history := []

def crawl (files : WatchedFileSystem) (identifier : EnrichedInstanceIdentifier) :
    Option KnownInstances → WatchedFileSystem × Option FlagFileCrawler.Crawled
  | none => (files, none)
  | some found =>
    let crawled := files.crawlAndWatch identifier found
    (crawled.1, some crawled.2)

/-- The result of `StartFindService`.  After a failure the search is stopped. -/
def searchStarted (system : DiscoverySystem)
    (identifier : EnrichedInstanceIdentifier) (files : WatchedFileSystem) :
    Option (ServiceDiscoveryClient × Finset HandleType) → DiscoverySystem
  | none =>
    { system with
      client := system.client.stopFindService system.nextFreeUid
      files := files
      nextFreeUid := system.nextFreeUid + 1 }
  | some (client, handles) =>
    { system with
      client := client
      files := files
      nextFreeUid := system.nextFreeUid + 1
      history :=
        if handles = ∅ then system.history
        else .called system.nextFreeUid handles (client.matchingHandles identifier)
          :: system.history }

/-- `StartFindService`; the file system is crawled unless the identifier is
watched already. -/
def startFindService (system : DiscoverySystem)
    (identifier : EnrichedInstanceIdentifier) (found : Option KnownInstances) :
    Except DiscoveryFailure DiscoverySystem := do
  let crawled :=
    if system.client.isWatched identifier.directory then (system.files, none)
    else crawl system.files identifier found
  let result ← system.client.startFindService system.nextFreeUid identifier crawled.2
  .ok (system.searchStarted identifier crawled.1 result)

def transferredSearches (client : ServiceDiscoveryClient) : List DiscoveryRecord :=
  (client.obsoleteSearchRequests.filter fun key =>
    (client.searchRequests key).isSome).map .transferred

/-- The events that `Read` returns; nothing if it fails. -/
def readEvents (inotify : InotifyInstance) :
    Option Nat → InotifyInstance × Option (List InotifyEvent)
  | none => (inotify, none)
  | some count => ((inotify.read count).1, some (inotify.read count).2)

/-- `HandleEvents` up to the handlers that the deletions call. -/
def handleEvents (system : DiscoverySystem) (count : Option Nat) :
    Except DiscoveryFailure DiscoverySystem := do
  let events := readEvents system.files.inotify count
  let (client, keys, creations) ← system.client.handleEvents events.2
  let inotify := events.1.removeWatches fun descriptor =>
    (system.client.watches descriptor).isSome && (client.watches descriptor).isNone
  .ok { system with
    client := client
    files := { system.files with inotify := inotify }
    phase := .calling keys (some creations)
    history := transferredSearches system.client ++ system.history }

def callHandler (system : DiscoverySystem) (key : FindServiceHandle)
    (phase : EventPhase) : Except DiscoveryFailure DiscoverySystem := do
  let (client, called) ← system.client.callHandler key
  .ok { system with
    client := client
    phase := phase
    history :=
      match called, client.searchRequests key with
      | some handles, some request =>
        .called key handles (client.matchingHandles request.enrichedInstanceIdentifier) ::
            system.history
      | _, _ => system.history }

/-- One round of the loop of `HandleCreationEvents`. -/
def handleCreation (system : DiscoverySystem) (event : InotifyEvent)
    (events : List InotifyEvent) (impacted : List FindServiceHandle)
    (found : Option KnownInstances) : Except DiscoveryFailure DiscoverySystem := do
  let crawled :=
    match system.client.crawledIdentifier event with
    | some identifier => crawl system.files identifier found
    | none => (system.files, none)
  let (client, keys) ← system.client.handleCreationEvents impacted
    [{ event with crawled := crawled.2 }]
  .ok { system with
    client := client
    files := crawled.1
    phase := .creating events keys }

/-- Instances are 16-bit numbers. -/
def Representable (directory : LolaServiceInstanceIdentifier) : Prop :=
  ∀ instanceId ∈ directory.instanceId, instanceId < 2 ^ 16

instance (directory : LolaServiceInstanceIdentifier) : Decidable (Representable directory) := by
  unfold Representable
  infer_instance

variable (system : DiscoverySystem)

/-- One step; `none` if it cannot be taken.  The worker holds the lock while it
handles creations, and handlers may start and stop searches while it calls
them. -/
def next : DiscoveryStep → Option (Except DiscoveryFailure DiscoverySystem)
  | .startFindService identifier found =>
    match system.phase with
    | .creating _ _ => none
    | _ =>
      if Representable identifier.directory then
        some (system.startFindService identifier found)
      else none
  | .stopFindService key =>
    match system.phase with
    | .creating _ _ => none
    | _ => some (.ok { system with client := system.client.stopFindService key })
  | .createDirectory serviceId instanceId =>
    if instanceId < 2 ^ 16 then
      some (.ok { system with
        files := system.files.createDirectory serviceId instanceId })
    else none
  | .addWatch directory =>
    if Representable directory then
      some (.ok { system with
        files := (system.files.addWatchToInotifyInstance directory).1 })
    else none
  | .fileEvent event =>
    some (.ok { system with
      files := { system.files with
        inotify := { system.files.inotify with
          queue := system.files.inotify.queue ++ [event] } } })
  | .handleEvents count =>
    match system.phase with
    | .idle => some (system.handleEvents count)
    | _ => none
  | .callHandler key =>
    match system.phase with
    | .calling keys creations =>
      if key ∈ keys then
        some (system.callHandler key (.calling (keys.filter fun other => other ≠ key) creations))
      else none
    | _ => none
  | .handleCreations =>
    match system.phase with
    | .calling [] (some creations) => some (.ok { system with phase := .creating creations [] })
    | _ => none
  | .handleCreation found =>
    match system.phase with
    | .creating (event :: events) impacted =>
      some (system.handleCreation event events impacted found)
    | _ => none
  | .finishCreations =>
    match system.phase with
    | .creating [] impacted => some (.ok { system with phase := .calling impacted none })
    | _ => none
  | .finishEvents =>
    match system.phase with
    | .calling [] none => some (.ok { system with phase := .idle })
    | _ => none

def step (label : DiscoveryStep) : Option DiscoverySystem :=
  match system.next label with
  | some (.ok after) => some after
  | _ => none

def transitions : TransitionSystem DiscoverySystem DiscoveryStep := .ofStep start step

def pendingCreations : List InotifyEvent := system.phase.creations ++ system.files.inotify.queue

/-- The watch of the service has still to report the directory. -/
def CreationPending (serviceId : LolaServiceId) (instanceId : LolaInstanceId) : Prop :=
  ∃ descriptor, system.files.inotify.descriptors ⟨serviceId, none⟩ = some descriptor ∧
    ∃ event ∈ system.pendingCreations, WatchedFileSystem.Reports event descriptor instanceId

end DiscoverySystem

end ScoreIntegration.Lola
