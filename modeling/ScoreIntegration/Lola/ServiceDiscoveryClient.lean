import Mathlib.Data.Finset.Image
import ScoreIntegration.Lola.EventControl

/-!
# The service discovery client

Searches are told which instances of a service are offered.  A provider creates a flag file
in the directory of its instance, which the client watches by inotify.  What the crawler
finds is an input.
-/

namespace ScoreIntegration.Lola

abbrev FindServiceHandle := Nat
abbrev InotifyWatchDescriptor := Nat
abbrev LolaServiceId := Nat
abbrev LolaInstanceId := Nat

/-- The identifier of a search or of a watched directory.  `instanceIdentifier`
stands for the deployment, and without a quality it is `kInvalid`. -/
structure EnrichedInstanceIdentifier where
  instanceIdentifier : Nat
  serviceId : LolaServiceId
  instanceId : Option LolaInstanceId
  qualityType : Option QualityType
  deriving DecidableEq, Repr

structure LolaServiceInstanceIdentifier where
  serviceId : LolaServiceId
  instanceId : Option LolaInstanceId
  deriving DecidableEq, Repr

structure HandleType where
  identifier : Nat
  instanceId : LolaInstanceId
  deriving DecidableEq, Repr

inductive DiscoveryFailure where
  | qualityLevelNotSet
  | findServiceHandleNotUnique
  | eventLost
  | directoryDeleted
  | crawlingFailed
  | notOneWatchDescriptor
  | noMatchingWatch
  | linkWithoutSearch
  | unlinkNotErased
  | watchStillSearched
  deriving DecidableEq, Repr

abbrev KnownInstancesContainer := Finset (LolaServiceId × LolaInstanceId)

namespace KnownInstancesContainer

variable (known : KnownInstancesContainer) (identifier : EnrichedInstanceIdentifier)

def insertInstance : KnownInstancesContainer :=
  match identifier.instanceId with
  | some instanceId => insert (identifier.serviceId, instanceId) known
  | none => known

def remove : KnownInstancesContainer :=
  match identifier.instanceId with
  | some instanceId => known.erase (identifier.serviceId, instanceId)
  | none => known

/-- The handles of the known instances a search asks for.  The order of the
vector that the source returns is left open. -/
def getKnownHandles : Finset HandleType :=
  match identifier.instanceId with
  | some instanceId =>
    if (identifier.serviceId, instanceId) ∈ known then
      {⟨identifier.instanceIdentifier, instanceId⟩}
    else ∅
  | none =>
    (known.filter fun entry => entry.1 = identifier.serviceId).image
      fun entry => ⟨identifier.instanceIdentifier, entry.2⟩

end KnownInstancesContainer

/-- `QualityAwareContainer<KnownInstancesContainer>`. -/
abbrev KnownInstances := QualityType → KnownInstancesContainer

namespace FlagFileCrawler

/-- The quality in the name of a flag file. -/
def parseQualityTypeFromString (filename : List Char) : Option QualityType :=
  if "asil-b".toList <:+: filename then some .asilB
  else if "asil-qm".toList <:+: filename then some .asilQm
  else none

/-- The leading digits are read; a number of more than 16 bits is an error. -/
def convertFromStringToInstanceId (name : List Char) : Option LolaInstanceId :=
  let digits := name.takeWhile Char.isDigit
  let value := digits.foldl (fun value digit => value * 10 + (digit.toNat - 48)) 0
  if digits = [] ∨ 2 ^ 16 ≤ value then none else some value

structure Crawled where
  watchDescriptors : List (InotifyWatchDescriptor × EnrichedInstanceIdentifier)
  knownInstances : KnownInstances

end FlagFileCrawler

open FlagFileCrawler

structure SearchRequest where
  watchDescriptors : List InotifyWatchDescriptor
  enrichedInstanceIdentifier : EnrichedInstanceIdentifier
  handles : Finset HandleType

structure Watch where
  enrichedInstanceIdentifier : EnrichedInstanceIdentifier
  findServiceHandles : List FindServiceHandle

structure IdentifierWatches where
  watchDescriptor : Option InotifyWatchDescriptor
  childWatches : List InotifyWatchDescriptor

/-- An inotify event, with what a crawl finds that it may lead to. -/
structure InotifyEvent where
  watchDescriptor : InotifyWatchDescriptor
  inQOverflow : Bool
  inIgnored : Bool
  inDelete : Bool
  inCreate : Bool
  name : List Char
  crawled : Option Crawled

/-- The client.  The searches and the watches are maps. -/
structure ServiceDiscoveryClient where
  searchRequests : FindServiceHandle → Option SearchRequest
  watches : InotifyWatchDescriptor → Option Watch
  watchedIdentifiers : LolaServiceInstanceIdentifier → Option IdentifierWatches
  knownInstances : KnownInstances
  obsoleteSearchRequests : List FindServiceHandle

namespace ServiceDiscoveryClient

def start : ServiceDiscoveryClient where
  searchRequests := fun _ => none
  watches := fun _ => none
  watchedIdentifiers := fun _ => none
  knownInstances := fun _ => ∅
  obsoleteSearchRequests := []

def getKnownHandles (identifier : EnrichedInstanceIdentifier)
    (known : KnownInstances) : Except DiscoveryFailure (Finset HandleType) :=
  match identifier.qualityType with
  | some quality => .ok ((known quality).getKnownHandles identifier)
  | none => .error .qualityLevelNotSet

section

variable (client : ServiceDiscoveryClient)

def mergeKnownInstances (found : KnownInstances) : ServiceDiscoveryClient :=
  { client with
    knownInstances := fun quality => client.knownInstances quality ∪ found quality }

/-! ## Watches -/

section

variable (descriptor : InotifyWatchDescriptor)

def storeWatch (identifier : EnrichedInstanceIdentifier) : ServiceDiscoveryClient :=
  let watches := match client.watches descriptor with
    | some _ => client.watches
    | none => Function.update client.watches descriptor (some ⟨identifier, []⟩)
  let own : LolaServiceInstanceIdentifier := ⟨identifier.serviceId, identifier.instanceId⟩
  let watched := match client.watchedIdentifiers own with
    | some _ => client.watchedIdentifiers
    | none => Function.update client.watchedIdentifiers own (some ⟨some descriptor, []⟩)
  let anyInstance : LolaServiceInstanceIdentifier := ⟨identifier.serviceId, none⟩
  let watched := match identifier.instanceId with
    | none => watched
    | some _ =>
      match watched anyInstance with
      | none => Function.update watched anyInstance (some ⟨none, [descriptor]⟩)
      | some entry =>
        Function.update watched anyInstance (some { entry with
            childWatches := entry.childWatches.insert descriptor })
  { client with watches := watches, watchedIdentifiers := watched }

def eraseWatch (watch : Watch) : Except DiscoveryFailure ServiceDiscoveryClient :=
  if watch.findServiceHandles ≠ [] then .error .watchStillSearched
  else
    let identifier := watch.enrichedInstanceIdentifier
    let own : LolaServiceInstanceIdentifier := ⟨identifier.serviceId, identifier.instanceId⟩
    let anyInstance : LolaServiceInstanceIdentifier := ⟨identifier.serviceId, none⟩
    let watched := match identifier.instanceId with
      | some _ =>
        let watched := Function.update client.watchedIdentifiers own none
        match watched anyInstance with
        | none => watched
        | some entry =>
          Function.update watched anyInstance (some { entry with
              childWatches := entry.childWatches.erase descriptor })
      | none =>
        match client.watchedIdentifiers own with
        | none => client.watchedIdentifiers
        | some entry =>
          Function.update client.watchedIdentifiers own
            (some { entry with watchDescriptor := none })
    .ok { client with
      watches := Function.update client.watches descriptor none
      watchedIdentifiers := watched }

def linkWatchWithSearchRequest (key : FindServiceHandle) :
    Except DiscoveryFailure ServiceDiscoveryClient :=
  match client.watches descriptor, client.searchRequests key with
  | some watch, some request =>
    .ok { client with
      watches := Function.update client.watches descriptor (some { watch with
          findServiceHandles := watch.findServiceHandles.insert key })
      searchRequests := Function.update client.searchRequests key (some { request with
          watchDescriptors := request.watchDescriptors.insert descriptor }) }
  | _, _ => .error .linkWithoutSearch

def unlinkWatchWithSearchRequest (watch : Watch)
    (key : FindServiceHandle) (request : SearchRequest) :
    Except DiscoveryFailure ServiceDiscoveryClient :=
  if key ∈ watch.findServiceHandles ∧ descriptor ∈ request.watchDescriptors then
    .ok { client with
      watches := Function.update client.watches descriptor (some { watch with
          findServiceHandles := watch.findServiceHandles.erase key })
      searchRequests := Function.update client.searchRequests key (some { request with
          watchDescriptors := request.watchDescriptors.erase descriptor }) }
  else .error .unlinkNotErased

end

/-! ## Searches that end -/

/-- One watch of a search that ends; the watch is removed with its last search. -/
def releaseWatch (key : FindServiceHandle) (descriptor : InotifyWatchDescriptor) :
    Except DiscoveryFailure ServiceDiscoveryClient :=
  match client.watches descriptor, client.searchRequests key with
  | some watch, some request => do
    let client ← client.unlinkWatchWithSearchRequest descriptor watch key request
    match client.watches descriptor with
    | some watch =>
      if watch.findServiceHandles = [] then
        let identifier := watch.enrichedInstanceIdentifier
        let client := { client with
          knownInstances := fun quality => (client.knownInstances quality).remove identifier }
        client.eraseWatch descriptor watch
      else .ok client
    | none => .ok client
  | _, _ => .ok client

end

def releaseWatches (client : ServiceDiscoveryClient) (key : FindServiceHandle) :
    List InotifyWatchDescriptor → Except DiscoveryFailure ServiceDiscoveryClient
  | [] => .ok client
  | descriptor :: descriptors => do
    let client ← client.releaseWatch key descriptor
    client.releaseWatches key descriptors

def transferObsoleteSearchRequest (client : ServiceDiscoveryClient)
    (key : FindServiceHandle) : Except DiscoveryFailure ServiceDiscoveryClient :=
  match client.searchRequests key with
  | none => .ok client
  | some request => do
    let client ← client.releaseWatches key request.watchDescriptors
    .ok { client with
      searchRequests := Function.update client.searchRequests key none }

def transferEach (client : ServiceDiscoveryClient) :
    List FindServiceHandle → Except DiscoveryFailure ServiceDiscoveryClient
  | [] => .ok client
  | key :: keys => do
    let client ← client.transferObsoleteSearchRequest key
    client.transferEach keys

def transferObsoleteSearchRequests (client : ServiceDiscoveryClient) :
    Except DiscoveryFailure ServiceDiscoveryClient := do
  let client ← client.transferEach client.obsoleteSearchRequests
  .ok { client with obsoleteSearchRequests := [] }

def stopFindService (client : ServiceDiscoveryClient) (key : FindServiceHandle) :
    ServiceDiscoveryClient :=
  { client with
    obsoleteSearchRequests := client.obsoleteSearchRequests.insert key }

/-! ## Searches that start -/

/-- The watches, an unordered map, are stored in the order in which they were added. -/
def storeWatches (client : ServiceDiscoveryClient) (key : FindServiceHandle) :
    List (InotifyWatchDescriptor × EnrichedInstanceIdentifier) →
      Except DiscoveryFailure ServiceDiscoveryClient
  | [] => .ok client
  | (descriptor, identifier) :: rest => do
    let client ← (client.storeWatch descriptor identifier).linkWatchWithSearchRequest descriptor key
    client.storeWatches key rest

def transferNewSearchRequest (client : ServiceDiscoveryClient)
    (key : FindServiceHandle) (identifier : EnrichedInstanceIdentifier)
    (crawled : Crawled) (previousHandles : Finset HandleType) :
    Except DiscoveryFailure ServiceDiscoveryClient :=
  match client.searchRequests key with
  | some _ => .error .findServiceHandleNotUnique
  | none => do
    let client := { client with
      searchRequests := Function.update client.searchRequests key
        (some ⟨[], identifier, previousHandles⟩) }
    let client ← client.storeWatches key crawled.watchDescriptors
    .ok (client.mergeKnownInstances crawled.knownInstances)

/-- The watches of a search that is made once more. -/
def matchingWatches (client : ServiceDiscoveryClient) :
    List InotifyWatchDescriptor → Except DiscoveryFailure
      (List (InotifyWatchDescriptor × EnrichedInstanceIdentifier))
  | [] => .ok []
  | descriptor :: descriptors =>
    match client.watches descriptor with
    | none => .error .noMatchingWatch
    | some watch => do
      let rest ← client.matchingWatches descriptors
      .ok ((descriptor, watch.enrichedInstanceIdentifier) :: rest)

section

variable (client : ServiceDiscoveryClient) (key : FindServiceHandle)
  (identifier : EnrichedInstanceIdentifier) (crawled : Option Crawled)

/-- `StartFindService` of a search that is not watched yet; nothing when the crawl
fails. -/
def startNewSearch :
    Except DiscoveryFailure (Option (ServiceDiscoveryClient × Finset HandleType)) :=
  match crawled with
  | none => .ok none
  | some crawled => do
    let handles ← getKnownHandles identifier crawled.knownInstances
    let client ← client.transferNewSearchRequest key identifier crawled handles
    .ok (some (client, handles))

/-- `StartFindService`: the client and the handles that the handler is called
with.  The handler is not called without handles. -/
def startFindService :
    Except DiscoveryFailure (Option (ServiceDiscoveryClient × Finset HandleType)) :=
  match client.watchedIdentifiers ⟨identifier.serviceId, identifier.instanceId⟩ with
  | some ⟨some descriptor, childWatches⟩ => do
    let handles ← getKnownHandles identifier client.knownInstances
    let watches ← client.matchingWatches (descriptor :: childWatches)
    let client ← client.transferNewSearchRequest key identifier ⟨watches, fun _ => ∅⟩ handles
    .ok (some (client, handles))
  | some ⟨none, _⟩ => client.startNewSearch key identifier crawled
  | none => client.startNewSearch key identifier crawled

end

/-! ## Events -/

def linkSearches (client : ServiceDiscoveryClient) (descriptor : InotifyWatchDescriptor) :
    List FindServiceHandle → Except DiscoveryFailure ServiceDiscoveryClient
  | [] => .ok client
  | key :: keys => do
    let client ← client.linkWatchWithSearchRequest descriptor key
    client.linkSearches descriptor keys

section

variable (client : ServiceDiscoveryClient)

def onInstanceDirectoryCreated (watch : Watch)
    (event : InotifyEvent) : Except DiscoveryFailure ServiceDiscoveryClient :=
  match convertFromStringToInstanceId event.name with
  | none => .ok client
  | some _ =>
    match event.crawled with
    | none => .error .crawlingFailed
    | some ⟨[(descriptor, identifier)], known⟩ => do
      let client ← (client.storeWatch descriptor identifier).linkSearches
        descriptor watch.findServiceHandles
      .ok (client.mergeKnownInstances known)
    | some _ => .error .notOneWatchDescriptor

/-- A change of the known instances of the quality in the name of a flag file. -/
def updateKnownInstances (name : List Char)
    (change : KnownInstancesContainer → KnownInstancesContainer) : ServiceDiscoveryClient :=
  match parseQualityTypeFromString name with
  | some quality =>
    { client with
      knownInstances := Function.update client.knownInstances quality
        (change (client.knownInstances quality)) }
  | none => client

def onInstanceFlagFileCreated (watch : Watch) (name : List Char) : ServiceDiscoveryClient :=
  client.updateKnownInstances name fun known =>
    known.insertInstance watch.enrichedInstanceIdentifier

def onInstanceFlagFileRemoved (watch : Watch) (name : List Char) : ServiceDiscoveryClient :=
  client.updateKnownInstances name fun known => known.remove watch.enrichedInstanceIdentifier

end

/-- The loop of `HandleDeletionEvents`, with the searches it impacts. -/
def handleDeletionEvents (client : ServiceDiscoveryClient)
    (impacted : List FindServiceHandle) : List InotifyEvent →
    Except DiscoveryFailure (ServiceDiscoveryClient × List FindServiceHandle)
  | [] => .ok (client, impacted)
  | event :: events =>
    match client.watches event.watchDescriptor with
    | none => client.handleDeletionEvents impacted events
    | some watch =>
      if event.inDelete then
        if watch.enrichedInstanceIdentifier.instanceId.isSome then
          (client.onInstanceFlagFileRemoved watch event.name).handleDeletionEvents
            (impacted ∪ watch.findServiceHandles) events
        else .error .directoryDeleted
      else client.handleDeletionEvents impacted events

/-- The loop of `HandleCreationEvents`, with the searches it impacts. -/
def handleCreationEvents (client : ServiceDiscoveryClient)
    (impacted : List FindServiceHandle) : List InotifyEvent →
    Except DiscoveryFailure (ServiceDiscoveryClient × List FindServiceHandle)
  | [] => .ok (client, impacted)
  | event :: events =>
    match client.watches event.watchDescriptor with
    | none => client.handleCreationEvents impacted events
    | some watch =>
      if watch.enrichedInstanceIdentifier.instanceId.isSome then
        (client.onInstanceFlagFileCreated watch event.name).handleCreationEvents
          (impacted ∪ watch.findServiceHandles) events
      else do
        let client ← client.onInstanceDirectoryCreated watch event
        client.handleCreationEvents (impacted ∪ watch.findServiceHandles) events

def isDeletion (event : InotifyEvent) : Bool := event.inIgnored || event.inDelete

/-- The first half of `HandleEvents`: the client, the searches impacted by deletions and the
creations that are still to be handled. -/
def handleEvents (client : ServiceDiscoveryClient) (expectedEvents : Option (List InotifyEvent)) :
    Except DiscoveryFailure
      (ServiceDiscoveryClient × List FindServiceHandle × List InotifyEvent) := do
  let client ← client.transferObsoleteSearchRequests
  match expectedEvents with
  | none => .ok (client, [], [])
  | some events =>
    if events.any InotifyEvent.inQOverflow then .error .eventLost
    else
      let (client, impacted) ← client.handleDeletionEvents [] (events.filter isDeletion)
      .ok (client, impacted, events.filter fun event => !isDeletion event && event.inCreate)

/-- One round of `CallHandlers`: the client and, if the handler of the search is
called, the handles it is called with. -/
def callHandler (client : ServiceDiscoveryClient) (key : FindServiceHandle) :
    Except DiscoveryFailure (ServiceDiscoveryClient × Option (Finset HandleType)) :=
  match client.searchRequests key with
  | none => .ok (client, none)
  | some request =>
    if key ∈ client.obsoleteSearchRequests then .ok (client, none)
    else do
      let newHandles ← getKnownHandles request.enrichedInstanceIdentifier client.knownInstances
      if request.handles = newHandles then .ok (client, none)
      else
        .ok ({ client with
          searchRequests := Function.update client.searchRequests key
            (some { request with handles := newHandles }) }, some newHandles)

end ServiceDiscoveryClient

end ScoreIntegration.Lola
