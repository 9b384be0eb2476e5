import ScoreIntegration.Lola.EventControl
import ScoreIntegration.Memory.AllocationSequence

/-!
# Sizes of the shared memory of a service

The sizes of the regions are calculated from the configuration before the regions are
created, and the regions are filled when the service elements register.
-/

namespace ScoreIntegration.Lola

open Memory List Option Nat Dominated

/-! ## Configuration -/

structure LolaEventInstanceDeployment where
  numberOfSampleSlots : Option UInt16
  numberOfTracingSlots : UInt8
  maxSubscribers : Option UInt8

namespace LolaEventInstanceDeployment

/-- Nothing is returned if the slots are not configured; too many of them end the
process. -/
def getNumberOfSampleSlots (deployment : LolaEventInstanceDeployment) : Option Nat :=
  match deployment.numberOfSampleSlots with
  | none => none
  | some slots =>
    let intermediate := slots.toNat + deployment.numberOfTracingSlots.toNat
    if intermediate > 65535 then none else some intermediate

end LolaEventInstanceDeployment

structure FieldTagsStore where
  hasGetter : Bool
  hasSetter : Bool
  hasNotifier : Bool

structure ServiceElement where
  deployment : LolaEventInstanceDeployment
  sampleSizeInfo : DataTypeSizeInfo
  fieldTags : Option FieldTagsStore

structure ServiceDeployment where
  quality : QualityType
  elements : List ServiceElement

/-- The sizes and alignments of the types that are constructed in shared memory. -/
structure SharedTypes where
  serviceDataStorage : DataTypeSizeInfo
  eventDataStorageEntry : DataTypeSizeInfo
  eventMetaInfoEntry : DataTypeSizeInfo
  eventDataStorage : DataTypeSizeInfo
  serviceDataControl : DataTypeSizeInfo
  eventControlEntry : DataTypeSizeInfo
  applicationIdPidMappingEntry : DataTypeSizeInfo
  controlSlot : DataTypeSizeInfo
  transactionLogSlot : DataTypeSizeInfo
  transactionLogNode : DataTypeSizeInfo

/-! ## Allocations of the two regions -/

def maxApplicationIdPidMappings : Nat := 50

namespace SharedTypes

variable (types : SharedTypes)

/-- The storage object and its two maps.  The number of elements that fit into an address
space does not overflow the size of the maps. -/
def serviceDataStorageAllocations (numberOfElements : Nat) : List DataTypeSizeInfo :=
  [types.serviceDataStorage, types.eventDataStorageEntry.array numberOfElements,
    types.eventMetaInfoEntry.array numberOfElements]

/-- An event storage and its slots; the process ends if their size overflows. -/
def eventDataStorageAllocations (numberOfSlots : Nat) (sample : DataTypeSizeInfo) :
    Option (List DataTypeSizeInfo) :=
  if numberOfSlots * sample.size ≤ sizeMax then
    some [types.eventDataStorage, sample.array numberOfSlots]
  else none

/-- The control object, its map and the mapping of application identifiers. -/
def serviceDataControlAllocations (numberOfElements : Nat) : List DataTypeSizeInfo :=
  [types.serviceDataControl, types.eventControlEntry.array numberOfElements,
    types.applicationIdPidMappingEntry.array maxApplicationIdPidMappings]

/-- The control slots, then the transaction logs: the log of the prototype node, the
nodes, a copy of the log for each of them, and the log of the skeleton. -/
def eventControlAllocations (numberOfSlots maxSubscribers : Nat) : List DataTypeSizeInfo :=
  let log := types.transactionLogSlot.array numberOfSlots
  [types.controlSlot.array numberOfSlots, log, types.transactionLogNode.array maxSubscribers]
    ++ List.replicate maxSubscribers log ++ [log]

end SharedTypes

/-! ## Analysis -/

structure EventDataStorageSizeInfo where
  numberOfSlots : Nat
  perSampleSizeInfo : DataTypeSizeInfo

structure ServiceElementControlSizeInfo where
  numberOfSlots : Nat
  maxSubscribers : Nat

structure ShmResourceStorageSizes where
  dataSize : Nat
  controlQmSize : Nat
  controlAsilBSize : Option Nat

def SharedTypes.addEventDataStorageShmSizeAllocation (types : SharedTypes)
    (info : EventDataStorageSizeInfo) : Option (List DataTypeSizeInfo) :=
  types.eventDataStorageAllocations info.numberOfSlots info.perSampleSizeInfo

def SharedTypes.calculateServiceDataStorageShmSize (types : SharedTypes)
    (infos : List EventDataStorageSizeInfo) : Option Nat :=
  match infos.mapM types.addEventDataStorageShmSizeAllocation with
  | none => none
  | some allocations =>
    calculateAlignedSizeOfSequence
      (types.serviceDataStorageAllocations infos.length ++ allocations.flatten)

def SharedTypes.calculateServiceDataControlShmSize (types : SharedTypes)
    (infos : List ServiceElementControlSizeInfo) : Option Nat :=
  calculateAlignedSizeOfSequence
    (types.serviceDataControlAllocations infos.length ++ infos.flatMap fun info =>
        types.eventControlAllocations info.numberOfSlots info.maxSubscribers)

namespace ServiceElement

variable (element : ServiceElement)

def getNumberOfSampleSlotsFromConfig : Option Nat := element.deployment.getNumberOfSampleSlots

/-- The number of subscribers has to be configured, also for a field without a
notifier. -/
def getMaxSubscribersFromConfig : Option Nat := element.deployment.maxSubscribers.map UInt8.toNat

def dataSizeInfo : Option EventDataStorageSizeInfo :=
  element.getNumberOfSampleSlotsFromConfig.map fun slots => ⟨slots, element.sampleSizeInfo⟩

def controlSizeInfo : Option ServiceElementControlSizeInfo :=
  match element.getNumberOfSampleSlotsFromConfig, element.getMaxSubscribersFromConfig with
  | some slots, some subscribers => some ⟨slots, subscribers⟩
  | _, _ => none

end ServiceElement

namespace ServiceDeployment

variable (deployment : ServiceDeployment) (types : SharedTypes)

def calculateDataShmResourceStorageSize : Option Nat :=
  match deployment.elements.mapM ServiceElement.dataSizeInfo with
  | none => none
  | some infos => types.calculateServiceDataStorageShmSize infos

def calculateControlShmResourceStorageSize : Option Nat :=
  match deployment.elements.mapM ServiceElement.controlSizeInfo with
  | none => none
  | some infos => types.calculateServiceDataControlShmSize infos

/-- The sizes that are determined in the analysis mode. -/
def calculateShmResourceStorageSizes : Option ShmResourceStorageSizes :=
  match deployment.calculateDataShmResourceStorageSize types,
    deployment.calculateControlShmResourceStorageSize types with
  | some dataSize, some controlSize =>
    match deployment.quality with
    | .asilQm => some ⟨dataSize, controlSize, none⟩
    | .asilB => some ⟨dataSize, controlSize, some controlSize⟩
  | _, _ => none

end ServiceDeployment

/-! ## Registration -/

structure SkeletonEventProperties where
  numberOfSlots : Nat
  numberOfTracingSlots : Nat
  numberOfFieldGetterSlots : Nat
  isSetterEnabled : Bool
  maxSubscribers : Nat

def SkeletonEventProperties.getTotalNumberOfSlots (properties : SkeletonEventProperties) : Nat :=
  let numberOfFieldSetterSlots := if properties.isSetterEnabled then 1 else 0
  properties.numberOfSlots + properties.numberOfTracingSlots +
    properties.numberOfFieldGetterSlots + numberOfFieldSetterSlots

/-- The slot count is passed on as a 16 bit number. -/
def SkeletonEventProperties.slotIndexCount (properties : SkeletonEventProperties) : Nat :=
  properties.getTotalNumberOfSlots % 2 ^ 16

def maxConcurrentFieldGetterSamplePtrs : Nat := 1

/-- Nothing is created if the configuration lacks a number that is needed. -/
def createSkeletonEventProperties (deployment : LolaEventInstanceDeployment)
    (fieldTags : Option FieldTagsStore) : Option SkeletonEventProperties :=
  match deployment.numberOfSampleSlots with
  | none => none
  | some slots =>
    let hasSubscriptionSemantics := fieldTags.all FieldTagsStore.hasNotifier
    let properties (maxSubscribers : Nat) : SkeletonEventProperties :=
      { numberOfSlots := slots.toNat
        numberOfTracingSlots := deployment.numberOfTracingSlots.toNat
        numberOfFieldGetterSlots :=
          if fieldTags.any FieldTagsStore.hasGetter then
            maxConcurrentFieldGetterSamplePtrs
          else 0
        isSetterEnabled := fieldTags.any FieldTagsStore.hasSetter
        maxSubscribers }
    if hasSubscriptionSemantics then
      match deployment.maxSubscribers with
      | none => none
      | some maxSubscribers => some (properties maxSubscribers.toNat)
    else some (properties 0)

structure RegisteredAllocations where
  data : List DataTypeSizeInfo
  controlQm : List DataTypeSizeInfo
  controlAsilB : Option (List DataTypeSizeInfo)

namespace ServiceElement

def properties (element : ServiceElement) : Option SkeletonEventProperties :=
  createSkeletonEventProperties element.deployment element.fieldTags

def createEventData (types : SharedTypes) (element : ServiceElement) :
    Option (List DataTypeSizeInfo) :=
  match element.properties with
  | none => none
  | some properties =>
    types.eventDataStorageAllocations properties.slotIndexCount element.sampleSizeInfo

def emplaceEventControl (types : SharedTypes) (element : ServiceElement) :
    Option (List DataTypeSizeInfo) :=
  match element.properties with
  | none => none
  | some properties =>
    some (types.eventControlAllocations properties.slotIndexCount properties.maxSubscribers)

end ServiceElement

/-- The storage and the controls are constructed, then all elements register. -/
def ServiceDeployment.register (deployment : ServiceDeployment) (types : SharedTypes) :
    Option RegisteredAllocations :=
  let numberOfElements := deployment.elements.length
  match deployment.elements.mapM (ServiceElement.createEventData types),
    deployment.elements.mapM (ServiceElement.emplaceEventControl types) with
  | some eventData, some eventControls =>
    let data := types.serviceDataStorageAllocations numberOfElements ++ eventData.flatten
    let control := types.serviceDataControlAllocations numberOfElements ++ eventControls.flatten
    match deployment.quality with
    | .asilQm => some ⟨data, control, none⟩
    | .asilB => some ⟨data, control, some control⟩
  | _, _ => none

/-! ## Slots that the analysis does not count -/

namespace ServiceElement

def accessorSlots (element : ServiceElement) : Nat :=
  (if element.fieldTags.any FieldTagsStore.hasGetter then
      maxConcurrentFieldGetterSamplePtrs
    else 0) +
    if element.fieldTags.any FieldTagsStore.hasSetter then 1 else 0

/-- The element is an event or a field that can be neither got nor set. -/
def WithoutAccessors (element : ServiceElement) : Prop :=
  ∀ tags ∈ element.fieldTags, tags.hasGetter = false ∧ tags.hasSetter = false

theorem accessorSlots_eq_zero_iff (elem : ServiceElement) :
    elem.accessorSlots = 0 ↔ elem.WithoutAccessors := by
  rw [accessorSlots, WithoutAccessors, maxConcurrentFieldGetterSamplePtrs]
  cases elem.fieldTags with
  | none => simp
  | some tags =>
    cases getter : tags.hasGetter <;> cases setter : tags.hasSetter <;> simp [getter, setter]

variable {slots : Nat}

theorem getNumberOfSampleSlots_eq_some {elem : ServiceElement}
    (configured : elem.getNumberOfSampleSlotsFromConfig = some slots) :
    ∃ sampleSlots, elem.deployment.numberOfSampleSlots = some sampleSlots ∧
      slots = sampleSlots.toNat + elem.deployment.numberOfTracingSlots.toNat ∧
      slots < 2 ^ 16 := by
  rw [getNumberOfSampleSlotsFromConfig,
    LolaEventInstanceDeployment.getNumberOfSampleSlots] at configured
  split at configured
  · cases configured
  next sampleSlots found =>
    dsimp only at configured
    split at configured
    · cases configured
    · cases configured
      exact ⟨sampleSlots, found, rfl, by omega⟩

theorem properties_eq_some {elem : ServiceElement} {properties : SkeletonEventProperties}
    (created : elem.properties = some properties)
    (configured : elem.getNumberOfSampleSlotsFromConfig = some slots) :
    properties.getTotalNumberOfSlots = slots + elem.accessorSlots ∧
      ∀ subscribers, elem.getMaxSubscribersFromConfig = some subscribers →
        properties.maxSubscribers ≤ subscribers := by
  obtain ⟨sampleSlots, found, isSum, _⟩ := getNumberOfSampleSlots_eq_some configured
  rw [ServiceElement.properties, createSkeletonEventProperties, found] at created
  dsimp only at created
  split at created
  · split at created
    · cases created
    next maxSubscribers foundSubscribers =>
      cases created
      refine ⟨?_, ?_⟩
      · rw [SkeletonEventProperties.getTotalNumberOfSlots, accessorSlots, isSum]
        dsimp only
        omega
      · intro subscribers configuredSubscribers
        rw [getMaxSubscribersFromConfig, foundSubscribers] at configuredSubscribers
        exact le_of_eq (some.inj configuredSubscribers)
  · cases created
    refine ⟨?_, fun subscribers _ => zero_le _⟩
    rw [SkeletonEventProperties.getTotalNumberOfSlots, accessorSlots, isSum]
    dsimp only
    omega

end ServiceElement

variable {α β : Type} {slots first second : Nat} {infos : List EventDataStorageSizeInfo}
  {analysed : List (List DataTypeSizeInfo)} {types : SharedTypes} {element : ServiceElement}
  {registered : List (List DataTypeSizeInfo)} {elems : List ServiceElement}

theorem mapM_cons_eq_some {f : α → Option β} {a as results}
    (mapped : (a :: as).mapM f = some results) :
    ∃ b bs, f a = some b ∧ as.mapM f = some bs ∧ results = b :: bs := by
  rw [mapM_cons] at mapped
  obtain ⟨b, found, mappedRest⟩ := bind_eq_some_iff.mp mapped
  obtain ⟨bs, foundRest, isCons⟩ := bind_eq_some_iff.mp mappedRest
  exact ⟨b, bs, found, foundRest, (some.inj isCons).symm⟩

theorem length_of_mapM {f : α → Option β} {as : List α} {results : List β}
    (mapped : as.mapM f = some results) : results.length = as.length := by
  induction as generalizing results with
  | nil =>
    cases mapped
    rfl
  | cons a as ih =>
    obtain ⟨b, bs, _, mappedRest, rfl⟩ := mapM_cons_eq_some mapped
    rw [length_cons, length_cons, ih mappedRest]

namespace SharedTypes

variable {types : SharedTypes}

theorem eventDataStorageAllocations_eq_some {numberOfSlots x allocations}
    (allocated : types.eventDataStorageAllocations numberOfSlots x =
      some allocations) : allocations = [types.eventDataStorage, x.array numberOfSlots] := by
  rw [eventDataStorageAllocations] at allocated
  split at allocated
  · exact (some.inj allocated).symm
  · cases allocated

theorem eventControlAllocations_dominated (types : SharedTypes) (slots : Nat)
    {subscribers moreSubscribers} (subscribersLe : subscribers ≤ moreSubscribers) :
    Dominated (types.eventControlAllocations slots subscribers)
      (types.eventControlAllocations slots moreSubscribers) := by
  obtain ⟨others, rfl⟩ := Nat.exists_eq_add_of_le subscribersLe
  rw [eventControlAllocations, eventControlAllocations, replicate_add]
  refine .append (.append ?_ ?_) (.refl _)
  · exact .both rfl (Nat.le_refl _) (.both rfl (Nat.le_refl _)
      (.both rfl (Nat.mul_le_mul_right _ subscribersLe) .nil))
  · have copies := append
      (.refl (replicate subscribers (types.transactionLogSlot.array slots)))
      (.nil_left (replicate others (types.transactionLogSlot.array slots)))
    rw [append_nil] at copies
    exact copies

end SharedTypes

theorem ServiceElement.createEventData_eq_some {info : EventDataStorageSizeInfo}
    (collected : element.dataSizeInfo = some info) {analysed registered}
    (analyses : types.addEventDataStorageShmSizeAllocation info = some analysed)
    (registers : element.createEventData types = some registered) :
    ∃ slots, element.getNumberOfSampleSlotsFromConfig = some slots ∧
      analysed = [types.eventDataStorage, element.sampleSizeInfo.array slots] ∧
      registered = [types.eventDataStorage,
        element.sampleSizeInfo.array ((slots + element.accessorSlots) % 2 ^ 16)] := by
  rw [dataSizeInfo] at collected
  obtain ⟨slots, configured, isInfo⟩ := map_eq_some_iff.mp collected
  subst isInfo
  rw [createEventData] at registers
  split at registers
  · cases registers
  next properties created =>
    have isTotal := (properties_eq_some created configured).1
    refine ⟨slots, configured, ?_, ?_⟩
    · exact SharedTypes.eventDataStorageAllocations_eq_some analyses
    · rw [SkeletonEventProperties.slotIndexCount, isTotal] at registers
      exact SharedTypes.eventDataStorageAllocations_eq_some registers

theorem ServiceElement.slots_mod_of_withoutAccessors (withoutAccessors : element.WithoutAccessors)
    (configured : element.getNumberOfSampleSlotsFromConfig = some slots) :
    (slots + element.accessorSlots) % 2 ^ 16 = slots := by
  obtain ⟨_, _, _, representable⟩ := getNumberOfSampleSlots_eq_some configured
  rw [element.accessorSlots_eq_zero_iff.mpr withoutAccessors, add_zero]
  exact mod_eq_of_lt representable

theorem data_eq_map (collected : elems.mapM ServiceElement.dataSizeInfo = some infos)
    (analyses : infos.mapM types.addEventDataStorageShmSizeAllocation = some analysed)
    (registers : elems.mapM (ServiceElement.createEventData types) = some registered) :
    ∃ slots : ServiceElement → Nat,
      (∀ elem ∈ elems, elem.getNumberOfSampleSlotsFromConfig = some (slots elem)) ∧
      (analysed = elems.map fun elem =>
        [types.eventDataStorage, elem.sampleSizeInfo.array (slots elem)]) ∧
      registered = elems.map fun elem => [types.eventDataStorage,
        elem.sampleSizeInfo.array ((slots elem + elem.accessorSlots) % 2 ^ 16)] := by
  refine ⟨fun elem => elem.getNumberOfSampleSlotsFromConfig.getD 0, ?_⟩
  induction elems generalizing infos analysed registered with
  | nil =>
    cases collected
    cases analyses
    cases registers
    exact ⟨nofun, rfl, rfl⟩
  | cons element elems ih =>
    obtain ⟨info, restInfos, collectedHead, collectedRest, rfl⟩ := mapM_cons_eq_some collected
    obtain ⟨head, rest, analysesHead, analysesRest, rfl⟩ := mapM_cons_eq_some analyses
    obtain ⟨registeredHead, registeredRest, registersHead, registersRest, rfl⟩ :=
      mapM_cons_eq_some registers
    obtain ⟨slots, configured, rfl, rfl⟩ :=
      ServiceElement.createEventData_eq_some collectedHead analysesHead registersHead
    obtain ⟨areConfigured, rfl, rfl⟩ := ih collectedRest analysesRest registersRest
    refine ⟨forall_mem_cons.mpr ⟨?_, areConfigured⟩, ?_, ?_⟩ <;> simp [configured]

theorem ServiceElement.emplaceEventControl_dominated {info : ServiceElementControlSizeInfo}
    (collected : element.controlSizeInfo = some info) {registered : List DataTypeSizeInfo}
    (registers : element.emplaceEventControl types = some registered)
    (withoutAccessors : element.WithoutAccessors) :
    Dominated registered
      (types.eventControlAllocations info.numberOfSlots info.maxSubscribers) := by
  rw [controlSizeInfo] at collected
  split at collected
  next slots subscribers configured configuredSubscribers =>
    cases collected
    rw [emplaceEventControl] at registers
    split at registers
    · cases registers
    next properties created =>
      cases registers
      obtain ⟨isTotal, subscribersLe⟩ := properties_eq_some created configured
      rw [SkeletonEventProperties.slotIndexCount, isTotal,
        slots_mod_of_withoutAccessors withoutAccessors configured]
      exact types.eventControlAllocations_dominated slots
        (subscribersLe subscribers configuredSubscribers)
  · cases collected

theorem control_dominated {infos}
    (collected : elems.mapM ServiceElement.controlSizeInfo = some infos)
    (registers : elems.mapM (ServiceElement.emplaceEventControl types) = some registered)
    (withoutAccessors : ∀ element ∈ elems, element.WithoutAccessors) :
    Dominated registered.flatten (infos.flatMap fun info =>
        types.eventControlAllocations info.numberOfSlots info.maxSubscribers) := by
  induction elems generalizing infos registered with
  | nil =>
    cases collected
    cases registers
    exact .nil
  | cons element elems ih =>
    obtain ⟨info, restInfos, collectedHead, collectedRest, rfl⟩ := mapM_cons_eq_some collected
    obtain ⟨registeredHead, registeredRest, registersHead, registersRest, rfl⟩ :=
      mapM_cons_eq_some registers
    exact .append (ServiceElement.emplaceEventControl_dominated collectedHead registersHead
        (withoutAccessors element mem_cons_self))
      (ih collectedRest registersRest (fun o mem => withoutAccessors o (mem_cons_of_mem _ mem)))

/-! ## Samples that no padding absorbs -/

/-- If the field has accessors, the samples of their slots are larger than any padding
and the slot count does not overflow. -/
def ServiceElement.Coarse (element : ServiceElement) : Prop :=
  element.accessorSlots ≠ 0 → maxAlign ≤ element.accessorSlots * element.sampleSizeInfo.size ∧
      ∀ slots, element.getNumberOfSampleSlotsFromConfig = some slots →
        slots + element.accessorSlots < 2 ^ 16

theorem ServiceElement.Coarse.slots_mod (coarse : element.Coarse)
    (configured : element.getNumberOfSampleSlotsFromConfig = some slots) :
    (slots + element.accessorSlots) % 2 ^ 16 = slots + element.accessorSlots := by
  by_cases none : element.accessorSlots = 0
  · rw [slots_mod_of_withoutAccessors (element.accessorSlots_eq_zero_iff.mp none)
      configured, none, add_zero]
  · exact mod_eq_of_lt ((coarse none).2 slots configured)

theorem placedEnd_data_le (storage : DataTypeSizeInfo) {slots : ServiceElement → Nat}
    (configured : ∀ elem ∈ elems, elem.getNumberOfSampleSlotsFromConfig = some (slots elem))
    (coarse : ∀ element ∈ elems, element.Coarse) (le : first ≤ second) :
    let analysed := elems.map fun elem => [storage, elem.sampleSizeInfo.array (slots elem)]
    let registered := elems.map fun elem =>
      [storage, elem.sampleSizeInfo.array ((slots elem + elem.accessorSlots) % 2 ^ 16)]
    placedEnd first analysed.flatten ≤ placedEnd second registered.flatten ∧
      ((∃ element ∈ elems, element.accessorSlots ≠ 0) ∨ first + maxAlign ≤ second →
        placedEnd first analysed.flatten + maxAlign ≤ placedEnd second registered.flatten) := by
  induction elems generalizing first second with
  | nil =>
    refine ⟨le, ?_⟩
    rintro (⟨element, bad, _⟩ | shifted)
    · cases bad
    · exact shifted
  | cons element elems ih =>
    obtain ⟨configuredHead, configuredRest⟩ := forall_mem_cons.mp configured
    obtain ⟨coarseHead, coarseRest⟩ := forall_mem_cons.mp coarse
    have dominated : Dominated [storage, element.sampleSizeInfo.array (slots element)]
        [storage, element.sampleSizeInfo.array (slots element + element.accessorSlots)] :=
      .both rfl (le_refl _) (.both rfl (mul_le_mul_right _ (le_add_right _ _)) .nil)
    have fromRest := ih configuredRest coarseRest (dominated.placedEnd_le le)
    simp only [map_cons, flatten_cons, placedEnd_append, coarseHead.slots_mod configuredHead]
    refine ⟨fromRest.1, ?_⟩
    rintro (⟨o, mem, accessors⟩ | shifted)
    · rcases mem_cons.mp mem with rfl | inRest
      · have samplesLarge := (coarseHead accessors).1
        have storageStart := alignUp_mono le storage.alignment
        have slotsStart := alignUp_mono (Nat.add_le_add_right storageStart
          storage.size) o.sampleSizeInfo.alignment
        refine fromRest.2 (.inr ?_)
        simp only [placedEnd, DataTypeSizeInfo.array, Nat.add_mul]
        omega
      · exact fromRest.2 (.inl ⟨o, inRest, accessors⟩)
    · have shiftedHead := dominated.placedEnd_le shifted
      rw [placedEnd_add (dvd_refl maxAlign)] at shiftedHead
      exact fromRest.2 (.inr shiftedHead)

/-! ## Sizes against allocations -/

/-- A size covers the bytes of a sequence of allocations, and no region that is created
with it refuses one of them. -/
def Holds (size : Nat) (allocations : List DataTypeSizeInfo) : Prop :=
  bytesConsumed allocations ≤ size ∧ ∀ region : MappedRegion, maxAlign ∣ region.baseAddress →
      region.virtualAddressSpaceToReserve = neededManagementSpace + size →
      (region.allocateAll neededManagementSpace allocations).isSome

theorem holds_iff (size : Nat) (allocations : List DataTypeSizeInfo) :
    Holds size allocations ↔ bytesConsumed allocations ≤ size := by
  refine ⟨And.left, fun covers => ⟨covers, ?_⟩⟩
  intro r baseAligned created
  exact (r.allocateAll_isSome_iff_bytesConsumed_le baseAligned created allocations).mpr covers

/-- The calculated sizes hold all that is registered. -/
structure ShmResourceStorageSizes.Suffice (sizes : ShmResourceStorageSizes)
    (registered : RegisteredAllocations) : Prop where
  data : Holds sizes.dataSize registered.data
  controlQm : Holds sizes.controlQmSize registered.controlQm
  controlAsilB : ∀ size ∈ sizes.controlAsilBSize,
    ∀ allocations ∈ registered.controlAsilB, Holds size allocations

namespace ServiceDeployment

variable {deployment : ServiceDeployment} {types : SharedTypes} {size : Nat}

theorem calculateShmResourceStorageSizes_eq_some {sizes}
    (calculated : deployment.calculateShmResourceStorageSizes types = some sizes) :
    ∃ infos analysed controlInfos,
      deployment.elements.mapM ServiceElement.dataSizeInfo = some infos ∧
        infos.mapM types.addEventDataStorageShmSizeAllocation = some analysed ∧
        deployment.elements.mapM ServiceElement.controlSizeInfo = some controlInfos ∧
        sizes.dataSize = bytesConsumed
          (types.serviceDataStorageAllocations deployment.elements.length ++ analysed.flatten) ∧
        sizes.controlQmSize = bytesConsumed
          (types.serviceDataControlAllocations deployment.elements.length ++
            controlInfos.flatMap fun info =>
              types.eventControlAllocations info.numberOfSlots info.maxSubscribers) ∧
        ∀ size ∈ sizes.controlAsilBSize, size = sizes.controlQmSize := by
  rw [calculateShmResourceStorageSizes, calculateDataShmResourceStorageSize,
    calculateControlShmResourceStorageSize] at calculated
  split at calculated
  next dataSize controlSize calculatedData calculatedControl =>
    split at calculatedData
    · cases calculatedData
    next infos collected =>
      split at calculatedControl
      · cases calculatedControl
      next controlInfos controlCollected =>
        rw [SharedTypes.calculateServiceDataStorageShmSize] at calculatedData
        split at calculatedData
        · cases calculatedData
        next analysed analyses =>
          have isData := calculateAlignedSizeOfSequence_eq_some calculatedData
          have isControl := calculateAlignedSizeOfSequence_eq_some calculatedControl
          rw [length_of_mapM collected] at isData
          rw [length_of_mapM controlCollected] at isControl
          refine ⟨infos, analysed, controlInfos, collected, analyses, controlCollected, ?_⟩
          split at calculated <;> cases calculated
          · exact ⟨isData, isControl, nofun⟩
          · refine ⟨isData, isControl, ?_⟩
            rintro _ ⟨⟩
            rfl
  · cases calculated

theorem register_eq_some {registered} (registers : deployment.register types = some registered) :
    ∃ eventData eventControls,
      deployment.elements.mapM (ServiceElement.createEventData types) = some eventData ∧
        deployment.elements.mapM (ServiceElement.emplaceEventControl types) = some eventControls ∧
        registered.data = types.serviceDataStorageAllocations deployment.elements.length ++
          eventData.flatten ∧
        registered.controlQm =
          types.serviceDataControlAllocations deployment.elements.length ++ eventControls.flatten ∧
        ∀ allocations ∈ registered.controlAsilB, allocations = registered.controlQm := by
  rw [register] at registers
  dsimp only at registers
  split at registers
  next eventData eventControls createsData createsControls =>
    refine ⟨eventData, eventControls, createsData, createsControls, ?_⟩
    split at registers <;> cases registers
    · refine ⟨rfl, rfl, ?_⟩
      nofun
    · refine ⟨rfl, rfl, ?_⟩
      rintro _ ⟨⟩
      rfl
  · cases registers

/-- The analysed sizes hold what is registered if no field has a getter or a setter.
Where the slots of accessors are no smaller than the largest alignment and slot counts do
not overflow, they hold it only then. -/
theorem sizes_suffice_iff_withoutAccessors {sizes : ShmResourceStorageSizes}
    (calculated : deployment.calculateShmResourceStorageSizes types = some sizes)
    {registered : RegisteredAllocations} (registers : deployment.register types = some registered) :
    ((∀ element ∈ deployment.elements, element.WithoutAccessors) → sizes.Suffice registered) ∧
      ((∀ element ∈ deployment.elements, element.Coarse) → (sizes.Suffice registered ↔
          ∀ element ∈ deployment.elements, element.WithoutAccessors)) := by
  obtain ⟨infos, analysed, controlInfos, collected, analyses, controlCollected, isDataSize,
    isControlSize, sameControl⟩ := calculateShmResourceStorageSizes_eq_some calculated
  obtain ⟨eventData, eventControls, createsData, createsControls, isData, isControl,
    sameAllocations⟩ := register_eq_some registers
  obtain ⟨slots, configured, rfl, rfl⟩ := data_eq_map collected analyses createsData
  have sufficient : (∀ element ∈ deployment.elements, element.WithoutAccessors) →
      sizes.Suffice registered := by
    intro withoutAccessors
    have control : Holds sizes.controlQmSize registered.controlQm := by
      rw [holds_iff, isControlSize, isControl]
      exact (append (.refl _) (control_dominated controlCollected
        createsControls withoutAccessors)).placedEnd_le (le_refl 0)
    refine ⟨?_, control, ?_⟩
    · rw [holds_iff, isDataSize, isData, map_congr_left fun elem mem => by
        rw [ServiceElement.slots_mod_of_withoutAccessors (withoutAccessors elem mem)
          (configured elem mem)]]
    · intro size isSize allocations isAllocations
      rw [sameControl size isSize, sameAllocations allocations isAllocations]
      exact control
  refine ⟨sufficient, fun coarse => ⟨?_, sufficient⟩⟩
  intro suffice element member
  by_contra accessors
  have notZero : element.accessorSlots ≠ 0 := fun isZero =>
    accessors (element.accessorSlots_eq_zero_iff.mp isZero)
  have covers := (holds_iff _ _).mp suffice.data
  have behind := (placedEnd_data_le types.eventDataStorage configured coarse (le_refl
    (placedEnd 0 (types.serviceDataStorageAllocations deployment.elements.length)))).2
    (.inl ⟨element, member, notZero⟩)
  rw [isDataSize, isData, bytesConsumed, bytesConsumed, placedEnd_append,
    placedEnd_append] at covers
  have positive : 0 < maxAlign := by decide
  omega

def words (count : Nat) : DataTypeSizeInfo where
  size := count * 8
  alignment := 8
  isPowerOfTwo := ⟨3, rfl⟩
  isMultiple := Nat.dvd_mul_left 8 count
  atMostMaxAlign := by decide

theorem flags_isPowerOfTwo : ∃ exponent, 1 = 2 ^ exponent := ⟨0, rfl⟩

def flags : DataTypeSizeInfo where
  size := 1
  alignment := 1
  isPowerOfTwo := flags_isPowerOfTwo
  isMultiple := Nat.dvd_refl 1
  atMostMaxAlign := by decide

def wordTypes : SharedTypes where
  serviceDataStorage := words 20
  eventDataStorageEntry := words 4
  eventMetaInfoEntry := words 4
  eventDataStorage := words 8
  serviceDataControl := words 20
  eventControlEntry := words 30
  applicationIdPidMappingEntry := words 2
  controlSlot := words 1
  transactionLogSlot := flags
  transactionLogNode := words 8

def wordsElement (fieldTags : Option FieldTagsStore) : ServiceElement where
  deployment := ⟨some 2, 0, some 1⟩
  sampleSizeInfo := words 2
  fieldTags := fieldTags

theorem event_sizes_suffice : ∃ sizes registered,
      calculateShmResourceStorageSizes ⟨.asilB, [wordsElement none]⟩ wordTypes = some sizes ∧
        register ⟨.asilB, [wordsElement none]⟩ wordTypes = some registered ∧
        sizes.Suffice registered := by
  have calculated : ∃ sizes, calculateShmResourceStorageSizes
      ⟨.asilB, [wordsElement none]⟩ wordTypes = some sizes := ⟨_, rfl⟩
  have registers : ∃ registered, register ⟨.asilB, [wordsElement none]⟩ wordTypes =
      some registered := ⟨_, rfl⟩
  obtain ⟨sizes, calculated⟩ := calculated
  obtain ⟨registered, registers⟩ := registers
  refine ⟨sizes, registered, calculated, registers,
    (sizes_suffice_iff_withoutAccessors calculated registers).1 ?_⟩
  intro element member
  cases List.mem_singleton.mp member
  nofun

theorem getter_sizes_do_not_suffice : ∃ sizes registered, calculateShmResourceStorageSizes
          ⟨.asilB, [wordsElement (some ⟨true, false, true⟩)]⟩ wordTypes = some sizes ∧
        register ⟨.asilB, [wordsElement (some ⟨true, false, true⟩)]⟩ wordTypes = some registered ∧
        ¬ sizes.Suffice registered := by
  refine ⟨_, _, rfl, rfl, ?_⟩
  intro suffice
  have covers := suffice.data.1
  revert covers
  decide

end ServiceDeployment

end ScoreIntegration.Lola
