import ScoreIntegration.Lola.DeliverySystem
import ScoreIntegration.Lola.SkeletonEvent

/-!
# Publication order

A skeleton event sends samples over any number of offers of one shared memory.  Their time
stamps ascend as long as the counter does not run over and every new offer finds the newest
time stamp in the memory.
-/

namespace ScoreIntegration.Lola

open Concurrency EventDataControlComposite List DeliverySystem ControlOp Program Shared Fintype
open ProxyLocal
open Concurrency.Footprint

variable {ι : Type}

/-- The event, the slots of its sample pointers, the time stamps of all samples it has sent,
newest first, and the slots that still hold the newest sample. -/
structure SkeletonLocal where
  event : SkeletonEvent
  owned : List SlotIndex
  sent : List EventTimeStamp
  latest : List (QualityType × SlotIndex)
  deriving DecidableEq

namespace SkeletonLocal

def sections (skeleton : SkeletonLocal) : List QualityType :=
  match skeleton.event.eventDataControlComposite with
  | none => []
  | some composite => composite.sections

def newest (skeleton : SkeletonLocal) : EventTimeStamp :=
  skeleton.sent.headD EventSlotStatus.INVALID_TIMESTAMP

def allocate (skeleton : SkeletonLocal) : Control ι SkeletonLocal := do
  let (event', slot) ← skeleton.event.allocate
  pure { skeleton with
    event := event'
    owned := slot.toList ++ skeleton.owned
    latest := skeleton.latest.filter fun cell => some cell.2 ≠ slot }

def send (skeleton : SkeletonLocal) (slot : SlotIndex) : Control ι SkeletonLocal := do
  let event' ← skeleton.event.send slot
  pure {
    event := event'
    owned := skeleton.owned.erase slot
    sent := event'.currentTimestamp :: skeleton.sent
    latest := skeleton.sections.map fun quality => (quality, slot) }

def drop (skeleton : SkeletonLocal) (slot : SlotIndex) : Control ι SkeletonLocal := do
  skeleton.event.drop slot
  pure { skeleton with owned := skeleton.owned.erase slot }

def prepareStopOffer (skeleton : SkeletonLocal) : SkeletonLocal :=
  { skeleton with event := skeleton.event.prepareStopOffer, owned := [] }

def prepareOffer (slots : Nat) (asilB : Bool) (skeleton : SkeletonLocal) :
    Control ι SkeletonLocal := do
  let event' ← skeleton.event.prepareOffer slots asilB
  pure { skeleton with event := event' }

def start (slots : Nat) (asilB : Bool) : SkeletonLocal where
  event := ⟨some ⟨slots, asilB, false⟩, EventSlotStatus.INVALID_TIMESTAMP, false⟩
  owned := []
  sent := []
  latest := []

end SkeletonLocal

/-- What is assumed of a state in which the skeleton sends a sample or offers
the event again. -/
structure PublicationRules (ι : Type) where
  send : SkeletonLocal → Prop
  offer : SkeletonLocal → Shared ι → Prop

inductive SkeletonLocal.Call (slots : Nat) (asilB : Bool)
    (allowed : PublicationRules ι) (skeleton : SkeletonLocal)
    (state : Shared ι) : Control ι SkeletonLocal → Prop
  | allocate : Call slots asilB allowed skeleton state skeleton.allocate
  | send {slot : SlotIndex} : slot ∈ skeleton.owned → allowed.send skeleton →
      Call slots asilB allowed skeleton state (skeleton.send slot)
  | drop {slot : SlotIndex} : slot ∈ skeleton.owned →
      Call slots asilB allowed skeleton state (skeleton.drop slot)
  | prepareStopOffer : Call slots asilB allowed skeleton state (pure skeleton.prepareStopOffer)
  | prepareOffer : skeleton.event.eventDataControlComposite = none → allowed.offer skeleton state →
      Call slots asilB allowed skeleton state (skeleton.prepareOffer slots asilB)

inductive PublicationLocal where
  | skeleton (skeleton : SkeletonLocal)
  | proxy (proxy : ProxyLocal)
  deriving DecidableEq

inductive PublicationCall [DecidableEq ι] (slots : Nat) (asilB : Bool)
    (allowed : PublicationRules ι) :
    Participant ι → PublicationLocal → Shared ι → Control ι PublicationLocal → Prop
  | skeleton {skeleton : SkeletonLocal} {state : Shared ι} {program : Control ι SkeletonLocal} :
      skeleton.Call slots asilB allowed state program →
      PublicationCall slots asilB allowed .provider (.skeleton skeleton) state
        (program >>= fun skeleton' => pure (.skeleton skeleton'))
  | proxy (quality : QualityType) (log : ι) {proxy : ProxyLocal}
      (state : Shared ι) {program : Control ι ProxyLocal} :
      proxy.Call ⟨quality, log, slots⟩ program →
      PublicationCall slots asilB allowed (.consumer quality log) (.proxy proxy) state
        (program >>= fun proxy' => pure (.proxy proxy'))

inductive PublicationStart (slots : Nat) (asilB : Bool) : Participant ι → PublicationLocal → Prop
  | skeleton : PublicationStart slots asilB .provider (.skeleton (.start slots asilB))
  | proxy (quality : QualityType) (log : ι) {maxSlots : Nat} : 0 < maxSlots →
      PublicationStart slots asilB (.consumer quality log) (.proxy (.fresh maxSlots))
  | adversary (idle : PublicationLocal) : PublicationStart slots asilB .adversary idle

/-- All interleavings in which the skeleton keeps to `allowed`. -/
def publicationSystem (ι : Type) [DecidableEq ι] (slots : Nat) (asilB : Bool)
    (allowed : PublicationRules ι) :
    System (controlMachine ι (deliverySetting ι).admissible) Failure
      PublicationLocal (Participant ι) where
  initial config :=
    config.shared = Shared.empty ∧ ∀ thread, ∃ idle,
      config.threads thread = .done idle ∧ PublicationStart slots asilB thread idle
  launch thread current state program :=
    ∃ idle, current = .done idle ∧ PublicationCall slots asilB allowed thread idle state program

/-! ## Between the calls of the skeleton -/

namespace SkeletonLocal

structure Idle (slots : Nat) (skeleton : SkeletonLocal) (book : Book) : Prop where
  offered : ∀ composite, skeleton.event.eventDataControlComposite = some composite →
      composite.slots = slots ∧ composite.Connected
  writes : ∀ quality ∈ skeleton.sections, book.Writes quality slots skeleton.owned
  closed : skeleton.event.eventDataControlComposite = none → skeleton.owned = []
  counter : skeleton.event.currentTimestamp = skeleton.newest
  stored : ∀ quality slot timeStamp,
    book.contents quality slot = .sample timeStamp → timeStamp ∈ skeleton.sent
  descending : skeleton.sent.Pairwise fun later earlier => earlier < later
  positive : ∀ timeStamp ∈ skeleton.sent, 0#32 < timeStamp
  latest : ∀ cell ∈ skeleton.latest, cell.2 < slots ∧ ∃ timeStamp,
    skeleton.sent.head? = some timeStamp ∧ book.contents cell.1 cell.2 = .sample timeStamp

theorem idle_start (slots : Nat) (asilB : Bool) (trusted : QualityType → Bool) :
    (start slots asilB).Idle slots ((empty : Shared ι).book trusted) where
  offered comp same := by
    cases same
    exact ⟨rfl, fun _ => rfl⟩
  writes _ _ := ⟨nodup_nil, by simp [start]⟩
  closed _ := rfl
  counter := rfl
  stored q i ts x := by
    rw [book_empty_contents] at x
    cases x
  descending := List.Pairwise.nil
  positive := by simp [start]
  latest := by simp [start]

section Idle

variable {slots : Nat} {sk : SkeletonLocal} {b current : Book}
  {comp : EventDataControlComposite} {trusted : QualityType → Bool} {i : SlotIndex}
  {content : EventSlotStatus.Content}

theorem Idle.le_newest (idle : sk.Idle slots b) {ts} (mem : ts ∈ sk.sent) : ts ≤ sk.newest := by
  have descending := idle.descending
  unfold newest
  cases isSent : sk.sent with
  | nil =>
    rw [isSent] at mem
    cases mem
  | cons first rest =>
    rw [isSent] at mem descending
    rcases mem_cons.mp mem with rfl | later
    · exact BitVec.le_refl _
    · exact BitVec.le_of_lt ((pairwise_cons.mp descending).1 ts later)

theorem sections_eq (offered : sk.event.eventDataControlComposite = some comp) :
    sk.sections = comp.sections := by
  simp [sections, offered]

theorem Idle.allocated {composite' i} (idle : sk.Idle slots b)
    (offered : sk.event.eventDataControlComposite = some comp)
    (allocated : comp.Allocated b (composite', i) current) (qmDisconnect : Bool) :
    Idle slots { sk with
      event := { sk.event with
        eventDataControlComposite := some composite'
        qmDisconnect := qmDisconnect }
      owned := i.toList ++ sk.owned
      latest := sk.latest.filter fun cell => some cell.2 ≠ i }
      current := by
  obtain ⟨slots_eq, -⟩ := idle.offered comp offered
  have writesBefore : ∀ q ∈ composite'.sections, b.Writes q slots sk.owned := by
    intro q served
    refine idle.writes q ?_
    rw [sections_eq offered]
    exact allocated.served q served
  have kept : ∀ q slot' timeStamp, current.contents q slot' = .sample timeStamp →
        b.contents q slot' = .sample timeStamp := by
    intro q slot' timeStamp x
    cases isSlot : i with
    | none => rwa [(allocated.unchanged isSlot).1] at x
    | some claimed =>
      rw [(allocated.claims claimed isSlot).2.contents] at x
      split at x
      · cases x
      · exact x
  refine ⟨?_, ?_, ?_, idle.counter, ?_, idle.descending, idle.positive, ?_⟩
  · intro o same
    cases same
    exact ⟨allocated.slots_eq.trans slots_eq, allocated.connected⟩
  · intro q served
    cases isSlot : i with
    | none => exact (writesBefore q served).of_sameSlots (allocated.unchanged isSlot)
    | some claimed =>
      obtain ⟨lt, claims⟩ := allocated.claims claimed isSlot
      rw [slots_eq] at lt
      exact claims.writes served lt (writesBefore q served)
  · nofun
  · exact fun q slot' timeStamp x => idle.stored q slot' timeStamp (kept q slot' timeStamp x)
  · intro cell mem
    obtain ⟨before, elsewhere⟩ := mem_filter.mp mem
    obtain ⟨lt, timeStamp, isNewest, x⟩ := idle.latest cell before
    refine ⟨lt, timeStamp, isNewest, ?_⟩
    cases isSlot : i with
    | none => rw [(allocated.unchanged isSlot).1, x]
    | some claimed =>
      rw [isSlot] at elsewhere
      have differ : cell.2 ≠ claimed := by simpa using elsewhere
      rw [(allocated.claims claimed isSlot).2.contents, if_neg, x]
      exact fun both => differ both.2

theorem Idle.stores (trust : ∀ q, trusted q = true)
    (st : (storeAll trusted i content sk.sections b).SameSlots current)
    (q : QualityType) (slot' : SlotIndex) :
    current.contents q slot' =
      if q ∈ sk.sections ∧ slot' = i then content
      else b.contents q slot' := by
  rw [st.1, storeAll_contents]
  simp [trust]

section

variable (idle : sk.Idle slots b)
include idle

theorem Idle.writes_erase (st : (storeAll trusted i content sk.sections b).SameSlots current)
    {q} (served : q ∈ sk.sections) :
    current.Writes q slots (sk.owned.erase i) := by
  have writes := idle.writes q served
  exact (storeAll_writes _ (writes.erase i) (writes.notMem_erase i)).of_sameSlots st

end

/-- The section in which `GetLatestTimestamp` looks. -/
def timestampSection (asilB : Bool) : QualityType := if asilB then .asilB else .asilQm

theorem Idle.offers (idle : sk.Idle slots b) {asilB}
    (newestStored : sk.sent = [] ∨ ∃ i < slots,
      b.contents (timestampSection asilB) i = .sample sk.newest)
    (samples : ∀ q i ts, current.contents q i = .sample ts ↔ b.contents q i = .sample ts)
    (closed : sk.event.eventDataControlComposite = none) {latestTimestamp}
    (isLatest : EventDataControlComposite.IsLatest current (timestampSection asilB) (range slots)
      EventSlotStatus.INVALID_TIMESTAMP latestTimestamp) :
    Idle slots { sk with
      event := { sk.event with
        eventDataControlComposite := some ⟨slots, asilB, false⟩
        currentTimestamp := latestTimestamp } } current := by
  have st : ∀ q i ts, current.contents q i = .sample ts → ts ∈ sk.sent := fun q i ts x =>
    idle.stored q i ts ((samples q i ts).mp x)
  have atMost : latestTimestamp ≤ sk.newest := by
    rcases isLatest.attained with rfl | ⟨i, -, x⟩
    · show 0#32 ≤ sk.newest
      bv_omega
    · exact idle.le_newest (st _ i latestTimestamp x)
  have atLeast : sk.newest ≤ latestTimestamp := by
    rcases newestStored with nothing | ⟨i, lt, x⟩
    · rw [show sk.newest = EventSlotStatus.INVALID_TIMESTAMP by
        simp [newest, nothing]]
      exact isLatest.upper.1
    · exact isLatest.upper.2 i (mem_range.mpr lt) sk.newest ((samples _ _ _).mpr x)
  have empty : sk.owned = [] := idle.closed closed
  refine ⟨?_, ?_, ?_, BitVec.le_antisymm atMost atLeast, st, idle.descending, idle.positive, ?_⟩
  · intro comp same
    cases same
    exact ⟨rfl, fun _ => rfl⟩
  · intro q _
    rw [show ({ sk with event := _ } : SkeletonLocal).owned = [] from empty]
    exact ⟨nodup_nil, by simp⟩
  · nofun
  · intro cell isCell
    obtain ⟨lt, ts, isNewest, x⟩ := idle.latest cell isCell
    exact ⟨lt, ts, isNewest, (samples _ _ _).mpr x⟩

end Idle

/-! ## Every call is safe -/

/-- The counter does not reach the time stamps that are never delivered. -/
def CounterInRange (skeleton : SkeletonLocal) : Prop :=
  skeleton.event.currentTimestamp < EventSlotStatus.TIMESTAMP_MAX - 1#32

/-- The newest sample is still in the memory when the event is offered. -/
def NewestStored (slots : Nat) (asilB : Bool) (skeleton : SkeletonLocal)
    (state : Shared ι) : Prop :=
  skeleton.sent = [] ∨ ∃ slot < slots, (state.stateSlots (timestampSection asilB) slot).content =
      .sample skeleton.newest

variable [Fintype ι] [DecidableEq ι] {slots : Nat} {asilB : Bool} {sk : SkeletonLocal}
  {b : Book} {comp : EventDataControlComposite} {i : SlotIndex} {s : Shared ι}

theorem runs_allocate (idle : sk.Idle slots b) :
    (deliverySetting ι).Runs b sk.allocate (Idle slots) fun _ => True := by
  cases offered : sk.event.eventDataControlComposite with
  | none =>
    have unchanged : sk.event.allocate (ι := ι) = pure (sk.event, none) := by
      simp [SkeletonEvent.allocate, offered]
    have everywhere : sk.latest.filter (fun cell => some cell.2 ≠ none) = sk.latest := by simp
    unfold allocate
    rw [unchanged]
    refine Runs.done ?_
    simpa [everywhere] using idle
  | some comp =>
    have claims : (deliverySetting ι).Runs b sk.event.allocate
        (fun result current => ∃ composite' qmDisconnect,
          comp.Allocated b (composite', result.2) current ∧
          result.1 = { sk.event with
            eventDataControlComposite := some composite'
            qmDisconnect := qmDisconnect }) fun _ => True := by
      unfold SkeletonEvent.allocate
      rw [offered]
      exact Runs.bind (runs_allocateNextSlot_served (fun _ => rfl) id (fun _ => trivial)
          (idle.offered comp offered).2)
        fun result current allocated => Runs.done ⟨result.1, _, allocated, rfl⟩
    refine Runs.bind claims fun result current out => Runs.done ?_
    obtain ⟨event', i⟩ := result
    obtain ⟨composite', qmDisconnect, allocated, rfl⟩ := out
    exact idle.allocated offered allocated qmDisconnect

omit [Fintype ι] [DecidableEq ι] in
theorem Idle.inRange (idle : sk.Idle slots b)
    (offered : sk.event.eventDataControlComposite = some comp)
     (mem : i ∈ sk.owned) : i < comp.slots := by
  obtain ⟨slots_eq, connected⟩ := idle.offered comp offered
  obtain ⟨q, served⟩ := connected.exists_section
  rw [← sections_eq offered] at served
  rw [slots_eq]
  exact ((idle.writes q served).2 i mem).1

theorem runs_inBothSections (idle : sk.Idle slots b)
    (offered : sk.event.eventDataControlComposite = some comp) (mem : i ∈ sk.owned) {content}
    {step : ProviderEventDataControlLocalView → Control ι Unit}
    (stores : EventDataControlComposite.StoresIn (deliverySetting ι)
      comp.slots i content (fun _ => True) step)
    (fresh : ∀ q, b.Fresh q i content) :
    (deliverySetting ι).Runs b (comp.inBothSections step) (fun _ current => (storeAll
        (deliverySetting ι).trusted i content sk.sections
        b).SameSlots current) fun _ => True := by
  rw [sections_eq offered]
  refine (EventDataControlComposite.runs_inBothSections stores ?_ False.elim
    fun q _ _ => fresh q).post fun _ current st => st.1
  intro q served _
  rw [← sections_eq offered] at served
  exact ((idle.writes q served).2 i mem).2.1

theorem runs_drop (idle : sk.Idle slots b) (mem : i ∈ sk.owned) :
    (deliverySetting ι).Runs b (sk.drop i) (Idle slots) fun _ => True := by
  unfold drop SkeletonEvent.drop
  cases offered : sk.event.eventDataControlComposite with
  | none =>
    rw [idle.closed offered] at mem
    cases mem
  | some comp =>
    have lt := idle.inRange offered mem
    refine Runs.bind (runs_inBothSections idle offered mem (storesIn_discard lt)
      fun q => b.fresh_invalid q i) fun _ current st => Runs.done ?_
    have contents := Idle.stores (fun _ => rfl) st
    refine ⟨idle.offered, fun q served => idle.writes_erase st served,
      ?_, idle.counter, ?_, idle.descending, idle.positive, ?_⟩
    · intro isNone
      rw [idle.closed isNone] at mem
      cases mem
    · intro q slot' ts x
      rw [contents] at x
      split at x
      · cases x
      · exact idle.stored q slot' ts x
    · intro cell isCell
      obtain ⟨lt, ts, isNewest, x⟩ := idle.latest cell isCell
      refine ⟨lt, ts, isNewest, ?_⟩
      rw [contents, if_neg, x]
      rintro ⟨served, same⟩
      -- a slot that is being written does not hold the newest sample
      have writing := ((idle.writes cell.1 served).2 i mem).2.1
      rw [← same, x] at writing
      cases writing

omit [Fintype ι] [DecidableEq ι] in
theorem CounterInRange.newer (low : sk.CounterInRange) :
    sk.event.currentTimestamp < sk.event.currentTimestamp + 1#32 ∧
      sk.event.currentTimestamp + 1#32 < EventSlotStatus.TIMESTAMP_MAX := by
  unfold CounterInRange EventSlotStatus.TIMESTAMP_MAX at low
  unfold EventSlotStatus.TIMESTAMP_MAX
  bv_omega

omit [Fintype ι] [DecidableEq ι] in
theorem Idle.fresh (idle : sk.Idle slots b)
    (low : sk.CounterInRange) (q : QualityType) (i : SlotIndex) :
    b.Fresh q i (.sample (sk.event.currentTimestamp + 1#32)) := by
  obtain ⟨newer, deliverable⟩ := low.newer
  intro ts same
  cases same
  refine ⟨deliverable, fun slot' _ st => ?_⟩
  have atMost := idle.le_newest (idle.stored q slot' _ st)
  rw [← idle.counter] at atMost
  bv_omega

theorem runs_sendEvent (idle : sk.Idle slots b)
    (offered : sk.event.eventDataControlComposite = some comp)
     (mem : i ∈ sk.owned) (low : sk.CounterInRange) :
    (deliverySetting ι).Runs b (sk.event.send i) (fun event' current =>
        event' = { sk.event with
          currentTimestamp := sk.event.currentTimestamp + 1#32 } ∧
        (storeAll (deliverySetting ι).trusted i
          (.sample (sk.event.currentTimestamp + 1#32)) sk.sections
          b).SameSlots current) fun _ => True := by
  have lt := idle.inRange offered mem
  have positive : sk.event.currentTimestamp + 1#32 ≠ 0#32 := by
    have newer := low.newer.1
    bv_omega
  have publishes : EventDataControlComposite.StoresIn (deliverySetting ι)
      comp.slots i (.sample (sk.event.currentTimestamp + 1#32))
      (fun _ => True) fun v => v.eventReady i (sk.event.currentTimestamp + 1#32) := by
    rw [← EventSlotStatus.content_make positive]
    exact storesIn_eventReady lt _
  unfold SkeletonEvent.send
  rw [offered]
  refine Runs.bind (runs_inBothSections idle offered mem publishes
    fun q => idle.fresh low q i) fun _ first st => ?_
  have published : ∀ q ∈ comp.sections, first.contents q i ≠ .inWriting := by
    intro q served writing
    rw [← sections_eq offered] at served
    rw [Idle.stores (fun _ => rfl) st, if_pos ⟨served, rfl⟩] at writing
    cases writing
  refine Runs.bind (runs_discard_of_published (fun _ => rfl) id lt published) fun _ second same =>
      Runs.done ?_
  rw [show second = first from same]
  exact ⟨by simp only [offered], st⟩

theorem runs_send (idle : sk.Idle slots b) (mem : i ∈ sk.owned) (low : sk.CounterInRange) :
    (deliverySetting ι).Runs b (sk.send i) (Idle slots) fun _ => True := by
  cases offered : sk.event.eventDataControlComposite with
  | none =>
    rw [idle.closed offered] at mem
    cases mem
  | some comp =>
    refine Runs.bind (runs_sendEvent idle offered mem low)
      fun event' current out => Runs.done ?_
    obtain ⟨rfl, st⟩ := out
    have newer := low.newer.1
    have contents := Idle.stores (fun _ => rfl) st
    refine ⟨idle.offered, fun q served => idle.writes_erase st served, ?_, rfl, ?_, ?_, ?_, ?_⟩
    · intro isNone
      cases offered.symm.trans isNone
    · intro q slot' timeStamp x
      rw [contents] at x
      split at x
      · cases x
        exact mem_cons_self
      · exact mem_cons_of_mem _ (idle.stored q slot' timeStamp x)
    · refine pairwise_cons.mpr ⟨fun timeStamp before => ?_, idle.descending⟩
      have atMost := idle.le_newest before
      rw [← idle.counter] at atMost
      bv_omega
    · intro timeStamp isSent
      rcases mem_cons.mp isSent with rfl | before
      · bv_omega
      · exact idle.positive timeStamp before
    · intro cell isCell
      obtain ⟨q, served, rfl⟩ := mem_map.mp isCell
      refine ⟨((idle.writes q served).2 i mem).1, _, rfl, ?_⟩
      rw [contents, if_pos ⟨served, rfl⟩]

theorem runs_prepareOffer (idle : sk.Idle slots (s.book (deliverySetting ι).trusted))
    (closed : sk.event.eventDataControlComposite = none)
    (newestStored : sk.NewestStored slots asilB s) :
    (deliverySetting ι).Runs (s.book (deliverySetting ι).trusted)
      (sk.prepareOffer slots asilB) (Idle slots) fun _ => True := by
  have newest : sk.sent = [] ∨ ∃ i < slots, (s.book (deliverySetting ι).trusted).contents
        (timestampSection asilB) i = .sample sk.newest :=
    newestStored
  have offers : (deliverySetting ι).Runs (s.book (deliverySetting ι).trusted)
      (sk.event.prepareOffer slots asilB)
      (fun event' current => Idle slots { sk with event := event' } current) fun _ => True := by
    refine Runs.bind (runs_cleanupSharedMemoryAfterCrash
        (fun _ => rfl) id) fun _ first cleaned => ?_
    have samples : ∀ q i ts, first.contents q i = .sample ts ↔
          (s.book (deliverySetting ι).trusted).contents q i = .sample ts := by
      intro q i ts
      rw [cleaned]
      split
      · exact EventSlotStatus.Content.cleaned_eq_sample_iff
      · exact Iff.rfl
    refine Runs.bind (runs_getLatestTimestampLoop
      rfl id _ _) fun latest second out => Runs.done ?_
    obtain ⟨rfl, isLatest⟩ := out
    exact idle.offers newest samples closed isLatest
  exact Runs.bind offers fun event' current idle' => Runs.done idle'

theorem runs_call {prog} (idle : sk.Idle slots (s.book (deliverySetting ι).trusted))
    (call : sk.Call slots asilB ⟨CounterInRange, NewestStored slots asilB⟩ s prog) :
    (deliverySetting ι).Runs (s.book (deliverySetting ι).trusted) prog
      (Idle slots) fun _ => True := by
  cases call with
  | allocate => exact runs_allocate idle
  | send mem low => exact runs_send idle mem low
  | drop mem => exact runs_drop idle mem
  | prepareOffer closed newestStored => exact runs_prepareOffer idle closed newestStored
  | prepareStopOffer =>
    refine Runs.done { idle with offered := ?_, writes := ?_, closed := fun _ => rfl }
    · nofun
    · nofun

end SkeletonLocal

/-! ## Runs -/

namespace PublicationSystem

open SkeletonLocal

variable [Fintype ι] [DecidableEq ι] {slots : Nat} {asilB : Bool}

def ascendingRules (ι : Type) (slots : Nat) (asilB : Bool) : PublicationRules ι :=
  ⟨CounterInRange, NewestStored slots asilB⟩

def post (slots : Nat) : Participant ι → PublicationLocal → Shared ι → Prop
  | .provider, .skeleton skeleton, state =>
    skeleton.Idle slots (state.book (deliverySetting ι).trusted)
  | .consumer quality log, .proxy proxy, state => proxy.Idle (state.account quality log)
  | .adversary, _, _ => True
  | _, _, _ => False

theorem launchesSafe (few : card ι < 2 ^ 32 - 1) :
    System.LaunchesSafe (deliverySetting ι).rules
      (publicationSystem ι slots asilB (ascendingRules ι slots asilB))
      (post slots) (fun _ _ _ => True) := by
  intro t current s prog launched holds safe
  obtain ⟨pre, rfl, call⟩ := launched
  have idle := safe s ((deliverySetting ι).rules.rely_refl t s) holds
  cases call with
  | proxy q log _ call =>
    exact proxy_safe few PublicationLocal.proxy
      (fun _ _ idle => idle) holds call idle
  | skeleton call =>
    exact Runs.safe_wrap (runs_call idle call) holds trivial fun _ _ idle' => idle'

theorem sound (few : card ι < 2 ^ 32 - 1) {cfg}
    (reach : (publicationSystem ι slots asilB (ascendingRules ι slots asilB)).Reachable cfg) :
    System.Sound (deliverySetting ι).rules (post slots) (fun _ _ _ => True) cfg := by
  refine System.Reachable.sound ?_ (launchesSafe few) reach
  rintro cfg ⟨empty, start⟩
  refine ⟨?_, fun t => ?_⟩
  · rw [empty]
    exact invariant_empty
  · obtain ⟨idle, isIdle, fresh⟩ := start t
    rw [isIdle, empty]
    intro later keep _
    cases fresh with
    | adversary => trivial
    | proxy q log buffer =>
      show ProxyLocal.Idle _ (later.account q log)
      rw [show later.account q log = _ from keep]
      exact idle_fresh buffer q log
    | skeleton =>
      show SkeletonLocal.Idle slots _ (later.book _)
      rw [show later.book _ = _ from keep]
      exact idle_start slots asilB _

omit [Fintype ι] [DecidableEq ι] in
theorem window_eq_singleton (v : ConsumerEventDataControlLocalView ι)
    {sk : SkeletonLocal} {s : Shared ι}
    {trusted : QualityType → Bool} (trust : trusted v.quality = true)
    (ordered : (s.book trusted).Ordered) (idle : sk.Idle v.slots (s.book trusted))
    {ts : EventTimeStamp} {old : List EventTimeStamp}
    (sent : sk.sent = ts :: old)
    {i} (latest : (v.quality, i) ∈ sk.latest) :
    v.window s (old.headD EventSlotStatus.INVALID_TIMESTAMP)
      EventSlotStatus.TIMESTAMP_MAX = {i} := by
  obtain ⟨lt, newest, isNewest, x⟩ := idle.latest _ latest
  rw [sent, head?_cons] at isNewest
  cases isNewest
  have descending := idle.descending
  rw [sent, pairwise_cons] at descending
  ext o
  rw [mem_window_iff trust ordered, Finset.mem_singleton]
  constructor
  · rintro ⟨-, timeStamp', above, st⟩
    have contents : (s.book trusted).contents v.quality o = .sample timeStamp' := by
      simp [book, trust, st]
    have mem := idle.stored v.quality o timeStamp' contents
    rw [sent] at mem
    rcases mem_cons.mp mem with rfl | pre
    · exact ordered.distinct v.quality o i timeStamp' (Or.inl contents) (Or.inl x)
    · exfalso
      cases old with
      | nil => cases pre
      | cons first rest =>
        have atMost : timeStamp' ≤ first := by
          rcases mem_cons.mp pre with rfl | later
          · exact BitVec.le_refl _
          · exact BitVec.le_of_lt ((pairwise_cons.mp descending.2).1 timeStamp' later)
        rw [headD_cons] at above
        bv_omega
  · rintro rfl
    have contents : (s.stateSlots v.quality o).content = .sample ts := by
      simpa [book, trust] using x
    refine ⟨lt, ts, ?_, contents⟩
    cases old with
    | nil => exact idle.positive ts (by rw [sent]; exact mem_cons_self)
    | cons first rest => exact descending.1 first mem_cons_self

/-- The time stamps ascend over all offers, and a proxy that has been handed
out all earlier samples gets the newest one as long as its slot is not used
again. -/
theorem reachable_publication_order (few : card ι < 2 ^ 32 - 1)
    {config : ControlConfig ι PublicationLocal}
    (reachable : (publicationSystem ι slots asilB (ascendingRules ι slots asilB)).Reachable config)
    {skeleton : SkeletonLocal} (idle : config.threads .provider = .done (.skeleton skeleton)) :
    (skeleton.sent.Pairwise fun later earlier => earlier < later) ∧
    ∀ timeStamp earlier, skeleton.sent = timeStamp :: earlier →
    ∀ quality slot, (quality, slot) ∈ skeleton.latest →
      (config.shared.stateSlots quality slot).content = .sample timeStamp ∧
      ∀ log proxy, config.threads (.consumer quality log) = .done (.proxy proxy) →
        proxy.collector.lastTs = earlier.headD EventSlotStatus.INVALID_TIMESTAMP →
        ∀ maxCount faults outcome after, 0 < maxCount → Program.Solo exec
            (proxy.collector.getNewSamplesSlotIndices ⟨quality, log, slots⟩
              maxCount) config.shared faults outcome after →
          faults < TransactionLogLocalView.MAX_REFERENCE_RETRIES →
          ∃ collector', outcome = .ok (collector', [slot]) := by
  have system := sound few reachable
  have isIdle : skeleton.Idle slots (config.shared.book (deliverySetting ι).trusted) :=
    system.post_of_idle idle
  obtain ⟨sections, -, ordered⟩ := system.1
  refine ⟨isIdle.descending, ?_⟩
  intro timeStamp earlier sent quality slot latest
  obtain ⟨-, newest, isNewest, sample⟩ := isIdle.latest _ latest
  rw [sent, List.head?_cons] at isNewest
  cases isNewest
  refine ⟨sample, ?_⟩
  intro log proxy proxyIdle seen maxCount faults outcome after positive execution fewFaults
  have isProxy : proxy.Idle (config.shared.account quality log) := system.post_of_idle proxyIdle
  obtain ⟨result, rfl, delivers⟩ := deliversNewest few (sections quality rfl)
    (show (deliverySetting ι).trusted quality = true from rfl)
    (ordered trivial).2 isProxy execution fewFaults
  have window := window_eq_singleton ⟨quality, log, slots⟩
    (show (deliverySetting ι).trusted quality = true from rfl)
    (ordered trivial).2 isIdle sent latest
  rw [← seen] at window
  have length := delivers.takes.length
  have buffer := isProxy.buffer
  rw [window, Finset.card_singleton, List.length_reverse] at length
  obtain ⟨only, isOnly⟩ : ∃ only, result.2 = [only] := List.length_eq_one_iff.mp (by omega)
  have member := delivers.takes.member only (by simp [isOnly])
  rw [window, Finset.mem_singleton] at member
  rw [member] at isOnly
  exact ⟨result.1, by rw [← isOnly]⟩

/-! ## Runs on one slot of a QM event -/

def startConfig : ControlConfig (Fin 1) PublicationLocal where
  shared := Shared.empty
  threads
    | .consumer _ _ => .done (.proxy (.fresh 1))
    | _ => .done (.skeleton (.start 1 false))

def skeletonCall (config : ControlConfig (Fin 1) PublicationLocal)
    (program : Control (Fin 1) SkeletonLocal) : ControlConfig (Fin 1) PublicationLocal :=
  config.call ControlOp.exec .provider (program >>= fun skeleton' => pure (.skeleton skeleton')) 12

def proxyCall (config : ControlConfig (Fin 1) PublicationLocal)
    (program : Control (Fin 1) ProxyLocal) : ControlConfig (Fin 1) PublicationLocal :=
  config.call ControlOp.exec (.consumer .asilQm (Fin.last 0))
    (program >>= fun proxy' => pure (.proxy proxy')) 12

def offeredSkeleton (currentTimestamp : EventTimeStamp)
    (owned : List SlotIndex) (sent : List EventTimeStamp)
    (latest : List (QualityType × SlotIndex)) : SkeletonLocal :=
  ⟨⟨some ⟨1, false, false⟩, currentTimestamp, false⟩, owned, sent, latest⟩

def allocatedConfig : ControlConfig (Fin 1) PublicationLocal :=
  skeletonCall startConfig (offeredSkeleton 0#32 [] [] []).allocate

def sentConfig : ControlConfig (Fin 1) PublicationLocal :=
  skeletonCall allocatedConfig ((offeredSkeleton 0#32 [0] [] []).send 0)

def fetchedConfig : ControlConfig (Fin 1) PublicationLocal :=
  proxyCall sentConfig ((ProxyLocal.fresh 1).getNewSamples ⟨.asilQm, Fin.last 0, 1⟩ 1)

def releasedConfig : ControlConfig (Fin 1) PublicationLocal :=
  proxyCall fetchedConfig
    (ProxyLocal.dereferenceEvent ⟨⟨1#32, 1⟩, [0], [1#32]⟩ ⟨.asilQm, Fin.last 0, 1⟩ 0)

/-- The slot has been allocated again, so that no sample is left. -/
def reallocatedConfig : ControlConfig (Fin 1) PublicationLocal :=
  skeletonCall releasedConfig (offeredSkeleton 1#32 [] [1#32] [(.asilQm, 0)]).allocate

def droppedConfig : ControlConfig (Fin 1) PublicationLocal :=
  skeletonCall reallocatedConfig ((offeredSkeleton 1#32 [0] [1#32] []).drop 0)

def stoppedConfig : ControlConfig (Fin 1) PublicationLocal :=
  skeletonCall droppedConfig (pure (offeredSkeleton 1#32 [] [1#32] []).prepareStopOffer)

/-- The event is offered again and counts from zero. -/
def reofferedConfig : ControlConfig (Fin 1) PublicationLocal :=
  skeletonCall stoppedConfig (SkeletonLocal.prepareOffer 1 false
      ⟨⟨none, 1#32, false⟩, [], [1#32], []⟩)

def resumedConfig : ControlConfig (Fin 1) PublicationLocal :=
  skeletonCall reofferedConfig (offeredSkeleton 0#32 [] [1#32] []).allocate

/-- A second sample with the time stamp of the first has been sent. -/
def repeatedConfig : ControlConfig (Fin 1) PublicationLocal :=
  skeletonCall resumedConfig ((offeredSkeleton 0#32 [0] [1#32] []).send 0)

section Run

variable {ok : PublicationRules (Fin 1)} {cfg : ControlConfig (Fin 1) PublicationLocal}

theorem reachable_startConfig : (publicationSystem (Fin 1) 1 false ok).Reachable startConfig := by
  refine System.Reachable.initial ⟨rfl, fun t => ?_⟩
  cases t with
  | provider => exact ⟨_, rfl, .skeleton⟩
  | consumer q log => exact ⟨_, rfl, .proxy q log Nat.one_pos⟩
  | adversary => exact ⟨_, rfl, .adversary _⟩

theorem reachable_skeletonCall
    (reach : (publicationSystem (Fin 1) 1 false ok).Reachable cfg) {sk prog}
    (call : sk.Call 1 false ok cfg.shared prog)
    (idle : (cfg.threads .provider).result? = some (.skeleton sk)) :
    (publicationSystem (Fin 1) 1 false ok).Reachable (skeletonCall cfg prog) :=
  reach.call (fun _ _ _ => trivial) ⟨_, rfl, .skeleton call⟩ idle 12

theorem reachable_proxyCall (reach : (publicationSystem (Fin 1) 1 false ok).Reachable cfg) {px prog}
    (call : px.Call ⟨.asilQm, 0, 1⟩ prog)
    (idle : (cfg.threads (.consumer .asilQm 0)).result? = some (.proxy px)) :
    (publicationSystem (Fin 1) 1 false ok).Reachable (proxyCall cfg prog) :=
  reach.call (fun _ _ _ => trivial) ⟨_, rfl, .proxy .asilQm 0 cfg.shared call⟩ idle 12

theorem reachable_sentConfig (sendable : ok.send (offeredSkeleton 0#32 [0] [] [])) :
    (publicationSystem (Fin 1) 1 false ok).Reachable sentConfig := by
  have allocated : (publicationSystem (Fin 1) 1 false ok).Reachable allocatedConfig :=
    reachable_skeletonCall reachable_startConfig .allocate rfl
  exact reachable_skeletonCall allocated (.send (mem_singleton_self 0) sendable) rfl

def unrestrictedRules (ι : Type) : PublicationRules ι := ⟨fun _ => True, fun _ _ => True⟩

theorem reachable_repeatedConfig :
    (publicationSystem (Fin 1) 1 false (unrestrictedRules (Fin 1))).Reachable repeatedConfig := by
  have mem : (0 : SlotIndex) ∈ [0] := mem_singleton_self 0
  have sendable : (unrestrictedRules (Fin 1)).send (offeredSkeleton 0#32 [0] [] []) := trivial
  have fetched : System.Reachable _ fetchedConfig :=
    reachable_proxyCall (reachable_sentConfig sendable) (.getNewSamples 1) rfl
  have released : System.Reachable _ releasedConfig :=
    reachable_proxyCall fetched (.dereferenceEvent mem) rfl
  have reallocated : System.Reachable _ reallocatedConfig :=
    reachable_skeletonCall released .allocate rfl
  have dropped : System.Reachable _ droppedConfig :=
    reachable_skeletonCall reallocated (.drop mem) rfl
  have stopped : System.Reachable _ stoppedConfig :=
    reachable_skeletonCall dropped .prepareStopOffer rfl
  have reoffered : System.Reachable _ reofferedConfig :=
    reachable_skeletonCall stopped (.prepareOffer rfl trivial) rfl
  have resumed : System.Reachable _ resumedConfig :=
    reachable_skeletonCall reoffered .allocate rfl
  exact reachable_skeletonCall resumed (.send mem trivial) rfl

def fetchSecond : Control (Fin 1) (SlotCollector × List SlotIndex) :=
  SlotCollector.getNewSamplesSlotIndices ⟨1#32, 1⟩ ⟨.asilQm, Fin.last 0, 1⟩ 1

/-- Nothing in the memory tells a new offer that time stamp 1 has been used: it
is sent again, and a proxy that has seen the first sample does not get the
second one. -/
theorem reoffer_repeats_timestamp :
    (publicationSystem (Fin 1) 1 false (unrestrictedRules (Fin 1))).Reachable repeatedConfig ∧
    repeatedConfig.threads .provider =
      .done (.skeleton (offeredSkeleton 1#32 [] [1#32, 1#32] [(.asilQm, 0)])) ∧
    repeatedConfig.threads (.consumer .asilQm 0) = .done (.proxy ⟨⟨1#32, 1⟩, [], [1#32]⟩) ∧
    ∃ after, Program.Solo exec fetchSecond repeatedConfig.shared 0
      (.ok (⟨1#32, 1⟩, [])) after := by
  have skeleton : (repeatedConfig.threads .provider).result? =
      some (.skeleton (offeredSkeleton 1#32 [] [1#32, 1#32] [(.asilQm, 0)])) := rfl
  have proxy : (repeatedConfig.threads (.consumer .asilQm 0)).result? =
      some (.proxy ⟨⟨1#32, 1⟩, [], [1#32]⟩) := by
    decide +kernel
  have alone : (fetchSecond.runSolo exec (fun _ => false) repeatedConfig.shared).1 = 0 ∧
      (fetchSecond.runSolo exec (fun _ => false)
        repeatedConfig.shared).2.1 = .ok (⟨1#32, 1⟩, []) := by
    decide +kernel
  exact ⟨reachable_repeatedConfig, eq_done_of_result? skeleton,
    eq_done_of_result? proxy,
    exists_solo_of_runSolo alone.1 alone.2⟩

/-- In the first offer the conditions are met. -/
theorem sentConfig_publication_order :
    (sentConfig.shared.stateSlots .asilQm 0).content = .sample 1#32 ∧
    ∀ maxCount faults outcome after, 0 < maxCount → Program.Solo exec
        ((fresh 1).collector.getNewSamplesSlotIndices
          ⟨.asilQm, 0, 1⟩ maxCount) sentConfig.shared faults outcome after →
      faults < TransactionLogLocalView.MAX_REFERENCE_RETRIES →
      ∃ collector', outcome = .ok (collector', [0]) := by
  have reachable : (publicationSystem (Fin 1) 1 false
      (ascendingRules (Fin 1) 1 false)).Reachable sentConfig :=
    reachable_sentConfig (show 0#32 < EventSlotStatus.TIMESTAMP_MAX - 1#32 by decide)
  have idle : (sentConfig.threads .provider).result? =
      some (.skeleton (offeredSkeleton 1#32 [] [1#32] [(.asilQm, 0)])) := rfl
  have order := (reachable_publication_order (by decide) reachable
    (eq_done_of_result? idle)).2 1#32 [] rfl .asilQm 0
    (List.mem_singleton_self _)
  exact ⟨order.1, order.2 0 (.fresh 1) rfl rfl⟩

end Run

end PublicationSystem

end ScoreIntegration.Lola
