import ScoreIntegration.Lola.ProviderBook

/-!
# Both control sections

The provider works through `EventDataControlComposite`, and consumers of either section
take and give back references.  Where the parameters allow it, the provider crashes and
is started again over the memory it left behind, or somebody writes arbitrary words to
the QM section.
-/

namespace ScoreIntegration.Lola

open Concurrency EventDataControlComposite TransactionLogLocalView Shared
open Concurrency.Footprint

variable {ι : Type}

inductive CompositeLocal where
  | provider (composite : EventDataControlComposite) (owned : List SlotIndex)
  | consumer (held : List SlotIndex)
  | adversary
  deriving DecidableEq

/-- The composite that a provider constructs when it offers the event. -/
def freshComposite (slots : Nat) : EventDataControlComposite where
  slots := slots
  asilB := true
  ignoreQmControl := false

/-! ## The calls of the participants -/

namespace CompositeLocal

def allocateNextSlot (composite : EventDataControlComposite)
    (owned : List SlotIndex) : Control ι CompositeLocal := do
  let result ← composite.allocateNextSlot
  pure (.provider result.1 (result.2.toList ++ owned))

def eventReady (composite : EventDataControlComposite)
    (owned : List SlotIndex) (slot : SlotIndex) (timeStamp : EventTimeStamp) :
    Control ι CompositeLocal := do
  composite.eventReady slot timeStamp
  pure (.provider composite (owned.erase slot))

def discard (composite : EventDataControlComposite) (owned : List SlotIndex) (slot : SlotIndex) :
    Control ι CompositeLocal := do
  composite.discard slot
  pure (.provider composite (owned.erase slot))

def referenceNextEvent (view : ConsumerEventDataControlLocalView ι)
    (held : List SlotIndex) (lastSearchTime upperLimit : EventTimeStamp) :
    Control ι CompositeLocal := do
  let slot ← view.referenceNextEvent lastSearchTime upperLimit
  pure (.consumer (slot.toList ++ held))

def dereferenceEvent (view : ConsumerEventDataControlLocalView ι)
    (held : List SlotIndex) (slot : SlotIndex) :
    Control ι CompositeLocal := do
  view.dereferenceEvent slot
  pure (.consumer (held.erase slot))

/-- A provider starts over memory that it finds. -/
def restart (slots : Nat) : Control ι CompositeLocal := do
  (freshComposite slots).cleanupSharedMemoryAfterCrash
  pure (.provider (freshComposite slots) [])

def corruptSlot (slot : SlotIndex) (word : EventSlotStatus) : Control ι CompositeLocal := do
  atomically (.corruptSlot .asilQm slot word)
  pure .adversary

end CompositeLocal

/-- The programs that the participants take up.  A provider may be started
again in the states of `restart`; words of the QM section are written
arbitrarily if `hostile`. -/
inductive CompositeLaunch (trusted : QualityType → Bool) (slots : Nat)
    (restart : Shared ι → Prop) (hostile : Prop) :
    Participant ι → Control ι CompositeLocal → Shared ι → Control ι CompositeLocal → Prop
  | allocateNextSlot (composite : EventDataControlComposite)
      (owned : List SlotIndex) (state : Shared ι) :
      CompositeLaunch trusted slots restart hostile .provider
        (.done (.provider composite owned)) state
        (CompositeLocal.allocateNextSlot composite owned)
  | eventReady (composite : EventDataControlComposite)
      {owned : List SlotIndex} {slot : SlotIndex} (timeStamp : EventTimeStamp)
      (state : Shared ι) : slot ∈ owned →
      CompositeLaunch trusted slots restart hostile .provider
        (.done (.provider composite owned)) state
        (CompositeLocal.eventReady composite owned slot timeStamp)
  | discard (composite : EventDataControlComposite)
      {owned : List SlotIndex} {slot : SlotIndex} (state : Shared ι) :
      slot ∈ owned →
      CompositeLaunch trusted slots restart hostile .provider
        (.done (.provider composite owned)) state
        (CompositeLocal.discard composite owned slot)
  | referenceNextEvent (quality : QualityType) (log : ι)
      (held : List SlotIndex) (lastSearchTime upperLimit : EventTimeStamp)
      (state : Shared ι) : trusted quality = true →
      CompositeLaunch trusted slots restart hostile (.consumer quality log)
        (.done (.consumer held)) state
        (CompositeLocal.referenceNextEvent ⟨quality, log, slots⟩ held lastSearchTime upperLimit)
  | dereferenceEvent (quality : QualityType) (log : ι)
      {held : List SlotIndex} {slot : SlotIndex} (state : Shared ι) :
      trusted quality = true → slot ∈ held →
      CompositeLaunch trusted slots restart hostile (.consumer quality log)
        (.done (.consumer held)) state
        (CompositeLocal.dereferenceEvent ⟨quality, log, slots⟩ held slot)
  | restart (current : Control ι CompositeLocal) {state : Shared ι} : restart state →
      CompositeLaunch trusted slots restart hostile .provider current state
        (CompositeLocal.restart slots)
  | corruptSlot (current : Control ι CompositeLocal) (state : Shared ι)
      (slot : SlotIndex) (word : EventSlotStatus) : hostile →
      CompositeLaunch trusted slots restart hostile .adversary current state
        (CompositeLocal.corruptSlot slot word)

def compositeIdle (ι : Type) (slots : Nat) : ControlConfig ι CompositeLocal where
  shared := Shared.empty
  threads
    | .provider => .done (.provider (freshComposite slots) [])
    | .consumer _ _ => .done (.consumer [])
    | .adversary => .done .adversary

def compositeSystem [DecidableEq ι] (setting : Setting ι) (slots : Nat)
    (restart : Shared ι → Prop) (hostile : Prop) :
    System (controlMachine ι setting.admissible) Failure CompositeLocal (Participant ι) where
  initial config := config = compositeIdle ι slots
  launch := CompositeLaunch setting.trusted slots restart hostile

namespace CompositeSystem

/-! ## What an idle participant knows -/

/-- The provider's slots are claimed in the sections it uses; while it uses
both trusted sections, what they say about a slot is related by `agree`. -/
structure ProviderIdle (setting : Setting ι) (slots : Nat)
    (agree : EventSlotStatus.Content → EventSlotStatus.Content → Prop)
    (composite : EventDataControlComposite) (owned : List SlotIndex)
    (book : Book) : Prop where
  slots_eq : composite.slots = slots
  asilB : composite.asilB = true
  writes : ∀ quality ∈ composite.sections, setting.trusted quality = true →
    book.Writes quality slots owned
  agrees : setting.trusted .asilQm = true → composite.ignoreQmControl = false → ∀ slot < slots,
      agree (book.contents .asilQm slot) (book.contents .asilB slot)
  settled : setting.strict → book.Settled

section ProviderIdle

variable {cfg : Setting ι} {slots : Nat}
  {agree : EventSlotStatus.Content → EventSlotStatus.Content → Prop}
  {comp : EventDataControlComposite} {owned : List SlotIndex} {b cur : Book}
  {i : SlotIndex}

theorem ProviderIdle.asilBWrites (bTrust : cfg.trusted .asilB = true)
    (idle : ProviderIdle cfg slots agree comp owned b) :
    b.Writes .asilB slots owned := by
  refine idle.writes .asilB ?_ bTrust
  simp [sections, idle.asilB]

theorem ProviderIdle.claimBoth (refl : ∀ content, agree content content)
    (bTrust : cfg.trusted .asilB = true)
    (idle : ProviderIdle cfg slots agree comp owned b)
    (allocated : comp.AllocatesBoth cfg b (some i) cur)
    (settled : cfg.strict → cur.Settled) :
    ProviderIdle cfg slots agree comp (i :: owned) cur := by
  obtain ⟨lt, quiet, sameContent, claimed⟩ := allocated
  rw [idle.slots_eq] at lt
  have fresh : i ∉ owned := fun mem => quiet ((idle.asilBWrites bTrust).2 i mem).2.1
  refine ⟨idle.slots_eq, idle.asilB, ?_, ?_, settled⟩
  · intro q mem trust
    have writes := idle.writes q mem trust
    refine Book.Writes.of_sameSlots ?_ claimed
    cases q with
    | asilQm =>
      have qmNotWriting : b.contents .asilQm i ≠ .inWriting := by
        rw [sameContent trust]
        exact quiet
      exact (writes.cons trust lt qmNotWriting).enter_elsewhere
        (fun _ _ both => absurd both.1 (by decide)) _ _
    | asilB =>
      refine (writes.enter_of_notMem fresh .asilQm .inWriting true).cons trust lt ?_
      rw [(b.enter_contents_of_ne cfg.trusted .inWriting true
        (fun both => absurd both.1 (by decide))).1]
      exact quiet
  · intro qmTrusted connected slot' inRange'
    rw [claimed.1]
    by_cases same : slot' = i
    · subst same
      simp [EventDataControlComposite.claimBoth, Book.enter, qmTrusted, bTrust, refl, put2_of_ne]
    · have elsewhere {q o : QualityType} : ¬ (o = q ∧ slot' = i) := fun both => same both.2
      simp only [EventDataControlComposite.claimBoth,
        (Book.enter_contents_of_ne _ cfg.trusted .inWriting true elsewhere).1]
      exact idle.agrees qmTrusted connected slot' inRange'

theorem ProviderIdle.claimAsilB {i} (bTrust : cfg.trusted .asilB = true)
    (idle : ProviderIdle cfg slots agree comp owned b)
    (allocated : comp.asilBControlLocal.Allocates cfg b i cur)
    (settled : cfg.strict → cur.Settled) :
    ProviderIdle cfg slots agree { comp with ignoreQmControl := true } (i.toList ++ owned) cur := by
  have writes := idle.asilBWrites bTrust
  have onlyAsilB : ∀ q ∈ sections { comp with ignoreQmControl := true }, q = .asilB := by
    simp [sections, idle.asilB]
  refine ⟨idle.slots_eq, idle.asilB, ?_, by simp, settled⟩
  intro q mem _
  obtain rfl := onlyAsilB q mem
  cases i with
  | none => exact writes.of_sameSlots allocated
  | some i =>
    obtain ⟨lt, quiet, entered⟩ := allocated
    have slotInRange : i < slots := by
      rw [← idle.slots_eq]
      exact lt
    exact (writes.cons bTrust slotInRange quiet).of_sameSlots entered

theorem ProviderIdle.stores {content}
    (refl : ∀ content, agree content content) (bTrust : cfg.trusted .asilB = true)
    (idle : ProviderIdle cfg slots agree comp owned b)
    (st : (storeAll cfg.trusted i content comp.sections b).SameSlots cur)
    (settled : cfg.strict → cur.Settled) :
    ProviderIdle cfg slots agree comp (owned.erase i) cur := by
  refine ⟨idle.slots_eq, idle.asilB, ?_, ?_, settled⟩
  · intro q mem trust
    have writes := idle.writes q mem trust
    exact (storeAll_writes _ (writes.erase i) (writes.notMem_erase i)).of_sameSlots st
  · intro qmTrusted connected slot' lt
    rw [st.1, storeAll_contents, storeAll_contents]
    by_cases same : slot' = i
    · simp [sections, idle.asilB, connected, qmTrusted, bTrust, same, refl]
    · simp only [same, and_false, if_false]
      exact idle.agrees qmTrusted connected slot' lt

end ProviderIdle

def post (setting : Setting ι) (slots : Nat)
    (agree : EventSlotStatus.Content → EventSlotStatus.Content → Prop) :
    Participant ι → CompositeLocal → Shared ι → Prop
  | .provider, .provider composite owned, state =>
    ProviderIdle setting slots agree composite owned (state.book setting.trusted)
  | .consumer quality log, .consumer held, state => (state.account quality log).Holds held
  | .adversary, .adversary, _ => True
  | _, _, _ => False

def failure (fail : Failure → Prop) : Participant ι → Failure → Shared ι → Prop
  | .provider, failure, _ => fail failure
  | _, _, _ => True

/-! ## Every call is safe -/

section Safe

variable [Fintype ι] [DecidableEq ι] {setting : Setting ι} {slots : Nat}
  {agree : EventSlotStatus.Content → EventSlotStatus.Content → Prop} {restart : Shared ι → Prop}
  {hostile : Prop} {fail : Failure → Prop} {prog : Control ι CompositeLocal} {s : Shared ι}

structure Lawful (setting : Setting ι) (slots : Nat)
    (agree : EventSlotStatus.Content → EventSlotStatus.Content → Prop)
    (restart : Shared ι → Prop) (hostile : Prop) (fail : Failure → Prop) : Prop where
  few : ∀ op before after, setting.admissible op before after → after.FewReferences
  asilBTrusted : setting.trusted .asilB = true
  unordered : ¬ setting.ordered
  refl : ∀ content, agree content content
  /-- The assertion of `GetNextFreeMultiSlot` fails only where it may. -/
  assertion : ∀ book : Book, (setting.trusted .asilQm = true → ∀ slot < slots,
      agree (book.contents .asilQm slot) (book.contents .asilB slot)) →
    ∀ slot < slots, EventDataControlComposite.Mismatch setting book slot → fail .multiSlotMismatch
  /-- What a cleanup leaves behind agrees. -/
  restarted : ∀ state, restart state →
    (∀ quality, setting.trusted quality = true) ∧ ¬ setting.strict ∧
    ∀ slot < slots, agree (state.stateSlots .asilQm slot).content.cleaned
        (state.stateSlots .asilB slot).content.cleaned
  corrupted : hostile → setting.trusted .asilQm = false ∧ ¬ setting.strict

theorem adversary_safe (untrusted : setting.trusted .asilQm = false)
    (relaxed : ¬ setting.strict) (unordered : ¬ setting.ordered)
    (i : SlotIndex) (word : EventSlotStatus) :
    setting.rules.Safe .adversary (post setting slots agree .adversary)
      (failure fail .adversary) (CompositeLocal.corruptSlot i word) s := by
  intro later _ holds fault _
  have unseen (q : QualityType) (trust : setting.trusted q = true) : q ≠ .asilQm := by
    intro same
    rw [same, untrusted] at trust
    cases trust
  refine ⟨⟨fun q trust => ?_, fun isStrict => absurd isStrict relaxed,
    fun isOrdered => absurd isOrdered unordered⟩, ⟨fun _ _ => rfl, ?_⟩, fun _ _ _ => trivial⟩
  · exact (holds.1 q trust).congr (put2_row_of_ne _ _ _ (unseen q trust)) rfl rfl fun _ => rfl
  · simp only [book, controlMachine, ControlOp.exec]
    congr 1
    funext q slot'
    by_cases trust : setting.trusted q = true
    · rw [put2_row_of_ne _ _ _ (unseen q trust)]
    · rw [if_neg trust, if_neg trust]

section Calls

variable (lawful : Lawful setting slots agree restart hostile fail)
  {comp : EventDataControlComposite} {owned : List SlotIndex}

variable {b : Book} {i : SlotIndex}
include lawful

theorem runs_allocateNextSlot (idle : ProviderIdle setting slots agree comp owned b) :
    setting.Runs b comp.allocateNextSlot
      (fun res cur => ProviderIdle setting slots agree res.1 (res.2.toList ++ owned) cur) fail := by
  refine (EventDataControlComposite.runs_allocateNextSlot lawful.asilBTrusted
    idle.asilB ?_ idle.settled).post ?_
  · intro connected o same i lt
    rw [idle.slots_eq] at lt
    refine lawful.assertion o (fun qmTrusted slot' inRange' => ?_) i lt
    rw [same.1]
    exact idle.agrees qmTrusted connected slot' inRange'
  · rintro res cur ⟨⟨-, sameComposite, i, isSlot, both⟩ | ⟨disconnected, fallback⟩, settled⟩
    · rw [sameComposite, isSlot]
      exact idle.claimBoth lawful.refl lawful.asilBTrusted both settled
    · rw [disconnected]
      exact idle.claimAsilB lawful.asilBTrusted fallback settled

theorem runs_inBothSections {content} {step : ProviderEventDataControlLocalView → Control ι Unit}
    (idle : ProviderIdle setting slots agree comp owned b) (mem : i ∈ owned)
    (stores : i < comp.slots → EventDataControlComposite.StoresIn
      setting comp.slots i content fail step) :
    setting.Runs b (comp.inBothSections step)
      (fun _ cur => ProviderIdle setting slots agree comp (owned.erase i) cur) fail := by
  have lt := ((idle.asilBWrites lawful.asilBTrusted).2 i mem).1
  rw [← idle.slots_eq] at lt
  exact (EventDataControlComposite.runs_inBothSections (stores lt)
    (fun q used trust => ((idle.writes q used trust).2 i mem).2.1)
    idle.settled fun _ _ isOrdered => absurd isOrdered lawful.unordered).post
    fun _ cur st => idle.stores lawful.refl lawful.asilBTrusted st.1 st.2

theorem runs_restart {s} (ok : restart s) :
    setting.Runs (s.book setting.trusted) (freshComposite slots).cleanupSharedMemoryAfterCrash
      (fun _ cur => ProviderIdle setting slots agree (freshComposite slots) [] cur)
      fail := by
  obtain ⟨trust, relaxed, agrees⟩ := lawful.restarted s ok
  refine (runs_cleanupSharedMemoryAfterCrash trust relaxed).post fun _ cur cleaned => ?_
  refine ⟨rfl, rfl, fun _ _ _ => ⟨List.nodup_nil, by simp⟩, ?_,
    fun isStrict => absurd isStrict relaxed⟩
  intro _ _ i lt
  have used : i < (freshComposite slots).slots := lt
  rw [cleaned .asilQm i, cleaned .asilB i, if_pos ⟨fun _ => rfl, used⟩, if_pos ⟨fun _ => rfl, used⟩]
  simpa [book, trust] using agrees i lt

end Calls

theorem launchesSafe (lawful : Lawful setting slots agree restart hostile fail) :
    System.LaunchesSafe setting.rules (compositeSystem setting slots restart hostile)
      (post setting slots agree) (failure fail) := by
  intro t cur s prog launched holds safe
  cases launched with
  | allocateNextSlot comp owned =>
    have idle : ProviderIdle setting slots agree comp owned _ :=
      safe s (setting.rules.rely_refl .provider s) holds
    exact (runs_allocateNextSlot lawful idle).safe_wrap holds trivial fun _ _ idle => idle
  | eventReady comp ts _ mem =>
    have idle : ProviderIdle setting slots agree comp _ _ :=
      safe s (setting.rules.rely_refl .provider s) holds
    exact (runs_inBothSections lawful idle mem fun lt =>
      storesIn_eventReady lt ts).safe_wrap holds trivial fun _ _ idle => idle
  | discard comp _ mem =>
    have idle : ProviderIdle setting slots agree comp _ _ :=
      safe s (setting.rules.rely_refl .provider s) holds
    exact (runs_inBothSections lawful idle mem fun lt =>
      storesIn_discard lt).safe_wrap holds trivial fun _ _ idle => idle
  | referenceNextEvent q log held lastSearchTime upperLimit _ trust =>
    have idle : Account.Holds _ held := safe s (setting.rules.rely_refl _ s) holds
    have runs : (setting.consumerAccess lawful.few trust log).Runs (s.account q log) _ _
        fun _ => True :=
      runs_referenceNextEvent ⟨q, log, slots⟩ (fun _ _ => trivial) lastSearchTime upperLimit
    exact runs.safe_wrap holds trivial fun _ _ referenced => referenced.holds idle
  | @dereferenceEvent q log held slot _ trust mem =>
    have idle : Account.Holds _ held := safe s (setting.rules.rely_refl _ s) holds
    have runs : (setting.consumerAccess lawful.few trust log).Runs (s.account q log) _ _
        fun _ => True :=
      runs_dereferenceEvent ⟨q, log, slots⟩ (fun _ _ => trivial) slot
    refine runs.safe_wrap holds trivial fun _ later dereferenced => ?_
    obtain ⟨-, -, same⟩ := dereferenced
    show (later.account q log).Holds _
    rw [show later.account q log = _ from same]
    exact idle.erase
  | restart cur allowed =>
    exact (runs_restart lawful allowed).safe_wrap holds trivial fun _ _ idle => idle
  | corruptSlot cur _ i word allowed =>
    obtain ⟨untrusted, relaxed⟩ := lawful.corrupted allowed
    exact adversary_safe untrusted relaxed lawful.unordered i word

theorem sound (lawful : Lawful setting slots agree restart hostile fail) {cfg}
    (reach : (compositeSystem setting slots restart hostile).Reachable cfg) :
    System.Sound setting.rules (post setting slots agree) (failure fail) cfg := by
  refine System.Reachable.sound ?_ (launchesSafe lawful) reach
  intro cfg isIdle
  rw [show cfg = _ from isIdle]
  refine ⟨⟨fun q _ => sectionOk_empty _ q, ?_, fun isOrdered =>
    absurd isOrdered lawful.unordered⟩, fun t => ?_⟩
  · intro _ i word claim
    rcases claim with claimed | failed
    · cases claimed
    · cases failed
  · cases t with
    | adversary => exact fun _ _ _ => trivial
    | consumer q log =>
      intro later unchanged _
      exact ⟨List.nodup_nil, by simp⟩
    | provider =>
      intro later unchanged _
      refine ⟨rfl, rfl, fun _ _ _ => ⟨List.nodup_nil, by simp⟩, ?_, ?_⟩
      · intro _ _ i _
        rw [unchanged]
        simp [book, compositeIdle, empty, lawful.refl]
      · intro _
        rw [unchanged]
        exact ⟨rfl, rfl⟩

end Safe

end CompositeSystem

end ScoreIntegration.Lola
