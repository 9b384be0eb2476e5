import ScoreIntegration.Lola.ProviderBook

/-!
# The skeleton's side of an event

`SkeletonEvent` allocates slots, numbers the samples it sends and continues the
numbers of an earlier offer from what it finds in the shared memory.
-/

namespace ScoreIntegration.Lola

open Concurrency EventSlotStatus List
open Concurrency.Footprint

variable {ι : Type}

/-- An event without a composite is not offered. -/
structure SkeletonEvent where
  eventDataControlComposite : Option EventDataControlComposite
  currentTimestamp : EventTimeStamp
  qmDisconnect : Bool
  deriving DecidableEq, Repr

namespace SkeletonEvent

section

variable (event : SkeletonEvent)

def allocate : Control ι (SkeletonEvent × Option SlotIndex) :=
  match event.eventDataControlComposite with
  | none => pure (event, none)
  | some composite => do
    let (composite', allocatedSlot) ← composite.allocateNextSlot
    let qmMisbehaved := composite'.asilB && composite'.ignoreQmControl
    pure ({ event with
      eventDataControlComposite := some composite'
      qmDisconnect := event.qmDisconnect || qmMisbehaved }, allocatedSlot)

/-- A sample pointer that is given up: its destructor discards the slot. -/
def drop (slot : SlotIndex) : Control ι Unit :=
  match event.eventDataControlComposite with
  | none => .abort .notOffered
  | some composite => composite.discard slot

/-- `Send`, with the destructor of the sample pointer at its end. -/
def send (slot : SlotIndex) : Control ι SkeletonEvent :=
  match event.eventDataControlComposite with
  | none => .abort .notOffered
  | some composite => do
    let currentTimestamp := event.currentTimestamp + 1#32
    composite.eventReady slot currentTimestamp
    composite.discard slot
    pure { event with currentTimestamp := currentTimestamp }

def updateCurrentTimestamp : Control ι SkeletonEvent :=
  match event.eventDataControlComposite with
  | none => .abort .notOffered
  | some composite => do
    let latestTimestamp ← composite.getLatestTimestamp
    pure { event with currentTimestamp := latestTimestamp }

end

/-- `PrepareOffer` over shared memory that is used again, with the cleanup that
the skeleton does before. -/
def prepareOffer (slots : Nat) (asilB : Bool) (event : SkeletonEvent) :
    Control ι SkeletonEvent := do
  let composite : EventDataControlComposite := ⟨slots, asilB, false⟩
  composite.cleanupSharedMemoryAfterCrash
  updateCurrentTimestamp { event with eventDataControlComposite := some composite }

def prepareStopOffer (event : SkeletonEvent) : SkeletonEvent :=
  { event with eventDataControlComposite := none }

end SkeletonEvent

/-! ## Sections in step -/

namespace Book

variable {trusted : QualityType → Bool} {b cur : Book} {q : QualityType} {i : SlotIndex}

theorem enter_of_trusted (trust : ∀ q, trusted q = true) (b : Book)
    (q : QualityType) (i : SlotIndex)
    (content : EventSlotStatus.Content) (marked : Bool) (o : QualityType) (slot' : SlotIndex) :
    (b.enter trusted q i content marked).contents o slot' =
        (if o = q ∧ slot' = i then content
        else b.contents o slot') ∧
      (b.enter trusted q i content marked).allocated o slot' =
        (if o = q ∧ slot' = i then marked
        else b.allocated o slot') := by
  by_cases same : o = q ∧ slot' = i
  · obtain ⟨rfl, rfl⟩ := same
    simp [Book.enter, trust]
  · rw [if_neg same, if_neg same]
    exact b.enter_contents_of_ne trusted content marked same

structure ClaimsIn (book : Book) (sections : List QualityType)
    (slot : SlotIndex) (current : Book) : Prop where
  free : ∀ quality ∈ sections, book.contents quality slot ≠ .inWriting
  contents : ∀ quality slot', current.contents quality slot' =
    if quality ∈ sections ∧ slot' = slot then .inWriting
    else book.contents quality slot'
  allocated : ∀ quality slot', current.allocated quality slot' =
    if quality ∈ sections ∧ slot' = slot then true
    else book.allocated quality slot'

theorem ClaimsIn.writes {sections}
    (claims : b.ClaimsIn sections i cur) (served : q ∈ sections) {slots}
    (lt : i < slots) {owned} (writes : b.Writes q slots owned) :
    cur.Writes q slots (i :: owned) := by
  have fresh : i ∉ owned := fun mem => claims.free q served (writes.2 i mem).2.1
  refine ⟨nodup_cons.mpr ⟨fresh, writes.1⟩, fun o mem => ?_⟩
  rw [claims.contents, claims.allocated]
  rcases mem_cons.mp mem with rfl | pre
  · simp [served, lt]
  · have differ : o ≠ i := fun same => fresh (same ▸ pre)
    simpa [differ] using writes.2 o pre

end Book

namespace EventDataControlComposite

open ProviderEventDataControlLocalView

variable [Fintype ι] [DecidableEq ι] {cfg : Setting ι} {b : Book} {fail : Failure → Prop}
  {comp : EventDataControlComposite} {q : QualityType} {cur : Book}
  {i : SlotIndex}

/-- Only an event with an ASIL-B section gives up its QM section. -/
def Connected (composite : EventDataControlComposite) : Prop :=
  composite.asilB = false → composite.ignoreQmControl = false

omit [Fintype ι] [DecidableEq ι] in
theorem Connected.exists_section (connected : comp.Connected) : ∃ q, q ∈ comp.sections := by
  cases asilB : comp.asilB with
  | true => exact ⟨.asilB, by simp [sections, asilB]⟩
  | false => exact ⟨.asilQm, by simp [sections, connected asilB]⟩

/-- The outcome of `AllocateNextSlot`: the composite serves fewer sections, or
the same, and a slot is claimed in all of them. -/
structure Allocated (composite : EventDataControlComposite) (book : Book)
    (result : EventDataControlComposite × Option SlotIndex) (current : Book) :
    Prop where
  slots_eq : result.1.slots = composite.slots
  connected : result.1.Connected
  served : ∀ quality ∈ result.1.sections, quality ∈ composite.sections
  unchanged : result.2 = none → book.SameSlots current
  claims : ∀ slot, result.2 = some slot → slot < composite.slots ∧
    book.ClaimsIn result.1.sections slot current

omit [Fintype ι] [DecidableEq ι] in
theorem allocated_of_allocates {trusted : QualityType → Bool}
    (trusted_eq : cfg.trusted = trusted) (trust : ∀ q, trusted q = true)
    {composite'} (sections : composite'.sections = [q])
    (served : q ∈ comp.sections) (slots_eq : composite'.slots = comp.slots)
    (connected : composite'.Connected) {i}
    (allocates : Allocates cfg ⟨q, comp.slots⟩ b i cur) :
    comp.Allocated b (composite', i) cur := by
  refine ⟨slots_eq, connected, ?_, ?_, ?_⟩
  · intro o mem
    rw [sections, mem_singleton] at mem
    rw [mem]
    exact served
  · intro isNone
    rw [show i = none from isNone] at allocates
    exact allocates
  · intro claimed isSome
    rw [show i = some claimed from isSome] at allocates
    obtain ⟨lt, free, entered⟩ := allocates
    rw [sections]
    subst trusted_eq
    have enter := b.enter_of_trusted trust q claimed .inWriting true
    refine ⟨lt, by simpa using free, fun o slot' => ?_, fun o slot' => ?_⟩
    · rw [entered.1, (enter o slot').1]
      simp
    · rw [entered.2, (enter o slot').2]
      simp

omit [Fintype ι] [DecidableEq ι] in
theorem claimsIn_of_claimBoth (trust : ∀ q, cfg.trusted q = true)
    (allocates : comp.AllocatesBoth cfg b (some i) cur) :
    i < comp.slots ∧ b.ClaimsIn [.asilB, .asilQm] i cur := by
  obtain ⟨lt, free, agree, claimed⟩ := allocates
  have first := b.enter_of_trusted trust .asilQm i .inWriting true
  have second := (b.enter cfg.trusted .asilQm i .inWriting
    true).enter_of_trusted trust .asilB i .inWriting true
  refine ⟨lt, ?_, fun q slot' => ?_, fun q slot' => ?_⟩
  · intro q _
    cases q with
    | asilB => exact free
    | asilQm =>
      rw [agree (trust .asilQm)]
      exact free
  · rw [claimed.1, claimBoth, (second q slot').1, (first q slot').1]
    cases q <;> simp
  · rw [claimed.2, claimBoth, (second q slot').2, (first q slot').2]
    cases q <;> simp

theorem runs_allocateNextSlot_served (trust : ∀ q, cfg.trusted q = true)
    (relaxed : ¬ cfg.strict) (lenient : ∀ err, fail err)
    (connected : comp.Connected) :
    cfg.Runs b comp.allocateNextSlot (comp.Allocated b) fail := by
  cases asilB : comp.asilB with
  | false =>
    have qmOnly : comp.sections = [.asilQm] := by
      simp [sections, asilB, connected asilB]
    unfold allocateNextSlot
    rw [if_pos asilB]
    exact Runs.bind (ProviderEventDataControlLocalView.runs_allocateNextSlot
      (trust .asilQm) fun isStrict => absurd isStrict relaxed)
      fun i cur allocated => Runs.done <|
        allocated_of_allocates rfl trust qmOnly (by simp [qmOnly]) rfl connected allocated.1
  | true =>
    refine (runs_allocateNextSlot (trust .asilB) asilB (fun _ _ _ _ _ _ => lenient _)
      fun isStrict => absurd isStrict relaxed).post
      fun res cur allocated => ?_
    rcases allocated.1 with ⟨ignore, same, i, isSlot, both⟩ | ⟨disconnected, fallback⟩
    · have served : comp.sections = [.asilB, .asilQm] := by
        simp [sections, asilB, ignore]
      obtain ⟨composite', slot'⟩ := res
      obtain rfl : composite' = comp := same
      obtain rfl : slot' = some i := isSlot
      refine ⟨rfl, connected, fun _ mem => mem, ?_, ?_⟩
      · simp
      · intro claimed isClaimed
        cases isClaimed
        rw [show (composite', some i).1.sections = _ from served]
        exact claimsIn_of_claimBoth trust both
    · obtain ⟨composite', i⟩ := res
      obtain rfl : composite' = { comp with ignoreQmControl := true } := disconnected
      have served : sections { comp with ignoreQmControl := true } = [.asilB] := by
        simp [sections, asilB]
      have pre : QualityType.asilB ∈ comp.sections := by
        simp [sections, asilB]
      exact allocated_of_allocates rfl trust served pre rfl
        (fun qmOnly => absurd (asilB.symm.trans qmOnly) (by decide)) fallback

/-! ### The latest time stamp -/

/-- The largest time stamp of the samples in `slots`, if it exceeds
`latest`. -/
structure IsLatest (book : Book) (quality : QualityType)
    (slots : List SlotIndex) (latest result : EventTimeStamp) : Prop where
  upper : latest ≤ result ∧ ∀ slot ∈ slots, ∀ timeStamp,
    book.contents quality slot = .sample timeStamp → timeStamp ≤ result
  attained : result = latest ∨ ∃ slot ∈ slots, book.contents quality slot = .sample result

omit [Fintype ι] [DecidableEq ι] in
theorem IsLatest.cons {slots latest next res} (visited : IsLatest b q [i] latest next)
    (rest : IsLatest b q slots next res) :
    IsLatest b q (i :: slots) latest res := by
  refine ⟨⟨BitVec.le_trans visited.upper.1 rest.upper.1, ?_⟩, ?_⟩
  · intro o mem ts x
    rcases mem_cons.mp mem with rfl | later
    · exact BitVec.le_trans (visited.upper.2 o (mem_singleton_self o) ts x) rest.upper.1
    · exact rest.upper.2 o later ts x
  · rcases rest.attained with rfl | ⟨o, mem, x⟩
    · rcases visited.attained with same | ⟨o, mem, x⟩
      · exact Or.inl same
      · refine Or.inr ⟨o, ?_, x⟩
        rw [mem_singleton.mp mem]
        exact mem_cons_self
    · exact Or.inr ⟨o, mem_cons_of_mem _ mem, x⟩

theorem runs_getLatestTimestampLoop (trust : cfg.trusted q = true) (relaxed : ¬ cfg.strict)
    (slots : List SlotIndex) (latest : EventTimeStamp) :
    cfg.Runs b (getLatestTimestampLoop q slots latest)
      (fun res cur => cur = b ∧ IsLatest b q slots latest res) fail := by
  induction slots generalizing latest with
  | nil => exact Runs.done ⟨rfl, ⟨BitVec.le_refl _, by simp⟩, Or.inl rfl⟩
  | cons i slots ih =>
    refine (Setting.runs_loadSlot (fun isStrict => absurd isStrict relaxed)
      q i).bind_read fun word readable => ?_
    have content := readable.content trust
    split
    next newer =>
      obtain ⟨notInvalid, quiet, larger⟩ := newer
      have x : b.contents q i = .sample word.getTimeStamp := by
        rw [content]
        exact content_eq_sample_iff.mpr
          ⟨isInWriting_eq_false_iff.mp quiet, isInvalid_eq_false_iff.mp notInvalid, rfl⟩
      refine (ih word.getTimeStamp).post fun res last out => ⟨out.1, ?_⟩
      refine IsLatest.cons ⟨⟨BitVec.le_of_lt larger, ?_⟩, Or.inr ⟨i, mem_singleton_self i, x⟩⟩ out.2
      intro o mem ts st
      rw [mem_singleton.mp mem, x] at st
      cases st
      exact BitVec.le_refl _
    next notNewer =>
      refine (ih latest).post fun res last out => ⟨out.1, ?_⟩
      refine IsLatest.cons ⟨⟨BitVec.le_refl _, ?_⟩, Or.inl rfl⟩ out.2
      intro o mem ts st
      rw [mem_singleton.mp mem, content] at st
      obtain ⟨quiet, notInvalid, rfl⟩ := content_eq_sample_iff.mp st
      by_contra larger
      exact notNewer ⟨isInvalid_eq_false_iff.mpr notInvalid, isInWriting_eq_false_iff.mpr quiet,
        BitVec.not_le.mp larger⟩

/-! ### The destructor of a sample pointer after `Send` -/

theorem runs_discard_of_published (trust : ∀ q, cfg.trusted q = true)
    (relaxed : ¬ cfg.strict) (lt : i < comp.slots)
    (published : ∀ q ∈ comp.sections, b.contents q i ≠ .inWriting) :
    cfg.Runs b (comp.discard i) (fun _ cur => cur = b) fail := by
  have discardIn (q : QualityType) (served : q ∈ comp.sections) : cfg.Runs b
        (ProviderEventDataControlLocalView.discard ⟨q, comp.slots⟩
          i) (fun _ cur => cur = b) fail := by
    refine Runs.bind (runs_requireSlot lt) fun _ first same => ?_
    subst same
    refine (Setting.runs_loadSlot (fun isStrict => absurd isStrict relaxed)
      q i).bind_read fun word readable => ?_
    have content := readable.content (trust q)
    split
    next writing =>
      obtain rfl := isInWriting_iff.mp writing
      exact absurd (content.trans content_inWriting) (published q served)
    · exact Runs.done rfl
  unfold discard inBothSections
  cases asilB : comp.asilB <;> cases ignore : comp.ignoreQmControl
  all_goals simp only [sections, asilB, ignore] at discardIn ⊢
  · exact discardIn .asilQm (by simp)
  · exact Runs.done rfl
  · refine Runs.bind (discardIn .asilB (by simp)) fun _ first same => ?_
    subst same
    exact discardIn .asilQm (by simp)
  · exact Runs.bind (discardIn .asilB (by simp)) fun _ first same => Runs.done same

end EventDataControlComposite

end ScoreIntegration.Lola
