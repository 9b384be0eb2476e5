import ScoreIntegration.Concurrency.Solo
import ScoreIntegration.Lola.ConsumerEventDataControl
import ScoreIntegration.Lola.ControlInvariant
import Mathlib.Data.Finset.Card

/-!
# A consumer that runs alone

While nobody else takes a step, a weak compare-exchange fails only spuriously, and a
collector gets exactly the newest samples, as many as it asks for and has room for.
-/

namespace ScoreIntegration.Lola

open Concurrency EventSlotStatus Shared ControlOp List BitVec
open List (mem_cons mem_cons_of_mem mem_range)
open Concurrency.Program

variable {ι : Type} [DecidableEq ι]

namespace Shared

section

variable (state : Shared ι) (quality : QualityType) (log : ι)

def setFlags (entry : LogEntry) (flags : TransactionLogSlot) : Shared ι :=
  { state with
    transactions := put3 state.transactions quality log entry flags }

def takeReference (slot : SlotIndex) : Shared ι :=
  { state with
    stateSlots := put2 state.stateSlots quality slot ⟨(state.stateSlots quality slot).data + 1#64⟩
    references :=
      put3 state.references quality log slot (some (state.stateSlots quality slot).getTimeStamp)
    transactions := put3 state.transactions quality log (.reference slot) .recorded }

end

end Shared

namespace TransactionLogLocalView

variable {view : ConsumerEventDataControlLocalView ι} {state : Shared ι} {slot : SlotIndex}
  {e : LogEntry} {want : Bool} {q : QualityType} {log : ι}
  {desired word : EventSlotStatus} {words : SlotIndex → EventSlotStatus}
  {start candidate : Candidate} {limit : Nat} {s' : Shared ι}
  {lim lastTs highest : EventTimeStamp} {slots : List SlotIndex}
  {lastSearchTime : EventTimeStamp}

abbrev EndsIn {α : Type} (state : Shared ι) (program : Control ι α)
    (post : Nat → α → Shared ι → Prop) : Prop :=
  Ends ControlOp.exec state program post

/-! ## Flags -/

theorem ends_write {op} {post : Nat → op.Answer → Shared ι → Prop}
    (step : ∀ fault, post (Bool.toNat fault) (op.exec fault state).1 (op.exec fault state).2) :
    EndsIn state (atomically op) post := by
  intro faults out s' execution
  obtain ⟨fault, rest, rfl, ended⟩ := solo_perform_iff.mp execution
  obtain ⟨rfl, rfl, rfl⟩ := solo_done_iff.mp ended
  exact ⟨_, rfl, step fault⟩

theorem ends_transaction (flags) {op : ControlOp ι} (lt : slot < view.slots)
    (isFlags : state.transactions view.quality view.log (.reference slot) = ⟨want, false⟩)
    (step : ∀ fault, (op.exec fault state).2 =
      state.setFlags view.quality view.log (.reference slot) flags) :
    EndsIn state (do
        view.requireSlot slot
        view.requireBegin (.reference slot) want
        view.waitForTransactionEndToBecomeFalse (.reference slot) kRetryCount
        atomically op) (fun _ _ s' => s' =
          state.setFlags view.quality view.log (.reference slot) flags) := by
  have begun : EndsIn state (view.requireBegin (.reference slot) want) (fun _ _ s' => s' = state) :=
    Ends.atomic fun _ => Ends.require (by simp [exec, isFlags])
  have ended : EndsIn state (view.waitForTransactionEndToBecomeFalse (.reference slot) kRetryCount)
      (fun _ _ s' => s' = state) := by
    refine Ends.atomic fun _ => ?_
    simp only [exec, isFlags]
    exact Ends.done rfl
  refine Ends.bind (Ends.require (by simpa using lt)) ?_
  rintro first _ _ rfl
  refine Ends.bind begun ?_
  rintro second _ _ rfl
  refine Ends.bind ended ?_
  rintro third _ _ rfl
  exact ends_write step

/-- The attempt fails only if the compare-exchange fails spuriously. -/
theorem ends_tryReference (lt : slot < view.slots)
    (flags : state.transactions view.quality view.log (.reference slot) = .empty)
    (countable : (state.stateSlots view.quality slot).data ≠ allOnes 64) :
    EndsIn state (view.tryReference slot (state.stateSlots view.quality slot))
      (fun faults referenced s' =>
        if referenced then
          s' = state.takeReference view.quality view.log slot
        else
          0 < faults ∧ s' = state) := by
  refine Ends.bind (Ends.require (by simpa using countable)) fun first _ checked same => ?_
  rw [same]
  refine Ends.bind (ends_transaction ⟨true, false⟩ lt flags fun _ => ?_)
    fun second _ begun sameBegun => ?_
  · simp [exec, setFlags, flags, TransactionLogSlot.empty]
  rw [sameBegun]
  have sameWord : (state.setFlags view.quality view.log (.reference slot)
      ⟨true, false⟩).stateSlots view.quality slot = state.stateSlots view.quality slot := rfl
  have flagsBegun : (state.setFlags view.quality view.log (.reference slot)
      ⟨true, false⟩).transactions view.quality view.log (.reference slot) = ⟨true, false⟩ := by
    simp [setFlags]
  refine Ends.atomic fun fault => ?_
  cases fault with
  | false =>
    rw [exec, if_pos ⟨rfl, sameWord⟩]
    refine Ends.bind (ends_transaction .recorded lt flagsBegun fun _ => ?_)
      fun third _ committed sameCommitted => Ends.done ?_
    · simp [exec, setFlags, TransactionLogSlot.recorded]
    rw [if_pos rfl, sameCommitted]
    simp [setFlags, takeReference, put3_put3]
  | true =>
    rw [exec, if_neg (fun noFault => Bool.noConfusion noFault.1)]
    refine Ends.bind (ends_transaction .empty lt flagsBegun fun _ => ?_)
      fun third _ aborted sameAborted => Ends.done ?_
    · simp [exec, setFlags, TransactionLogSlot.empty]
    have restored : aborted = state := by
      rw [sameAborted]
      simp [setFlags, put3_put3, put3_eq_self flags]
    have faulty : 0 < first + (second + ((true : Bool).toNat + (third + 0))) := by
      simp only [Bool.toNat_true]
      omega
    exact ⟨faulty, restored⟩

/-! ## Searching -/

/-- `slot` holds the newest of the samples in `slots` that lie in the window. -/
structure Newest (words : SlotIndex → EventSlotStatus)
    (lastSearchTime upperLimit : EventTimeStamp) (slots : List SlotIndex)
    (slot : SlotIndex) : Prop where
  member : slot ∈ slots
  between : (words slot).isTimeStampBetween lastSearchTime upperLimit = true
  newest : ∀ other ∈ slots, (words other).isTimeStampBetween lastSearchTime upperLimit = true →
      (words other).getTimeStamp ≤ (words slot).getTimeStamp

/-- The candidate is the newest sample in the window, or there is none and the
candidate is the one the search started with. -/
def Found (words : SlotIndex → EventSlotStatus) (upperLimit : EventTimeStamp)
    (slots : List SlotIndex) (start candidate : Candidate) : Prop :=
  (candidate = start ∧ ∀ slot ∈ slots, (words slot).isTimeStampBetween
    start.candidateSlotStatus.getTimeStamp upperLimit = false) ∨
  ∃ slot, candidate = ⟨some slot, words slot⟩ ∧
    Newest words start.candidateSlotStatus.getTimeStamp upperLimit slots slot

theorem between_of_between {lower lower' upper upper'}
    (between : word.isTimeStampBetween lower upper = true)
    (inside : lower' < word.getTimeStamp ∧ word.getTimeStamp < upper') :
    word.isTimeStampBetween lower' upper' = true := by
  obtain ⟨quiet, notInvalid, -⟩ := isTimeStampBetween_iff.mp between
  exact isTimeStampBetween_iff.mpr ⟨quiet, notInvalid, inside⟩

theorem Found.of_better (between : (words slot).isTimeStampBetween
      start.candidateSlotStatus.getTimeStamp lim = true)
    (found : Found words lim slots ⟨some slot, words slot⟩ candidate) :
    Found words lim (slot :: slots) start candidate := by
  obtain ⟨-, -, above, -⟩ := isTimeStampBetween_iff.mp between
  right
  rcases found with ⟨rfl, none⟩ | ⟨o, rfl, newest⟩
  · refine ⟨slot, rfl, mem_cons_self, between, fun o mem inWindow => ?_⟩
    rcases mem_cons.mp mem with rfl | later
    · exact BitVec.le_refl _
    · obtain ⟨-, -, -, otherLimit⟩ := isTimeStampBetween_iff.mp inWindow
      have outside := none o later
      by_contra larger
      rw [between_of_between inWindow ⟨BitVec.not_le.mp larger, otherLimit⟩] at outside
      cases outside
  · obtain ⟨-, -, otherAbove, otherLimit⟩ := isTimeStampBetween_iff.mp newest.between
    refine ⟨o, rfl, mem_cons_of_mem _ newest.member, between_of_between newest.between
      ⟨BitVec.lt_trans above otherAbove, otherLimit⟩, fun third mem inWindow => ?_⟩
    rcases mem_cons.mp mem with rfl | later
    · exact BitVec.le_of_lt otherAbove
    · by_cases larger : (words slot).getTimeStamp < (words third).getTimeStamp
      · obtain ⟨-, -, -, thirdLimit⟩ := isTimeStampBetween_iff.mp inWindow
        exact newest.newest third later (between_of_between inWindow ⟨larger, thirdLimit⟩)
      · have small := BitVec.not_lt.mp larger
        exact BitVec.le_trans small (BitVec.le_of_lt otherAbove)

theorem Found.of_outside (outside : (words slot).isTimeStampBetween
      start.candidateSlotStatus.getTimeStamp lim = false)
    (found : Found words lim slots start candidate) :
    Found words lim (slot :: slots) start candidate := by
  rcases found with ⟨rfl, none⟩ | ⟨o, rfl, newest⟩
  · refine .inl ⟨rfl, fun o mem => ?_⟩
    rcases mem_cons.mp mem with rfl | later
    · exact outside
    · exact none o later
  · refine .inr ⟨o, rfl, mem_cons_of_mem _ newest.member,
      newest.between, fun third mem inWindow => ?_⟩
    rcases mem_cons.mp mem with rfl | later
    · rw [inWindow] at outside
      cases outside
    · exact newest.newest third later inWindow

theorem ends_searchCandidate (lim : EventTimeStamp) (slots : List SlotIndex) (start : Candidate) :
    EndsIn state (view.searchCandidate lim slots start)
      (fun _ candidate s' => s' = state ∧
        Found (state.stateSlots view.quality) lim slots start candidate) := by
  induction slots generalizing start with
  | nil => exact Ends.done ⟨rfl, .inl ⟨rfl, by simp⟩⟩
  | cons slot slots ih =>
    refine Ends.atomic fun fault => ?_
    split
    next between => exact (ih _).post fun _ _ _ found => ⟨found.1, found.2.of_better between⟩
    next outside =>
      have passed := Bool.eq_false_iff.mpr outside
      exact (ih _).post fun _ _ _ found => ⟨found.1, found.2.of_outside passed⟩

/-! ## Referencing the newest sample -/

variable (view state) in
/-- The samples in the window can be referenced: the log holds none of them,
and their counters do not run over. -/
def CanReference (lastSearchTime upperLimit : EventTimeStamp) : Prop :=
  ∀ slot < view.slots, (state.stateSlots view.quality slot).isTimeStampBetween lastSearchTime
      upperLimit = true →
    state.transactions view.quality view.log (.reference slot) = .empty ∧
      (state.stateSlots view.quality slot).getReferenceCount.toNat + 1 < 2 ^ 32 - 1

variable (view state) in
def ReferencesNewest (lastSearchTime upperLimit : EventTimeStamp) :
    Option SlotIndex → Shared ι → Prop
  | none, after =>
    after = state ∧ ∀ slot < view.slots,
      (state.stateSlots view.quality slot).isTimeStampBetween lastSearchTime upperLimit = false
  | some slot, after =>
    Newest (state.stateSlots view.quality) lastSearchTime upperLimit (List.range view.slots) slot ∧
    after = state.takeReference view.quality view.log slot

theorem data_ne_allOnes (few : word.getReferenceCount.toNat + 1 < 2 ^ 32 - 1) :
    word.data ≠ allOnes 64 := by
  intro same
  rw [toNat_getReferenceCount, same] at few
  exact absurd few (by decide)

theorem ends_referenceNextEventLoop (possible : view.CanReference state lastSearchTime lim)
    (n : Nat) :
    EndsIn state (view.referenceNextEventLoop lastSearchTime lim n)
      (fun faults slot s' => n ≤ faults ∧ slot = none ∨
        view.ReferencesNewest state lastSearchTime lim slot s') := by
  induction n with
  | zero => exact Ends.done (.inl ⟨le_refl 0, rfl⟩)
  | succ n ih =>
    refine Ends.bind (ends_searchCandidate _ _ _) fun first candidate _ searched => ?_
    obtain ⟨rfl, none⟩ | ⟨slot, rfl, newest⟩ := searched.2
    · rw [searched.1]
      refine Ends.done (.inr ⟨rfl, fun slot lt => ?_⟩)
      have outside := none slot (mem_range.mpr lt)
      rwa [getTimeStamp_make] at outside
    · rw [searched.1]
      simp only [getTimeStamp_make] at newest
      have lt := mem_range.mp newest.member
      obtain ⟨flags, few⟩ := possible slot lt newest.between
      refine Ends.bind (ends_tryReference lt flags (data_ne_allOnes few))
        fun second referenced tried outcome => ?_
      cases referenced with
      | true => exact Ends.done (.inr ⟨newest, outcome⟩)
      | false =>
        obtain ⟨faulty, same⟩ := outcome
        rw [same]
        refine ih.post fun more slot s' ended => ?_
        rcases ended with ⟨exhausted, isNone⟩ | reached
        · exact .inl ⟨by omega, isNone⟩
        · exact .inr reached

/-! ## Collecting samples -/

variable (view state) in
def window (lastSearchTime upperLimit : EventTimeStamp) : Finset SlotIndex :=
  (Finset.range view.slots).filter fun slot =>
    (state.stateSlots view.quality slot).isTimeStampBetween lastSearchTime upperLimit = true

omit [DecidableEq ι] in
theorem mem_window : slot ∈ view.window state lastSearchTime lim ↔ slot < view.slots ∧
      (state.stateSlots view.quality slot).isTimeStampBetween lastSearchTime lim = true := by
  simp [window]

/-- `CollectSlots` takes the newest sample of the window again and again, each
time below the time stamp of the one before, until it has `limit` samples or
the window is empty. -/
inductive Collected (view : ConsumerEventDataControlLocalView ι)
    (lastTs : EventTimeStamp) :
    Nat → EventTimeStamp → Shared ι → List SlotIndex → Shared ι → Prop
  | full (highest : EventTimeStamp) (state : Shared ι) :
      Collected view lastTs 0 highest state [] state
  | exhausted (limit : Nat) {highest : EventTimeStamp} {state : Shared ι} :
      (∀ slot < view.slots, (state.stateSlots view.quality slot).isTimeStampBetween lastTs
          highest = false) →
      Collected view lastTs limit highest state [] state
  | next {limit : Nat} {highest : EventTimeStamp} {state after : Shared ι}
      {slot : SlotIndex} {rest : List SlotIndex} :
      Newest (state.stateSlots view.quality) lastTs highest (List.range view.slots) slot →
      Collected view lastTs limit (state.stateSlots view.quality slot).getTimeStamp
        (state.takeReference view.quality view.log slot) rest after →
      Collected view lastTs (limit + 1) highest state (slot :: rest) after

section TakeReference

variable {lastTs highest : EventTimeStamp}
  (newest : Newest (state.stateSlots view.quality) lastTs highest (List.range view.slots) slot)

theorem takeReference_slot (view : ConsumerEventDataControlLocalView ι)
    (state : Shared ι) (slot o : SlotIndex) :
    (state.takeReference view.quality view.log slot).stateSlots view.quality o =
      if o = slot then ⟨(state.stateSlots view.quality slot).data + 1#64⟩
      else state.stateSlots view.quality o := by
  by_cases same : o = slot
  · subst same
    simp [takeReference]
  · simp [takeReference, same]

variable (possible : view.CanReference state lastTs highest)
include newest possible

theorem takeReference_timeStamp (other : SlotIndex) :
    ((state.takeReference view.quality view.log slot).stateSlots view.quality other).getTimeStamp =
      (state.stateSlots view.quality other).getTimeStamp := by
  rw [takeReference_slot]
  split
  next same =>
    subst same
    have few := (possible other (mem_range.mp newest.member) newest.between).2
    exact (add_one_spec (by omega)).1
  · rfl

theorem takeReference_between {other} :
    ((state.takeReference view.quality view.log slot).stateSlots view.quality
        other).isTimeStampBetween lastTs (state.stateSlots view.quality slot).getTimeStamp = true ↔
      other ≠ slot ∧ (state.stateSlots view.quality other).isTimeStampBetween lastTs
          (state.stateSlots view.quality slot).getTimeStamp = true := by
  have sameStamp := takeReference_timeStamp newest possible other
  by_cases same : other = slot
  · subst same
    constructor
    · intro between
      obtain ⟨-, -, -, below⟩ := isTimeStampBetween_iff.mp between
      rw [sameStamp] at below
      exact absurd below (BitVec.lt_irrefl _)
    · intro between
      exact absurd rfl between.1
  · rw [takeReference_slot, if_neg same]
    simp [same]

theorem canReference_takeReference :
    view.CanReference (state.takeReference view.quality view.log slot) lastTs
      (state.stateSlots view.quality slot).getTimeStamp := by
  intro other lt between
  obtain ⟨different, pre⟩ := (takeReference_between newest possible).mp between
  obtain ⟨-, -, -, below⟩ := isTimeStampBetween_iff.mp newest.between
  obtain ⟨-, -, above, belowSlot⟩ := isTimeStampBetween_iff.mp pre
  obtain ⟨flags, few⟩ := possible other lt (between_of_between pre
    ⟨above, BitVec.lt_trans belowSlot below⟩)
  refine ⟨?_, ?_⟩
  · have elsewhere : ¬ (view.quality = view.quality ∧ view.log = view.log ∧
        LogEntry.reference other = .reference slot) := by
      simp [different]
    simp only [takeReference, put3_of_ne _ _ elsewhere]
    exact flags
  · rw [takeReference_slot, if_neg different]
    exact few

end TakeReference

/-- `slots` are the newest samples of the window, at most `limit`, and taking
references to them is all that has happened between `state` and `after`. -/
structure TakesNewest (view : ConsumerEventDataControlLocalView ι)
    (lastTs : EventTimeStamp) (limit : Nat) (highest : EventTimeStamp)
    (state : Shared ι) (slots : List SlotIndex) (after : Shared ι) : Prop where
  length : slots.length = min limit (view.window state lastTs highest).card
  nodup : slots.Nodup
  member : ∀ slot ∈ slots, slot ∈ view.window state lastTs highest
  newest : ∀ slot ∈ slots, ∀ other ∈ view.window state lastTs highest,
    other ∉ slots → (state.stateSlots view.quality other).getTimeStamp <
      (state.stateSlots view.quality slot).getTimeStamp
  words : ∀ quality slot, after.stateSlots quality slot =
    if quality = view.quality ∧ slot ∈ slots then
      ⟨(state.stateSlots quality slot).data + 1#64⟩
    else state.stateSlots quality slot
  subscription : after.currentSubscriptionState = state.currentSubscriptionState
  accounts : ∀ quality log, ¬ (quality = view.quality ∧ log = view.log) →
    after.account quality log = state.account quality log
  flags : ∀ entry, after.transactions view.quality view.log entry =
    if entry ∈ slots.map LogEntry.reference then .recorded
    else state.transactions view.quality view.log entry

variable (view state) in
def DistinctStamps (lastTs highest : EventTimeStamp) : Prop :=
  ∀ slot ∈ view.window state lastTs highest, ∀ other ∈ view.window state lastTs highest,
      (state.stateSlots view.quality slot).getTimeStamp =
        (state.stateSlots view.quality other).getTimeStamp → slot = other

omit [DecidableEq ι] in
theorem takesNewest_nil (nothing : limit = 0 ∨ view.window state lastTs highest = ∅) :
    TakesNewest view lastTs limit highest state [] state where
  length := by
    rcases nothing with rfl | empty
    · simp
    · simp [empty]
  nodup := nodup_nil
  member := by simp
  newest := by simp
  words := by simp
  subscription := rfl
  accounts _ _ _ := rfl
  flags := by simp

theorem window_takeReference (newest : Newest (state.stateSlots view.quality) lastTs highest
      (range view.slots) slot)
    (possible : view.CanReference state lastTs highest)
    (distinct : view.DistinctStamps state lastTs highest) :
    view.window (state.takeReference view.quality view.log slot) lastTs
        (state.stateSlots view.quality slot).getTimeStamp =
      (view.window state lastTs highest).erase slot := by
  have slotMember : slot ∈ view.window state lastTs highest :=
    mem_window.mpr ⟨mem_range.mp newest.member, newest.between⟩
  obtain ⟨-, -, -, below⟩ := isTimeStampBetween_iff.mp newest.between
  ext other
  rw [mem_window, takeReference_between newest possible, Finset.mem_erase]
  constructor
  · rintro ⟨lt, different, between⟩
    obtain ⟨-, -, above, belowSlot⟩ := isTimeStampBetween_iff.mp between
    exact ⟨different, mem_window.mpr ⟨lt, between_of_between between
      ⟨above, BitVec.lt_trans belowSlot below⟩⟩⟩
  · rintro ⟨different, member⟩
    obtain ⟨lt, between⟩ := mem_window.mp member
    obtain ⟨-, -, above, -⟩ := isTimeStampBetween_iff.mp between
    have atMost := newest.newest other (mem_range.mpr lt) between
    have unequal : (state.stateSlots view.quality other).getTimeStamp ≠
        (state.stateSlots view.quality slot).getTimeStamp :=
      fun same => different (distinct other member slot slotMember same)
    have less : (state.stateSlots view.quality other).getTimeStamp <
        (state.stateSlots view.quality slot).getTimeStamp := by
      bv_omega
    exact ⟨lt, different, between_of_between between ⟨above, less⟩⟩

theorem TakesNewest.cons {rest}
    (newest : Newest (state.stateSlots view.quality) lastTs highest (range view.slots) slot)
    (possible : view.CanReference state lastTs highest)
    (distinct : view.DistinctStamps state lastTs highest)
    (takes : TakesNewest view lastTs limit (state.stateSlots view.quality slot).getTimeStamp
      (state.takeReference view.quality view.log slot) rest s') :
    TakesNewest view lastTs (limit + 1) highest state (slot :: rest) s' := by
  have shrunk := window_takeReference newest possible distinct
  have sameStamp := takeReference_timeStamp newest possible
  have slotMember : slot ∈ view.window state lastTs highest :=
    mem_window.mpr ⟨mem_range.mp newest.member, newest.between⟩
  have restMember : ∀ other ∈ rest, other ≠ slot ∧ other ∈ view.window state lastTs highest := by
    intro other member
    have inWindow := takes.member other member
    rw [shrunk] at inWindow
    exact Finset.mem_erase.mp inWindow
  have fresh : slot ∉ rest := fun member => (restMember slot member).1 rfl
  refine ⟨?_, nodup_cons.mpr ⟨fresh, takes.nodup⟩, ?_, ?_, ?_, takes.subscription, ?_, ?_⟩
  · have card := Finset.card_erase_add_one slotMember
    rw [length_cons, takes.length, shrunk, ← card, Nat.add_min_add_right]
  · intro other member
    rcases mem_cons.mp member with rfl | later
    · exact slotMember
    · exact (restMember other later).2
  · intro taken member other inWindow notTaken
    have different : other ≠ slot := fun same => notTaken (mem_cons.mpr (.inl same))
    have notLater : other ∉ rest := fun later => notTaken (mem_cons_of_mem _ later)
    have remaining : other ∈ (view.window state lastTs highest).erase slot :=
      Finset.mem_erase.mpr ⟨different, inWindow⟩
    rcases mem_cons.mp member with rfl | later
    · rw [← shrunk] at remaining
      obtain ⟨-, between⟩ := mem_window.mp remaining
      have less := (isTimeStampBetween_iff.mp between).2.2.2
      rw [sameStamp] at less
      exact less
    · rw [← shrunk] at remaining
      have less := takes.newest taken later other remaining notLater
      rw [sameStamp, sameStamp] at less
      exact less
  · intro q other
    rw [takes.words]
    by_cases sameSection : q = view.quality
    · subst sameSection
      by_cases same : other = slot
      · subst same
        simp [fresh, takeReference_slot]
      · simp [same, takeReference_slot]
    · simp [sameSection, takeReference, put2_row_of_ne]
  · intro q log different
    rw [takes.accounts q log different]
    simp [account, takeReference, put3_row_of_ne _ _ _ different]
  · intro e
    rw [takes.flags]
    by_cases same : e = .reference slot
    · subst same
      simp [takeReference]
    · simp [takeReference, same]

theorem Collected.takesNewest (collected : Collected view lastTs limit highest state slots s')
    (possible : view.CanReference state lastTs highest)
    (distinct : view.DistinctStamps state lastTs highest) :
    TakesNewest view lastTs limit highest state slots s' := by
  induction collected with
  | full highest state => exact takesNewest_nil (.inl rfl)
  | exhausted limit outside =>
    refine takesNewest_nil (.inr (Finset.eq_empty_of_forall_notMem ?_))
    intro slot mem
    obtain ⟨lt, between⟩ := mem_window.mp mem
    rw [outside slot lt] at between
    cases between
  | next newest _ ih =>
    refine TakesNewest.cons newest possible distinct (ih
      (canReference_takeReference newest possible) ?_)
    intro left leftMember right rightMember same
    rw [window_takeReference newest possible distinct] at leftMember rightMember
    rw [takeReference_timeStamp newest possible, takeReference_timeStamp newest possible] at same
    exact distinct left (Finset.mem_of_mem_erase leftMember) right
      (Finset.mem_of_mem_erase rightMember) same

end TransactionLogLocalView

namespace SlotCollector

open TransactionLogLocalView

variable {view : ConsumerEventDataControlLocalView ι} {state : Shared ι} {collector : SlotCollector}

theorem ends_slotStatus {slot} (lt : slot < view.slots) :
    EndsIn state (view.slotStatus slot) (fun _ word s' => s' = state ∧
        word = state.stateSlots view.quality slot) := by
  refine Ends.bind (Ends.require (by simpa using lt)) fun _ _ checked same => ?_
  rw [same]
  exact ends_write fun _ => ⟨rfl, rfl⟩

theorem ends_collectSlotsLoop {highest} (count room : Nat)
    (possible : view.CanReference state collector.lastTs highest) :
    EndsIn state (collector.collectSlotsLoop view count room highest)
      (fun faults slots s' => (∀ slot ∈ slots, slot < view.slots) ∧
        (MAX_REFERENCE_RETRIES ≤ faults ∨
          Collected view collector.lastTs (min count room) highest state slots s')) := by
  have nothing : ∀ slot ∈ ([] : List SlotIndex), slot < view.slots := by simp
  induction count generalizing room highest state with
  | zero =>
    rw [Nat.zero_min]
    exact Ends.done ⟨nothing, .inr (.full highest state)⟩
  | succ count ih =>
    cases room with
    | zero =>
      rw [Nat.min_zero]
      exact Ends.done ⟨nothing, .inr (.full highest state)⟩
    | succ room =>
      refine Ends.bind (ends_referenceNextEventLoop possible MAX_REFERENCE_RETRIES)
        fun first slot taken referenced => ?_
      rcases referenced with ⟨exhausted, rfl⟩ | newest
      · exact Ends.done ⟨nothing, .inl (by omega)⟩
      cases slot with
      | none =>
        obtain ⟨same, outside⟩ := newest
        rw [same]
        exact Ends.done ⟨nothing, .inr (.exhausted _ outside)⟩
      | some slot =>
        obtain ⟨newest, same⟩ := newest
        rw [same]
        have lt := mem_range.mp newest.member
        refine Ends.bind (ends_slotStatus lt) fun second status read isStatus => ?_
        rw [isStatus.1, isStatus.2, takeReference_timeStamp newest possible]
        refine Ends.bind (ih room (canReference_takeReference newest possible))
          fun third rest s' outcome => Ends.done ⟨?_, ?_⟩
        · intro other mem
          rcases mem_cons.mp mem with rfl | later
          · exact lt
          · exact outcome.1 other later
        rcases outcome.2 with exhausted | collected
        · exact .inl (by omega)
        · rw [Nat.add_min_add_right]
          exact .inr (.next newest collected)

theorem ends_newestDelivered {slots}
    (lt : ∀ slot ∈ slots, slot < view.slots) (newest : EventTimeStamp) :
    EndsIn state (newestDelivered view slots newest) (fun _ _ s' => s' = state) := by
  induction slots generalizing newest with
  | nil => exact Ends.done rfl
  | cons slot slots ih =>
    refine Ends.bind (ends_slotStatus (lt slot mem_cons_self)) fun _ _ read isStatus => ?_
    rw [isStatus.1]
    exact ih (fun o mem => lt o (mem_cons_of_mem _ mem)) _

/-- Alone and with fewer than `MAX_REFERENCE_RETRIES` spurious failures,
`GetNewSamplesSlotIndices` takes references to exactly the newest samples. -/
theorem ends_getNewSamplesSlotIndices (buffer : 0 < collector.maxSlots) (cap : Nat)
    (possible : view.CanReference state collector.lastTs EventSlotStatus.TIMESTAMP_MAX)
    (distinct : view.DistinctStamps state collector.lastTs EventSlotStatus.TIMESTAMP_MAX) :
    EndsIn state (collector.getNewSamplesSlotIndices view cap)
      (fun faults res s' => MAX_REFERENCE_RETRIES ≤ faults ∨
        TakesNewest view collector.lastTs (min cap collector.maxSlots)
          EventSlotStatus.TIMESTAMP_MAX state res.2.reverse s') := by
  have collects : EndsIn state (collector.collectSlots view cap)
      (fun faults slots s' => (∀ slot ∈ slots, slot < view.slots) ∧
        (MAX_REFERENCE_RETRIES ≤ faults ∨
          TakesNewest view collector.lastTs (min cap collector.maxSlots)
            EventSlotStatus.TIMESTAMP_MAX state slots s')) := by
    refine Ends.bind (Ends.require (by simpa using buffer)) fun first _ checked same => ?_
    rw [same]
    refine (ends_collectSlotsLoop cap collector.maxSlots possible).post
      fun more slots s' outcome => ⟨outcome.1, ?_⟩
    rcases outcome.2 with exhausted | collected
    · exact .inl (by omega)
    · exact .inr (collected.takesNewest possible distinct)
  refine Ends.bind collects fun first slots s' outcome => ?_
  have lt : ∀ slot ∈ slots.reverse, slot < view.slots :=
    fun slot mem => outcome.1 slot (mem_reverse.mp mem)
  refine Ends.bind (ends_newestDelivered lt collector.lastTs)
    fun second newest final same => Ends.done ?_
  rw [same, reverse_reverse]
  rcases outcome.2 with exhausted | takes
  · exact .inl (by omega)
  · exact .inr takes

end SlotCollector

end ScoreIntegration.Lola
