import Mathlib.Algebra.BigOperators.Group.Finset.Piecewise
import ScoreIntegration.Lola.EventSubscriptionControl

/-!
# The invariant of a control section

A slot that is being written is referenced by nobody; any other counts exactly the
references booked for it, each at the time stamp the slot still has.  A transaction log
whose two flags agree says whether its reference or subscription is booked.
-/

namespace ScoreIntegration.Lola

open EventSlotStatus Function Option Nat Finset Shared

variable {ι : Type} [Fintype ι] [DecidableEq ι] {subs : ι → Option Nat} {log : ι}

/-! ## Counting bookings -/

section Counting

variable {α : Type} {booked : ι → Option α} {log : ι}

omit [DecidableEq ι] in
theorem bookedCount_eq_zero_iff : bookedCount booked = 0 ↔ ∀ log, booked log = none := by
  simp [bookedCount, filter_eq_empty_iff]

theorem bookedCount_insert (value : α) (free : booked log = none) :
    bookedCount (update booked log (some value)) = bookedCount booked + 1 := by
  have grown : (univ.filter fun o => (update booked log (some value) o).isSome) =
      insert log (univ.filter fun o => (booked o).isSome) := by
    ext o
    by_cases same : o = log
    · subst o
      simp
    · simp [same]
  rw [bookedCount, grown, card_insert_of_notMem (by simp [free])]
  rfl

theorem bookedCount_erase {value} (held : booked log = some value) :
    bookedCount (update booked log none) + 1 = bookedCount booked := by
  have free : update booked log none log = none := by simp
  have restored : update (update booked log none) log (some value) = booked := by
    rw [update_idem, ← held, update_eq_self]
  rw [← bookedCount_insert value free, restored]

theorem bookedCount_eq_others_add (booked : ι → Option α) (log : ι) :
    bookedCount booked = bookedCount (update booked log none) +
      (if (booked log).isSome then 1 else 0) := by
  cases own : booked log with
  | none =>
    rw [← own, update_eq_self, own]
    rfl
  | some value => exact (bookedCount_erase own).symm

omit [DecidableEq ι] in
theorem bookedCount_lt_card (free : booked log = none) : bookedCount booked < Fintype.card ι := by
  apply card_lt_univ_of_notMem (x := log)
  simp [free]

end Counting

/-! ## One slot -/

structure SlotOk (word : EventSlotStatus)
    (references : ι → Option EventTimeStamp) (allocated : Bool) : Prop where
  unreferenced : word = .inWriting → ∀ log, references log = none
  counted : word ≠ .inWriting → word.getReferenceCount.toNat = bookedCount references
  stamped : ∀ log timeStamp, references log = some timeStamp →
    word.getTimeStamp = timeStamp ∧ timeStamp ≠ 0#32
  writing : allocated = true → word = .inWriting

namespace SlotOk

variable {word value : EventSlotStatus} {references : ι → Option EventTimeStamp} {allocated : Bool}
  {log : ι} {timeStamp : EventTimeStamp}

omit [DecidableEq ι] in
theorem ne_inWriting_of_reference (ok : SlotOk word references allocated)
    (held : references log = some timeStamp) : word ≠ .inWriting := by
  intro writing
  have free := ok.unreferenced writing log
  rw [held] at free
  exact absurd free (some_ne_none timeStamp)

omit [DecidableEq ι] in
theorem free_of_unused (ok : SlotOk word references allocated)
    (unused : word.isUsed = false) (log : ι) : references log = none := by
  obtain ⟨count, quiet⟩ := isUsed_eq_false_iff.mp unused
  have counted := ok.counted quiet
  rw [toNat_getReferenceCount, count] at counted
  exact bookedCount_eq_zero_iff.mp counted.symm log

omit [DecidableEq ι] in
theorem recount (ok : SlotOk word references allocated) {next} {held : ι → Option EventTimeStamp}
    (stamp : word.getTimeStamp ≠ 0#32) (sameStamp : next.getTimeStamp = word.getTimeStamp)
    (counted : next.getReferenceCount.toNat = bookedCount held)
    (stamped : ∀ log timeStamp, held log = some timeStamp →
      word.getTimeStamp = timeStamp ∧ timeStamp ≠ 0#32) :
    SlotOk next held allocated ∧ next.content = word.content := by
  have nextStamp : next.getTimeStamp ≠ 0#32 := sameStamp ▸ stamp
  have notWriting := (ne_reserved_of_timeStamp_ne_zero nextStamp).1
  refine ⟨⟨fun writing => absurd writing notWriting, fun _ => counted, sameStamp ▸ stamped, ?_⟩, ?_⟩
  · intro marked
    exact absurd (ok.writing marked) (ne_reserved_of_timeStamp_ne_zero stamp).1
  · rw [content_of_timeStamp_ne_zero nextStamp, content_of_timeStamp_ne_zero stamp, sameStamp]

theorem reference (ok : SlotOk word references allocated)
    (free : references log = none) (stamp : word.getTimeStamp ≠ 0#32)
    (few : bookedCount (update references log (some word.getTimeStamp)) < 2 ^ 32 - 1) :
    SlotOk ⟨word.data + 1#64⟩ (update references log (some word.getTimeStamp)) allocated ∧
    (⟨word.data + 1#64⟩ : EventSlotStatus).content = word.content := by
  obtain ⟨quiet, -⟩ := ne_reserved_of_timeStamp_ne_zero stamp
  have counted := ok.counted quiet
  have grown := bookedCount_insert word.getTimeStamp free
  have room : word.getReferenceCount.toNat + 1 < 2 ^ 32 := by omega
  refine ok.recount stamp (add_one_spec room).1 ?_ fun o timeStamp held => ?_
  · rw [(add_one_spec room).2, grown, counted]
  · by_cases same : o = log
    · subst o
      rw [update_self] at held
      cases held
      exact ⟨rfl, stamp⟩
    · rw [update_of_ne same] at held
      exact ok.stamped o timeStamp held

theorem dereference (ok : SlotOk word references allocated)
    (held : references log = some timeStamp) :
    SlotOk ⟨word.data - 1#64⟩ (update references log none) allocated ∧
    (⟨word.data - 1#64⟩ : EventSlotStatus).content = word.content := by
  have quiet := ok.ne_inWriting_of_reference held
  obtain ⟨stamped, positiveStamp⟩ := ok.stamped log timeStamp held
  have counted := ok.counted quiet
  have shrunk := bookedCount_erase held
  have positive : 0 < word.getReferenceCount.toNat := by omega
  refine ok.recount (stamped ▸ positiveStamp) (sub_one_spec positive).1 ?_
    fun o otherStamp otherHeld => ?_
  · rw [(sub_one_spec positive).2]
    omega
  · by_cases same : o = log
    · subst o
      simp at otherHeld
    · rw [update_of_ne same] at otherHeld
      exact ok.stamped o otherStamp otherHeld

omit [DecidableEq ι] in
theorem claim (ok : SlotOk word references allocated) (unused : word.isUsed = false) :
    SlotOk .inWriting references true := by
  have free := ok.free_of_unused unused
  refine ⟨fun _ => free, fun quiet => absurd rfl quiet, ?_, fun _ => rfl⟩
  intro log timeStamp held
  rw [free log] at held
  exact absurd held.symm (some_ne_none timeStamp)

omit [DecidableEq ι] in
theorem store (ok : SlotOk .inWriting references allocated)
    (unused : value.isUsed = false) : SlotOk value references false := by
  obtain ⟨count, quiet⟩ := isUsed_eq_false_iff.mp unused
  have free := ok.unreferenced rfl
  refine ⟨fun _ => free, fun _ => ?_, ?_, fun marked => by simp at marked⟩
  · rw [toNat_getReferenceCount, count]
    exact (bookedCount_eq_zero_iff.mpr free).symm
  · intro log timeStamp held
    rw [free log] at held
    exact absurd held.symm (some_ne_none timeStamp)

end SlotOk

/-! ## The packed subscription state -/

def sampleSum (subscriptions : ι → Option Nat) : Nat := ∑ log, (subscriptions log).getD 0

theorem sampleSum_insert (count : Nat) (free : subs log = none) :
    sampleSum (update subs log (some count)) = sampleSum subs + count := by
  have inserted : (fun o => (update subs log (some count) o).getD 0) =
      update (fun o => (subs o).getD 0) log count := by
    funext o
    by_cases same : o = log
    · subst o
      simp
    · simp [same]
  have pre := add_sum_erase univ (fun o => (subs o).getD 0) (mem_univ log)
  have s' := sum_update_of_mem (mem_univ log) (fun o => (subs o).getD 0) count
  simp only [free, getD_none, zero_add] at pre
  rw [sampleSum, inserted, s', sampleSum, ← pre, sdiff_singleton_eq_erase, add_comm]

theorem sampleSum_erase {count} (held : subs log = some count) :
    sampleSum (update subs log none) + count = sampleSum subs := by
  have free : update subs log none log = none := by simp
  have restored : update (update subs log none) log (some count) = subs := by
    rw [update_idem, ← held, update_eq_self]
  rw [← sampleSum_insert count free, restored]

theorem toNat_getSubscribersFromState (word : BitVec 32) :
    (getSubscribersFromState word).toNat = word.toNat / 2 ^ 16 % 2 ^ 8 := by
  simp only [getSubscribersFromState, BitVec.toNat_setWidth,
    BitVec.toNat_ushiftRight, shiftRight_eq_div_pow]

theorem toNat_getSubscribedSamplesFromState (word : BitVec 32) :
    (getSubscribedSamplesFromState word).toNat = word.toNat % 2 ^ 16 := by
  have mask : (0x0000FFFF#32).toNat = 2 ^ 16 - 1 := rfl
  simp only [getSubscribedSamplesFromState, BitVec.toNat_setWidth,
    BitVec.toNat_and, mask, and_two_pow_sub_one_eq_mod]
  omega

theorem toNat_createState (subscribers : BitVec 8) (samples : BitVec 16) :
    (createState subscribers samples).toNat = subscribers.toNat * 2 ^ 16 + samples.toNat := by
  have subscribersBound := subscribers.isLt
  have samplesBound := samples.isLt
  simp only [createState, BitVec.toNat_add, BitVec.toNat_shiftLeft,
    BitVec.toNat_setWidth, shiftLeft_eq]
  omega

/-- The packed state is the number of subscribers and the sum of their
samples, and both keep to the configured limits. -/
structure SubscriptionOk (limits : EventSubscriptionControl) (word : BitVec 32)
    (subscriptions : ι → Option Nat) : Prop where
  packed : word.toNat = bookedCount subscriptions * 2 ^ 16 + sampleSum subscriptions
  subscribers : bookedCount subscriptions ≤ limits.maxSubscribers.toNat
  representable : sampleSum subscriptions < 2 ^ 16
  samples : limits.enforceMaxSamples = true →
    sampleSum subscriptions ≤ limits.maxSubscribableSlots.toNat

namespace SubscriptionOk

variable {limits : EventSubscriptionControl} {word : BitVec 32} {subs : ι → Option Nat}
  {log : ι} {slotCount : BitVec 16}

omit [DecidableEq ι] in
theorem subscribers_eq (ok : SubscriptionOk limits word subs) :
    (getSubscribersFromState word).toNat = bookedCount subs := by
  have packed := ok.packed
  have representable := ok.representable
  have bound : bookedCount subs < 2 ^ 8 := lt_of_le_of_lt ok.subscribers limits.maxSubscribers.isLt
  rw [toNat_getSubscribersFromState]
  omega

omit [DecidableEq ι] in
theorem samples_eq (ok : SubscriptionOk limits word subs) :
    (getSubscribedSamplesFromState word).toNat = sampleSum subs := by
  have packed := ok.packed
  have representable := ok.representable
  rw [toNat_getSubscribedSamplesFromState]
  omega

variable (ok : SubscriptionOk limits word subs)
include ok

theorem subscribe (free : subs log = none)
    (room : getSubscribersFromState word < limits.maxSubscribers)
    (representable : (getSubscribedSamplesFromState word).toNat + slotCount.toNat < 2 ^ 16)
    (samples : limits.enforceMaxSamples = true →
      (getSubscribedSamplesFromState word).toNat + slotCount.toNat ≤
        limits.maxSubscribableSlots.toNat) :
    let next := createState (getSubscribersFromState word + 1#8)
      (getSubscribedSamplesFromState word + slotCount)
    subscriptionBooked word next = some slotCount.toNat ∧
      SubscriptionOk limits next (update subs log (some slotCount.toNat)) := by
  have subscribersEq := ok.subscribers_eq
  have samplesEq := ok.samples_eq
  have maxBound := limits.maxSubscribers.isLt
  have countInsert := bookedCount_insert slotCount.toNat free
  have sumInsert := sampleSum_insert slotCount.toNat free
  have roomNat := BitVec.lt_def.mp room
  have nextSubscribers : (getSubscribersFromState word + 1#8).toNat = bookedCount subs + 1 := by
    rw [BitVec.toNat_add, BitVec.toNat_ofNat]
    omega
  have nextSamples : (getSubscribedSamplesFromState word + slotCount).toNat =
        sampleSum subs + slotCount.toNat := by
    rw [BitVec.toNat_add]
    omega
  refine (and_iff_right_of_imp fun next => ?_).mpr ⟨?_, by omega, by omega, fun enforced => ?_⟩
  · rw [subscriptionBooked, next.subscribers_eq, next.samples_eq, if_pos (by omega), samplesEq,
      sumInsert, Nat.add_sub_cancel_left]
  · rw [toNat_createState, nextSubscribers, nextSamples, countInsert, sumInsert]
  · have limited := samples enforced
    omega

theorem unsubscribe_possible {count} (held : subs log = some count) :
    0 < (getSubscribersFromState word).toNat ∧
      count ≤ (getSubscribedSamplesFromState word).toNat := by
  have countErase := bookedCount_erase held
  have sumErase := sampleSum_erase held
  rw [ok.subscribers_eq, ok.samples_eq]
  omega

theorem unsubscribe (held : subs log = some slotCount.toNat) :
    let next := createState (getSubscribersFromState word - 1#8)
      (getSubscribedSamplesFromState word - slotCount)
    subscriptionBooked word next = none ∧ SubscriptionOk limits next (update subs log none) := by
  obtain ⟨positive, enough⟩ := ok.unsubscribe_possible held
  have subscribersEq := ok.subscribers_eq
  have samplesEq := ok.samples_eq
  have subscribersLimit := ok.subscribers
  have representable := ok.representable
  have countErase := bookedCount_erase held
  have sumErase := sampleSum_erase held
  have subscribersBound := (getSubscribersFromState word).isLt
  have nextSubscribers : (getSubscribersFromState word - 1#8).toNat = bookedCount subs - 1 := by
    rw [BitVec.toNat_sub, BitVec.toNat_ofNat]
    omega
  have nextSamples : (getSubscribedSamplesFromState word - slotCount).toNat =
        sampleSum subs - slotCount.toNat := by
    rw [BitVec.toNat_sub]
    omega
  refine (and_iff_right_of_imp fun next => ?_).mpr ⟨?_, by omega, by omega, fun enforced => ?_⟩
  · rw [subscriptionBooked, next.subscribers_eq, if_neg]
    omega
  · rw [toNat_createState, nextSubscribers, nextSamples, ← countErase,
      ← sumErase, Nat.add_sub_cancel, Nat.add_sub_cancel]
  · have limited := ok.samples enforced
    omega

end SubscriptionOk

/-! ## The account of a transaction log -/

/-- Everything in the state that belongs to one transaction log. -/
structure Account where
  transactions : LogEntry → TransactionLogSlot
  maxSampleCount : Option Nat
  references : SlotIndex → Option EventTimeStamp
  subscription : Option Nat

namespace Account

section

variable (account : Account)

def setTransactionBegin (entry : LogEntry) (value : Bool) : Account :=
  { account with
    transactions :=
      Function.update account.transactions entry
        { account.transactions entry with transactionBegin := value } }

def setTransactionEnd (entry : LogEntry) (value : Bool) : Account :=
  { account with
    transactions :=
      Function.update account.transactions entry
        { account.transactions entry with transactionEnd := value } }

def setMaxSampleCount (value : Option Nat) : Account := { account with maxSampleCount := value }

def setReference (slot : SlotIndex) (value : Option EventTimeStamp) : Account :=
  { account with references := Function.update account.references slot value }

def setSubscription (value : Option Nat) : Account := { account with subscription := value }

end

/-- Flags that agree tell what is booked. -/
structure Ok (account : Account) : Prop where
  referenceRecorded : ∀ slot, account.transactions (.reference slot) = .recorded →
      (account.references slot).isSome
  referenceEmpty : ∀ slot, account.transactions (.reference slot) = .empty →
      account.references slot = none
  subscribeRecorded : account.transactions .subscribe = .recorded →
    ∃ count, account.maxSampleCount = some count ∧ account.subscription = some (count % 2 ^ 16)
  subscribeEmpty : account.transactions .subscribe = .empty → account.subscription = none

end Account

def Shared.account (state : Shared ι) (quality : QualityType) (log : ι) : Account where
  transactions := state.transactions quality log
  maxSampleCount := state.subscriptionMaxSampleCount quality log
  references := state.references quality log
  subscription := state.subscriptions quality log

structure SectionOk (limits : EventSubscriptionControl) (state : Shared ι)
    (quality : QualityType) : Prop where
  slot : ∀ slot, SlotOk (state.stateSlots quality slot)
    (fun log => state.references quality log slot)
    (state.allocated quality slot)
  account : ∀ log, (state.account quality log).Ok
  subscription : SubscriptionOk limits (state.currentSubscriptionState quality)
    (state.subscriptions quality)

omit [DecidableEq ι] in
theorem sectionOk_empty (limits : EventSubscriptionControl) (q : QualityType) :
    SectionOk limits (empty : Shared ι) q := by
  have unreferenced : bookedCount (fun _ : ι => (none : Option EventTimeStamp)) = 0 :=
    bookedCount_eq_zero_iff.mpr fun _ => rfl
  have unsubscribed : bookedCount (fun _ : ι => (none : Option Nat)) = 0 :=
    bookedCount_eq_zero_iff.mpr fun _ => rfl
  have noSamples : sampleSum (fun _ : ι => none) = 0 := by
    simp [sampleSum]
  refine ⟨fun _ => ⟨fun _ _ => rfl, fun _ => ?_, ?_, ?_⟩,
    fun _ => ⟨?_, fun _ _ => rfl, ?_, fun _ => rfl⟩, ⟨?_, ?_, ?_, fun _ => ?_⟩⟩
  · rw [toNat_getReferenceCount]
    exact unreferenced.symm
  · nofun
  · nofun
  · nofun
  · nofun
  · simp only [empty, unsubscribed, noSamples]
    rfl
  · simp only [empty, unsubscribed]
    omega
  · simp only [empty, noSamples]
    omega
  · simp only [empty, noSamples]
    omega

/-! ## The steps of a consumer -/

/-- What a consumer leaves alone: the contents of all slots, the other
section, the accounts of the other logs and what the provider has booked. -/
structure ConsumerStep (quality : QualityType) (log : ι) (before after : Shared ι) : Prop where
  content : ∀ other slot, (after.stateSlots other slot).content =
    (before.stateSlots other slot).content
  otherSlots : ∀ other, other ≠ quality → after.stateSlots other = before.stateSlots other
  otherState : ∀ other, other ≠ quality → after.currentSubscriptionState other =
      before.currentSubscriptionState other
  otherAccount : ∀ other log', ¬ (other = quality ∧ log' = log) →
    after.account other log' = before.account other log'
  allocated : after.allocated = before.allocated
  claimed : after.claimed = before.claimed
  failedClaim : after.failedClaim = before.failedClaim
  transactionLogId : after.transactionLogId = before.transactionLogId
  needsRollback : after.needsRollback = before.needsRollback

omit [Fintype ι] [DecidableEq ι] in
theorem ConsumerStep.refl (q : QualityType) (log : ι) (s : Shared ι) : ConsumerStep q log s s :=
  ⟨fun _ _ => rfl, fun _ _ => rfl, fun _ _ => rfl, fun _ _ _ => rfl, rfl, rfl, rfl, rfl, rfl⟩

namespace SectionOk

variable {limits : EventSubscriptionControl} {s : Shared ι} {q : QualityType} {s' : Shared ι}

theorem ofStep {log : ι} (ok : SectionOk limits s q) (step : ConsumerStep q log s s')
    (i : ∀ i, SlotOk (s'.stateSlots q i) (fun log => s'.references q log i) (s'.allocated q i))
    (own : (s'.account q log).Ok)
    (sub : SubscriptionOk limits (s'.currentSubscriptionState q) (s'.subscriptions q)) :
    ConsumerStep q log s s' ∧ SectionOk limits s' q := by
  refine ⟨step, i, fun log' => ?_, sub⟩
  by_cases same : log' = log
  · rw [same]
    exact own
  · rw [step.otherAccount q log' fun both => same both.2]
    exact ok.account log'

theorem setFlags (ok : SectionOk limits state quality) (log : ι)
    (e : LogEntry) (flags : TransactionLogSlot)
    (own : Account.Ok { state.account quality log with
        transactions := update (state.transactions quality log) e flags }) :
    let s' := { state with transactions := put3 state.transactions quality log e flags }
    ConsumerStep quality log state s' ∧ SectionOk limits s' quality := by
  refine ok.ofStep ⟨fun _ _ => rfl, fun _ _ => rfl, fun _ _ => rfl, ?_, rfl, rfl, rfl, rfl, rfl⟩
    ok.slot ?_ ok.subscription
  · intro o log' different
    simp only [Shared.account, put3_row_of_ne _ e flags different]
  · simpa only [Shared.account, put3_row] using own

theorem setMaxSampleCount (ok : SectionOk limits state quality) (log : ι) (value : Option Nat)
    (own : ((state.account quality log).setMaxSampleCount value).Ok) :
    let s' := { state with
      subscriptionMaxSampleCount := put2 state.subscriptionMaxSampleCount quality log value }
    ConsumerStep quality log state s' ∧ SectionOk limits s' quality := by
  refine ok.ofStep ⟨fun _ _ => rfl, fun _ _ => rfl, fun _ _ => rfl, ?_, rfl, rfl, rfl, rfl, rfl⟩
    ok.slot ?_ ok.subscription
  · intro o log' different
    simp only [Shared.account, put2_of_ne _ value different]
  · simpa only [Shared.account, put2_row, update_self, Account.setMaxSampleCount] using own

theorem setReference (ok : SectionOk limits state quality) (log : ι)
    (i : SlotIndex) (word : EventSlotStatus) (reference : Option EventTimeStamp)
    (content : word.content = (state.stateSlots quality i).content)
    (slotOk : SlotOk word (update (fun log' => state.references quality log' i) log
        reference) (state.allocated quality i))
    (own : ((state.account quality log).setReference i reference).Ok) :
    let s' := { state with
      stateSlots := put2 state.stateSlots quality i word
      references := put3 state.references quality log i reference }
    ConsumerStep quality log state s' ∧ SectionOk limits s' quality := by
  refine ok.ofStep ?_ (fun slot' => ?_) ?_ ok.subscription
  · refine ⟨?_, ?_, fun _ _ => rfl, ?_, rfl, rfl, rfl, rfl, rfl⟩
    · intro o slot'
      by_cases same : o = quality ∧ slot' = i
      · obtain ⟨rfl, rfl⟩ := same
        simpa only [put2_row, update_self] using content
      · simp only [put2_of_ne _ word same]
    · intro o different
      simp only [put2_row_of_ne _ i word different]
    · intro o log' different
      simp only [Shared.account, put3_row_of_ne _ i reference different]
  · by_cases same : slot' = i
    · subst slot'
      simpa only [put2_row, update_self, put3_layer] using slotOk
    · simpa only [put2_row, update_of_ne same,
        put3_layer_of_ne _ quality log reference same] using ok.slot slot'
  · simpa only [Shared.account, put3_row, Account.setReference] using own

theorem setSubscription (ok : SectionOk limits state quality) (log : ι)
    (word : BitVec 32) (sub : Option Nat)
    (subscriptionOk : SubscriptionOk limits word (update (state.subscriptions quality) log sub))
    (own : ((state.account quality log).setSubscription sub).Ok) :
    let s' := { state with
      currentSubscriptionState := update state.currentSubscriptionState quality word
      subscriptions := put2 state.subscriptions quality log sub }
    ConsumerStep quality log state s' ∧ SectionOk limits s' quality := by
  refine ok.ofStep ⟨fun _ _ => rfl, fun _ _ => rfl, ?_, ?_, rfl, rfl, rfl, rfl, rfl⟩ ok.slot ?_ ?_
  · intro o different
    simp only [update_of_ne different]
  · intro o log' different
    simp only [Shared.account, put2_of_ne _ sub different]
  · simpa only [Shared.account, put2_row, update_self, Account.setSubscription] using own
  · simpa only [put2_row, update_self] using subscriptionOk

omit [DecidableEq ι] in
theorem setSlot (ok : SectionOk limits s q) (i : SlotIndex) {word marked}
    (slots : s'.stateSlots q = update (s.stateSlots q) i word)
    (allocated : s'.allocated q = update (s.allocated q) i marked)
    (subscriptionState : s'.currentSubscriptionState q = s.currentSubscriptionState q)
    (accounts : ∀ log, s'.account q log = s.account q log)
    (slotOk : SlotOk word (fun log => s.references q log i) marked) :
    SectionOk limits s' q := by
  have references : ∀ log, s'.references q log = s.references q log :=
    fun log => congrArg Account.references (accounts log)
  have subs : s'.subscriptions q = s.subscriptions q :=
    funext fun log => congrArg Account.subscription (accounts log)
  refine ⟨fun slot' => ?_, fun log => ?_, ?_⟩
  · simp only [slots, allocated, references]
    by_cases same : slot' = i
    · subst slot'
      simpa only [update_self] using slotOk
    · simpa only [update_of_ne same] using ok.slot slot'
  · rw [accounts log]
    exact ok.account log
  · rw [subscriptionState, subs]
    exact ok.subscription

omit [DecidableEq ι] in
theorem congr (ok : SectionOk limits s q) (slots : s'.stateSlots q = s.stateSlots q)
    (allocated : s'.allocated q = s.allocated q)
    (subscriptionState : s'.currentSubscriptionState q = s.currentSubscriptionState q)
    (accounts : ∀ log, s'.account q log = s.account q log) :
    SectionOk limits s' q :=
  ok.setSlot 0 (slots.trans (update_eq_self 0 _).symm)
    (allocated.trans (update_eq_self 0 _).symm) subscriptionState
    accounts (ok.slot 0)

end SectionOk

end ScoreIntegration.Lola
