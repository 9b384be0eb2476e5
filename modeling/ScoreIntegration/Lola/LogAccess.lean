import ScoreIntegration.Concurrency.Footprint
import ScoreIntegration.Lola.ControlInvariant

/-!
# Exclusive access to a transaction log

While a thread holds its log nobody else changes the log's account, and every step that
keeps to the account is allowed.  The operations of a consumer are verified against this
interface.
-/

namespace ScoreIntegration.Lola

open Concurrency ControlOp Function Shared Account ConsumerStep

variable {ι Thread : Type} [Fintype ι] [DecidableEq ι]
  {admissible : ControlOp ι → Shared ι → Shared ι → Prop}

structure LogAccess (rules : Rules (controlMachine ι admissible) Thread)
    (limits : EventSubscriptionControl) (thread : Thread)
    (quality : QualityType) (log : ι) where
  held : Shared ι → Prop
  sectionOk : ∀ {state}, rules.invariant state → held state → SectionOk limits state quality
  few : ∀ {op before after}, admissible op before after →
    ∀ slot, after.referenceCount quality slot < 2 ^ 32 - 1
  stable : ∀ {before after}, rules.rely thread before after → rules.invariant after → held before →
      held after ∧ after.account quality log = before.account quality log
  step : ∀ {op before after}, rules.invariant before → held before →
    admissible op before after → ConsumerStep quality log before after →
      SectionOk limits after quality →
        rules.invariant after ∧ rules.guarantee thread before after ∧ held after

namespace LogAccess

variable {rules : Rules (controlMachine ι admissible) Thread} {limits : EventSubscriptionControl}
  {thread : Thread} {quality : QualityType} {log : ι} {acc : Account} {fail : Failure → Prop}
  {α : Type} {access : LogAccess rules limits thread quality log} {op : ControlOp ι}
  {i : SlotIndex} {word : BitVec 32} {slotCount : BitVec 16}

def footprint (access : LogAccess rules limits thread quality log) :
    Footprint rules thread Account where
  view state := state.account quality log
  held := access.held
  wellFormed := Account.Ok
  stable := access.stable
  sound holds held := (access.sectionOk holds held).account log

abbrev Runs (access : LogAccess rules limits thread quality log)
    (account : Account) (program : Control ι α) (post : α → Account → Prop)
    (fail : Failure → Prop) : Prop :=
  access.footprint.Runs account program post fail

/-! ## Rules for the operations of a consumer -/

theorem runs_atomic {post : op.Answer → Account → Prop} (step : ∀ (s : Shared ι) (fault : Bool),
      SectionOk limits s quality → s.account quality log = acc →
      (∀ i, (op.exec fault s).2.referenceCount quality i < 2 ^ 32 - 1) →
      ConsumerStep quality log s (op.exec fault s).2 ∧
      SectionOk limits (op.exec fault s).2 quality ∧
      post (op.exec fault s).1 ((op.exec fault s).2.account quality log)) :
    access.Runs acc (atomically op) post fail := by
  apply Footprint.Runs.atomic
  intro s fault holds held own admissibleAfter
  obtain ⟨consumerStep, sectionAfter, reached⟩ :=
    step s fault (access.sectionOk holds held) own (access.few admissibleAfter)
  obtain ⟨kept, guaranteed, heldAfter⟩ :=
    access.step holds held admissibleAfter consumerStep sectionAfter
  exact ⟨kept, guaranteed, heldAfter, reached⟩

theorem runs_read {answered : op.Answer → Prop}
    (reads : ∀ (s : Shared ι) (fault : Bool), (op.exec fault s).2 = s)
    (answers : ∀ (s : Shared ι) (fault : Bool),
      SectionOk limits s quality → s.account quality log = acc → answered (op.exec fault s).1) :
    access.Runs acc (atomically op) (fun ans cur => cur = acc ∧ answered ans) fail := by
  apply runs_atomic
  intro s fault ok own _
  rw [reads s fault]
  exact ⟨refl quality log s, ok, own, answers s fault ok own⟩

theorem runs_getTransactionBegin (e : LogEntry) :
    access.Runs acc (atomically (.getTransactionBegin quality log e))
      (fun value cur => cur = acc ∧ (acc.transactions e).transactionBegin = value) fail := by
  apply runs_read (fun _ _ => rfl)
  intro s _ _ own
  rw [← own]
  rfl

theorem runs_getTransactionEnd (e : LogEntry) :
    access.Runs acc (atomically (.getTransactionEnd quality log e))
      (fun value cur => cur = acc ∧ (acc.transactions e).transactionEnd = value) fail := by
  apply runs_read (fun _ _ => rfl)
  intro s _ _ own
  rw [← own]
  rfl

theorem runs_getMaxSampleCount : access.Runs acc (atomically (.getMaxSampleCount quality log))
      (fun value cur => cur = acc ∧ acc.maxSampleCount = value) fail := by
  apply runs_read (fun _ _ => rfl)
  intro s _ _ own
  rw [← own]
  rfl

theorem runs_setTransactionBegin {e value target} (write : acc.setTransactionBegin e value = target)
    (allowed : acc.Ok → target.Ok) :
    access.Runs acc (atomically (.setTransactionBegin quality log e value))
      (fun _ cur => cur = target) fail := by
  apply runs_atomic
  intro s _ ok own _
  subst own write
  obtain ⟨step, s'⟩ := ok.setFlags log e
    { s.transactions quality log e with transactionBegin := value }
    (allowed (ok.account log))
  refine ⟨step, s', ?_⟩
  simp only [exec, account, put3_row, Account.setTransactionBegin]

theorem runs_setTransactionEnd {e value target} (write : acc.setTransactionEnd e value = target)
    (allowed : acc.Ok → target.Ok) :
    access.Runs acc (atomically (.setTransactionEnd quality log e value))
      (fun _ cur => cur = target) fail := by
  apply runs_atomic
  intro s _ ok own _
  subst own write
  obtain ⟨step, s'⟩ := ok.setFlags log e
    { s.transactions quality log e with transactionEnd := value }
    (allowed (ok.account log))
  refine ⟨step, s', ?_⟩
  simp only [exec, account, put3_row, Account.setTransactionEnd]

theorem runs_setMaxSampleCount (value : Option Nat)
    (allowed : acc.Ok → (acc.setMaxSampleCount value).Ok) :
    access.Runs acc (atomically (.setMaxSampleCount quality log value))
      (fun _ cur => cur = acc.setMaxSampleCount value) fail := by
  apply runs_atomic
  intro s _ ok own _
  subst own
  obtain ⟨step, s'⟩ := ok.setMaxSampleCount log value (allowed (ok.account log))
  refine ⟨step, s', ?_⟩
  simp only [exec, account, put2_row, update_self, Account.setMaxSampleCount]

theorem runs_loadSlot (i : SlotIndex) : access.Runs acc (atomically (.loadSlot quality i))
      (fun word cur => cur = acc ∧ ∀ ts, acc.references i = some ts →
          word.getTimeStamp = ts) fail := by
  apply runs_read (fun _ _ => rfl)
  intro s _ ok own ts held
  subst own
  exact ((ok.slot i).stamped log ts held).1

theorem runs_compareExchangeWeakSlot {word} (stamp : word.getTimeStamp ≠ 0#32)
    (free : acc.references i = none)
    (allowed : acc.Ok → (acc.setReference i (some word.getTimeStamp)).Ok) :
    access.Runs acc (atomically (.compareExchangeWeakSlot quality log i word ⟨word.data + 1#64⟩))
      (fun exchanged cur => cur =
        if exchanged then
          acc.setReference i (some word.getTimeStamp)
        else acc) fail := by
  apply runs_atomic
  intro s fault ok own few
  subst own
  by_cases succeeds : fault = false ∧ s.stateSlots quality i = word
  · have slotFew := few i
    simp only [exec, if_pos succeeds, referenceCount, put3_layer] at slotFew ⊢
    have wordOk := ok.slot i
    rw [succeeds.2] at wordOk
    obtain ⟨nextOk, sameContent⟩ := wordOk.reference free stamp slotFew
    rw [← succeeds.2] at sameContent
    obtain ⟨step, s'⟩ := ok.setReference log i ⟨word.data + 1#64⟩
      (some word.getTimeStamp) (by rw [← succeeds.2, sameContent]) nextOk
      (allowed (ok.account log))
    refine ⟨step, s', ?_⟩
    simp only [account, put3_row, setReference, if_true]
  · simp only [exec, if_neg succeeds]
    exact ⟨refl quality log s, ok, rfl⟩

theorem runs_fetchSubSlot (booked : (acc.references i).isSome)
    (allowed : acc.Ok → (acc.setReference i none).Ok) :
    access.Runs acc (atomically (.fetchSubSlot quality log i 1#64))
      (fun _ cur => cur = acc.setReference i none) fail := by
  apply runs_atomic
  intro s _ ok own _
  subst own
  obtain ⟨ts, held⟩ := Option.isSome_iff_exists.mp booked
  obtain ⟨nextOk, nextContent⟩ := (ok.slot i).dereference held
  obtain ⟨step, s'⟩ := ok.setReference log i
    ⟨(s.stateSlots quality i).data - 1#64⟩ none nextContent nextOk
    (allowed (ok.account log))
  refine ⟨step, s', ?_⟩
  simp only [exec, account, put3_row, setReference]

theorem runs_loadSubscriptionState : access.Runs acc (atomically (.loadSubscriptionState quality))
      (fun word cur => cur = acc ∧ (∀ count, acc.subscription = some count →
          0 < (getSubscribersFromState word).toNat ∧
            count ≤ (getSubscribedSamplesFromState word).toNat) ∧
        (acc.subscription = none →
          (getSubscribersFromState word).toNat < Fintype.card ι)) fail := by
  apply runs_read (fun _ _ => rfl)
  intro s fault ok own
  subst own
  constructor
  · intro count held
    exact ok.subscription.unsubscribe_possible held
  · intro free
    have unbooked : s.subscriptions quality log = none := free
    simp only [exec, ok.subscription.subscribers_eq]
    exact bookedCount_lt_card unbooked

theorem runs_exchangeSubscription {desired : BitVec 32} {sub : Option Nat}
    (books : ∀ subs : ι → Option Nat, SubscriptionOk limits word subs →
      subs log = acc.subscription → subscriptionBooked word desired = sub ∧
        SubscriptionOk limits desired (update subs log sub))
    (allowed : acc.Ok → (acc.setSubscription sub).Ok) :
    access.Runs acc (atomically (.compareExchangeWeakSubscriptionState quality log word desired))
      (fun exchanged cur => cur = if exchanged then acc.setSubscription sub else acc) fail := by
  apply runs_atomic
  intro s fault ok own _
  subst own
  by_cases succeeds : fault = false ∧ s.currentSubscriptionState quality = word
  · obtain ⟨booked, nextOk⟩ := books _ (succeeds.2 ▸ ok.subscription) rfl
    obtain ⟨step, s'⟩ := ok.setSubscription log _ _ nextOk (allowed (ok.account log))
    simp only [exec, if_pos succeeds, booked]
    refine ⟨step, s', ?_⟩
    simp only [account, put2_row, update_self, setSubscription, if_true]
  · simp only [exec, if_neg succeeds]
    exact ⟨refl quality log s, ok, rfl⟩

end LogAccess

end ScoreIntegration.Lola
