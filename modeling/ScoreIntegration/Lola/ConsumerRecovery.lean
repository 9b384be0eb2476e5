import ScoreIntegration.Lola.SectionSystem
import ScoreIntegration.Lola.SubscriptionAccount

/-!
# Recovery of a stopped consumer

A consumer may stop between any two of its atomic steps, and its transaction log is
then rolled back while the others go on.  A reference or a subscription is recorded if
both flags of its entry are set; if they differ, the log does not tell whether the word
in between was changed.
-/

namespace ScoreIntegration.Lola

open Concurrency List Function EventSubscriptionControl
open Concurrency.Footprint

/-- The transaction logs of an event: `EventControl` creates one for each
subscriber that is configured. -/
abbrev EventSubscriptionControl.LogIndex (limits : EventSubscriptionControl) : Type :=
  Fin limits.maxSubscribers.toNat

/-- What a participant has after a call: a subscription with so many samples
and some slots, or the result of a rollback. -/
inductive RecoveryLocal where
  | running (maxSampleCount : Option Nat) (owned : List SlotIndex)
  | rolledBack (result : Except ComErrc Unit)

/-- What a participant does next.  A rollback may begin wherever the process
that used the log has stopped; a log that was rolled back is used again. -/
inductive RecoveryLaunch (limits : EventSubscriptionControl)
    (quality : QualityType) (slots : Nat) :
    Participant limits.LogIndex → Control limits.LogIndex RecoveryLocal →
      Control limits.LogIndex RecoveryLocal → Prop
  | sectionCall {thread : Participant limits.LogIndex}
      (maxSampleCount : Option Nat) {owned : List SlotIndex}
      {program : Control limits.LogIndex (List SlotIndex)} :
      SectionCall quality slots thread owned program →
      RecoveryLaunch limits quality slots thread (.done (.running maxSampleCount owned)) (do
          let owned' ← program
          pure (.running maxSampleCount owned'))
  | subscribe (log : limits.LogIndex) (owned : List SlotIndex) (maxSampleCount : Nat) :
      RecoveryLaunch limits quality slots (.consumer quality log) (.done (.running none owned)) (do
          let result ← limits.subscribeTransaction ⟨quality, log, slots⟩ maxSampleCount
          pure (.running (if result = .kSuccess then some maxSampleCount else none) owned))
  | unsubscribe (log : limits.LogIndex) (owned : List SlotIndex) (maxSampleCount : Nat) :
      RecoveryLaunch limits quality slots (.consumer quality log)
        (.done (.running (some maxSampleCount) owned)) (do
          limits.unsubscribeTransaction ⟨quality, log, slots⟩ maxSampleCount
          pure (.running none owned))
  | rollback (log : limits.LogIndex) (stopped : Control limits.LogIndex RecoveryLocal) :
      RecoveryLaunch limits quality slots (.consumer quality log) stopped (do
        let result ← TransactionLogLocalView.rollback ⟨quality, log, slots⟩ limits
        pure (.rolledBack result))
  | reuse (log : limits.LogIndex) : RecoveryLaunch limits quality slots (.consumer quality log)
        (.done (.rolledBack (.ok ()))) (.done (.running none []))

def recoverySetting (limits : EventSubscriptionControl) : Setting limits.LogIndex where
  limits := limits
  trusted _ := true
  strict := False
  ordered := False
  admissible _ _ _ := True

def recoverySystem (limits : EventSubscriptionControl) (quality : QualityType) (slots : Nat) :
    System (controlMachine limits.LogIndex (recoverySetting limits).admissible)
      Failure RecoveryLocal (Participant limits.LogIndex) where
  initial config := config.shared = Shared.empty ∧
    ∀ thread, config.threads thread = .done (.running none [])
  launch thread current _ program := RecoveryLaunch limits quality slots thread current program

namespace RecoverySystem

variable {limits : EventSubscriptionControl} {quality : QualityType} {slots : Nat}
  {s : Shared limits.LogIndex} {log : limits.LogIndex}

/-! ## Every program is safe -/

/-- Every consumer has its log to itself; there are not enough logs for a
reference counter to run over. -/
def access (limits : EventSubscriptionControl) (quality : QualityType) (log : limits.LogIndex) :
    LogAccess (recoverySetting limits).rules limits (.consumer quality log) quality log :=
  (recoverySetting limits).consumerAccess (fun _ _ after _ => after.fewReferences_of_card (by
      have bound := limits.maxSubscribers.isLt
      rw [Fintype.card_fin]
      omega)) rfl log

def Fits (slots : Nat) (account : Account) : RecoveryLocal → Prop
  | .running maxSampleCount owned =>
    account.Holds owned ∧ ∀ count, maxSampleCount = some count → account.maxSampleCount = some count
  | .rolledBack (.ok _) => account.NoTransactions slots
  | .rolledBack (.error _) => ∃ entry, account.InDoubt entry

def Writes (quality : QualityType) (slots : Nat) (book : Book) : RecoveryLocal → Prop
  | .running _ owned => book.Writes quality slots owned
  | .rolledBack _ => True

def post (limits : EventSubscriptionControl) (quality : QualityType)
    (slots : Nat) (thread : Participant limits.LogIndex)
    (result : RecoveryLocal) : Shared limits.LogIndex → Prop :=
  match thread with
  | .provider =>
    (recoverySetting limits).providerFootprint.Owns fun book => Writes quality slots book result
  | .consumer quality' log =>
    (access limits quality' log).footprint.Owns fun account => Fits slots account result
  | .adversary => fun _ => True

theorem consumer_safe {prog} (holds : (recoverySetting limits).rules.invariant s)
    (runs : (access limits quality log).Runs (s.account quality log)
      prog (fun res acc => Fits slots acc res)
      fun _ => True) :
    (recoverySetting limits).rules.Safe (.consumer quality log)
      (post limits quality slots (.consumer quality log)) (fun _ _ => True)
      prog s :=
  runs.safe holds trivial

theorem sectionCall_safe {t cap owned prog} (call : SectionCall quality slots t owned prog)
    (holds : (recoverySetting limits).rules.invariant s)
    (idle : post limits quality slots t (.running cap owned) s) :
    (recoverySetting limits).rules.Safe t
      (post limits quality slots t) (fun _ _ => True) (do
        let owned' ← prog
        pure (.running cap owned')) s := by
  cases t with
  | provider =>
    have runs : (recoverySetting limits).Runs (s.book (recoverySetting limits).trusted) (do
          let owned' ← prog
          pure (.running cap owned'))
        (fun res b => Writes quality slots b res) fun _ => True :=
      (call.provider_runs rfl False.elim False.elim idle.2).bind
        fun owned' b writes => Runs.done writes
    exact runs.safe holds trivial
  | consumer quality' log =>
    have same : quality' = quality := by
      cases call <;> rfl
    subst same
    refine consumer_safe holds (Runs.bind (call.consumer_runs (fun _ _ => trivial) idle.2.1)
      fun owned' acc reached => Runs.done ?_)
    exact ⟨reached.1, fun count same => reached.2.trans (idle.2.2 count same)⟩
  | adversary => cases call

theorem launchesSafe : System.LaunchesSafe (recoverySetting limits).rules
      (recoverySystem limits quality slots) (post limits quality slots)
      (fun _ _ _ => True) := by
  intro t cur s prog launched holds safe
  have lenient : ∀ err : Failure, err.OfConsumer → True := fun _ _ => trivial
  have still := (recoverySetting limits).rules.rely_refl t s
  cases launched with
  | sectionCall cap call => exact sectionCall_safe call holds (safe s still holds)
  | subscribe log owned cap =>
    obtain ⟨-, held, -⟩ := safe s still holds
    refine consumer_safe holds (Runs.bind
      (runs_subscribeTransaction lenient
        ⟨quality, log, slots⟩ (le_of_eq (Fintype.card_fin _)) cap)
      fun res acc subscribed => Runs.done ?_)
    by_cases success : res = .kSuccess
    · rw [if_pos success] at subscribed ⊢
      subst subscribed
      exact ⟨held, fun count same => same⟩
    · rw [if_neg success] at subscribed ⊢
      subst subscribed
      exact ⟨held, fun count same => by cases same⟩
  | unsubscribe log owned cap =>
    obtain ⟨-, held, counted⟩ := safe s still holds
    refine consumer_safe holds (Runs.bind
      (runs_unsubscribeTransaction lenient
        ⟨quality, log, slots⟩ (counted cap rfl))
      fun _ acc unsubscribed => Runs.done ?_)
    subst unsubscribed
    exact ⟨held, fun count same => by cases same⟩
  | rollback log stopped =>
    refine consumer_safe holds (Runs.bind
      (TransactionLogLocalView.runs_rollback lenient ⟨quality, log, slots⟩)
      fun res acc rolledBack => Runs.done ?_)
    cases res with
    | ok done => exact rolledBack.noTransactions
    | error error =>
      obtain ⟨-, -, e, -, doubt⟩ := rolledBack
      exact ⟨e, doubt⟩
  | reuse log =>
    refine consumer_safe holds (Runs.done ?_)
    exact ⟨⟨nodup_nil, by simp⟩, fun count same => by cases same⟩

/-! ## Reachable states -/

theorem sound {cfg} (reach : (recoverySystem limits quality slots).Reachable cfg) :
    System.Sound (recoverySetting limits).rules (post limits quality slots)
      (fun _ _ _ => True) cfg := by
  refine System.Reachable.sound ?_ launchesSafe reach
  rintro cfg ⟨empty, idle⟩
  refine ⟨?_, fun t => ?_⟩
  · rw [empty]
    exact ⟨fun quality _ => sectionOk_empty _ quality, False.elim, False.elim⟩
  · rw [idle t]
    intro later _ _
    have nothing : ∀ i : SlotIndex, i ∉ [] := fun _ => not_mem_nil
    cases t with
    | provider => exact ⟨trivial, nodup_nil, fun i mem => absurd mem (nothing i)⟩
    | consumer quality log =>
      exact ⟨trivial, ⟨nodup_nil, fun i mem =>
        absurd mem (nothing i)⟩, fun count same => by cases same⟩
    | adversary => trivial

/-- Nothing of the log is left in the section: the counters are those of the
other logs.  A slot that is being written has no counter and no reference. -/
structure Released (state : Shared limits.LogIndex) (quality : QualityType)
    (slots : Nat) (log : limits.LogIndex) : Prop where
  writing : ∀ slot, state.stateSlots quality slot = .inWriting →
    ∀ other, state.references quality other slot = none
  references : ∀ slot < slots, state.stateSlots quality slot ≠ .inWriting →
    (state.stateSlots quality slot).getReferenceCount.toNat =
      bookedCount (Function.update (fun other => state.references quality other slot) log none)
  subscribers : (getSubscribersFromState (state.currentSubscriptionState quality)).toNat =
      bookedCount (Function.update (state.subscriptions quality) log none)
  samples : (getSubscribedSamplesFromState (state.currentSubscriptionState quality)).toNat =
      sampleSum (Function.update (state.subscriptions quality) log none)
  noTransactions : (state.account quality log).NoTransactions slots

/-- A rollback has given up at an entry that is in doubt: the counters have
lost no more than the log had added, what is recorded is still held, and what
is still held is recorded or in doubt. -/
structure PartlyReleased (state : Shared limits.LogIndex)
    (quality : QualityType) (log : limits.LogIndex) : Prop where
  writing : ∀ slot, state.stateSlots quality slot = .inWriting →
    ∀ other, state.references quality other slot = none
  references : ∀ slot, state.stateSlots quality slot ≠ .inWriting →
    (state.stateSlots quality slot).getReferenceCount.toNat =
      bookedCount (Function.update (fun other => state.references quality other slot) log none) +
        (if (state.references quality log slot).isSome then 1 else 0)
  recorded : ∀ slot, state.transactions quality log (.reference slot) = .recorded →
      (state.references quality log slot).isSome
  unreleased : ∀ slot, (state.references quality log slot).isSome →
    state.transactions quality log (.reference slot) = .recorded ∨
      (state.account quality log).InDoubt (.reference slot)
  doubt : ∃ entry, (state.account quality log).InDoubt entry

theorem released_of_noTransactions (ok : SectionOk limits s quality)
    (settled : (s.account quality log).NoTransactions slots) :
    Released s quality slots log := by
  have acc := ok.account log
  have unsubscribed : s.subscriptions quality log = none := acc.subscribeEmpty settled.1
  refine ⟨fun i => (ok.slot i).unreferenced, fun i lt quiet => ?_, ?_, ?_, settled⟩
  · have unreferenced : s.references quality log i = none := acc.referenceEmpty i (settled.2 i lt)
    rw [(ok.slot i).counted quiet, ← unreferenced]
    exact congrArg bookedCount (update_eq_self log _).symm
  · rw [ok.subscription.subscribers_eq, ← unsubscribed, update_eq_self]
  · rw [ok.subscription.samples_eq, ← unsubscribed, update_eq_self]

theorem partlyReleased_of_doubt (ok : SectionOk limits s quality)
    (doubt : ∃ e, (s.account quality log).InDoubt e) :
    PartlyReleased s quality log := by
  have acc := ok.account log
  refine ⟨fun i => (ok.slot i).unreferenced, fun i quiet => ?_,
    acc.referenceRecorded, fun i held => ?_, doubt⟩
  · rw [(ok.slot i).counted quiet]
    exact bookedCount_eq_others_add _ log
  · rcases (s.account quality log).recorded_or_empty_or_inDoubt
        (.reference i) with recorded | empty | inDoubt
    · exact Or.inl recorded
    · have free : s.references quality log i = none := acc.referenceEmpty i empty
      rw [free] at held
      cases held
    · exact Or.inr inDoubt

/-- A rollback that has reported success has taken back all that the stopped consumer had added
and nothing else; after an error only entries in doubt hide what is left. -/
theorem reachable_rollback_accounts {config : ControlConfig limits.LogIndex RecoveryLocal}
    (reachable : (recoverySystem limits quality slots).Reachable config)
    (log : limits.LogIndex) {result : Except ComErrc Unit}
    (ended : config.threads (.consumer quality log) = .done (.rolledBack result)) :
    match result with
    | .ok _ => Released config.shared quality slots log
    | .error _ => PartlyReleased config.shared quality log := by
  have system := sound reachable
  have ok := system.1.1 quality rfl
  have fits := (system.post_of_idle ended).2
  cases result with
  | ok done => exact released_of_noTransactions ok fits
  | error error => exact partlyReleased_of_doubt ok fits

/-! ## A process that stops between the flags -/

def oneSubscriber : EventSubscriptionControl := ⟨1#16, 1#8, true⟩

def onlyLog : oneSubscriber.LogIndex := ⟨0, by decide⟩

def idleConfig : ControlConfig oneSubscriber.LogIndex RecoveryLocal :=
  ⟨Shared.empty, fun _ => .done (.running none [])⟩

/-- The provider has published a sample with time stamp 7 and the consumer has
subscribed. -/
def subscribedConfig : ControlConfig oneSubscriber.LogIndex RecoveryLocal :=
  ((idleConfig.call ControlOp.exec .provider (do
      let owned ← (do
        let slot ← ProviderEventDataControlLocalView.allocateNextSlot ⟨.asilQm, 1⟩
        pure (slot.toList ++ []))
      pure (.running none owned)) 2).call ControlOp.exec .provider (do
      let owned ← (do
        ProviderEventDataControlLocalView.eventReady ⟨.asilQm, 1⟩ 0 7#32
        pure ([0].erase 0))
      pure (.running none owned)) 1).call ControlOp.exec
      (.consumer .asilQm onlyLog) (do
      let result ← oneSubscriber.subscribeTransaction ⟨.asilQm, onlyLog, 1⟩ 1
      pure (.running (if result = .kSuccess then some 1 else none) [])) 9

/-- The consumer stops after so many steps of `ReferenceNextEvent`; then so
many steps of the rollback of its log are made. -/
def stoppedConfig (steps rollbackSteps : Nat) :
    ControlConfig oneSubscriber.LogIndex RecoveryLocal :=
  (subscribedConfig.call ControlOp.exec (.consumer .asilQm onlyLog) (do
      let owned ← (do
        let slot ← TransactionLogLocalView.referenceNextEvent ⟨.asilQm, onlyLog, 1⟩ 0#32
            EventSlotStatus.TIMESTAMP_MAX
        pure (slot.toList ++ []))
      pure (.running (some 1) owned)) steps).call ControlOp.exec
    (.consumer .asilQm onlyLog) (do
      let result ← TransactionLogLocalView.rollback ⟨.asilQm, onlyLog, 1⟩ oneSubscriber
      pure (.rolledBack result)) rollbackSteps

theorem reachable_subscribedConfig :
    (recoverySystem oneSubscriber .asilQm 1).Reachable subscribedConfig := by
  have always : ∀ (op : ControlOp oneSubscriber.LogIndex) (pre s' : Shared oneSubscriber.LogIndex),
      (recoverySetting oneSubscriber).admissible op pre s' :=
    fun _ _ _ => trivial
  have first : (recoverySystem oneSubscriber .asilQm 1).Reachable idleConfig :=
    System.Reachable.initial ⟨rfl, fun _ => rfl⟩
  exact ((first.call always (.sectionCall none (.allocateNextSlot [])) rfl
    2).call always (.sectionCall none (.eventReady 7#32 (mem_singleton_self 0))) rfl 1).call always
    (.subscribe onlyLog [] 1) rfl 9

theorem reachable_stoppedConfig (steps rollbackSteps : Nat) :
    (recoverySystem oneSubscriber .asilQm 1).Reachable (stoppedConfig steps rollbackSteps) := by
  have always : ∀ (op : ControlOp oneSubscriber.LogIndex) (pre s' : Shared oneSubscriber.LogIndex),
      (recoverySetting oneSubscriber).admissible op pre s' :=
    fun _ _ _ => trivial
  have stopped := reachable_subscribedConfig.call always
    (.sectionCall (some 1) (.referenceNextEvent onlyLog [] 0#32
      EventSlotStatus.TIMESTAMP_MAX)) rfl steps
  exact (stopped.start _ _ (.rollback onlyLog _)).advanceN always _ rollbackSteps

/-- Right after its compare-exchange a consumer has a reference that its log does not record;
right before, its log has a flag set for none.  The rollback fails alike. -/
theorem stoppedConfig_undecided :
    ((recoverySystem oneSubscriber .asilQm 1).Reachable (stoppedConfig 5 3) ∧
      (stoppedConfig 5 3).threads (.consumer .asilQm onlyLog) =
        .done (.rolledBack (.error .kCouldNotRestartProxy)) ∧
      (stoppedConfig 5 3).shared.references .asilQm onlyLog 0 = some 7#32 ∧
      (stoppedConfig 5 3).shared.transactions .asilQm onlyLog (.reference 0) ≠ .recorded) ∧
    ((recoverySystem oneSubscriber .asilQm 1).Reachable (stoppedConfig 4 3) ∧
      (stoppedConfig 4 3).threads (.consumer .asilQm onlyLog) =
        .done (.rolledBack (.error .kCouldNotRestartProxy)) ∧
      (stoppedConfig 4 3).shared.references .asilQm onlyLog 0 = none ∧
      (stoppedConfig 4 3).shared.transactions .asilQm onlyLog (.reference 0) ≠ .empty) :=
  ⟨⟨reachable_stoppedConfig 5 3, rfl, rfl, by decide +kernel⟩,
    reachable_stoppedConfig 4 3, rfl, rfl, by decide +kernel⟩

/-- Stopped after the whole call it has a recorded reference, which the
rollback takes back. -/
theorem stoppedConfig_accounts : Released (stoppedConfig 8 22).shared .asilQm 1 onlyLog ∧
      PartlyReleased (stoppedConfig 5 3).shared .asilQm onlyLog :=
  ⟨reachable_rollback_accounts (reachable_stoppedConfig 8 22) onlyLog
      (show (stoppedConfig 8 22).threads (.consumer .asilQm onlyLog) =
        .done (.rolledBack (.ok ())) from rfl),
    reachable_rollback_accounts (reachable_stoppedConfig 5 3) onlyLog
      (show (stoppedConfig 5 3).threads (.consumer .asilQm onlyLog) =
        .done (.rolledBack (.error .kCouldNotRestartProxy)) from rfl)⟩

end RecoverySystem

end ScoreIntegration.Lola
