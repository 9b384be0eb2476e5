import ScoreIntegration.Lola.ConsumerAccount

/-!
# Subscriptions and rollback on the account of a log

`Subscribe` and `Unsubscribe` repeat a compare-exchange on a word that all subscribers
share, but the booking of the log changes with the one attempt that succeeds.  A
rollback that reports success leaves nothing booked for the log; one that reports an
error has given up at an entry whose two flags differ.
-/

namespace ScoreIntegration.Lola

open Concurrency TransactionLogSlot Account LogAccess BitVec
open Concurrency.Footprint

namespace Account

variable (account : Account)

def withSubscription (maxSampleCount : Nat) : Account :=
  ((account.setMaxSampleCount (some maxSampleCount)).setSubscription
    (some (maxSampleCount % 2 ^ 16))).setFlags .subscribe .recorded

def withoutSubscription : Account :=
  ((account.setMaxSampleCount none).setSubscription none).setFlags .subscribe .empty

/-- No flag of the log is set; `slots` is the number of its slots. -/
def NoTransactions (slots : Nat) : Prop :=
  account.transactions .subscribe = .empty ∧
    ∀ slot < slots, account.transactions (.reference slot) = .empty

/-- An entry whose flags differ: a process has stopped between them. -/
def InDoubt (entry : LogEntry) : Prop :=
  (account.transactions entry).transactionBegin ≠ (account.transactions entry).transactionEnd

theorem recorded_or_empty_or_inDoubt (e : LogEntry) : account.transactions e = .recorded ∨
      account.transactions e = .empty ∨ account.InDoubt e := by
  unfold InDoubt
  rcases account.transactions e with ⟨_ | _, _ | _⟩ <;> simp [recorded, empty]

end Account

/-- The checks of slots and flags, a rollback of references that no subscription covers, too
many samples, and an `Unsubscribe` whose attempts have all failed. -/
def Failure.OfConsumer : Failure → Prop
  | .arithmeticOverflow => True
  | .unsubscribeRetryLimit => True
  | .referencesWithoutSubscription => True
  | failure => failure.OfReference

variable {ι Thread : Type} [Fintype ι] [DecidableEq ι]
  {admissible : ControlOp ι → Shared ι → Shared ι → Prop}
  {rules : Rules (controlMachine ι admissible) Thread} {limits : EventSubscriptionControl}
  {t : Thread} {acc : Account} {fail : Failure → Prop}

theorem Failure.OfReference.ofConsumer {err : Failure}
    (ofReference : err.OfReference) : err.OfConsumer := by
  cases err <;> first | exact ofReference | trivial

section Subscriptions

variable (lenient : ∀ failure, failure.OfConsumer → fail failure)
include lenient

/-! ## The packed state -/

namespace EventSubscriptionControl

variable {q : QualityType} {log : ι} {access : LogAccess rules limits t q log}

theorem runs_safeAdd (left right : BitVec 16) : access.Runs acc (safeAdd left right)
      (fun total cur => cur = acc ∧
        left.toNat + right.toNat < 2 ^ 16 ∧ total = left + right) fail := by
  unfold safeAdd
  split
  next fits => exact Runs.done ⟨rfl, fits, rfl⟩
  · exact Runs.abort <| lenient .arithmeticOverflow trivial

theorem runs_exceedsMaxSamples (cur added : BitVec 16) :
    access.Runs acc (limits.exceedsMaxSamples cur added)
      (fun exceeds later => later = acc ∧ (exceeds = false → limits.enforceMaxSamples = true →
          cur.toNat + added.toNat ≤ limits.maxSubscribableSlots.toNat))
      fail := by
  unfold exceedsMaxSamples
  split
  · refine (runs_safeAdd lenient cur added).bind_read fun total sum => ?_
    obtain ⟨fits, rfl⟩ := sum
    refine Runs.done ⟨rfl, fun within _ => ?_⟩
    have bound := of_decide_eq_false within
    rw [lt_def, toNat_add, Nat.mod_eq_of_lt fits] at bound
    omega
  next relaxed => exact Runs.done ⟨rfl, fun _ on => absurd on relaxed⟩

/-- An attempt of `Subscribe` books the samples of the log or leaves its
account alone; with a log left for the caller there is a place left as well. -/
theorem runs_subscribeLoop (slotCount : BitVec 16) (free : acc.subscription = none)
    (begun : acc.transactions .subscribe = ⟨true, false⟩) (n : Nat) :
    access.Runs acc (limits.subscribeLoop q log slotCount n) (fun res cur =>
        cur = (if res = .kSuccess then
          acc.setSubscription (some slotCount.toNat) else acc) ∧
        (res = .kMaxSubscribersOverflow → limits.maxSubscribers.toNat < Fintype.card ι)) fail := by
  induction n with
  | zero => exact Runs.done ⟨rfl, (by cases ·)⟩
  | succ n ih =>
    refine runs_loadSubscriptionState.bind_read fun word loaded => ?_
    obtain ⟨-, room⟩ := loaded
    dsimp only
    split
    next full =>
      have bound := BitVec.le_def.mp full
      have place := room free
      exact Runs.done ⟨rfl, fun _ => by omega⟩
    next notFull =>
      refine (runs_exceedsMaxSamples lenient _ slotCount).bind_read fun exceeds within => ?_
      split
      · exact Runs.done ⟨rfl, (by cases ·)⟩
      next notExceeding =>
        refine (runs_safeAdd lenient _ slotCount).bind_read fun total sum => ?_
        obtain ⟨fits, rfl⟩ := sum
        refine (runs_exchangeSubscription (fun subs ok same => ok.subscribe (same.trans free)
            (BitVec.not_le.mp notFull) fits
            (within (Bool.eq_false_of_not_eq_true notExceeding)))
          fun ok => ok.setSubscription_inDoubt _ (by simp [begun, recorded])
            (by simp [begun, empty])).bind
          fun exchanged fourth exchange => ?_
        cases exchanged with
        | true => exact Runs.done ⟨exchange, (by cases ·)⟩
        | false =>
          rw [show fourth = acc from exchange]
          exact ih

theorem runs_unsubscribeLoop {slotCount} (booked : acc.subscription = some slotCount.toNat)
    (begun : acc.transactions .subscribe = ⟨false, true⟩) (n : Nat) :
    access.Runs acc (unsubscribeLoop q log slotCount n)
      (fun _ cur => cur = acc.setSubscription none) fail := by
  induction n with
  | zero => exact Runs.abort <| lenient .unsubscribeRetryLimit trivial
  | succ n ih =>
    refine runs_loadSubscriptionState.bind_read fun word loaded => ?_
    obtain ⟨counted, -⟩ := loaded
    obtain ⟨positive, enough⟩ := counted slotCount.toNat booked
    have someone : getSubscribersFromState word ≠ 0#8 := by
      intro nobody
      rw [nobody] at positive
      exact absurd positive (by decide)
    have notShort : ¬ getSubscribedSamplesFromState word < slotCount := by
      rw [lt_def]
      omega
    dsimp only
    rw [if_neg someone, if_neg notShort]
    refine (runs_exchangeSubscription (fun subs ok same => ok.unsubscribe (same.trans booked))
      fun ok => ok.setSubscription_inDoubt _ (by simp [begun, recorded])
        (by simp [begun, empty])).bind
      fun exchanged second exchange => ?_
    cases exchanged with
    | true => exact Runs.done exchange
    | false =>
      rw [show second = acc from exchange]
      exact ih

end EventSubscriptionControl

/-! ## The transactions of a subscription -/

namespace TransactionLogLocalView

variable {v : TransactionLogLocalView ι} {access : LogAccess rules limits t v.quality v.log}

theorem runs_afterSubscribeFlags (transactionBegin transactionEnd : Bool)
    {next} {post : Unit → Account → Prop}
    (rest : acc.transactions .subscribe =
      ⟨transactionBegin, transactionEnd⟩ → access.Runs acc next post fail) :
    access.Runs acc (do
        v.requireBegin .subscribe transactionBegin
        v.requireEnd .subscribe transactionEnd
        next) post fail :=
  runs_afterFlags transactionBegin (lenient _ trivial)
    (runs_requireFlag (runs_getTransactionEnd _) (lenient _ trivial)) rest

theorem runs_subscribeTransactionBegin (cap : Nat) :
    access.Runs acc (v.subscribeTransactionBegin cap)
      (fun _ cur => acc.transactions .subscribe = .empty ∧
        cur = (acc.setFlags .subscribe ⟨true, false⟩).setMaxSampleCount (some cap)) fail := by
  refine runs_afterSubscribeFlags lenient false false fun flags => ?_
  refine (runs_setTransactionBegin (setTransactionBegin_eq true (congrArg transactionEnd flags))
    fun ok => ?_).bind fun _ first written => ?_
  · exact ok.setFlags_subscribe nofun nofun
  · rw [written]
    refine (runs_setMaxSampleCount _ fun ok =>
      ok.setMaxSampleCount _ ?_).post fun _ second st => ⟨flags, st⟩
    rw [setFlags_self]
    nofun

theorem runs_subscribeTransactionCommit {cap} (counted : acc.maxSampleCount = some cap)
    (booked : acc.subscription = some (cap % 2 ^ 16)) :
    access.Runs acc v.subscribeTransactionCommit
      (fun _ cur => cur = acc.setFlags .subscribe .recorded)
      fail := by
  refine runs_afterSubscribeFlags lenient true false fun flags => ?_
  refine runs_setTransactionEnd (setTransactionEnd_eq true (congrArg transactionBegin flags)) ?_
  exact fun ok => ok.setFlags_subscribe (fun _ => ⟨_, counted, booked⟩) nofun

theorem runs_subscribeTransactionAbort (free : acc.subscription = none) :
    access.Runs acc v.subscribeTransactionAbort (fun _ cur => cur = acc.setFlags .subscribe .empty)
      fail := by
  refine runs_afterSubscribeFlags lenient true false fun flags => ?_
  refine runs_setTransactionBegin (setTransactionBegin_eq false (congrArg transactionEnd flags)) ?_
  exact fun ok => ok.setFlags_subscribe nofun (fun _ => free)

theorem runs_unsubscribeTransactionBegin : access.Runs acc v.unsubscribeTransactionBegin
      (fun _ cur => acc.transactions .subscribe = .recorded ∧
        cur = acc.setFlags .subscribe ⟨false, true⟩) fail := by
  refine runs_afterSubscribeFlags lenient true true fun flags => ?_
  refine (runs_setTransactionBegin (setTransactionBegin_eq false (congrArg transactionEnd flags))
    fun ok => ?_).post fun _ cur written => ⟨flags, written⟩
  exact ok.setFlags_subscribe nofun nofun

theorem runs_unsubscribeTransactionCommit (free : acc.subscription = none) :
    access.Runs acc v.unsubscribeTransactionCommit (fun _ cur => cur =
        (acc.setMaxSampleCount none).setFlags .subscribe .empty) fail := by
  refine runs_afterSubscribeFlags lenient false true fun flags => ?_
  refine (runs_setMaxSampleCount none fun ok =>
    ok.setMaxSampleCount none (by simp [flags, recorded])).bind
    fun _ first cleared => ?_
  subst cleared
  have flag : ((acc.setMaxSampleCount none).transactions .subscribe).transactionBegin = false :=
    congrArg transactionBegin flags
  refine runs_setTransactionEnd (setTransactionEnd_eq false flag) ?_
  exact fun ok => ok.setFlags_subscribe (by cases ·) (fun _ => free)

end TransactionLogLocalView

namespace EventSubscriptionControl

variable {v : TransactionLogLocalView ι} {access : LogAccess rules limits t v.quality v.log}

variable (v) in
/-- Either the subscription is booked and recorded, or nothing is booked.  Every other
subscriber has one of the other logs, so there are never too many. -/
theorem runs_subscribeTransaction (enough : Fintype.card ι ≤ limits.maxSubscribers.toNat)
    (cap : Nat) :
    access.Runs acc (limits.subscribeTransaction v cap) (fun res cur =>
        if res = .kSuccess then
          cur = acc.withSubscription cap
        else
          cur = acc.setMaxSampleCount (some cap)) fail := by
  refine Runs.of_wellFormed fun ok => ?_
  refine (v.runs_subscribeTransactionBegin lenient cap).bind fun _ first begun => ?_
  obtain ⟨flags, rfl⟩ := begun
  have free : ((acc.setFlags .subscribe ⟨true, false⟩).setMaxSampleCount
        (some cap)).subscription = none :=
    ok.subscribeEmpty flags
  refine (runs_subscribeLoop lenient (BitVec.ofNat 16 cap) free
    (setFlags_self acc .subscribe ⟨true, false⟩) _).bind
    fun res second subscribed => ?_
  obtain ⟨booked, overflow⟩ := subscribed
  by_cases success : res = .kSuccess
  · rw [if_pos success] at booked ⊢
    subst booked
    refine (v.runs_subscribeTransactionCommit lenient rfl ?_).bind
      fun _ third committed => Runs.done ?_
    · simp [setSubscription]
    · rw [if_pos success, committed]
      simp [withSubscription, setFlags, setSubscription, setMaxSampleCount]
  · rw [if_neg success] at booked ⊢
    subst booked
    refine (Runs.require fun refused => ?_).bind fun _ third checked => ?_
    · have tooMany := overflow (by simpa using refused)
      omega
    · obtain ⟨rfl, -⟩ := checked
      refine (v.runs_subscribeTransactionAbort lenient free).bind
        fun _ fourth aborted => Runs.done ?_
      rw [if_neg success, aborted]
      simp [setFlags, setMaxSampleCount, ← flags]

variable (v) in
theorem runs_unsubscribeTransaction {cap} (counted : acc.maxSampleCount = some cap) :
    access.Runs acc (limits.unsubscribeTransaction v cap)
      (fun _ cur => cur = acc.withoutSubscription) fail := by
  refine Runs.of_wellFormed fun ok => ?_
  refine (v.runs_unsubscribeTransactionBegin lenient).bind fun _ first begun => ?_
  obtain ⟨flags, rfl⟩ := begun
  obtain ⟨count, recorded, booked⟩ := ok.subscribeRecorded flags
  rw [counted] at recorded
  cases recorded
  have held : (acc.setFlags .subscribe ⟨false, true⟩).subscription =
        some (BitVec.ofNat 16 cap).toNat := by
    rw [BitVec.toNat_ofNat]
    exact booked
  refine (runs_unsubscribeLoop lenient held
    (setFlags_self acc _ _) _).bind fun _ second removed => ?_
  subst removed
  refine (v.runs_unsubscribeTransactionCommit lenient rfl).post fun _ third committed => ?_
  rw [committed]
  simp [withoutSubscription, setFlags, setSubscription, setMaxSampleCount]

end EventSubscriptionControl

/-! ## Rollback -/

namespace TransactionLogLocalView

variable {v : TransactionLogLocalView ι} {access : LogAccess rules limits t v.quality v.log}

omit lenient in
theorem runs_isAnyFlagSet (e : LogEntry) : access.Runs acc (v.isAnyFlagSet e)
      (fun anyFlagSet cur => cur = acc ∧
        (anyFlagSet = false → acc.transactions e = .empty)) fail := by
  refine (runs_getTransactionBegin e).bind_read fun transactionBegin beginFlag => ?_
  cases transactionBegin with
  | true => exact Runs.done ⟨rfl, nofun⟩
  | false =>
    refine (runs_getTransactionEnd e).post fun transactionEnd second read => ?_
    obtain ⟨rfl, endFlag⟩ := read
    refine ⟨rfl, fun unset => ?_⟩
    have flags : second.transactions e = ⟨false, transactionEnd⟩ := by
      rw [← beginFlag, ← endFlag]
    rw [flags, unset]
    rfl

omit lenient in
theorem runs_doesLogContainIncrementOrDecrementTransactions (slots : List SlotIndex) :
    access.Runs acc (v.doesLogContainIncrementOrDecrementTransactions slots)
      (fun found cur => cur = acc ∧ (found = false → ∀ i ∈ slots,
          acc.transactions (.reference i) = .empty)) fail := by
  induction slots with
  | nil => exact Runs.done ⟨rfl, fun _ i mem => by cases mem⟩
  | cons i slots ih =>
    refine (runs_isAnyFlagSet (.reference i)).bind_read fun anyFlagSet unset => ?_
    cases anyFlagSet with
    | true => exact Runs.done ⟨rfl, nofun⟩
    | false =>
      refine ih.post fun found second searched => ?_
      refine ⟨searched.1, fun nothing o mem => ?_⟩
      rcases List.mem_cons.mp mem with rfl | later
      · exact unset rfl
      · exact searched.2 nothing o later

theorem runs_requireSubscribeOrNoReferences : access.Runs acc v.requireSubscribeOrNoReferences
      (fun _ cur => cur = acc) fail := by
  refine (runs_isAnyFlagSet .subscribe).bind_read fun anyFlagSet _ => ?_
  cases anyFlagSet with
  | true => exact Runs.done rfl
  | false =>
    refine (runs_doesLogContainIncrementOrDecrementTransactions _).bind_read
      fun found _ => ?_
    exact (Runs.require fun _ =>
      lenient .referencesWithoutSubscription trivial).post
      fun _ _ checked => checked.1

def OfSlots (slots : List SlotIndex) (entry : LogEntry) : Prop :=
  ∃ slot ∈ slots, entry = .reference slot

omit [Fintype ι] [DecidableEq ι] lenient in
theorem ofSlots_cons {i slots e} : OfSlots (i :: slots) e ↔ e = .reference i ∨ OfSlots slots e := by
  simp [OfSlots]

/-- The outcome of a rollback that may touch the entries `visited`: either
none of their flags is set any more, or one of them is in doubt.  The other
entries are as before. -/
def RolledBack (visited : LogEntry → Prop) (account : Account)
    (result : Except ComErrc Unit) (current : Account) : Prop :=
  (∀ entry, ¬ visited entry → current.transactions entry = account.transactions entry) ∧
  match result with
  | .ok () => ∀ entry, visited entry → current.transactions entry = .empty
  | .error error => error = .kCouldNotRestartProxy ∧ ∃ entry, visited entry ∧ current.InDoubt entry

omit [Fintype ι] [DecidableEq ι] lenient in
theorem RolledBack.widen {visited wider : LogEntry → Prop} {mid cur res}
    (rolledBack : RolledBack visited mid res cur)
    (within : ∀ e, visited e → wider e)
    (kept : ∀ e, ¬ wider e → mid.transactions e = acc.transactions e)
    (cleared : res = .ok () → ∀ e, wider e → ¬ visited e →
      mid.transactions e = .empty) : RolledBack wider acc res cur := by
  obtain ⟨keep, out⟩ := rolledBack
  refine ⟨fun e outside => ?_, ?_⟩
  · exact (keep e fun inside => outside (within e inside)).trans (kept e outside)
  · cases res with
    | ok done =>
      intro e inside
      by_cases here : visited e
      · exact out e here
      · exact (keep e here).trans (cleared rfl e inside here)
    | error error =>
      obtain ⟨same, e, inside, doubt⟩ := out
      exact ⟨same, e, within e inside, doubt⟩

omit lenient in
theorem runs_rollbackEntry (e : LogEntry) {recorded rest}
    {post : Except ComErrc Unit → Account → Prop}
    (onRecorded : acc.transactions e = .recorded → access.Runs acc recorded post fail)
    (onEmpty : acc.transactions e = .empty → access.Runs acc rest post fail)
    (onDoubt : acc.InDoubt e → post (.error .kCouldNotRestartProxy) acc) :
    access.Runs acc (do
        let transactionBegin ← v.getTransactionBegin e
        let transactionEnd ← v.getTransactionEnd e
        if transactionBegin && transactionEnd then
          recorded
        else if transactionBegin || transactionEnd then
          pure (.error .kCouldNotRestartProxy)
        else
          rest) post fail := by
  refine (runs_getTransactionBegin e).bind_read fun transactionBegin beginFlag => ?_
  refine (runs_getTransactionEnd e).bind_read fun transactionEnd endFlag => ?_
  have flags : acc.transactions e = ⟨transactionBegin, transactionEnd⟩ := by
    rw [← beginFlag, ← endFlag]
  cases transactionBegin with
  | true =>
    cases transactionEnd with
    | true => exact onRecorded flags
    | false => exact Runs.done <| onDoubt (by simp [Account.InDoubt, flags])
  | false =>
    cases transactionEnd with
    | true => exact Runs.done <| onDoubt (by simp [Account.InDoubt, flags])
    | false => exact onEmpty flags

theorem runs_rollbackIncrementTransactions (slots : List SlotIndex) :
    access.Runs acc (v.rollbackIncrementTransactions
        v.dereferenceEventWithoutTransactionLogging slots)
      (RolledBack (OfSlots slots) acc) fail := by
  induction slots generalizing acc with
  | nil =>
    refine Runs.done ⟨fun _ _ => rfl, fun e visited => ?_⟩
    obtain ⟨i, mem, -⟩ := visited
    cases mem
  | cons i slots ih =>
    -- the rest of the loop runs on an account whose first slot is settled
    have later : ∀ mid : Account, (∀ e, e ≠ .reference i →
          mid.transactions e = acc.transactions e) →
        mid.transactions (.reference i) = .empty → access.Runs mid
            (v.rollbackIncrementTransactions v.dereferenceEventWithoutTransactionLogging slots)
            (RolledBack (OfSlots (i :: slots)) acc) fail := by
      intro mid kept settled
      refine ih.post fun res cur rolledBack => ?_
      refine rolledBack.widen (fun e inside => ?_) (fun e outside => kept e fun same => ?_)
        (fun _ e inside notLater => ?_)
      · exact ofSlots_cons.mpr (.inr inside)
      · exact outside (ofSlots_cons.mpr (.inl same))
      · rcases ofSlots_cons.mp inside with rfl | inLater
        · exact settled
        · exact absurd inLater notLater
    refine runs_rollbackEntry (.reference i) (fun _ => ?_)
      (fun empty => later acc (fun _ _ => rfl) empty) fun doubt => ?_
    · have released : access.Runs acc (v.dereferenceEvent i)
          (fun _ cur => i < v.slots ∧ (acc.references i).isSome ∧
            cur = acc.withoutReference i) fail :=
        runs_dereferenceEvent v (fun _ ofReference => lenient _ ofReference.ofConsumer) i
      have sequence := released.bind fun _ mid settled => later mid (fun e o => by
          rw [settled.2.2]
          exact setFlags_of_ne _ _ o)
        (by
          rw [settled.2.2]
          exact setFlags_self _ _ _)
      simpa only [dereferenceEvent, Program.bind_assoc] using sequence
    · exact ⟨fun _ _ => rfl, rfl, _, ofSlots_cons.mpr (.inl rfl), doubt⟩

theorem runs_rollbackSubscribeTransactions : access.Runs acc
      (v.rollbackSubscribeTransactions fun count =>
        limits.unsubscribe v.quality v.log (BitVec.ofNat 16 count))
      (RolledBack (fun e => e = .subscribe) acc) fail := by
  refine Runs.of_wellFormed fun ok => ?_
  refine runs_rollbackEntry .subscribe (fun recorded => ?_) (fun empty => ?_)
    fun doubt => ⟨fun _ _ => rfl, rfl, _, rfl, doubt⟩
  · obtain ⟨cap, counted, booked⟩ := ok.subscribeRecorded recorded
    refine (v.runs_unsubscribeTransactionBegin lenient).bind fun _ first begun => ?_
    obtain ⟨-, rfl⟩ := begun
    refine runs_getMaxSampleCount.bind_read fun read same => ?_
    rw [show read = some cap from same.symm.trans counted]
    have held : (acc.setFlags .subscribe ⟨false, true⟩).subscription =
          some (BitVec.ofNat 16 cap).toNat := by
      rw [BitVec.toNat_ofNat]
      exact booked
    refine (EventSubscriptionControl.runs_unsubscribeLoop lenient held
      (setFlags_self acc _ _) _).bind fun _ third removed => ?_
    subst removed
    refine (v.runs_unsubscribeTransactionCommit lenient rfl).bind
      fun _ fourth committed => Runs.done ?_
    subst committed
    refine ⟨fun e o => ?_, fun e same => ?_⟩
    · rw [setFlags_of_ne _ _ o]
      exact setFlags_of_ne _ _ o
    · rw [same]
      exact setFlags_self _ _ _
  · refine Runs.done ⟨fun _ _ => rfl, fun e same => ?_⟩
    rw [same]
    exact empty

def OfLog (slots : Nat) (entry : LogEntry) : Prop :=
  entry = .subscribe ∨ OfSlots (List.range slots) entry

variable (v) in
/-- A rollback that succeeds leaves no transaction in the log; one that fails
leaves an entry that is in doubt. -/
theorem runs_rollback : access.Runs acc (v.rollback limits)
      (RolledBack (OfLog v.slots) acc) fail := by
  refine (runs_requireSubscribeOrNoReferences lenient).bind fun _ first keep => ?_
  subst keep
  refine (runs_rollbackIncrementTransactions lenient _).bind fun res second rolledBack => ?_
  cases res with
  | error error =>
    exact Runs.done <| rolledBack.widen (fun _ inside => .inr inside) (fun _ _ => rfl) nofun
  | ok done =>
    refine (runs_rollbackSubscribeTransactions lenient).post fun res third last => ?_
    refine last.widen (fun _ inside => .inl inside)
      (fun e outside => rolledBack.1 e fun inside => outside (.inr inside)) fun _ e inside o => ?_
    exact rolledBack.2 e (inside.resolve_left o)

omit [Fintype ι] [DecidableEq ι] lenient in
theorem RolledBack.noTransactions {slots cur}
    (rolledBack : RolledBack (OfLog slots) acc (.ok ()) cur) :
    cur.NoTransactions slots :=
  ⟨rolledBack.2 _ (.inl rfl), fun i lt => rolledBack.2 _ (.inr ⟨i, List.mem_range.mpr lt, rfl⟩)⟩

end TransactionLogLocalView

end Subscriptions

end ScoreIntegration.Lola
