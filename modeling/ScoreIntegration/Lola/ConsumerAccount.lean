import ScoreIntegration.Lola.ConsumerEventDataControl
import ScoreIntegration.Lola.LogAccess

/-!
# What the operations of a consumer do to its account

To the account of its own transaction log a consumer is a sequential program, whatever
the others do, so each of its operations is given as a function on accounts.
-/

namespace ScoreIntegration.Lola

open Concurrency TransactionLogSlot LogAccess Account Function EventSlotStatus

/-! ## Accounts -/

namespace Account

def setFlags (account : Account) (entry : LogEntry) (flags : TransactionLogSlot) : Account :=
  { account with
    transactions := Function.update account.transactions entry flags }

def withReference (account : Account) (slot : SlotIndex) (timeStamp : EventTimeStamp) : Account :=
  (account.setReference slot (some timeStamp)).setFlags (.reference slot) .recorded

def withoutReference (account : Account) (slot : SlotIndex) : Account :=
  (account.setReference slot none).setFlags (.reference slot) .empty

@[simp]
theorem setFlags_self (acc : Account) (e : LogEntry) (flags : TransactionLogSlot) :
    (acc.setFlags e flags).transactions e = flags := by
  simp [setFlags]

variable {e : LogEntry} {acc : Account} {flags : TransactionLogSlot} {i : SlotIndex}
  {held : List SlotIndex}

theorem setFlags_of_ne (acc : Account) {o} (flags : TransactionLogSlot) (differ : o ≠ e) :
    (acc.setFlags e flags).transactions o = acc.transactions o := by
  simp [setFlags, differ]

@[simp]
theorem setFlags_setFlags (acc : Account) (e : LogEntry) (first second : TransactionLogSlot) :
    (acc.setFlags e first).setFlags e second = acc.setFlags e second := by
  simp [setFlags]

theorem setFlags_eq_self (same : acc.transactions e = flags) : acc.setFlags e flags = acc := by
  simp [setFlags, ← same]

theorem setTransactionBegin_eq {transactionEnd} (value : Bool)
    (flag : (acc.transactions e).transactionEnd = transactionEnd) :
    acc.setTransactionBegin e value = acc.setFlags e ⟨value, transactionEnd⟩ := by
  rw [← flag]
  rfl

theorem setTransactionEnd_eq {transactionBegin} (value : Bool)
    (flag : (acc.transactions e).transactionBegin = transactionBegin) :
    acc.setTransactionEnd e value = acc.setFlags e ⟨transactionBegin, value⟩ := by
  rw [← flag]
  rfl

section

variable (ok : acc.Ok)
include ok

theorem Ok.setFlags_reference (i : SlotIndex)
    (recorded : flags = .recorded → (acc.references i).isSome)
    (empty : flags = .empty → acc.references i = none) :
    (acc.setFlags (.reference i) flags).Ok := by
  refine ⟨?_, ?_, ok.subscribeRecorded, ok.subscribeEmpty⟩
  · intro o flagged
    by_cases same : o = i
    · subst o
      rw [setFlags_self] at flagged
      exact recorded flagged
    · rw [setFlags_of_ne acc flags (by simpa using same)] at flagged
      exact ok.referenceRecorded o flagged
  · intro o flagged
    by_cases same : o = i
    · subst o
      rw [setFlags_self] at flagged
      exact empty flagged
    · rw [setFlags_of_ne acc flags (by simpa using same)] at flagged
      exact ok.referenceEmpty o flagged

theorem Ok.setFlags_subscribe
    (recorded : flags = .recorded → ∃ count, acc.maxSampleCount = some count ∧
        acc.subscription = some (count % 2 ^ 16))
    (empty : flags = .empty → acc.subscription = none) :
    (acc.setFlags .subscribe flags).Ok := by
  refine ⟨fun i flagged => ?_, fun i flagged => ?_, fun flagged => ?_, fun flagged => ?_⟩
  · rw [setFlags_of_ne acc flags (by simp)] at flagged
    exact ok.referenceRecorded i flagged
  · rw [setFlags_of_ne acc flags (by simp)] at flagged
    exact ok.referenceEmpty i flagged
  · rw [setFlags_self] at flagged
    exact recorded flagged
  · rw [setFlags_self] at flagged
    exact empty flagged

theorem Ok.setReference_inDoubt (value : Option EventTimeStamp)
    (notRecorded : acc.transactions (.reference i) ≠ .recorded)
    (notEmpty : acc.transactions (.reference i) ≠ .empty) :
    (acc.setReference i value).Ok := by
  refine ⟨?_, ?_, ok.subscribeRecorded, ok.subscribeEmpty⟩
  · intro o flagged
    by_cases same : o = i
    · subst o
      exact absurd flagged notRecorded
    · simpa only [setReference, update_of_ne same] using ok.referenceRecorded o flagged
  · intro o flagged
    by_cases same : o = i
    · subst o
      exact absurd flagged notEmpty
    · simpa only [setReference, update_of_ne same] using ok.referenceEmpty o flagged

theorem Ok.setSubscription_inDoubt (value : Option Nat)
    (notRecorded : acc.transactions .subscribe ≠ .recorded)
    (notEmpty : acc.transactions .subscribe ≠ .empty) : (acc.setSubscription value).Ok :=
  ⟨ok.referenceRecorded, ok.referenceEmpty, fun flagged => absurd flagged notRecorded,
    fun flagged => absurd flagged notEmpty⟩

theorem Ok.setMaxSampleCount (value : Option Nat)
    (notRecorded : acc.transactions .subscribe ≠ .recorded) :
    (acc.setMaxSampleCount value).Ok :=
  ⟨ok.referenceRecorded, ok.referenceEmpty,
    fun flagged => absurd flagged notRecorded, ok.subscribeEmpty⟩

end

def Holds (account : Account) (held : List SlotIndex) : Prop :=
  held.Nodup ∧ ∀ slot ∈ held, (account.references slot).isSome

theorem Holds.cons (holds : acc.Holds held) (ts : EventTimeStamp) (free : acc.references i = none) :
    (acc.withReference i ts).Holds (i :: held) := by
  have fresh : i ∉ held := by
    intro mem
    have booked := holds.2 i mem
    rw [free] at booked
    cases booked
  refine ⟨List.nodup_cons.mpr ⟨fresh, holds.1⟩, fun o mem => ?_⟩
  simp only [withReference, setFlags, setReference]
  rcases List.mem_cons.mp mem with rfl | pre
  · simp
  · have differ : o ≠ i := by
      intro same
      subst same
      exact fresh pre
    simpa only [update_of_ne differ] using holds.2 o pre

theorem Holds.erase (holds : acc.Holds held) : (acc.withoutReference i).Holds (held.erase i) := by
  refine ⟨holds.1.erase i, fun o mem => ?_⟩
  obtain ⟨differ, mem⟩ := holds.1.mem_erase_iff.mp mem
  simp only [withoutReference, setFlags, setReference, update_of_ne differ]
  exact holds.2 o mem

end Account

/-! ## Programs started with a known account -/

def Failure.OfReference : Failure → Prop
  | .slotIndexOutOfRange => True
  | .slotStatusOverflow => True
  | .transactionPrecondition => True
  | .transactionEndTimeout => True
  | _ => False

section Runs

variable {ι Thread : Type} [Fintype ι] [DecidableEq ι]
  {admissible : ControlOp ι → Shared ι → Shared ι → Prop}
  {rules : Rules (controlMachine ι admissible) Thread} {limits : EventSubscriptionControl}
  {t : Thread}

namespace TransactionLogLocalView

open Concurrency.Footprint

variable {v : TransactionLogLocalView ι}
  {access : LogAccess rules limits t v.quality v.log} {acc : Account}
  {fail : Failure → Prop}

/-! ## Flags -/

theorem runs_requireFlag {read : Control ι Bool} {flag want}
    (reads : access.Runs acc read (fun value cur => cur = acc ∧ flag = value) fail)
    (ok : fail .transactionPrecondition) :
    access.Runs acc (do
        let value ← read
        .require (value == want) .transactionPrecondition)
      (fun _ cur => cur = acc ∧ flag = want) fail := by
  refine reads.bind ?_
  rintro value cur ⟨rfl, rfl⟩
  refine (Runs.require fun _ => ok).post ?_
  rintro _ _ ⟨rfl, same⟩
  exact ⟨rfl, by simpa using same⟩

theorem runs_afterFlags {e ended next} {checkEnd : Control ι Unit} {post : Unit → Account → Prop}
    (want : Bool) (ok : fail .transactionPrecondition)
    (checks : access.Runs acc checkEnd
      (fun _ cur => cur = acc ∧ (acc.transactions e).transactionEnd = ended) fail)
    (rest : acc.transactions e = ⟨want, ended⟩ → access.Runs acc next post fail) :
    access.Runs acc (do
        v.requireBegin e want
        checkEnd
        next) post fail := by
  refine (runs_requireFlag (runs_getTransactionBegin e) ok).bind_read fun _ beginFlag => ?_
  refine checks.bind_read fun _ endFlag => ?_
  apply rest
  rw [← beginFlag, ← endFlag]

theorem runs_waitForTransactionEndToBecomeFalse (e : LogEntry)
    (ok : (acc.transactions e).transactionEnd = true → fail .transactionEndTimeout) :
    access.Runs acc (v.waitForTransactionEndToBecomeFalse e kRetryCount)
      (fun _ cur => cur = acc ∧ (acc.transactions e).transactionEnd = false) fail := by
  cases flag : (acc.transactions e).transactionEnd with
  | true =>
    generalize kRetryCount = n
    induction n with
    | zero => exact Runs.abort <| ok flag
    | succ n ih =>
      refine (runs_getTransactionEnd e).bind ?_
      rintro value cur ⟨rfl, read⟩
      rw [flag] at read
      subst read
      exact ih
  | false =>
    refine (runs_getTransactionEnd e).bind ?_
    rintro value cur ⟨rfl, read⟩
    rw [flag] at read
    subst read
    exact Runs.done ⟨rfl, rfl⟩

/-! ## Searching -/

structure Candidate.InWindow (candidate : Candidate)
    (lastSearchTime upperLimit : EventTimeStamp) : Prop where
  lower : lastSearchTime ≤ candidate.candidateSlotStatus.getTimeStamp
  strict : candidate.possibleIndex.isSome →
    lastSearchTime < candidate.candidateSlotStatus.getTimeStamp ∧
      candidate.candidateSlotStatus.getTimeStamp < upperLimit

theorem runs_searchCandidate {lastSearchTime lim} (slots : List SlotIndex) {candidate}
    (inWindow : candidate.InWindow lastSearchTime lim) :
    access.Runs acc (v.searchCandidate lim slots candidate)
      (fun found cur => cur = acc ∧ found.InWindow lastSearchTime lim) fail := by
  induction slots generalizing candidate with
  | nil => exact Runs.done ⟨rfl, inWindow⟩
  | cons i slots ih =>
    refine (runs_loadSlot i).bind_read fun word _ => ?_
    split
    next between =>
      obtain ⟨-, -, newer, below⟩ := isTimeStampBetween_iff.mp between
      have lower := inWindow.lower
      have above : lastSearchTime < word.getTimeStamp := by bv_omega
      exact ih ⟨BitVec.le_of_lt above, fun _ => ⟨above, below⟩⟩
    · exact ih inWindow

/-! ## References -/

section References

variable (lenient : ∀ failure, failure.OfReference → fail failure)
include lenient

theorem runs_requireSlot (i : SlotIndex) : access.Runs acc (v.requireSlot i)
      (fun _ cur => cur = acc ∧ i < v.slots) fail :=
  (Runs.require fun _ => lenient .transactionPrecondition trivial).post fun _ _ checked =>
    ⟨checked.1, of_decide_eq_true checked.2⟩

variable {next : Control ι Unit} {post : Unit → Account → Prop} {i : SlotIndex}

section

variable (i : SlotIndex)

theorem runs_afterReferenceFlags (want : Bool)
    (rest : i < v.slots → acc.transactions (.reference i) = ⟨want, false⟩ →
        access.Runs acc next post fail) :
    access.Runs acc (do
        v.requireSlot i
        v.requireBegin (.reference i) want
        v.waitForTransactionEndToBecomeFalse (.reference i) kRetryCount
        next) post fail := by
  refine (runs_requireSlot lenient i).bind_read fun _ lt => ?_
  exact runs_afterFlags want (lenient _ trivial)
    (runs_waitForTransactionEndToBecomeFalse _ fun _ => lenient _ trivial) (rest lt)

theorem runs_referenceTransactionBegin :
    access.Runs acc (v.referenceTransactionBegin i) (fun _ cur => i < v.slots ∧
        acc.transactions (.reference i) = .empty ∧
        cur = acc.setFlags (.reference i) ⟨true, false⟩) fail := by
  refine runs_afterReferenceFlags lenient i false fun lt flags => ?_
  refine (runs_setTransactionBegin (setTransactionBegin_eq true (congrArg transactionEnd flags))
    fun ok => ?_).post fun _ cur written => ⟨lt, flags, written⟩
  exact ok.setFlags_reference i nofun nofun

theorem runs_referenceTransactionCommit (booked : (acc.references i).isSome) :
    access.Runs acc (v.referenceTransactionCommit i) (fun _ cur =>
        cur = acc.setFlags (.reference i) .recorded) fail := by
  refine runs_afterReferenceFlags lenient i true fun _ flags => ?_
  refine runs_setTransactionEnd (setTransactionEnd_eq true (congrArg transactionBegin flags)) ?_
  exact fun ok => ok.setFlags_reference i (fun _ => booked) nofun

theorem runs_referenceTransactionAbort (free : acc.references i = none) :
    access.Runs acc (v.referenceTransactionAbort i) (fun _ cur =>
        cur = acc.setFlags (.reference i) .empty) fail := by
  refine runs_afterReferenceFlags lenient i true fun _ flags => ?_
  refine runs_setTransactionBegin (setTransactionBegin_eq false (congrArg transactionEnd flags)) ?_
  exact fun ok => ok.setFlags_reference i nofun (fun _ => free)

/-- `ReferenceNextEvent` tries to take a slot: either the reference is booked
and recorded, or the account is as before. -/
theorem runs_tryReference {word} (stamp : word.getTimeStamp ≠ 0#32) :
    access.Runs acc (v.tryReference i word) (fun referenced cur =>
        if referenced then
          i < v.slots ∧ acc.references i = none ∧ cur = acc.withReference i word.getTimeStamp
        else
          cur = acc) fail := by
  refine Runs.of_wellFormed fun ok => ?_
  refine (Runs.require fun _ => lenient .slotStatusOverflow trivial).bind_read fun _ _ => ?_
  refine (runs_referenceTransactionBegin lenient i).bind fun _ second begun => ?_
  obtain ⟨lt, flags, rfl⟩ := begun
  have free : (acc.setFlags (.reference i) ⟨true, false⟩).references i = none :=
    ok.referenceEmpty i flags
  refine (runs_compareExchangeWeakSlot stamp free fun inDoubt =>
    inDoubt.setReference_inDoubt _ (by simp [recorded]) (by simp [empty])).bind
    fun exchanged third exchange => ?_
  subst exchange
  cases exchanged with
  | true =>
    refine (runs_referenceTransactionCommit lenient i ?_).bind
      fun _ fourth committed => Runs.done ?_
    · simp [setReference]
    · refine ⟨lt, free, committed.trans ?_⟩
      simp [withReference, setReference, setFlags]
  | false =>
    refine (runs_referenceTransactionAbort lenient i free).bind
      fun _ fourth aborted => Runs.done ?_
    refine aborted.trans ?_
    simp [setFlags_eq_self flags]

theorem runs_afterDereferenceFlags (want : Bool)
    (rest : i < v.slots → acc.transactions (.reference i) = ⟨want, true⟩ →
        access.Runs acc next post fail) :
    access.Runs acc (do
        v.requireSlot i
        v.requireBegin (.reference i) want
        v.requireEnd (.reference i) true
        next) post fail := by
  refine (runs_requireSlot lenient i).bind_read fun _ lt => ?_
  exact runs_afterFlags want (lenient _ trivial)
    (runs_requireFlag (runs_getTransactionEnd _) (lenient _ trivial)) (rest lt)

theorem runs_dereferenceTransactionBegin : access.Runs acc (v.dereferenceTransactionBegin i)
      (fun _ cur => i < v.slots ∧ acc.transactions (.reference i) = .recorded ∧
        cur = acc.setFlags (.reference i) ⟨false, true⟩) fail := by
  refine runs_afterDereferenceFlags lenient i true fun lt flags => ?_
  refine (runs_setTransactionBegin (setTransactionBegin_eq false (congrArg transactionEnd flags))
    fun ok => ?_).post fun _ cur written => ⟨lt, flags, written⟩
  exact ok.setFlags_reference i nofun nofun

theorem runs_dereferenceTransactionCommit (free : acc.references i = none) :
    access.Runs acc (v.dereferenceTransactionCommit i) (fun _ cur =>
        cur = acc.setFlags (.reference i) .empty) fail := by
  refine runs_afterDereferenceFlags lenient i false fun _ flags => ?_
  refine runs_setTransactionEnd (setTransactionEnd_eq false (congrArg transactionBegin flags)) ?_
  exact fun ok => ok.setFlags_reference i nofun (fun _ => free)

end

theorem runs_dereferenceEventWithoutTransactionLogging (booked : (acc.references i).isSome)
    (flags : acc.transactions (.reference i) = ⟨false, true⟩) :
    access.Runs acc (v.dereferenceEventWithoutTransactionLogging i)
      (fun _ cur => cur = acc.setReference i none) fail := by
  refine (Runs.require fun _ => lenient .slotIndexOutOfRange trivial).bind_read
    fun _ _ => ?_
  refine (runs_fetchSubSlot booked fun inDoubt =>
    inDoubt.setReference_inDoubt _ (by simp [flags, recorded]) (by simp [flags, empty])).bind
    fun _ second fetched => Runs.done fetched

variable (v) in
theorem runs_dereferenceEvent (i : SlotIndex) : access.Runs acc (v.dereferenceEvent i)
      (fun _ cur => i < v.slots ∧ (acc.references i).isSome ∧
        cur = acc.withoutReference i) fail := by
  refine Runs.of_wellFormed fun ok => ?_
  refine (runs_dereferenceTransactionBegin lenient i).bind fun _ first begun => ?_
  obtain ⟨lt, flags, rfl⟩ := begun
  have booked : ((acc.setFlags (.reference i) ⟨false, true⟩).references i).isSome :=
    ok.referenceRecorded i flags
  refine (runs_dereferenceEventWithoutTransactionLogging lenient booked
    (by simp)).bind fun _ second fetched => ?_
  subst fetched
  refine (runs_dereferenceTransactionCommit lenient i
    (by simp [setReference])).post fun _ third committed => ?_
  refine ⟨lt, booked, committed.trans ?_⟩
  simp [withoutReference, setReference, setFlags]

/-- The outcome of `ReferenceNextEvent`: nothing has happened, or a reference
to a slot whose time stamp lies in the window has been added. -/
def Referenced (view : TransactionLogLocalView ι) (account : Account)
    (lastSearchTime upperLimit : EventTimeStamp) :
    Option SlotIndex → Account → Prop
  | none, current => current = account
  | some slot, current =>
    slot < view.slots ∧ account.references slot = none ∧
      ∃ timeStamp, lastSearchTime < timeStamp ∧ timeStamp < upperLimit ∧
        current = account.withReference slot timeStamp

omit [Fintype ι] [DecidableEq ι] lenient in
theorem Referenced.holds {v : TransactionLogLocalView ι}
    {acc cur : Account} {lastSearchTime lim : EventTimeStamp}
    {i : Option SlotIndex} {held}
    (referenced : Referenced v acc lastSearchTime lim i cur)
    (holds : acc.Holds held) : cur.Holds (i.toList ++ held) := by
  cases i with
  | none =>
    rw [show cur = _ from referenced]
    exact holds
  | some i =>
    obtain ⟨-, free, ts, -, -, rfl⟩ := referenced
    exact holds.cons ts free

theorem runs_referenceNextEventLoop (lastSearchTime lim : EventTimeStamp) (n : Nat) :
    access.Runs acc (v.referenceNextEventLoop lastSearchTime lim n)
      (v.Referenced acc lastSearchTime lim) fail := by
  induction n with
  | zero => exact Runs.done rfl
  | succ n ih =>
    have start : (⟨none, make lastSearchTime 0#32⟩ :
          Candidate).InWindow lastSearchTime lim := by
      refine ⟨?_, fun found => by simp at found⟩
      rw [getTimeStamp_make]
      exact BitVec.le_refl _
    refine (runs_searchCandidate _ start).bind_read fun found inWindow => ?_
    obtain ⟨possibleIndex, word⟩ := found
    cases possibleIndex with
    | none => exact Runs.done rfl
    | some i =>
      obtain ⟨above, below⟩ := inWindow.strict rfl
      have stamp : word.getTimeStamp ≠ 0#32 := by
        intro zero
        rw [zero] at above
        exact BitVec.not_lt_zero above
      refine (runs_tryReference lenient i stamp).bind fun referenced second tried => ?_
      cases referenced with
      | true =>
        obtain ⟨lt, free, taken⟩ := tried
        exact Runs.done ⟨lt, free, word.getTimeStamp, above, below, taken⟩
      | false =>
        rw [show second = acc from tried]
        exact ih

variable (v) in
theorem runs_referenceNextEvent (lastSearchTime lim : EventTimeStamp) :
    access.Runs acc (v.referenceNextEvent lastSearchTime lim)
      (v.Referenced acc lastSearchTime lim) fail :=
  runs_referenceNextEventLoop lenient lastSearchTime lim MAX_REFERENCE_RETRIES

theorem runs_slotStatus : access.Runs acc (v.slotStatus i)
      (fun word cur => cur = acc ∧ ∀ ts, acc.references i = some ts →
          word.getTimeStamp = ts) fail := by
  refine (Runs.require fun _ => lenient .slotIndexOutOfRange trivial).bind_read
    fun _ _ => ?_
  exact runs_loadSlot i

end References

end TransactionLogLocalView

end Runs

end ScoreIntegration.Lola
