import Mathlib.Data.List.Nodup
import ScoreIntegration.MessagePassing.ConnectionStacks

/-!
# The history of the calls

A call has its own number.  Its message is accepted at most once, and it returns at most
once: with success only if its message was accepted, and with an error, unless it waits for
the reply, only if it was not.
-/

namespace ScoreIntegration.MessagePassing

open Concurrency CallFrame Sends Function List Option MessagePassing.Core

namespace Sends

def acceptedMessages (sends : Sends) : List Call := sends.accepted.map Accepted.message

def returnedCalls (sends : Sends) : List Call := sends.returned.map Prod.fst

theorem hasReturned_iff (sends : Sends) (call : Call) :
    sends.hasReturned call = true ↔ call ∈ sends.returnedCalls := by
  simp [hasReturned, returnedCalls]

/-- What is known about the calls does not change; futures may become ready. -/
structure SameCalls (sends after : Sends) : Prop where
  accepted : after.accepted = sends.accepted
  writers : after.writers = sends.writers
  failedWriters : after.failedWriters = sends.failedWriters
  returned : after.returned = sends.returned
  cancelled : after.cancelled = sends.cancelled
  readyFutures : ∀ call ∈ sends.readyFutures, call ∈ after.readyFutures

theorem SameCalls.rfl {sends : Sends} : sends.SameCalls sends :=
  ⟨Eq.refl _, Eq.refl _, Eq.refl _, Eq.refl _, Eq.refl _, fun _ isReady => isReady⟩

theorem sameCalls_invoke (sends : Sends) (cb : Call) (out : ReplyOutcome) :
    sends.SameCalls (sends.invoke cb out) := by
  refine ⟨rfl, rfl, rfl, rfl, rfl, fun call isReady => ?_⟩
  simp only [invoke]
  split
  · exact mem_append_left _ isReady
  · exact isReady

theorem sameCalls_invokeIfAny (sends : Sends) (cb : ReplyCallback) (out : ReplyOutcome) :
    sends.SameCalls (sends.invokeIfAny cb out) := by
  cases cb with
  | none => exact .rfl
  | some call => exact sends.sameCalls_invoke call out

end Sends

variable {sends s' : Sends} {session : Option Nat} {cur calls : Nat} {fr : CallFrame}
  {cfg : ClientConfig} {call : Call} {onCallbackThread : Bool} {ans : EngineAnswer}
  {core : Core} {next : List Frame}

theorem QueueFrame.sameCalls_continuesWith {base : Sends} {fr : QueueFrame} {s'}
    (cont : fr.continuesWith sends = some (base, s')) : sends.SameCalls base := by
  cases goesOn_of_continuesWith cont with
  | begins => exact .rfl
  | _ => exact ⟨rfl, rfl, rfl, rfl, rfl, fun _ isReady => isReady⟩

theorem QueueFrame.Runs.sameCalls {fr : QueueFrame} {step : QueueStep}
    (runs : fr.Runs session sends step) : sends.SameCalls step.sends := by
  cases runs with
  | pops cont _ =>
    exact { sameCalls_continuesWith cont with }
  | leaves cont _ => exact sameCalls_continuesWith cont
  | callsBack | replies => exact sends.sameCalls_invokeIfAny _ _
  | _ => exact ⟨rfl, rfl, rfl, rfl, rfl, fun _ isReady => isReady⟩

theorem SwitchFrame.sameCalls_execSends {fr next : SwitchFrame}
    (ran : fr.execSends sends = some (s', next)) : sends.SameCalls s' := by
  cases runs_of_execSends ran with
  | callsBack _ => exact sends.sameCalls_invoke _ _
  | _ => exact ⟨rfl, rfl, rfl, rfl, rfl, fun _ isReady => isReady⟩

/-! ## Call frames -/

namespace CallFrame

def isWriting : CallFrame → Bool
  | .waitReplyWrite _ => true
  | _ => false

def hasFailed : CallFrame → Bool
  | .waitReplyWritten _ false => true
  | _ => false

def kind : CallFrame → CallKind
  | .sendUnordered _ => .send
  | .send _ => .send
  | .withCallback _ => .withCallback
  | _ => .waitReply

/-- What the history says about a call that has not returned. -/
structure Recorded (sends : Sends) (frame : CallFrame) : Prop where
  kind : frame.owner.kind = frame.kind
  accepted : frame.owner ∈ sends.acceptedMessages ↔ frame.isFresh = false
  writer : frame.owner ∈ sends.writers ↔ frame.isWriting = true
  failedWriter : frame.owner ∈ sends.failedWriters ↔ frame.hasFailed = true
  notReturned : frame.owner ∉ sends.returnedCalls

end CallFrame

/-- What is known about one call does not change. -/
structure Sends.SameFor (call : Call) (sends after : Sends) : Prop where
  accepted : call ∈ after.acceptedMessages ↔ call ∈ sends.acceptedMessages
  writer : call ∈ after.writers ↔ call ∈ sends.writers
  failedWriter : call ∈ after.failedWriters ↔ call ∈ sends.failedWriters
  returned : call ∈ after.returnedCalls ↔ call ∈ sends.returnedCalls

theorem CallFrame.Recorded.of_sameFor (recorded : fr.Recorded sends)
    (same : sends.SameFor fr.owner s') : fr.Recorded s' where
  kind := recorded.kind
  accepted := same.accepted.trans recorded.accepted
  writer := same.writer.trans recorded.writer
  failedWriter := same.failedWriter.trans recorded.failedWriter
  notReturned isReturned := recorded.notReturned (same.returned.mp isReturned)

theorem CallFrame.Runs.sameFor {step}
    (runs : fr.Runs cfg cur session sends step) (isOther : call ≠ fr.owner) :
    sends.SameFor call step.sends := by
  cases runs
  all_goals constructor <;>
      simp_all [acceptedMessages, returnedCalls, accept, write,
        giveUp, finish, queued, armSendQueueUnderLock,
        CallStep.returns, owner, mem_erase_of_ne]

theorem CallFrame.Runs.recorded {next step}
    (runs : fr.Runs cfg cur session sends step) (recorded : fr.Recorded sends)
    (writersNodup : sends.writers.Nodup) (isNext : step.next = some next) :
    next.owner = fr.owner ∧ next.Recorded step.sends := by
  obtain ⟨isKind, accepted, writer, failedWriter, notReturned⟩ := recorded
  cases runs
  all_goals cases isNext
  all_goals refine ⟨rfl, isKind, ?_, ?_, ?_, ?_⟩ <;>
      simp_all [acceptedMessages, returnedCalls, accept, write,
        giveUp, queued, owner, isFresh,
        isWriting, hasFailed, List.Nodup.mem_erase_iff]

theorem CallFrame.isFresh_of_queuedCallback {cb}
    (isCb : fr.queuedCallback = some cb) : fr.isFresh = true := by
  cases fr <;> first | rfl | cases isCb

theorem CallFrame.Recorded.not_writer (recorded : fr.Recorded sends) (isFresh : fr.isFresh = true) :
    fr.owner ∉ sends.writers ∧ fr.owner ∉ sends.failedWriters := by
  rw [recorded.writer, recorded.failedWriter]
  cases fr <;> first | exact ⟨Bool.noConfusion, Bool.noConfusion⟩ | cases isFresh

theorem CallFrame.Runs.next_of_unwritten {step}
    (runs : fr.Runs cfg cur session sends step) (recorded : fr.Recorded sends)
    (writersNodup : sends.writers.Nodup) (failedNodup : sends.failedWriters.Nodup) :
    (fr.owner ∈ step.sends.writers → step.next = some (.waitReplyWrite fr.owner)) ∧
      (fr.owner ∈ step.sends.failedWriters →
        step.next = some (.waitReplyWritten fr.owner false)) := by
  have writer := recorded.writer
  have failed := recorded.failedWriter
  cases runs with
  | claims _ => exact ⟨fun _ => rfl, fun isFailed => by cases failed.mp isFailed⟩
  | writes _ =>
    refine ⟨?_, fun isFailed => by cases failed.mp isFailed⟩
    simp [write, owner, writersNodup.mem_erase_iff]
  | writeFails _ =>
    refine ⟨?_, fun _ => rfl⟩
    simp [giveUp, owner, writersNodup.mem_erase_iff]
  | cancels _ | cancelsAndArms _ =>
    refine ⟨fun isWriter => (nomatch writer.mp isWriter), ?_⟩
    simp [CallStep.returns, finish, armSendQueueUnderLock, owner, failedNodup.mem_erase_iff]
  | rejects _ _ isFresh =>
    exact (recorded.not_writer isFresh).imp (flip absurd) (flip absurd)
  | queues isCb _ _ | queuesAndArms _ isCb _ _ =>
    exact (recorded.not_writer (isFresh_of_queuedCallback isCb)).imp (flip absurd) (flip absurd)
  | _ =>
    exact ⟨fun isWriter => (nomatch writer.mp isWriter),
      fun isFailed => (nomatch failed.mp isFailed)⟩

/-! ## The whole history -/

/-- The facts about all calls; `calls` is the number of calls so far. -/
structure Sends.History (calls : Nat) (sends : Sends) : Prop where
  acceptedNodup : sends.acceptedMessages.Nodup
  acceptedBelow : ∀ call ∈ sends.acceptedMessages, call.number < calls
  writersNodup : sends.writers.Nodup
  writersBelow : ∀ call ∈ sends.writers, call.number < calls
  failedNodup : sends.failedWriters.Nodup
  failedBelow : ∀ call ∈ sends.failedWriters, call.number < calls
  returnedNodup : sends.returnedCalls.Nodup
  returnedBelow : ∀ call ∈ sends.returnedCalls, call.number < calls
  success : ∀ call, (call, none) ∈ sends.returned → call ∈ sends.acceptedMessages
  failure : ∀ call error, (call, some error) ∈ sends.returned →
    call.kind ≠ .waitReply → call ∉ sends.acceptedMessages
  waited : ∀ call ∈ sends.returnedCalls, call.kind = .waitReply →
    call ∈ sends.acceptedMessages → call ∈ sends.cancelled ∨ call ∈ sends.readyFutures

theorem Sends.History.setWriters (history : sends.History calls)
    (accepted : s'.accepted = sends.accepted) (returned : s'.returned = sends.returned)
    (writersNodup : s'.writers.Nodup)
    (writersBelow : ∀ call ∈ s'.writers, call.number < calls)
    (failedNodup : s'.failedWriters.Nodup)
    (failedBelow : ∀ call ∈ s'.failedWriters, call.number < calls)
    (cancelled : ∀ call ∈ sends.cancelled, call ∈ s'.cancelled)
    (readyFutures : ∀ call ∈ sends.readyFutures, call ∈ s'.readyFutures) :
    s'.History calls := by
  have sameAccepted : s'.acceptedMessages = sends.acceptedMessages := congrArg (map _) accepted
  have sameReturned : s'.returnedCalls = sends.returnedCalls := congrArg (map _) returned
  refine ⟨?_, ?_, writersNodup, writersBelow, failedNodup, failedBelow, ?_, ?_, ?_, ?_, ?_⟩ <;>
    simp only [sameAccepted, sameReturned, returned]
  · exact history.acceptedNodup
  · exact history.acceptedBelow
  · exact history.returnedNodup
  · exact history.returnedBelow
  · exact history.success
  · exact history.failure
  · intro call isReturned isKind isAccepted
    exact (history.waited call isReturned isKind isAccepted).imp (cancelled call)
      (readyFutures call)

theorem Sends.History.of_sameCalls (history : sends.History calls) (same : sends.SameCalls s') :
    s'.History calls := by
  refine history.setWriters same.accepted same.returned ?_ ?_ ?_ ?_ ?_ same.readyFutures <;>
    simp only [same.writers, same.failedWriters, same.cancelled, imp_self, implies_true]
  · exact history.writersNodup
  · exact history.writersBelow
  · exact history.failedNodup
  · exact history.failedBelow

theorem Sends.History.mono {more} (history : sends.History calls) (le : calls ≤ more) :
    sends.History more := { history with
  acceptedBelow call isAccepted := Nat.lt_of_lt_of_le (history.acceptedBelow call isAccepted) le
  writersBelow call isWriter := Nat.lt_of_lt_of_le (history.writersBelow call isWriter) le
  failedBelow call isFailed := Nat.lt_of_lt_of_le (history.failedBelow call isFailed) le
  returnedBelow call isReturned := Nat.lt_of_lt_of_le (history.returnedBelow call isReturned) le }

theorem nodup_append_single {α : Type} {items : List α} {item : α} (nodup : items.Nodup)
    (isNew : item ∉ items) : (items ++ [item]).Nodup :=
  nodup_append.mpr ⟨nodup, nodup_singleton item, fun o isOther last isLast => by
      rw [mem_singleton.mp isLast]
      rintro rfl
      exact isNew isOther⟩

theorem Sends.History.accept (history : sends.History calls) (isBelow : call.number < calls)
    (isNew : call ∉ sends.acceptedMessages) (notReturned : call ∉ sends.returnedCalls)
    (cur : Nat) : (sends.accept cur call).History calls := by
  have isAccepted : (sends.accept cur call).acceptedMessages =
      sends.acceptedMessages ++ [call] := by
    simp [Sends.acceptedMessages, Sends.accept]
  have isReturned : ∀ error, (call, error) ∉ sends.returned :=
    fun error isReturned => notReturned (mem_map_of_mem isReturned)
  refine { history with
    acceptedNodup := ?_, acceptedBelow := ?_, success := ?_, failure := ?_, waited := ?_ } <;>
    rw [isAccepted]
  · exact nodup_append_single history.acceptedNodup isNew
  · exact forall_mem_append.mpr ⟨history.acceptedBelow, by simpa using isBelow⟩
  · exact fun o isReturned => mem_append_left _ (history.success o isReturned)
  · intro o error (returned : (o, some error) ∈ sends.returned)
    grind [history.failure o error returned]
  · intro o (returned : o ∈ sends.returnedCalls)
    have waited := history.waited o returned
    grind [Sends.accept]

theorem Sends.History.finish {error : Option SendError} (history : sends.History calls)
    (isBelow : call.number < calls) (notReturned : call ∉ sends.returnedCalls)
    (success : error = none → call ∈ sends.acceptedMessages)
    (err : error ≠ none → call.kind ≠ .waitReply → call ∉ sends.acceptedMessages)
    (waited : call.kind = .waitReply → call ∈ sends.acceptedMessages →
      call ∈ sends.cancelled ∨ call ∈ sends.readyFutures) :
    (sends.finish call error).History calls := by
  have isReturnedCalls : (sends.finish call error).returnedCalls =
      sends.returnedCalls ++ [call] := by
    simp [Sends.returnedCalls, Sends.finish]
  refine { history with
    returnedNodup := ?_, returnedBelow := ?_, success := ?_, failure := ?_, waited := ?_ }
  · rw [isReturnedCalls]
    exact nodup_append_single history.returnedNodup notReturned
  · rw [isReturnedCalls]
    exact forall_mem_append.mpr ⟨history.returnedBelow, by simpa using isBelow⟩
  · intro o isReturned
    rcases mem_append.mp isReturned with isReturned | isLast
    · exact history.success o isReturned
    · cases mem_singleton.mp isLast
      exact success rfl
  · intro o otherError isReturned isKind
    rcases mem_append.mp isReturned with isReturned | isLast
    · exact history.failure o otherError isReturned isKind
    · cases mem_singleton.mp isLast
      exact err (some_ne_none otherError) isKind
  · rw [isReturnedCalls]
    intro o isOther
    rcases mem_append.mp isOther with isOther | isLast
    · exact history.waited o isOther
    · exact mem_singleton.mp isLast ▸ waited

theorem CallFrame.Runs.history {step : CallStep}
    (runs : fr.Runs cfg cur session sends step) (recorded : fr.Recorded sends)
    (isBelow : fr.owner.number < calls) (history : sends.History calls) :
    step.sends.History calls := by
  obtain ⟨isKind, accepted, writer, failedWriter, notReturned⟩ := recorded
  have accepts : fr.isFresh = true → (sends.accept cur fr.owner).History calls := by
    intro isFresh
    refine history.accept isBelow ?_ notReturned cur
    rw [accepted, isFresh]
    exact Bool.noConfusion
  -- A call that returns right after its message was accepted.
  have acceptsAndReturns : ∀ s' : Sends, fr.isFresh = true →
      fr.kind ≠ .waitReply → (sends.accept cur fr.owner).SameCalls s' →
      (s'.finish fr.owner none).History calls := by
    intro s' isFresh isOther same
    have isAccepted : fr.owner ∈ s'.acceptedMessages := by
      simp [acceptedMessages, same.accepted, accept]
    refine ((accepts isFresh).of_sameCalls same).finish isBelow ?_
      (fun _ => isAccepted) (fun contradiction => absurd rfl contradiction)
      (fun isWaitReply => absurd (isKind.symm.trans isWaitReply) isOther)
    rw [returnedCalls, same.returned]
    exact notReturned
  have sameReady : ∀ {sends : Sends}, ∀ call ∈ sends.readyFutures,
      call ∈ sends.readyFutures := fun _ isReady => isReady
  have cancelled : ∀ {s' : Sends}, fr.owner.kind = .waitReply → SameCalls { sends with
        cancelled := sends.cancelled ++ [fr.owner]
        failedWriters := sends.failedWriters.erase fr.owner } s' →
      (s'.finish fr.owner (some .engine)).History calls := by
    intro s' isWait same
    have dropped : s'.History calls := by
      refine .of_sameCalls ?_ same
      exact history.setWriters rfl rfl history.writersNodup history.writersBelow
        (history.failedNodup.erase _)
        (fun o isOther => history.failedBelow o (mem_of_mem_erase isOther))
        (fun _ isCancelled => mem_append_left _ isCancelled) sameReady
    refine dropped.finish isBelow ?_ nofun (fun _ notWaitReply => absurd isWait notWaitReply)
      (fun _ _ => .inl ?_)
    · rw [returnedCalls, same.returned]
      exact notReturned
    · rw [same.cancelled]
      exact mem_append_right _ mem_cons_self
  cases runs with
  | rejects _ error isFresh =>
    have isNew : fr.owner ∉ sends.acceptedMessages := by
      rw [accepted, isFresh]
      exact Bool.noConfusion
    exact history.finish isBelow notReturned nofun
      (fun _ _ => isNew) (fun _ isAccepted => absurd isAccepted isNew)
  | queues isCb _ _ | queuesAndArms _ isCb _ _ =>
    cases fr <;> cases isCb <;> exact acceptsAndReturns _ rfl (by simp [kind])
        ⟨rfl, rfl, rfl, rfl, rfl, sameReady⟩
  | queuesAndWaits _ _ => exact (accepts rfl).of_sameCalls ⟨rfl, rfl, rfl, rfl, rfl, sameReady⟩
  | @claims call _ =>
    have isNew : call ∉ sends.writers := fun isWriter => Bool.noConfusion (writer.mp isWriter)
    refine (accepts rfl).setWriters rfl rfl
      (nodup_append_single history.writersNodup isNew) ?_ history.failedNodup
      history.failedBelow (fun _ isCancelled => isCancelled) sameReady
    exact forall_mem_append.mpr ⟨history.writersBelow, forall_mem_singleton.mpr isBelow⟩
  | writes _ =>
    exact history.setWriters rfl rfl (history.writersNodup.erase _)
      (fun o isOther => history.writersBelow o (mem_of_mem_erase isOther))
      history.failedNodup history.failedBelow (fun _ isCancelled => isCancelled)
      sameReady
  | @writeFails call _ =>
    have isNew : call ∉ sends.failedWriters := fun isFailed =>
      Bool.noConfusion (failedWriter.mp isFailed)
    refine history.setWriters rfl rfl (history.writersNodup.erase _)
      (fun o isOther => history.writersBelow o (mem_of_mem_erase isOther))
      (nodup_append_single history.failedNodup isNew) ?_
      (fun _ isCancelled => isCancelled) sameReady
    exact forall_mem_append.mpr ⟨history.failedBelow, forall_mem_singleton.mpr isBelow⟩
  | hasWritten => exact history
  | cancels _ | cancelsAndArms _ => exact cancelled isKind ⟨rfl, rfl, rfl, rfl, rfl, sameReady⟩
  | isAnswered isReady =>
    exact history.finish isBelow notReturned (fun _ => accepted.mpr rfl)
      (fun _ notWaitReply => absurd isKind notWaitReply) (fun _ _ => .inr isReady)
  | _ => exact acceptsAndReturns _ rfl (by simp [kind]) ⟨rfl, rfl, rfl, rfl, rfl, sameReady⟩

theorem Core.sameCalls_exec {s' : Core} {fr : Frame} (notCall : ∀ callFrame, fr ≠ .call callFrame)
    (ran : core.exec cfg onCallbackThread ans fr = some (s', next)) :
    core.sends.SameCalls s'.sends := by
  cases fr with
  | call fr => exact absurd rfl (notCall fr)
  | queue fr =>
    cases ran
    exact (QueueFrame.runs_exec _ _ fr).sameCalls
  | life fr =>
    cases ran
    exact .rfl
  | switch fr =>
    rcases execSwitch_cases ran with
      ⟨_, _, rfl⟩ | ⟨_, _, rfl⟩ | ⟨_, _, rfl⟩ | ⟨sends, following, ranSends, _, rfl⟩
    · exact .rfl
    · exact .rfl
    · exact .rfl
    · exact SwitchFrame.sameCalls_execSends ranSends

theorem Core.noCall_exec {s' fr frames}
    (notAlone : fr.isAlone = false) (lifeBelow : ∀ below ∈ frames, below.isLife = true)
    (ran : core.exec cfg onCallbackThread ans fr = some (s', next))
    (callFrame : CallFrame) : next ++ frames ≠ [.call callFrame] := by
  intro isCall
  cases next with
  | nil =>
    have isLife := lifeBelow (.call callFrame) (by
      rw [show frames = _ from isCall]
      exact mem_singleton_self _)
    cases isLife
  | cons top rest =>
    have topNotAlone := (exec_next_of_not_alone notAlone ran).1
    have isTop : top = .call callFrame := (cons.inj isCall).1
    rw [isTop] at topNotAlone
    cases topNotAlone

namespace ClientConnection

variable {ι : Type} [DecidableEq ι] {conn : ClientConnection ι} {user : ι}

/-- The history together with the calls that have not returned. -/
structure CallsRecorded (connection : ClientConnection ι) : Prop where
  history : connection.core.sends.History connection.calls
  recorded : ∀ user frame, connection.users user = [.call frame] →
    frame.Recorded connection.core.sends
  isBelow : ∀ user frame, connection.users user = [.call frame] →
    frame.owner.number < connection.calls
  distinct : ∀ user other frame following, connection.users user = [.call frame] →
    connection.users other = [.call following] → frame.owner = following.owner →
    user = other
  writerRuns : ∀ call ∈ connection.core.sends.writers,
    ∃ user, connection.users user = [.call (.waitReplyWrite call)]
  failedRuns : ∀ call ∈ connection.core.sends.failedWriters,
    ∃ user, connection.users user = [.call (.waitReplyWritten call false)]

omit [DecidableEq ι] in
theorem start_callsRecorded (cfg : ClientConfig) : CallsRecorded (start ι cfg) := by
  constructor
  · constructor <;> simp [start, Sends.start, Sends.acceptedMessages, Sends.returnedCalls]
  all_goals simp [start, Sends.start]

omit [DecidableEq ι] in
theorem CallsRecorded.of_sameCalls {s' : ClientConnection ι} (calls : conn.CallsRecorded)
    (same : conn.core.sends.SameCalls s'.core.sends)
    (sameCount : s'.calls = conn.calls)
    (sameFrames : ∀ user fr, s'.users user = [.call fr] ↔
      conn.users user = [.call fr]) : s'.CallsRecorded := by
  have runs := fun user fr => (sameFrames user fr).mp
  constructor
  · rw [sameCount]
    exact calls.history.of_sameCalls same
  · intro user fr isRun
    refine (calls.recorded user fr (runs user fr isRun)).of_sameFor ?_
    constructor <;> simp only [acceptedMessages, returnedCalls,
      same.accepted, same.writers, same.failedWriters, same.returned]
  · rw [sameCount]
    exact fun user fr isRun => calls.isBelow user fr (runs user fr isRun)
  · exact fun user o fr tl isRun isOther =>
      calls.distinct user o fr tl (runs user fr isRun) (runs o tl isOther)
  · simp only [same.writers, sameFrames]
    exact calls.writerRuns
  · simp only [same.failedWriters, sameFrames]
    exact calls.failedRuns

theorem sameFrames_update {frames} (noCallBefore : ∀ fr, conn.users user ≠ [.call fr])
    (noCallAfter : ∀ fr, frames ≠ [.call fr]) (o : ι) (fr : CallFrame) :
    update conn.users user frames o = [.call fr] ↔ conn.users o = [.call fr] := by
  by_cases same : o = user
  · rw [same, update_self]
    exact ⟨fun runs => absurd runs (noCallAfter fr), fun runs => absurd runs (noCallBefore fr)⟩
  · rw [update_of_ne same]

theorem not_mem_of_below {items : List Call} {kind}
    (below : ∀ call ∈ items, call.number < calls) : (⟨calls, kind⟩ : Call) ∉ items :=
  fun mem => Nat.lt_irrefl _ (below _ mem)

omit [DecidableEq ι] in
theorem CallsRecorded.reject (calls : conn.CallsRecorded) (kind : CallKind) (error : SendError) :
    CallsRecorded { conn with
      core := { conn.core with
        sends := conn.core.sends.finish ⟨conn.calls, kind⟩ (some error) }
      calls := conn.calls + 1 } := by
  have notAccepted : ⟨conn.calls, kind⟩ ∉ conn.core.sends.acceptedMessages :=
    not_mem_of_below calls.history.acceptedBelow
  constructor
  · exact (calls.history.mono (Nat.le_succ _)).finish (Nat.lt_succ_self _)
      (not_mem_of_below calls.history.returnedBelow) nofun (fun _ _ => notAccepted)
      (fun _ isAccepted => absurd isAccepted notAccepted)
  · intro user fr runs
    have isOther : fr.owner ≠ ⟨conn.calls, kind⟩ := fun isSame =>
      Nat.lt_irrefl conn.calls (by
        have isBelow := calls.isBelow user fr runs
        rwa [isSame] at isBelow)
    refine (calls.recorded user fr runs).of_sameFor ⟨Iff.rfl, Iff.rfl, Iff.rfl, ?_⟩
    simp [returnedCalls, finish, isOther]
  · exact fun user fr runs => Nat.lt_succ_of_lt (calls.isBelow user fr runs)
  · exact calls.distinct
  · exact calls.writerRuns
  · exact calls.failedRuns

theorem CallsRecorded.setFrames {s' : ClientConnection ι} {frames : List Frame}
    (calls : conn.CallsRecorded) (isUsers : s'.users = update conn.users user frames)
    (more : conn.calls ≤ s'.calls) (history : s'.core.sends.History s'.calls)
    (own : ∀ fr, frames = [.call fr] → fr.Recorded s'.core.sends ∧ fr.owner.number < s'.calls ∧
        ∀ o tl, o ≠ user → conn.users o = [.call tl] → tl.owner ≠ fr.owner)
    (others : ∀ o tl, o ≠ user → conn.users o = [.call tl] →
      conn.core.sends.SameFor tl.owner s'.core.sends)
    (writers : ∀ call ∈ s'.core.sends.writers, frames = [.call (.waitReplyWrite call)] ∨
      ∃ o ≠ user, conn.users o = [.call (.waitReplyWrite call)])
    (failed : ∀ call ∈ s'.core.sends.failedWriters,
      frames = [.call (.waitReplyWritten call false)] ∨
        ∃ o ≠ user, conn.users o = [.call (.waitReplyWritten call false)]) :
    s'.CallsRecorded := by
  have runsIff : ∀ o, s'.users o = if o = user then frames else conn.users o := by
    intro o
    rw [isUsers, update_apply]
  have runsAfter : ∀ {stack}, (frames = stack ∨ ∃ o ≠ user, conn.users o = stack) →
      ∃ o, s'.users o = stack := by
    rintro stack (isOwn | ⟨o, isOther, runs⟩)
    · exact ⟨user, by rw [runsIff, if_pos rfl, isOwn]⟩
    · exact ⟨o, by rw [runsIff, if_neg isOther, runs]⟩
  constructor
  · exact history
  · intro o fr runs
    by_cases isOwn : o = user
    · grind
    · exact (calls.recorded o fr (by grind)).of_sameFor (others o fr isOwn (by grind))
  · intro o fr runs
    by_cases isOwn : o = user
    · grind
    · exact Nat.lt_of_lt_of_le (calls.isBelow o fr (by grind)) more
  · intro first second fr tl runsFirst runsSecond sameOwner
    rw [runsIff] at runsFirst runsSecond
    split_ifs at runsFirst runsSecond with isFirst isSecond isSecond
    · exact isFirst.trans isSecond.symm
    · exact absurd sameOwner.symm ((own fr runsFirst).2.2 second tl isSecond runsSecond)
    · exact absurd sameOwner ((own tl runsSecond).2.2 first fr isFirst runsFirst)
    · exact calls.distinct first second fr tl runsFirst runsSecond sameOwner
  · exact fun call isWriter => runsAfter (writers call isWriter)
  · exact fun call isFailed => runsAfter (failed call isFailed)

theorem CallsRecorded.begin (calls : conn.CallsRecorded) (kind : CallKind)
    (isIdle : conn.users user = []) :
    CallsRecorded { conn with
      users := update conn.users user [.call (callFrame cfg ⟨conn.calls, kind⟩)]
      calls := conn.calls + 1 } := by
  obtain ⟨isOwner, isKind, isFresh, notWriting, notFailed⟩ :
      (callFrame cfg ⟨conn.calls, kind⟩).owner = ⟨conn.calls, kind⟩ ∧
      (callFrame cfg ⟨conn.calls, kind⟩).kind = kind ∧
      (callFrame cfg ⟨conn.calls, kind⟩).isFresh = true ∧
      (callFrame cfg ⟨conn.calls, kind⟩).isWriting = false ∧
      (callFrame cfg ⟨conn.calls, kind⟩).hasFailed = false := by
    unfold callFrame
    cases kind with
    | send => dsimp only; split <;> exact ⟨rfl, rfl, rfl, rfl, rfl⟩
    | _ => exact ⟨rfl, rfl, rfl, rfl, rfl⟩
  have notUser : ∀ o fr, conn.users o = [.call fr] → o ≠ user := by
    rintro o fr runs rfl
    cases isIdle.symm.trans runs
  refine calls.setFrames rfl (Nat.le_succ _) (calls.history.mono (Nat.le_succ _)) ?_
    (fun _ _ _ _ => ⟨Iff.rfl, Iff.rfl, Iff.rfl, Iff.rfl⟩)
    (fun call isWriter => .inr ?_) (fun call isFailed => .inr ?_)
  · rintro _ ⟨⟩
    refine ⟨⟨?_, ?_, ?_, ?_, ?_⟩, ?_, fun o fr _ runs isSame => ?_⟩ <;> try rw [isOwner]
    · exact isKind.symm
    · exact iff_of_false (not_mem_of_below calls.history.acceptedBelow) (by simp [isFresh])
    · exact iff_of_false (not_mem_of_below calls.history.writersBelow) (by simp [notWriting])
    · exact iff_of_false (not_mem_of_below calls.history.failedBelow) (by simp [notFailed])
    · exact not_mem_of_below calls.history.returnedBelow
    · exact Nat.lt_succ_self _
    · have isBelow := calls.isBelow o fr runs
      rw [isSame, isOwner] at isBelow
      exact Nat.lt_irrefl _ isBelow
  · exact (calls.writerRuns call isWriter).imp fun o runs => ⟨notUser o _ runs, runs⟩
  · exact (calls.failedRuns call isFailed).imp fun o runs => ⟨notUser o _ runs, runs⟩

theorem CallsRecorded.runCall {cur session}
    {fr : CallFrame} {step : CallStep} {core} (calls : conn.CallsRecorded)
    (isStack : conn.users user = [.call fr])
    (runs : fr.Runs cfg cur session conn.core.sends step)
    (isSends : core.sends = step.sends) :
    CallsRecorded { conn with
      core
      users := update conn.users user (step.next.map Frame.call).toList } := by
  have recorded := calls.recorded user fr isStack
  have isBelow := calls.isBelow user fr isStack
  have unwritten := runs.next_of_unwritten recorded calls.history.writersNodup
    calls.history.failedNodup
  have isNext : ∀ tl, (step.next.map Frame.call).toList = [.call tl] → step.next = some tl := by
    intro tl isFollowing
    cases next : step.next with
    | none => simp [next] at isFollowing
    | some fr => simpa [next] using isFollowing
  have otherOwner : ∀ o tl, o ≠ user → conn.users o = [.call tl] → tl.owner ≠ fr.owner :=
    fun o tl isOther runsOther isSame =>
      isOther (calls.distinct o user tl fr runsOther isStack isSame)
  have notUser : ∀ o tl, tl.owner ≠ fr.owner → conn.users o = [.call tl] → o ≠ user := by
    rintro o tl isOther runsOther rfl
    cases isStack.symm.trans runsOther
    exact isOther rfl
  refine calls.setFrames rfl (Nat.le_refl _) (isSends ▸ runs.history recorded isBelow calls.history)
    (fun tl isFollowing => ?_) (fun o tl isOther runsOther => ?_)
    (fun call isWriter => ?_) (fun call isFailed => ?_) <;> dsimp only at * <;> rw [isSends] at *
  · obtain ⟨sameOwner, isRecorded⟩ :=
      runs.recorded recorded calls.history.writersNodup (isNext tl isFollowing)
    exact ⟨isRecorded, sameOwner ▸ isBelow, sameOwner ▸ otherOwner⟩
  · exact runs.sameFor (otherOwner o tl isOther runsOther)
  · by_cases isOwner : call = fr.owner
    · subst isOwner
      simp [unwritten.1 isWriter]
    · exact .inr ((calls.writerRuns call ((runs.sameFor isOwner).writer.mp isWriter)).imp
        fun o runs => ⟨notUser o (.waitReplyWrite call) isOwner runs, runs⟩)
  · by_cases isOwner : call = fr.owner
    · subst isOwner
      simp [unwritten.2 isFailed]
    · exact .inr ((calls.failedRuns call ((runs.sameFor isOwner).failedWriter.mp isFailed)).imp
        fun o runs => ⟨notUser o (.waitReplyWritten call false) isOwner runs, runs⟩)

theorem CallsRecorded.step {s' : ClientConnection ι} {label : ConnectionStep ι}
    (stacked : conn.WellStacked) (calls : conn.CallsRecorded)
    (taken : conn.step cfg label = some s') : s'.CallsRecorded := by
  -- A stack that is pushed on or that does not belong to a call stays one without.
  have push : ∀ (core : Core) (t : Thread ι) (fr : LifeFrame), core.sends = conn.core.sends →
      InCallback (conn.stack t) →
      CallsRecorded ({ conn with core }.setStack t (.life fr :: conn.stack t)) := by
    intro core t fr isSends inCallback
    cases t with
    | callbackThread => exact calls.of_sameCalls (isSends ▸ .rfl) rfl fun _ _ => Iff.rfl
    | user i =>
      refine calls.of_sameCalls (isSends ▸ .rfl) rfl
        (sameFrames_update (fun fr isStack => ?_) nofun)
      obtain ⟨_, isCallback⟩ := inCallback (.call fr) (by rw [stack, isStack]; rfl)
      cases isCallback
  cases takes_of_step taken with
  | stays => exact calls
  | rejects error => exact calls.reject _ error
  | begins isIdle => exact calls.begin _ isIdle
  | restarts _ inCallback | stops _ inCallback => exact push _ _ _ rfl inCallback
  | @runs t ans fr frames next core isStack _ ran =>
    cases t with
    | callbackThread =>
      have isStacked := stacked.callbackThread
      rw [show conn.callbackThread = _ from isStack] at isStacked
      refine calls.of_sameCalls (sameCalls_exec ?_ ran) rfl fun _ _ => Iff.rfl
      rintro callFrame rfl
      cases isStacked.1
    | user i =>
      have isUserStack : conn.users i = fr :: frames := isStack
      have isStacked := stacked.users i
      rw [isUserStack] at isStacked
      cases fr with
      | call fr =>
        obtain ⟨step, stepped, isAfter⟩ := map_eq_some_iff.mp ran
        have noFrames : frames = [] := isStacked.2.2 rfl
        subst noFrames
        cases isAfter
        rw [append_nil]
        exact calls.runCall isUserStack (runs_of_exec stepped) rfl
      | queue fr => cases isStacked.1
      | life fr | switch fr =>
        refine calls.of_sameCalls (sameCalls_exec ?_ ran) rfl
          (sameFrames_update ?_ (noCall_exec rfl isStacked.2.1 ran))
        · exact nofun
        · exact fun _ runs => by rw [isUserStack] at runs; cases runs
  | replies _ _ _ =>
    exact calls.of_sameCalls ⟨rfl, rfl, rfl, rfl, rfl, fun _ isReady => isReady⟩ rfl
      fun _ _ => Iff.rfl
  | _ => exact calls.of_sameCalls .rfl rfl fun _ _ => Iff.rfl

end ClientConnection

end ScoreIntegration.MessagePassing
