import ScoreIntegration.MessagePassing.SendView

/-!
# The pending reply

In orderly runs `waiting_for_reply_` has one holder: the command of
`ArmSendQueueUnderLock`, a call of `SendWaitReply` that is writing its request, a request
without an answer, or the callback thread.  So a placeholder is never left behind.
-/

namespace ScoreIntegration.MessagePassing

open Concurrency QueueFrame QueueStep Sends Activity List Option TransitionSystem

/-! ## Holders -/

inductive Holder where
  | nobody
  | command
  | writer (call : Call)
  | failedWriter (call : Call)
  | server (session : Nat) (call : Call)
  | callbackThread (callback : ReplyCallback)
  deriving DecidableEq

namespace Holder

def asyncSends : Holder → Nat
  | .command => 1
  | _ => 0

def writers : Holder → List Call
  | .writer call => [call]
  | _ => []

def failedWriters : Holder → List Call
  | .failedWriter call => [call]
  | _ => []

def requests : Holder → List (Nat × Call)
  | .server session call => [(session, call)]
  | _ => []

def callbacks : Holder → List ReplyCallback
  | .callbackThread callback => [callback]
  | _ => []

def waitingForReply : Holder → Option ReplyCallback
  | .nobody => none
  | .command => some none
  | .writer call => some (some call)
  | .failedWriter call => some (some call)
  | .server _ call => some (some call)
  | .callbackThread callback => some callback

end Holder

/-- What the callback thread holds; a request that it has written belongs to the
server. -/
def QueueFrame.holds : QueueFrame → List ReplyCallback
  | .processQueue => [none]
  | .queuedWrite command _ => [command.callback]
  | .queuedWritten command written _ =>
    if written = true ∧ command.callback.isSome = true then [] else [command.callback]
  | .queuedFail _ _ => [none]
  | .queuedFailed _ => [none]
  | .inputReply request => [some request]
  | .replyCallback _ _ => []

def QueueFrame.commands : QueueFrame → List SendCommand
  | .queuedWrite command _ => [command]
  | .queuedWritten command _ _ => [command]
  | _ => []

namespace Activity

def holds : Activity → List ReplyCallback
  | .queue frame => frame.holds
  | _ => []

def commands : Activity → List SendCommand
  | .queue frame => frame.commands
  | _ => []

/-- The commands are gone, and the pending reply is about to be taken. -/
def abandons : Activity → Bool
  | .switch .close => true
  | .switch .take => true
  | _ => false

/-- `SwitchToStopState` has taken the pending reply and empties the queue. -/
def empties : Activity → Bool
  | .switch (.callback _) => true
  | .switch .drain => true
  | .switch (.drainCallback _) => true
  | _ => false

theorem not_closing {act : Activity} (running : act.isStopping = false) :
    ¬ (act = .switch .take ∨ act.empties = true) := by
  rintro (rfl | isEmptying)
  · cases running
  · cases act with
    | switch fr => cases fr <;> simp_all [isStopping, SwitchFrame.isStopping, empties]
    | _ => cases isEmptying

end Activity

/-- A queued callback is the one of the call whose message is queued. -/
def SendCommand.Matches (command : SendCommand) : Prop :=
  ∀ call, command.callback = some call → call = command.message

namespace SendView

def outstanding (view : SendView) : List (Nat × Call) :=
  view.sends.unanswered.filter fun request => view.clientFd = some request.1

structure HeldBy (view : SendView) (holder : Holder) : Prop where
  asyncSends : view.asyncSends = holder.asyncSends
  writers : view.sends.writers = holder.writers
  failedWriters : view.sends.failedWriters = holder.failedWriters
  outstanding : view.outstanding = holder.requests
  callbacks : view.activity.holds = holder.callbacks
  waiting : view.sends.waitingForReply = holder.waitingForReply ∨
    (holder = .nobody ∧ view.activity.abandons = true)

structure Held (view : SendView) : Prop where
  holder : ∃ holder, view.HeldBy holder
  stopping : view.activity.isStopping = true → view.asyncSends = 0
  closed : view.activity = .switch .take ∨ view.activity.empties = true → view.clientFd = none
  free : view.sends.waitingForReply = none →
    view.sends.sendQueue = [] ∨ view.activity.empties = true
  armed : view.asyncSends ≠ 0 ∨ view.activity = .queue .processQueue → view.sends.sendQueue ≠ []
  opened : ∀ session, view.clientFd = some session → session < view.sessions
  requested : ∀ request ∈ view.sends.unanswered,
    request.1 < view.sessions ∧ ⟨request.1, .request, request.2⟩ ∈ view.sends.wire
  queueMatches : ∀ command ∈ view.sends.sendQueue, command.Matches
  activityMatches : ∀ command ∈ view.activity.commands, command.Matches

variable {holder : Holder} {v : SendView} {call : Call} {s' : SendView}

section

variable (heldBy : v.HeldBy holder)
include heldBy

theorem HeldBy.nobody (isFree : v.sends.waitingForReply = none) : holder = .nobody := by
  rcases heldBy.waiting with wait | ⟨isNobody, _⟩
  · rw [isFree] at wait
    cases holder <;> first | rfl | cases wait
  · exact isNobody

theorem HeldBy.writer (isWriter : call ∈ v.sends.writers) : holder = .writer call := by
  rw [heldBy.writers] at isWriter
  cases holder with
  | writer o => rw [mem_singleton.mp isWriter]
  | _ => cases isWriter

theorem HeldBy.failedWriter
    (isFailed : call ∈ v.sends.failedWriters) : holder = .failedWriter call := by
  rw [heldBy.failedWriters] at isFailed
  cases holder with
  | failedWriter o => rw [mem_singleton.mp isFailed]
  | _ => cases isFailed

theorem HeldBy.server {req}
    (isUnanswered : req ∈ v.sends.unanswered) (isOpen : v.clientFd = some req.1) :
    holder = .server req.1 req.2 := by
  have isOutstanding : req ∈ v.outstanding := mem_filter.mpr ⟨isUnanswered, decide_eq_true isOpen⟩
  rw [heldBy.outstanding] at isOutstanding
  cases holder with
  | server session call => rw [mem_singleton.mp isOutstanding]
  | _ => cases isOutstanding

theorem HeldBy.callbackThread {cb}
    (holds : v.activity.holds = [cb]) : holder = .callbackThread cb := by
  rw [heldBy.callbacks] at holds
  cases holder with
  | callbackThread o =>
    cases holds
    rfl
  | _ => cases holds

theorem HeldBy.of_same (asyncSends : s'.asyncSends = v.asyncSends)
    (writers : s'.sends.writers = v.sends.writers)
    (failedWriters : s'.sends.failedWriters = v.sends.failedWriters)
    (outstanding : s'.outstanding = v.outstanding)
    (cbs : s'.activity.holds = v.activity.holds)
    (wait : s'.sends.waitingForReply = v.sends.waitingForReply)
    (abandons : s'.activity.abandons = v.activity.abandons) : s'.HeldBy holder where
  asyncSends := asyncSends.trans heldBy.asyncSends
  writers := writers.trans heldBy.writers
  failedWriters := failedWriters.trans heldBy.failedWriters
  outstanding := outstanding.trans heldBy.outstanding
  callbacks := cbs.trans heldBy.callbacks
  waiting := by
    rw [wait, abandons]
    exact heldBy.waiting

theorem Held.notAbandoned (notAbandoning : v.activity.abandons = false) :
    v.sends.waitingForReply = holder.waitingForReply := by
  refine heldBy.waiting.resolve_right fun abandoned => ?_
  rw [abandoned.2] at notAbandoning
  cases notAbandoning

end

theorem Held.free_of_not_empties (held : v.Held) (notEmptying : v.activity.empties = false)
    (isFree : v.sends.waitingForReply = none) : v.sends.sendQueue = [] := by
  refine (held.free isFree).resolve_right fun isEmptying => ?_
  rw [isEmptying] at notEmptying
  cases notEmptying

/-! ## Calls -/

theorem clientFd_of_session {session opened}
    (ofS : session = none ∨ session = v.clientFd) (isSession : session = some opened) :
    v.clientFd = some opened := by
  subst isSession
  exact (ofS.resolve_left (some_ne_none opened)).symm

theorem Held.requested_after {session : Option Nat} {sends : Sends} (held : v.Held)
    (ofS : session = none ∨ session = v.clientFd)
    (step : (∀ written ∈ v.sends.wire, written ∈ sends.wire) ∧
      ∀ req ∈ sends.unanswered, req ∈ v.sends.unanswered ∨
        (session = some req.1 ∧ ⟨req.1, .request, req.2⟩ ∈ sends.wire)) :
    ∀ req ∈ sends.unanswered, req.1 < v.sessions ∧ ⟨req.1, .request, req.2⟩ ∈ sends.wire := by
  intro req isUnanswered
  rcases step.2 req isUnanswered with wasUnanswered | ⟨isSession, isWritten⟩
  · exact (held.requested req wasUnanswered).imp_right (step.1 _)
  · exact ⟨held.opened req.1 (clientFd_of_session ofS isSession), isWritten⟩

theorem outstanding_request {session opened} (ofS : session = none ∨ session = v.clientFd)
    (isSession : session = some opened) (sameFd : s'.clientFd = v.clientFd)
    (unanswered : s'.sends.unanswered = v.sends.unanswered ++ [(opened, call)])
    (noRequest : v.outstanding = []) : s'.outstanding = [(opened, call)] := by
  unfold outstanding at noRequest ⊢
  rw [unanswered, sameFd, filter_append, noRequest]
  simp [clientFd_of_session ofS isSession]

theorem HeldBy.calls {cfg : ClientConfig} {fr : CallFrame}
    {session : Option Nat} {step : CallStep} (heldBy : v.HeldBy holder)
    (recorded : fr.Recorded v.sends) (ofS : session = none ∨ session = v.clientFd)
    (runs : fr.Runs cfg v.current session v.sends step) :
    ∃ next, HeldBy { v with
      sends := step.sends
      asyncSends := v.asyncSends + step.arms.toNat } next := by
  cases runs with
  | @requestsDirectly call opened isFree isSession =>
    cases heldBy.nobody isFree
    exact ⟨.server opened call, { heldBy with
      outstanding := outstanding_request ofS isSession rfl rfl heldBy.outstanding
      waiting := .inl rfl }⟩
  | queuesAndArms _ _ isFree _ =>
    cases heldBy.nobody isFree
    refine ⟨.command, { heldBy with asyncSends := ?_, waiting := .inl rfl }⟩
    rw [heldBy.asyncSends]
    rfl
  | @claims call isFree =>
    cases heldBy.nobody isFree
    refine ⟨.writer call, { heldBy with writers := ?_, waiting := .inl rfl }⟩
    simp only [heldBy.writers]
    rfl
  | @writes call opened isSession =>
    cases heldBy.writer (recorded.writer.mpr rfl)
    refine ⟨.server opened call, { heldBy with
      writers := ?_
      outstanding := outstanding_request ofS isSession rfl rfl heldBy.outstanding
      waiting := ?_ }⟩
    · simp only [write, heldBy.writers]
      simp [Holder.writers, CallFrame.owner]
    · exact heldBy.waiting.imp_right fun abandoned => by cases abandoned.1
  | @writeFails call _ =>
    cases heldBy.writer (recorded.writer.mpr rfl)
    refine ⟨.failedWriter call, { heldBy with writers := ?_, failedWriters := ?_, waiting := ?_ }⟩
    · simp only [giveUp, heldBy.writers]
      simp [Holder.writers, CallFrame.owner]
    · simp only [heldBy.failedWriters]
      rfl
    · exact heldBy.waiting.imp_right fun abandoned => by cases abandoned.1
  | @cancels call _ =>
    cases heldBy.failedWriter (recorded.failedWriter.mpr rfl)
    refine ⟨.nobody, { heldBy with failedWriters := ?_, waiting := .inl rfl }⟩
    simp only [CallStep.returns, finish, heldBy.failedWriters]
    simp [Holder.failedWriters, CallFrame.owner]
  | @cancelsAndArms call _ =>
    cases heldBy.failedWriter (recorded.failedWriter.mpr rfl)
    refine ⟨.command, { heldBy with asyncSends := ?_, failedWriters := ?_, waiting := .inl rfl }⟩
    · rw [heldBy.asyncSends]
      rfl
    · simp only [armSendQueueUnderLock, finish, heldBy.failedWriters]
      simp [Holder.failedWriters, CallFrame.owner]
  | _ => exact ⟨holder, { heldBy with }⟩

end SendView

variable {session : Option Nat} {sends : Sends} {config : ClientConfig} {cur : Nat}
  {fr : QueueFrame}

theorem CallFrame.Runs.sendQueue
     {fr : CallFrame} {step : CallStep} (runs : fr.Runs config cur session sends step) :
    step.sends.sendQueue = sends.sendQueue ∨ ∃ cmd, cmd.Matches ∧
        step.sends.sendQueue = sends.sendQueue ++ [cmd] := by
  have ownCallback : ∀ elem cb, fr.queuedCallback = some cb →
      SendCommand.Matches ⟨elem, fr.owner, cb⟩ := by
    intro elem cb isCb call isCall
    cases fr with
    | withCallback o =>
      cases isCb
      cases isCall
      rfl
    | send o =>
      cases isCb
      cases isCall
    | _ => cases isCb
  cases runs with
  | queues isCb _ _ | queuesAndArms _ isCb _ _ => exact .inr ⟨_, ownCallback _ _ isCb, rfl⟩
  | @queuesAndWaits call _ elem _ _ _ =>
    refine .inr ⟨⟨elem, call, some call⟩, fun o isCall => ?_, rfl⟩
    cases isCall
    rfl
  | _ => exact .inl rfl

namespace SendView

theorem Held.calls {config : ClientConfig} {v : SendView} {fr : CallFrame}
    {session : Option Nat} {step : CallStep} (held : v.Held)
    (recorded : fr.Recorded v.sends) (ofS : session = none ∨ session = v.clientFd)
    (runs : fr.Runs config v.current session v.sends step)
    (arms : step.arms = true → v.activity.isStopping = false) :
    Held { v with
      sends := step.sends
      asyncSends := v.asyncSends + step.arms.toNat } := by
  obtain ⟨holder, heldBy⟩ := held.holder
  refine ⟨heldBy.calls recorded ofS runs, ?_, held.closed, ?_, ?_, held.opened, ?_,
    ?_, held.activityMatches⟩
  · intro isStopping
    have notArmed : step.arms = false := by
      by_contra isArmed
      simp [isStopping] at arms
      exact isArmed arms
    simp only [notArmed, held.stopping isStopping]
    rfl
  · have free := held.free
    cases runs with
    | cancels isEmpty => exact fun _ => .inl isEmpty
    | requestsDirectly _ _ | queuesAndArms _ _ _ _ | claims _ | cancelsAndArms _ => exact nofun
    | queues _ wait _ | queuesAndWaits wait _ => exact fun isFree => nomatch wait.symm.trans isFree
    | _ => exact free
  · have grows : v.sends.sendQueue ≠ [] → step.sends.sendQueue ≠ [] := by
      intro notEmpty
      rcases runs.sendQueue with same | ⟨cmd, _, appended⟩
      · rwa [same]
      · rw [appended]
        simp
    rintro (isArmed | processes)
    · by_cases wasArmed : v.asyncSends = 0
      · have isArmed : step.arms = true := by
          cases isStep : step.arms with
          | true => rfl
          | false => simp [wasArmed, isStep] at isArmed
        cases runs with
        | queuesAndArms _ _ _ _ => simp [queued, armSendQueueUnderLock, finish]
        | cancelsAndArms notEmpty => exact notEmpty
        | _ => cases isArmed
      · exact grows (held.armed (.inl wasArmed))
    · exact grows (held.armed (.inr processes))
  · refine held.requested_after ofS ?_
    clear held heldBy arms recorded ofS
    cases runs
    all_goals
      simp_all [accept, write, finish, queued, giveUp, armSendQueueUnderLock, CallStep.returns]
    all_goals grind
  · intro cmd isCmd
    rcases runs.sendQueue with same | ⟨last, lastMatches, appended⟩
    · simp only [same] at isCmd
      exact held.queueMatches cmd isCmd
    · simp only [appended] at isCmd
      rcases mem_append.mp isCmd with isCmd | isLast
      · exact held.queueMatches cmd isCmd
      · rw [mem_singleton.mp isLast]
        exact lastMatches

end SendView

/-! ## The callback thread -/

/-- A frame that goes on in the loop of `ProcessSendQueueUnderLock` holds the pending
reply, and gives it back unless the loop has just begun. -/
structure QueueFrame.Continues (sends base : Sends) (frame : QueueFrame) : Prop where
  holds : ∃ callback, frame.holds = [callback]
  sendQueue : base.sendQueue = sends.sendQueue
  unanswered : base.unanswered = sends.unanswered
  wire : base.wire = sends.wire
  dropped : base.dropped = sends.dropped
  invoked : base.invoked = sends.invoked
  readyFutures : base.readyFutures = sends.readyFutures
  lateInvocations : base.lateInvocations = sends.lateInvocations
  armedWhilePending : base.armedWhilePending = sends.armedWhilePending
  waiting : frame ≠ .processQueue → base.waitingForReply = none

theorem QueueFrame.continues_of_continuesWith {base s'}
    (cont : fr.continuesWith sends = some (base, s')) : fr.Continues sends base := by
  cases goesOn_of_continuesWith cont with
  | begins =>
    exact ⟨⟨_, rfl⟩, rfl, rfl, rfl, rfl, rfl, rfl, rfl, rfl,
      fun notProcessing => absurd rfl notProcessing⟩
  | written isMessage =>
    refine ⟨⟨none, ?_⟩, rfl, rfl, rfl, rfl, rfl, rfl, rfl, rfl, fun _ => rfl⟩
    simp [holds, isMessage]
  | _ => exact ⟨⟨_, rfl⟩, rfl, rfl, rfl, rfl, rfl, rfl, rfl, rfl, fun _ => rfl⟩

def QueueStep.activity (step : QueueStep) : Activity := (step.next.map Activity.queue).getD .idle

theorem QueueStep.activity_leaves (sends : Sends) (s' : PendingReply) :
    (leaves sends s').activity.holds = [] ∧ (leaves sends s').activity.commands = [] ∧
      (leaves sends s').activity ≠ .queue .processQueue := by
  cases s' with
  | none | some _ => exact ⟨rfl, rfl, nofun⟩

theorem QueueStep.activity_not_switch (step : QueueStep) :
    step.activity.isStopping = false ∧ step.activity.abandons = false := by
  unfold activity
  cases step.next with
  | none | some fr => exact ⟨rfl, rfl⟩

namespace SendView

theorem Held.queues_heldBy {v : SendView} {fr : QueueFrame} {session : Option Nat}
    {step : QueueStep} (held : v.Held) (act : v.activity = .queue fr)
    (ofS : session = none ∨ session = v.clientFd)
    (runs : fr.Runs session v.sends step) :
    ∃ next, HeldBy { v with sends := step.sends, activity := step.activity } next := by
  obtain ⟨holder, heldBy⟩ := held.holder
  have wait := notAbandoned heldBy (by rw [act]; rfl)
  have holds : v.activity.holds = fr.holds := by rw [act]; rfl
  have same := runs.sameCalls
  cases runs with
  | @pops _ base s' cmd queue cont isQueue =>
    have continued := continues_of_continuesWith cont
    obtain ⟨cb, holdsOne⟩ := continued.holds
    cases heldBy.callbackThread (holds.trans holdsOne)
    refine ⟨.callbackThread cmd.callback, heldBy.asyncSends,
      same.writers.trans heldBy.writers, same.failedWriters.trans heldBy.failedWriters,
      ?_, rfl, .inl rfl⟩
    simpa only [outstanding, continued.unanswered, Holder.requests] using heldBy.outstanding
  | @leaves _ base s' cont isQueue =>
    have continued := continues_of_continuesWith cont
    obtain ⟨cb, holdsOne⟩ := continued.holds
    cases heldBy.callbackThread (holds.trans holdsOne)
    refine ⟨.nobody, heldBy.asyncSends, same.writers.trans heldBy.writers,
      same.failedWriters.trans heldBy.failedWriters, ?_,
      (activity_leaves base s').1, .inl (continued.waiting ?_)⟩
    · simpa only [outstanding, leaves, continued.unanswered,
        Holder.requests] using heldBy.outstanding
    · rintro rfl
      exact held.armed (.inr act) (continued.sendQueue.symm.trans isQueue)
  | @writes cmd s' opened isSession =>
    cases heldBy.callbackThread (holds.trans rfl)
    cases isCb : cmd.callback with
    | none =>
      refine ⟨.callbackThread none, heldBy.asyncSends, heldBy.writers,
        heldBy.failedWriters, ?_, ?_, .inl ?_⟩
      · simpa [outstanding, write, QueueFrame.codeOf, isCb] using heldBy.outstanding
      · simp [QueueStep.activity, Activity.holds, QueueFrame.holds, isCb, Holder.callbacks]
      · rw [← isCb]
        exact wait
    | some call =>
      have isMessage : call = cmd.message :=
        held.activityMatches cmd (by
          rw [act]
          exact mem_singleton_self _) call isCb
      refine ⟨.server opened cmd.message, heldBy.asyncSends, heldBy.writers,
        heldBy.failedWriters, ?_, ?_, .inl ?_⟩
      · refine outstanding_request ofS isSession rfl ?_ heldBy.outstanding
        simp [write, QueueFrame.codeOf, isCb]
      · simp [QueueStep.activity, Activity.holds, QueueFrame.holds, isCb, Holder.callbacks]
      · rw [← isMessage]
        refine Eq.trans wait ?_
        rw [isCb]
        rfl
  | @writeFails cmd s' _ =>
    cases heldBy.callbackThread (holds.trans rfl)
    refine ⟨.callbackThread cmd.callback, { heldBy with callbacks := ?_, waiting := .inl wait }⟩
    simp [QueueStep.activity, Activity.holds, QueueFrame.holds, Holder.callbacks]
  | @hasWritten cmd s' cb isCb =>
    have holdsNone : v.activity.holds = [] := by
      rw [holds]
      simp [QueueFrame.holds, isCb]
    exact ⟨holder, heldBy.of_same rfl rfl rfl rfl
      ((activity_leaves _ s').1.trans holdsNone.symm) rfl (by
        rw [act]
        exact (activity_not_switch _).2)⟩
  | @hasFailed cmd s' cb isCb =>
    have holdsOne : v.activity.holds = [cmd.callback] := by
      rw [holds]
      simp [QueueFrame.holds]
    cases heldBy.callbackThread holdsOne
    refine ⟨.callbackThread none, { heldBy with callbacks := rfl, waiting := .inl ?_ }⟩
    simp only [wait]
    rfl
  | @callsBack cb s' | @replies cb req =>
    exact ⟨holder, heldBy.of_same rfl same.writers same.failedWriters (by cases cb <;> rfl)
      holds.symm (by cases cb <;> rfl) (by rw [act]; rfl)⟩
  | refuses isFree =>
    cases heldBy.callbackThread (holds.trans rfl)
    rw [isFree] at wait
    cases wait

end SendView

theorem QueueFrame.Runs.sendQueue {step} (runs : fr.Runs session sends step) :
    (∀ cmd ∈ step.sends.sendQueue, cmd ∈ sends.sendQueue) ∧
      ∀ cmd ∈ step.activity.commands, cmd ∈ sends.sendQueue ∨ cmd ∈ fr.commands := by
  cases runs with
  | @pops _ base s' cmd queue cont isQueue =>
    have sameQueue := (continues_of_continuesWith cont).sendQueue
    rw [← sameQueue, isQueue]
    refine ⟨fun o isOther => mem_cons_of_mem _ isOther, ?_⟩
    intro o isOther
    rw [mem_singleton.mp isOther]
    exact .inl (mem_cons_self ..)
  | @leaves _ base s' cont _ =>
    have sameQueue := (continues_of_continuesWith cont).sendQueue
    rw [(activity_leaves base s').2.1, ← sameQueue]
    exact ⟨fun _ isCmd => isCmd, nofun⟩
  | writes _ | writeFails _ => exact ⟨fun _ isCmd => isCmd, fun _ isCmd => .inr isCmd⟩
  | @hasWritten _ s' _ _ =>
    rw [(activity_leaves _ s').2.1]
    exact ⟨fun _ isCmd => isCmd, nofun⟩
  | @callsBack cb _ | @replies cb _ => cases cb <;> exact ⟨fun _ isCmd => isCmd, nofun⟩
  | _ => exact ⟨fun _ isCmd => isCmd, nofun⟩

theorem QueueFrame.Runs.activity_ne_processQueue {step}
    (runs : fr.Runs session sends step) : step.activity ≠ .queue .processQueue := by
  cases runs with
  | @leaves _ base s' _ _ => exact (activity_leaves base s').2.2
  | @hasWritten _ s' _ _ => exact (activity_leaves _ s').2.2
  | _ => exact nofun

theorem QueueFrame.Runs.unanswered {step} (runs : fr.Runs session sends step) :
    (∀ written ∈ sends.wire, written ∈ step.sends.wire) ∧
      ∀ req ∈ step.sends.unanswered, req ∈ sends.unanswered ∨ (session = some req.1 ∧
          ⟨req.1, .request, req.2⟩ ∈ step.sends.wire) := by
  have keep : ∀ s' : Sends, s'.wire = sends.wire → s'.unanswered = sends.unanswered →
      (∀ written ∈ sends.wire, written ∈ s'.wire) ∧
        ∀ req ∈ s'.unanswered, req ∈ sends.unanswered ∨ (session = some req.1 ∧
            ⟨req.1, .request, req.2⟩ ∈ s'.wire) := by
    intro s' sameWire sameUnanswered
    rw [sameWire, sameUnanswered]
    exact ⟨fun _ isWritten => isWritten, fun _ isUnanswered => .inl isUnanswered⟩
  cases runs with
  | pops cont _ | leaves cont _ =>
    have same := continues_of_continuesWith cont
    exact keep _ same.wire same.unanswered
  | @writes cmd s' opened isSession =>
    refine ⟨fun _ isWritten => mem_append_left _ isWritten, ?_⟩
    intro req isUnanswered
    simp only [write, codeOf] at isUnanswered ⊢
    cases isCb : cmd.callback with
    | none =>
      rw [isCb] at isUnanswered
      exact .inl isUnanswered
    | some cb =>
      rw [isCb] at isUnanswered
      rcases mem_append.mp isUnanswered with wasUnanswered | isNew
      · exact .inl wasUnanswered
      · cases mem_singleton.mp isNew
        exact .inr ⟨isSession, by simp⟩
  | @callsBack cb _ | @replies cb _ => cases cb <;> exact keep _ rfl rfl
  | _ => exact keep _ rfl rfl

namespace SendView

variable {v s' : SendView} {req : Nat × Call}

theorem Held.queues {fr : QueueFrame} {session : Option Nat} {step}
    (held : v.Held) (act : v.activity = .queue fr)
    (ofS : session = none ∨ session = v.clientFd)
    (runs : fr.Runs session v.sends step) :
    Held { v with sends := step.sends, activity := step.activity } := by
  have notStopping := step.activity_not_switch.1
  obtain ⟨holder, heldBy⟩ := held.holder
  refine ⟨held.queues_heldBy act ofS runs, ?_, ?_, ?_, ?_, held.opened, ?_, ?_, ?_⟩
  · exact fun isStopping => nomatch notStopping.symm.trans isStopping
  · exact fun closing => absurd closing (not_closing notStopping)
  · have wasFree := held.free_of_not_empties (by rw [act]; rfl)
    cases runs with
    | pops _ _ => exact nofun
    | leaves _ isEmpty => exact fun _ => .inl isEmpty
    | hasFailed _ => exact fun isFree => .inl (wasFree (map_eq_none_iff.mp isFree))
    | @callsBack cb _ | @replies cb _ => cases cb <;> exact fun isFree => .inl (wasFree isFree)
    | _ => exact fun isFree => .inl (wasFree isFree)
  · rintro (isArmed | processes)
    · -- An armed command holds the pending reply, so the callback thread does not.
      have notHeld : ∀ cb, fr.holds ≠ [cb] := by
        intro cb holdsOne
        have isHolder : holder = .callbackThread cb :=
          heldBy.callbackThread (by rw [act]; exact holdsOne)
        rw [isHolder] at heldBy
        exact isArmed heldBy.asyncSends
      have wasArmed := held.armed (.inl isArmed)
      cases runs with
      | pops cont _ | leaves cont _ =>
        exact absurd (continues_of_continuesWith cont).holds (by simpa using notHeld)
      | @callsBack cb _ | @replies cb _ => cases cb <;> exact wasArmed
      | _ => exact wasArmed
    · exact absurd processes runs.activity_ne_processQueue
  · exact held.requested_after ofS runs.unanswered
  · exact fun cmd isCmd => held.queueMatches cmd (runs.sendQueue.1 cmd isCmd)
  · intro cmd isCmd
    rcases runs.sendQueue.2 cmd isCmd with isQueued | wasHeld
    · exact held.queueMatches cmd isQueued
    · exact held.activityMatches cmd (by rw [act]; exact wasHeld)

/-! ## Stopping -/

theorem outstanding_of_closed (isClosed : v.clientFd = none) : v.outstanding = [] := by
  simp [outstanding, isClosed]

/-- A step of `SwitchToStopState` on the messages: taking the pending reply makes it
free, and the other steps do not touch it. -/
theorem Held.switches {fr next sends} (held : v.Held)
    (act : v.activity = .switch fr) (runs : fr.Runs v.sends sends next)
    (noWriters : fr = .take → v.sends.writers = [] ∧ v.sends.failedWriters = []) :
    Held { v with sends, activity := .switch next } := by
  obtain ⟨holder, heldBy⟩ := held.holder
  have isStopping : v.activity.isStopping = true ∧ (v.activity = .switch .take ∨
      v.activity.empties = true) := by
    rw [act]
    cases runs with
    | empties isDrain _ | drains isDrain _ _ _ =>
      rcases isDrain with rfl | ⟨rfl, _⟩ <;> simp [isStopping, SwitchFrame.isStopping, empties]
    | callsBack isCb => rcases isCb with rfl | rfl <;> exact ⟨rfl, .inr rfl⟩
    | _ => exact ⟨rfl, .inl rfl⟩
  have notArmed := held.stopping isStopping.1
  have isClosed := held.closed isStopping.2
  have holdsNone : v.activity.holds = [] := by rw [act]; rfl
  -- After the pending reply has been taken nobody holds it.
  have takenBy : ∀ s' : Sends, fr = .take → s'.writers = v.sends.writers →
      s'.failedWriters = v.sends.failedWriters → s'.waitingForReply = none →
      HeldBy { v with sends := s', activity := .switch next } .nobody := by
    intro s' isTake writers failedWriters isFree
    exact ⟨notArmed, writers.trans (noWriters isTake).1,
      failedWriters.trans (noWriters isTake).2, outstanding_of_closed isClosed, rfl,
      .inl isFree⟩
  have keptBy : ∀ s' : Sends, v.activity.abandons = false → s'.writers = v.sends.writers →
      s'.failedWriters = v.sends.failedWriters →
      s'.unanswered = v.sends.unanswered →
      s'.waitingForReply = v.sends.waitingForReply →
      HeldBy { v with sends := s', activity := .switch next } holder := by
    intro s' notAbandoning writers failedWriters unanswered wait
    refine ⟨heldBy.asyncSends, writers.trans heldBy.writers,
      failedWriters.trans heldBy.failedWriters, ?_, holdsNone.symm.trans heldBy.callbacks,
      .inl (wait.trans (notAbandoned heldBy notAbandoning))⟩
    simp only [outstanding, unanswered]
    exact heldBy.outstanding
  have build : ∀ s' : Sends,
      (∃ holder, HeldBy { v with sends := s', activity := .switch next } holder) →
      (s'.waitingForReply = none → s'.sendQueue = [] ∨ (switch next).empties = true) →
      s'.unanswered = v.sends.unanswered → s'.wire = v.sends.wire →
      (∀ cmd ∈ s'.sendQueue, cmd ∈ v.sends.sendQueue) →
      Held { v with sends := s', activity := .switch next } := by
    intro s' heldAfter free unanswered wire isQueued
    refine ⟨heldAfter, fun _ => notArmed, fun _ => isClosed, free, ?_, held.opened, ?_, ?_, nofun⟩
    · rintro (isArmed | processes)
      · exact absurd notArmed isArmed
      · cases processes
    · simp only [unanswered, wire]
      exact held.requested
    · exact fun cmd isCmd => held.queueMatches cmd (isQueued cmd isCmd)
  have drained (queue : List SendCommand) (dropped : List Call)
      (isDrain : fr = .drain ∨ fr = .take ∧ v.sends.waitingForReply = none) :
      ∃ holder, HeldBy { v with
        sends := { v.sends with sendQueue := queue, dropped }
        activity := .switch next } holder := by
    rcases isDrain with rfl | ⟨rfl, isFree⟩
    · exact ⟨holder, keptBy _ (by rw [act]; rfl) rfl rfl rfl rfl⟩
    · exact ⟨.nobody, takenBy _ rfl rfl rfl isFree⟩
  cases runs with
  | empties isDrain _ => exact build _ (drained _ _ isDrain) (fun _ => .inl rfl) rfl rfl nofun
  | drains isDrain isQueue _ _ =>
    refine build _ (drained _ _ isDrain) (fun _ => .inr rfl) rfl rfl fun cmd isCmd => ?_
    rw [isQueue]
    exact mem_append_right _ (mem_cons_of_mem _ isCmd)
  | callsBack isCb =>
    refine build _ ⟨holder, keptBy _ ?_ rfl rfl rfl rfl⟩ (fun _ => .inr rfl) rfl rfl
      fun _ isCmd => isCmd
    rw [act]
    rcases isCb with rfl | rfl <;> rfl
  | _ =>
    exact build _ ⟨.nobody, takenBy _ rfl rfl rfl rfl⟩ (fun _ => .inr rfl) rfl rfl
      fun _ isCmd => isCmd

/-! ## The other steps -/

theorem Held.cleansUp (held : v.Held) (act : v.activity = .switch .cleanUp) :
    Held { v with asyncSends := 0, activity := .switch .close } := by
  obtain ⟨holder, heldBy⟩ := held.holder
  have wait := notAbandoned heldBy (by rw [act]; rfl)
  have holdsNone : v.activity.holds = [] := by rw [act]; rfl
  refine ⟨?_, fun _ => rfl, ?_, ?_, ?_, held.opened, held.requested, held.queueMatches, nofun⟩
  · have cbs := holdsNone.symm.trans heldBy.callbacks
    cases holder with
    | command =>
      exact ⟨.nobody, { heldBy with
        asyncSends := rfl, callbacks := rfl, waiting := .inr ⟨rfl, rfl⟩ }⟩
    | _ => exact ⟨_, { heldBy with asyncSends := rfl, callbacks := cbs, waiting := .inl wait }⟩
  · nofun
  · exact fun isFree => .inl (held.free_of_not_empties (by rw [act]; rfl) isFree)
  · rintro (isArmed | processes)
    · exact absurd rfl isArmed
    · cases processes

theorem Held.closes (held : v.Held) (act : v.activity = .switch .close) :
    Held { v with clientFd := none, activity := .switch .take } := by
  obtain ⟨holder, heldBy⟩ := held.holder
  have holdsNone : v.activity.holds = [] := by rw [act]; rfl
  have notArmed := held.stopping (by rw [act]; rfl)
  refine ⟨?_, fun _ => notArmed, fun _ => rfl, ?_, ?_, nofun,
    held.requested, held.queueMatches, nofun⟩
  · have cbs := holdsNone.symm.trans heldBy.callbacks
    have isClosed : outstanding { v with clientFd := none, activity := .switch .take } =
        [] := outstanding_of_closed rfl
    have abandons : ∀ holder : Holder, v.sends.waitingForReply = holder.waitingForReply ∨
        (holder = .nobody ∧ v.activity.abandons = true) →
        v.sends.waitingForReply = holder.waitingForReply ∨
          (holder = .nobody ∧ (switch .take).abandons = true) :=
      fun _ wait => wait.imp_right fun abandoned => ⟨abandoned.1, rfl⟩
    cases holder with
    | server session call =>
      exact ⟨.nobody, { heldBy with
        outstanding := isClosed, callbacks := rfl, waiting := .inr ⟨rfl, rfl⟩ }⟩
    | _ =>
      exact ⟨_, { heldBy with
        outstanding := isClosed, callbacks := cbs, waiting := abandons _ heldBy.waiting }⟩
  · exact fun isFree => .inl (held.free_of_not_empties (by rw [act]; rfl) isFree)
  · rintro (isArmed | processes)
    · exact absurd notArmed isArmed
    · cases processes

theorem Held.processes {asyncSends} (held : v.Held) (isIdle : v.activity = .idle)
    (isArmed : v.asyncSends = asyncSends + 1) :
    Held { v with asyncSends, activity := .queue .processQueue } := by
  obtain ⟨holder, heldBy⟩ := held.holder
  have wait := notAbandoned heldBy (by rw [isIdle]; rfl)
  have count := isArmed.symm.trans heldBy.asyncSends
  refine ⟨?_, nofun, ?_, ?_, ?_, held.opened, held.requested, held.queueMatches, nofun⟩
  · cases holder with
    | command =>
      exact ⟨.callbackThread none, { heldBy with
        asyncSends := Nat.succ.inj count, callbacks := rfl, waiting := .inl wait }⟩
    | _ => cases count
  · nofun
  · exact fun isFree => .inl (held.free_of_not_empties (by rw [isIdle]; rfl) isFree)
  · exact fun _ => held.armed (.inl (by rw [isArmed]; exact Nat.succ_ne_zero _))

theorem outstanding_replied (onlyRequest : v.outstanding = [req])
    (sameFd : s'.clientFd = v.clientFd)
    (unanswered : s'.sends.unanswered = v.sends.unanswered.erase req) :
    s'.outstanding = [] := by
  unfold outstanding at onlyRequest ⊢
  rw [unanswered, sameFd, ← erase_filter, onlyRequest]
  simp

section

variable (held : v.Held)
include held

theorem Held.replies (isIdle : v.activity = .idle)
    (isUnanswered : req ∈ v.sends.unanswered) (isOpen : v.clientFd = some req.1) :
    Held { v with
      sends := { v.sends with
        unanswered := v.sends.unanswered.erase req }
      activity := .queue (.inputReply req.2) } := by
  obtain ⟨holder, heldBy⟩ := held.holder
  have wait := notAbandoned heldBy (by rw [isIdle]; rfl)
  cases heldBy.server isUnanswered isOpen
  refine ⟨⟨.callbackThread (some req.2), heldBy.asyncSends, heldBy.writers,
    heldBy.failedWriters, ?_, rfl, .inl wait⟩, nofun,
    ?_, ?_, ?_, held.opened, ?_, held.queueMatches, nofun⟩
  · exact outstanding_replied heldBy.outstanding rfl rfl
  · nofun
  · exact fun isFree => .inl (held.free_of_not_empties (by rw [isIdle]; rfl) isFree)
  · rintro (isArmed | processes)
    · exact held.armed (.inl isArmed)
    · cases processes
  · exact fun o isOther => held.requested o (mem_of_mem_erase isOther)

theorem Held.outstanding_opened : SendView.outstanding { v with
      clientFd := some v.sessions
      sessions := v.sessions + 1 } = [] := by
  refine filter_eq_nil_iff.mpr fun req isUnanswered => ?_
  have isEarlier := (held.requested req isUnanswered).1
  simp only [decide_eq_true_eq, some.injEq]
  omega

theorem Held.opens (isClosed : v.clientFd = none) (notStopping : v.activity.isStopping = false) :
    Held { v with
      clientFd := some v.sessions
      sessions := v.sessions + 1 } := by
  obtain ⟨holder, heldBy⟩ := held.holder
  have noRequests := (outstanding_of_closed isClosed).symm.trans heldBy.outstanding
  refine { held with
    holder := ⟨holder, { heldBy with outstanding := ?_ }⟩
    closed := ?_, opened := ?_, requested := ?_ }
  · exact held.outstanding_opened.trans noRequests
  · exact fun closing => absurd closing (not_closing notStopping)
  · intro session isOpen
    cases isOpen
    exact Nat.lt_succ_self _
  · intro req isUnanswered
    obtain ⟨isEarlier, isWritten⟩ := held.requested req isUnanswered
    exact ⟨Nat.lt_succ_of_lt isEarlier, isWritten⟩

theorem Held.setActivity {activity}
    (holds : activity.holds = v.activity.holds) (commands : activity.commands = [])
    (abandons : activity.abandons = v.activity.abandons)
    (notStopping : activity.isStopping = false) (wasNotEmptying : v.activity.empties = false)
    (notProcessing : activity ≠ .queue .processQueue) : Held { v with activity } := by
  obtain ⟨holder, heldBy⟩ := held.holder
  refine ⟨⟨holder, heldBy.of_same rfl rfl rfl rfl holds rfl abandons⟩, ?_, ?_, ?_, ?_,
    held.opened, held.requested, held.queueMatches, ?_⟩
  · exact fun isStopping => nomatch notStopping.symm.trans isStopping
  · exact fun closing => absurd closing (not_closing notStopping)
  · exact fun isFree => .inl (held.free_of_not_empties wasNotEmptying isFree)
  · rintro (isArmed | processes)
    · exact held.armed (.inl isArmed)
    · exact absurd processes notProcessing
  · intro cmd isCommand
    rw [show Activity.commands _ = [] from commands] at isCommand
    cases isCommand

theorem Held.step {config : ClientConfig} {allows : Sends → CallFrame → Prop}
    (step : SendView.Step config allows v s') : s'.Held := by
  cases step with
  | stutters => exact held
  | rejects call error =>
    obtain ⟨holder, heldBy⟩ := held.holder
    exact { held with holder := ⟨holder, { heldBy with }⟩ }
  | calls recorded _ ofSession runs arms => exact held.calls recorded ofSession runs arms
  | queues act ofSession runs => exact held.queues act ofSession runs
  | cleansUp act => exact held.cleansUp act
  | closes act => exact held.closes act
  | hasStopped act =>
    refine held.setActivity ?_ rfl ?_ rfl ?_ Activity.noConfusion <;> rw [act] <;> rfl
  | switches act runs noWriters => exact held.switches act runs noWriters
  | processes isIdle isArmed => exact held.processes isIdle isArmed
  | replies isIdle isUnanswered isOpen => exact held.replies isIdle isUnanswered isOpen
  | stops isIdle =>
    refine held.setActivity ?_ rfl ?_ rfl ?_ Activity.noConfusion <;> rw [isIdle] <;> rfl
  | opens isClosed notStopping => exact held.opens isClosed notStopping

end

end SendView

/-! ## Reachable states -/

theorem QueueFrame.Runs.armedWhilePending {step} (runs : fr.Runs session sends step) :
    step.sends.armedWhilePending = sends.armedWhilePending := by
  cases runs with
  | pops cont _ | leaves cont _ => exact (continues_of_continuesWith cont).armedWhilePending
  | @callsBack cb _ | @replies cb _ => cases cb <;> rfl
  | _ => rfl

theorem SwitchFrame.Runs.armedWhilePending {s' : Sends} {fr next : SwitchFrame}
    (runs : fr.Runs sends s' next) : s'.armedWhilePending = sends.armedWhilePending := by
  cases runs <;> rfl

/-- A call whose request could not be written finds no queued messages. -/
def CallFrame.CancelsAlone (sends : Sends) : CallFrame → Prop
  | .waitReplyWritten _ false => sends.sendQueue = []
  | _ => True

instance (sends : Sends) (frame : CallFrame) : Decidable (CallFrame.CancelsAlone sends frame) := by
  unfold CallFrame.CancelsAlone
  split <;> infer_instance

theorem SendView.Step.armedWhilePending {v s' : SendView}
    (step : SendView.Step config CallFrame.CancelsAlone v s')
    (notArmed : v.sends.armedWhilePending = false) : s'.sends.armedWhilePending = false := by
  cases step with
  | calls _ cancelsAlone _ runs _ =>
    cases runs with
    | queuesAndArms _ _ isFree _ =>
      simp [finish, armSendQueueUnderLock, queued, accept, notArmed, isFree]
    | cancelsAndArms notEmpty => exact absurd cancelsAlone notEmpty
    | _ => exact notArmed
  | queues _ _ runs | switches _ runs _ => exact runs.armedWhilePending.trans notArmed
  | _ => exact notArmed

namespace ClientConnection

variable {ι : Type} [DecidableEq ι]

/-- An orderly step in which no call has to unblock the messages behind it. -/
def Unblocked (config : ClientConfig) (connection : ClientConnection ι) : ConnectionStep ι → Prop
  | .run thread answer => ∀ frame ∈ (connection.stack thread).head?,
      connection.FrameInOrder config thread answer.opens frame ∧
        ∀ call ∈ frame.call?, CallFrame.CancelsAlone connection.core.sends call
  | _ => True

/-- The queue is not processed and will not be, the connection does not stop, and no
call of `SendWaitReply` is between its sections without a written request. -/
structure IsQuiet (connection : ClientConnection ι) : Prop where
  commands : .asyncSend ∉ connection.core.commands
  callbackThread : ∀ frame ∈ connection.callbackThread, frame.isLife = true
  users : connection.NoUnwritten

omit [DecidableEq ι] in
theorem start_held (config : ClientConfig) : (start ι config).view.Held where
  holder := ⟨.nobody, rfl, rfl, rfl, rfl, rfl, .inl rfl⟩
  stopping := fun _ => rfl
  closed := fun _ => rfl
  free := fun _ => .inl rfl
  armed := by
    rintro (isArmed | processes)
    · exact absurd rfl isArmed
    · cases processes
  opened := nofun
  requested := nofun
  queueMatches := nofun
  activityMatches := nofun

omit [DecidableEq ι] in
theorem IsQuiet.pending {conn : ClientConnection ι} (quiet : conn.IsQuiet)
    (calls : conn.CallsRecorded) (held : conn.view.Held) :
    (conn.core.sends.waitingForReply = none ∧ conn.core.sends.sendQueue = []) ∨
      ∃ session call, conn.core.sends.waitingForReply = some (some call) ∧
        ⟨session, .request, call⟩ ∈ conn.core.sends.wire ∧
        (session, call) ∈ conn.core.sends.unanswered ∧
        conn.core.life.clientFd = some session := by
  have isIdle : conn.view.activity = .idle := ofStack_of_life quiet.callbackThread
  obtain ⟨holder, heldBy⟩ := held.holder
  have wait : conn.core.sends.waitingForReply = holder.waitingForReply :=
    SendView.Held.notAbandoned heldBy (by rw [isIdle]; rfl)
  obtain ⟨noWriter, noFailedWriter⟩ := noWriters calls quiet.users
  cases holder with
  | nobody => exact .inl ⟨wait, held.free_of_not_empties (by rw [isIdle]; rfl) wait⟩
  | command =>
    have isArmed : conn.core.commands.count .asyncSend = 1 := heldBy.asyncSends
    rw [count_eq_zero.mpr quiet.commands] at isArmed
    cases isArmed
  | writer call => cases noWriter.symm.trans heldBy.writers
  | failedWriter call => cases noFailedWriter.symm.trans heldBy.failedWriters
  | callbackThread cb =>
    have holdsNone : conn.view.activity.holds = [] := by rw [isIdle]; rfl
    cases holdsNone.symm.trans heldBy.callbacks
  | server session call =>
    have isOutstanding : (session, call) ∈ conn.view.outstanding := by
      rw [heldBy.outstanding]
      exact mem_singleton_self _
    obtain ⟨isUnanswered, isOpen⟩ := mem_filter.mp isOutstanding
    exact .inr ⟨session, call, wait, (held.requested _ isUnanswered).2, isUnanswered,
      of_decide_eq_true isOpen⟩

theorem reachable_held {cfg : ClientConfig} {conn : ClientConnection ι}
    (reach : ((system ι cfg).restrict (Unblocked cfg)).Reachable conn) :
    conn.CallsRecorded ∧ conn.view.Held ∧ conn.core.sends.armedWhilePending = false := by
  obtain ⟨inOrder, held⟩ := view_invariant (fun _ label isAllowed => by
      cases label with
      | run t ans => exact fun fr isTop => (isAllowed fr isTop).1
      | _ => trivial)
    (fun _ _ _ call isAllowed isCall => (isAllowed _ isCall).2 call rfl)
    (fun v => v.Held ∧ v.sends.armedWhilePending = false)
    ⟨start_held cfg, rfl⟩
    (fun _ _ _ _ holds step => ⟨holds.1.step step, step.armedWhilePending holds.2⟩)
    reach
  exact ⟨inOrder.calls, held⟩

/-- The queue is armed only while no reply is pending; and in a quiet connection the pending
reply belongs to a request that has been written and not answered. -/
theorem reachable_pending_reply_is_requested {config : ClientConfig}
    {connection : ClientConnection ι}
    (reachable : ((system ι config).restrict (Unblocked config)).Reachable connection) :
    connection.core.sends.armedWhilePending = false ∧ (connection.IsQuiet →
        (connection.core.sends.waitingForReply = none ∧ connection.core.sends.sendQueue = []) ∨
          ∃ session call, connection.core.sends.waitingForReply = some (some call) ∧
            ⟨session, .request, call⟩ ∈ connection.core.sends.wire ∧
            (session, call) ∈ connection.core.sends.unanswered ∧
            connection.core.life.clientFd = some session) := by
  obtain ⟨calls, held, notArmed⟩ := reachable_held reachable
  exact ⟨notArmed, fun quiet => quiet.pending calls held⟩

instance [Fintype ι] (config : ClientConfig) (connection : ClientConnection ι)
    (label : ConnectionStep ι) : Decidable (Unblocked config connection label) :=
  match label with
  | .run .. => Option.decidableForallMem _
  | .call .. | .start .. | .restart .. | .stop .. | .command | .retry | .reply
  | .notify | .inputError .. => .isTrue trivial

theorem queued_behind_request : ∃ connection : ClientConnection Unit,
      ((system Unit .ordered).restrict (Unblocked .ordered)).Reachable connection ∧
      connection.IsQuiet ∧ connection.core.sends.sendQueue ≠ [] ∧
      ((connection.core.sends.waitingForReply = none ∧ connection.core.sends.sendQueue = []) ∨
        ∃ session call, connection.core.sends.waitingForReply = some (some call) ∧
          ⟨session, .request, call⟩ ∈ connection.core.sends.wire ∧
          (session, call) ∈ connection.core.sends.unanswered ∧
          connection.core.life.clientFd = some session) := by
  obtain ⟨connection, reachable, noCommands, isIdle, noFrames, notEmpty⟩ : ∃ connection,
      ((system Unit .ordered).restrict (Unblocked .ordered)).Reachable connection ∧
      connection.core.commands = [] ∧ connection.callbackThread = [] ∧
      connection.users () = [] ∧ connection.core.sends.sendQueue ≠ [] :=
    exists_restricted (becomesReady () (.start ()) ++ callsAndRuns () .withCallback ++
      callsAndRuns () .send) ⟨_, rfl, rfl, rfl, rfl, List.cons_ne_nil _ _⟩
  have quiet : connection.IsQuiet := by
    refine ⟨by simp [noCommands], by simp [isIdle], ?_⟩
    rintro ⟨⟩
    simp [noFrames]
  exact ⟨connection, reachable, quiet, notEmpty,
    (reachable_pending_reply_is_requested reachable).2 quiet⟩

/-- The commands that process the queue, the requests of the open session without an answer,
and the requests that are being written. -/
def inProgress (connection : ClientConnection ι) : Nat :=
  connection.core.commands.count .asyncSend + connection.core.sends.writers.length +
    (connection.core.sends.unanswered.filter fun request =>
      connection.core.life.clientFd = some request.1).length

/-- At most one of them at any time. -/
theorem reachable_one_in_progress {config : ClientConfig} {connection : ClientConnection ι}
    (reachable : ((system ι config).restrict (Unblocked config)).Reachable connection) :
    connection.inProgress ≤ 1 := by
  obtain ⟨-, held, -⟩ := reachable_held reachable
  obtain ⟨holder, heldBy⟩ := held.holder
  have isTotal : connection.inProgress =
      holder.asyncSends + holder.writers.length + holder.requests.length := by
    rw [← heldBy.asyncSends, ← heldBy.writers, ← heldBy.outstanding]
    rfl
  rw [isTotal]
  cases holder <;> simp [Holder.asyncSends, Holder.writers, Holder.requests]

theorem written_request_in_progress : ∃ connection : ClientConnection Unit,
    ((system Unit .ordered).restrict (Unblocked .ordered)).Reachable connection ∧
      connection.inProgress = 1 := by
  obtain ⟨connection, reachable, isPending⟩ : ∃ connection,
      ((system Unit .ordered).restrict (Unblocked .ordered)).Reachable connection ∧
      1 ≤ connection.inProgress :=
    exists_restricted (becomesReady () (.start ()) ++ callsAndRuns () .withCallback)
      ⟨_, rfl, by decide⟩
  exact ⟨connection, reachable, (reachable_one_in_progress reachable).antisymm isPending⟩

/-- `SendWaitReply` fails to write its request while a message is queued behind it: it
arms the queue although its own callback is still pending. -/
def failedRequestArms : List (ConnectionStep Bool) :=
  becomesReady true (.start true) ++ callsAndRuns true .waitReply ++ callsAndRuns false .send ++
    List.replicate 2 (.run (.user true) ⟨false, .opened⟩)

/-- A message is sent while `SwitchToStopState` calls the pending callback.  After a restart
the placeholder is still there. -/
def sentWhileStopping : List (ConnectionStep Bool) :=
  becomesReady true (.start true) ++ callsAndRuns true .withCallback ++
    .command :: List.replicate 3 (.run .callbackThread ⟨true, .opened⟩) ++
    .call false .send false :: becomesStopped true 4 ++
    .run (.user false) ⟨true, .opened⟩ ::
    List.replicate 3 (.run .callbackThread ⟨true, .opened⟩) ++
    [.command, .run .callbackThread ⟨true, .opened⟩] ++
    becomesReady true (.restart (.user true)) ++ callsAndRuns false .send

theorem armed_while_pending_and_stranded : (∃ connection : ClientConnection Bool,
      (system Bool .ordered).Reachable connection ∧
      connection.core.sends.armedWhilePending = true) ∧
    ∃ connection : ClientConnection Bool, (system Bool .async).Reachable connection ∧
      connection.core.life.state = .ready ∧
      connection.core.commands = [] ∧ connection.core.retries = 0 ∧
      connection.callbackThread = [] ∧ (∀ user, connection.users user = []) ∧
      connection.core.sends.waitingForReply = some none ∧
      connection.core.sends.sendQueue ≠ [] := by
  constructor
  · exact exists_reachable failedRequestArms ⟨_, rfl, rfl⟩
  · exact exists_reachable sentWhileStopping
      ⟨_, rfl, rfl, rfl, rfl, rfl, by rintro (_ | _) <;> rfl, rfl, List.cons_ne_nil _ _⟩

/-! ## Replies that no request waits for -/

section

variable (config : ClientConfig) (connection : ClientConnection ι)

end

end ClientConnection

end ScoreIntegration.MessagePassing
