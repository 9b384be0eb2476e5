import Mathlib.Data.List.Perm.Subperm
import ScoreIntegration.MessagePassing.PendingReply

/-!
# The order of messages

In orderly runs of a fully ordered or truly asynchronous connection the engine gets the
messages of a session in the order in which their calls held the mutex: what may still
be written in the session follows what was written before.
-/

namespace ScoreIntegration.MessagePassing

open Concurrency Activity QueueFrame List Option List.Sublist Sends Written QueueStep
open List (append_assoc append_nil count_append count_nil map_append map_cons map_nil nil_append
  nil_sublist)

/-- `Send` keeps the order of its message. -/
def CallFrame.isOrdered : CallFrame → Bool
  | .sendUnordered _ => false
  | _ => true

def Written.accepted (written : Written) : Accepted := ⟨written.session, written.message⟩

namespace Activity

def writing : Activity → List Call
  | .queue (.queuedWrite command _) => [command.message]
  | _ => []

/-- The messages that may still be written in the current session, in their order.  After the
session has been closed the queue is only emptied. -/
def pending (writers queued : List Call) : Activity → List Call
  | .idle => writers ++ queued
  | .queue frame => writers ++ (Activity.queue frame).writing ++ queued
  | .switch .take => []
  | .switch (.callback _) => writers
  | .switch .drain => writers
  | .switch (.drainCallback _) => writers
  | .switch .cleanUp => writers ++ queued
  | .switch .close => writers ++ queued
  | .switch .stopped => writers ++ queued

variable {act : Activity}

theorem writing_eq_nil (holdsNone : act.holds = []) : act.writing = [] := by
  cases act with
  | queue fr =>
    cases fr with
    | queuedWrite cmd s' => cases holdsNone
    | _ => rfl
  | _ => rfl

theorem pending_cases (act : Activity) : act = .switch .take ∨
    act.empties = true ∧ (∀ writers queued, act.pending writers queued = writers) ∨
    act.empties = false ∧
      ∀ writers queued, act.pending writers queued = writers ++ act.writing ++ queued := by
  cases act with
  | idle => exact .inr (.inr ⟨rfl, fun _ _ => by simp [pending, writing]⟩)
  | queue fr => exact .inr (.inr ⟨rfl, fun _ _ => rfl⟩)
  | switch fr =>
    cases fr with
    | take => exact .inl rfl
    | callback _ | drain | drainCallback _ => exact .inr (.inl ⟨rfl, fun _ _ => rfl⟩)
    | _ => exact .inr (.inr ⟨rfl, fun _ _ => by simp [pending, writing]⟩)

theorem pending_of_open (isOpen : ¬ (act = .switch .take ∨ act.empties = true))
    (writers queued : List Call) :
    act.pending writers queued = writers ++ act.writing ++ queued := by
  rcases act.pending_cases with isTake | ⟨isEmptying, -⟩ | ⟨-, same⟩
  · exact absurd (.inl isTake) isOpen
  · exact absurd (.inr isEmptying) isOpen
  · exact same _ _

theorem pending_sublist {writers fewer} (isSublist : fewer.Sublist writers) (queued : List Call)
    (act : Activity) : (act.pending fewer queued).Sublist (act.pending writers queued) := by
  rcases act.pending_cases with rfl | ⟨-, same⟩ | ⟨-, same⟩
  · exact refl _
  · rwa [same, same]
  · rw [same, same]
    exact (isSublist.append (refl _)).append (refl _)

theorem pending_queue (act : Activity) (writers queued : List Call) (msg : Call) :
    act.pending writers (queued ++ [msg]) = act.pending writers queued ++ [msg] ∨
      act.pending writers (queued ++ [msg]) = act.pending writers queued := by
  rcases act.pending_cases with rfl | ⟨-, same⟩ | ⟨-, same⟩
  · exact .inr rfl
  · exact .inr ((same _ _).trans (same _ _).symm)
  · rw [same, same]
    exact .inl (append_assoc _ _ _).symm

theorem pending_claim {queued} (call : Call) (isNone : act.pending [] queued = []) :
    (act.pending [call] queued).Sublist [call] := by
  rcases act.pending_cases with rfl | ⟨-, same⟩ | ⟨-, same⟩
  · exact nil_sublist _
  · rw [same]
  · rw [same, nil_append, append_eq_nil_iff] at isNone
    rw [same, isNone.1, isNone.2]
    exact refl _

end Activity

theorem QueueFrame.writing_of_continuesWith {sends base fr s'}
    (cont : fr.continuesWith sends = some (base, s')) : (queue fr).writing = [] := by
  cases fr with
  | queuedWrite cmd pending => cases cont
  | _ => rfl

namespace SendView

def queued (view : SendView) : List Call := view.sends.sendQueue.map SendCommand.message

def pending (view : SendView) : List Call := view.activity.pending view.sends.writers view.queued

/-- The written messages and the ones that may still be written in this session are in
the order in which they were accepted. -/
def Ordered (view : SendView) : Prop :=
  (view.sends.wire.map Written.accepted ++
    view.pending.map (Accepted.mk view.current)).Sublist view.sends.accepted

variable {v : SendView} {session : Option Nat} {opened : Nat} {fr : CallFrame}
  {next : SwitchFrame} {sends : Sends} {s' : SendView} {cfg : ClientConfig}

theorem Held.pending_of_free (held : v.Held) (isFree : v.sends.waitingForReply = none) :
    v.pending = [] := by
  obtain ⟨holder, heldBy⟩ := held.holder
  cases heldBy.nobody isFree
  have noWriters : v.sends.writers = [] := heldBy.writers
  have quiet := Activity.writing_eq_nil heldBy.callbacks
  rw [pending]
  rcases v.activity.pending_cases with isTake | ⟨-, same⟩ | ⟨notEmptying, same⟩
  · rw [isTake]
    rfl
  · rw [same, noWriters]
  · rw [same, noWriters, quiet, queued, held.free_of_not_empties notEmptying isFree]
    rfl

theorem Held.notClosed (held : v.Held) (isOpen : v.clientFd = some opened) :
    ¬ (v.activity = .switch .take ∨ v.activity.empties = true) := by
  intro closing
  rw [held.closed closing] at isOpen
  cases isOpen

theorem current_of_session (ofS : session = none ∨ session = v.clientFd)
    (isSession : session = some opened) : opened = v.current := by
  rw [current, clientFd_of_session ofS isSession]
  rfl

theorem Ordered.shrink (ordered : v.Ordered) (wire : s'.sends.wire = v.sends.wire)
    (accepted : s'.sends.accepted = v.sends.accepted) (cur : s'.current = v.current)
    (pending : s'.pending.Sublist v.pending) : s'.Ordered := by
  unfold Ordered
  rw [wire, accepted, cur]
  exact ((refl _).append (pending.map _)).trans ordered

theorem Ordered.accept {msg} (ordered : v.Ordered) (wire : s'.sends.wire = v.sends.wire)
    (accepted : s'.sends.accepted = v.sends.accepted ++ [⟨v.current, msg⟩])
    (cur : s'.current = v.current)
    (pending : s'.pending.Sublist (v.pending ++ [msg])) : s'.Ordered := by
  unfold Ordered
  rw [wire, accepted, cur]
  have extended : (v.sends.wire.map Written.accepted ++
      (v.pending ++ [msg]).map (Accepted.mk v.current)).Sublist
      (v.sends.accepted ++ [⟨v.current, msg⟩]) := by
    rw [map_append, ← append_assoc]
    exact ordered.append (refl _)
  exact ((refl _).append (pending.map _)).trans extended

theorem Ordered.write (written : Written) (rest : List Call) (ordered : v.Ordered)
    (wire : s'.sends.wire = v.sends.wire ++ [written])
    (accepted : s'.sends.accepted = v.sends.accepted)
    (isSession : written.session = v.current) (cur : s'.current = v.current)
    (pending : v.pending = written.message :: rest) (afterPending : s'.pending = rest) :
    s'.Ordered := by
  unfold Ordered at ordered ⊢
  rw [wire, accepted, cur, afterPending]
  rw [pending] at ordered
  simpa [Written.accepted, isSession] using ordered

theorem Ordered.acceptAndWrite (written : Written) (ordered : v.Ordered)
    (wire : s'.sends.wire = v.sends.wire ++ [written])
    (accepted : s'.sends.accepted = v.sends.accepted ++ [⟨v.current, written.message⟩])
    (isSession : written.session = v.current) (pending : v.pending = [])
    (afterPending : s'.pending = []) : s'.Ordered := by
  unfold Ordered at ordered ⊢
  rw [pending, map_nil, append_nil] at ordered
  rw [wire, accepted, afterPending, map_nil, append_nil, map_append]
  have isAccepted : [written].map Written.accepted = [⟨v.current, written.message⟩] := by
    simp [Written.accepted, isSession]
  rw [isAccepted]
  exact ordered.append (refl _)

section

variable (ordered : v.Ordered)
include ordered

theorem Ordered.calls {step} (held : v.Held)
    (recorded : fr.Recorded v.sends) (isOrdered : fr.isOrdered = true)
    (ofS : session = none ∨ session = v.clientFd)
    (runs : fr.Runs cfg v.current session v.sends step) :
    Ordered { v with
      sends := step.sends
      asyncSends := v.asyncSends + step.arms.toNat } := by
  obtain ⟨holder, heldBy⟩ := held.holder
  -- A message goes to the end of the queue.
  have queues : ∀ (s' : SendView) (msg : Call), s'.sends.wire = v.sends.wire →
      s'.sends.accepted = v.sends.accepted ++ [⟨v.current, msg⟩] →
      s'.current = v.current → s'.activity = v.activity →
      s'.sends.writers = v.sends.writers →
      s'.queued = v.queued ++ [msg] → s'.Ordered := by
    intro s' msg wire accepted cur act writers isQueued
    refine ordered.accept wire accepted cur ?_
    rw [pending, act, writers, isQueued]
    rcases v.activity.pending_queue v.sends.writers v.queued msg with
      appended | dropped
    · rw [appended]
      exact refl _
    · rw [dropped]
      exact sublist_append_left _ _
  cases runs with
  | sendsUnordered _ => cases isOrdered
  | @sendsDirectly call opened isFree isSession =>
    exact acceptAndWrite ⟨opened, .send, call⟩ ordered rfl rfl
      (current_of_session ofS isSession) (held.pending_of_free isFree)
      (held.pending_of_free isFree)
  | @requestsDirectly call opened isFree isSession =>
    exact acceptAndWrite ⟨opened, .request, call⟩ ordered rfl rfl
      (current_of_session ofS isSession) (held.pending_of_free isFree)
      (held.pending_of_free isFree)
  | queues _ _ _ =>
    exact queues _ fr.owner rfl rfl rfl rfl rfl (by
      simp [queued, CallStep.returns, Sends.finish, Sends.queued])
  | queuesAndArms _ _ _ _ =>
    exact queues _ fr.owner rfl rfl rfl rfl rfl (by
      simp [queued, Sends.finish, Sends.queued, Sends.armSendQueueUnderLock])
  | @queuesAndWaits call _ _ _ _ _ =>
    exact queues _ call rfl rfl rfl rfl rfl (by simp [queued, Sends.queued])
  | @claims call isFree =>
    have noWriters : v.sends.writers = [] := by
      cases heldBy.nobody isFree
      exact heldBy.writers
    have wasNone := held.pending_of_free isFree
    refine ordered.accept rfl rfl rfl ?_
    rw [pending, noWriters] at wasNone
    rw [show v.pending = [] from held.pending_of_free isFree, nil_append]
    change (v.activity.pending (v.sends.writers ++ [call]) v.queued).Sublist _
    rw [noWriters]
    exact pending_claim call wasNone
  | @writes call opened isSession =>
    cases heldBy.writer (recorded.writer.mpr rfl)
    have isOpen := held.notClosed (clientFd_of_session ofS isSession)
    have isWriters : v.sends.writers = [call] := heldBy.writers
    have quiet := writing_eq_nil heldBy.callbacks
    refine write ⟨opened, .request, call⟩ v.queued ordered rfl rfl
      (current_of_session ofS isSession) rfl ?_ ?_
    · rw [pending, pending_of_open isOpen, isWriters, quiet]
      rfl
    · have noWriters : v.sends.writers.erase call = [] := by simp [isWriters]
      change v.activity.pending (v.sends.writers.erase call) v.queued = _
      rw [pending_of_open isOpen, noWriters, quiet]
      rfl
  | @writeFails call _ =>
    refine ordered.shrink rfl rfl rfl ?_
    exact pending_sublist erase_sublist _ _
  | _ => exact ordered

theorem Ordered.queues {fr step} (held : v.Held) (act : v.activity = .queue fr)
    (ofS : session = none ∨ session = v.clientFd)
    (runs : fr.Runs session v.sends step) :
    Ordered { v with sends := step.sends, activity := step.activity } := by
  obtain ⟨holder, heldBy⟩ := held.holder
  have isPending : v.pending = v.sends.writers ++ (queue fr).writing ++ v.queued := by
    rw [pending, act]
    rfl
  have same := runs.sameCalls
  -- Nothing is written, and the messages that may be written are the same.
  have keep : ∀ s' : QueueStep, s'.sends.wire = v.sends.wire →
      s'.sends.accepted = v.sends.accepted →
      s'.sends.writers = v.sends.writers →
      s'.activity.writing ++ s'.sends.sendQueue.map SendCommand.message =
        (queue fr).writing ++ v.queued →
      Ordered { v with sends := s'.sends, activity := s'.activity } := by
    intro s' wire accepted writers isSame
    refine ordered.shrink wire accepted rfl ?_
    have isAfter : pending { v with sends := s'.sends, activity := s'.activity } = v.pending := by
      change s'.activity.pending s'.sends.writers (s'.sends.sendQueue.map SendCommand.message) = _
      rw [pending_of_open (not_closing s'.activity_not_switch.1), isPending, writers, append_assoc,
        isSame, append_assoc]
    rw [isAfter]
  cases runs with
  | @pops _ base s' cmd queue cont isQueue =>
    have continued := continues_of_continuesWith cont
    refine keep ⟨_, _, _⟩ continued.wire same.accepted same.writers ?_
    rw [writing_of_continuesWith cont, queued, ← continued.sendQueue, isQueue]
    rfl
  | @leaves _ base s' cont isQueue =>
    have continued := continues_of_continuesWith cont
    refine keep (.leaves base s') continued.wire same.accepted same.writers ?_
    rw [writing_of_continuesWith cont, queued, ← continued.sendQueue,
      writing_eq_nil (activity_leaves base s').1]
    rfl
  | @writes cmd s' opened isSession =>
    cases heldBy.callbackThread (show v.activity.holds = [cmd.callback] by
      rw [act]; rfl)
    have noWriters : v.sends.writers = [] := heldBy.writers
    refine write ⟨opened, codeOf cmd, cmd.message⟩
      v.queued ordered rfl rfl (current_of_session ofS isSession) rfl
      ?_ ?_
    · rw [isPending, noWriters]
      rfl
    · change v.sends.writers ++ [] ++ v.queued = v.queued
      rw [noWriters]
      rfl
  | @writeFails cmd s' _ =>
    refine ordered.shrink rfl rfl rfl ?_
    rw [isPending]
    exact ((refl v.sends.writers).append
      (nil_sublist _)).append (refl v.queued)
  | @hasWritten cmd s' _ _ =>
    refine keep (.leaves _ s') rfl rfl rfl ?_
    rw [writing_eq_nil (activity_leaves _ s').1]
    rfl
  | @callsBack cb _ | @replies cb _ => cases cb <;> exact keep ⟨_, _, _⟩ rfl rfl rfl rfl
  | _ => exact keep ⟨_, _, _⟩ rfl rfl rfl rfl

theorem Ordered.switches {fr} (act : v.activity = .switch fr) (runs : fr.Runs v.sends sends next)
    (noWriters : fr = .take → v.sends.writers = [] ∧ v.sends.failedWriters = []) :
    Ordered { v with sends, activity := .switch next } := by
  have isPending : v.pending = (switch fr).pending v.sends.writers v.queued := by
    rw [pending, act]
  have drained : fr = .drain ∨ (fr = .take ∧ v.sends.waitingForReply = none) →
      v.sends.writers.Sublist v.pending := by
    rintro (rfl | ⟨rfl, _⟩)
    · rw [isPending]
      exact refl _
    · rw [(noWriters rfl).1]
      exact nil_sublist _
  cases runs with
  | empties isDrain _ =>
    refine ordered.shrink rfl rfl rfl ?_
    change (v.sends.writers ++ []).Sublist _
    rw [append_nil]
    exact drained isDrain
  | drains isDrain _ _ _ => exact ordered.shrink rfl rfl rfl (drained isDrain)
  | callsBack isCb =>
    refine ordered.shrink rfl rfl rfl ?_
    rw [isPending]
    rcases isCb with rfl | rfl <;> exact refl _
  | _ =>
    refine ordered.shrink rfl rfl rfl ?_
    change v.sends.writers.Sublist _
    rw [(noWriters rfl).1]
    exact nil_sublist _

theorem Ordered.step (held : v.Held)
    (step : SendView.Step cfg (fun _ fr => fr.isOrdered = true) v s') :
    s'.Ordered := by
  have setActivity : ∀ (activity : Activity) (asyncSends : Nat),
      activity.pending v.sends.writers v.queued = v.pending →
      Ordered { v with activity, asyncSends } := by
    intro activity asyncSends same
    refine ordered.shrink rfl rfl rfl ?_
    rw [← same]
    exact refl _
  cases step with
  | calls recorded isOrdered ofS runs _ => exact ordered.calls held recorded isOrdered ofS runs
  | queues act ofS runs => exact ordered.queues held act ofS runs
  | cleansUp act | hasStopped act => exact setActivity _ _ (by rw [pending, act]; rfl)
  | closes act =>
    unfold Ordered at ordered ⊢
    exact ((refl _).append (nil_sublist _)).trans ordered
  | switches act runs noWriters => exact ordered.switches act runs noWriters
  | processes isIdle _ =>
    exact setActivity _ _ (by rw [pending, isIdle]; exact congrArg (· ++ _) (append_nil _))
  | @replies req isIdle _ _ =>
    exact setActivity (.queue (.inputReply req.2)) v.asyncSends
      (by rw [pending, isIdle]; exact congrArg (· ++ _) (append_nil _))
  | stops isIdle => exact setActivity _ _ (by rw [pending, isIdle]; rfl)
  | opens isClosed _ =>
    refine ordered.shrink rfl rfl ?_ (refl _)
    simp [current, isClosed]
  | _ => exact ordered

end

/-! ## Every accepted message is somewhere -/

/-- Every accepted message was written, was given up, is being written or is in the
queue. -/
def Accounted (view : SendView) : Prop :=
  ∀ message, (view.sends.wire.map Written.message).count message +
      view.sends.dropped.count message + view.sends.writers.count message +
      view.activity.writing.count message + view.queued.count message =
    view.sends.acceptedMessages.count message

theorem count_erase_add {α : Type} [DecidableEq α] {items : List α} {item : α}
    (mem : item ∈ items) (o : α) :
    (items.erase item).count o + [item].count o = items.count o := by
  rw [count_erase, count_singleton]
  have positive : 0 < items.count item := count_pos_iff.mpr mem
  by_cases same : item = o
  · subst same
    simp only [beq_self_eq_true, if_true]
    omega
  · simp [same]

section

variable (accounted : v.Accounted)
include accounted

theorem Accounted.calls {step : CallStep} (recorded : fr.Recorded v.sends)
    (runs : fr.Runs cfg v.current session v.sends step) :
    Accounted { v with
      sends := step.sends
      asyncSends := v.asyncSends + step.arms.toNat } := by
  intro msg
  have pre := accounted msg
  simp only [queued, Sends.acceptedMessages] at pre ⊢
  have written : ∀ call, fr = .waitReplyWrite call →
      (v.sends.writers.erase call).count msg + [call].count msg = v.sends.writers.count msg := by
    rintro call rfl
    exact count_erase_add (recorded.writer.mpr rfl) msg
  cases runs with
  | @writes call opened _ =>
    have erased := written call rfl
    simp only [Sends.write, map_append, map_cons, map_nil, count_append]
    omega
  | @writeFails call _ =>
    have erased := written call rfl
    simp only [Sends.giveUp, count_append]
    omega
  | _ =>
    simp only [CallStep.returns, Sends.finish, Sends.accept, Sends.write, Sends.queued,
      Sends.armSendQueueUnderLock, map_append, map_cons, map_nil,
      count_append]
    omega

theorem Accounted.queues {fr step}
    (act : v.activity = .queue fr) (runs : fr.Runs session v.sends step) :
    Accounted { v with sends := step.sends, activity := step.activity } := by
  intro msg
  have pre := accounted msg
  have same := runs.sameCalls
  simp only [queued, acceptedMessages, act] at pre
  simp only [queued, acceptedMessages, same.accepted, same.writers]
  cases runs with
  | @pops _ base s' cmd queue cont isQueue =>
    have continued := continues_of_continuesWith cont
    rw [writing_of_continuesWith cont, ← continued.sendQueue, isQueue] at pre
    simp only [continued.wire, continued.dropped, QueueStep.activity, map_some,
      getD_some, writing, map_cons, count_cons,
      count_nil] at pre ⊢
    omega
  | @leaves _ base s' cont isQueue =>
    have continued := continues_of_continuesWith cont
    rw [writing_of_continuesWith cont, ← continued.sendQueue] at pre
    rw [writing_eq_nil (QueueStep.activity_leaves base s').1]
    simpa only [QueueStep.leaves, continued.wire, continued.dropped] using pre
  | @writes cmd s' opened isSession =>
    simp only [write, QueueStep.activity, map_some, getD_some,
      writing, map_append, map_cons, map_nil,
      count_append, count_nil] at pre ⊢
    omega
  | @writeFails cmd s' _ =>
    simp only [giveUp, QueueStep.activity, map_some, getD_some,
      writing, count_append, count_nil] at pre ⊢
    omega
  | @hasWritten cmd s' _ _ =>
    rw [writing_eq_nil (QueueStep.activity_leaves _ s').1]
    exact pre
  | @callsBack cb _ | @replies cb _ => cases cb <;> exact pre
  | _ => exact pre

theorem Accounted.switches {fr}
    (act : v.activity = .switch fr) (runs : fr.Runs v.sends sends next) :
    Accounted { v with sends, activity := .switch next } := by
  intro msg
  have pre := accounted msg
  simp only [queued, acceptedMessages, act] at pre ⊢
  cases runs with
  | empties _ _ =>
    simp only [writing, map_nil, count_append, count_nil] at pre ⊢
    omega
  | drains _ isQueue _ _ =>
    rw [isQueue] at pre
    simp only [writing, map_append, map_cons, count_append, count_cons, count_nil] at pre ⊢
    omega
  | _ => exact pre

theorem Accounted.step {allows : Sends → CallFrame → Prop}
    (step : SendView.Step cfg allows v s') : s'.Accounted := by
  have setActivity : ∀ (pre s' : Activity), v.activity = pre → pre.writing = s'.writing →
      Accounted { v with activity := s' } := by
    intro pre s' act isWriting msg
    have counted := accounted msg
    rw [act, isWriting] at counted
    exact counted
  cases step with
  | calls recorded _ _ runs _ => exact accounted.calls recorded runs
  | queues act _ runs => exact accounted.queues act runs
  | cleansUp act | closes act | hasStopped act => exact setActivity _ _ act rfl
  | switches act runs _ => exact accounted.switches act runs
  | processes isIdle _ => exact setActivity _ (.queue .processQueue) isIdle rfl
  | @replies req isIdle _ _ => exact setActivity _ (.queue (.inputReply req.2)) isIdle rfl
  | stops isIdle => exact setActivity _ _ isIdle rfl
  | _ => exact accounted

end

end SendView

/-! ## Reachable states -/

def Frame.isOrdered : Frame → Bool
  | .call callFrame => callFrame.isOrdered
  | _ => true

theorem Core.isOrdered_exec {cfg : ClientConfig} {onCallbackThread : Bool} {ans : EngineAnswer}
    {core s' : Core} {fr : Frame} {next}
    (ran : core.exec cfg onCallbackThread ans fr = some (s', next)) :
    ∀ tl ∈ next, tl.isOrdered = true := by
  have notAlone : fr.isAlone = false → ∀ tl ∈ next, tl.isOrdered = true := by
    intro isManaging tl isNext
    cases next with
    | nil => cases isNext
    | cons top rest =>
      obtain ⟨topNotAlone, restLife⟩ := Core.exec_next_of_not_alone isManaging ran
      rcases mem_cons.mp isNext with rfl | isRest
      · cases tl <;> first | rfl | cases topNotAlone
      · have isLife := restLife tl isRest
        cases tl <;> first | rfl | cases isLife
  intro tl isNext
  cases fr with
  | queue fr =>
    cases ran
    split at isNext
    · cases mem_singleton.mp isNext
      rfl
    · obtain ⟨queueFrame, _, rfl⟩ := map_eq_some_iff.mp (mem_toList.mp isNext)
      rfl
  | call fr =>
    obtain ⟨step, stepped, isAfter⟩ := map_eq_some_iff.mp ran
    cases isAfter
    obtain ⟨callFrame, isCall, rfl⟩ := map_eq_some_iff.mp (mem_toList.mp isNext)
    cases CallFrame.runs_of_exec stepped <;> cases isCall <;> rfl
  | _ => exact notAlone rfl tl isNext

namespace ClientConnection

variable {ι : Type} [DecidableEq ι] {conn : ClientConnection ι}

/-- A message that was accepted and neither written nor given up: it is queued, or a
call or the callback thread is writing it. -/
def IsUnsent (connection : ClientConnection ι) (message : Call) : Prop :=
  (∃ command ∈ connection.core.sends.sendQueue, command.message = message) ∨
    (∃ user, connection.users user = [.call (.waitReplyWrite message)]) ∨
    ∃ command after, connection.callbackThread = [.queue (.queuedWrite command after)] ∧
      command.message = message

omit [DecidableEq ι] in
theorem start_ordered (cfg : ClientConfig) :
    (start ι cfg).view.Ordered ∧ (start ι cfg).view.Accounted :=
  ⟨refl _, fun _ => rfl⟩

theorem InOrder.ordered_of_reachable {cfg : ClientConfig}
    (isOrdered : (cfg.fullyOrdered || cfg.trulyAsync) = true)
    (reach : ((system ι cfg).restrict (Orderly cfg)).Reachable conn) :
    conn.InOrder ∧ conn.view.Held ∧ conn.view.Ordered ∧ conn.view.Accounted := by
  have orderedFrame : ∀ call, (callFrame cfg call).isOrdered = true := by
    intro call
    unfold callFrame
    cases call.kind with
    | send => simp [isOrdered, CallFrame.isOrdered]
    | _ => rfl
  suffices holds : conn.InOrder ∧ (∀ user, ∀ fr ∈ conn.users user, fr.isOrdered = true) ∧
      conn.view.Held ∧ conn.view.Ordered ∧ conn.view.Accounted from
    ⟨holds.1, holds.2.2⟩
  refine reach.invariant (fun conn => conn.InOrder ∧
      (∀ user, ∀ fr ∈ conn.users user, fr.isOrdered = true) ∧
      conn.view.Held ∧ conn.view.Ordered ∧ conn.view.Accounted) ?_ ?_
  · rintro _ rfl
    exact ⟨start_inOrder cfg, fun _ => forall_mem_nil _, start_held cfg, start_ordered cfg⟩
  · rintro pre label s' ⟨inOrder, users, held, ordered, accounted⟩ ⟨ok, taken⟩
    have step : SendView.Step cfg (fun _ fr => fr.isOrdered = true) pre.view s'.view := by
      refine inOrder.view_step ok ?_ taken
      rintro t ans rfl call isCall
      cases t with
      | callbackThread =>
        have isStacked := inOrder.stacked.callbackThread
        cases isStack : pre.callbackThread with
        | nil =>
          rw [show pre.stack .callbackThread = _ from isStack] at isCall
          cases isCall
        | cons top rest =>
          rw [show pre.stack .callbackThread = _ from isStack] at isCall
          cases isCall
          rw [isStack] at isStacked
          cases isStacked.1
      | user i => exact users i _ (mem_of_mem_head? isCall)
    exact ⟨inOrder.step ok taken, users_step users orderedFrame rfl rfl
        (fun _ _ _ _ _ _ _ ran => Core.isOrdered_exec ran) taken,
      held.step step, ordered.step held step, accounted.step step⟩

omit [DecidableEq ι] in
theorem isUnsent_of_mem {msg} (inOrder : conn.InOrder)
    (mem : msg ∈ conn.core.sends.writers ++ conn.view.activity.writing ++ conn.view.queued) :
    conn.IsUnsent msg := by
  rcases mem_append.mp mem with isWriting | isQueued
  · rcases mem_append.mp isWriting with isWriter | isWriting
    · exact .inr (.inl (inOrder.calls.writerRuns msg isWriter))
    · have isStacked := inOrder.stacked.callbackThread
      simp only [view] at isWriting
      cases isStack : conn.callbackThread with
      | nil =>
        rw [isStack] at isWriting
        cases isWriting
      | cons top rest =>
        rw [isStack] at isWriting isStacked
        cases top with
        | queue fr =>
          cases fr with
          | queuedWrite cmd s' =>
            refine .inr (.inr ⟨cmd, s', ?_, ?_⟩)
            · rw [isStack, isStacked.2.2 rfl]
            · exact (mem_singleton.mp isWriting).symm
          | _ => cases isWriting
        | _ => cases isWriting
  · exact .inl (mem_map.mp isQueued)

end ClientConnection

theorem eq_filter_of_sublist {α : Type} {part items : List α} {property : α → Bool}
    (isSublist : part.Sublist items) (nodup : items.Nodup)
    (members : ∀ item ∈ items, item ∈ part ↔ property item = true) :
    part = items.filter property := by
  have isFiltered : part.filter property = part :=
    filter_eq_self.mpr fun item mem => (members item (isSublist.subset mem)).mp mem
  have filtered : part.Sublist (items.filter property) := by
    have both := isSublist.filter property
    rwa [isFiltered] at both
  refine filtered.eq_of_length_le (subperm_of_subset (nodup.filter _) ?_).length_le
  intro item mem
  obtain ⟨isItem, hasProperty⟩ := mem_filter.mp mem
  exact (members item isItem).mpr hasProperty

namespace ClientConnection

variable {ι : Type} [DecidableEq ι]

/-- The engine gets for a session exactly the messages that were accepted for it and
not given up, in the order in which their calls held the mutex, except for the ones
that are still to be written. -/
theorem reachable_wire_is_accepted {config : ClientConfig}
    (isOrdered : (config.fullyOrdered || config.trulyAsync) = true)
    {connection : ClientConnection ι}
    (reachable : ((system ι config).restrict (Orderly config)).Reachable connection)
    (session : Nat) :
    connection.core.sends.acceptedMessages.Nodup ∧
      ∃ unsent : List Call, (∀ message ∈ unsent, connection.IsUnsent message) ∧
        (connection.core.sends.wire.filter fun written =>
            written.session = session).map Written.message =
          (connection.core.sends.accepted.filter fun accepted =>
            accepted.session = session ∧ accepted.message ∉ connection.core.sends.dropped ∧
              accepted.message ∉ unsent).map Accepted.message := by
  obtain ⟨inOrder, _, ordered, accounted⟩ := InOrder.ordered_of_reachable isOrdered reachable
  have nodup := inOrder.calls.history.acceptedNodup
  refine ⟨nodup, connection.core.sends.writers ++ connection.view.activity.writing ++
    connection.view.queued, fun message => isUnsent_of_mem inOrder, ?_⟩
  have isSublist : (connection.core.sends.wire.map Written.accepted).Sublist
      connection.core.sends.accepted :=
    (List.sublist_append_left _ _).trans ordered
  have isWire : connection.core.sends.wire.map Written.accepted =
      connection.core.sends.accepted.filter fun accepted =>
        accepted.message ∉ connection.core.sends.dropped ∧
          accepted.message ∉ connection.core.sends.writers ++
            connection.view.activity.writing ++ connection.view.queued := by
    refine eq_filter_of_sublist isSublist (List.Nodup.of_map _ nodup) ?_
    intro accepted isAccepted
    -- Every accepted message is counted once.
    have counted := accounted accepted.message
    have once : connection.view.sends.acceptedMessages.count accepted.message = 1 :=
      List.count_eq_one_of_mem nodup (List.mem_map_of_mem isAccepted)
    rw [once] at counted
    simp only [decide_eq_true_eq, List.mem_append, not_or, ← List.count_eq_zero]
    constructor
    · intro isWritten
      obtain ⟨written, isMember, rfl⟩ := List.mem_map.mp isWritten
      have positive : 0 < (connection.view.sends.wire.map Written.message).count
          written.accepted.message :=
        List.count_pos_iff.mpr (List.mem_map_of_mem isMember)
      simp only [view] at counted positive ⊢
      omega
    · rintro ⟨notDropped, ⟨notWriter, notWriting⟩, notQueued⟩
      have positive : 0 < (connection.view.sends.wire.map Written.message).count
          accepted.message := by
        simp only [view] at counted notWriting notQueued ⊢
        omega
      obtain ⟨written, isMember, sameMessage⟩ := List.mem_map.mp (List.count_pos_iff.mp positive)
      have isMapped : written.accepted ∈ connection.core.sends.wire.map Written.accepted :=
        List.mem_map_of_mem isMember
      have isSame : written.accepted = accepted :=
        List.inj_on_of_nodup_map nodup (isSublist.subset isMapped) isAccepted sameMessage
      rwa [← isSame]
  have ofSession := congrArg (List.filter fun accepted : Accepted =>
    accepted.session = session) isWire
  rw [List.filter_map, List.filter_filter] at ofSession
  have messages := congrArg (List.map Accepted.message) ofSession
  rw [List.map_map] at messages
  refine Eq.trans messages (congrArg _ (List.filter_congr fun accepted _ => ?_))
  simp

/-- A message is queued behind a request and written after the reply. -/
theorem queued_message_follows_request : ∃ connection : ClientConnection Unit,
      ((system Unit .ordered).restrict (Orderly .ordered)).Reachable connection ∧
      connection.core.sends.wire.map message = [⟨0, .withCallback⟩, ⟨1, .send⟩] ∧
      ∃ unsent : List Call, (∀ message ∈ unsent, connection.IsUnsent message) ∧
        (connection.core.sends.wire.filter fun written => written.session = 0).map message =
          (connection.core.sends.accepted.filter fun accepted =>
            accepted.session = 0 ∧ accepted.message ∉ connection.core.sends.dropped ∧
              accepted.message ∉ unsent).map Accepted.message := by
  obtain ⟨connection, reachable, isWire⟩ : ∃ connection,
      ((system Unit .ordered).restrict (Orderly .ordered)).Reachable connection ∧
      connection.core.sends.wire.map message = [⟨0, .withCallback⟩, ⟨1, .send⟩] :=
    TransitionSystem.exists_restricted (becomesReady () (.start ()) ++
      callsAndRuns () .withCallback ++ callsAndRuns () .send ++
      .reply :: replicate 4 (.run .callbackThread ⟨true, .opened⟩)) ⟨_, rfl, rfl⟩
  exact ⟨connection, reachable, isWire, (reachable_wire_is_accepted rfl reachable 0).2⟩

/-- The connection stops and is restarted while `SendWaitReply` is about to write its
request. -/
def requestOutlivesSession : List (ConnectionStep Bool) :=
  becomesReady true (.start true) ++ callsAndRuns false .waitReply ++
    becomesStopped true 7 ++ becomesReady true (.restart (.user true)) ++
    callsAndRuns true .send ++ [.run (.user false) ⟨true, .opened⟩]

/-- The request, accepted first and already failed by stopping, is written in the next
session after a later message. -/
theorem request_overtaken_in_next_session : ∃ connection : ClientConnection Bool,
      (system Bool .ordered).Reachable connection ∧
      connection.core.sends.accepted = [⟨0, ⟨0, .waitReply⟩⟩, ⟨1, ⟨1, .send⟩⟩] ∧
      connection.core.sends.wire = [⟨1, .send, ⟨1, .send⟩⟩, ⟨1, .request, ⟨0, .waitReply⟩⟩] ∧
      connection.core.sends.dropped = [] ∧ connection.core.sends.sendQueue = [] ∧
      connection.core.sends.invoked = [(⟨0, .waitReply⟩, .error .epipe)] := by
  exact TransitionSystem.exists_reachable requestOutlivesSession ⟨_, rfl, rfl, rfl, rfl, rfl, rfl⟩

end ClientConnection

end ScoreIntegration.MessagePassing
