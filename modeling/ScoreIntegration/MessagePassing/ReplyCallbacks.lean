import ScoreIntegration.MessagePassing.MessageOrder

/-!
# Reply callbacks

A reply callback is pending, queued or in the hands of the callback thread, until it is
called or dropped.  In orderly runs it is never lost and never called twice, and replies
are passed on in the order of their requests.
-/

namespace ScoreIntegration.MessagePassing

open Concurrency Sends QueueFrame QueueStep CallFrame List List.Sublist Activity SendCommand Prod
open CallStep
open CallKind
open List (append_nil count_append count_nil filterMap_append map_cons map_nil mem_cons_self
  nil_sublist)
open Option (join_none join_some toList_none toList_some)

def CallKind.hasCallback : CallKind → Bool
  | .send => false
  | .waitReply => true
  | .withCallback => true

/-! ## Where callbacks are -/

namespace QueueFrame

/-- The callbacks that are called with a reply at the end, with the answered
request. -/
def pairs : QueueFrame → List (ReplyCallback × Call)
  | .queuedWrite _ after => after.toList
  | .queuedWritten _ _ after => after.toList
  | .queuedFail _ after => after.toList
  | .queuedFailed after => after.toList
  | .replyCallback callback request => [(callback, request)]
  | _ => []

def failing : QueueFrame → List Call
  | .queuedFail callback _ => callback.toList
  | _ => []

end QueueFrame

namespace Activity

def pairs : Activity → List (ReplyCallback × Call)
  | .queue frame => frame.pairs
  | _ => []

def hands : Activity → List Call
  | .queue frame => frame.failing ++ frame.pairs.filterMap Prod.fst
  | .switch (.callback call) => [call]
  | .switch (.drainCallback call) => [call]
  | _ => []

def replying : Activity → List Call
  | .queue (.inputReply request) => [request]
  | activity => activity.pairs.map Prod.snd

end Activity

namespace Sends

def acceptedCallbacks (sends : Sends) : List Call :=
  sends.acceptedMessages.filter fun call => call.kind.hasCallback

def invokedCallbacks (sends : Sends) : List Call := sends.invoked.map Prod.fst

def repliedRequests (sends : Sends) : List Call :=
  sends.invoked.filterMap fun invocation =>
    match invocation.2 with
    | .reply request => some request
    | .error _ => none

def writtenRequests (sends : Sends) : List Call :=
  (sends.wire.filter fun written => written.code = .request).map Written.message

theorem count_acceptedCallbacks {sends s' : Sends} {cur : Nat} {call : Call} {fr : CallFrame}
    (isKind : call.kind = fr.kind)
    (accepted : s'.accepted = sends.accepted ++ [⟨cur, call⟩]) (o : Call) :
    s'.acceptedCallbacks.count o = sends.acceptedCallbacks.count o +
      if fr.kind.hasCallback then [call].count o else 0 := by
  simp only [acceptedCallbacks, acceptedMessages, accepted, map_append, map_cons,
    map_nil, filter_append, count_append]
  rw [← isKind]
  cases hasCb : call.kind.hasCallback <;> simp [hasCb]

section

variable (sends : Sends) (cb : ReplyCallback) (out : ReplyOutcome)

theorem waitingForReply_invokeIfAny :
    (sends.invokeIfAny cb out).waitingForReply = sends.waitingForReply := by
  cases cb <;> rfl

theorem sendQueue_invokeIfAny : (sends.invokeIfAny cb out).sendQueue = sends.sendQueue := by
  cases cb <;> rfl

theorem invokedCallbacks_invokeIfAny : (sends.invokeIfAny cb out).invokedCallbacks =
      sends.invokedCallbacks ++ cb.toList := by
  cases cb with
  | none => exact (append_nil _).symm
  | some call => simp [invokeIfAny, invoke, invokedCallbacks]

end

theorem repliedRequests_error (sends : Sends) (cb : Call) (error : SendError) :
    (sends.invoke cb (.error error)).repliedRequests = sends.repliedRequests := by
  simp [invoke, repliedRequests]

theorem repliedRequests_reply (sends : Sends) (cb req : Call) :
    (sends.invoke cb (.reply req)).repliedRequests = sends.repliedRequests ++ [req] := by
  simp [invoke, repliedRequests]

end Sends

theorem SendCommand.count_callbacks_cons (cmd : SendCommand) (queue : List SendCommand) (o : Call) :
    ((cmd :: queue).filterMap callback).count o =
      cmd.callback.toList.count o + (queue.filterMap callback).count o := by
  cases isCb : cmd.callback with
  | none => simp [isCb]
  | some call => simp [isCb, count_cons, Nat.add_comm]

theorem PendingReply.callbacks_singleton (cb : ReplyCallback) (req : Call) :
    [(cb, req)].filterMap fst = cb.toList := by
  cases cb <;> rfl

theorem CallFrame.count_queuedCallback {fr : CallFrame} {cb : ReplyCallback}
    (isCb : fr.queuedCallback = some cb) (elem : Nat) (o : Call) :
    ([mk elem fr.owner cb].filterMap callback).count o =
      if fr.kind.hasCallback then [fr.owner].count o else 0 := by
  cases fr with
  | send call | withCallback call =>
    cases isCb
    rfl
  | _ => cases isCb

variable {sends base : Sends} {fr : QueueFrame} {s' : PendingReply} {v : SendView}

theorem QueueFrame.hands_of_continuesWith (cont : fr.continuesWith sends = some (base, s'))
    (holds : ∀ cb, fr.holds = [cb] → sends.waitingForReply = some cb)
    (o : Call) :
    sends.waitingForReply.join.toList.count o + (queue fr).hands.count o =
      (s'.toList.filterMap fst).count o := by
  cases goesOn_of_continuesWith cont with
  | begins =>
    rw [holds none rfl]
    rfl
  | written isMessage =>
    rw [holds none (by simp [QueueFrame.holds, isMessage])]
    simp [hands, QueueFrame.failing, QueueFrame.pairs]
  | failed =>
    rw [holds none rfl]
    simp [hands, QueueFrame.failing, QueueFrame.pairs]
  | @replied cb _ wait =>
    rw [wait]
    cases cb <;> rfl

section

variable (sends : Sends) (s' : PendingReply)

theorem QueueStep.pairs_leaves : (leaves sends s').activity.pairs = s'.toList := by
  cases s' <;> rfl

theorem QueueStep.hands_leaves :
    (leaves sends s').activity.hands = s'.toList.filterMap fst := by
  cases s' <;> rfl

theorem QueueStep.replying_leaves :
    (leaves sends s').activity.replying = s'.toList.map snd := by
  cases s' <;> rfl

end

theorem QueueFrame.replying_of_continuesWith (cont : fr.continuesWith sends = some (base, s')) :
    (queue fr).replying = s'.toList.map snd := by
  cases goesOn_of_continuesWith cont <;> rfl

namespace SendView

def heldCallbacks (view : SendView) : List Call :=
  view.sends.waitingForReply.join.toList ++
    view.sends.sendQueue.filterMap SendCommand.callback ++ view.activity.hands

/-- Every callback is held, was called or was dropped. -/
def Called (view : SendView) : Prop :=
  ∀ call, view.heldCallbacks.count call + view.sends.invokedCallbacks.count call +
      view.sends.cancelled.count call =
    view.sends.acceptedCallbacks.count call

variable {v : SendView} {fr : QueueFrame} {session : Option Nat} {cfg : ClientConfig}
  {allows : Sends → CallFrame → Prop} {s' : SendView} {sends : Sends} {call : Call}
  {opened : Nat}

theorem Held.waiting_of_holds {cb} (held : v.Held)
    (act : v.activity = .queue fr) (holds : fr.holds = [cb]) :
    v.sends.waitingForReply = some cb := by
  obtain ⟨holder, heldBy⟩ := held.holder
  have wait := Held.notAbandoned heldBy (by rw [act]; rfl)
  cases heldBy.callbackThread (show v.activity.holds = [cb] by
    rw [act]; exact holds)
  exact wait

section

variable (called : v.Called)
include called

theorem Called.calls {fr : CallFrame} {step : CallStep} (held : v.Held)
    (recorded : fr.Recorded v.sends)
    (runs : fr.Runs cfg v.current session v.sends step) :
    Called { v with
      sends := step.sends
      asyncSends := v.asyncSends + step.arms.toNat } := by
  obtain ⟨holder, heldBy⟩ := held.holder
  intro o
  have pre := called o
  have isKind := recorded.kind
  -- A failed call of `SendWaitReply` holds the pending reply.
  have pending : ∀ call, fr = .waitReplyWritten call false →
      v.sends.waitingForReply = some (some call) := by
    rintro call rfl
    cases heldBy.failedWriter (recorded.failedWriter.mpr rfl)
    exact heldBy.waiting.resolve_right fun abandoned => by cases abandoned.1
  simp only [heldCallbacks, count_append] at pre ⊢
  cases runs with
  | sendsUnordered _ | sendsDirectly _ _ =>
    rw [Sends.count_acceptedCallbacks isKind rfl o]
    exact pre
  | @requestsDirectly call _ isFree _ =>
    rw [Sends.count_acceptedCallbacks isKind rfl o]
    simp only [isFree, join_none, toList_none, count_nil] at pre
    simp only [returns, Sends.finish, Sends.accept, write,
      join_some, toList_some, kind, owner,
      hasCallback, if_true,
      Sends.invokedCallbacks] at pre ⊢
    omega
  | @queues _ _ _ elem _ isCb _ _ =>
    rw [Sends.count_acceptedCallbacks isKind rfl o]
    have counted := count_queuedCallback isCb elem o
    simp only [returns, Sends.finish, Sends.queued, Sends.accept,
      Sends.invokedCallbacks, filterMap_append, count_append] at pre ⊢
    omega
  | @queuesAndArms _ _ elem _ _ isCb isFree _ =>
    rw [Sends.count_acceptedCallbacks isKind rfl o]
    have counted := count_queuedCallback isCb elem o
    simp only [isFree, join_none, toList_none, count_nil] at pre
    simp only [Sends.finish, Sends.queued, Sends.accept, Sends.armSendQueueUnderLock,
      Sends.invokedCallbacks, filterMap_append, count_append,
      join_some, toList_none, count_nil] at pre ⊢
    omega
  | @queuesAndWaits call _ _ _ _ _ =>
    rw [Sends.count_acceptedCallbacks isKind rfl o]
    simp only [Sends.queued, Sends.accept, Sends.invokedCallbacks, kind,
      owner, hasCallback, if_true, filterMap_append, count_append,
      filterMap_cons, filterMap_nil] at pre ⊢
    omega
  | @claims call isFree =>
    rw [Sends.count_acceptedCallbacks isKind rfl o]
    simp only [isFree, join_none, toList_none, count_nil] at pre
    simp only [Sends.accept, join_some, toList_some, kind,
      owner, hasCallback, if_true, Sends.invokedCallbacks] at pre ⊢
    omega
  | @cancels call _ =>
    simp only [pending call rfl, join_some, toList_some] at pre
    simp only [returns, Sends.finish, count_append, join_none,
      toList_none, count_nil, Sends.invokedCallbacks,
      acceptedCallbacks, acceptedMessages] at pre ⊢
    omega
  | @cancelsAndArms call _ =>
    simp only [pending call rfl, join_some, toList_some] at pre
    simp only [Sends.finish, Sends.armSendQueueUnderLock, count_append,
      join_some, toList_none, count_nil, Sends.invokedCallbacks,
      acceptedCallbacks, acceptedMessages] at pre ⊢
    omega
  | _ => exact pre

theorem Called.queues {step} (held : v.Held)
    (act : v.activity = .queue fr) (runs : fr.Runs session v.sends step) :
    Called { v with sends := step.sends, activity := step.activity } := by
  have holds : ∀ cb, fr.holds = [cb] → v.sends.waitingForReply = some cb :=
    fun _ => held.waiting_of_holds act
  intro o
  have pre := called o
  have same := runs.sameCalls
  have sameAccepted : step.sends.acceptedCallbacks = v.sends.acceptedCallbacks := by
    rw [acceptedCallbacks, acceptedMessages, same.accepted]
    rfl
  simp only [heldCallbacks, act, count_append] at pre
  simp only [heldCallbacks, sameAccepted, same.cancelled, count_append]
  cases runs with
  | @pops _ base s' cmd queue cont isQueue =>
    have continued := continues_of_continuesWith cont
    have hands := hands_of_continuesWith cont holds o
    rw [← continued.sendQueue, isQueue, count_callbacks_cons] at pre
    simp only [invokedCallbacks, continued.invoked, join_some]
    change _ + _ + (s'.toList.filterMap fst).count o + _ + _ = _
    rw [invokedCallbacks] at pre
    omega
  | @leaves _ base s' cont isQueue =>
    have continued := continues_of_continuesWith cont
    have hands := hands_of_continuesWith cont holds o
    have isFree : base.waitingForReply = none := continued.waiting fun isProcessing => by
      subst isProcessing
      exact held.armed (.inr act) (continued.sendQueue.symm.trans isQueue)
    rw [← continued.sendQueue] at pre
    rw [hands_leaves]
    simp only [leaves, invokedCallbacks, continued.invoked, isFree,
      join_none, toList_none, count_nil] at pre ⊢
    omega
  | hasWritten _ =>
    rw [hands_leaves]
    exact pre
  | @hasFailed cmd s' cb isCb =>
    have isWaiting : v.sends.waitingForReply = some (some cb) := by
      rw [← isCb]
      exact holds _ (by simp [QueueFrame.holds])
    simp only [isWaiting, join_some, Option.map_some] at pre ⊢
    change _ + _ + (cb :: s'.toList.filterMap fst).count o + _ + _ = _
    change _ + _ + (s'.toList.filterMap fst).count o + _ + _ = _ at pre
    simp only [toList_some, toList_none, count_cons, count_nil, invokedCallbacks] at pre ⊢
    omega
  | @callsBack cb s' =>
    change _ + _ + (cb.toList ++ s'.toList.filterMap fst).count o + _ + _ = _ at pre
    change _ + _ + (s'.toList.filterMap fst).count o + _ + _ = _
    rw [waitingForReply_invokeIfAny, sendQueue_invokeIfAny, invokedCallbacks_invokeIfAny]
    simp only [count_append] at pre ⊢
    omega
  | @replies cb req =>
    change _ + _ + ([(cb, req)].filterMap fst).count o + _ + _ = _ at pre
    change _ + _ + 0 + _ + _ = _
    rw [waitingForReply_invokeIfAny, sendQueue_invokeIfAny, invokedCallbacks_invokeIfAny]
    rw [PendingReply.callbacks_singleton] at pre
    simp only [count_append] at pre ⊢
    omega
  | _ => exact pre

theorem Called.switches {fr next}
    (act : v.activity = .switch fr) (runs : fr.Runs v.sends sends next) :
    Called { v with sends, activity := .switch next } := by
  intro o
  have pre := called o
  have noHands : fr = .drain ∨ (fr = .take ∧ v.sends.waitingForReply = none) →
      (Activity.switch fr).hands = [] := by
    rintro (rfl | ⟨rfl, _⟩) <;> rfl
  simp only [heldCallbacks, act, count_append] at pre ⊢
  cases runs with
  | empties isDrain noCallback =>
    rw [noHands isDrain, filterMap_eq_nil_iff.mpr noCallback] at pre
    exact pre
  | @drains _ front cmd cb rest isDrain isQueue noCallback isCb =>
    rw [noHands isDrain, isQueue, filterMap_append, filterMap_eq_nil_iff.mpr noCallback, nil_append,
      count_callbacks_cons, isCb] at pre
    simp only [Activity.hands, toList_some, count_nil,
      invokedCallbacks, acceptedCallbacks, acceptedMessages]
      at pre ⊢
    omega
  | takesPlaceholder wait =>
    rw [wait] at pre
    exact pre
  | @takes cb wait =>
    rw [wait] at pre
    simp only [Activity.hands, join_some, join_none, toList_some,
      toList_none, count_nil, invokedCallbacks,
      acceptedCallbacks, acceptedMessages] at pre ⊢
    omega
  | @callsBack _ cb isCb =>
    have hands : (Activity.switch fr).hands = [cb] := by
      rcases isCb with rfl | rfl <;> rfl
    rw [hands] at pre
    simp only [Activity.hands, invoke, invokedCallbacks, map_append,
      map_cons, map_nil, count_append, count_nil,
      acceptedCallbacks, acceptedMessages] at pre ⊢
    omega

theorem Called.step (held : v.Held) (step : SendView.Step cfg allows v s') : s'.Called := by
  have setActivity : ∀ (pre s' : Activity), v.activity = pre →
      pre.hands = s'.hands → Called { v with activity := s' } := by
    intro pre s' act sameHands o
    have counted := called o
    simp only [heldCallbacks] at counted ⊢
    rw [act, sameHands] at counted
    exact counted
  cases step with
  | calls recorded _ _ runs _ => exact called.calls held recorded runs
  | queues act _ runs => exact called.queues held act runs
  | cleansUp act | closes act | hasStopped act => exact setActivity _ _ act rfl
  | switches act runs _ => exact called.switches act runs
  | processes isIdle _ => exact setActivity _ (.queue .processQueue) isIdle rfl
  | @replies req isIdle _ _ => exact setActivity _ (.queue (.inputReply req.2)) isIdle rfl
  | stops isIdle => exact setActivity _ _ isIdle rfl
  | _ => exact called

end

/-! ## Replies and their requests -/

/-- A step calls no callback, or one in the hands of the callback thread; the replies
are passed on at the end of `ProcessInputEvent`. -/
inductive Invokes (view after : SendView) : Prop
  | nothing : after.sends.invoked = view.sends.invoked →
      after.sends.readyFutures = view.sends.readyFutures →
      after.sends.lateInvocations = view.sends.lateInvocations →
      Invokes view after
  | callback (callback : Call) (outcome : ReplyOutcome) : callback ∈ view.activity.hands →
      (∀ request, outcome = .reply request →
        view.activity = .queue (.replyCallback (some callback) request)) →
      after.sends = view.sends.invoke callback outcome →
      Invokes view after

theorem Step.invokes (step : SendView.Step cfg allows v s') : v.Invokes s' := by
  cases step with
  | calls _ _ _ runs _ => cases runs <;> exact .nothing rfl rfl rfl
  | queues act _ runs =>
    cases runs with
    | pops cont _ | leaves cont _ =>
      have continued := continues_of_continuesWith cont
      exact .nothing continued.invoked continued.readyFutures continued.lateInvocations
    | @callsBack cb s' =>
      cases cb with
      | none => exact .nothing rfl rfl rfl
      | some cb =>
        refine .callback cb (.error .engine) ?_ nofun rfl
        rw [act]
        exact mem_cons_self
    | @replies cb req =>
      cases cb with
      | none => exact .nothing rfl rfl rfl
      | some cb =>
        refine .callback cb (.reply req) ?_ (fun o isReply => ?_) rfl
        · rw [act]
          exact mem_cons_self
        · cases isReply
          exact act
    | _ => exact .nothing rfl rfl rfl
  | switches act runs _ =>
    cases runs with
    | @callsBack _ cb isCb =>
      refine .callback cb (.error .epipe) ?_ nofun rfl
      rw [act]
      rcases isCb with rfl | rfl <;> exact mem_singleton_self _
    | _ => exact .nothing rfl rfl rfl
  | _ => exact .nothing rfl rfl rfl

theorem Step.cancelled (step : SendView.Step cfg allows v s') :
    ∀ call ∈ s'.sends.cancelled, call ∈ v.sends.cancelled ∨ call.kind = .waitReply := by
  cases step with
  | calls recorded _ _ runs _ =>
    have isKind := recorded.kind
    have appended : ∀ call o, o ∈ v.sends.cancelled ++ [call] → call.kind = .waitReply →
        o ∈ v.sends.cancelled ∨ o.kind = .waitReply := by
      intro call o mem isWait
      rcases mem_append.mp mem with wasCancelled | isLast
      · exact .inl wasCancelled
      · exact .inr (mem_singleton.mp isLast ▸ isWait)
    cases runs with
    | cancels _ | cancelsAndArms _ => exact fun o mem => appended _ o mem isKind
    | _ => exact fun _ wasCancelled => .inl wasCancelled
  | queues _ _ runs =>
    intro call mem
    rw [runs.sameCalls.cancelled] at mem
    exact .inl mem
  | switches _ runs _ => cases runs <;> exact fun _ wasCancelled => .inl wasCancelled
  | _ => exact fun _ wasCancelled => .inl wasCancelled

/-- Only calls of `SendWaitReply` drop their callback, futures become ready only by
calling it, and no internal callback is called after its call has returned. -/
structure Timely (view : SendView) : Prop where
  cancelled : ∀ call ∈ view.sends.cancelled, call.kind = .waitReply
  readyFutures : ∀ call ∈ view.sends.readyFutures, call ∈ view.sends.invokedCallbacks
  lateInvocations : view.sends.lateInvocations = []

theorem Called.not_held_of_returned {calls} (called : v.Called) (timely : v.Timely)
    (history : v.sends.History calls) (isWait : call.kind = .waitReply)
    (hasReturned : call ∈ v.sends.returnedCalls) : call ∉ v.heldCallbacks := by
  intro isHeld
  have once : v.sends.acceptedCallbacks.count call ≤ 1 :=
    nodup_iff_count_le_one.mp (history.acceptedNodup.filter _) call
  rw [← called call] at once
  have heldOnce : 0 < v.heldCallbacks.count call := count_pos_iff.mpr isHeld
  have isAccepted : call ∈ v.sends.acceptedCallbacks := by
    refine count_pos_iff.mp ?_
    rw [← called call]
    omega
  rcases history.waited call hasReturned isWait (mem_filter.mp isAccepted).1 with
    wasCancelled | isReady
  · have cancelledOnce := count_pos_iff.mpr wasCancelled
    omega
  · have invokedOnce := count_pos_iff.mpr (timely.readyFutures call isReady)
    omega

theorem Timely.step {calls} (timely : v.Timely) (called : v.Called)
    (history : v.sends.History calls) (step : SendView.Step cfg allows v s') :
    s'.Timely := by
  have cancelled : ∀ call ∈ s'.sends.cancelled, call.kind = .waitReply :=
    fun call mem => (step.cancelled call mem).elim (timely.cancelled call) id
  cases step.invokes with
  | nothing sameInvoked sameReady sameLate =>
    refine ⟨cancelled, fun call isReady => ?_, sameLate.trans timely.lateInvocations⟩
    rw [sameReady] at isReady
    rw [invokedCallbacks, sameInvoked]
    exact timely.readyFutures call isReady
  | callback cb out inHands _ isAfter =>
    have isHeld : cb ∈ v.heldCallbacks := mem_append_right _ inHands
    refine ⟨cancelled, fun call isReady => ?_, ?_⟩
    · have invokedCallbacks : s'.sends.invokedCallbacks = v.sends.invokedCallbacks ++ [cb] := by
        simp [isAfter, invokedCallbacks, invoke]
      rw [invokedCallbacks]
      rw [isAfter] at isReady
      simp only [invoke] at isReady
      split at isReady
      · exact (mem_append.mp isReady).elim
          (fun wasReady => mem_append_left _ (timely.readyFutures call wasReady))
          (mem_append_right _)
      · exact mem_append_left _ (timely.readyFutures call isReady)
    · rw [isAfter]
      simp only [invoke]
      split
      next isWait hasReturned =>
        exact absurd isHeld (called.not_held_of_returned timely history isWait
          ((hasReturned_iff _ _).mp hasReturned))
      · exact timely.lateInvocations

structure Paired (view : SendView) : Prop where
  hands : ∀ pending ∈ view.activity.pairs, pending.1 = some pending.2
  invoked : ∀ callback request, (callback, .reply request) ∈ view.sends.invoked → callback = request

theorem Paired.queues {step} (paired : v.Paired) (held : v.Held)
    (act : v.activity = .queue fr) (runs : fr.Runs session v.sends step) :
    ∀ pending ∈ step.activity.pairs, pending.1 = some pending.2 := by
  have hands := paired.hands
  rw [act] at hands
  have cont : ∀ base s', fr.continuesWith v.sends = some (base, s') →
      ∀ pending ∈ s'.toList, pending.1 = some pending.2 := by
    intro base s' cont
    cases goesOn_of_continuesWith cont with
    | begins => exact nofun
    | replied wait =>
      cases (held.waiting_of_holds act rfl).symm.trans wait
      exact fun pending mem => by rw [mem_singleton.mp mem]
    | _ => exact hands
  cases runs with
  | pops isContinued _ => exact cont _ _ isContinued
  | @leaves _ _ s' isContinued _ =>
    rw [pairs_leaves]
    exact cont _ _ isContinued
  | hasWritten _ =>
    rw [pairs_leaves]
    exact hands
  | refuses _ | replies => exact nofun
  | _ => exact hands

theorem Paired.step (paired : v.Paired) (held : v.Held)
    (step : SendView.Step cfg allows v s') : s'.Paired := by
  constructor
  · cases step with
    | queues act _ runs => exact paired.queues held act runs
    | stutters | rejects call error | calls _ _ _ _ _ | opens _ _ => exact paired.hands
    | _ => exact nofun
  · intro cb req isInvoked
    cases step.invokes with
    | nothing sameInvoked _ _ =>
      rw [sameInvoked] at isInvoked
      exact paired.invoked cb req isInvoked
    | callback called out _ isReply isAfter =>
      rw [isAfter] at isInvoked
      rcases mem_append.mp isInvoked with wasInvoked | isLast
      · exact paired.invoked cb req wasInvoked
      · cases mem_singleton.mp isLast
        have isPair := paired.hands (some cb, req) (by
          rw [isReply req rfl]
          exact mem_singleton_self _)
        exact Option.some.inj isPair

/-- The replies come in the order of the requests on the wire: first the ones that
were passed on, then the one in the hands of the callback thread, then the one that
is still missing. -/
def RepliesInOrder (view : SendView) : Prop :=
  (view.sends.repliedRequests ++ view.activity.replying ++
    view.outstanding.map Prod.snd).Sublist view.sends.writtenRequests

theorem RepliesInOrder.of_same (inOrder : v.RepliesInOrder)
    (replied : s'.sends.repliedRequests ++ s'.activity.replying =
      v.sends.repliedRequests ++ v.activity.replying)
    (outstanding : s'.outstanding.Sublist v.outstanding)
    (written : s'.sends.writtenRequests = v.sends.writtenRequests) :
    s'.RepliesInOrder := by
  unfold RepliesInOrder at inOrder ⊢
  rw [replied, written]
  exact ((refl _).append (outstanding.map snd)).trans inOrder

theorem RepliesInOrder.request (inOrder : v.RepliesInOrder) (noRequest : v.outstanding = [])
    (isOpen : v.clientFd = some opened) (sameFd : s'.clientFd = v.clientFd)
    (unanswered : s'.sends.unanswered = v.sends.unanswered ++ [(opened, call)])
    (wire : s'.sends.wire = v.sends.wire ++ [⟨opened, .request, call⟩])
    (replied : s'.sends.repliedRequests ++ s'.activity.replying =
      v.sends.repliedRequests ++ v.activity.replying) : s'.RepliesInOrder := by
  unfold RepliesInOrder at inOrder ⊢
  rw [replied, outstanding_request (.inr isOpen.symm) rfl sameFd unanswered noRequest]
  rw [noRequest, map_nil, append_nil] at inOrder
  have written : s'.sends.writtenRequests = v.sends.writtenRequests ++ [call] := by
    simp [writtenRequests, wire]
  rw [written]
  exact inOrder.append (refl _)

theorem RepliesInOrder.replied {req} (inOrder : v.RepliesInOrder)
    (onlyRequest : v.outstanding = [req]) (noRequest : s'.outstanding = [])
    (replied : s'.sends.repliedRequests ++ s'.activity.replying =
      v.sends.repliedRequests ++ v.activity.replying ++ [req.2])
    (written : s'.sends.writtenRequests = v.sends.writtenRequests) :
    s'.RepliesInOrder := by
  unfold RepliesInOrder at inOrder ⊢
  rw [replied, noRequest, written, map_nil, append_nil]
  rwa [onlyRequest] at inOrder

theorem Sends.writtenRequests_send {s' : Sends}
    (wire : s'.wire = sends.wire ++ [⟨opened, .send, call⟩]) :
    s'.writtenRequests = sends.writtenRequests := by
  simp [writtenRequests, wire]

theorem RepliesInOrder.calls {fr : CallFrame} {step : CallStep} (inOrder : v.RepliesInOrder)
    (held : v.Held) (recorded : fr.Recorded v.sends)
    (ofS : session = none ∨ session = v.clientFd)
    (runs : fr.Runs cfg v.current session v.sends step) :
    RepliesInOrder { v with
      sends := step.sends
      asyncSends := v.asyncSends + step.arms.toNat } := by
  obtain ⟨holder, heldBy⟩ := held.holder
  cases runs with
  | sendsUnordered _ | sendsDirectly _ _ =>
    exact inOrder.of_same rfl (refl _) (Sends.writtenRequests_send rfl)
  | @requestsDirectly call opened isFree isSession =>
    cases heldBy.nobody isFree
    exact inOrder.request heldBy.outstanding (clientFd_of_session ofS isSession) rfl rfl rfl rfl
  | @writes call opened isSession =>
    cases heldBy.writer (recorded.writer.mpr rfl)
    exact inOrder.request heldBy.outstanding (clientFd_of_session ofS isSession) rfl rfl rfl rfl
  | _ => exact inOrder

theorem RepliesInOrder.queues {step : QueueStep} (inOrder : v.RepliesInOrder) (held : v.Held)
    (paired : v.Paired) (act : v.activity = .queue fr)
    (ofS : session = none ∨ session = v.clientFd)
    (runs : fr.Runs session v.sends step) :
    RepliesInOrder { v with sends := step.sends, activity := step.activity } := by
  obtain ⟨holder, heldBy⟩ := held.holder
  cases runs with
  | @pops _ base s' cmd queue cont isQueue =>
    have continued := continues_of_continuesWith cont
    refine inOrder.of_same ?_ ?_ ?_
    · rw [act, replying_of_continuesWith cont]
      simp only [repliedRequests, continued.invoked]
      rfl
    · simp only [outstanding, continued.unanswered]
      exact List.Sublist.refl _
    · simp only [writtenRequests, continued.wire]
  | @leaves _ base s' cont isQueue =>
    have continued := continues_of_continuesWith cont
    refine inOrder.of_same ?_ ?_ ?_
    · rw [act, replying_of_continuesWith cont, replying_leaves]
      simp only [leaves, repliedRequests, continued.invoked]
    · simp only [leaves, outstanding, continued.unanswered]
      exact List.Sublist.refl _
    · simp only [leaves, writtenRequests, continued.wire]
  | @writes cmd s' opened isSession =>
    have isOpen := clientFd_of_session ofS isSession
    cases heldBy.callbackThread (show v.activity.holds = [cmd.callback] by
      rw [act]; rfl)
    cases isCb : cmd.callback with
    | none =>
      have isCode : codeOf cmd = .send := by
        rw [codeOf, isCb]
      refine inOrder.of_same (by rw [act]; rfl) ?_
        (Sends.writtenRequests_send (by rw [isCode]; rfl))
      rw [isCode]
      exact List.Sublist.refl _
    | some cb =>
      have isCode : codeOf cmd = .request := by
        rw [codeOf, isCb]
      exact inOrder.request heldBy.outstanding isOpen rfl (by rw [isCode]; rfl)
        (by rw [isCode]; rfl) (by rw [act]; rfl)
  | hasWritten _ =>
    refine inOrder.of_same ?_ (List.Sublist.refl _) rfl
    rw [act, replying_leaves]
    rfl
  | @callsBack cb s' =>
    cases cb with
    | none => exact inOrder.of_same (by rw [act]; rfl) (List.Sublist.refl _) rfl
    | some cb =>
      refine inOrder.of_same ?_ (List.Sublist.refl _) rfl
      rw [act, invokeIfAny, repliedRequests_error]
      rfl
  | @refuses req _ =>
    unfold RepliesInOrder at inOrder ⊢
    rw [act] at inOrder
    refine List.Sublist.trans ?_ inOrder
    exact ((List.Sublist.refl _).append (nil_sublist _)).append (List.Sublist.refl _)
  | @replies cb req =>
    -- The reply is passed to the callback of its request.
    have isPair : cb = some req := paired.hands (cb, req) (by
      rw [act]
      exact mem_singleton_self _)
    refine inOrder.of_same ?_ ?_ ?_ <;> subst isPair
    · rw [act, invokeIfAny, repliedRequests_reply]
      exact append_nil _
    · exact List.Sublist.refl _
    · rfl
  | _ => exact inOrder.of_same (by rw [act]; rfl) (List.Sublist.refl _) rfl

theorem RepliesInOrder.step (inOrder : v.RepliesInOrder) (held : v.Held)
    (paired : v.Paired) (step : SendView.Step cfg allows v s') :
    s'.RepliesInOrder := by
  obtain ⟨holder, heldBy⟩ := held.holder
  have setActivity : ∀ (pre s' : Activity), v.activity = pre → pre.replying = s'.replying →
      RepliesInOrder { v with activity := s' } := by
    intro pre s' act same
    refine inOrder.of_same ?_ (refl _) rfl
    rw [act, same]
  cases step with
  | calls recorded _ ofS runs _ => exact inOrder.calls held recorded ofS runs
  | queues act ofS runs => exact inOrder.queues held paired act ofS runs
  | cleansUp act | hasStopped act => exact setActivity _ _ act rfl
  | closes act =>
    refine inOrder.of_same (by rw [act]; rfl) ?_ rfl
    rw [outstanding_of_closed rfl]
    exact nil_sublist _
  | switches act runs _ =>
    cases runs with
    | callsBack _ =>
      refine inOrder.of_same ?_ (refl _) rfl
      rw [act, repliedRequests_error]
      rfl
    | _ => exact inOrder.of_same (by rw [act]; rfl) (refl _) rfl
  | processes isIdle _ => exact setActivity _ (.queue .processQueue) isIdle rfl
  | @replies req isIdle isUnanswered isOpen =>
    cases heldBy.server isUnanswered isOpen
    refine inOrder.replied heldBy.outstanding
      (outstanding_replied heldBy.outstanding rfl rfl) ?_ rfl
    rw [isIdle]
    exact congrArg (· ++ _) (append_nil _).symm
  | stops isIdle => exact setActivity _ _ isIdle rfl
  | opens isClosed _ =>
    refine inOrder.of_same rfl ?_ rfl
    rw [held.outstanding_opened]
    exact nil_sublist _
  | _ => exact inOrder

end SendView

/-! ## Reachable states -/

structure SendView.Answered (view : SendView) : Prop where
  held : view.Held
  accounted : view.Accounted
  called : view.Called
  timely : view.Timely
  paired : view.Paired
  inOrder : view.RepliesInOrder

theorem SendView.Answered.step {cfg} {allows : Sends → CallFrame → Prop}
    {s' calls} (answered : v.Answered) (history : v.sends.History calls)
    (step : SendView.Step cfg allows v s') : s'.Answered where
  held := answered.held.step step
  accounted := answered.accounted.step step
  called := answered.called.step answered.held step
  timely := answered.timely.step answered.called history step
  paired := answered.paired.step answered.held step
  inOrder := answered.inOrder.step answered.held answered.paired step

theorem SendView.Accounted.nodup_writtenRequests {calls} (accounted : v.Accounted)
    (history : v.sends.History calls) : v.sends.writtenRequests.Nodup := by
  have messages : (v.sends.wire.map Written.message).Nodup := by
    refine nodup_iff_count_le_one.mpr fun msg => ?_
    have counted := accounted msg
    have once := nodup_iff_count_le_one.mp history.acceptedNodup msg
    omega
  exact messages.sublist (filter_sublist.map Written.message)

namespace ClientConnection

variable {ι : Type} [DecidableEq ι]

omit [DecidableEq ι] in
theorem start_answered (cfg : ClientConfig) : (start ι cfg).view.Answered where
  held := start_held cfg
  accounted := fun _ => rfl
  called := fun _ => rfl
  timely := ⟨nofun, nofun, rfl⟩
  paired := ⟨nofun, nofun⟩
  inOrder := refl _

omit [DecidableEq ι] in
theorem IsQuiet.heldCallbacks {conn : ClientConnection ι} (quiet : conn.IsQuiet)
    (calls : conn.CallsRecorded) (held : conn.view.Held)
    (answered : ∀ req ∈ conn.core.sends.unanswered,
      conn.core.life.clientFd ≠ some req.1) : conn.view.heldCallbacks = [] := by
  have isIdle : conn.view.activity = .idle := ofStack_of_life quiet.callbackThread
  rcases quiet.pending calls held with ⟨isFree, isEmpty⟩ |
    ⟨session, call, _, _, isUnanswered, isOpen⟩
  · rw [SendView.heldCallbacks, isIdle]
    simp [view, isFree, isEmpty, hands]
  · exact absurd isOpen (answered _ isUnanswered)

/-- A callback of `SendWithCallback` is held or was called once, if the call succeeded, and
was called if nothing is left to do.  `SendWaitReply` leaves no callback behind.  Replies
go to the callbacks of their requests, in the order of the requests. -/
theorem reachable_callbacks_called_once {config : ClientConfig} {connection : ClientConnection ι}
    (reachable : ((system ι config).restrict (Orderly config)).Reachable connection) :
    (∀ call, call.kind = .withCallback → (call, none) ∈ connection.core.sends.returned →
      connection.view.heldCallbacks.count call +
          connection.core.sends.invokedCallbacks.count call = 1 ∧
        (connection.IsQuiet → (∀ request ∈ connection.core.sends.unanswered,
            connection.core.life.clientFd ≠ some request.1) →
          connection.core.sends.invokedCallbacks.count call = 1)) ∧
      (∀ call error, call.kind = .withCallback →
        (call, some error) ∈ connection.core.sends.returned →
        call ∉ connection.view.heldCallbacks ∧ call ∉ connection.core.sends.invokedCallbacks) ∧
      (∀ call, call.kind = .waitReply → call ∈ connection.core.sends.returnedCalls →
        call ∉ connection.view.heldCallbacks) ∧
      connection.core.sends.lateInvocations = [] ∧
      (∀ callback request, (callback, .reply request) ∈ connection.core.sends.invoked →
        callback = request) ∧
      connection.core.sends.writtenRequests.Nodup ∧
      connection.core.sends.repliedRequests.Sublist connection.core.sends.writtenRequests := by
  obtain ⟨inOrder, answered⟩ := @view_invariant ι _ config (Orderly config)
    (fun _ _ => True) (fun _ _ isAllowed => isAllowed) (fun _ _ _ _ _ _ => trivial)
    SendView.Answered (start_answered config)
    (fun _ _ _ history answered step => answered.step history step) connection reachable
  have history := inOrder.calls.history
  have called := answered.called
  refine ⟨fun call isKind succeeded => ?_, fun call error isKind failed => ?_,
    fun call isWait hasReturned => called.not_held_of_returned answered.timely history
      isWait hasReturned, answered.timely.lateInvocations, answered.paired.invoked,
    answered.accounted.nodup_writtenRequests history, ?_⟩
  · have isAccepted : call ∈ connection.core.sends.acceptedCallbacks :=
      mem_filter.mpr ⟨history.success call succeeded, by rw [isKind]; rfl⟩
    have once : connection.core.sends.acceptedCallbacks.count call = 1 :=
      count_eq_one_of_mem (history.acceptedNodup.filter _) isAccepted
    have notCancelled : connection.core.sends.cancelled.count call = 0 := by
      refine count_eq_zero.mpr fun isCancelled => ?_
      have isWait := answered.timely.cancelled call isCancelled
      cases isKind.symm.trans isWait
    have counted : connection.view.heldCallbacks.count call +
        connection.core.sends.invokedCallbacks.count call +
        connection.core.sends.cancelled.count call = 1 := (called call).trans once
    refine ⟨by omega, fun quiet noRequest => ?_⟩
    rw [quiet.heldCallbacks inOrder.calls answered.held noRequest, count_nil] at counted
    omega
  · have notAccepted : call ∉ connection.core.sends.acceptedMessages :=
      history.failure call error failed (by rw [isKind]; exact noConfusion)
    have noCallback : connection.view.sends.acceptedCallbacks.count call = 0 :=
      count_eq_zero.mpr fun isAccepted => notAccepted (mem_filter.mp isAccepted).1
    have counted := called call
    have counts : connection.view.heldCallbacks.count call = 0 ∧
        connection.view.sends.invokedCallbacks.count call = 0 := by omega
    exact ⟨count_eq_zero.mp counts.1, count_eq_zero.mp counts.2⟩
  · have replies := answered.inOrder
    unfold SendView.RepliesInOrder at replies
    rw [append_assoc] at replies
    exact (sublist_append_left _ _).trans replies

/-- The reply to a request is passed to its callback, and a message that was queued
behind the request is written before that. -/
theorem reply_passed_to_callback : ∃ connection : ClientConnection Unit,
      ((system Unit .ordered).restrict (Orderly .ordered)).Reachable connection ∧
      connection.core.sends.invoked = [(⟨0, .withCallback⟩, .reply ⟨0, .withCallback⟩)] ∧
      (⟨0, .withCallback⟩, none) ∈ connection.core.sends.returned ∧
      connection.view.heldCallbacks.count ⟨0, .withCallback⟩ +
        connection.core.sends.invokedCallbacks.count ⟨0, .withCallback⟩ = 1 := by
  obtain ⟨connection, reachable, isInvoked, returned⟩ : ∃ connection,
      ((system Unit .ordered).restrict (Orderly .ordered)).Reachable connection ∧
      connection.core.sends.invoked = [(⟨0, .withCallback⟩, .reply ⟨0, .withCallback⟩)] ∧
      connection.core.sends.returned = [(⟨0, .withCallback⟩, none), (⟨1, .send⟩, none)] :=
    TransitionSystem.exists_restricted (becomesReady () (.start ()) ++
      callsAndRuns () .withCallback ++ callsAndRuns () .send ++
      .reply :: replicate 4 (.run .callbackThread ⟨true, .opened⟩)) ⟨_, rfl, rfl, rfl⟩
  have succeeded : (⟨0, .withCallback⟩, none) ∈ connection.core.sends.returned := by
    rw [returned]
    exact mem_cons_self
  exact ⟨connection, reachable, isInvoked, succeeded,
    ((reachable_callbacks_called_once reachable).1 _ rfl succeeded).1⟩

/-- Stopping takes the callback of `SendWaitReply` before the request is written, and
calls it after the call has failed and returned. -/
def returnsBeforeCallback : List (ConnectionStep Bool) :=
  becomesReady true (.start true) ++ callsAndRuns false .waitReply ++ becomesStopped true 3 ++
    List.replicate 2 (.run (.user false) ⟨false, .opened⟩) ++
    [.run .callbackThread ⟨true, .opened⟩]

/-- A call of `SendWaitReply` whose callback was taken by stopping fails in the next
session, and drops the callback of another call. -/
def dropsForeignCallback : List (ConnectionStep Bool) :=
  becomesReady true (.start true) ++ callsAndRuns false .waitReply ++
    becomesStopped true 7 ++ becomesReady true (.restart (.user true)) ++
    callsAndRuns true .withCallback ++
    List.replicate 2 (.run (.user false) ⟨false, .opened⟩)

theorem callback_late_and_callback_lost : (∃ connection : ClientConnection Bool,
      (system Bool .ordered).Reachable connection ∧
      connection.core.sends.lateInvocations ≠ []) ∧
    ∃ connection : ClientConnection Bool, (system Bool .ordered).Reachable connection ∧
      (⟨1, .withCallback⟩, none) ∈ connection.core.sends.returned ∧
      connection.view.heldCallbacks = [] ∧
      ⟨1, .withCallback⟩ ∉ connection.core.sends.invokedCallbacks := by
  constructor
  · exact TransitionSystem.exists_reachable returnsBeforeCallback ⟨_, rfl, cons_ne_nil _ _⟩
  · exact TransitionSystem.exists_reachable dropsForeignCallback
      ⟨_, rfl, mem_cons_self, rfl, by decide⟩

end ClientConnection

end ScoreIntegration.MessagePassing
