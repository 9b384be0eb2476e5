import Mathlib.Data.List.Count
import Mathlib.Data.List.Perm.Basic
import Mathlib.Data.List.Range
import ScoreIntegration.MessagePassing.ConnectionStacks

/-!
# The elements of the send storage

Each element of `send_storage_` is in the pool, in the queue or in the hands of the callback
thread.  Only `SwitchToStopState` breaks this: it takes elements out of the queue and does
not put them back.
-/

namespace ScoreIntegration.MessagePassing

open Concurrency QueueFrame Sends CallStep List Option Function ClientConfig SendCommand

/-! ## Counting elements -/

/-- How often an element is in the pool or in the queue. -/
def Sends.count (sends : Sends) (element : Nat) : Nat :=
  sends.sendPool.count element + (sends.sendQueue.map SendCommand.element).count element

def QueueFrame.elements : QueueFrame → List Nat
  | .queuedWrite command _ => [command.element]
  | .queuedWritten command _ _ => [command.element]
  | _ => []

def Frame.elements : Frame → List Nat
  | .queue frame => frame.elements
  | _ => []

variable {sends : Sends} {current : Nat} {config : ClientConfig} {session : Option Nat}

theorem Sends.count_invokeIfAny (sends : Sends) (cb : ReplyCallback)
    (out : ReplyOutcome) (elem : Nat) :
    (sends.invokeIfAny cb out).count elem = sends.count elem := by
  cases cb with
  | none | some call => rfl

theorem Sends.count_queued (current : Nat) {first pool msg cb}
    (isPool : sends.sendPool = first :: pool) (elem : Nat) :
    (sends.queued current first pool msg cb).count elem = sends.count elem := by
  simp only [count, queued, isPool, map_append, map_cons, map_nil,
    count_append, count_cons, count_nil]
  omega

theorem CallFrame.Runs.count {fr : CallFrame} {step : CallStep}
    (runs : fr.Runs config current session sends step) (elem : Nat) :
    step.sends.count elem = sends.count elem := by
  cases runs with
  | queues _ _ isPool | queuesAndArms _ _ _ isPool | queuesAndWaits _ isPool =>
    exact count_queued current isPool elem
  | _ => rfl

theorem QueueFrame.Runs.count {fr : QueueFrame} {step : QueueStep}
    (runs : fr.Runs session sends step) (elem : Nat) :
    step.sends.count elem + ((step.next.map elements).getD []).count elem =
      sends.count elem + fr.elements.count elem := by
  -- The element is back in the pool before the loop goes on.
  have pooled (cmd : SendCommand) : Sends.count { sends with
      sendPool := cmd.element :: sends.sendPool } elem =
      sends.count elem + [cmd.element].count elem := by
    simp only [Sends.count, count_cons, count_nil]
    omega
  have continued {base s'} (cont : fr.continuesWith sends = some (base, s')) :
      base.count elem = sends.count elem + fr.elements.count elem := by
    cases goesOn_of_continuesWith cont with
    | written _ => exact pooled _
    | _ => rfl
  cases runs with
  | pops cont isQueue =>
    rw [← continued cont]
    simp only [Sends.count, isQueue, elements, map_some, getD_some, map_cons, count_cons, count_nil]
    omega
  | @leaves _ _ s' cont _ =>
    rw [← continued cont]
    cases s' <;> rfl
  | @hasWritten _ s' _ _ =>
    refine Eq.trans ?_ (pooled _)
    cases s' <;> rfl
  | hasFailed _ => exact pooled _
  | callsBack | replies => exact count_invokeIfAny sends _ _ elem
  | _ => rfl

/-! ## Stopping -/

/-- This step takes elements out of the queue for good, if there are any. -/
def SwitchFrame.drains (sends : Sends) : SwitchFrame → Bool
  | .take => sends.waitingForReply.isNone
  | .drain => true
  | _ => false

theorem Sends.count_drain (isEmpty : sends.sendQueue = []) (elem : Nat) :
    sends.drain.1.count elem = sends.count elem := by
  simp only [drain, isEmpty, drainUntilCallback, count]

theorem SwitchFrame.count_execSends {fr next : SwitchFrame} {s' : Sends}
    (isEmpty : fr.drains sends = true → sends.sendQueue = [])
    (ran : fr.execSends sends = some (s', next)) (elem : Nat) :
    s'.count elem = sends.count elem := by
  cases fr with
  | take =>
    cases wait : sends.waitingForReply with
    | none =>
      have drained := count_drain (isEmpty (by rw [drains, wait]; rfl)) elem
      have isDrain : sends.drain = (s', next) := by
        rw [execSends, wait] at ran
        exact some.inj ran
      rwa [isDrain] at drained
    | some cb =>
      rw [execSends, wait] at ran
      cases cb <;> cases ran <;> rfl
  | drain =>
    have drained := count_drain (isEmpty rfl) elem
    have isDrain : sends.drain = (s', next) := some.inj ran
    rwa [isDrain] at drained
  | callback call | drainCallback call =>
    cases ran
    rfl
  | _ => cases ran

/-! ## Steps of the connection -/

/-- A frame that takes elements out of the queue for good finds none. -/
def Frame.Keeps (sends : Sends) : Frame → Prop
  | .switch frame => frame.drains sends = true → sends.sendQueue = []
  | _ => True

instance (sends : Sends) (frame : Frame) : Decidable (frame.Keeps sends) :=
  match frame with
  | .switch frame => inferInstanceAs (Decidable (frame.drains sends = true → sends.sendQueue = []))
  | .call _ | .queue _ | .life _ => .isTrue trivial

theorem Core.count_exec {onCallbackThread : Bool} {answer : EngineAnswer}
    {core s' : Core} {fr : Frame} {next : List Frame} (keeps : fr.Keeps core.sends)
    (ran : core.exec config onCallbackThread answer fr = some (s', next)) (elem : Nat) :
    s'.sends.count elem + (next.flatMap Frame.elements).count elem =
      core.sends.count elem + fr.elements.count elem := by
  cases fr with
  | call fr =>
    obtain ⟨step, stepped, isAfter⟩ := map_eq_some_iff.mp ran
    cases isAfter
    have counted := (CallFrame.runs_of_exec stepped).count elem
    cases isNext : step.next <;> simpa [isNext, Frame.elements] using counted
  | queue fr =>
    have counted := (runs_exec (core.session answer) core.sends fr).count elem
    cases ran
    cases fails : (fr.exec (core.session answer) core.sends).fails with
    | true =>
      have noNext := (runs_exec _ _ fr).next_of_fails fails
      simpa [noNext, Frame.elements] using counted
    | false =>
      cases isNext : (fr.exec (core.session answer) core.sends).next <;>
        simpa [isNext, Frame.elements] using counted
  | life fr =>
    cases ran
    cases fr with
    | connect => cases answer.opens <;> rfl
    | _ =>
      simp only [LifeFrame.exec]
      try split
      all_goals rfl
  | switch fr =>
    rcases Core.execSwitch_cases ran with
      ⟨_, rfl, rfl⟩ | ⟨_, rfl, rfl⟩ | ⟨_, rfl, rfl⟩ | ⟨sends, following, ranSends, rfl, rfl⟩
    · rfl
    · rfl
    · rfl
    · exact SwitchFrame.count_execSends keeps ranSends elem

namespace ClientConnection

variable {ι : Type} [DecidableEq ι] {conn : ClientConnection ι} {cfg : ClientConfig}
  {s' : ClientConnection ι}

def elementsInTransit (connection : ClientConnection ι) : List Nat :=
  connection.callbackThread.flatMap Frame.elements

/-- Every element is in the pool, in the queue or in transit. -/
structure Conserves (config : ClientConfig) (connection : ClientConnection ι) : Prop where
  stacked : connection.WellStacked
  count : ∀ element, connection.core.sends.count element +
        connection.elementsInTransit.count element =
      (List.range (config.maxQueuedSends + config.maxAsyncReplies)).count element

/-- Whenever `SwitchToStopState` empties the queue, the queue is empty already. -/
def StopsWithEmptyQueue (connection : ClientConnection ι) : ConnectionStep ι → Prop
  | .run thread _ => ∀ frame ∈ (connection.stack thread).head?, frame.Keeps connection.core.sends
  | _ => True

theorem elements_of_onUserThread {frames}
    (stacked : Stacked Frame.onUserThread frames) : frames.flatMap Frame.elements = [] := by
  cases frames with
  | nil => rfl
  | cons top rest =>
    obtain ⟨onUserThread, lifeBelow, _⟩ := stacked
    refine flatMap_eq_nil_iff.mpr fun fr isFrame => ?_
    rcases mem_cons.mp isFrame with rfl | isBelow
    · cases fr with
      | queue _ => cases onUserThread
      | _ => rfl
    · have isLife := lifeBelow fr isBelow
      cases fr with
      | life _ => rfl
      | _ => cases isLife

omit [DecidableEq ι] in
theorem Conserves.of_same (conserves : Conserves cfg conn) (stacked : s'.WellStacked)
    (sameCount : ∀ elem, s'.core.sends.count elem = conn.core.sends.count elem)
    (sameElements : s'.elementsInTransit = conn.elementsInTransit) :
    Conserves cfg s' := by
  refine ⟨stacked, fun elem => ?_⟩
  rw [sameElements, sameCount]
  exact conserves.count elem

theorem Conserves.step {label : ConnectionStep ι} (conserves : Conserves cfg conn)
    (ok : StopsWithEmptyQueue conn label)
    (taken : conn.step cfg label = some s') : Conserves cfg s' := by
  have stacked := conserves.stacked.step taken
  have idle {core frames} (isIdle : conn.callbackThread = [])
      (sameSends : ∀ elem, core.sends.count elem = conn.core.sends.count elem)
      (noElements : frames.flatMap Frame.elements = [])
      (stacked : WellStacked { conn with core, callbackThread := frames }) :
      Conserves cfg { conn with core, callbackThread := frames } := by
    refine conserves.of_same stacked sameSends ?_
    rw [elementsInTransit, elementsInTransit, isIdle]
    exact noElements
  cases takes_of_step taken with
  | stays => exact conserves
  | rejects _ | begins _ => exact conserves.of_same stacked (fun _ => rfl) rfl
  | @restarts _ t _ _ | @stops t _ _ =>
    exact conserves.of_same stacked (fun _ => by cases t <;> rfl) (by cases t <;> rfl)
  | @runs t ans fr frames next core isStack _ ran =>
    have keeps : fr.Keeps conn.core.sends := ok fr (by rw [isStack]; rfl)
    have counted := Core.count_exec keeps ran
    cases t with
    | callbackThread =>
      refine ⟨stacked, fun elem => ?_⟩
      have pre := conserves.count elem
      have ranCounted := counted elem
      rw [elementsInTransit, show conn.callbackThread = _ from isStack,
        flatMap_cons, count_append] at pre
      change core.sends.count elem + ((next ++ frames).flatMap Frame.elements).count elem = _
      rw [flatMap_append, count_append]
      omega
    | user i =>
      -- A user thread has no elements before or after the step.
      have beforeNone := elements_of_onUserThread (conserves.stacked.users i)
      rw [show conn.users i = _ from isStack, flatMap_cons, append_eq_nil_iff] at beforeNone
      have afterNone := elements_of_onUserThread (stacked.users i)
      change (update conn.users i (next ++ frames) i).flatMap Frame.elements = [] at afterNone
      rw [update_self, flatMap_append, append_eq_nil_iff] at afterNone
      refine conserves.of_same stacked (fun elem => ?_) rfl
      have ranCounted := counted elem
      rw [beforeNone.1, afterNone.1] at ranCounted
      exact ranCounted
  | @commands cmd _ isIdle _ => exact idle isIdle (fun _ => rfl) (by cases cmd <;> rfl) stacked
  | retries isIdle _ => exact idle isIdle (fun _ => rfl) rfl stacked
  | replies hasInput _ _ | inputs hasInput _ =>
    exact idle (idle_of_hasInput hasInput) (fun _ => rfl) rfl stacked

omit [DecidableEq ι] in
theorem start_conserves (cfg : ClientConfig) : Conserves cfg (start ι cfg) := by
  refine ⟨⟨trivial, fun _ => trivial⟩, fun elem => ?_⟩
  simp [Sends.count, start, Sends.start, elementsInTransit]

theorem Conserves.of_reachable
    (reach : ((system ι cfg).restrict StopsWithEmptyQueue).Reachable conn) :
    Conserves cfg conn :=
  reach.preserves (start_conserves cfg) step

end ClientConnection

def Sends.queueAll (current : Nat) : List (Call × ReplyCallback) → Sends → Option Sends
  | [], sends => some sends
  | (message, callback) :: messages, sends =>
    (sends.tryQueueMessage current message callback).bind (Sends.queueAll current messages)

theorem Sends.queueAll_succeeds (current : Nat) {messages}
    (enough : messages.length ≤ sends.sendPool.length) :
    ∃ queued, queueAll current messages sends = some queued := by
  induction messages generalizing sends with
  | nil => exact ⟨sends, rfl⟩
  | cons first messages ih =>
    cases isPool : sends.sendPool with
    | nil =>
      rw [isPool] at enough
      cases enough
    | cons elem pool =>
      rw [isPool, length_cons, length_cons] at enough
      have queues : sends.tryQueueMessage current first.1 first.2 =
          some { sends.accept current first.1 with
            sendPool := pool
            sendQueue := sends.sendQueue ++ [⟨elem, first.1, first.2⟩] } := by
        rw [tryQueueMessage, isPool]
      rw [queueAll, queues, bind_some]
      exact ih (Nat.le_of_succ_le_succ enough)

namespace ClientConnection

variable {ι : Type} [DecidableEq ι]

/-- While no queued message is being sent, every element of the send storage is in
exactly one of the pool and the queue; with an empty queue as many messages can be
queued as the storage has elements. -/
theorem reachable_elements_in_pool_or_queue {config : ClientConfig}
    {connection : ClientConnection ι}
    (reachable : ((system ι config).restrict StopsWithEmptyQueue).Reachable connection)
    (noneInTransit : connection.elementsInTransit = []) :
    (connection.core.sends.sendPool ++ connection.core.sends.sendQueue.map element).Perm
      (range (config.maxQueuedSends + config.maxAsyncReplies)) ∧
    (connection.core.sends.sendQueue = [] →
      ∀ (current : Nat) (messages : List (Call × ReplyCallback)),
        messages.length ≤ config.maxQueuedSends + config.maxAsyncReplies →
        ∃ queued, queueAll current messages connection.core.sends = some queued) := by
  have counted := (Conserves.of_reachable reachable).count
  rw [noneInTransit] at counted
  have isPerm : (connection.core.sends.sendPool ++
        connection.core.sends.sendQueue.map element).Perm
      (range (config.maxQueuedSends + config.maxAsyncReplies)) := by
    refine perm_iff_count.mpr fun element => ?_
    rw [count_append]
    exact counted element
  refine ⟨isPerm, fun isEmpty current messages atMost => ?_⟩
  have poolLength := isPerm.length_eq
  rw [isEmpty, map_nil, append_nil, length_range] at poolLength
  exact queueAll_succeeds current (poolLength ▸ atMost)

instance (connection : ClientConnection ι) (label : ConnectionStep ι) :
    Decidable (StopsWithEmptyQueue connection label) :=
  match label with
  | .run thread _ => inferInstanceAs (Decidable (∀ frame ∈
      (connection.stack thread).head?, frame.Keeps connection.core.sends))
  | .call .. | .start .. | .restart .. | .stop .. | .command | .retry | .reply
  | .notify | .inputError .. => .isTrue trivial

/-- A message is queued behind a request. -/
theorem queued_element_in_queue : ∃ connection : ClientConnection Unit,
      ((system Unit ordered).restrict StopsWithEmptyQueue).Reachable connection ∧
      connection.elementsInTransit = [] ∧
      connection.core.sends.sendPool = [] ∧
      (connection.core.sends.sendPool ++
          connection.core.sends.sendQueue.map element).Perm
        (range 1) := by
  obtain ⟨connection, reachable, noneInTransit, poolEmpty⟩ : ∃ connection,
      ((system Unit ordered).restrict StopsWithEmptyQueue).Reachable connection ∧
      connection.elementsInTransit = [] ∧ connection.core.sends.sendPool = [] :=
    TransitionSystem.exists_restricted (becomesReady () (.start ()) ++
      callsAndRuns () .withCallback ++ callsAndRuns () .send) ⟨_, rfl, rfl, rfl⟩
  exact ⟨connection, reachable, noneInTransit, poolEmpty,
    (reachable_elements_in_pool_or_queue reachable noneInTransit).1⟩

/-- The connection stops while a message is queued: after a restart the queue is
empty, and so is the pool. -/
theorem restarted_connection_lost_element : ∃ connection : ClientConnection Unit,
      (system Unit ordered).Reachable connection ∧
      connection.elementsInTransit = [] ∧
      connection.core.life.state = .ready ∧
      connection.core.sends.sendPool = [] ∧
      connection.core.sends.sendQueue = [] ∧
      connection.core.sends.tryQueueMessage 1 ⟨2, .send⟩ none = none := by
  exact TransitionSystem.exists_reachable
    (becomesReady () (.start ()) ++ callsAndRuns () .withCallback ++ callsAndRuns () .send ++
      becomesStopped () 7 ++ becomesReady () (.restart (.user ())))
    ⟨_, rfl, rfl, rfl, rfl, rfl, rfl⟩

end ClientConnection

end ScoreIntegration.MessagePassing
