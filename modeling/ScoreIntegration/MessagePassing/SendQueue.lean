import Mathlib.Data.List.Basic

/-!
# Sending on a client connection

Messages go to the engine directly or through `send_queue_`, whose elements are
borrowed from `send_pool_`.  A value in `waiting_for_reply_`, the callback of a
request or the empty placeholder, makes further callers queue their messages.

Every section under `send_mutex_` is one step: it reads or writes at most one thing
that the mutex does not protect.  A message is identified with its call.
-/

namespace ScoreIntegration.MessagePassing

open Option

inductive CallKind where
  | send
  | waitReply
  | withCallback
  deriving DecidableEq, Repr

/-- A call of one of the three send functions. -/
structure Call where
  number : Nat
  kind : CallKind
  deriving DecidableEq, Repr

/-- The callback given to a call, or the internal callback of `SendWaitReply`; `none`
is the empty callback. -/
abbrev ReplyCallback := Option Call

structure ClientConfig where
  maxAsyncReplies : Nat
  maxQueuedSends : Nat
  fullyOrdered : Bool
  trulyAsync : Bool
  syncFirstConnect : Bool

/-- A fully ordered connection with one element in its send storage. -/
def ClientConfig.ordered : ClientConfig where
  maxAsyncReplies := 0
  maxQueuedSends := 1
  fullyOrdered := true
  trulyAsync := false
  syncFirstConnect := false

/-- A truly asynchronous connection with two elements in its send storage. -/
def ClientConfig.async : ClientConfig where
  maxAsyncReplies := 1
  maxQueuedSends := 1
  fullyOrdered := false
  trulyAsync := true
  syncFirstConnect := false

inductive SendError where
  | emsgsize
  | einval
  | enobufs
  | epipe
  /-- An error of the engine's `SendProtocolMessage`. -/
  | engine
  deriving DecidableEq, Repr

structure SendCommand where
  element : Nat
  message : Call
  callback : ReplyCallback
  deriving DecidableEq, Repr

inductive ClientToServer where
  | send
  | request
  deriving DecidableEq, Repr

/-- A protocol message in the hands of the engine. -/
structure Written where
  session : Nat
  code : ClientToServer
  message : Call
  deriving DecidableEq, Repr

/-- A message with the session that was open when its call held the mutex, or else
the next one. -/
structure Accepted where
  session : Nat
  message : Call
  deriving DecidableEq, Repr

/-- What a reply callback is called with: the reply to a request, or an error. -/
inductive ReplyOutcome where
  | reply (request : Call)
  | error (error : SendError)
  deriving DecidableEq, Repr

/-- What `send_mutex_` protects, and the history of the connection: accepted messages, calls
of `SendWaitReply` that are writing their request or have failed to, messages that the
engine took or that were given up, dropped callbacks, requests without an answer,
invocations and results. -/
structure Sends where
  sendPool : List Nat
  sendQueue : List SendCommand
  waitingForReply : Option ReplyCallback
  readyFutures : List Call
  accepted : List Accepted
  writers : List Call
  failedWriters : List Call
  wire : List Written
  dropped : List Call
  cancelled : List Call
  unanswered : List (Nat × Call)
  invoked : List (Call × ReplyOutcome)
  lateInvocations : List Call
  returned : List (Call × Option SendError)
  armedWhilePending : Bool
  deriving DecidableEq, Repr

namespace Sends

def start (config : ClientConfig) : Sends where
  sendPool := List.range (config.maxQueuedSends + config.maxAsyncReplies)
  sendQueue := []
  waitingForReply := none
  readyFutures := []
  accepted := []
  writers := []
  failedWriters := []
  wire := []
  dropped := []
  cancelled := []
  unanswered := []
  invoked := []
  lateInvocations := []
  returned := []
  armedWhilePending := false

/-! ## History -/

variable (sends : Sends)

def accept (current : Nat) (message : Call) : Sends :=
  { sends with accepted := sends.accepted ++ [⟨current, message⟩] }

def write (session : Nat) (code : ClientToServer) (message : Call) : Sends :=
  { sends with
    wire := sends.wire ++ [⟨session, code, message⟩]
    unanswered := match code with
      | .send => sends.unanswered
      | .request => sends.unanswered ++ [(session, message)] }

def giveUp (message : Call) : Sends := { sends with dropped := sends.dropped ++ [message] }

def finish (call : Call) (error : Option SendError) : Sends :=
  { sends with returned := sends.returned ++ [(call, error)] }

def hasReturned (call : Call) : Bool := sends.returned.any fun result => result.1 == call

/-- A reply callback is called.  The internal callback of `SendWaitReply` marks the
future of that call as ready. -/
def invoke (callback : Call) (outcome : ReplyOutcome) : Sends :=
  { sends with
    invoked := sends.invoked ++ [(callback, outcome)]
    readyFutures := match callback.kind with
      | .waitReply => sends.readyFutures ++ [callback]
      | _ => sends.readyFutures
    lateInvocations := match callback.kind, sends.hasReturned callback with
      | .waitReply, true => sends.lateInvocations ++ [callback]
      | _, _ => sends.lateInvocations }

/-! ## The queue -/

def tryQueueMessage (current : Nat) (message : Call) (callback : ReplyCallback) : Option Sends :=
  match sends.sendPool with
  | [] => none
  | element :: pool =>
    some { sends.accept current message with
      sendPool := pool
      sendQueue := sends.sendQueue ++ [⟨element, message, callback⟩] }

/-- The placeholder of `ArmSendQueueUnderLock`; the caller of this function enqueues
the command. -/
def armSendQueueUnderLock : Sends :=
  { sends with
    armedWhilePending := sends.armedWhilePending || sends.waitingForReply.isSome
    waitingForReply := some none }

def futureError (call : Call) : Option SendError :=
  match sends.invoked.find? (fun invocation => invocation.1 == call) with
  | some (_, .error error) => some error
  | _ => none

end Sends

/-! ## Calls -/

/-- Where a call is; the names of the constructors say what it does next. -/
inductive CallFrame where
  /-- `Send` without any order. -/
  | sendUnordered (call : Call)
  | send (call : Call)
  | waitReply (call : Call)
  /-- `SendWaitReply` has released the mutex to write its request. -/
  | waitReplyWrite (call : Call)
  /-- It has written the request, or failed to, and takes the mutex again. -/
  | waitReplyWritten (call : Call) (written : Bool)
  | waitReplyWait (call : Call)
  | withCallback (call : Call)
  deriving DecidableEq, Repr

/-- The effect of one step of a call: whether it enqueues `async_send_command_`, and
where the call is afterwards. -/
structure CallStep where
  sends : Sends
  arms : Bool
  next : Option CallFrame

def CallStep.returns (sends : Sends) (call : Call) (error : Option SendError) : CallStep :=
  ⟨sends.finish call error, false, none⟩

section

variable (sends : Sends) (current : Nat) (call : Call) (callback : ReplyCallback)

def CallStep.queues : CallStep :=
  match sends.tryQueueMessage current call callback with
  | none => .returns sends call (some .enobufs)
  | some queued => .returns queued call none

def CallStep.queuesAndArms : CallStep :=
  match sends.tryQueueMessage current call callback with
  | none => .returns sends call (some .enobufs)
  | some queued => ⟨queued.armSendQueueUnderLock.finish call none, true, none⟩

end

def CallStep.sendsDirectly (sends : Sends) (current : Nat) (session : Option Nat)
    (call : Call) : CallStep :=
  match session with
  | none => .returns sends call (some .engine)
  | some session => .returns ((sends.accept current call).write session .send call) call none

/-- One step of a call; `current` is the session that is open or opens next, and
`session` the one that takes the message if the engine takes one. -/
def CallFrame.exec (config : ClientConfig) (current : Nat) (session : Option Nat)
    (sends : Sends) : CallFrame → Option CallStep
  | .sendUnordered call => some (.sendsDirectly sends current session call)
  | .send call => some <|
      match sends.waitingForReply with
      | none =>
        if config.trulyAsync then .queuesAndArms sends current call none
        else .sendsDirectly sends current session call
      | some _ => .queues sends current call none
  | .waitReply call => some <|
      match sends.waitingForReply with
      | some _ =>
        match sends.tryQueueMessage current call (some call) with
        | none => .returns sends call (some .enobufs)
        | some queued => ⟨queued, false, some (.waitReplyWait call)⟩
      | none =>
        ⟨{ sends.accept current call with
            waitingForReply := some (some call)
            writers := sends.writers ++ [call] }, false,
          some (.waitReplyWrite call)⟩
  | .waitReplyWrite call =>
    let written := { sends with writers := sends.writers.erase call }
    some <|
      match session with
      | none =>
        ⟨{ written.giveUp call with
            failedWriters := sends.failedWriters ++ [call] }, false,
          some (.waitReplyWritten call false)⟩
      | some session =>
        ⟨written.write session .request call, false, some (.waitReplyWritten call true)⟩
  | .waitReplyWritten call true => some ⟨sends, false, some (.waitReplyWait call)⟩
  | .waitReplyWritten call false =>
    let cancelled := { sends with
      cancelled := sends.cancelled ++ [call]
      failedWriters := sends.failedWriters.erase call }
    some <|
      match sends.sendQueue with
      | [] => .returns { cancelled with waitingForReply := none } call (some .engine)
      | _ :: _ => ⟨cancelled.armSendQueueUnderLock.finish call (some .engine), true, none⟩
  | .waitReplyWait call =>
    if call ∈ sends.readyFutures then
      some (.returns sends call (sends.futureError call))
    else none
  | .withCallback call => some <|
      match sends.waitingForReply with
      | some _ => .queues sends current call (some call)
      | none =>
        if config.trulyAsync then .queuesAndArms sends current call (some call)
        else
          match session with
          | none => .returns sends call (some .engine)
          | some session =>
            .returns { (sends.accept current call).write session .request call with
              waitingForReply := some (some call) } call none

/-! ## Processing the queue on the callback thread -/

/-- A reply callback that is called after the queue has been processed, and the
request that was answered. -/
abbrev PendingReply := Option (ReplyCallback × Call)

inductive QueueFrame where
  /-- The command of `ArmSendQueueUnderLock` takes the mutex. -/
  | processQueue
  | queuedWrite (command : SendCommand) (after : PendingReply)
  | queuedWritten (command : SendCommand) (written : Bool) (after : PendingReply)
  /-- The callback of a request that could not be written is called. -/
  | queuedFail (callback : ReplyCallback) (after : PendingReply)
  | queuedFailed (after : PendingReply)
  /-- `ProcessInputEvent` has received the reply to a request. -/
  | inputReply (request : Call)
  | replyCallback (callback : ReplyCallback) (request : Call)
  deriving DecidableEq, Repr

/-- The effect of one step of the callback thread on the queue. -/
structure QueueStep where
  sends : Sends
  next : Option QueueFrame
  /-- `ProcessInputEvent` reports an error. -/
  fails : Bool

/-- The end of `ProcessSendQueueUnderLock`. -/
def QueueStep.leaves (sends : Sends) (after : PendingReply) : QueueStep :=
  ⟨sends, after.map fun pending => .replyCallback pending.1 pending.2, false⟩

/-- `ProcessSendQueueUnderLock` from the head of its loop to the next release of the
mutex. -/
def processSendQueueUnderLock (sends : Sends) (after : PendingReply) : QueueStep :=
  match sends.sendQueue with
  | [] => .leaves sends after
  | command :: queue =>
    ⟨{ sends with sendQueue := queue, waitingForReply := some command.callback },
      some (.queuedWrite command after), false⟩

def Sends.invokeIfAny (sends : Sends) (callback : ReplyCallback) (outcome : ReplyOutcome) : Sends :=
  match callback with
  | none => sends
  | some call => sends.invoke call outcome

def QueueFrame.exec (session : Option Nat) (sends : Sends) : QueueFrame → QueueStep
  | .processQueue => processSendQueueUnderLock sends none
  | .queuedWrite command after =>
    let code := match command.callback with
      | none => ClientToServer.send
      | some _ => ClientToServer.request
    match session with
    | none => ⟨sends.giveUp command.message, some (.queuedWritten command false after), false⟩
    | some session =>
      ⟨sends.write session code command.message, some (.queuedWritten command true after), false⟩
  | .queuedWritten command written after =>
    let pooled := { sends with sendPool := command.element :: sends.sendPool }
    match command.callback, written with
    | some _, true => .leaves pooled after
    | some _, false =>
      ⟨{ pooled with waitingForReply := sends.waitingForReply.map fun _ => none },
        some (.queuedFail sends.waitingForReply.join after), false⟩
    | none, _ => processSendQueueUnderLock { pooled with waitingForReply := none } after
  | .queuedFail callback after =>
    ⟨sends.invokeIfAny callback (.error .engine), some (.queuedFailed after), false⟩
  | .queuedFailed after => processSendQueueUnderLock { sends with waitingForReply := none } after
  | .inputReply request =>
    match sends.waitingForReply with
    | none => ⟨sends, none, true⟩
    | some callback =>
      processSendQueueUnderLock { sends with waitingForReply := none } (some (callback, request))
  | .replyCallback callback request => ⟨sends.invokeIfAny callback (.reply request), none, false⟩

/-! ## Giving up the queue -/

inductive SwitchFrame where
  | cleanUp
  | close
  /-- Take the pending reply. -/
  | take
  | callback (callback : Call)
  | drain
  | drainCallback (callback : Call)
  | stopped
  deriving DecidableEq, Repr

/-- The commands that leave the queue until the mutex is released for a callback. -/
def drainUntilCallback : List SendCommand → List Call × Option Call × List SendCommand
  | [] => ([], none, [])
  | command :: queue =>
    match command.callback with
    | some callback => ([command.message], some callback, queue)
    | none =>
      let (messages, callback, rest) := drainUntilCallback queue
      (command.message :: messages, callback, rest)

/-- The loop of `SwitchToStopState` up to the next release of the mutex.  The elements
of the popped commands are not put back into the pool. -/
def Sends.drain (sends : Sends) : Sends × SwitchFrame :=
  let (messages, callback, queue) := drainUntilCallback sends.sendQueue
  ({ sends with sendQueue := queue, dropped := sends.dropped ++ messages }, match callback with
    | none => .stopped
    | some callback => .drainCallback callback)

/-- The sections of `SwitchToStopState` under the mutex and the callbacks between
them. -/
def SwitchFrame.execSends (sends : Sends) : SwitchFrame → Option (Sends × SwitchFrame)
  | .take => some <|
      match sends.waitingForReply with
      | none => sends.drain
      | some none => ({ sends with waitingForReply := none }, .drain)
      | some (some call) => ({ sends with waitingForReply := none }, .callback call)
  | .callback call => some (sends.invoke call (.error .epipe), .drain)
  | .drain => some sends.drain
  | .drainCallback call => some (sends.invoke call (.error .epipe), .drain)
  | _ => none

/-! ## What the steps do -/

namespace CallFrame

def owner : CallFrame → Call
  | .sendUnordered call => call
  | .send call => call
  | .waitReply call => call
  | .waitReplyWrite call => call
  | .waitReplyWritten call _ => call
  | .waitReplyWait call => call
  | .withCallback call => call

def isFresh : CallFrame → Bool
  | .sendUnordered _ => true
  | .send _ => true
  | .waitReply _ => true
  | .withCallback _ => true
  | _ => false

def queuedCallback : CallFrame → Option ReplyCallback
  | .send _ => some none
  | .withCallback call => some (some call)
  | _ => none

end CallFrame

def Sends.queued (sends : Sends) (current element : Nat) (pool : List Nat)
    (message : Call) (callback : ReplyCallback) : Sends :=
  { sends.accept current message with
    sendPool := pool
    sendQueue := sends.sendQueue ++ [⟨element, message, callback⟩] }

variable {sends : Sends} {cur : Nat} {cb : ReplyCallback} {s' : Sends}
  {cfg : ClientConfig} {session : Option Nat} {fr : SwitchFrame}

theorem Sends.tryQueueMessage_eq_some {msg} (queues : sends.tryQueueMessage cur msg cb = some s') :
    ∃ elem pool, sends.sendPool = elem :: pool ∧ s' = sends.queued cur elem pool msg cb := by
  unfold tryQueueMessage at queues
  split at queues
  · cases queues
  next elem pool isPool =>
    cases queues
    exact ⟨elem, pool, isPool, rfl⟩

inductive CallFrame.Runs (config : ClientConfig) (current : Nat)
    (session : Option Nat) (sends : Sends) : CallFrame → CallStep → Prop
  | rejects (frame : CallFrame) (error : SendError) : frame.isFresh = true →
      Runs config current session sends frame (.returns sends frame.owner (some error))
  | sendsUnordered {call : Call} {opened : Nat} : session = some opened →
      Runs config current session sends (.sendUnordered call)
        (.returns ((sends.accept current call).write opened .send call) call none)
  | sendsDirectly {call : Call} {opened : Nat} :
      sends.waitingForReply = none → session = some opened →
      Runs config current session sends (.send call)
        (.returns ((sends.accept current call).write opened .send call) call none)
  | requestsDirectly {call : Call} {opened : Nat} :
      sends.waitingForReply = none → session = some opened →
      Runs config current session sends (.withCallback call)
        (.returns { (sends.accept current call).write opened .request call with
          waitingForReply := some (some call) } call none)
  | queues {frame : CallFrame} {pending callback : ReplyCallback} {element : Nat}
      {pool : List Nat} :
      frame.queuedCallback = some callback →
      sends.waitingForReply = some pending → sends.sendPool = element :: pool →
      Runs config current session sends frame
        (.returns (sends.queued current element pool frame.owner callback) frame.owner none)
  | queuesAndArms {frame : CallFrame} {callback : ReplyCallback} {element : Nat} {pool : List Nat} :
      config.trulyAsync = true → frame.queuedCallback = some callback →
      sends.waitingForReply = none → sends.sendPool = element :: pool →
      Runs config current session sends frame ⟨(sends.queued current element pool frame.owner
          callback).armSendQueueUnderLock.finish frame.owner none, true, none⟩
  | queuesAndWaits {call : Call} {pending : ReplyCallback} {element : Nat} {pool : List Nat} :
      sends.waitingForReply = some pending → sends.sendPool = element :: pool →
      Runs config current session sends (.waitReply call)
        ⟨sends.queued current element pool call (some call), false, some (.waitReplyWait call)⟩
  | claims {call : Call} : sends.waitingForReply = none →
      Runs config current session sends (.waitReply call) ⟨{ sends.accept current call with
            waitingForReply := some (some call)
            writers := sends.writers ++ [call] }, false,
          some (.waitReplyWrite call)⟩
  | writes {call : Call} {opened : Nat} : session = some opened →
      Runs config current session sends (.waitReplyWrite call)
        ⟨{ sends with writers := sends.writers.erase call }.write opened .request call,
          false, some (.waitReplyWritten call true)⟩
  | writeFails {call : Call} : session = none →
      Runs config current session sends (.waitReplyWrite call)
        ⟨{ { sends with writers := sends.writers.erase call }.giveUp call with
            failedWriters := sends.failedWriters ++ [call] }, false,
          some (.waitReplyWritten call false)⟩
  | hasWritten {call : Call} : Runs config current session sends (.waitReplyWritten call true)
        ⟨sends, false, some (.waitReplyWait call)⟩
  | cancels {call : Call} : sends.sendQueue = [] →
      Runs config current session sends (.waitReplyWritten call false) (.returns { sends with
          cancelled := sends.cancelled ++ [call]
          failedWriters := sends.failedWriters.erase call
          waitingForReply := none } call (some .engine))
  | cancelsAndArms {call : Call} : sends.sendQueue ≠ [] →
      Runs config current session sends (.waitReplyWritten call false) ⟨{ sends with
            cancelled := sends.cancelled ++ [call]
            failedWriters := sends.failedWriters.erase call
          }.armSendQueueUnderLock.finish call (some .engine), true, none⟩
  | isAnswered {call : Call} : call ∈ sends.readyFutures →
      Runs config current session sends (.waitReplyWait call)
        (.returns sends call (sends.futureError call))

theorem CallFrame.runs_queues (fr : CallFrame) {pending}
    (isCb : fr.queuedCallback = some cb) (isFresh : fr.isFresh = true)
    (wait : sends.waitingForReply = some pending) :
    fr.Runs cfg cur session sends (.queues sends cur fr.owner cb) := by
  unfold CallStep.queues
  cases queues : sends.tryQueueMessage cur fr.owner cb with
  | none => exact .rejects _ .enobufs isFresh
  | some queued =>
    obtain ⟨elem, pool, isPool, rfl⟩ := Sends.tryQueueMessage_eq_some queues
    exact .queues isCb wait isPool

theorem CallFrame.runs_queuesAndArms (fr : CallFrame) (isAsync : cfg.trulyAsync = true)
    (isCb : fr.queuedCallback = some cb) (isFresh : fr.isFresh = true)
    (wait : sends.waitingForReply = none) :
    fr.Runs cfg cur session sends (.queuesAndArms sends cur fr.owner cb) := by
  unfold CallStep.queuesAndArms
  cases queues : sends.tryQueueMessage cur fr.owner cb with
  | none => exact .rejects _ .enobufs isFresh
  | some queued =>
    obtain ⟨elem, pool, isPool, rfl⟩ := Sends.tryQueueMessage_eq_some queues
    exact .queuesAndArms isAsync isCb wait isPool

theorem CallFrame.runs_of_exec {fr : CallFrame} {step : CallStep}
    (ran : fr.exec cfg cur session sends = some step) :
    fr.Runs cfg cur session sends step := by
  cases fr with
  | sendUnordered call =>
    cases ran
    cases session with
    | none => exact .rejects (.sendUnordered call) .engine rfl
    | some opened => exact .sendsUnordered rfl
  | send call =>
    cases ran
    cases wait : sends.waitingForReply with
    | none =>
      by_cases isAsync : cfg.trulyAsync = true
      · simp only [isAsync, if_true]
        exact runs_queuesAndArms (.send call) isAsync rfl rfl wait
      · simp only [isAsync]
        cases session with
        | none => exact .rejects (.send call) .engine rfl
        | some opened => exact .sendsDirectly wait rfl
    | some pending => exact runs_queues (.send call) rfl rfl wait
  | withCallback call =>
    cases ran
    cases wait : sends.waitingForReply with
    | none =>
      by_cases isAsync : cfg.trulyAsync = true
      · simp only [isAsync, if_true]
        exact runs_queuesAndArms (.withCallback call) isAsync rfl rfl wait
      · simp only [isAsync]
        cases session with
        | none => exact .rejects (.withCallback call) .engine rfl
        | some opened => exact .requestsDirectly wait rfl
    | some pending => exact runs_queues (.withCallback call) rfl rfl wait
  | waitReply call =>
    cases ran
    cases wait : sends.waitingForReply with
    | none => exact .claims wait
    | some pending =>
      cases queues : sends.tryQueueMessage cur call (some call) with
      | none => exact .rejects (.waitReply call) .enobufs rfl
      | some queued =>
        obtain ⟨elem, pool, isPool, rfl⟩ := Sends.tryQueueMessage_eq_some queues
        exact .queuesAndWaits wait isPool
  | waitReplyWrite call =>
    cases ran
    cases session with
    | none => exact .writeFails rfl
    | some opened => exact .writes rfl
  | waitReplyWritten call written =>
    cases written with
    | true =>
      cases ran
      exact .hasWritten
    | false =>
      cases ran
      split
      next isQueue => exact .cancels isQueue
      next isQueue => exact .cancelsAndArms (by rw [isQueue]; exact List.cons_ne_nil _ _)
  | waitReplyWait call =>
    obtain ⟨isReady, ran⟩ := ite_none_right_eq_some.mp ran
    cases ran
    exact .isAnswered isReady

namespace QueueFrame

/-- The data with which a frame goes on in the loop of `ProcessSendQueueUnderLock`, if
it does. -/
def continuesWith (sends : Sends) : QueueFrame → Option (Sends × PendingReply)
  | .processQueue => some (sends, none)
  | .queuedWritten command _ after =>
    match command.callback with
    | none => some ({ sends with
        sendPool := command.element :: sends.sendPool
        waitingForReply := none }, after)
    | some _ => none
  | .queuedFailed after => some ({ sends with waitingForReply := none }, after)
  | .inputReply request =>
    sends.waitingForReply.map fun callback =>
      ({ sends with waitingForReply := none }, some (callback, request))
  | _ => none

def codeOf (command : SendCommand) : ClientToServer :=
  match command.callback with
  | none => .send
  | some _ => .request

inductive Runs (session : Option Nat) (sends : Sends) : QueueFrame → QueueStep → Prop
  | pops {frame : QueueFrame} {base : Sends} {after : PendingReply}
      {command : SendCommand} {queue : List SendCommand} :
      frame.continuesWith sends = some (base, after) →
      base.sendQueue = command :: queue →
      Runs session sends frame
        ⟨{ base with sendQueue := queue, waitingForReply := some command.callback },
          some (.queuedWrite command after), false⟩
  | leaves {frame : QueueFrame} {base : Sends} {after : PendingReply} :
      frame.continuesWith sends = some (base, after) →
      base.sendQueue = [] →
      Runs session sends frame (.leaves base after)
  | writes {command : SendCommand} {after : PendingReply} {opened : Nat} : session = some opened →
      Runs session sends (.queuedWrite command after)
        ⟨sends.write opened (codeOf command) command.message,
          some (.queuedWritten command true after), false⟩
  | writeFails {command : SendCommand} {after : PendingReply} : session = none →
      Runs session sends (.queuedWrite command after)
        ⟨sends.giveUp command.message, some (.queuedWritten command false after), false⟩
  | hasWritten {command : SendCommand} {after : PendingReply} {callback : Call} :
      command.callback = some callback →
      Runs session sends (.queuedWritten command true after)
        (.leaves { sends with sendPool := command.element :: sends.sendPool } after)
  | hasFailed {command : SendCommand} {after : PendingReply} {callback : Call} :
      command.callback = some callback →
      Runs session sends (.queuedWritten command false after) ⟨{ sends with
            sendPool := command.element :: sends.sendPool
            waitingForReply := sends.waitingForReply.map fun _ => none },
          some (.queuedFail sends.waitingForReply.join after), false⟩
  | callsBack {callback : ReplyCallback} {after : PendingReply} :
      Runs session sends (.queuedFail callback after)
        ⟨sends.invokeIfAny callback (.error .engine), some (.queuedFailed after), false⟩
  | refuses {request : Call} : sends.waitingForReply = none →
      Runs session sends (.inputReply request) ⟨sends, none, true⟩
  | replies {callback : ReplyCallback} {request : Call} :
      Runs session sends (.replyCallback callback request)
        ⟨sends.invokeIfAny callback (.reply request), none, false⟩

inductive GoesOn (sends : Sends) : QueueFrame → Sends → PendingReply → Prop
  | begins : GoesOn sends .processQueue sends none
  | written {command : SendCommand} {written : Bool} {after : PendingReply} :
      command.callback = none →
      GoesOn sends (.queuedWritten command written after) { sends with
        sendPool := command.element :: sends.sendPool
        waitingForReply := none } after
  | failed {after : PendingReply} :
      GoesOn sends (.queuedFailed after) { sends with waitingForReply := none } after
  | replied {callback : ReplyCallback} {request : Call} : sends.waitingForReply = some callback →
      GoesOn sends (.inputReply request) { sends with waitingForReply := none }
        (some (callback, request))

variable {fr : QueueFrame}

theorem goesOn_of_continuesWith {base s'} (cont : fr.continuesWith sends = some (base, s')) :
    fr.GoesOn sends base s' := by
  cases fr with
  | processQueue =>
    cases cont
    exact .begins
  | queuedWritten cmd written pending =>
    simp only [continuesWith] at cont
    split at cont
    · cases cont
      exact .written ‹_›
    · cases cont
  | queuedFailed pending =>
    cases cont
    exact .failed
  | inputReply req =>
    obtain ⟨cb, wait, isBase⟩ := map_eq_some_iff.mp cont
    cases isBase
    exact .replied wait
  | _ => cases cont

theorem runs_of_continuesWith (session : Option Nat) {base s'}
    (cont : fr.continuesWith sends = some (base, s')) :
    fr.Runs session sends (processSendQueueUnderLock base s') := by
  unfold processSendQueueUnderLock
  split
  next isQueue => exact .leaves cont isQueue
  next cmd queue isQueue => exact .pops cont isQueue

theorem runs_exec (session : Option Nat) (sends : Sends) (fr : QueueFrame) :
    fr.Runs session sends (fr.exec session sends) := by
  cases fr with
  | queuedWrite cmd s' =>
    cases session with
    | none => exact .writeFails rfl
    | some opened => exact .writes rfl
  | queuedWritten cmd written s' =>
    cases isCb : cmd.callback with
    | none =>
      simp only [exec, isCb]
      refine runs_of_continuesWith session ?_
      simp only [continuesWith, isCb]
    | some cb =>
      cases written with
      | true =>
        simp only [exec, isCb]
        exact .hasWritten isCb
      | false =>
        simp only [exec, isCb]
        exact .hasFailed isCb
  | queuedFail cb s' => exact .callsBack
  | inputReply req =>
    cases wait : sends.waitingForReply with
    | none =>
      simp only [exec, wait]
      exact .refuses wait
    | some cb =>
      simp only [exec, wait]
      refine runs_of_continuesWith session ?_
      simp only [continuesWith, wait, map_some]
  | replyCallback cb req => exact .replies
  | _ => exact runs_of_continuesWith session rfl

theorem Runs.next_of_fails {session step}
    (runs : fr.Runs session sends step) (fails : step.fails = true) : step.next = none := by
  cases runs with
  | refuses _ => rfl
  | _ => cases fails

end QueueFrame

theorem drainUntilCallback_cases (queue : List SendCommand) :
    ((∀ cmd ∈ queue, cmd.callback = none) ∧
      drainUntilCallback queue = (queue.map SendCommand.message, none, [])) ∨
    ∃ front cmd cb rest, queue = front ++ cmd :: rest ∧ (∀ cmd ∈ front, cmd.callback = none) ∧
      cmd.callback = some cb ∧
      drainUntilCallback queue =
        (front.map SendCommand.message ++ [cmd.message], some cb, rest) := by
  induction queue with
  | nil => exact .inl ⟨by simp, rfl⟩
  | cons first queue ih =>
    cases isCb : first.callback with
    | some cb =>
      refine .inr ⟨[], first, cb, queue, rfl, by simp, isCb, ?_⟩
      simp [drainUntilCallback, isCb]
    | none =>
      rcases ih with ⟨noCallback, drained⟩ |
        ⟨front, cmd, cb, rest, isQueue, noCallback, isCommand, drained⟩
      · refine .inl ⟨?_, by simp [drainUntilCallback, isCb, drained]⟩
        intro cmd mem
        rcases List.mem_cons.mp mem with rfl | mem
        · exact isCb
        · exact noCallback cmd mem
      · refine .inr ⟨first :: front, cmd, cb, rest, by rw [isQueue]; rfl,
          ?_, isCommand, by simp [drainUntilCallback, isCb, drained]⟩
        intro o mem
        rcases List.mem_cons.mp mem with rfl | mem
        · exact isCb
        · exact noCallback o mem

/-- The steps of `SwitchToStopState` under the mutex and between its sections, one by
one. -/
inductive SwitchFrame.Runs (sends : Sends) : SwitchFrame → Sends → SwitchFrame → Prop
  | empties {frame : SwitchFrame} :
      frame = .drain ∨ (frame = .take ∧ sends.waitingForReply = none) →
      (∀ command ∈ sends.sendQueue, command.callback = none) →
      Runs sends frame { sends with
        sendQueue := []
        dropped := sends.dropped ++ sends.sendQueue.map SendCommand.message } .stopped
  | drains {frame : SwitchFrame} {front : List SendCommand} {command : SendCommand}
      {callback : Call} {rest : List SendCommand} :
      frame = .drain ∨ (frame = .take ∧ sends.waitingForReply = none) →
      sends.sendQueue = front ++ command :: rest →
      (∀ command ∈ front, command.callback = none) →
      command.callback = some callback →
      Runs sends frame { sends with
        sendQueue := rest
        dropped := sends.dropped ++ (front.map SendCommand.message ++ [command.message]) }
        (.drainCallback callback)
  | takesPlaceholder : sends.waitingForReply = some none →
      Runs sends .take { sends with waitingForReply := none } .drain
  | takes {callback : Call} : sends.waitingForReply = some (some callback) →
      Runs sends .take { sends with waitingForReply := none } (.callback callback)
  | callsBack {frame : SwitchFrame} {callback : Call} :
      frame = .callback callback ∨ frame = .drainCallback callback →
      Runs sends frame (sends.invoke callback (.error .epipe)) .drain

theorem SwitchFrame.runs_drain (sends : Sends)
    (isDrain : fr = .drain ∨ (fr = .take ∧ sends.waitingForReply = none)) :
    fr.Runs sends sends.drain.1 sends.drain.2 := by
  rcases drainUntilCallback_cases sends.sendQueue with ⟨noCallback, drained⟩ |
    ⟨front, command, cb, rest, isQueue, noCallback, isCommand, drained⟩
  · simp only [Sends.drain, drained]
    exact .empties isDrain noCallback
  · simp only [Sends.drain, drained]
    exact .drains isDrain isQueue noCallback isCommand

theorem SwitchFrame.runs_of_execSends {next}
    (ran : fr.execSends sends = some (s', next)) : fr.Runs sends s' next := by
  cases fr with
  | take =>
    cases wait : sends.waitingForReply with
    | none =>
      simp only [execSends, wait] at ran
      have isDrain : sends.drain = (s', next) := some.inj ran
      have runs : take.Runs sends sends.drain.1 sends.drain.2 :=
        runs_drain sends (.inr ⟨rfl, wait⟩)
      rwa [isDrain] at runs
    | some cb =>
      simp only [execSends, wait] at ran
      cases cb with
      | none =>
        cases ran
        exact .takesPlaceholder wait
      | some call =>
        cases ran
        exact .takes wait
  | callback call =>
    cases ran
    exact .callsBack (.inl rfl)
  | drain =>
    have isDrain : sends.drain = (s', next) := some.inj ran
    have runs : drain.Runs sends sends.drain.1 sends.drain.2 :=
      runs_drain sends (.inl rfl)
    rwa [isDrain] at runs
  | drainCallback call =>
    cases ran
    exact .callsBack (.inr rfl)
  | _ => cases ran

end ScoreIntegration.MessagePassing
