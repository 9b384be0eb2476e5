import ScoreIntegration.Concurrency.Transitions
import ScoreIntegration.Containers.IntrusiveList

/-!
# A server connection of the dispatch engine

Replies and notifications are put into `send_queue_` and handed over when the client
reads.  There is one element for replies; those for notifications come from
`notify_pool_`.  The dispatch thread handles requests and reads, so `Reply` does not
overlap with them; `Notify` may come between the two parts of `Reply`, because the
message is assigned before the mutex is taken.
-/

namespace ScoreIntegration.MessagePassing

open Concurrency Containers List Function TransitionSystem
open List (append_assoc count_cons mem_cons_of_mem mem_cons_self)

inductive ServerToClient where
  | reply
  | notify
  deriving DecidableEq, Repr

/-- The nodes of the intrusive lists: the two roots, `reply_message_` and the elements
of `notify_storage_`. -/
inductive SendNode where
  | notifyPool
  | sendQueue
  | replyMessage
  | notifyMessage (index : Nat)
  deriving DecidableEq, Repr

def SendNode.code : SendNode → ServerToClient
  | .replyMessage => .reply
  | _ => .notify

structure ServerConfig where
  maxReplySize : Nat
  maxNotifySize : Nat
  maxQueuedNotifies : Nat

structure ServerMessage where
  code : ServerToClient
  message : List UInt8
  deriving DecidableEq, Repr

inductive ServerError where
  | emsgsize
  | enobufs
  deriving DecidableEq, Repr

/-- `pings` says whether the client has set up `ping_event_`. -/
structure ServerConnection where
  links : Links SendNode
  message : SendNode → List UInt8
  pings : Bool

namespace ServerConnection

def notifyStorage (config : ServerConfig) : List SendNode :=
  (List.range config.maxQueuedNotifies).map .notifyMessage

/-- The constructor; like the functions below it has no result if a precondition of the
lists is violated, which terminates the process. -/
def make (config : ServerConfig) : Option ServerConnection :=
  let unlinked : Links SendNode := ⟨fun _ => none, fun _ => none⟩
  let empty := (unlinked.makeEmptyRoot .notifyPool).makeEmptyRoot .sendQueue
  (empty.pushAll .notifyPool (notifyStorage config)).map fun links => ⟨links, fun _ => [], false⟩

def assign (connection : ServerConnection) (node : SendNode) (message : List UInt8) :
    ServerConnection :=
  { connection with message := Function.update connection.message node message }

def sent (connection : ServerConnection) (node : SendNode) : ServerMessage :=
  ⟨node.code, connection.message node⟩

def reply (config : ServerConfig) (connection : ServerConnection)
    (message : List UInt8) : Except ServerError ServerConnection :=
  if config.maxReplySize < message.length then .error .emsgsize
  else .ok (connection.assign .replyMessage message)

def replyLocked (connection : ServerConnection) : Option ServerConnection :=
  (connection.links.pushBack .sendQueue .replyMessage).map fun links => { connection with links }

/-- The result of `Notify`, which is a success if the message was queued or the client
is pinged. -/
inductive NotifyResult where
  | rejected (error : ServerError)
  | pinged
  | queued

def notify (config : ServerConfig) (connection : ServerConnection)
    (message : List UInt8) : Option (NotifyResult × ServerConnection) :=
  if config.maxNotifySize < message.length then
    some (.rejected .emsgsize, connection)
  else if message.isEmpty && connection.pings then some (.pinged, connection)
  else if connection.links.isEmpty .notifyPool then
    some (.rejected .enobufs, connection)
  else do
    let notifyMessage ← connection.links.front .notifyPool
    let popped ← connection.links.popFront .notifyPool
    let links ← popped.pushBack .sendQueue notifyMessage
    some (.queued, { connection.assign notifyMessage message with links })

/-- `ProcessReadRequest` with the message that the client is sent, or none for
`EAGAIN`. -/
def processReadRequest (connection : ServerConnection) :
    Option (Option ServerMessage × ServerConnection) :=
  if connection.links.isEmpty .sendQueue then some (none, connection)
  else do
    let sendMessage ← connection.links.front .sendQueue
    let popped ← connection.links.popFront .sendQueue
    let links ← match sendMessage.code with
      | .notify => popped.pushFront .notifyPool sendMessage
      | .reply => some popped
    some (some (connection.sent sendMessage), { connection with links })

end ServerConnection

/-! ## Runs -/

/-- A connection with the reply that waits for the mutex and the history: the messages
that were put into the queue and the ones that the client has read. -/
structure ServerState where
  connection : ServerConnection
  replying : Option (List UInt8)
  accepted : List ServerMessage
  received : List ServerMessage

inductive ServerStep where
  /-- The callback for a request calls `Reply`. -/
  | reply (message : List UInt8)
  /-- `Reply` takes the mutex. -/
  | replyLocked
  | notify (message : List UInt8)
  /-- The client reads; `delivered` says whether the engine can pass the message on. -/
  | read (delivered : Bool)
  /-- The client sets up its events. -/
  | select (pings : Bool)
  deriving DecidableEq, Repr

namespace ServerState

/-- The process runs, or was terminated by a violated precondition. -/
abbrev Process := Option ServerState

variable (config : ServerConfig)

def step (state : ServerState) : ServerStep → Option Process
  | .reply message =>
    match state.replying with
    | some _ => none
    | none =>
      match state.connection.reply config message with
      | .error _ => some (some state)
      | .ok connection => some (some { state with connection, replying := some message })
  | .replyLocked =>
    state.replying.map fun message =>
      state.connection.replyLocked.map fun connection =>
        { state with
          connection
          replying := none
          accepted := state.accepted ++ [⟨.reply, message⟩] }
  | .notify message =>
    some ((state.connection.notify config message).map fun
      | (.queued, connection) =>
        { state with
          connection
          accepted := state.accepted ++ [⟨.notify, message⟩] }
      | (_, connection) => { state with connection })
  | .read delivered =>
    match state.replying with
    | some _ => none
    | none =>
      some (state.connection.processReadRequest.map fun (message, connection) =>
        { state with
          connection
          received := state.received ++ if delivered then message.toList else [] })
  | .select pings =>
    match state.replying with
    | some _ => none
    | none =>
      some (some { state with
        connection := { state.connection with pings } })

def start : Process :=
  (ServerConnection.make config).map fun connection => ⟨connection, none, [], []⟩

def system : TransitionSystem Process ServerStep :=
  .ofStep (start config) fun process label => process.bind fun state => state.step config label

/-- The client has read the last reply before its next request is answered, and every
message can be passed on. -/
def InTurn (process : Process) : ServerStep → Prop
  | .reply message => ∀ state ∈ process, message.length ≤ config.maxReplySize →
      state.connection.links.isLinked .replyMessage = false
  | .read delivered => delivered = true
  | _ => True

end ServerState

/-! ## The lists -/

namespace ServerConnection

/-- The elements of the two lists; `reply_message_` is linked only in the queue. -/
structure Listed (config : ServerConfig) (connection : ServerConnection)
    (pool queue : List SendNode) : Prop where
  poolHolds : connection.links.Holds .notifyPool pool
  queueHolds : connection.links.Holds .sendQueue queue
  poolNodes : ∀ node ∈ pool, ∃ index, node = .notifyMessage index
  queueNodes : ∀ node ∈ queue, node = .replyMessage ∨ ∃ index, node = .notifyMessage index
  once : ∀ index, pool.count (.notifyMessage index) + queue.count (.notifyMessage index) =
    if index < config.maxQueuedNotifies then 1 else 0
  reply : .replyMessage ∉ queue → connection.links.isLinked .replyMessage = false

section Listed

variable {cfg : ServerConfig} {conn : ServerConnection} {pool queue : List SendNode}
  {node : SendNode}

section

variable (listed : conn.Listed cfg pool queue)
include listed

theorem Listed.not_queued (inPool : node ∈ .notifyPool :: pool) : node ∉ .sendQueue :: queue := by
  intro inQueue
  rcases mem_cons.mp inPool with rfl | inPool
  · rcases mem_cons.mp inQueue with isRoot | inQueue
    · cases isRoot
    · rcases listed.queueNodes _ inQueue with isReply | ⟨_, isNotify⟩
      · cases isReply
      · cases isNotify
  · obtain ⟨i, rfl⟩ := listed.poolNodes node inPool
    rcases mem_cons.mp inQueue with isRoot | inQueue
    · cases isRoot
    · have once := listed.once i
      have poolCount := count_pos_iff.mpr inPool
      have queueCount := count_pos_iff.mpr inQueue
      split at once <;> omega

theorem Listed.reply_not_pooled : .replyMessage ∉ pool := by
  intro inPool
  obtain ⟨_, isNotify⟩ := listed.poolNodes _ inPool
  cases isNotify

theorem Listed.assign (node : SendNode)
    (msg : List UInt8) : (conn.assign node msg).Listed cfg pool queue :=
  { listed with }

end

omit cfg pool queue in
theorem message_assign_self (node : SendNode) (msg : List UInt8) :
    (conn.assign node msg).message node = msg :=
  update_self _ _ _

omit cfg pool queue in
theorem message_assign_of_ne {o} (differ : o ≠ node) (msg : List UInt8) :
    (conn.assign node msg).message o = conn.message o :=
  update_of_ne differ _ _

theorem map_sent_assign (notQueued : node ∉ queue) (msg : List UInt8) :
    queue.map (conn.assign node msg).sent = queue.map conn.sent := by
  refine map_congr_left fun o mem => ?_
  have differ : o ≠ node := fun same => notQueued (same ▸ mem)
  rw [sent, sent, message_assign_of_ne differ]

theorem Listed.replyLocked (listed : conn.Listed cfg pool queue)
    (notQueued : .replyMessage ∉ queue) :
    ∃ links, conn.replyLocked = some { conn with links } ∧
      Listed cfg { conn with links } pool (queue ++ [.replyMessage]) := by
  obtain ⟨links, pushed, queueHolds, same⟩ := listed.queueHolds.pushBack (listed.reply notQueued)
  refine ⟨links, by rw [ServerConnection.replyLocked, pushed]; rfl, ?_, queueHolds,
    listed.poolNodes, ?_, fun i => ?_, ?_⟩
  · exact listed.poolHolds.of_pushed (listed.reply notQueued) same fun _ => listed.not_queued
  · intro node mem
    rcases mem_append.mp mem with inQueue | isLast
    · exact listed.queueNodes node inQueue
    · exact .inl (mem_singleton.mp isLast)
  · rw [count_append, ← listed.once i]
    rfl
  · exact fun isAbsent => absurd (mem_append_right _ mem_cons_self) isAbsent

theorem Listed.queueNotify (listed : conn.Listed cfg (node :: pool) queue) :
    ∃ popped links, conn.links.popFront .notifyPool = some popped ∧
      popped.pushBack .sendQueue node = some links ∧
      Listed cfg { conn with links } pool (queue ++ [node]) := by
  obtain ⟨i, isNotify⟩ := listed.poolNodes node mem_cons_self
  have notQueued := listed.not_queued (mem_cons_of_mem _ mem_cons_self)
  obtain ⟨popped, isPopped, poolHolds, notLinked, samePopped⟩ := listed.poolHolds.popFront
  have queueHolds : popped.Holds .sendQueue queue :=
    listed.queueHolds.of_sameOutside samePopped fun o inQueue inPool =>
      listed.not_queued inPool inQueue
  obtain ⟨links, isPushed, queueHolds, samePushed⟩ := queueHolds.pushBack notLinked
  refine ⟨popped, links, isPopped, isPushed, ?_, queueHolds, ?_, ?_, fun o => ?_, ?_⟩
  · refine poolHolds.of_pushed notLinked samePushed fun o inPool => listed.not_queued ?_
    rcases mem_cons.mp inPool with rfl | inPool
    · exact mem_cons_self
    · exact mem_cons_of_mem _ (mem_cons_of_mem _ inPool)
  · exact fun o inPool => listed.poolNodes o (mem_cons_of_mem _ inPool)
  · intro o mem
    rcases mem_append.mp mem with inQueue | isLast
    · exact listed.queueNodes o inQueue
    · exact .inr ⟨i, (mem_singleton.mp isLast).trans isNotify⟩
  · rw [← listed.once o, count_append, count_cons, count_cons]
    simp only [count_nil]
    omega
  · -- The reply is none of the nodes that change.
    intro isAbsent
    have isReply : .replyMessage ∉ queue := fun inQueue => isAbsent (mem_append_left _ inQueue)
    have notPooled : .replyMessage ∉ .notifyPool :: node :: pool :=
      not_mem_cons_of_ne_of_not_mem SendNode.noConfusion listed.reply_not_pooled
    have notPushed : .replyMessage ∉ node :: .sendQueue :: queue := by
      simp [isNotify, isReply]
    exact ((samePushed.isLinked notPushed).trans (samePopped.isLinked notPooled)).trans
      (listed.reply isReply)

theorem Listed.read (listed : conn.Listed cfg pool (node :: queue)) :
    ∃ popped, conn.links.popFront .sendQueue = some popped ∧ match node.code with
      | .reply => Listed cfg { conn with links := popped } pool queue
      | .notify => ∃ links, popped.pushFront .notifyPool node = some links ∧
          Listed cfg { conn with links } (node :: pool) queue := by
  obtain ⟨popped, isPopped, queueHolds, notLinked, samePopped⟩ := listed.queueHolds.popFront
  have poolHolds : popped.Holds .notifyPool pool :=
    listed.poolHolds.of_sameOutside samePopped fun o inPool => listed.not_queued inPool
  have queueNodes : ∀ o ∈ queue, o = .replyMessage ∨ ∃ i, o = .notifyMessage i :=
    fun o inQueue => listed.queueNodes o (mem_cons_of_mem _ inQueue)
  refine ⟨popped, isPopped, ?_⟩
  rcases listed.queueNodes node mem_cons_self with rfl | ⟨i, rfl⟩
  · exact ⟨poolHolds, queueHolds, listed.poolNodes, queueNodes, listed.once, fun _ => notLinked⟩
  · obtain ⟨links, isPushed, poolHolds, samePushed⟩ := poolHolds.pushFront notLinked
    refine ⟨links, isPushed, poolHolds, ?_, ?_, queueNodes, fun o => ?_, ?_⟩
    · refine queueHolds.of_pushed notLinked samePushed fun o inQueue inPool =>
        listed.not_queued inPool ?_
      rcases mem_cons.mp inQueue with rfl | inQueue
      · exact mem_cons_self
      · exact mem_cons_of_mem _ (mem_cons_of_mem _ inQueue)
    · exact forall_mem_cons.mpr ⟨⟨i, rfl⟩, listed.poolNodes⟩
    · rw [← listed.once o, count_cons, count_cons]
      omega
    · intro isAbsent
      have notQueued : .replyMessage ∉ .sendQueue :: .notifyMessage i :: queue := by
        simp [isAbsent]
      have notPushed : .replyMessage ∉ .notifyMessage i :: .notifyPool :: pool := by
        simpa using listed.reply_not_pooled
      exact ((samePushed.isLinked notPushed).trans (samePopped.isLinked notQueued)).trans
        (listed.reply (by simp [isAbsent]))

theorem Listed.notify (listed : conn.Listed cfg pool queue) (msg : List UInt8) :
    (∃ res, res ≠ .queued ∧ conn.notify cfg msg = some (res, conn)) ∨
    ∃ node rest links, pool = node :: rest ∧ conn.notify cfg msg =
        some (.queued, { conn.assign node msg with links }) ∧
      Listed cfg { conn with links } rest (queue ++ [node]) := by
  unfold ServerConnection.notify
  split
  · exact .inl ⟨_, NotifyResult.noConfusion, rfl⟩
  split
  · exact .inl ⟨_, NotifyResult.noConfusion, rfl⟩
  split
  · exact .inl ⟨_, NotifyResult.noConfusion, rfl⟩
  next notEmpty =>
    cases pool with
    | nil => exact absurd ((Links.isEmpty_iff listed.poolHolds).mpr rfl) notEmpty
    | cons node rest =>
      have isFront : conn.links.front .notifyPool = some node := listed.poolHolds.front
      obtain ⟨popped, links, isPopped, isPushed, listed⟩ := listed.queueNotify
      refine .inr ⟨node, rest, links, rfl, ?_, listed⟩
      simp [isFront, isPopped, isPushed]

theorem Listed.processReadRequest (listed : conn.Listed cfg pool queue) :
    (queue = [] ∧ conn.processReadRequest = some (none, conn)) ∨
    ∃ node rest links returned, queue = node :: rest ∧ conn.processReadRequest =
        some (some (conn.sent node), { conn with links }) ∧
      Listed cfg { conn with links } returned rest := by
  unfold ServerConnection.processReadRequest
  cases queue with
  | nil =>
    rw [if_pos ((Links.isEmpty_iff listed.queueHolds).mpr rfl)]
    exact .inl ⟨rfl, rfl⟩
  | cons node rest =>
    rw [if_neg fun isEmpty => cons_ne_nil _ _ ((Links.isEmpty_iff listed.queueHolds).mp isEmpty)]
    obtain ⟨popped, isPopped, listedAfter⟩ := listed.read
    have isFront : conn.links.front .sendQueue = some node := listed.queueHolds.front
    rcases listed.queueNodes node mem_cons_self with rfl | ⟨i, rfl⟩
    · refine .inr ⟨_, rest, popped, pool, rfl, ?_, listedAfter⟩
      simp [isFront, isPopped, SendNode.code]
    · obtain ⟨links, isPushed, listedAfter⟩ := listedAfter
      refine .inr ⟨_, rest, links, _, rfl, ?_, listedAfter⟩
      simp [isFront, isPopped, isPushed, SendNode.code]

end Listed

theorem listed_make (cfg : ServerConfig) : ∃ conn, make cfg = some conn ∧
      conn.Listed cfg (notifyStorage cfg) [] := by
  have nodup : (notifyStorage cfg).Nodup :=
    (nodup_range).map fun _ _ same => SendNode.notifyMessage.inj same
  have storageNodes : ∀ node ∈ notifyStorage cfg, ∃ i, node = .notifyMessage i := by
    intro node mem
    obtain ⟨i, _, rfl⟩ := mem_map.mp mem
    exact ⟨i, rfl⟩
  let unlinked : Links SendNode := ⟨fun _ => none, fun _ => none⟩
  let empty := (unlinked.makeEmptyRoot .notifyPool).makeEmptyRoot .sendQueue
  have emptyPool : empty.Holds .notifyPool [] := ⟨nodup_singleton _, rfl, rfl⟩
  have emptyQueue : empty.Holds .sendQueue [] := ⟨nodup_singleton _, rfl, rfl⟩
  obtain ⟨links, isPushed, poolHolds, same⟩ := emptyPool.pushAll nodup fun node mem => by
    obtain ⟨i, rfl⟩ := storageNodes node mem
    rfl
  have untouched : ∀ node : SendNode, node = .sendQueue ∨ node = .replyMessage →
      node ∉ .notifyPool :: [] ++ notifyStorage cfg := by
    rintro node isOther mem
    rcases mem_cons.mp mem with rfl | mem
    · rcases isOther with isOther | isOther <;> cases isOther
    · obtain ⟨i, rfl⟩ := storageNodes node mem
      rcases isOther with isOther | isOther <;> cases isOther
  refine ⟨⟨links, fun _ => [], false⟩, ?_, poolHolds, ?_, storageNodes, ?_, ?_, ?_⟩
  · simp only [make]
    rw [show empty.pushAll .notifyPool (notifyStorage cfg) = some links from isPushed]
    rfl
  · refine emptyQueue.of_sameOutside same fun node isRoot => ?_
    exact untouched node (.inl (mem_singleton.mp isRoot))
  · exact nofun
  · intro i
    rw [nodup.count]
    simp [notifyStorage]
  · exact fun _ => (same.isLinked (untouched _ (.inr rfl))).trans rfl

end ServerConnection

/-! ## Reachable states -/

namespace ServerState

/-- The queue holds what was accepted and not received; a reply that waits for the
mutex is not queued. -/
structure Delivers (config : ServerConfig) (state : ServerState)
    (pool queue : List SendNode) : Prop where
  listed : state.connection.Listed config pool queue
  inOrder : state.received ++ queue.map state.connection.sent = state.accepted
  replying : ∀ message ∈ state.replying, .replyMessage ∉ queue ∧
    state.connection.message .replyMessage = message

theorem Delivers.step {cfg s pool queue label s'} (delivers : s.Delivers cfg pool queue)
    (inTurn : InTurn cfg (some s) label) (taken : s.step cfg label = some s') :
    ∃ next, s' = some next ∧ ∃ pool queue, next.Delivers cfg pool queue := by
  have listed := delivers.listed
  -- The dispatch thread is free.
  have isFree : ∀ {res : Option Process}, (match s.replying with
      | some _ => none
      | none => res) = some s' → s.replying = none ∧ res = some s' := by
    intro res taken
    split at taken
    · cases taken
    next isNone => exact ⟨isNone, taken⟩
  cases label with
  | reply msg =>
    obtain ⟨isNone, taken⟩ := isFree taken
    unfold ServerConnection.reply at taken
    by_cases isTooLarge : cfg.maxReplySize < msg.length
    · rw [if_pos isTooLarge] at taken
      cases taken
      exact ⟨s, rfl, pool, queue, delivers⟩
    · rw [if_neg isTooLarge] at taken
      cases taken
      have notQueued : .replyMessage ∉ queue := fun inQueue =>
        listed.queueHolds.not_mem (inTurn s rfl (Nat.not_lt.mp isTooLarge))
          (mem_cons_of_mem _ inQueue)
      refine ⟨_, rfl, pool, queue, listed.assign _ _, ?_, ?_⟩
      · rw [ServerConnection.map_sent_assign notQueued]
        exact delivers.inOrder
      · intro o isReplying
        cases isReplying
        exact ⟨notQueued, ServerConnection.message_assign_self _ _⟩
  | replyLocked =>
    obtain ⟨msg, isReplying, taken⟩ := Option.map_eq_some_iff.mp taken
    obtain ⟨notQueued, isMessage⟩ := delivers.replying msg isReplying
    obtain ⟨links, isLocked, listed⟩ := listed.replyLocked notQueued
    rw [isLocked] at taken
    cases taken
    refine ⟨_, rfl, pool, queue ++ [.replyMessage], listed, ?_, nofun⟩
    rw [map_append, ← append_assoc, ← delivers.inOrder, ← isMessage]
    rfl
  | notify msg =>
    cases taken
    rcases listed.notify msg with ⟨res, notQueued, isResult⟩ |
      ⟨node, rest, links, rfl, isQueued, listed⟩
    · rw [isResult]
      cases res with
      | queued => exact absurd rfl notQueued
      | _ => exact ⟨s, rfl, pool, queue, delivers⟩
    · obtain ⟨i, rfl⟩ := delivers.listed.poolNodes node mem_cons_self
      have notQueued : .notifyMessage i ∉ queue := fun inQueue =>
        delivers.listed.not_queued (mem_cons_of_mem _ mem_cons_self) (mem_cons_of_mem _ inQueue)
      rw [isQueued]
      refine ⟨{ s with
          connection := { s.connection.assign (.notifyMessage i) msg with
            links }
          accepted := s.accepted ++ [⟨.notify, msg⟩] }, rfl, rest,
        queue ++ [SendNode.notifyMessage i],
        listed.assign (.notifyMessage i) msg, ?_, ?_⟩
      · change s.received ++ (queue ++ [SendNode.notifyMessage i]).map
          (s.connection.assign (.notifyMessage i) msg).sent = _
        rw [map_append, ServerConnection.map_sent_assign notQueued,
          ← append_assoc, delivers.inOrder, map_singleton,
          ServerConnection.sent, ServerConnection.message_assign_self]
        rfl
      · intro o isReplying
        obtain ⟨replyNotQueued, isMessage⟩ := delivers.replying o isReplying
        have differ : SendNode.replyMessage ≠ .notifyMessage i := nofun
        refine ⟨by simp [replyNotQueued], ?_⟩
        rw [← isMessage]
        exact ServerConnection.message_assign_of_ne differ msg
  | read delivered =>
    obtain ⟨isNone, taken⟩ := isFree taken
    cases taken
    cases inTurn
    rcases listed.processReadRequest with ⟨rfl, isRead⟩ |
      ⟨node, rest, links, returned, rfl, isRead, listed⟩
    · rw [isRead]
      refine ⟨{ s with received := s.received ++ [] }, rfl, pool, [],
        delivers.listed, ?_, delivers.replying⟩
      rw [append_nil]
      exact delivers.inOrder
    · rw [isRead]
      refine ⟨{ s with
          connection := { s.connection with links }
          received := s.received ++ [s.connection.sent node] }, rfl, returned,
        rest, listed, ?_, fun msg isReplying => ?_⟩
      · rw [append_assoc]
        exact delivers.inOrder
      · cases isNone.symm.trans isReplying
  | select pings =>
    obtain ⟨isNone, taken⟩ := isFree taken
    cases taken
    exact ⟨_, rfl, pool, queue, { listed with }, delivers.inOrder, delivers.replying⟩

theorem start_delivers (cfg : ServerConfig) : ∃ s, start cfg = some s ∧
      s.Delivers cfg (ServerConnection.notifyStorage cfg) [] := by
  obtain ⟨conn, isMade, listed⟩ := ServerConnection.listed_make cfg
  exact ⟨⟨conn, none, [], []⟩, by rw [start, isMade]; rfl, listed, rfl, nofun⟩

/-- The process runs; every element for notifications is in one of the two lists, and the
client has read the accepted messages in their order, up to the ones in the queue. -/
theorem reachable_messages_delivered {config : ServerConfig} {process : Process}
    (reachable : ((system config).restrict (InTurn config)).Reachable process) :
    ∃ state pool queue, process = some state ∧ state.connection.links.Holds .notifyPool pool ∧
      state.connection.links.Holds .sendQueue queue ∧
      (∀ index < config.maxQueuedNotifies,
        pool.count (.notifyMessage index) + queue.count (.notifyMessage index) = 1) ∧
      .replyMessage ∉ pool ∧
      state.received ++ queue.map state.connection.sent = state.accepted := by
  obtain ⟨state, isRunning, pool, queue, delivers⟩ : ∃ state, process = some state ∧
      ∃ pool queue, state.Delivers config pool queue := by
    refine reachable.invariant (fun process => ∃ state, process = some state ∧
      ∃ pool queue, state.Delivers config pool queue) ?_ ?_
    · rintro _ rfl
      obtain ⟨state, isStart, delivers⟩ := start_delivers config
      exact ⟨state, isStart, _, _, delivers⟩
    · rintro _ label after ⟨state, rfl, pool, queue, delivers⟩ ⟨inTurn, taken⟩
      exact delivers.step inTurn taken
  have listed := delivers.listed
  refine ⟨state, pool, queue, isRunning, listed.poolHolds, listed.queueHolds,
    fun index isBelow => ?_, listed.reply_not_pooled, delivers.inOrder⟩
  rw [listed.once index, if_pos isBelow]

instance (config : ServerConfig) (process : Process) (label : ServerStep) :
    Decidable (InTurn config process label) := by
  unfold InTurn
  split <;> infer_instance

/-- A server with one element for notifications. -/
def sampleConfig : ServerConfig where
  maxReplySize := 4
  maxNotifySize := 4
  maxQueuedNotifies := 1

theorem notification_and_reply_read : ∃ state : ServerState,
      ((system sampleConfig).restrict (InTurn sampleConfig)).Reachable (some state) ∧
      state.received = [⟨.notify, [1]⟩, ⟨.reply, [2]⟩] ∧
      ∃ queue : List SendNode,
        state.received ++ queue.map state.connection.sent = state.accepted := by
  obtain ⟨_, reachable, state, rfl, isReceived⟩ : ∃ process,
      ((system sampleConfig).restrict (InTurn sampleConfig)).Reachable process ∧
      ∃ state, process = some state ∧ state.received = [⟨.notify, [1]⟩, ⟨.reply, [2]⟩] :=
    exists_restricted [.reply [2], .notify [1], .replyLocked, .read true, .read true]
      ⟨_, rfl, _, rfl, rfl⟩
  obtain ⟨other, pool, queue, isState, _, _, _, _, inOrder⟩ :=
    reachable_messages_delivered reachable
  cases isState
  exact ⟨state, reachable, isReceived, queue, inOrder⟩

/-- The second request is answered before the client has read the first reply: the
element of the replies is linked already, and the process is terminated. -/
theorem second_reply_terminates : (system sampleConfig).Reachable none ∧
      ∃ state : ServerState, (system sampleConfig).Reachable (some state) ∧
        state.accepted = [⟨.reply, [1]⟩] ∧ state.received = [] ∧
        state.connection.links.Holds .sendQueue [.replyMessage] ∧
        state.connection.sent .replyMessage = ⟨.reply, [2]⟩ ∧
        state.step sampleConfig .replyLocked = some none := by
  have ends : ∃ state : ServerState, run
      (fun process label => process.bind fun state => state.step sampleConfig label)
      (start sampleConfig) [.reply [1], .replyLocked, .reply [2]] = some (some state) ∧
      state.accepted = [⟨.reply, [1]⟩] ∧ state.received = [] ∧
      state.connection.links.Holds .sendQueue [.replyMessage] ∧
      state.connection.sent .replyMessage = ⟨.reply, [2]⟩ ∧
      state.step sampleConfig .replyLocked = some none :=
    ⟨_, rfl, rfl, rfl, ⟨by decide, ⟨rfl, rfl⟩, rfl, rfl⟩, rfl, rfl⟩
  obtain ⟨state, ends, isAccepted, isReceived, isQueued, isOverwritten, terminates⟩ := ends
  have reachable : (system sampleConfig).Reachable (some state) := .run (.initial rfl) ends
  have steps : (system sampleConfig).step (some state) .replyLocked none := terminates
  exact ⟨.step reachable steps, state, reachable, isAccepted, isReceived, isQueued,
    isOverwritten, terminates⟩

end ServerState

end ScoreIntegration.MessagePassing
