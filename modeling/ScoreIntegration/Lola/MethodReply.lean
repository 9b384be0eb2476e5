import ScoreIntegration.Lola.MethodMessages

/-!
# Answering method requests

A request is decoded and handed to its handler, and the outcome is sent back.  A handler
whose scope has expired is not invoked; the callback that answers requests is itself bound
to the scope of the service instance.
-/

namespace ScoreIntegration.Lola

open MethodErrc SubscribeServiceMethodUnserializedPayload ErrorSerializer List

/-- A `safecpp` scoped function: the callable is only invoked while its scope
exists. -/
structure ScopedFunction (Callable : Type) where
  scopeExpired : Bool
  callable : Callable

namespace ScopedFunction

variable {Callable Outcome : Type}

/-- The optional that `std::invoke` yields. -/
def invoke (function : ScopedFunction Callable) (call : Callable → Outcome) : Option Outcome :=
  if function.scopeExpired then none else some (call function.callable)

end ScopedFunction

/-- A handler acts on the provider and returns, or ends the process. -/
abbrev HandlerRun (Provider Outcome : Type) := Provider → Except Violation (Outcome × Provider)

structure MethodHandlers (Provider : Type) where
  subscribeServiceMethodHandlers : Provider → SkeletonInstanceIdentifier → Option (ScopedFunction
      (ProxyInstanceIdentifier → Nat → Nat → HandlerRun Provider MethodResult) × Option (List Nat))
  unsubscribeServiceMethodHandlers : Provider → SkeletonInstanceIdentifier →
    Option (ScopedFunction (ProxyInstanceIdentifier → HandlerRun Provider MethodResult))
  callMethodHandlers : Provider → ProxyMethodInstanceIdentifier →
    Option (ScopedFunction (UInt64 → HandlerRun Provider Unit) × Nat)

namespace MethodHandlers

variable {Provider : Type} (handlers : MethodHandlers Provider)

section

variable (skeletonInstanceIdentifier : SkeletonInstanceIdentifier)
  (proxyInstanceIdentifier : ProxyInstanceIdentifier)

def callSubscribeServiceMethodLocally
    (proxyUid proxyPid : Nat) : HandlerRun Provider MethodResult := fun provider =>
  match handlers.subscribeServiceMethodHandlers provider skeletonInstanceIdentifier with
  | none => .ok (.error MethodErrc.kNotOffered.error, provider)
  | some (handler, allowedProxyUids) =>
    if allowedProxyUids.any (fun uids => !uids.contains proxyUid) then
      .ok (.error MethodErrc.kUnknownProxy.error, provider)
    else
      match handler.invoke
        (fun callable => callable proxyInstanceIdentifier proxyUid proxyPid provider) with
      | none => .ok (.error MethodErrc.kSkeletonAlreadyDestroyed.error, provider)
      | some invocationResult => invocationResult

/-- A handler that is missing or out of scope counts as success. -/
def callUnsubscribeServiceMethodLocally : HandlerRun Provider MethodResult := fun provider =>
  match handlers.unsubscribeServiceMethodHandlers provider skeletonInstanceIdentifier with
  | none => .ok (.ok (), provider)
  | some handler =>
    match handler.invoke (fun callable => callable proxyInstanceIdentifier provider) with
    | none => .ok (.ok (), provider)
    | some invocationResult => invocationResult

end

def callServiceMethodLocally (proxyMethodInstanceIdentifier : ProxyMethodInstanceIdentifier)
    (queuePosition : UInt64) (proxyUid : Nat) :
    HandlerRun Provider MethodResult := fun provider =>
  match handlers.callMethodHandlers provider proxyMethodInstanceIdentifier with
  | none => .ok (.error MethodErrc.kNotSubscribed.error, provider)
  | some (handler, allowedProxyUid) =>
    if allowedProxyUid ≠ proxyUid then
      .ok (.error MethodErrc.kUnknownProxy.error, provider)
    else
      match handler.invoke (fun callable => callable queuePosition provider) with
      | none => .ok (.error MethodErrc.kSkeletonAlreadyDestroyed.error, provider)
      | some (.error violation) => .error violation
      | some (.ok ((), after)) => .ok (.ok (), after)

def handleSubscribeServiceMethodMsg (payload : List UInt8) (senderUid senderNodeId : Nat) :
    HandlerRun Provider MethodResult := fun provider =>
  match deserializeFromPayload SubscribeServiceMethodUnserializedPayload.size
      SubscribeServiceMethodUnserializedPayload.copy payload with
  | none => .ok (.error MethodErrc.kUnexpectedMessageSize.error, provider)
  | some unserialized =>
    handlers.callSubscribeServiceMethodLocally
      unserialized.skeletonInstanceIdentifier unserialized.proxyInstanceIdentifier
      senderUid senderNodeId provider

/-- The sender is not looked at. -/
def handleUnsubscribeServiceMethodMsg
    (payload : List UInt8) : HandlerRun Provider MethodResult := fun provider =>
  match deserializeFromPayload SubscribeServiceMethodUnserializedPayload.size
      SubscribeServiceMethodUnserializedPayload.copy payload with
  | none => .ok (.error MethodErrc.kUnexpectedMessageSize.error, provider)
  | some unserialized =>
    handlers.callUnsubscribeServiceMethodLocally
      unserialized.skeletonInstanceIdentifier unserialized.proxyInstanceIdentifier
      provider

def handleCallMethodMsg (payload : List UInt8) (senderUid : Nat) :
    HandlerRun Provider MethodResult := fun provider =>
  match deserializeFromPayload MethodCallUnserializedPayload.size
      MethodCallUnserializedPayload.copy payload with
  | none => .ok (.error MethodErrc.kUnexpectedMessageSize.error, provider)
  | some unserialized =>
    handlers.callServiceMethodLocally unserialized.proxyMethodInstanceIdentifier
      unserialized.queuePosition senderUid provider

/-- The first byte is a `MessageWithReplyType`. -/
def messageCallbackWithReply (senderUid senderPid : Nat) :
    List UInt8 → HandlerRun Provider MethodResult
  | [], provider => .ok (.error MethodErrc.kUnexpectedMessageSize.error, provider)
  | front :: payload, provider =>
    if front = 1 then
      handlers.handleSubscribeServiceMethodMsg payload senderUid senderPid provider
    else if front = 3 then
      handlers.handleUnsubscribeServiceMethodMsg payload provider
    else if front = 2 then
      handlers.handleCallMethodMsg payload senderUid provider
    else .ok (.error MethodErrc.kUnexpectedMessage.error, provider)

end MethodHandlers

inductive CallbackEnd where
  | done
  | disconnect
  | violated (violation : Violation)
  deriving DecidableEq, Repr

structure CallbackRun where
  replies : List (List UInt8)
  ending : CallbackEnd
  deriving DecidableEq, Repr

/-- The part of the callback that follows the check of the invocation.  `sent` are
the replies so far, and `replyAccepted n` tells whether the connection takes the
`n`-th reply. -/
def reportMessageHandlingResult (replyAccepted : Nat → Bool)
    (sent : List (List UInt8)) (messageHandlingResult : MethodResult) : CallbackRun :=
  let didMessageHandlingFailUnrecoverable : Except Violation Bool :=
    match messageHandlingResult with
    | .ok () => .ok false
    | .error error => (isMethodErrorRecoverable error).map (!·)
  match didMessageHandlingFailUnrecoverable with
  | .error violation => ⟨sent, .violated violation⟩
  | .ok failedUnrecoverable =>
    match serializeToMethodReplyMessage messageHandlingResult with
    | .error violation => ⟨sent, .violated violation⟩
    | .ok reply =>
      if !replyAccepted sent.length then ⟨sent ++ [reply], .disconnect⟩
      else if failedUnrecoverable then ⟨sent ++ [reply], .disconnect⟩
      else ⟨sent ++ [reply], .done⟩

/-- The callback of `CreateSendMessageWithReplyCallback`, given what the invocation
of the scoped message callback yields.  The branch for an expired scope is not left
after its reply was sent. -/
def receivedSendMessageWithReplyCallback (replyAccepted : Nat → Bool)
    (functionInvocationResult : Option (Except Violation MethodResult)) : CallbackRun :=
  match functionInvocationResult with
  | none =>
    match serializeToMethodReplyMessage (.error MethodErrc.kSkeletonAlreadyDestroyed.error) with
    | .error violation => ⟨[], .violated violation⟩
    | .ok reply =>
      if !replyAccepted 0 then ⟨[reply], .disconnect⟩
      else ⟨[reply], .violated .resultOfMissingInvocation⟩
  | some (.error violation) => ⟨[], .violated violation⟩
  | some (.ok messageHandlingResult) =>
    reportMessageHandlingResult replyAccepted [] messageHandlingResult

/-- A request as it arrives: the identity of the client comes from the connection. -/
structure IncomingRequest where
  clientUid : Nat
  clientPid : Nat
  message : List UInt8
  deriving DecidableEq, Repr

namespace MethodHandlers

variable {Provider : Type} (handlers : MethodHandlers Provider) (messageCallbackScopeExpired : Bool)

/-- The invocation of the message callback, which is bound to
`message_callback_scope_`. -/
def invokeMessageCallback (request : IncomingRequest)
    (provider : Provider) : Option (Except Violation (MethodResult × Provider)) :=
  ScopedFunction.invoke ⟨messageCallbackScopeExpired, handlers.messageCallbackWithReply⟩
    (fun callable => callable request.clientUid request.clientPid request.message provider)

def answer (replyAccepted : Nat → Bool) (request : IncomingRequest)
    (provider : Provider) : CallbackRun :=
  receivedSendMessageWithReplyCallback replyAccepted
    ((handlers.invokeMessageCallback messageCallbackScopeExpired request provider).map
      (·.map Prod.fst))

end MethodHandlers

/-! ## What a request asks for -/

inductive MethodRequest where
  | subscribe (payload : SubscribeServiceMethodUnserializedPayload)
  | unsubscribe (payload : SubscribeServiceMethodUnserializedPayload)
  | call (payload : MethodCallUnserializedPayload)
  deriving DecidableEq, Repr

/-- The request in a message, or the error for a message that holds none. -/
def MethodRequest.decode : List UInt8 → Except MethodErrc MethodRequest
  | [] => .error .kUnexpectedMessageSize
  | front :: payload =>
    let sized (request : Option MethodRequest) : Except MethodErrc MethodRequest :=
      match request with
      | none => .error .kUnexpectedMessageSize
      | some request => .ok request
    if front = 1 then
      sized ((deserializeFromPayload SubscribeServiceMethodUnserializedPayload.size
        SubscribeServiceMethodUnserializedPayload.copy payload).map .subscribe)
    else if front = 3 then
      sized ((deserializeFromPayload SubscribeServiceMethodUnserializedPayload.size
        SubscribeServiceMethodUnserializedPayload.copy payload).map .unsubscribe)
    else if front = 2 then
      sized ((deserializeFromPayload MethodCallUnserializedPayload.size
        MethodCallUnserializedPayload.copy payload).map .call)
    else .error .kUnexpectedMessage

variable {errc : MethodErrc} {error : ResultError} {mayDisconnect : Prop}
  {replyAccepted : Nat → Bool}

theorem MethodRequest.decode_error {msg} (undecodable : decode msg = .error errc) :
    errc = .kUnexpectedMessage ∨ errc = .kUnexpectedMessageSize := by
  cases msg with
  | nil =>
    cases undecodable
    exact .inr rfl
  | cons front payload =>
    rw [decode] at undecodable
    dsimp only at undecodable
    split at undecodable
    · split at undecodable <;> cases undecodable
      exact .inr rfl
    split at undecodable
    · split at undecodable <;> cases undecodable
      exact .inr rfl
    split at undecodable
    · split at undecodable <;> cases undecodable
      exact .inr rfl
    cases undecodable
    exact .inl rfl

namespace MethodHandlers

variable {Provider : Type} (handlers : MethodHandlers Provider) (senderUid senderPid : Nat)

def perform : MethodRequest → HandlerRun Provider MethodResult
  | .subscribe payload =>
    handlers.callSubscribeServiceMethodLocally payload.skeletonInstanceIdentifier
      payload.proxyInstanceIdentifier senderUid senderPid
  | .unsubscribe payload =>
    handlers.callUnsubscribeServiceMethodLocally payload.skeletonInstanceIdentifier
      payload.proxyInstanceIdentifier
  | .call payload =>
    handlers.callServiceMethodLocally payload.proxyMethodInstanceIdentifier
      payload.queuePosition senderUid

theorem messageCallbackWithReply_eq (msg : List UInt8) (p : Provider) :
    handlers.messageCallbackWithReply senderUid senderPid msg p =
      match MethodRequest.decode msg with
      | .error errc => .ok (.error errc.error, p)
      | .ok req => handlers.perform senderUid senderPid req p := by
  cases msg with
  | nil => rfl
  | cons front payload =>
    simp only [messageCallbackWithReply, MethodRequest.decode,
      handleSubscribeServiceMethodMsg, handleUnsubscribeServiceMethodMsg,
      handleCallMethodMsg]
    by_cases subscribes : front = 1
    · simp only [if_pos subscribes]
      cases deserializeFromPayload size copy payload <;> rfl
    by_cases unsubscribes : front = 3
    · simp only [if_neg subscribes, if_pos unsubscribes]
      cases deserializeFromPayload size copy payload <;> rfl
    by_cases calls : front = 2
    · simp only [if_neg subscribes, if_neg unsubscribes, if_pos calls]
      cases deserializeFromPayload MethodCallUnserializedPayload.size
        MethodCallUnserializedPayload.copy payload <;> rfl
    simp only [if_neg subscribes, if_neg unsubscribes, if_neg calls]

end MethodHandlers

/-! ## When a reply reports the outcome -/

/-- The callback ends properly, sends one reply that is read back as the outcome,
and disconnects the client only where it may. -/
structure CallbackRun.Reports (run : CallbackRun) (outcome : MethodResult)
    (mayDisconnect : Prop) : Prop where
  noViolation : ∀ violation, run.ending ≠ .violated violation
  oneReply : ∃ reply, run.replies = [reply] ∧
    deserializeFromMethodReplyPayload reply = .ok (.ok outcome)
  disconnects : run.ending = .disconnect → mayDisconnect

namespace MethodErrc

def recoverable : List MethodErrc :=
  [kSkeletonAlreadyDestroyed, kUnknownProxy, kNotSubscribed, kNotOffered]

def unrecoverable : List MethodErrc :=
  [kUnexpectedMessage, kUnexpectedMessageSize, kMessagePassingError]

end MethodErrc

def Reportable (mayDisconnect : Prop) (outcome : MethodResult) : Prop :=
  outcome = .ok () ∨ (∃ errc ∈ MethodErrc.recoverable, outcome = .error errc.error) ∨
    (mayDisconnect ∧ ∃ errc ∈ MethodErrc.unrecoverable, outcome = .error errc.error)

theorem isMethodErrorRecoverable_of_recoverable (isRecoverable : errc ∈ recoverable)
    (sameCode : error.code = errc.code) :
    isMethodErrorRecoverable error = .ok true ∧ serializeError error.code = .ok errc.code ∧
      deserialize errc.code = .ok (.error errc.error) := by
  rw [isMethodErrorRecoverable, sameCode]
  simp only [recoverable, mem_cons, not_mem_nil, or_false] at isRecoverable
  rcases isRecoverable with rfl | rfl | rfl | rfl <;> decide

theorem isMethodErrorRecoverable_of_unrecoverable (isUnrecoverable : errc ∈ unrecoverable)
    (sameCode : error.code = errc.code) :
    isMethodErrorRecoverable error = .ok false ∧ serializeError error.code = .ok errc.code ∧
      deserialize errc.code = .ok (.error errc.error) := by
  rw [isMethodErrorRecoverable, sameCode]
  simp only [unrecoverable, mem_cons, not_mem_nil, or_false] at isUnrecoverable
  rcases isUnrecoverable with rfl | rfl | rfl <;> decide

theorem isMethodErrorRecoverable_cases (error : ResultError) :
    (∃ errc ∈ recoverable, error.code = errc.code) ∨
      (∃ errc ∈ unrecoverable, error.code = errc.code) ∨
      isMethodErrorRecoverable error = .error .errorOutsideMethodErrors := by
  by_cases isRecoverable : ∃ errc ∈ recoverable, error.code = errc.code
  · exact .inl isRecoverable
  by_cases isUnrecoverable : ∃ errc ∈ unrecoverable, error.code = errc.code
  · exact .inr (.inl isUnrecoverable)
  refine .inr (.inr ?_)
  simp only [recoverable, unrecoverable, mem_cons,
    not_mem_nil, or_false, exists_eq_or_imp, exists_eq_left]
    at isRecoverable isUnrecoverable
  rw [isMethodErrorRecoverable, if_neg isRecoverable, if_neg isUnrecoverable]

theorem Reportable.error_eq (reportable : Reportable mayDisconnect (.error error))
    (sameCode : error.code = errc.code) : error = errc.error := by
  have domain : error.domain = .methodErrc := by
    rcases reportable with bad | ⟨_, _, isError⟩ | ⟨_, _, _, isError⟩
    · cases bad
    · cases isError
      rfl
    · cases isError
      rfl
  cases error
  cases domain
  cases sameCode
  rfl

theorem report_error_reports_iff {recoverable}
    (refusedDisconnects : replyAccepted 0 = false → mayDisconnect)
    (known : isMethodErrorRecoverable error = .ok recoverable)
    (serialized : serializeError error.code = .ok errc.code)
    (deserialized : deserialize errc.code = .ok (.error errc.error)) :
    (reportMessageHandlingResult replyAccepted [] (.error error)).Reports
        (.error error) mayDisconnect ↔
      error = errc.error ∧ (recoverable = false → mayDisconnect) := by
  have reply : serializeToMethodReplyMessage (.error error) = .ok (replyBytes errc.code) := by
    rw [serializeToMethodReplyMessage, serialized]
  have readBack : deserializeFromMethodReplyPayload (replyBytes errc.code) =
      .ok (.ok (.error errc.error)) := by
    rw [deserialize_replyBytes, deserialized]
  have res : reportMessageHandlingResult replyAccepted [] (.error error) =
      ⟨[replyBytes errc.code], if replyAccepted 0 && recoverable then .done else .disconnect⟩ := by
    simp only [reportMessageHandlingResult, known, reply, length_nil, nil_append]
    cases replyAccepted 0 <;> cases recoverable <;> rfl
  rw [res]
  constructor
  · rintro ⟨_, ⟨sent, sentOnly, sentRead⟩, disconnects⟩
    cases sentOnly
    rw [readBack] at sentRead
    cases sentRead
    refine ⟨rfl, fun unrecoverable => disconnects ?_⟩
    rw [unrecoverable, Bool.and_false]
    rfl
  · rintro ⟨rfl, disconnects⟩
    refine ⟨?_, ⟨_, rfl, readBack⟩, ?_⟩
    · intro violation
      dsimp only
      split <;> simp
    · intro isDisconnect
      cases accepted : replyAccepted 0 with
      | false => exact refusedDisconnects accepted
      | true =>
        cases recoverable with
        | false => exact disconnects rfl
        | true =>
          rw [accepted] at isDisconnect
          cases isDisconnect

theorem reportMessageHandlingResult_reports_iff
    (refusedDisconnects : replyAccepted 0 = false → mayDisconnect) (out : MethodResult) :
    (reportMessageHandlingResult replyAccepted [] out).Reports out
        mayDisconnect ↔ Reportable mayDisconnect out := by
  cases out with
  | ok success =>
    refine ⟨fun _ => .inl rfl, fun _ => ?_⟩
    cases accepted : replyAccepted 0 with
    | false =>
      simp only [reportMessageHandlingResult, serializeToMethodReplyMessage, length_nil, accepted]
      exact ⟨by simp, ⟨_, rfl, rfl⟩, fun _ => refusedDisconnects accepted⟩
    | true =>
      simp only [reportMessageHandlingResult, serializeToMethodReplyMessage, length_nil, accepted]
      exact ⟨by simp, ⟨_, rfl, rfl⟩, by simp⟩
  | error error =>
    rcases isMethodErrorRecoverable_cases error with
      ⟨errc, isRecoverable, sameCode⟩ | ⟨errc, isUnrecoverable, sameCode⟩ | unknown
    · obtain ⟨known, serialized, deserialized⟩ :=
        isMethodErrorRecoverable_of_recoverable isRecoverable sameCode
      rw [report_error_reports_iff refusedDisconnects known serialized deserialized]
      constructor
      · rintro ⟨isError, _⟩
        exact .inr (.inl ⟨errc, isRecoverable, by rw [isError]⟩)
      · intro reportable
        exact ⟨reportable.error_eq sameCode, by simp⟩
    · obtain ⟨known, serialized, deserialized⟩ :=
        isMethodErrorRecoverable_of_unrecoverable isUnrecoverable sameCode
      rw [report_error_reports_iff refusedDisconnects known serialized deserialized]
      constructor
      · rintro ⟨isError, disconnects⟩
        exact .inr (.inr ⟨disconnects rfl, errc, isUnrecoverable, by rw [isError]⟩)
      · intro reportable
        refine ⟨reportable.error_eq sameCode, fun _ => ?_⟩
        rcases reportable with bad | ⟨o, isRecoverable, isError⟩ | ⟨may, _⟩
        · cases bad
        · cases isError
          rw [(isMethodErrorRecoverable_of_recoverable isRecoverable rfl).1] at known
          cases known
        · exact may
    · have violated : reportMessageHandlingResult replyAccepted [] (.error error) =
          ⟨[], .violated .errorOutsideMethodErrors⟩ := by
        simp only [reportMessageHandlingResult, unknown, Except.map]
      rw [violated]
      constructor
      · intro reports
        exact absurd rfl (reports.noViolation _)
      · rintro (bad | ⟨errc, isRecoverable, isError⟩ | ⟨_, errc, isUnrecoverable, isError⟩)
        · cases bad
        · cases isError
          rw [(isMethodErrorRecoverable_of_recoverable isRecoverable rfl).1] at unknown
          cases unknown
        · cases isError
          rw [(isMethodErrorRecoverable_of_unrecoverable isUnrecoverable rfl).1] at unknown
          cases unknown

namespace MethodHandlers

variable {Provider : Type} {mayDisconnect : Prop}

section

variable (handlers : MethodHandlers Provider)

/-- What comes of a request: what the handling returns, or the error for a provider
that is gone. -/
def outcome (messageCallbackScopeExpired : Bool)
    (request : IncomingRequest) (provider : Provider) : Except Violation MethodResult :=
  match handlers.invokeMessageCallback messageCallbackScopeExpired request provider with
  | none => .ok (.error MethodErrc.kSkeletonAlreadyDestroyed.error)
  | some handled => handled.map Prod.fst

/-- The request has an outcome and the callback reports it. -/
def AnswersProperly (messageCallbackScopeExpired : Bool) (replyAccepted : Nat → Bool)
    (request : IncomingRequest) (provider : Provider) : Prop :=
  ∃ outcome, handlers.outcome messageCallbackScopeExpired request provider = .ok outcome ∧
    (handlers.answer messageCallbackScopeExpired replyAccepted request provider).Reports outcome
        ((∃ errc, MethodRequest.decode request.message = .error errc) ∨ replyAccepted 0 = false)

def ReturnsReportable (mayDisconnect : Prop)
    (handled : Except Violation (MethodResult × Provider)) : Prop :=
  ∃ result after, handled = .ok (result, after) ∧ Reportable mayDisconnect result

/-- The handler that is invoked for a request, if one is, returns an outcome that a
reply can report. -/
def HandlerReportable (mayDisconnect : Prop)
    (senderUid senderPid : Nat) (provider : Provider) : MethodRequest → Prop
  | .subscribe payload =>
    ∀ handler allowedProxyUids, handlers.subscribeServiceMethodHandlers provider
        payload.skeletonInstanceIdentifier = some (handler, allowedProxyUids) →
      (∀ uids, allowedProxyUids = some uids → senderUid ∈ uids) →
      handler.scopeExpired = false →
      ReturnsReportable mayDisconnect
        (handler.callable payload.proxyInstanceIdentifier senderUid senderPid provider)
  | .unsubscribe payload =>
    ∀ handler, handlers.unsubscribeServiceMethodHandlers provider
        payload.skeletonInstanceIdentifier = some handler →
      handler.scopeExpired = false →
      ReturnsReportable mayDisconnect (handler.callable payload.proxyInstanceIdentifier provider)
  | .call payload =>
    ∀ handler, handlers.callMethodHandlers provider
        payload.proxyMethodInstanceIdentifier = some (handler, senderUid) →
      handler.scopeExpired = false →
      ∃ after, handler.callable payload.queuePosition provider = .ok ((), after)

end

theorem returnsReportable_recoverable {errc} (isRecoverable : errc ∈ recoverable)
    (p : Provider) : ReturnsReportable mayDisconnect (.ok (.error errc.error, p)) :=
  ⟨_, _, rfl, .inr (.inl ⟨errc, isRecoverable, rfl⟩)⟩

theorem returnsReportable_ok (p : Provider) : ReturnsReportable mayDisconnect (.ok (.ok (), p)) :=
  ⟨_, _, rfl, .inl rfl⟩

section

variable (handlers : MethodHandlers Provider) (mayDisconnect : Prop) (senderUid senderPid : Nat)
  (p : Provider)

theorem callSubscribe_returnsReportable_iff (payload : SubscribeServiceMethodUnserializedPayload) :
    ReturnsReportable mayDisconnect
        (handlers.callSubscribeServiceMethodLocally payload.skeletonInstanceIdentifier
          payload.proxyInstanceIdentifier senderUid senderPid p) ↔
      handlers.HandlerReportable mayDisconnect senderUid senderPid p (.subscribe payload) := by
  rw [callSubscribeServiceMethodLocally, HandlerReportable]
  cases reg : handlers.subscribeServiceMethodHandlers p payload.skeletonInstanceIdentifier with
  | none =>
    refine ⟨nofun, fun _ => ?_⟩
    exact returnsReportable_recoverable (by decide) p
  | some e =>
    obtain ⟨handler, allowedProxyUids⟩ := e
    dsimp only
    by_cases unknown : allowedProxyUids.any (fun uids => !uids.contains senderUid)
    · rw [if_pos unknown]
      refine ⟨?_, fun _ => returnsReportable_recoverable (by decide) p⟩
      rintro _ _ _ same ok _
      cases same
      cases allowedProxyUids with
      | none => cases unknown
      | some uids =>
        have known := ok uids rfl
        simp [known] at unknown
    · rw [if_neg unknown]
      have ok : ∀ uids, allowedProxyUids = some uids → senderUid ∈ uids := by
        rintro uids rfl
        simpa using unknown
      cases expired : handler.scopeExpired with
      | true =>
        simp only [ScopedFunction.invoke, expired, if_true]
        refine ⟨?_, fun _ => returnsReportable_recoverable (by decide) p⟩
        rintro _ _ _ same _ alive
        cases same
        rw [expired] at alive
        cases alive
      | false =>
        simp only [ScopedFunction.invoke, expired, Bool.false_eq_true, if_false]
        constructor
        · rintro returns _ _ same _ _
          cases same
          exact returns
        · intro returns
          exact returns handler allowedProxyUids rfl ok expired

theorem callUnsubscribe_returnsReportable_iff
    (payload : SubscribeServiceMethodUnserializedPayload) :
    ReturnsReportable mayDisconnect (handlers.callUnsubscribeServiceMethodLocally
          payload.skeletonInstanceIdentifier payload.proxyInstanceIdentifier p) ↔
      handlers.HandlerReportable mayDisconnect senderUid senderPid p (.unsubscribe payload) := by
  rw [callUnsubscribeServiceMethodLocally, HandlerReportable]
  cases reg : handlers.unsubscribeServiceMethodHandlers p payload.skeletonInstanceIdentifier with
  | none => exact ⟨nofun, fun _ => returnsReportable_ok p⟩
  | some handler =>
    cases expired : handler.scopeExpired with
    | true =>
      simp only [ScopedFunction.invoke, expired, if_true]
      refine ⟨?_, fun _ => returnsReportable_ok p⟩
      rintro _ _ same alive
      cases same
      rw [expired] at alive
      cases alive
    | false =>
      simp only [ScopedFunction.invoke, expired, Bool.false_eq_true, if_false]
      constructor
      · rintro returns _ same _
        cases same
        exact returns
      · intro returns
        exact returns handler rfl expired

theorem callServiceMethod_returnsReportable_iff (payload : MethodCallUnserializedPayload) :
    ReturnsReportable mayDisconnect
        (handlers.callServiceMethodLocally payload.proxyMethodInstanceIdentifier
          payload.queuePosition senderUid p) ↔
      handlers.HandlerReportable mayDisconnect senderUid senderPid p (.call payload) := by
  rw [callServiceMethodLocally, HandlerReportable]
  cases reg : handlers.callMethodHandlers p payload.proxyMethodInstanceIdentifier with
  | none =>
    refine ⟨nofun, fun _ => ?_⟩
    exact returnsReportable_recoverable (by decide) p
  | some e =>
    obtain ⟨handler, allowedProxyUid⟩ := e
    dsimp only
    by_cases o : allowedProxyUid ≠ senderUid
    · rw [if_pos o]
      refine ⟨?_, fun _ => returnsReportable_recoverable (by decide) p⟩
      rintro _ _ same
      cases same
      exact absurd rfl o
    · rw [if_neg o]
      obtain rfl := Classical.not_not.mp o
      cases expired : handler.scopeExpired with
      | true =>
        simp only [ScopedFunction.invoke, expired, if_true]
        refine ⟨?_, fun _ => returnsReportable_recoverable (by decide) p⟩
        rintro _ _ same alive
        cases same
        rw [expired] at alive
        cases alive
      | false =>
        simp only [ScopedFunction.invoke, expired, Bool.false_eq_true, if_false]
        cases handled : handler.callable payload.queuePosition p with
        | error violation =>
          constructor
          · rintro ⟨_, _, bad, _⟩
            cases bad
          · intro returns
            obtain ⟨s', returned⟩ := returns handler rfl expired
            rw [handled] at returned
            cases returned
        | ok returned =>
          obtain ⟨⟨⟩, s'⟩ := returned
          constructor
          · rintro _ _ same _
            cases same
            exact ⟨s', handled⟩
          · intro _
            exact returnsReportable_ok s'

theorem perform_returnsReportable_iff (req : MethodRequest) :
    ReturnsReportable mayDisconnect (handlers.perform senderUid senderPid req p) ↔
      handlers.HandlerReportable mayDisconnect senderUid senderPid p req := by
  cases req with
  | subscribe payload =>
    exact handlers.callSubscribe_returnsReportable_iff mayDisconnect senderUid senderPid p payload
  | unsubscribe payload =>
    exact handlers.callUnsubscribe_returnsReportable_iff mayDisconnect senderUid senderPid p payload
  | call payload =>
    exact handlers.callServiceMethod_returnsReportable_iff mayDisconnect senderUid
      senderPid p payload

end

section

variable (handlers : MethodHandlers Provider)

/-- With the scope of the message callback expired, the requests whose reply is refused, and
otherwise those that cannot be decoded or whose outcome a reply can report. -/
def Answerable (messageCallbackScopeExpired : Bool) (replyAccepted : Nat → Bool)
    (request : IncomingRequest) (provider : Provider) : Prop :=
  if messageCallbackScopeExpired then replyAccepted 0 = false
  else ∀ decoded, MethodRequest.decode request.message = .ok decoded →
    handlers.HandlerReportable (replyAccepted 0 = false) request.clientUid
      request.clientPid provider decoded

variable (replyAccepted : Nat → Bool) (req : IncomingRequest) (p : Provider)

theorem answersProperly_inScope_iff :
    handlers.AnswersProperly false replyAccepted req p ↔ ReturnsReportable
        ((∃ errc, MethodRequest.decode req.message = .error errc) ∨ replyAccepted 0 = false)
        (handlers.messageCallbackWithReply req.clientUid req.clientPid req.message p) := by
  simp only [AnswersProperly, outcome, answer, invokeMessageCallback,
    ScopedFunction.invoke, Bool.false_eq_true, if_false, Option.map_some]
  cases handlers.messageCallbackWithReply req.clientUid req.clientPid req.message p with
  | error violation =>
    constructor
    · rintro ⟨_, bad, _⟩
      cases bad
    · rintro ⟨_, _, bad, _⟩
      cases bad
  | ok handled =>
    obtain ⟨res, s'⟩ := handled
    constructor
    · rintro ⟨_, same, reports⟩
      cases same
      exact ⟨res, s', rfl, (reportMessageHandlingResult_reports_iff Or.inr res).mp reports⟩
    · rintro ⟨_, _, same, reportable⟩
      cases same
      exact ⟨res, rfl, (reportMessageHandlingResult_reports_iff Or.inr res).mpr reportable⟩

/-- With the message callback out of scope, only a refused reply is the last thing
the callback does. -/
theorem answersProperly_outOfScope_iff :
    handlers.AnswersProperly true replyAccepted req p ↔ replyAccepted 0 = false := by
  have reply : serializeToMethodReplyMessage
      (.error kSkeletonAlreadyDestroyed.error) = .ok [1, 0, 0, 0] := rfl
  simp only [AnswersProperly, outcome, answer, invokeMessageCallback,
    ScopedFunction.invoke, if_true, Option.map_none,
    receivedSendMessageWithReplyCallback, reply]
  cases accepted : replyAccepted 0 with
  | true =>
    refine ⟨?_, nofun⟩
    rintro ⟨_, _, reports⟩
    exact absurd rfl (reports.noViolation _)
  | false =>
    refine ⟨fun _ => rfl, fun _ => ⟨_, rfl, ?_⟩⟩
    exact ⟨nofun, ⟨_, rfl, by decide⟩, fun _ => .inr rfl⟩

end

/-- Requests are answered properly in exactly the stated cases. -/
theorem answersProperly_iff_answerable (handlers : MethodHandlers Provider)
    (messageCallbackScopeExpired : Bool) (replyAccepted : Nat → Bool) (request : IncomingRequest)
    (provider : Provider) :
    handlers.AnswersProperly messageCallbackScopeExpired replyAccepted request provider ↔
      handlers.Answerable messageCallbackScopeExpired replyAccepted request provider := by
  cases messageCallbackScopeExpired with
  | true => exact handlers.answersProperly_outOfScope_iff replyAccepted request provider
  | false =>
    rw [answersProperly_inScope_iff, messageCallbackWithReply_eq, Answerable,
      if_neg Bool.false_ne_true]
    cases decoded : MethodRequest.decode request.message with
    | error errc =>
      refine ⟨fun _ _ same => (nomatch same), fun _ => ?_⟩
      have isUnrecoverable : errc ∈ unrecoverable := by
        rcases MethodRequest.decode_error decoded with rfl | rfl <;> decide
      exact ⟨_, _, rfl, .inr (.inr ⟨.inl ⟨errc, rfl⟩, errc, isUnrecoverable, rfl⟩)⟩
    | ok wanted =>
      have onlyRefused : ((∃ errc, (Except.ok wanted : Except MethodErrc _) =
          .error errc) ∨ replyAccepted 0 = false) ↔ replyAccepted 0 = false := by
        simp
      rw [onlyRefused]
      dsimp only
      rw [perform_returnsReportable_iff]
      constructor
      · rintro reportable _ same
        cases same
        exact reportable
      · intro reportable
        exact reportable wanted rfl

/-- A provider whose subscribe handler fails as `OnServiceMethodsSubscribed` does when
the shared memory cannot be opened. -/
def unopenable : MethodHandlers Unit where
  subscribeServiceMethodHandlers _ _ :=
    some (⟨false, fun _ _ _ provider => .ok (.error bindingFailure, provider)⟩, none)
  unsubscribeServiceMethodHandlers _ _ := none
  callMethodHandlers _ _ := none

/-- When the scope has expired, the missing result is read after the reply.  A subscription
that fails at the shared memory is reported as a message of a wrong size and disconnects the
client. -/
theorem unopenable_not_answersProperly : unopenable.answer true (fun _ => true) ⟨0, 0, []⟩ () =
        ⟨[[1, 0, 0, 0]], .violated .resultOfMissingInvocation⟩ ∧
      ¬ unopenable.AnswersProperly true (fun _ => true) ⟨0, 0, []⟩ () ∧
      unopenable.answer false (fun _ => true) ⟨0, 0, 1 :: List.replicate 12 0⟩ () =
        ⟨[[3, 0, 0, 0]], .disconnect⟩ ∧
      deserializeFromMethodReplyPayload [3, 0, 0, 0] =
        .ok (.ok (.error MethodErrc.kUnexpectedMessageSize.error)) ∧
      ¬ unopenable.AnswersProperly false (fun _ => true) ⟨0, 0, 1 :: List.replicate 12 0⟩ () := by
  have run : unopenable.answer false (fun _ => true)
      ⟨0, 0, 1 :: List.replicate 12 0⟩ () = ⟨[[3, 0, 0, 0]], .disconnect⟩ := by rfl
  refine ⟨rfl, ?_, run, rfl, ?_⟩
  · rw [answersProperly_outOfScope_iff]
    decide
  · rintro ⟨_, _, reports⟩
    rw [run] at reports
    rcases reports.disconnects rfl with ⟨errc, undecodable⟩ | refused
    · cases undecodable
    · cases refused

end MethodHandlers

end ScoreIntegration.Lola
