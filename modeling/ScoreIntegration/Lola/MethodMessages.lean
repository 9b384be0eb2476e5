import Mathlib.Data.List.Basic

/-!
# Method requests and their replies on the wire

A request is a byte that names its kind and the bytes of a trivially copyable struct; a
reply is the number of an error code, zero for success.  Both ends run on one machine:
fields at their natural alignment, least significant byte first.
-/

namespace ScoreIntegration.Lola

/-- The value of bytes in memory, least significant byte first. -/
def littleEndian : List UInt8 → Nat
  | [] => 0
  | byte :: bytes => byte.toNat + 256 * littleEndian bytes

structure SkeletonInstanceIdentifier where
  serviceId : UInt16
  instanceId : UInt16
  deriving DecidableEq, Repr

structure ProxyInstanceIdentifier where
  applicationId : UInt32
  proxyInstanceCounter : UInt16
  deriving DecidableEq, Repr

/-- The kind of a method is a byte that is copied from the message, so it need not
be one of the enumerators of `MethodType`. -/
structure UniqueMethodIdentifier where
  methodOrFieldId : UInt16
  methodType : UInt8
  deriving DecidableEq, Repr

structure ProxyMethodInstanceIdentifier where
  proxyInstanceIdentifier : ProxyInstanceIdentifier
  uniqueMethodIdentifier : UniqueMethodIdentifier
  deriving DecidableEq, Repr

structure SubscribeServiceMethodUnserializedPayload where
  skeletonInstanceIdentifier : SkeletonInstanceIdentifier
  proxyInstanceIdentifier : ProxyInstanceIdentifier
  deriving DecidableEq, Repr

structure MethodCallUnserializedPayload where
  proxyMethodInstanceIdentifier : ProxyMethodInstanceIdentifier
  queuePosition : UInt64
  deriving DecidableEq, Repr

def fieldAt (payload : List UInt8) (offset size : Nat) : Nat :=
  littleEndian ((payload.drop offset).take size)

namespace SubscribeServiceMethodUnserializedPayload

/-- Two bytes of padding follow the proxy instance counter. -/
def size : Nat := 12

def copy (payload : List UInt8) : SubscribeServiceMethodUnserializedPayload where
  skeletonInstanceIdentifier :=
    { serviceId := .ofNat (fieldAt payload 0 2)
      instanceId := .ofNat (fieldAt payload 2 2) }
  proxyInstanceIdentifier :=
    { applicationId := .ofNat (fieldAt payload 4 4)
      proxyInstanceCounter := .ofNat (fieldAt payload 8 2) }

end SubscribeServiceMethodUnserializedPayload

namespace MethodCallUnserializedPayload

/-- Padding follows the proxy instance counter, the kind of the method and the
identifier as a whole. -/
def size : Nat := 24

def copy (payload : List UInt8) : MethodCallUnserializedPayload where
  proxyMethodInstanceIdentifier :=
    { proxyInstanceIdentifier :=
        { applicationId := .ofNat (fieldAt payload 0 4)
          proxyInstanceCounter := .ofNat (fieldAt payload 4 2) }
      uniqueMethodIdentifier :=
        { methodOrFieldId := .ofNat (fieldAt payload 8 2)
          methodType := .ofNat (fieldAt payload 10 1) } }
  queuePosition := .ofNat (fieldAt payload 16 8)

end MethodCallUnserializedPayload

/-- `DeserializeFromPayload`: only the size of the payload is checked. -/
def deserializeFromPayload {Payload : Type} (size : Nat)
    (copy : List UInt8 → Payload) (payload : List UInt8) : Option Payload :=
  if size ≠ payload.length then none else some (copy payload)

inductive ErrorDomain where
  | methodErrc
  | comErrc
  deriving DecidableEq, Repr

/-- `result::Error`: two errors are equal if code and domain are. -/
structure ResultError where
  domain : ErrorDomain
  code : BitVec 32
  deriving DecidableEq, Repr

abbrev MethodResult := Except ResultError Unit

inductive MethodErrc where
  | kInvalid
  | kSkeletonAlreadyDestroyed
  | kUnexpectedMessage
  | kUnexpectedMessageSize
  | kMessagePassingError
  | kNotSubscribed
  | kNotOffered
  | kUnknownProxy
  | kNumEnumElements
  deriving DecidableEq, Repr

namespace MethodErrc

def code : MethodErrc → BitVec 32
  | kInvalid => 0
  | kSkeletonAlreadyDestroyed => 1
  | kUnexpectedMessage => 2
  | kUnexpectedMessageSize => 3
  | kMessagePassingError => 4
  | kNotSubscribed => 5
  | kNotOffered => 6
  | kUnknownProxy => 7
  | kNumEnumElements => 8

def error (errc : MethodErrc) : ResultError := ⟨.methodErrc, errc.code⟩

end MethodErrc

def bindingFailure : ResultError := ⟨.comErrc, 3⟩

inductive Violation where
  | resultOfMissingInvocation
  | errorOutsideMethodErrors
  | errorCodeOutOfRange
  | assertionInHandler
  deriving DecidableEq, Repr

namespace ErrorSerializer

def serializeSuccess : BitVec 32 := 0

/-- Codes are compared as signed numbers. -/
def serializeError (code : BitVec 32) : Except Violation (BitVec 32) :=
  if MethodErrc.kInvalid.code.slt code && code.slt MethodErrc.kNumEnumElements.code then
    .ok code
  else .error .errorCodeOutOfRange

def deserialize (serialized : BitVec 32) : Except Violation MethodResult :=
  if MethodErrc.kInvalid.code.sle serialized && serialized.slt MethodErrc.kNumEnumElements.code then
    if serialized ≠ 0 then .ok (.error ⟨.methodErrc, serialized⟩) else .ok (.ok ())
  else .error .errorCodeOutOfRange

end ErrorSerializer

def replyBytes (serialized : BitVec 32) : List UInt8 :=
  [.ofNat serialized.toNat, .ofNat (serialized.toNat / 256),
    .ofNat (serialized.toNat / 65536), .ofNat (serialized.toNat / 16777216)]

/-- The error is cast to a method error whatever its domain is. -/
def serializeToMethodReplyMessage : MethodResult → Except Violation (List UInt8)
  | .ok () => .ok (replyBytes ErrorSerializer.serializeSuccess)
  | .error error =>
    match ErrorSerializer.serializeError error.code with
    | .error violation => .error violation
    | .ok serialized => .ok (replyBytes serialized)

/-- The outer result tells whether the reply could be read, the inner one is the
outcome that the reply reports. -/
def deserializeFromMethodReplyPayload (payload : List UInt8) :
    Except Violation (Except ResultError MethodResult) :=
  if 4 ≠ payload.length then
    .ok (.error MethodErrc.kUnexpectedMessageSize.error)
  else
    match ErrorSerializer.deserialize (.ofNat 32 (littleEndian payload)) with
    | .error violation => .error violation
    | .ok reported => .ok (.ok reported)

/-- The codes are compared without their domains. -/
def isMethodErrorRecoverable (error : ResultError) : Except Violation Bool :=
  if error.code = MethodErrc.kSkeletonAlreadyDestroyed.code ∨
      error.code = MethodErrc.kUnknownProxy.code ∨
      error.code = MethodErrc.kNotSubscribed.code ∨
      error.code = MethodErrc.kNotOffered.code then
    .ok true
  else if error.code = MethodErrc.kUnexpectedMessage.code ∨
      error.code = MethodErrc.kUnexpectedMessageSize.code ∨
      error.code = MethodErrc.kMessagePassingError.code then
    .ok false
  else .error .errorOutsideMethodErrors

theorem littleEndian_replyBytes (serialized : BitVec 32) :
    littleEndian (replyBytes serialized) = serialized.toNat := by
  have bounded := serialized.isLt
  simp only [replyBytes, littleEndian, UInt8.toNat_ofNat']
  omega

theorem deserialize_replyBytes (serialized : BitVec 32) :
    deserializeFromMethodReplyPayload (replyBytes serialized) =
      match ErrorSerializer.deserialize serialized with
      | .error violation => .error violation
      | .ok reported => .ok (.ok reported) := by
  have wellSized : ¬ 4 ≠ (replyBytes serialized).length := by
    simp [replyBytes]
  rw [deserializeFromMethodReplyPayload, if_neg wellSized, littleEndian_replyBytes,
    BitVec.ofNat_toNat, BitVec.setWidth_eq]

end ScoreIntegration.Lola
