import Liminal.Wire.Primitives

/-!
# Requests

What a client can send. Every answer echoes an envelope: the part of the request that identifies it,
without the secret or the payload. The structures outside `Wire` are the fields the server's
lifecycle checks read; those inside are whole frames.
-/

namespace Liminal

structure DetachRequest where
  conversationId : ConversationId
  participantId : ParticipantId
  capabilityGeneration : Generation
  detachAttemptToken : DetachAttemptToken
deriving DecidableEq

structure ParticipantAck where
  conversationId : ConversationId
  participantId : ParticipantId
  capabilityGeneration : Generation
  throughSeq : DeliverySeq
deriving DecidableEq

structure MarkerAck where
  conversationId : ConversationId
  participantId : ParticipantId
  capabilityGeneration : Generation
  markerDeliverySeq : DeliverySeq
deriving DecidableEq

structure CredentialAttachRequest where
  conversationId : ConversationId
  participantId : ParticipantId
  capabilityGeneration : Generation
  acceptMarkerDeliverySeq : Option DeliverySeq
deriving DecidableEq

structure LeaveRequest where
  conversationId : ConversationId
  participantId : ParticipantId
  capabilityGeneration : Generation
deriving DecidableEq

structure RecordAdmission where
  conversationId : ConversationId
  participantId : ParticipantId
  capabilityGeneration : Generation
deriving DecidableEq

namespace Wire

/-! ### Tokens

Sixteen opaque bytes, thirty-two for the secret; here the number they spell. -/

abbrev EnrollmentToken := Nat
abbrev AttachAttemptToken := Nat
abbrev LeaveAttemptToken := Nat
abbrev RecordAdmissionAttemptToken := Nat
abbrev AttachSecret := Nat
abbrev ObserverEpoch := Nat
abbrev SettlementEpoch := Nat

/-! ### Envelopes -/

structure EnrollmentRequest where
  conversationId : ConversationId
  enrollmentToken : EnrollmentToken
deriving DecidableEq

abbrev EnrollmentEnvelope := EnrollmentRequest
abbrev DetachEnvelope := DetachRequest
abbrev ParticipantAckEnvelope := ParticipantAck
abbrev MarkerAckEnvelope := MarkerAck

structure AttachEnvelope extends Liminal.CredentialAttachRequest where
  attachAttemptToken : AttachAttemptToken
deriving DecidableEq

structure LeaveEnvelope extends Liminal.LeaveRequest where
  leaveAttemptToken : LeaveAttemptToken
deriving DecidableEq

structure RecordAdmissionEnvelope extends Liminal.RecordAdmission where
  recordAdmissionAttemptToken : RecordAdmissionAttemptToken
deriving DecidableEq

/-- What an answer echoes of a request: all but its secret and payload. -/
inductive ResponseEnvelope
  | enrollment (request : EnrollmentEnvelope)
  | credentialAttach (request : AttachEnvelope)
  | detach (request : DetachEnvelope)
  | participantAck (request : ParticipantAckEnvelope)
  | leave (request : LeaveEnvelope)
  | markerAck (request : MarkerAckEnvelope)
  | recordAdmission (request : RecordAdmissionEnvelope)
deriving DecidableEq

/-! ### Whole requests -/

structure CredentialAttachRequest extends AttachEnvelope where
  attachSecret : AttachSecret
deriving DecidableEq

structure LeaveRequest extends LeaveEnvelope where
  attachSecret : AttachSecret
deriving DecidableEq

structure RecordAdmission extends RecordAdmissionEnvelope where
  payload : List UInt8
deriving DecidableEq

structure ObserverRefusal where
  conversationId : ConversationId
  refusedEpoch : ObserverEpoch
deriving DecidableEq

/-- The refusals a reconnecting client has not settled. -/
structure ObserverRecoveryHandshake where
  observerRefusals : List ObserverRefusal
deriving DecidableEq

inductive ClientRequest
  | enrollment (request : EnrollmentRequest)
  | credentialAttach (request : CredentialAttachRequest)
  | detach (request : DetachRequest)
  | participantAck (request : ParticipantAck)
  | leave (request : LeaveRequest)
  | markerAck (request : MarkerAck)
  | recordAdmission (request : RecordAdmission)
  | observerRecovery (request : ObserverRecoveryHandshake)
deriving DecidableEq

inductive ClientDiscriminant
  | enrollmentRequest
  | credentialAttachRequest
  | detachRequest
  | participantAck
  | leaveRequest
  | markerAck
  | recordAdmission
  | observerRecoveryHandshake
deriving DecidableEq

def ResponseEnvelope.originatingRequest : ResponseEnvelope → ClientDiscriminant
  | .enrollment _ => .enrollmentRequest
  | .credentialAttach _ => .credentialAttachRequest
  | .detach _ => .detachRequest
  | .participantAck _ => .participantAck
  | .leave _ => .leaveRequest
  | .markerAck _ => .markerAck
  | .recordAdmission _ => .recordAdmission

def ClientRequest.discriminant : ClientRequest → ClientDiscriminant
  | .enrollment _ => .enrollmentRequest
  | .credentialAttach _ => .credentialAttachRequest
  | .detach _ => .detachRequest
  | .participantAck _ => .participantAck
  | .leave _ => .leaveRequest
  | .markerAck _ => .markerAck
  | .recordAdmission _ => .recordAdmission
  | .observerRecovery _ => .observerRecoveryHandshake

/-- The one request without a token: no restart can send it again. -/
def ClientRequest.isObserverRecovery : ClientRequest → Bool
  | .observerRecovery _ => true
  | _ => false

def ClientRequest.isParticipantAck : ClientRequest → Bool
  | .participantAck _ => true
  | _ => false

end Wire

end Liminal
