import Liminal.Wire.Response

/-!
# Which answer belongs to which request

An answer names its request by the envelope it echoes. Two families carry none: settlement refusals
name a conversation and are matched by family, and answers to an observer recovery are matched
against the list that was sent.
-/

namespace Liminal.Client

open Wire

inductive RequestKey
  | unsolicited
  | observerRecovery (authorization : Nat)
  | enrollment (request : EnrollmentEnvelope)
  | attach (request : AttachEnvelope)
  | detach (request : DetachEnvelope)
  | ack (request : ParticipantAckEnvelope)
  | leave (request : LeaveEnvelope)
  | markerAck (request : MarkerAckEnvelope)
  | record (request : Wire.RecordAdmissionEnvelope)
deriving DecidableEq

namespace RequestKey

def fromRequest (request : ClientRequest) (authorization : Nat) : RequestKey := match request with
  | .enrollment value => enrollment value
  | .credentialAttach value => attach value.toAttachEnvelope
  | .detach value => detach value
  | .participantAck value => ack value
  | .leave value => leave value.toLeaveEnvelope
  | .markerAck value => markerAck value
  | .recordAdmission value => record value.toRecordAdmissionEnvelope
  | .observerRecovery _ => observerRecovery authorization

def sameIdentity : RequestKey → RequestKey → Bool
  | enrollment a, enrollment b => a.conversationId = b.conversationId
  | attach a, attach b | detach a, detach b | ack a, ack b | leave a, leave b | markerAck a, markerAck b
  | record a, record b => a.conversationId = b.conversationId ∧ a.participantId = b.participantId
  | observerRecovery _, observerRecovery _ => true
  | _, _ => false

/-! ### Keys of the envelopes an answer can echo -/

def responseEnvelope : ResponseEnvelope → RequestKey
  | .enrollment request => enrollment request
  | .credentialAttach request => attach request
  | .detach request => detach request
  | .participantAck request => ack request
  | .leave request => leave request
  | .markerAck request => markerAck request
  | .recordAdmission request => record request

def participantReference (request : ParticipantReferenceEnvelope) : RequestKey := responseEnvelope request.toResponse

def bindingRequired (request : BindingRequiredEnvelope) : RequestKey := responseEnvelope request.toResponse

def attemptConflict : AttemptTokenBodyConflict → RequestKey
  | .credentialAttach request _ => attach request
  | .leave request => leave request
  | .recordAdmission request => record request

def connectionCapacity : ConnectionConversationCapacityExceeded → RequestKey
  | .semanticRequest request _ => responseEnvelope request
  | .observerRecovery .. => observerRecovery 0

def bindingOccupied : ConnectionConversationBindingOccupied → RequestKey
  | .enrollment request => enrollment request
  | .credentialAttach request => attach request

def orderEnvelope (request : OrderAllocatingEnvelope) : RequestKey := responseEnvelope request.toResponse

def sequenceEnvelope (request : SequenceAllocatingEnvelope) : RequestKey := responseEnvelope request.toResponse

def closureEnvelope (request : ClosureCheckedEnvelope) : RequestKey := responseEnvelope request.toResponse

end RequestKey

/-! ### The detach an outcome answers -/

def committedEnvelope (value : DetachCommitted) : DetachEnvelope :=
  ⟨value.conversationId, value.participantId, value.capabilityGeneration, value.detachAttemptToken⟩

def inProgressEnvelope (value : DetachInProgress) : DetachEnvelope :=
  ⟨value.conversationId, value.participantId, value.presentedGeneration, value.presentedToken⟩

def terminalizedEnvelope (value : TerminalizedDetachCell) : DetachEnvelope :=
  ⟨value.conversationId, value.participantId, value.capabilityGeneration, value.detachAttemptToken⟩

namespace RequestKey

def staleAuthority : StaleAuthority → RequestKey
  | .live (.credentialAttach request) _ => attach request
  | .live (.participantAck request) _ => ack request
  | .live (.markerAck request) _ => markerAck request
  | .live (.recordAdmission request) _ => record request
  | .detach (.live request _) => detach request
  | .detach (.terminalizedDetachCell cell) => detach (terminalizedEnvelope cell)
  | .leave (.live request _) | .leave (.committedLeaveTombstone request _) => leave request

def retired : Retired → RequestKey
  | .enrollment request _ _ => enrollment request
  | .participant request _ => participantReference request

def enrollBound (receipt : EnrollBound) : RequestKey :=
  enrollment ⟨receipt.conversationId, receipt.token⟩

def attachBound (receipt : AttachBound) : RequestKey :=
  attach ⟨⟨receipt.conversationId, receipt.participantId, receipt.requestGeneration,
    receipt.acceptedMarkerDeliverySeq⟩, receipt.token⟩

def receiptReplay : ReceiptReplay → RequestKey
  | .enrollment receipt => enrollBound receipt
  | .credentialAttach receipt => attachBound receipt

def receiptExpired : ReceiptExpired → RequestKey
  | .enrollment request .. => enrollment request
  | .credentialAttach request .. => attach request

def receiptCapacity : ReceiptCapacityExceeded → RequestKey
  | .enrollment request .. => enrollment request
  | .credentialAttach request .. => attach request

def observerBackpressure : ObserverBackpressure → RequestKey
  | .enrollment request _ => enrollment request
  | .credentialAttach request _ => attach request
  | .detach request _ _ => detach request
  | .leave request _ _ => leave request
  | .recordAdmission request _ => record request

def markerProof : MarkerProofRequest → RequestKey
  | .credentialAttach proof => attach ⟨⟨proof.conversationId, proof.participantId,
      proof.capabilityGeneration, some proof.requestedMarkerDeliverySeq⟩, proof.token⟩
  | .markerAck proof => markerAck proof

def ackNoOp : AckNoOp → RequestKey
  | .participantAck request => ack request
  | .markerAck request => markerAck request

def leaveCommitted (value : Wire.LeaveCommitted) : RequestKey :=
  leave ⟨⟨value.conversationId, value.participantId, value.presentedGeneration⟩, value.leaveAttemptToken⟩

end RequestKey

def responseKeyOf : ServerValue → RequestKey
  -- the settlement family names only a conversation: it is matched beside the keys
  | .participantTransportRejected _ | .markerSettlementBackpressure _ | .enrollmentSettlementBackpressure _ =>
    .unsolicited
  | .attemptTokenBodyConflict value => .attemptConflict value
  | .connectionConversationCapacityExceeded value => .connectionCapacity value
  | .connectionConversationBindingOccupied value => .bindingOccupied value
  | .conversationOrderExhausted value => .orderEnvelope value.request
  | .participantUnknown value => .participantReference value.request
  | .noBinding value => .bindingRequired value.request
  | .staleAuthority value => .staleAuthority value
  | .retired value => .retired value
  | .markerClosureCapacityExceeded value => .closureEnvelope value.request
  | .enrollBound value => .enrollBound value
  | .bound value | .unboundReceipt value => .receiptReplay value
  | .enrollmentKnown value => .enrollment ⟨value.conversationId, value.token⟩
  | .receiptExpired value => .receiptExpired value
  | .receiptCapacityExceeded value => .receiptCapacity value
  | .identityCapacityExceeded value => .enrollment value.request
  | .observerBackpressure value => .observerBackpressure value
  | .conversationSequenceExhausted value => .sequenceEnvelope value.request
  | .attachBound value => .attachBound value
  | .staleOrUnknownReceipt value => .attach value.request
  | .markerNotDelivered value | .markerMismatch value => .markerProof value.request
  | .detachCommitted value => .detach (committedEnvelope value)
  | .detachInProgress value => .detach (inProgressEnvelope value)
  | .ackCommitted value => .ack value.request
  | .ackNoOp value => .ackNoOp value
  | .ackGap value | .ackRegression value => .ack value.request
  | .leaveCommitted value => .leaveCommitted value
  | .markerAckCommitted value => .markerAck value.request
  | .recordCommitted value | .recordTooLarge value => .record value.request
  | .observerRecoveryAccepted _ | .invalidObserverEpoch _ | .invalidObserverEpochList _ => .observerRecovery 0

variable (value : ServerValue)

def responseKey (ambiguousAuthorization : Nat) : RequestKey := match responseKeyOf value with
  | .observerRecovery _ => .observerRecovery ambiguousAuthorization
  | other => other

def settlementMatchesRequest (request : ClientRequest) : Option Bool := match value with
  | .markerSettlementBackpressure refusal => some (match refusal, request with
    | .credentialAttach conversationId _, .credentialAttach pending =>
      conversationId = pending.conversationId
    | .detach conversationId _, .detach pending => conversationId = pending.conversationId
    | _, _ => false)
  | .enrollmentSettlementBackpressure refusal => some (match request with
    | .enrollment pending => refusal.conversationId = pending.conversationId
    | _ => false)
  | _ => none

def observerResponseMatches (expected : ObserverRecoveryHandshake) : Bool := match value with
  | .observerRecoveryAccepted response =>
    response.statuses.length = expected.observerRefusals.length ∧
      (response.statuses.zip expected.observerRefusals).all fun (actual, expected) =>
        actual.conversationId = expected.conversationId ∧ actual.refusedEpoch = expected.refusedEpoch
  | .invalidObserverEpoch response =>
    match expected.observerRefusals with
    | [expected] => match response with
      | .conversationUnknown conversationId presentedEpoch
      | .epochAhead conversationId presentedEpoch _ =>
        conversationId = expected.conversationId ∧ presentedEpoch = expected.refusedEpoch
    | _ => false
  | _ => false

def matchesRequest (request : ClientRequest) : Bool := match request with
  | .observerRecovery expected => observerResponseMatches value expected
  | request => (settlementMatchesRequest value request).getD (responseKey value 0 = RequestKey.fromRequest request 0)

def sameIdentity (request : ClientRequest) : Bool :=
  (responseKey value 0).sameIdentity (RequestKey.fromRequest request 0)

/-- The acknowledgement a value answers: acknowledgements are not held in the expected slot. -/
def participantAckRequest : ServerValue → Option ParticipantAckEnvelope
  | .ackCommitted value => some value.request
  | .ackNoOp (.participantAck request) => some request
  | .ackGap value | .ackRegression value => some value.request
  | _ => none

end Liminal.Client
