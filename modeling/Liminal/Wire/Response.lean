import Liminal.Algebra
import Liminal.Wire.Request

/-!
# Answers

Every value the server can send back. Where the source checks private fields in a constructor, the
structure carries what was checked: an enrollment starts at generation one, an attach grants the
successor generation, a fenced attach leaves the cursor at the marker, a Leave ends a binding of the
generation it retires.
-/

namespace Liminal

structure DetachCommitted where
  conversationId : ConversationId
  participantId : ParticipantId
  detachAttemptToken : DetachAttemptToken
  committedBindingEpoch : BindingEpoch
  detachedDeliverySeq : DeliverySeq
deriving DecidableEq

inductive BindingStateView
  | bound (currentBindingEpoch : BindingEpoch)
  | detached
deriving DecidableEq

structure TerminalizedDetachCell where
  conversationId : ConversationId
  participantId : ParticipantId
  capabilityGeneration : Generation
  detachAttemptToken : DetachAttemptToken
  currentGeneration : Generation
  committedBindingEpoch : BindingEpoch
  bindingState : BindingStateView
deriving DecidableEq

inductive DetachStaleAuthority
  | live (request : DetachRequest) (currentGeneration : Generation)
  | terminalizedDetachCell (cell : TerminalizedDetachCell)
deriving DecidableEq

/-- The answer to another token while a detach is pending; the stored token is not shown. -/
structure DetachInProgress where
  conversationId : ConversationId
  participantId : ParticipantId
  presentedToken : DetachAttemptToken
  presentedGeneration : Generation
  committedBindingEpoch : BindingEpoch
deriving DecidableEq

/-- A committed detach ends a binding of the generation that asked for it. -/
def DetachCommitted.capabilityGeneration (value : DetachCommitted) : Generation :=
  value.committedBindingEpoch.capabilityGeneration

namespace Wire

/-! ### Transport -/

structure ProtocolVersion where
  (major minor : Nat)
deriving DecidableEq

inductive DecodeClass
  | framing
  | unknownDiscriminant
  | canonicalEncoding
  | missingRequiredField
  | invalidField
deriving DecidableEq

inductive TransportRejectionReason
  | frameTooLarge (completeFrameBytes maxFrameBytes : Nat)
  | decodeFailed (decodeClass : DecodeClass)
  | unsupportedVersion (presentedVersion supportedVersion : ProtocolVersion)
  | authenticationFailed
  | participantCapabilityRequired
deriving DecidableEq

structure ParticipantTransportRejected where
  reason : TransportRejectionReason
deriving DecidableEq

/-! ### Refusals that echo a request -/

inductive AttemptConflict
  | generation
  | markerDeliverySequence
deriving DecidableEq

/-- The token was used before, with another body. -/
inductive AttemptTokenBodyConflict
  | credentialAttach (request : AttachEnvelope) (conflict : AttemptConflict)
  | leave (request : LeaveEnvelope)
  | recordAdmission (request : RecordAdmissionEnvelope)
deriving DecidableEq

/-- The connection is in as many conversations as it may be. -/
inductive ConnectionConversationCapacityExceeded
  | semanticRequest (request : ResponseEnvelope) (limit : Nat)
  | observerRecovery (conversationId : ConversationId) (limit : Nat)
deriving DecidableEq

/-- The connection is bound in the conversation already. -/
inductive ConnectionConversationBindingOccupied
  | enrollment (request : EnrollmentEnvelope)
  | credentialAttach (request : AttachEnvelope)
deriving DecidableEq

inductive OrderAllocatingEnvelope
  | enrollment (request : EnrollmentEnvelope)
  | credentialAttach (request : AttachEnvelope)
  | recordAdmission (request : RecordAdmissionEnvelope)
deriving DecidableEq

/-- No major is left beside the reserved claims. -/
structure ConversationOrderExhausted where
  request : OrderAllocatingEnvelope
  (high orderRemaining reservedClaims resultingOrderRemaining resultingReservedClaims : Nat)
deriving DecidableEq

inductive ParticipantReferenceEnvelope
  | credentialAttach (request : AttachEnvelope)
  | detach (request : DetachEnvelope)
  | participantAck (request : ParticipantAckEnvelope)
  | leave (request : LeaveEnvelope)
  | markerAck (request : MarkerAckEnvelope)
  | recordAdmission (request : RecordAdmissionEnvelope)
deriving DecidableEq

inductive BindingRequiredEnvelope
  | detach (request : DetachEnvelope)
  | participantAck (request : ParticipantAckEnvelope)
  | leave (request : LeaveEnvelope)
  | markerAck (request : MarkerAckEnvelope)
  | recordAdmission (request : RecordAdmissionEnvelope)
deriving DecidableEq

structure ParticipantUnknown where
  request : ParticipantReferenceEnvelope
deriving DecidableEq

/-- Not asked through the current binding. -/
structure NoBinding where
  request : BindingRequiredEnvelope
deriving DecidableEq

inductive LeaveStaleAuthority
  | live (request : LeaveEnvelope) (currentGeneration : Generation)
  | committedLeaveTombstone (request : LeaveEnvelope) (retiredGeneration : Generation)
deriving DecidableEq

inductive CommonStaleAuthorityEnvelope
  | credentialAttach (request : AttachEnvelope)
  | participantAck (request : ParticipantAckEnvelope)
  | markerAck (request : MarkerAckEnvelope)
  | recordAdmission (request : RecordAdmissionEnvelope)
deriving DecidableEq

/-- The generation or the secret is not the current one. -/
inductive StaleAuthority
  | live (request : CommonStaleAuthorityEnvelope) (currentGeneration : Generation)
  | detach (stale : DetachStaleAuthority)
  | leave (stale : LeaveStaleAuthority)
deriving DecidableEq

/-- The identity has left. -/
inductive Retired
  | enrollment (request : EnrollmentEnvelope) (participantId : ParticipantId) (retiredGeneration : Generation)
  | participant (request : ParticipantReferenceEnvelope) (retiredGeneration : Generation)
deriving DecidableEq

/-! ### Closure capacity -/

structure ParticipantCursorProgressEdge where
  participantId : ParticipantId
  bindingEpoch : BindingEpoch
  throughSeq : DeliverySeq
  markerDeliverySeq : Option DeliverySeq
deriving DecidableEq

/-- How a closure debt is to be paid back. -/
inductive RepaymentEdge
  | none
  | observerProjection (throughSeq : DeliverySeq)
  | physicalCompaction (fromFloor throughSeq : DeliverySeq)
  | markerDelivery (participantId : ParticipantId) (bindingEpoch : BindingEpoch) (markerDeliverySeq : DeliverySeq)
  | participantCursorProgress (edge : ParticipantCursorProgressEdge)
  | detachedCredentialRecovery (participantId : ParticipantId) (markerDeliverySeq : DeliverySeq)
      (priorBindingEpoch : BindingEpoch)
  | detachedMarkerRelease (participantId : ParticipantId) (markerDeliverySeq : DeliverySeq)
      (lastDeadBindingEpoch : BindingEpoch)
  | detachedCursorRelease (participantId : ParticipantId) (lastDeadBindingEpoch : BindingEpoch)
deriving DecidableEq

inductive ClosureCheckedEnvelope
  | enrollment (request : EnrollmentEnvelope)
  | credentialAttach (request : AttachEnvelope)
  | leave (request : LeaveEnvelope)
  | recordAdmission (request : RecordAdmissionEnvelope)
deriving DecidableEq

structure ClosureSnapshot where
  (markerCapacityCredits markerAnchors entryDebt : Nat)
  byteDebt : Nat
  repaymentEdge : RepaymentEdge
  (edgeSequenceClaims edgeOrderPositionClaims : Nat)
  edgeKRemaining : ResourceVector
  kHeadroom : WideResourceVector
  (episodeChurnUsed deltaCycles episodeChurnLimit : Nat)
deriving DecidableEq

inductive ClosureRefusalReason
  | capacity (dimension : ResourceDimension) (required limit : Nat)
  | recoveryFence
  | deliveredMarkerAwaitingAck
  | episodeChurnLimit
deriving DecidableEq

structure MarkerClosureCapacityExceeded where
  request : ClosureCheckedEnvelope
  snapshot : ClosureSnapshot
  reason : ClosureRefusalReason
deriving DecidableEq

/-! ### Enrollment and attach receipts -/

/-- The receipt of an enrollment, at generation one. -/
structure EnrollBound where
  conversationId : ConversationId
  token : EnrollmentToken
  participantId : ParticipantId
  attachSecret : AttachSecret
  originBindingEpoch : BindingEpoch
  (receiptExpiresAt provenanceExpiresAt : Nat)
  first : originBindingEpoch.capabilityGeneration = 1
deriving DecidableEq

def EnrollBound.capabilityGeneration (receipt : EnrollBound) : Generation :=
  receipt.originBindingEpoch.capabilityGeneration

/-- An ordinary receipt accepts no marker; a fenced one leaves the cursor at the marker it accepts. -/
structure AttachBound where
  conversationId : ConversationId
  token : AttachAttemptToken
  participantId : ParticipantId
  requestGeneration : Generation
  attachSecret : AttachSecret
  originBindingEpoch : BindingEpoch
  persistedCursor : DeliverySeq
  acceptedMarkerDeliverySeq : Option DeliverySeq
  (receiptExpiresAt provenanceExpiresAt : Nat)
  successor : originBindingEpoch.capabilityGeneration = requestGeneration + 1
  fenced : ∀ marker ∈ acceptedMarkerDeliverySeq, persistedCursor = marker
deriving DecidableEq

def AttachBound.capabilityGeneration (receipt : AttachBound) : Generation :=
  receipt.originBindingEpoch.capabilityGeneration

inductive ReceiptReplay
  | enrollment (receipt : EnrollBound)
  | credentialAttach (receipt : AttachBound)
deriving DecidableEq

/-- Of the token only the identity is known. -/
structure EnrollmentKnown where
  conversationId : ConversationId
  token : EnrollmentToken
  participantId : ParticipantId
  currentGeneration : Generation
deriving DecidableEq

inductive ReceiptExpiryReason
  | deadline
  | superseded
deriving DecidableEq

/-- The receipt is gone, its provenance is not. -/
inductive ReceiptExpired
  | enrollment (request : EnrollmentEnvelope) (participantId : ParticipantId)
      (resultGeneration currentGeneration : Generation) (reason : ReceiptExpiryReason)
  | credentialAttach (request : AttachEnvelope) (resultGeneration currentGeneration : Generation)
      (reason : ReceiptExpiryReason)
deriving DecidableEq

structure StaleOrUnknownReceipt where
  request : AttachEnvelope
  currentGeneration : Generation
deriving DecidableEq

/-! ### Capacity and backpressure -/

/-- An enrollment has no participant to count for. -/
inductive EnrollmentReceiptCapacityScope
  | liveReceiptServer
  | provenanceServer
  | provenanceConversation
deriving DecidableEq

inductive ReceiptCapacityScope
  | liveReceiptServer
  | liveReceiptParticipant
  | provenanceServer
  | provenanceConversation
  | provenanceParticipant
deriving DecidableEq

inductive ReceiptCapacityExceeded
  | enrollment (request : EnrollmentEnvelope) (scope : EnrollmentReceiptCapacityScope) (limit occupied : Nat)
  | credentialAttach (request : AttachEnvelope) (scope : ReceiptCapacityScope) (limit occupied : Nat)
deriving DecidableEq

inductive IdentityCapacityScope
  | server
  | conversation
deriving DecidableEq

structure IdentityCapacityExceeded where
  request : EnrollmentEnvelope
  scope : IdentityCapacityScope
  (limit occupied : Nat)
deriving DecidableEq

/-- A backpressure is refused at the observer progress it reports. -/
structure ObserverBackpressureState where
  backpressureEpoch : ObserverEpoch
  observerProgress : DeliverySeq
  current : backpressureEpoch = observerProgress
deriving DecidableEq

inductive ObserverBackpressure
  | enrollment (request : EnrollmentEnvelope) (state : ObserverBackpressureState)
  | credentialAttach (request : AttachEnvelope) (state : ObserverBackpressureState)
  | detach (request : DetachEnvelope) (committedBindingEpoch : BindingEpoch) (state : ObserverBackpressureState)
  | leave (request : LeaveEnvelope) (state : ObserverBackpressureState) (priorTerminalCellExists : Bool)
  | recordAdmission (request : RecordAdmissionEnvelope) (state : ObserverBackpressureState)
deriving DecidableEq

/-- Echoes only the conversation: the family of the refused request is the constructor. -/
inductive MarkerSettlementBackpressure
  | credentialAttach (conversationId : ConversationId) (refusedEpoch : SettlementEpoch)
  | detach (conversationId : ConversationId) (refusedEpoch : SettlementEpoch)
deriving DecidableEq

structure EnrollmentSettlementBackpressure where
  conversationId : ConversationId
deriving DecidableEq

inductive SequenceAllocatingEnvelope
  | enrollment (request : EnrollmentEnvelope)
  | credentialAttach (request : AttachEnvelope)
  | recordAdmission (request : RecordAdmissionEnvelope)
deriving DecidableEq

/-- What is reserved above the high watermark, by kind of claim. -/
structure SequenceBudget where
  (highWatermark remaining e t m rs rt lTimesT lTimesRt lOtherTimesE : Nat)
deriving DecidableEq

structure ConversationSequenceExhausted where
  request : SequenceAllocatingEnvelope
  sequenceBudget : SequenceBudget
deriving DecidableEq

/-! ### Markers, acknowledgements, Leave, records -/

structure AttachMarkerProof where
  conversationId : ConversationId
  token : AttachAttemptToken
  participantId : ParticipantId
  capabilityGeneration : Generation
  requestedMarkerDeliverySeq : DeliverySeq
deriving DecidableEq

/-- The two requests that prove the delivery of a marker. -/
inductive MarkerProofRequest
  | credentialAttach (proof : AttachMarkerProof)
  | markerAck (proof : MarkerAckEnvelope)
deriving DecidableEq

inductive MarkerNotDeliveredReason
  | notDeliveredToProofEpoch
deriving DecidableEq

structure MarkerNotDelivered where
  request : MarkerProofRequest
  reason : MarkerNotDeliveredReason
  expectedMarkerDeliverySeq : DeliverySeq
deriving DecidableEq

inductive MarkerMismatchBody
  | belowCursor (currentCursor : DeliverySeq)
  | noMarkerExpected
  | expectedDifferentMarker (expectedMarkerDeliverySeq : DeliverySeq)
deriving DecidableEq

structure MarkerMismatch where
  request : MarkerProofRequest
  mismatch : MarkerMismatchBody
deriving DecidableEq

structure AckCommitted where
  request : ParticipantAckEnvelope
deriving DecidableEq

inductive AckNoOp
  | participantAck (request : ParticipantAckEnvelope)
  | markerAck (request : MarkerAckEnvelope)
deriving DecidableEq

/-- The position cannot be acknowledged yet. -/
structure AckGap where
  request : ParticipantAckEnvelope
  currentCursor : DeliverySeq
  ahead : currentCursor < request.throughSeq
deriving DecidableEq

/-- The position is behind the cursor. -/
structure AckRegression where
  request : ParticipantAckEnvelope
  currentCursor : DeliverySeq
  behind : request.throughSeq < currentCursor
deriving DecidableEq

structure LeaveCommitted where
  conversationId : ConversationId
  leaveAttemptToken : LeaveAttemptToken
  participantId : ParticipantId
  retiredGeneration : Generation
  endedBindingEpoch : Option BindingEpoch
  priorTerminalDeliverySeq : Option DeliverySeq
  leftDeliverySeq : DeliverySeq
  ended : ∀ epoch ∈ endedBindingEpoch, epoch.capabilityGeneration = retiredGeneration
  prior : ∀ seq ∈ priorTerminalDeliverySeq, seq < leftDeliverySeq
deriving DecidableEq

def LeaveCommitted.presentedGeneration (value : LeaveCommitted) : Generation :=
  value.retiredGeneration

structure MarkerAckCommitted where
  request : MarkerAckEnvelope
deriving DecidableEq

structure RecordCommitted where
  request : RecordAdmissionEnvelope
  deliverySeq : DeliverySeq
deriving DecidableEq

structure RecordTooLarge where
  request : RecordAdmissionEnvelope
  dimension : ResourceDimension
  (encodedRecordCharge maxOrdinaryRecordCharge : ResourceVector)
deriving DecidableEq

/-! ### Observer recovery -/

structure ObserverProgressStatus where
  conversationId : ConversationId
  refusedEpoch : ObserverEpoch
  currentObserverProgress : DeliverySeq
  (armed progressed : Bool)
deriving DecidableEq

structure ObserverRecoveryAccepted where
  statuses : List ObserverProgressStatus
deriving DecidableEq

inductive InvalidObserverEpoch
  | conversationUnknown (conversationId : ConversationId) (presentedEpoch : ObserverEpoch)
  | epochAhead (conversationId : ConversationId) (presentedEpoch : ObserverEpoch)
      (currentObserverProgress : DeliverySeq)
deriving DecidableEq

inductive InvalidObserverEpochList
  | tooManyEntries (presentedEntries maxEntries : Nat)
  | duplicateConversation (conversationId : ConversationId) (firstIndex duplicateIndex : Nat)
deriving DecidableEq

/-! ### Server values -/

inductive ServerValue
  | participantTransportRejected (value : ParticipantTransportRejected)
  | attemptTokenBodyConflict (value : AttemptTokenBodyConflict)
  | connectionConversationCapacityExceeded (value : ConnectionConversationCapacityExceeded)
  | connectionConversationBindingOccupied (value : ConnectionConversationBindingOccupied)
  | conversationOrderExhausted (value : ConversationOrderExhausted)
  | participantUnknown (value : ParticipantUnknown)
  | noBinding (value : NoBinding)
  | staleAuthority (value : StaleAuthority)
  | retired (value : Retired)
  | markerClosureCapacityExceeded (value : MarkerClosureCapacityExceeded)
  | enrollBound (value : EnrollBound)
  | enrollmentKnown (value : EnrollmentKnown)
  | receiptExpired (value : ReceiptExpired)
  | receiptCapacityExceeded (value : ReceiptCapacityExceeded)
  | identityCapacityExceeded (value : IdentityCapacityExceeded)
  | observerBackpressure (value : ObserverBackpressure)
  | conversationSequenceExhausted (value : ConversationSequenceExhausted)
  | attachBound (value : AttachBound)
  | staleOrUnknownReceipt (value : StaleOrUnknownReceipt)
  | markerNotDelivered (value : MarkerNotDelivered)
  | markerMismatch (value : MarkerMismatch)
  | bound (value : ReceiptReplay)
  | unboundReceipt (value : ReceiptReplay)
  | detachCommitted (value : DetachCommitted)
  | detachInProgress (value : DetachInProgress)
  | ackCommitted (value : AckCommitted)
  | ackNoOp (value : AckNoOp)
  | ackGap (value : AckGap)
  | ackRegression (value : AckRegression)
  | leaveCommitted (value : LeaveCommitted)
  | markerAckCommitted (value : MarkerAckCommitted)
  | recordCommitted (value : RecordCommitted)
  | recordTooLarge (value : RecordTooLarge)
  | observerRecoveryAccepted (value : ObserverRecoveryAccepted)
  | invalidObserverEpoch (value : InvalidObserverEpoch)
  | invalidObserverEpochList (value : InvalidObserverEpochList)
  | markerSettlementBackpressure (value : MarkerSettlementBackpressure)
  | enrollmentSettlementBackpressure (value : EnrollmentSettlementBackpressure)
deriving DecidableEq

/-! ### The request an answer belongs to -/

/-- The narrower envelopes are response envelopes, and are written and matched as such. -/
def ParticipantReferenceEnvelope.toResponse : ParticipantReferenceEnvelope → ResponseEnvelope
  | .credentialAttach request => .credentialAttach request
  | .detach request => .detach request
  | .participantAck request => .participantAck request
  | .leave request => .leave request
  | .markerAck request => .markerAck request
  | .recordAdmission request => .recordAdmission request

def ParticipantReferenceEnvelope.origin (request : ParticipantReferenceEnvelope) : ClientDiscriminant :=
  request.toResponse.originatingRequest

def BindingRequiredEnvelope.toResponse : BindingRequiredEnvelope → ResponseEnvelope
  | .detach request => .detach request
  | .participantAck request => .participantAck request
  | .leave request => .leave request
  | .markerAck request => .markerAck request
  | .recordAdmission request => .recordAdmission request

def BindingRequiredEnvelope.origin (request : BindingRequiredEnvelope) : ClientDiscriminant :=
  request.toResponse.originatingRequest

def OrderAllocatingEnvelope.toResponse : OrderAllocatingEnvelope → ResponseEnvelope
  | .enrollment request => .enrollment request
  | .credentialAttach request => .credentialAttach request
  | .recordAdmission request => .recordAdmission request

def OrderAllocatingEnvelope.origin (request : OrderAllocatingEnvelope) : ClientDiscriminant :=
  request.toResponse.originatingRequest

def ClosureCheckedEnvelope.toResponse : ClosureCheckedEnvelope → ResponseEnvelope
  | .enrollment request => .enrollment request
  | .credentialAttach request => .credentialAttach request
  | .leave request => .leave request
  | .recordAdmission request => .recordAdmission request

def ClosureCheckedEnvelope.origin (request : ClosureCheckedEnvelope) : ClientDiscriminant :=
  request.toResponse.originatingRequest

def SequenceAllocatingEnvelope.toResponse : SequenceAllocatingEnvelope → ResponseEnvelope
  | .enrollment request => .enrollment request
  | .credentialAttach request => .credentialAttach request
  | .recordAdmission request => .recordAdmission request

def SequenceAllocatingEnvelope.origin (request : SequenceAllocatingEnvelope) : ClientDiscriminant :=
  request.toResponse.originatingRequest

def StaleAuthority.origin : StaleAuthority → ClientDiscriminant
  | .live (.credentialAttach _) _ => .credentialAttachRequest
  | .live (.participantAck _) _ => .participantAck
  | .live (.markerAck _) _ => .markerAck
  | .live (.recordAdmission _) _ => .recordAdmission
  | .detach _ => .detachRequest
  | .leave _ => .leaveRequest

def MarkerProofRequest.origin : MarkerProofRequest → ClientDiscriminant
  | .credentialAttach _ => .credentialAttachRequest
  | .markerAck _ => .markerAck

def ReceiptReplay.origin : ReceiptReplay → ClientDiscriminant
  | .enrollment _ => .enrollmentRequest
  | .credentialAttach _ => .credentialAttachRequest

/-- The answers grouped by the request they belong to. -/
def ServerValue.originatingRequest : ServerValue → Option ClientDiscriminant
  | .participantTransportRejected _ | .connectionConversationCapacityExceeded (.observerRecovery ..)
  | .observerRecoveryAccepted _ | .invalidObserverEpoch _ | .invalidObserverEpochList _ => none
  | .connectionConversationCapacityExceeded (.semanticRequest request _) => some request.originatingRequest
  | .conversationOrderExhausted value | .participantUnknown value | .noBinding value
  | .markerClosureCapacityExceeded value | .conversationSequenceExhausted value
  | .markerNotDelivered value | .markerMismatch value => some value.request.origin
  | .staleAuthority value | .bound value | .unboundReceipt value => some value.origin
  | .retired (.participant request _) => some request.origin
  | .connectionConversationBindingOccupied (.enrollment _) | .retired (.enrollment ..)
  | .enrollBound _ | .enrollmentKnown _ | .identityCapacityExceeded _ | .enrollmentSettlementBackpressure _
  | .receiptExpired (.enrollment ..) | .receiptCapacityExceeded (.enrollment ..)
  | .observerBackpressure (.enrollment ..) => some .enrollmentRequest
  | .attemptTokenBodyConflict (.credentialAttach ..) | .connectionConversationBindingOccupied (.credentialAttach _)
  | .receiptExpired (.credentialAttach ..) | .receiptCapacityExceeded (.credentialAttach ..)
  | .observerBackpressure (.credentialAttach ..) | .markerSettlementBackpressure (.credentialAttach ..)
  | .attachBound _ | .staleOrUnknownReceipt _ => some .credentialAttachRequest
  | .observerBackpressure (.detach ..) | .markerSettlementBackpressure (.detach ..)
  | .detachCommitted _ | .detachInProgress _ => some .detachRequest
  | .ackCommitted _ | .ackGap _ | .ackRegression _ | .ackNoOp (.participantAck _) => some .participantAck
  | .attemptTokenBodyConflict (.leave _) | .observerBackpressure (.leave ..) | .leaveCommitted _ =>
    some .leaveRequest
  | .ackNoOp (.markerAck _) | .markerAckCommitted _ => some .markerAck
  | .attemptTokenBodyConflict (.recordAdmission _) | .observerBackpressure (.recordAdmission ..)
  | .recordCommitted _ | .recordTooLarge _ => some .recordAdmission

end Wire

end Liminal
