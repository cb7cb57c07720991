import Liminal.Wire.Envelopes

/-!
# Answers on the wire

The body of an answer starts with the discriminant of its request, where there is one. Redundant
fields (a repeated participant, a cursor that is the acknowledged position, a count of one) are
written from the value and compared when read. A failed comparison marks the body; only where the
source cannot go on with a value, it stops at once.
-/

namespace Liminal.Wire

open Codec Checked Get TransportReasonTag

/-! ### Writing: echoed requests -/

def putResponseEnvelope : ResponseEnvelope → WirePut
  | .enrollment value => putEnrollment value
  | .credentialAttach value => putAttach value
  | .detach value => putDetach value
  | .participantAck value => putParticipantAck value
  | .leave value => putLeave value
  | .markerAck value => putMarkerAck value
  | .recordAdmission value => putRecordAdmission value

def putParticipantReference (value : ParticipantReferenceEnvelope) : WirePut := putResponseEnvelope value.toResponse

def putBindingRequired (value : BindingRequiredEnvelope) : WirePut := putResponseEnvelope value.toResponse

def putOrderAllocating (value : OrderAllocatingEnvelope) : WirePut := putResponseEnvelope value.toResponse

def putClosureChecked (value : ClosureCheckedEnvelope) : WirePut := putResponseEnvelope value.toResponse

def putSequenceAllocating (value : SequenceAllocatingEnvelope) : WirePut := putResponseEnvelope value.toResponse

def putMarkerProof : MarkerProofRequest → WirePut
  | .credentialAttach value => .seq [putU64 value.conversationId, putToken value.token,
      putU64 value.participantId, putGeneration value.capabilityGeneration, putU64 value.requestedMarkerDeliverySeq]
  | .markerAck value => .seq [putU64 value.conversationId, putU64 value.participantId,
      putGeneration value.capabilityGeneration, putU64 value.markerDeliverySeq]

/-! ### Writing: closure, budget, receipts -/

def putRepaymentEdgeBody : RepaymentEdge → WirePut
  | .none => .seq []
  | .observerProjection throughSeq => .seq [putU64 throughSeq]
  | .physicalCompaction fromFloor throughSeq => .seq [putU64 fromFloor, putU64 throughSeq]
  | .markerDelivery participantId bindingEpoch markerDeliverySeq =>
    .seq [putU64 participantId, putBindingEpoch bindingEpoch, putU64 markerDeliverySeq]
  | .participantCursorProgress edge => .seq [putU64 edge.participantId,
      putBindingEpoch edge.bindingEpoch, putU64 edge.throughSeq, putOption putU64 edge.markerDeliverySeq]
  | .detachedCredentialRecovery participantId markerDeliverySeq priorBindingEpoch =>
    .seq [putU64 participantId, putU64 markerDeliverySeq, putBindingEpoch priorBindingEpoch]
  | .detachedMarkerRelease participantId markerDeliverySeq lastDeadBindingEpoch =>
    .seq [putU64 participantId, putU64 markerDeliverySeq, putBindingEpoch lastDeadBindingEpoch]
  | .detachedCursorRelease participantId lastDeadBindingEpoch =>
    .seq [putU64 participantId, putBindingEpoch lastDeadBindingEpoch]

def putRepaymentEdge (value : RepaymentEdge) : WirePut :=
  .seq [putTag value.tag, putRepaymentEdgeBody value]

def putClosureSnapshot (value : ClosureSnapshot) : WirePut :=
  .seq [putU64 value.markerCapacityCredits, putU64 value.markerAnchors, putU64 value.entryDebt, putU64 value.byteDebt,
    putRepaymentEdge value.repaymentEdge, putU64 value.edgeSequenceClaims, putU64 value.edgeOrderPositionClaims,
    putResourceVector value.edgeKRemaining, putWideResourceVector value.kHeadroom, putU64 value.episodeChurnUsed,
    putU64 value.deltaCycles, putU64 value.episodeChurnLimit]

def putSequenceBudget (value : SequenceBudget) : WirePut :=
  .seq [putU64 value.highWatermark, putU64 value.remaining, putU64 value.e, putU64 value.t, putU64 value.m,
    putU64 value.rs, putU64 value.rt, putU128 value.lTimesT, putU128 value.lTimesRt, putU128 value.lOtherTimesE]

/-- An enrollment was asked without a generation and starts at cursor zero without a marker. -/
def putEnrollBound (value : EnrollBound) : WirePut :=
  .seq [putU64 value.conversationId, putToken value.token, putU64 value.participantId, putOption putGeneration none,
    putGeneration value.capabilityGeneration, putSecret value.attachSecret, putBindingEpoch value.originBindingEpoch,
    putU64 0, putOption putU64 none, putU128 value.receiptExpiresAt, putU128 value.provenanceExpiresAt]

def putAttachBound (value : AttachBound) : WirePut :=
  .seq [putU64 value.conversationId, putToken value.token, putU64 value.participantId, putOption putGeneration
    (some value.requestGeneration), putGeneration value.capabilityGeneration, putSecret value.attachSecret,
    putBindingEpoch value.originBindingEpoch, putU64 value.persistedCursor,
    putOption putU64 value.acceptedMarkerDeliverySeq, putU128 value.receiptExpiresAt, putU128 value.provenanceExpiresAt]

def putReceiptReplay : ReceiptReplay → WirePut
  | .enrollment value => putEnrollBound value
  | .credentialAttach value => putAttachBound value

def putReceiptExpired : ReceiptExpired → WirePut
  | .enrollment request participantId resultGeneration currentGeneration reason =>
    .seq [putU64 request.conversationId, putToken request.enrollmentToken, putU64 participantId,
      putOption putGeneration none, putGeneration resultGeneration, putGeneration currentGeneration, putTag reason]
  | .credentialAttach request resultGeneration currentGeneration reason =>
    .seq [putU64 request.conversationId, putToken request.attachAttemptToken, putU64 request.participantId,
      putOption putGeneration (some request.capabilityGeneration), putOption putU64 request.acceptMarkerDeliverySeq,
      putGeneration resultGeneration, putGeneration currentGeneration, putTag reason]

def requestedReceipts : Nat := 1

def putReceiptCapacity : ReceiptCapacityExceeded → WirePut
  | .enrollment request scope limit occupied => .seq [putEnrollment request,
      putTag scope.wireScope, putU64 limit, putU64 occupied, putU64 requestedReceipts]
  | .credentialAttach request scope limit occupied => .seq [putAttach request, putTag scope,
      putU64 limit, putU64 occupied, putU64 requestedReceipts]

def putBackpressureState (value : ObserverBackpressureState) : WirePut :=
  .seq [putU64 value.backpressureEpoch, putU64 value.observerProgress]

def putObserverBackpressure : ObserverBackpressure → WirePut
  | .enrollment request state => .seq [putEnrollment request, putBackpressureState state]
  | .credentialAttach request state => .seq [putAttach request, putBackpressureState state]
  | .detach request committedBindingEpoch state => .seq [putDetach request,
      putBindingEpoch committedBindingEpoch, putBackpressureState state]
  | .leave request state priorTerminalCellExists => .seq [putLeave request,
      putBackpressureState state, putBool priorTerminalCellExists]
  | .recordAdmission request state =>
    .seq [putRecordAdmission request, putBackpressureState state]

/-! ### Writing: authority -/

def putBindingStateView : BindingStateView → WirePut
  | .bound currentBindingEpoch =>
    .seq [putTag BindingStateTag.bound, putBindingEpoch currentBindingEpoch]
  | .detached => .seq [putTag BindingStateTag.detached]

def putTerminalizedDetachCell (value : TerminalizedDetachCell) : WirePut :=
  .seq [putU64 value.conversationId, putU64 value.participantId, putGeneration value.capabilityGeneration,
    putToken value.detachAttemptToken, putGeneration value.currentGeneration,
    putBindingEpoch value.committedBindingEpoch, putBindingStateView value.bindingState]

def putStaleAuthority : StaleAuthority → WirePut
  | .live (.credentialAttach value) currentGeneration =>
    .seq [putAttach value, putGeneration currentGeneration]
  | .live (.participantAck value) currentGeneration =>
    .seq [putParticipantAck value, putGeneration currentGeneration]
  | .live (.markerAck value) currentGeneration =>
    .seq [putMarkerAck value, putGeneration currentGeneration]
  | .live (.recordAdmission value) currentGeneration =>
    .seq [putRecordAdmission value, putGeneration currentGeneration]
  | .detach (.live request currentGeneration) =>
    .seq [putTag DetachAuthorityStateTag.live, putDetach request, putGeneration currentGeneration]
  | .detach (.terminalizedDetachCell cell) =>
    .seq [putTag DetachAuthorityStateTag.terminalizedDetachCell, putTerminalizedDetachCell cell]
  | .leave (.live request currentGeneration) =>
    .seq [putTag LeaveAuthorityStateTag.live, putLeave request, putGeneration currentGeneration]
  | .leave (.committedLeaveTombstone request retiredGeneration) =>
    .seq [putTag LeaveAuthorityStateTag.committedLeaveTombstone, putLeave request, putGeneration retiredGeneration]

/-! ### Writing: the suffix -/

def participantCapability : Bytes :=
  "participant-v1".toList.map fun character => UInt8.ofNat character.toNat

def putTransportRejection : TransportRejectionReason → WirePut
  | .frameTooLarge completeFrameBytes maxFrameBytes =>
    .seq [putTag frameTooLarge, putU64 completeFrameBytes, putU64 maxFrameBytes]
  | .decodeFailed decodeClass =>
    .seq [putTag decodeFailed, putTag decodeClass]
  | .unsupportedVersion presentedVersion supportedVersion =>
    .seq [putTag unsupportedVersion, putProtocolVersion presentedVersion, putProtocolVersion supportedVersion]
  | .authenticationFailed => .seq [putTag authenticationFailed]
  | .participantCapabilityRequired =>
    .seq [putTag participantCapabilityRequired, putBytes participantCapability]

def putAttemptTokenBodyConflict : AttemptTokenBodyConflict → WirePut
  | .credentialAttach request conflict => .seq [putToken request.attachAttemptToken,
      putTag AttemptOperation.credentialAttachRequest, putU64 request.conversationId, putU64 request.participantId,
      putGeneration request.capabilityGeneration, putOption putU64 request.acceptMarkerDeliverySeq, putTag conflict]
  | .leave request => .seq [putToken request.leaveAttemptToken,
      putTag AttemptOperation.leaveRequest, putU64 request.conversationId,
      putU64 request.participantId, putGeneration request.capabilityGeneration, putTag AttemptConflict.generation]
  | .recordAdmission request => .seq [putToken request.recordAdmissionAttemptToken,
      putTag AttemptOperation.recordAdmission, putU64 request.conversationId,
      putU64 request.participantId, putGeneration request.capabilityGeneration]

def requiredMajors : Nat := 1

def ConversationOrderExhausted.nextValue (value : ConversationOrderExhausted) : Option Nat :=
  add u64Max value.high 1

def putClosureRefusalReason : ClosureRefusalReason → WirePut
  | .capacity dimension required limit => .seq [putTag dimension, putU128 required, putU128 limit]
  | _ => .seq []

def putMarkerMismatchBody : MarkerMismatchBody → WirePut
  | .belowCursor currentCursor => .seq [putU64 currentCursor]
  | .noMarkerExpected => .seq []
  | .expectedDifferentMarker expectedMarkerDeliverySeq => .seq [putU64 expectedMarkerDeliverySeq]

def putObserverProgressStatus (status : ObserverProgressStatus) : WirePut :=
  .seq [putU64 status.conversationId, putU64 status.refusedEpoch,
    putU64 status.currentObserverProgress, putBool status.armed, putBool status.progressed]

/-- What follows the discriminant of the request. -/
def encodeServerSuffix : ServerValue → WirePut
  | .participantTransportRejected value => putTransportRejection value.reason
  | .attemptTokenBodyConflict value => putAttemptTokenBodyConflict value
  | .connectionConversationCapacityExceeded (.semanticRequest request limit) =>
    .seq [putResponseEnvelope request, putU64 limit]
  | .connectionConversationCapacityExceeded (.observerRecovery conversationId limit) =>
    .seq [putU64 0, putU64 conversationId, putU64 limit]
  | .connectionConversationBindingOccupied (.enrollment request) =>
    .seq [putEnrollment request, putOption putU64 none]
  | .connectionConversationBindingOccupied (.credentialAttach request) =>
    .seq [putAttach request, putOption putU64 (some request.participantId)]
  | .conversationOrderExhausted value => .seq [putOrderAllocating value.request, putTag Counter.transactionOrder,
      putU64 value.high, putOption putU64 value.nextValue, putU128 value.orderRemaining, putU128 value.reservedClaims,
      putU64 requiredMajors, putU128 value.resultingOrderRemaining, putU128 value.resultingReservedClaims]
  | .participantUnknown value => putParticipantReference value.request
  | .noBinding value => putBindingRequired value.request
  | .staleAuthority value => putStaleAuthority value
  | .retired (.enrollment request participantId retiredGeneration) =>
    .seq [putEnrollment request, putU64 participantId, putGeneration retiredGeneration]
  | .retired (.participant request retiredGeneration) =>
    .seq [putParticipantReference request, putGeneration retiredGeneration]
  | .markerClosureCapacityExceeded value => .seq [putClosureChecked value.request,
      putTag value.reason.scope, putClosureSnapshot value.snapshot, putClosureRefusalReason value.reason]
  | .enrollBound value => putEnrollBound value
  | .enrollmentKnown value => .seq [putU64 value.conversationId, putToken value.token,
      putU64 value.participantId, putGeneration value.currentGeneration]
  | .receiptExpired value => putReceiptExpired value
  | .receiptCapacityExceeded value => putReceiptCapacity value
  | .identityCapacityExceeded value => .seq [putEnrollment value.request, putTag value.scope,
      putU64 value.limit, putU64 value.occupied, putU64 requestedReceipts]
  | .observerBackpressure value => putObserverBackpressure value
  | .conversationSequenceExhausted value => .seq [putSequenceAllocating value.request,
      putSequenceBudget value.sequenceBudget]
  | .attachBound value => putAttachBound value
  | .staleOrUnknownReceipt value => .seq [putU64 value.request.conversationId,
      putToken value.request.attachAttemptToken, putU64 value.request.participantId,
      putGeneration value.request.capabilityGeneration,
      putOption putU64 value.request.acceptMarkerDeliverySeq, putGeneration value.currentGeneration]
  | .markerNotDelivered value => .seq [putMarkerProof value.request, putTag value.reason,
      putU64 value.expectedMarkerDeliverySeq]
  | .markerMismatch value => .seq [putMarkerProof value.request, putTag value.mismatch.reason,
      putMarkerMismatchBody value.mismatch]
  | .bound value | .unboundReceipt value => putReceiptReplay value
  | .detachCommitted value => .seq [putU64 value.conversationId, putU64 value.participantId,
      putGeneration value.capabilityGeneration, putToken value.detachAttemptToken,
      putBindingEpoch value.committedBindingEpoch, putU64 value.detachedDeliverySeq]
  | .detachInProgress value => .seq [putU64 value.conversationId, putU64 value.participantId,
      putToken value.presentedToken, putGeneration value.presentedGeneration,
      putBindingEpoch value.committedBindingEpoch]
  | .ackCommitted value => .seq [putParticipantAck value.request, putU64 value.request.throughSeq]
  | .ackNoOp (.participantAck request) =>
    .seq [putParticipantAck request, putU64 request.throughSeq]
  | .ackNoOp (.markerAck request) => .seq [putMarkerAck request, putU64 request.markerDeliverySeq]
  | .ackGap value => .seq [putParticipantAck value.request, putU64 value.currentCursor,
      putTag AckGapReason.notContiguouslyAvailable]
  | .ackRegression value => .seq [putParticipantAck value.request, putU64 value.currentCursor,
      putTag AckRegressionReason.belowCursor]
  | .leaveCommitted value => .seq [putU64 value.conversationId, putToken value.leaveAttemptToken,
      putU64 value.participantId, putGeneration value.presentedGeneration,
      putGeneration value.retiredGeneration, putOption putBindingEpoch value.endedBindingEpoch,
      putOption putU64 value.priorTerminalDeliverySeq, putU64 value.leftDeliverySeq]
  | .markerAckCommitted value => .seq [putMarkerAck value.request, putU64 value.request.markerDeliverySeq]
  | .recordCommitted value => .seq [putRecordAdmission value.request,
      putU64 value.request.participantId, putU64 value.deliverySeq]
  | .recordTooLarge value => .seq [putRecordAdmission value.request, putTag value.dimension,
      putResourceVector value.encodedRecordCharge, putResourceVector value.maxOrdinaryRecordCharge]
  | .observerRecoveryAccepted value => .seq [putU64 value.statuses.length,
      .seq (value.statuses.map putObserverProgressStatus)]
  | .invalidObserverEpoch (.conversationUnknown conversationId presentedEpoch) =>
    .seq [putU64 0, putTag InvalidObserverEpochReason.conversationUnknown, putU64 conversationId,
      putU64 presentedEpoch, putOption putU64 none]
  | .invalidObserverEpoch (.epochAhead conversationId presentedEpoch currentObserverProgress) =>
    .seq [putU64 0, putTag InvalidObserverEpochReason.epochAhead, putU64 conversationId,
      putU64 presentedEpoch, putOption putU64 (some currentObserverProgress)]
  | .invalidObserverEpochList (.tooManyEntries presentedEntries maxEntries) =>
    .seq [putU64 0, putTag InvalidObserverEpochListReason.tooManyEntries, putU64 presentedEntries, putU64 maxEntries]
  | .invalidObserverEpochList (.duplicateConversation conversationId firstIndex duplicateIndex) =>
    .seq [putU64 0, putTag InvalidObserverEpochListReason.duplicateConversation,
      putU64 conversationId, putU64 firstIndex, putU64 duplicateIndex]
  | .markerSettlementBackpressure (.credentialAttach conversationId refusedEpoch)
  | .markerSettlementBackpressure (.detach conversationId refusedEpoch) =>
    .seq [putU64 conversationId, putU64 refusedEpoch]
  | .enrollmentSettlementBackpressure value => .seq [putU64 value.conversationId]

/-! ### Origins -/

def carriesOrigin : ServerDiscriminant → Bool
  | .participantTransportRejected | .observerRecoveryAccepted | .invalidObserverEpoch | .invalidObserverEpochList
  | .observerRecoveryConnectionCapacityExceeded => false
  | _ => true

/-- The requests an answer can belong to. -/
def validOrigins : ServerDiscriminant → List ClientDiscriminant
  | .attemptTokenBodyConflict => [.credentialAttachRequest, .leaveRequest, .recordAdmission]
  | .connectionConversationCapacityExceeded | .retired => [.enrollmentRequest, .credentialAttachRequest,
      .detachRequest, .participantAck, .leaveRequest, .markerAck, .recordAdmission]
  | .conversationOrderExhausted | .conversationSequenceExhausted =>
    [.enrollmentRequest, .credentialAttachRequest, .recordAdmission]
  | .participantUnknown | .staleAuthority => [.credentialAttachRequest, .detachRequest, .participantAck,
      .leaveRequest, .markerAck, .recordAdmission]
  | .noBinding => [.detachRequest, .participantAck, .leaveRequest, .markerAck, .recordAdmission]
  | .markerClosureCapacityExceeded => [.enrollmentRequest, .credentialAttachRequest, .leaveRequest, .recordAdmission]
  | .enrollBound | .enrollmentKnown | .identityCapacityExceeded | .enrollmentSettlementBackpressure =>
    [.enrollmentRequest]
  | .connectionConversationBindingOccupied | .receiptExpired | .receiptCapacityExceeded | .bound
  | .unboundReceipt => [.enrollmentRequest, .credentialAttachRequest]
  | .observerBackpressure => [.enrollmentRequest, .credentialAttachRequest, .detachRequest,
      .leaveRequest, .recordAdmission]
  | .attachBound | .staleOrUnknownReceipt => [.credentialAttachRequest]
  | .markerNotDelivered | .markerMismatch => [.credentialAttachRequest, .markerAck]
  | .detachCommitted | .detachInProgress => [.detachRequest]
  | .ackCommitted | .ackGap | .ackRegression => [.participantAck]
  | .ackNoOp => [.participantAck, .markerAck]
  | .leaveCommitted => [.leaveRequest]
  | .markerAckCommitted => [.markerAck]
  | .recordCommitted | .recordTooLarge => [.recordAdmission]
  | .markerSettlementBackpressure => [.credentialAttachRequest, .detachRequest]
  | .participantTransportRejected | .observerRecoveryAccepted | .invalidObserverEpoch | .invalidObserverEpochList
  | .observerRecoveryConnectionCapacityExceeded => []

variable (discriminant : ServerDiscriminant)

def originIsValid (origin : ClientDiscriminant) : Bool :=
  origin ∈ validOrigins discriminant

/-! ### Reading: echoed requests -/

def takeResponseEnvelope : ClientDiscriminant → WireGet ResponseEnvelope
  | .enrollmentRequest => .enrollment <$> takeEnrollment
  | .credentialAttachRequest => .credentialAttach <$> takeAttach
  | .detachRequest => .detach <$> takeDetach
  | .participantAck => .participantAck <$> takeParticipantAck
  | .leaveRequest => .leave <$> takeLeave
  | .markerAck => .markerAck <$> takeMarkerAck
  | .recordAdmission => .recordAdmission <$> takeRecordAdmission
  | .observerRecoveryHandshake => fail invalidField

def takeParticipantReference : ClientDiscriminant → WireGet ParticipantReferenceEnvelope
  | .credentialAttachRequest => .credentialAttach <$> takeAttach
  | .detachRequest => .detach <$> takeDetach
  | .participantAck => .participantAck <$> takeParticipantAck
  | .leaveRequest => .leave <$> takeLeave
  | .markerAck => .markerAck <$> takeMarkerAck
  | .recordAdmission => .recordAdmission <$> takeRecordAdmission
  | _ => fail invalidField

def takeBindingRequired : ClientDiscriminant → WireGet BindingRequiredEnvelope
  | .detachRequest => .detach <$> takeDetach
  | .participantAck => .participantAck <$> takeParticipantAck
  | .leaveRequest => .leave <$> takeLeave
  | .markerAck => .markerAck <$> takeMarkerAck
  | .recordAdmission => .recordAdmission <$> takeRecordAdmission
  | _ => fail invalidField

def takeOrderAllocating : ClientDiscriminant → WireGet OrderAllocatingEnvelope
  | .enrollmentRequest => .enrollment <$> takeEnrollment
  | .credentialAttachRequest => .credentialAttach <$> takeAttach
  | .recordAdmission => .recordAdmission <$> takeRecordAdmission
  | _ => fail invalidField

def takeClosureChecked : ClientDiscriminant → WireGet ClosureCheckedEnvelope
  | .enrollmentRequest => .enrollment <$> takeEnrollment
  | .credentialAttachRequest => .credentialAttach <$> takeAttach
  | .leaveRequest => .leave <$> takeLeave
  | .recordAdmission => .recordAdmission <$> takeRecordAdmission
  | _ => fail invalidField

def takeSequenceAllocating : ClientDiscriminant → WireGet SequenceAllocatingEnvelope
  | .enrollmentRequest => .enrollment <$> takeEnrollment
  | .credentialAttachRequest => .credentialAttach <$> takeAttach
  | .recordAdmission => .recordAdmission <$> takeRecordAdmission
  | _ => fail invalidField

def takeMarkerProof : ClientDiscriminant → WireGet MarkerProofRequest
  | .credentialAttachRequest => do
    return .credentialAttach ⟨← takeU64, ← takeToken, ← takeU64, ← takeGeneration, ← takeU64⟩
  | .markerAck => return .markerAck ⟨← takeU64, ← takeU64, ← takeGeneration, ← takeU64⟩
  | _ => fail invalidField

/-! ### Reading: closure, budget, receipts -/

def takeRepaymentEdgeBody : RepaymentEdgeTag → WireGet RepaymentEdge
  | .none => return .none
  | .observerProjection => .observerProjection <$> takeU64
  | .physicalCompaction => return .physicalCompaction (← takeU64) (← takeU64)
  | .markerDelivery => return .markerDelivery (← takeU64) (← takeBindingEpoch) (← takeU64)
  | .participantCursorProgress => do
    return .participantCursorProgress ⟨← takeU64, ← takeBindingEpoch, ← takeU64, ← takeOption takeU64⟩
  | .detachedCredentialRecovery => return .detachedCredentialRecovery (← takeU64) (← takeU64) (← takeBindingEpoch)
  | .detachedMarkerRelease => return .detachedMarkerRelease (← takeU64) (← takeU64) (← takeBindingEpoch)
  | .detachedCursorRelease => return .detachedCursorRelease (← takeU64) (← takeBindingEpoch)

def takeRepaymentEdge : WireGet RepaymentEdge := do
  let tag ← takeTag
  takeRepaymentEdgeBody tag

def takeClosureSnapshot : WireGet ClosureSnapshot := do
  return ⟨← takeU64, ← takeU64, ← takeU64, ← takeU64, ← takeRepaymentEdge, ← takeU64, ← takeU64,
    ← takeResourceVector, ← takeWideResourceVector, ← takeU64, ← takeU64, ← takeU64⟩

def takeSequenceBudget : WireGet SequenceBudget := do
  return ⟨← takeU64, ← takeU64, ← takeU64, ← takeU64, ← takeU64, ← takeU64, ← takeU64, ← takeU128, ← takeU128,
    ← takeU128⟩

variable (conversationId : ConversationId)

/-- The constructors of the source check what the fields then say. -/
def EnrollBound.new (token : EnrollmentToken) (participantId : ParticipantId) (attachSecret : AttachSecret)
    (originBindingEpoch : BindingEpoch) (receiptExpiresAt provenanceExpiresAt : Nat) : Option EnrollBound :=
  if first : originBindingEpoch.capabilityGeneration = 1 then
    some ⟨conversationId, token, participantId, attachSecret, originBindingEpoch, receiptExpiresAt,
      provenanceExpiresAt, first⟩
  else none

variable (token : AttachAttemptToken) (participantId : ParticipantId)
  (requestGeneration : Generation) (attachSecret : AttachSecret) (originBindingEpoch : BindingEpoch)

def AttachBound.ordinary (persistedCursor : DeliverySeq)
    (receiptExpiresAt provenanceExpiresAt : Nat) : Option AttachBound :=
  if successor : originBindingEpoch.capabilityGeneration = requestGeneration + 1 then
    some ⟨conversationId, token, participantId, requestGeneration, attachSecret, originBindingEpoch,
      persistedCursor, none, receiptExpiresAt, provenanceExpiresAt, successor, nofun⟩
  else none

def AttachBound.fencedAt (acceptedMarkerDeliverySeq : DeliverySeq)
    (receiptExpiresAt provenanceExpiresAt : Nat) : Option AttachBound :=
  if successor : originBindingEpoch.capabilityGeneration = requestGeneration + 1 then
    some ⟨conversationId, token, participantId, requestGeneration, attachSecret, originBindingEpoch,
      acceptedMarkerDeliverySeq, some acceptedMarkerDeliverySeq, receiptExpiresAt,
      provenanceExpiresAt, successor, fun _ hmarker => Option.some.inj hmarker⟩
  else none

def LeaveCommitted.new (leaveAttemptToken : LeaveAttemptToken) (participantId : ParticipantId)
    (retiredGeneration : Generation) (endedBindingEpoch : Option BindingEpoch)
    (priorTerminalDeliverySeq : Option DeliverySeq) (leftDeliverySeq : DeliverySeq) : Option LeaveCommitted :=
  if ended : ∀ epoch ∈ endedBindingEpoch, epoch.capabilityGeneration = retiredGeneration then
    if prior : ∀ seq ∈ priorTerminalDeliverySeq, seq < leftDeliverySeq then
      some ⟨conversationId, leaveAttemptToken, participantId, retiredGeneration, endedBindingEpoch,
        priorTerminalDeliverySeq, leftDeliverySeq, ended, prior⟩
    else none
  else none

/-- A missing generation marks the body and is read as generation one. -/
def requiredGenerationOption : WireGet Generation := do
  match ← takeOption takeGeneration with
  | some generation => return generation
  | none => do
    invalidate
    return 1

/-- Every field of an enrollment that is fixed is compared, and only marks the body. -/
def takeEnrollBound : WireGet EnrollBound := do
  let conversationId ← takeU64
  let token ← takeToken
  let participantId ← takeU64
  let requestGeneration ← takeOption takeGeneration
  invalidateUnless (requestGeneration = none)
  let capabilityGeneration ← takeGeneration
  invalidateUnless (capabilityGeneration = 1)
  let attachSecret ← takeSecret
  let originBindingEpoch ← takeBindingEpoch
  invalidateUnless (originBindingEpoch.capabilityGeneration = 1)
  let persistedCursor ← takeU64
  invalidateUnless (persistedCursor = 0)
  let acceptedMarkerDeliverySeq ← takeOption takeU64
  invalidateUnless (acceptedMarkerDeliverySeq = none)
  let receiptExpiresAt ← takeU128
  let provenanceExpiresAt ← takeU128
  let validEpoch : BindingEpoch :=
    if originBindingEpoch.capabilityGeneration = 1 then originBindingEpoch
    else ⟨originBindingEpoch.connectionIncarnation, 1⟩
  orFail .invalidValue (EnrollBound.new conversationId token participantId attachSecret
    validEpoch receiptExpiresAt provenanceExpiresAt)

def receiptFromFields (persistedCursor : DeliverySeq) (acceptedMarkerDeliverySeq : Option DeliverySeq)
    (receiptExpiresAt provenanceExpiresAt : Nat) : Option AttachBound :=
  match acceptedMarkerDeliverySeq with
  | some marker =>
    if persistedCursor = marker then
      AttachBound.fencedAt conversationId token participantId requestGeneration attachSecret
        originBindingEpoch marker receiptExpiresAt provenanceExpiresAt
    else none
  | none => AttachBound.ordinary conversationId token participantId requestGeneration attachSecret
      originBindingEpoch persistedCursor receiptExpiresAt provenanceExpiresAt

/-- The part of an attach receipt after the identity it shares with an enrollment's. -/
def takeAttachReceipt : WireGet AttachBound := do
  let requestGeneration ← requiredGenerationOption
  let capabilityGeneration ← takeGeneration
  let attachSecret ← takeSecret
  let originBindingEpoch ← takeBindingEpoch
  let persistedCursor ← takeU64
  let acceptedMarkerDeliverySeq ← takeOption takeU64
  let receiptExpiresAt ← takeU128
  let provenanceExpiresAt ← takeU128
  let value ← orFail invalidField (receiptFromFields conversationId token participantId
    requestGeneration attachSecret originBindingEpoch persistedCursor acceptedMarkerDeliverySeq
    receiptExpiresAt provenanceExpiresAt)
  require (value.capabilityGeneration = capabilityGeneration) invalidField
  return value

def takeAttachBound : WireGet AttachBound := do
  let conversationId ← takeU64
  let token ← takeToken
  let participantId ← takeU64
  takeAttachReceipt conversationId token participantId

variable (origin : ClientDiscriminant)

/-- In a replay the fixed fields of an enrollment stop the reader. -/
def takeReceiptReplay : WireGet ReceiptReplay := do
  let conversationId ← takeU64
  let token ← takeToken
  let participantId ← takeU64
  match origin with
  | .enrollmentRequest => do
    let requestGeneration ← takeOption takeGeneration
    let capabilityGeneration ← takeGeneration
    let attachSecret ← takeSecret
    let originBindingEpoch ← takeBindingEpoch
    let persistedCursor ← takeU64
    let acceptedMarkerDeliverySeq ← takeOption takeU64
    let receiptExpiresAt ← takeU128
    let provenanceExpiresAt ← takeU128
    let value ← orFail invalidField (EnrollBound.new conversationId token participantId
      attachSecret originBindingEpoch receiptExpiresAt provenanceExpiresAt)
    require (requestGeneration = none ∧ capabilityGeneration = 1 ∧ persistedCursor = 0 ∧
      acceptedMarkerDeliverySeq = none) invalidField
    return .enrollment value
  | .credentialAttachRequest =>
    .credentialAttach <$> takeAttachReceipt conversationId token participantId
  | _ => fail invalidField

def takeReceiptExpired : WireGet ReceiptExpired := do
  let conversationId ← takeU64
  let token ← takeToken
  let participantId ← takeU64
  match origin with
  | .enrollmentRequest => do
    let requestGeneration ← takeOption takeGeneration
    invalidateUnless (requestGeneration = none)
    return .enrollment ⟨conversationId, token⟩ participantId (← takeGeneration) (← takeGeneration) (← takeTag)
  | .credentialAttachRequest => do
    return .credentialAttach ⟨⟨conversationId, participantId, ← requiredGenerationOption, ← takeOption takeU64⟩,
      token⟩ (← takeGeneration) (← takeGeneration) (← takeTag)
  | _ => fail invalidField

def requireOne (expected : Nat) : WireGet Unit := do
  let value ← takeU64
  invalidateUnless (value = expected)

def enrollmentReceiptScope : ReceiptCapacityScope → Option EnrollmentReceiptCapacityScope
  | .liveReceiptServer => some .liveReceiptServer
  | .provenanceServer => some .provenanceServer
  | .provenanceConversation => some .provenanceConversation
  | _ => none

def takeReceiptCapacity : ClientDiscriminant → WireGet ReceiptCapacityExceeded
  | .enrollmentRequest => do
    let request ← takeEnrollment
    let wireScope ← takeTag
    let scope ← orFail invalidField (enrollmentReceiptScope wireScope)
    let limit ← takeU64
    let occupied ← takeU64
    requireOne requestedReceipts
    return .enrollment request scope limit occupied
  | .credentialAttachRequest => do
    let request ← takeAttach
    let scope ← takeTag
    let limit ← takeU64
    let occupied ← takeU64
    requireOne requestedReceipts
    return .credentialAttach request scope limit occupied
  | _ => fail invalidField

def ObserverBackpressureState.replay (backpressureEpoch : ObserverEpoch)
    (observerProgress : DeliverySeq) : Option ObserverBackpressureState :=
  if current : backpressureEpoch = observerProgress then
    some ⟨backpressureEpoch, observerProgress, current⟩
  else none

def takeBackpressureState : WireGet ObserverBackpressureState := do
  let backpressureEpoch ← takeU64
  let observerProgress ← takeU64
  orFail invalidField (ObserverBackpressureState.replay backpressureEpoch observerProgress)

def takeObserverBackpressure : ClientDiscriminant → WireGet ObserverBackpressure
  | .enrollmentRequest => return .enrollment (← takeEnrollment) (← takeBackpressureState)
  | .credentialAttachRequest => return .credentialAttach (← takeAttach) (← takeBackpressureState)
  | .detachRequest => return .detach (← takeDetach) (← takeBindingEpoch) (← takeBackpressureState)
  | .leaveRequest => return .leave (← takeLeave) (← takeBackpressureState) (← takeBool)
  | .recordAdmission => return .recordAdmission (← takeRecordAdmission) (← takeBackpressureState)
  | _ => fail invalidField

/-! ### Reading: authority -/

def takeBindingStateView : WireGet BindingStateView := do
  match ← takeTag (T := BindingStateTag) with
  | .bound => .bound <$> takeBindingEpoch
  | .detached => return .detached

def takeTerminalizedDetachCell : WireGet TerminalizedDetachCell := do
  return ⟨← takeU64, ← takeU64, ← takeGeneration, ← takeToken, ← takeGeneration, ← takeBindingEpoch,
    ← takeBindingStateView⟩

def takeDetachStaleAuthority : WireGet DetachStaleAuthority := do
  match ← takeTag (T := DetachAuthorityStateTag) with
  | .live => return .live (← takeDetach) (← takeGeneration)
  | .terminalizedDetachCell => .terminalizedDetachCell <$> takeTerminalizedDetachCell

def takeLeaveStaleAuthority : WireGet LeaveStaleAuthority := do
  let authority ← takeTag (T := LeaveAuthorityStateTag)
  let request ← takeLeave
  match authority with
  | .live => LeaveStaleAuthority.live request <$> takeGeneration
  | .committedLeaveTombstone =>
    LeaveStaleAuthority.committedLeaveTombstone request <$> takeGeneration

def takeStaleAuthority : ClientDiscriminant → WireGet StaleAuthority
  | .credentialAttachRequest => return .live (.credentialAttach (← takeAttach)) (← takeGeneration)
  | .participantAck => return .live (.participantAck (← takeParticipantAck)) (← takeGeneration)
  | .markerAck => return .live (.markerAck (← takeMarkerAck)) (← takeGeneration)
  | .recordAdmission => return .live (.recordAdmission (← takeRecordAdmission)) (← takeGeneration)
  | .detachRequest => .detach <$> takeDetachStaleAuthority
  | .leaveRequest => .leave <$> takeLeaveStaleAuthority
  | _ => fail invalidField

/-! ### Reading: the suffix -/

/-- A text that is no UTF-8 is not the capability either, so one comparison of bytes covers both. -/
def takeTransportRejection : WireGet TransportRejectionReason := do
  match ← takeTag (T := TransportReasonTag) with
  | .frameTooLarge => return .frameTooLarge (← takeU64) (← takeU64)
  | .decodeFailed => .decodeFailed <$> takeTag
  | .unsupportedVersion => return .unsupportedVersion (← takeProtocolVersion) (← takeProtocolVersion)
  | .authenticationFailed => return .authenticationFailed
  | .participantCapabilityRequired => do
    let capability ← takeBytes
    invalidateUnless (capability = participantCapability)
    return .participantCapabilityRequired

def takeAttemptTokenBodyConflict : WireGet AttemptTokenBodyConflict := do
  let token ← takeToken
  let operation ← takeTag (T := AttemptOperation)
  match origin with
  | .credentialAttachRequest => do
    require (operation = .credentialAttachRequest) invalidField
    return .credentialAttach ⟨⟨← takeU64, ← takeU64, ← takeGeneration, ← takeOption takeU64⟩, token⟩ (← takeTag)
  | .leaveRequest => do
    require (operation = .leaveRequest) invalidField
    let conversationId ← takeU64
    let presentedParticipantId ← takeU64
    let presentedGeneration ← takeGeneration
    let conflict ← takeTag
    invalidateUnless (conflict = AttemptConflict.generation)
    return .leave ⟨⟨conversationId, presentedParticipantId, presentedGeneration⟩, token⟩
  | .recordAdmission => do
    require (operation = .recordAdmission) invalidField
    return .recordAdmission ⟨⟨← takeU64, ← takeU64, ← takeGeneration⟩, token⟩
  | _ => fail invalidField

def takeBindingOccupied : ClientDiscriminant → WireGet ConnectionConversationBindingOccupied
  | .enrollmentRequest => do
    let request ← takeEnrollment
    let participantId ← takeOption takeU64
    invalidateUnless (participantId = none)
    return .enrollment request
  | .credentialAttachRequest => do
    let request ← takeAttach
    let participantId ← takeOption takeU64
    invalidateUnless (participantId = some request.participantId)
    return .credentialAttach request
  | _ => fail invalidField

def takeOrderExhausted : WireGet ConversationOrderExhausted := do
  let request ← takeOrderAllocating origin
  let _counter ← takeTag (T := Counter)
  let high ← takeU64
  let nextValue ← takeOption takeU64
  let orderRemaining ← takeU128
  let reservedClaims ← takeU128
  requireOne requiredMajors
  let resultingOrderRemaining ← takeU128
  let resultingReservedClaims ← takeU128
  let value : ConversationOrderExhausted := ⟨request, high, orderRemaining, reservedClaims,
    resultingOrderRemaining, resultingReservedClaims⟩
  invalidateUnless (nextValue = value.nextValue)
  return value

def takeRetired : ClientDiscriminant → WireGet Retired
  | .enrollmentRequest => return .enrollment (← takeEnrollment) (← takeU64) (← takeGeneration)
  | origin => return .participant (← takeParticipantReference origin) (← takeGeneration)

def takeClosureRefusalReason : ClosureScope → WireGet ClosureRefusalReason
  | .capacity => return .capacity (← takeTag) (← takeU128) (← takeU128)
  | .recoveryFence => return .recoveryFence
  | .deliveredMarkerAwaitingAck => return .deliveredMarkerAwaitingAck
  | .episodeChurnLimit => return .episodeChurnLimit

def takeMarkerClosure : WireGet MarkerClosureCapacityExceeded := do
  let request ← takeClosureChecked origin
  let scope ← takeTag
  return ⟨request, ← takeClosureSnapshot, ← takeClosureRefusalReason scope⟩

def takeMarkerMismatchBody : MarkerMismatchReason → WireGet MarkerMismatchBody
  | .belowCursor => .belowCursor <$> takeU64
  | .noMarkerExpected => return .noMarkerExpected
  | .expectedDifferentMarker => .expectedDifferentMarker <$> takeU64

def takeDetachCommitted : WireGet DetachCommitted := do
  let conversationId ← takeU64
  let participantId ← takeU64
  let capabilityGeneration ← takeGeneration
  let detachAttemptToken ← takeToken
  let committedBindingEpoch ← takeBindingEpoch
  let detachedDeliverySeq ← takeU64
  invalidateUnless (capabilityGeneration = committedBindingEpoch.capabilityGeneration)
  return ⟨conversationId, participantId, detachAttemptToken, committedBindingEpoch, detachedDeliverySeq⟩

def takeAckNoOp : ClientDiscriminant → WireGet AckNoOp
  | .participantAck => do
    let request ← takeParticipantAck
    let currentCursor ← takeU64
    invalidateUnless (currentCursor = request.throughSeq)
    return .participantAck request
  | .markerAck => do
    let request ← takeMarkerAck
    let currentCursor ← takeU64
    invalidateUnless (currentCursor = request.markerDeliverySeq)
    return .markerAck request
  | _ => fail invalidField

variable (request : ParticipantAckEnvelope)

def AckGap.new (currentCursor : DeliverySeq) : Option AckGap :=
  if ahead : currentCursor < request.throughSeq then some ⟨request, currentCursor, ahead⟩ else none

def AckRegression.new (currentCursor : DeliverySeq) : Option AckRegression :=
  if behind : request.throughSeq < currentCursor then some ⟨request, currentCursor, behind⟩
  else none

def takeLeaveCommitted : WireGet LeaveCommitted := do
  let conversationId ← takeU64
  let leaveAttemptToken ← takeToken
  let participantId ← takeU64
  let presentedGeneration ← takeGeneration
  let retiredGeneration ← takeGeneration
  let endedBindingEpoch ← takeOption takeBindingEpoch
  let priorTerminalDeliverySeq ← takeOption takeU64
  let leftDeliverySeq ← takeU64
  require (presentedGeneration = retiredGeneration) invalidField
  orFail invalidField (LeaveCommitted.new conversationId leaveAttemptToken participantId
    retiredGeneration endedBindingEpoch priorTerminalDeliverySeq leftDeliverySeq)

def takeObserverProgressStatus : WireGet ObserverProgressStatus := do
  return ⟨← takeU64, ← takeU64, ← takeU64, ← takeBool, ← takeBool⟩

def recoveryStatusLen : Nat := 26

def takeRecoveryAccepted : WireGet ObserverRecoveryAccepted := do
  let count ← takeU64
  requireFixedList count recoveryStatusLen
  return ⟨← times takeObserverProgressStatus count⟩

def requireZeroRecoveryCount : WireGet Unit := do
  let count ← takeU64
  require (count = 0) invalidField

def takeInvalidObserverEpoch : WireGet InvalidObserverEpoch := do
  let reason ← takeTag (T := InvalidObserverEpochReason)
  let conversationId ← takeU64
  let presentedEpoch ← takeU64
  let current ← takeOption takeU64
  match reason with
  | .conversationUnknown => do
    invalidateUnless (current = none)
    return .conversationUnknown conversationId presentedEpoch
  | .epochAhead => do
    invalidateUnless (current.isSome = true)
    return .epochAhead conversationId presentedEpoch (current.getD 0)

def takeInvalidObserverEpochList : WireGet InvalidObserverEpochList := do
  match ← takeTag (T := InvalidObserverEpochListReason) with
  | .tooManyEntries => return .tooManyEntries (← takeU64) (← takeU64)
  | .duplicateConversation => return .duplicateConversation (← takeU64) (← takeU64) (← takeU64)

def takeMarkerSettlement : WireGet MarkerSettlementBackpressure := do
  let conversationId ← takeU64
  let refusedEpoch ← takeU64
  match origin with
  | .credentialAttachRequest => return .credentialAttach conversationId refusedEpoch
  | .detachRequest => return .detach conversationId refusedEpoch
  | _ => fail invalidField

def decodeOriginSuffix : ServerDiscriminant → WireGet ServerValue
  | .attemptTokenBodyConflict => .attemptTokenBodyConflict <$> takeAttemptTokenBodyConflict origin
  | .connectionConversationCapacityExceeded => do
    return .connectionConversationCapacityExceeded (.semanticRequest (← takeResponseEnvelope origin) (← takeU64))
  | .connectionConversationBindingOccupied =>
    .connectionConversationBindingOccupied <$> takeBindingOccupied origin
  | .conversationOrderExhausted => .conversationOrderExhausted <$> takeOrderExhausted origin
  | .participantUnknown =>
    (fun request => .participantUnknown ⟨request⟩) <$> takeParticipantReference origin
  | .noBinding => (fun request => .noBinding ⟨request⟩) <$> takeBindingRequired origin
  | .staleAuthority => .staleAuthority <$> takeStaleAuthority origin
  | .retired => .retired <$> takeRetired origin
  | .markerClosureCapacityExceeded => .markerClosureCapacityExceeded <$> takeMarkerClosure origin
  | .receiptExpired => .receiptExpired <$> takeReceiptExpired origin
  | .receiptCapacityExceeded => .receiptCapacityExceeded <$> takeReceiptCapacity origin
  | .observerBackpressure => .observerBackpressure <$> takeObserverBackpressure origin
  | .conversationSequenceExhausted => do
    return .conversationSequenceExhausted ⟨← takeSequenceAllocating origin, ← takeSequenceBudget⟩
  | .markerNotDelivered => return .markerNotDelivered ⟨← takeMarkerProof origin, ← takeTag, ← takeU64⟩
  | .markerMismatch => do
    let request ← takeMarkerProof origin
    let reason ← takeTag
    return .markerMismatch ⟨request, ← takeMarkerMismatchBody reason⟩
  | .bound => .bound <$> takeReceiptReplay origin
  | .unboundReceipt => .unboundReceipt <$> takeReceiptReplay origin
  | .ackNoOp => .ackNoOp <$> takeAckNoOp origin
  | .markerSettlementBackpressure => .markerSettlementBackpressure <$> takeMarkerSettlement origin
  | _ => fail invalidField

def decodeServerSuffix (origin : Option ClientDiscriminant) : WireGet ServerValue :=
  match discriminant with
  | .participantTransportRejected =>
    (fun reason => .participantTransportRejected ⟨reason⟩) <$> takeTransportRejection
  | .enrollBound => .enrollBound <$> takeEnrollBound
  | .enrollmentKnown => return .enrollmentKnown ⟨← takeU64, ← takeToken, ← takeU64, ← takeGeneration⟩
  | .identityCapacityExceeded => do
    let request ← takeEnrollment
    let scope ← takeTag
    let limit ← takeU64
    let occupied ← takeU64
    requireOne requestedReceipts
    return .identityCapacityExceeded ⟨request, scope, limit, occupied⟩
  | .attachBound => .attachBound <$> takeAttachBound
  | .staleOrUnknownReceipt => do
    let conversationId ← takeU64
    let token ← takeToken
    return .staleOrUnknownReceipt ⟨⟨⟨conversationId, ← takeU64, ← takeGeneration, ← takeOption takeU64⟩, token⟩,
      ← takeGeneration⟩
  | .detachCommitted => .detachCommitted <$> takeDetachCommitted
  | .detachInProgress => do
    return .detachInProgress ⟨← takeU64, ← takeU64, ← takeToken, ← takeGeneration, ← takeBindingEpoch⟩
  | .ackCommitted => do
    let request ← takeParticipantAck
    let currentCursor ← takeU64
    invalidateUnless (currentCursor = request.throughSeq)
    return .ackCommitted ⟨request⟩
  | .ackGap => do
    let request ← takeParticipantAck
    let currentCursor ← takeU64
    let _reason ← takeTag (T := AckGapReason)
    .ackGap <$> orFail invalidField (AckGap.new request currentCursor)
  | .ackRegression => do
    let request ← takeParticipantAck
    let currentCursor ← takeU64
    let _reason ← takeTag (T := AckRegressionReason)
    .ackRegression <$> orFail invalidField (AckRegression.new request currentCursor)
  | .leaveCommitted => .leaveCommitted <$> takeLeaveCommitted
  | .markerAckCommitted => do
    let request ← takeMarkerAck
    let currentCursor ← takeU64
    invalidateUnless (currentCursor = request.markerDeliverySeq)
    return .markerAckCommitted ⟨request⟩
  | .recordCommitted => do
    let request ← takeRecordAdmission
    let senderParticipantId ← takeU64
    invalidateUnless (senderParticipantId = request.participantId)
    return .recordCommitted ⟨request, ← takeU64⟩
  | .recordTooLarge => do
    return .recordTooLarge ⟨← takeRecordAdmission, ← takeTag, ← takeResourceVector, ← takeResourceVector⟩
  | .observerRecoveryAccepted => .observerRecoveryAccepted <$> takeRecoveryAccepted
  | .invalidObserverEpoch => do
    requireZeroRecoveryCount
    .invalidObserverEpoch <$> takeInvalidObserverEpoch
  | .invalidObserverEpochList => do
    requireZeroRecoveryCount
    .invalidObserverEpochList <$> takeInvalidObserverEpochList
  | .observerRecoveryConnectionCapacityExceeded => do
    requireZeroRecoveryCount
    return .connectionConversationCapacityExceeded (.observerRecovery (← takeU64) (← takeU64))
  | .enrollmentSettlementBackpressure => do
    let _origin ← orFail invalidField origin
    return .enrollmentSettlementBackpressure ⟨← takeU64⟩
  | discriminant => do
    let origin ← orFail invalidField origin
    decodeOriginSuffix origin discriminant

/-! ### Bodies -/

def encodeServerValueBody (value : ServerValue) : WirePut :=
  if carriesOrigin value.discriminant then
    match value.originatingRequest with
    | some origin => .seq [putTag origin, encodeServerSuffix value]
    | none => .error .invalidValue
  else encodeServerSuffix value

/-- An origin the answer cannot have is refused. -/
def takeOrigin : WireGet ClientDiscriminant := do
  let origin ← takeTag
  require (originIsValid discriminant origin = true) invalidField
  return origin

def decodeServerValueBody : WireGet ServerValue :=
  if carriesOrigin discriminant then do
    let origin ← takeOrigin discriminant
    decodeServerSuffix discriminant (some origin)
  else decodeServerSuffix discriminant none

end Liminal.Wire
