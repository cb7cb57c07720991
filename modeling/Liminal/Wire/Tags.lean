import Liminal.Library.Codec
import Liminal.Wire.Push
import Liminal.Wire.Response

/-!
# Tags on the wire

Every closed choice of the format is a sixteen-bit number out of a registry. The numbers of
requests, answers and pushes are disjoint; the smaller tags start again at one in each registry (the
kinds of a pushed record at zero).
-/

namespace Liminal.Wire

open Codec

inductive ServerDiscriminant
  | participantTransportRejected
  | attemptTokenBodyConflict
  | connectionConversationCapacityExceeded
  | connectionConversationBindingOccupied
  | conversationOrderExhausted
  | participantUnknown
  | noBinding
  | staleAuthority
  | retired
  | markerClosureCapacityExceeded
  | enrollBound
  | enrollmentKnown
  | receiptExpired
  | receiptCapacityExceeded
  | identityCapacityExceeded
  | observerBackpressure
  | conversationSequenceExhausted
  | attachBound
  | staleOrUnknownReceipt
  | markerNotDelivered
  | markerMismatch
  | bound
  | unboundReceipt
  | detachCommitted
  | detachInProgress
  | ackCommitted
  | ackNoOp
  | ackGap
  | ackRegression
  | leaveCommitted
  | markerAckCommitted
  | recordCommitted
  | recordTooLarge
  | observerRecoveryAccepted
  | invalidObserverEpoch
  | invalidObserverEpochList
  | observerRecoveryConnectionCapacityExceeded
  | markerSettlementBackpressure
  | enrollmentSettlementBackpressure
deriving DecidableEq

inductive TransportReasonTag
  | frameTooLarge
  | decodeFailed
  | unsupportedVersion
  | authenticationFailed
  | participantCapabilityRequired
deriving DecidableEq

inductive AttemptOperation
  | credentialAttachRequest
  | leaveRequest
  | recordAdmission
deriving DecidableEq

inductive DetachAuthorityStateTag
  | live
  | terminalizedDetachCell
deriving DecidableEq

inductive LeaveAuthorityStateTag
  | live
  | committedLeaveTombstone
deriving DecidableEq

inductive BindingStateTag
  | bound
  | detached
deriving DecidableEq

inductive ClosureScope
  | capacity
  | recoveryFence
  | deliveredMarkerAwaitingAck
  | episodeChurnLimit
deriving DecidableEq

inductive RepaymentEdgeTag
  | none
  | observerProjection
  | physicalCompaction
  | markerDelivery
  | participantCursorProgress
  | detachedCredentialRecovery
  | detachedMarkerRelease
  | detachedCursorRelease
deriving DecidableEq

inductive MarkerMismatchReason
  | belowCursor
  | noMarkerExpected
  | expectedDifferentMarker
deriving DecidableEq

inductive AckGapReason
  | notContiguouslyAvailable
deriving DecidableEq

inductive AckRegressionReason
  | belowCursor
deriving DecidableEq

inductive InvalidObserverEpochReason
  | conversationUnknown
  | epochAhead
deriving DecidableEq

inductive InvalidObserverEpochListReason
  | tooManyEntries
  | duplicateConversation
deriving DecidableEq

inductive Counter
  | transactionOrder
deriving DecidableEq

/-! ### Registries -/

/-- The tables are the source's; no value is assigned twice in one. -/
instance : Registry ClientDiscriminant where
  table := [(.enrollmentRequest, 0x0001), (.credentialAttachRequest, 0x0002),
    (.detachRequest, 0x0003), (.participantAck, 0x0004), (.leaveRequest, 0x0005),
    (.markerAck, 0x0006), (.recordAdmission, 0x0007), (.observerRecoveryHandshake, 0x0008)]

instance : Registry ServerDiscriminant where
  table := [(.participantTransportRejected, 0x0100), (.attemptTokenBodyConflict, 0x0101),
    (.connectionConversationCapacityExceeded, 0x0102), (.connectionConversationBindingOccupied, 0x0103),
    (.conversationOrderExhausted, 0x0104), (.participantUnknown, 0x0105), (.noBinding, 0x0106),
    (.staleAuthority, 0x0107), (.retired, 0x0108), (.markerClosureCapacityExceeded, 0x0109), (.enrollBound, 0x010A),
    (.enrollmentKnown, 0x010B), (.receiptExpired, 0x010C), (.receiptCapacityExceeded, 0x010D),
    (.identityCapacityExceeded, 0x010E), (.observerBackpressure, 0x010F), (.conversationSequenceExhausted, 0x0110),
    (.attachBound, 0x0111), (.staleOrUnknownReceipt, 0x0112), (.markerNotDelivered, 0x0113), (.markerMismatch, 0x0114),
    (.bound, 0x0115), (.unboundReceipt, 0x0116), (.detachCommitted, 0x0117), (.detachInProgress, 0x0118),
    (.ackCommitted, 0x0119), (.ackNoOp, 0x011A), (.ackGap, 0x011B), (.ackRegression, 0x011C), (.leaveCommitted, 0x011D),
    (.markerAckCommitted, 0x011E), (.recordCommitted, 0x011F), (.recordTooLarge, 0x0120),
    (.observerRecoveryAccepted, 0x0121), (.invalidObserverEpoch, 0x0122), (.invalidObserverEpochList, 0x0123),
    (.observerRecoveryConnectionCapacityExceeded, 0x0124), (.markerSettlementBackpressure, 0x0125),
    (.enrollmentSettlementBackpressure, 0x0126)]

instance : Registry PushDiscriminant where
  table := [(.observerProgressed, 0x0200), (.participantDelivery, 0x0201), (.markerSettled, 0x0202)]

instance : Registry RecordKind where
  table := [(.ordinaryRecord, 0), (.attached, 1), (.detached, 2), (.died, 3), (.left, 4), (.historyCompacted, 5)]

instance : Registry CloseCauseTag where
  table := [(.cleanDeregister, 1), (.connectionLost, 2), (.processKilled, 3), (.protocolError, 4),
    (.superseded, 5), (.serverShutdown, 6), (.uncleanServerRestart, 7)]

instance : Registry TransportReasonTag where
  table := [(.frameTooLarge, 1), (.decodeFailed, 2), (.unsupportedVersion, 3),
    (.authenticationFailed, 4), (.participantCapabilityRequired, 5)]

instance : Registry DecodeClass where
  table := [(.framing, 1), (.unknownDiscriminant, 2), (.canonicalEncoding, 3),
    (.missingRequiredField, 4), (.invalidField, 5)]

instance : Registry AttemptOperation where
  table := [(.credentialAttachRequest, 1), (.leaveRequest, 2), (.recordAdmission, 3)]

instance : Registry AttemptConflict where
  table := [(.generation, 1), (.markerDeliverySequence, 2)]

instance : Registry DetachAuthorityStateTag where
  table := [(.live, 1), (.terminalizedDetachCell, 2)]

instance : Registry LeaveAuthorityStateTag where
  table := [(.live, 1), (.committedLeaveTombstone, 2)]

instance : Registry BindingStateTag where
  table := [(.bound, 1), (.detached, 2)]

instance : Registry ReceiptExpiryReason where
  table := [(.deadline, 1), (.superseded, 2)]

instance : Registry ReceiptCapacityScope where
  table := [(.liveReceiptServer, 1), (.liveReceiptParticipant, 2), (.provenanceServer, 3),
    (.provenanceConversation, 4), (.provenanceParticipant, 5)]

instance : Registry IdentityCapacityScope where
  table := [(.server, 1), (.conversation, 2)]

instance : Registry ClosureScope where
  table := [(.capacity, 1), (.recoveryFence, 2), (.deliveredMarkerAwaitingAck, 3), (.episodeChurnLimit, 4)]

instance : Registry ResourceDimension where
  table := [(.entries, 1), (.bytes, 2)]

instance : Registry RepaymentEdgeTag where
  table := [(.none, 1), (.observerProjection, 2), (.physicalCompaction, 3), (.markerDelivery, 4),
    (.participantCursorProgress, 5), (.detachedCredentialRecovery, 6), (.detachedMarkerRelease, 7),
    (.detachedCursorRelease, 8)]

instance : Registry MarkerNotDeliveredReason where
  table := [(.notDeliveredToProofEpoch, 1)]

instance : Registry MarkerMismatchReason where
  table := [(.belowCursor, 1), (.noMarkerExpected, 2), (.expectedDifferentMarker, 3)]

instance : Registry AckGapReason where
  table := [(.notContiguouslyAvailable, 1)]

instance : Registry AckRegressionReason where
  table := [(.belowCursor, 1)]

instance : Registry InvalidObserverEpochReason where
  table := [(.conversationUnknown, 1), (.epochAhead, 2)]

instance : Registry InvalidObserverEpochListReason where
  table := [(.tooManyEntries, 1), (.duplicateConversation, 2)]

instance : Registry Counter where
  table := [(.transactionOrder, 1)]

/-! ### Tags of values -/

def ServerValue.discriminant : ServerValue → ServerDiscriminant
  | participantTransportRejected _ => .participantTransportRejected
  | attemptTokenBodyConflict _ => .attemptTokenBodyConflict
  | connectionConversationCapacityExceeded (.semanticRequest ..) =>
    .connectionConversationCapacityExceeded
  | connectionConversationCapacityExceeded (.observerRecovery ..) =>
    .observerRecoveryConnectionCapacityExceeded
  | connectionConversationBindingOccupied _ => .connectionConversationBindingOccupied
  | conversationOrderExhausted _ => .conversationOrderExhausted
  | participantUnknown _ => .participantUnknown
  | noBinding _ => .noBinding
  | staleAuthority _ => .staleAuthority
  | retired _ => .retired
  | markerClosureCapacityExceeded _ => .markerClosureCapacityExceeded
  | enrollBound _ => .enrollBound
  | enrollmentKnown _ => .enrollmentKnown
  | receiptExpired _ => .receiptExpired
  | receiptCapacityExceeded _ => .receiptCapacityExceeded
  | identityCapacityExceeded _ => .identityCapacityExceeded
  | observerBackpressure _ => .observerBackpressure
  | conversationSequenceExhausted _ => .conversationSequenceExhausted
  | attachBound _ => .attachBound
  | staleOrUnknownReceipt _ => .staleOrUnknownReceipt
  | markerNotDelivered _ => .markerNotDelivered
  | markerMismatch _ => .markerMismatch
  | bound _ => .bound
  | unboundReceipt _ => .unboundReceipt
  | detachCommitted _ => .detachCommitted
  | detachInProgress _ => .detachInProgress
  | ackCommitted _ => .ackCommitted
  | ackNoOp _ => .ackNoOp
  | ackGap _ => .ackGap
  | ackRegression _ => .ackRegression
  | leaveCommitted _ => .leaveCommitted
  | markerAckCommitted _ => .markerAckCommitted
  | recordCommitted _ => .recordCommitted
  | recordTooLarge _ => .recordTooLarge
  | observerRecoveryAccepted _ => .observerRecoveryAccepted
  | invalidObserverEpoch _ => .invalidObserverEpoch
  | invalidObserverEpochList _ => .invalidObserverEpochList
  | markerSettlementBackpressure _ => .markerSettlementBackpressure
  | enrollmentSettlementBackpressure _ => .enrollmentSettlementBackpressure

def RepaymentEdge.tag : RepaymentEdge → RepaymentEdgeTag
  | none => .none
  | observerProjection _ => .observerProjection
  | physicalCompaction .. => .physicalCompaction
  | markerDelivery .. => .markerDelivery
  | participantCursorProgress _ => .participantCursorProgress
  | detachedCredentialRecovery .. => .detachedCredentialRecovery
  | detachedMarkerRelease .. => .detachedMarkerRelease
  | detachedCursorRelease .. => .detachedCursorRelease

def ClosureRefusalReason.scope : ClosureRefusalReason → ClosureScope
  | capacity .. => .capacity
  | recoveryFence => .recoveryFence
  | deliveredMarkerAwaitingAck => .deliveredMarkerAwaitingAck
  | episodeChurnLimit => .episodeChurnLimit

def MarkerMismatchBody.reason : MarkerMismatchBody → MarkerMismatchReason
  | belowCursor _ => .belowCursor
  | noMarkerExpected => .noMarkerExpected
  | expectedDifferentMarker _ => .expectedDifferentMarker

def EnrollmentReceiptCapacityScope.wireScope : EnrollmentReceiptCapacityScope → ReceiptCapacityScope
  | liveReceiptServer => .liveReceiptServer
  | provenanceServer => .provenanceServer
  | provenanceConversation => .provenanceConversation

end Liminal.Wire
