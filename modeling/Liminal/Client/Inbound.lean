import Liminal.Client.Replay

/-!
# Applying an answer

An answer applied with the live correlation must name the expected request; the slot is emptied, the
binding adopts what is granted or ended, and an expected detach leaves a settled replay. Answers to
acknowledgements and transport rejections are applied without looking at the slot.
-/

namespace Liminal.Client

open Wire

inductive ClientInboundRefusalReason
  | alreadyDead
  | foreignResponse
  | delayedResponse
  | ambiguousResponse
  | missingResponseAuthority
  | lostAuthorityPending
deriving DecidableEq

inductive ClientInboundDecision
  | applied (aggregate : ClientParticipantAggregate) (value : ServerValue)
  | refused (aggregate : ClientParticipantAggregate) (value : ServerValue) (reason : ClientInboundRefusalReason)

inductive ClientCorrelatedInboundDecision
  | applied (aggregate : ClientParticipantAggregate) (value : ServerValue)
  | refused (aggregate : ClientParticipantAggregate) (value : ServerValue)
      (correlation : ClientResponseCorrelation) (reason : ClientInboundRefusalReason)
deriving DecidableEq

/-! ### What an answer does to the binding and the replay -/

def enrollBinding (value : EnrollBound) : ClientBindingState :=
  .bound value.conversationId value.participantId value.capabilityGeneration value.attachSecret value.originBindingEpoch

def attachBinding (value : AttachBound) : ClientBindingState :=
  .bound value.conversationId value.participantId value.capabilityGeneration value.attachSecret value.originBindingEpoch

/-- A receipt whose binding is gone still carries the credential. -/
def unboundAttachBinding (value : AttachBound) : ClientBindingState :=
  .detached value.conversationId value.participantId value.capabilityGeneration value.attachSecret

def referencedIdentity : ParticipantReferenceEnvelope → ConversationId × ParticipantId
  | .credentialAttach request | .detach request | .participantAck request | .leave request | .markerAck request
  | .recordAdmission request => (request.conversationId, request.participantId)

variable (aggregate : ClientParticipantAggregate)

def applyLeft (conversationId : ConversationId)
    (participantId : ParticipantId) (generation : Generation) : ClientParticipantAggregate :=
  { aggregate with
    binding := .left conversationId participantId generation
    detachReplay :=
      (aggregate.detachReplay.applyRetired conversationId participantId generation).1 }

def applyRetired : Retired → ClientParticipantAggregate
  | .enrollment request participantId retiredGeneration =>
    applyLeft aggregate request.conversationId participantId retiredGeneration
  | .participant request retiredGeneration =>
    applyLeft aggregate (referencedIdentity request).1 (referencedIdentity request).2 retiredGeneration

variable (value : ServerValue)

def applyCorrelatedValue : ClientParticipantAggregate := match value with
  | .enrollBound value | .bound (.enrollment value) => { aggregate with binding := enrollBinding value }
  | .attachBound value | .bound (.credentialAttach value) =>
    { aggregate with
      binding := attachBinding value
      detachReplay := (aggregate.detachReplay.applyAttach value).1 }
  | .unboundReceipt (.credentialAttach value) =>
    { aggregate with
      binding := unboundAttachBinding value
      detachReplay := (aggregate.detachReplay.applyAttach value).1 }
  | .detachCommitted value =>
    match aggregate.binding.retainedSecret with
    | some attachSecret =>
      { aggregate with
        binding := .detached value.conversationId value.participantId value.capabilityGeneration attachSecret
        detachReplay := (aggregate.detachReplay.applyDetachCommitted value).1 }
    | none => aggregate
  | .detachInProgress value =>
    { aggregate with detachReplay := (aggregate.detachReplay.applyDetachInProgress value).1 }
  | .staleAuthority (.detach (.terminalizedDetachCell value)) =>
    { aggregate with detachReplay := (aggregate.detachReplay.applyTerminalizedDetachCell value).1 }
  | .leaveCommitted value =>
    { aggregate with
      binding := .left value.conversationId value.participantId value.retiredGeneration
      detachReplay := (aggregate.detachReplay.applyLeave value).1 }
  | .retired value => applyRetired aggregate value
  -- the enrollment half of an unbound receipt stays inert, its attach twin is adopted above
  | _ => aggregate

def retireExpectedOperation : ClientParticipantAggregate :=
  let retired := applyCorrelatedValue { aggregate with expected := none } value
  match aggregate.expected with
  | some ⟨.detach request, _, _, _⟩ =>
    { retired with detachReplay := (retired.detachReplay.settleRefusedAuthority request value).1 }
  | _ => retired

/-! ### Deciding -/

variable (request : ClientRequest)

def answersObserverRecovery : Bool := match value, request with
  | .observerRecoveryAccepted _, .observerRecovery _ | .invalidObserverEpoch _, .observerRecovery _
  | .invalidObserverEpochList _, .observerRecovery _ => true
  | _, _ => false

def mismatchReason : ClientInboundRefusalReason :=
  if (value.originatingRequest = some request.discriminant ∨
      answersObserverRecovery value request) ∧ sameIdentity value request then
    match request with
    | .recordAdmission _ => .ambiguousResponse
    | _ => .delayedResponse
  else .foreignResponse

def isTransportRejection : ServerValue → Bool
  | .participantTransportRejected _ => true
  | _ => false

def decideInboundInner (hasResponseAuthority : Bool) : ClientInboundDecision :=
  if aggregate.binding.isLeft then .refused aggregate value .alreadyDead
  else
    match participantAckRequest value with
    | some request =>
      if aggregate.binding.matchesAck request then .applied aggregate value
      else .refused aggregate value .foreignResponse
    | none =>
      if isTransportRejection value then .applied aggregate value
      else
        match aggregate.expected with
        | none => .refused aggregate value .delayedResponse
        | some expected =>
          if expected.lost.isSome then .refused aggregate value .lostAuthorityPending
          else if ¬hasResponseAuthority then .refused aggregate value .missingResponseAuthority
          else if ¬aggregate.binding.acceptsRequest expected.request then
            .refused aggregate value .foreignResponse
          else if ¬matchesRequest value expected.request then
            .refused aggregate value (mismatchReason value expected.request)
          else .applied (retireExpectedOperation aggregate value) value

def decideInbound : ClientInboundDecision := decideInboundInner aggregate value false

variable (correlation : ClientResponseCorrelation)

def currentAuthority : Bool :=
  aggregate.expected.any fun expected =>
    expected.issued ∧ expected.authorization = correlation.authorization

def decideCorrelatedInbound : ClientCorrelatedInboundDecision :=
  if ¬currentAuthority aggregate correlation then
    .refused aggregate value correlation .delayedResponse
  else
    match decideInboundInner aggregate value true with
    | .applied aggregate value => .applied aggregate value
    | .refused aggregate value reason => .refused aggregate value correlation reason

end Liminal.Client
