import Liminal.Lifecycle.ClaimFrontier.Leave
import Liminal.Lifecycle.Attach

/-!
# Committing a Leave

The member's half of a Leave: the request must be its own, its binding settled (or its pending
terminal composed into the Leave), and the detach cell must agree with the last terminal. The result
is a tombstone and the frontiers without the member.
-/

namespace Liminal

open Fallible

inductive LeaveVerificationError
  | conversation
  | participant
  | generation
  | secret

structure VerifiedLeaveRequest where
  conversationId : ConversationId
  participantId : ParticipantId
  generation : Generation

structure LeaveCommitted where
  conversationId : ConversationId
  participantId : ParticipantId
  (presentedGeneration retiredGeneration : Generation)
  endedBindingEpoch : Option BindingEpoch
  priorTerminalDeliverySeq : Option DeliverySeq
  leftDeliverySeq : DeliverySeq

def LeaveCommitted.new (conversationId : ConversationId) (participantId : ParticipantId)
    (generation : Generation) (endedBindingEpoch : Option BindingEpoch)
    (priorTerminalDeliverySeq : Option DeliverySeq) (leftDeliverySeq : DeliverySeq) : Option LeaveCommitted :=
  if (∀ epoch ∈ endedBindingEpoch, epoch.capabilityGeneration = generation) ∧
      ∀ prior ∈ priorTerminalDeliverySeq, prior < leftDeliverySeq then
    some ⟨conversationId, participantId, generation, generation, endedBindingEpoch,
      priorTerminalDeliverySeq, leftDeliverySeq⟩
  else none

structure RetiredIdentity where
  participantId : ParticipantId
  conversationId : ConversationId
  retiredGeneration : Generation
  leftAdmissionOrder : AdmissionOrder
  committedResult : LeaveCommitted

structure LeaveCommit where
  identity : RetiredIdentity
  frontiers : ClaimFrontiers

structure PendingLeaveCommitParameters where
  (terminalDeliverySeq leftDeliverySeq : DeliverySeq)

namespace LiveMember

variable (member : LiveMember)

def verifyLeaveRequest (request : LeaveRequest) (secretProof : AttachSecretProof) :
    Except LeaveVerificationError VerifiedLeaveRequest := do
  require (request.conversationId = member.conversationId) .conversation
  require (request.participantId = member.participantId) .participant
  require (request.capabilityGeneration = member.generation) .generation
  require (secretProof ≠ .mismatch) .secret
  return ⟨request.conversationId, request.participantId, request.capabilityGeneration⟩

def retire (leftAdmissionOrder : AdmissionOrder) (result : LeaveCommitted) :
    Except RetirementError RetiredIdentity := do
  require (result.conversationId = member.conversationId) .conversation
  require (result.participantId = member.participantId) .participant
  require (result.presentedGeneration = member.generation) .generation
  require (result.retiredGeneration = member.generation) .retiredGeneration
  require (leftAdmissionOrder.candidatePhase = .membershipExit ∧
    leftAdmissionOrder.participantIndex = member.participantId) .leftAdmissionOrder
  return ⟨member.participantId, member.conversationId, result.retiredGeneration, leftAdmissionOrder, result⟩

def validateVerified (verified : VerifiedLeaveRequest) : Except LeaveCommitError Unit :=
  require (verified.conversationId = member.conversationId ∧ verified.participantId = member.participantId ∧
    verified.generation = member.generation) .verifiedAuthority

def validateActive (participantId : ParticipantId)
    (conversationId : ConversationId) (bindingEpoch : BindingEpoch) : Except LeaveCommitError Unit :=
  require (participantId = member.participantId ∧ conversationId = member.conversationId ∧
    bindingEpoch.capabilityGeneration = member.generation) .bindingAuthority

def settledLeaveEpoch (bindingState : BindingState) : Except LeaveCommitError (Option BindingEpoch) :=
  match bindingState with
  | .detached => .ok none
  | .bound active => do
    member.validateActive active.participantId active.conversationId active.bindingEpoch
    return some active.bindingEpoch
  | .pendingFinalization _ => .error .pendingTerminalRequiresComposition

def validateSettledCell (bindingState : BindingState) (detachCell : DetachCell) : Except LeaveCommitError Unit :=
  match detachCell with
  | .empty => .ok ()
  | .pending _ => .error .pendingDetachState
  | .committed cell => do
    require (bindingState = .detached ∧ cell.participantId = member.participantId ∧
      cell.requestGeneration = member.generation) .terminalHistory
    let terminal ← orError member.latestTerminal .terminalHistory
    require (terminal.detachedCause = some .cleanDeregister ∧ terminal.identity.bindingEpoch =
      cell.committedBindingEpoch ∧ terminal.deliverySeq = cell.detachedDeliverySeq) .terminalHistory
  | .terminalized cell =>
    require (cell.participantId = member.participantId ∧ member.latestTerminal.isSome = true) .terminalHistory

end LiveMember

def validatePendingCell (conversationId : ConversationId) (pending : PendingFinalization)
    (detachCell : DetachCell) : Except LeaveCommitError Unit :=
  match detachCell with
  | .pending cell => do
    let _ ← (validatePendingPair (.pendingFinalization pending) cell
      (some conversationId)).mapError fun _ => LeaveCommitError.pendingDetachState
  | .committed _ => .error .terminalHistory
  | .terminalized cell =>
    require (cell.participantId = pending.identity.participantId) .terminalHistory
  | .empty => .ok ()

variable (member : LiveMember)

/-- Both kinds of Leave end here: the tombstone and the frontiers without the member. -/
def finishLeave (verified : VerifiedLeaveRequest)
    (endedBindingEpoch : Option BindingEpoch) (priorTerminalDeliverySeq : Option DeliverySeq)
    (committedTerminal : Option CommittedBindingTerminal) (leftTransactionOrder : TransactionOrder)
    (leftDeliverySeq : DeliverySeq) (frontiers : ClaimFrontiers) : Except LeaveCommitError LeaveCommit := do
  require (verified.generation = member.generation) .verifiedAuthority
  let result ← orError (LeaveCommitted.new verified.conversationId verified.participantId
    member.generation endedBindingEpoch priorTerminalDeliverySeq leftDeliverySeq) .terminalSequenceOrder
  let frontiers ← frontiers.finishLeaveClaims verified.participantId endedBindingEpoch
    committedTerminal leftDeliverySeq leftTransactionOrder
  let retired ← (member.retire ⟨leftTransactionOrder, .membershipExit, verified.participantId⟩
    result).mapError .retirementInvariant
  return ⟨retired, frontiers⟩

def commitLeave (bindingState : BindingState) (detachCell : DetachCell)
    (verified : VerifiedLeaveRequest) (authority : PreparedLeaveAuthority)
    (leftDeliverySeq : DeliverySeq) : Except LeaveCommitError LeaveCommit := do
  member.validateVerified verified
  let endedBindingEpoch ← member.settledLeaveEpoch bindingState
  member.validateSettledCell bindingState detachCell
  let (leftTransactionOrder, frontiers) ← authority.consumeSettled member.conversationId
    member.participantId endedBindingEpoch
  let priorTerminalDeliverySeq := member.latestTerminal.map CommittedBindingTerminal.deliverySeq
  require (∀ prior ∈ priorTerminalDeliverySeq, prior < leftDeliverySeq) .terminalSequenceOrder
  finishLeave member verified endedBindingEpoch priorTerminalDeliverySeq none leftTransactionOrder
    leftDeliverySeq frontiers

/-- A member whose terminal is pending leaves: the terminal is committed right before the Left record. -/
def commitPendingLeave (pending : PendingFinalization) (detachCell : DetachCell)
    (verified : VerifiedLeaveRequest) (authority : PreparedLeaveAuthority)
    (parameters : PendingLeaveCommitParameters) : Except LeaveCommitError LeaveCommit := do
  member.validateVerified verified
  let identity := pending.identity
  member.validateActive identity.participantId identity.conversationId identity.bindingEpoch
  let (leftTransactionOrder, frontiers) ← authority.consumePending identity.conversationId
    identity.participantId identity.bindingEpoch identity.admissionOrder
  validatePendingCell member.conversationId pending detachCell
  require (parameters.terminalDeliverySeq < parameters.leftDeliverySeq) .terminalSequenceOrder
  let committedTerminal := pending.commit parameters.terminalDeliverySeq
  (validateTerminal member.participantId member.conversationId member.generation
    (some committedTerminal)).mapError fun _ => .bindingAuthority
  finishLeave member verified none (some committedTerminal.deliverySeq) (some committedTerminal)
    leftTransactionOrder parameters.leftDeliverySeq frontiers

end Liminal
