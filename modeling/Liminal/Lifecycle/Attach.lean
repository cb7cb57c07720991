import Liminal.Lifecycle.BindingFate
import Liminal.Lifecycle.Detach
import Liminal.Lifecycle.Enrollment

/-!
# Attach

A member comes back with its credential: detached, superseding its old binding, or through a fenced
recovery. The attach rotates the generation, keeps the cursor unless it is fenced, and hands out the
token that measures the new binding's fate.
-/

namespace Liminal

open Checked Fallible

inductive AttachSecretProof
  | verified
  | mismatch
deriving DecidableEq

structure AttachCommitParameters where
  binding : ActiveBinding
  transactionOrder : TransactionOrder
  deliverySeq : DeliverySeq

inductive AttachVerificationError
  | conversation
  | participant
  | generation
  | secret
  | bindingState
  | markerProof
  | recoveryAuthority
  | pendingTerminalSequence
  | resultBinding
  | resultGeneration
  | lifecycleOrder
  | terminalHistory
  | closureOwed

inductive AttachCommitError
  | pendingDetach
  | detachCellAuthority
  | bindingCellState
  | terminalHistory
  | membershipInvariant (error : MembershipInvariantError)

inductive AttachTransition
  | detached
  | superseded (terminal : CommittedDetachedTerminal)
  | fencedRecovery (priorBindingEpoch : BindingEpoch)
      (composedTerminal : Option CommittedBindingTerminal) (nextClosureState : ClosureState)

inductive AttachMode
  | detached
  | superseded (terminal : CommittedDetachedTerminal)
  | fenced (proof : FencedAttachCommit) (pending : Option (PendingFinalization × DeliverySeq))

structure AttachCommit where
  member : LiveMember
  binding : ActiveBinding
  detachCell : DetachCell
  attached : AttachedLifecycleRecord
  transition : AttachTransition
  token : SealedBindingFateToken

namespace LiveMember

variable (member : LiveMember)

def verifyAttachCommon (request : CredentialAttachRequest)
    (secretProof : AttachSecretProof) (parameters : AttachCommitParameters) : Except AttachVerificationError Unit := do
  require (request.conversationId = member.conversationId) .conversation
  require (request.participantId = member.participantId) .participant
  require (request.capabilityGeneration = member.generation) .generation
  require (secretProof = .verified) .secret
  require (parameters.binding.conversationId = member.conversationId ∧
    parameters.binding.participantId = member.participantId) .resultBinding
  let nextGeneration ← orError (add u64Max member.generation 1) .resultGeneration
  require (parameters.binding.bindingEpoch.capabilityGeneration = nextGeneration) .resultGeneration

variable (bindingState : BindingState)

/-- An ordinary attach of a detached member is admitted only while the conversation owes nothing. -/
def verifyDetachedAttach (closureState : ClosureState) (request : CredentialAttachRequest)
    (secretProof : AttachSecretProof) (parameters : AttachCommitParameters) :
    Except AttachVerificationError AttachMode := do
  require (closureState = .clear) .closureOwed
  member.verifyAttachCommon request secretProof parameters
  require (bindingState = .detached) .bindingState
  require (request.acceptMarkerDeliverySeq = none) .markerProof
  return .detached

def verifySupersedingAttach (activeBinding : ActiveBinding) (request : CredentialAttachRequest)
    (secretProof : AttachSecretProof) (terminalOrder : TransactionOrder) (terminalSeq : DeliverySeq)
    (parameters : AttachCommitParameters) : Except AttachVerificationError AttachMode := do
  member.verifyAttachCommon request secretProof parameters
  require (member.validateMemberAuthority activeBinding) .bindingState
  require (request.acceptMarkerDeliverySeq = none) .markerProof
  require (terminalOrder = parameters.transactionOrder) .lifecycleOrder
  return .superseded (activeBinding.superseded terminalOrder terminalSeq)

/-- A pending terminal is composed into the fenced attach at the position given for it. -/
def fencedPending (proof : FencedAttachCommit) (pendingTerminalDeliverySeq : Option DeliverySeq) :
    Except AttachVerificationError (Option (PendingFinalization × DeliverySeq)) :=
  match bindingState, pendingTerminalDeliverySeq with
  | .detached, none => do
    require (∃ terminal ∈ member.latestTerminal,
      terminal.identity.bindingEpoch = proof.priorBindingEpoch) .terminalHistory
    return none
  | .pendingFinalization finalization, some sequence => do
    require (finalization.identity.conversationId = member.conversationId ∧ finalization.identity.participantId =
      member.participantId ∧ finalization.identity.bindingEpoch = proof.priorBindingEpoch) .bindingState
    return some (finalization, sequence)
  | .bound _, _ => .error .bindingState
  | _, _ => .error .pendingTerminalSequence

def verifyFencedAttach (request : CredentialAttachRequest) (secretProof : AttachSecretProof)
    (proof : FencedAttachCommit) (pendingTerminalDeliverySeq : Option DeliverySeq)
    (parameters : AttachCommitParameters) : Except AttachVerificationError AttachMode := do
  member.verifyAttachCommon request secretProof parameters
  require (request.acceptMarkerDeliverySeq = some proof.markerDeliverySeq) .markerProof
  require (proof.participantId = member.participantId ∧ proof.priorBindingEpoch.capabilityGeneration =
    member.generation ∧ proof.newBindingEpoch = parameters.binding.bindingEpoch) .recoveryAuthority
  let pending ← member.fencedPending bindingState proof pendingTerminalDeliverySeq
  return .fenced proof pending

end LiveMember

def transitionDetachCell (mode : AttachMode) (member : LiveMember) (cell : DetachCell) :
    Except AttachCommitError DetachCell :=
  match cell with
  | .empty => .ok .empty
  | .pending cell =>
    match mode with
    | .fenced _ (some (finalization, _)) => do
      let _ ← (validatePendingPair (.pendingFinalization finalization) cell
        (some member.conversationId)).mapError fun _ => .bindingCellState
      return .terminalized cell.terminalizeAfterAttach
    | _ => .error .pendingDetach
  | .committed cell => do
    let supersedes := match mode with
      | .superseded _ => true
      | _ => false
    require (supersedes = false ∧ cell.participantId = member.participantId ∧
      cell.requestGeneration = member.generation) .detachCellAuthority
    let terminal ← orError member.latestTerminal .terminalHistory
    require (terminal.detachedCause = some .cleanDeregister ∧ terminal.identity.bindingEpoch =
      cell.committedBindingEpoch ∧ terminal.deliverySeq = cell.detachedDeliverySeq) .terminalHistory
    return .terminalized cell.terminalizeAfterAttach
  | .terminalized cell => do
    require (cell.participantId = member.participantId) .detachCellAuthority
    return .terminalized cell

def attachParts (mode : AttachMode) (cursor : DeliverySeq) :
    DeliverySeq × Option CommittedBindingTerminal × AttachTransition × Option FencedAttachCommit :=
  match mode with
  | .detached => (cursor, none, .detached, none)
  | .superseded terminal => (cursor, some (.detached terminal), .superseded terminal, none)
  | .fenced proof pending =>
    let composed := pending.map fun (finalization, sequence) => finalization.commit sequence
    (proof.markerDeliverySeq, composed, .fencedRecovery proof.priorBindingEpoch composed proof.nextState, some proof)

def commitAttach (member : LiveMember) (parameters : AttachCommitParameters) (mode : AttachMode)
    (detachCell : DetachCell) : Except AttachCommitError AttachCommit := do
  let nextCell ← transitionDetachCell mode member detachCell
  let attached := AttachedLifecycleRecord.fromBinding parameters.binding parameters.transactionOrder
    parameters.deliverySeq
  let (persistedCursor, terminal, transition, recovered) := attachParts mode member.cursor
  let member ← (member.rotate parameters.binding.bindingEpoch.capabilityGeneration persistedCursor
    terminal).mapError .membershipInvariant
  let ordinary := match recovered with
    | none => some ⟨parameters.binding, persistedCursor⟩
    | some _ => none
  return ⟨member, parameters.binding, nextCell, attached, transition, ⟨ordinary, recovered, member.cursor⟩⟩

theorem commitAttach_eq_ok
    (h : commitAttach member parameters mode detachCell = .ok commit) : commit.member = { member with
        generation := parameters.binding.bindingEpoch.capabilityGeneration
        cursor := (attachParts mode member.cursor).1
        latestTerminal := (attachParts mode member.cursor).2.1.or member.latestTerminal } ∧
      commit.binding = parameters.binding ∧
      commit.attached = .fromBinding parameters.binding parameters.transactionOrder parameters.deliverySeq ∧
      commit.transition = (attachParts mode member.cursor).2.2.1 ∧
      commit.token = ⟨match (attachParts mode member.cursor).2.2.2 with
          | none => some ⟨parameters.binding, (attachParts mode member.cursor).1⟩
          | some _ => none, (attachParts mode member.cursor).2.2.2, (attachParts mode member.cursor).1⟩ := by
  simp only [commitAttach, ok_iff] at h
  obtain ⟨cell, -, rotated, hrotated, rfl⟩ := h
  have hmember := LiveMember.rotate_eq_ok hrotated
  subst hmember
  exact ⟨rfl, rfl, rfl, rfl, rfl⟩

end Liminal
