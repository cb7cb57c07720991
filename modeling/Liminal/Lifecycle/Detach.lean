import Liminal.Lifecycle.Membership
import Liminal.Wire.Response

/-!
# Detach

A participant may ask once per generation to be detached. The cell beside its binding remembers that
request: pending while its terminal waits for room, committed once it has its position, terminalized
when a later attach has made it history.
-/

namespace Liminal

open Fallible

variable {member : LiveMember} {binding : ActiveBinding} {request : DetachRequest} {requestVerifier : RequestVerifier}
  {previousCell : DetachCell} {transactionOrder : TransactionOrder} {deliverySeq : DeliverySeq}
  {transition : CommittedDetachTransition}

structure PendingDetach where
  token : DetachAttemptToken
  participantId : ParticipantId
  requestGeneration : Generation
  requestVerifier : RequestVerifier
  committedBindingEpoch : BindingEpoch
  admissionOrder : AdmissionOrder
  refusedEpoch : DeliverySeq

structure CommittedDetach where
  token : DetachAttemptToken
  participantId : ParticipantId
  requestGeneration : Generation
  requestVerifier : RequestVerifier
  committedBindingEpoch : BindingEpoch
  detachedDeliverySeq : DeliverySeq

structure TerminalizedDetach where
  token : DetachAttemptToken
  participantId : ParticipantId
  requestGeneration : Generation
  requestVerifier : RequestVerifier
  committedBindingEpoch : BindingEpoch

inductive DetachCell
  | empty
  | pending (cell : PendingDetach)
  | committed (cell : CommittedDetach)
  | terminalized (cell : TerminalizedDetach)

structure DetachBackpressure where
  request : DetachRequest
  committedBindingEpoch : BindingEpoch
  (backpressureEpoch observerProgress : DeliverySeq)

inductive DetachVerificationError
  | conversation
  | participant
  | generation

inductive DetachCommitError
  | pendingCell
  | committedCell
  | terminalizedCellAuthority
  | membershipAuthority
  | terminalHistory (error : MembershipInvariantError)

inductive DetachReplayError
  | token
  | participant
  | generation
  | requestVerifier
  | statePair
  | membershipAuthority
  | terminalHistory (error : MembershipInvariantError)

namespace PendingDetach

variable (cell : PendingDetach)

def terminalizeAfterAttach : TerminalizedDetach :=
  ⟨cell.token, cell.participantId, cell.requestGeneration, cell.requestVerifier, cell.committedBindingEpoch⟩

def commit (detachedDeliverySeq : DeliverySeq) : CommittedDetach :=
  ⟨cell.token, cell.participantId, cell.requestGeneration, cell.requestVerifier,
    cell.committedBindingEpoch, detachedDeliverySeq⟩

def backpressure (conversationId : ConversationId)
    (observerProgress : DeliverySeq) : DetachBackpressure :=
  ⟨⟨conversationId, cell.participantId, cell.requestGeneration, cell.token⟩,
    cell.committedBindingEpoch, observerProgress, observerProgress⟩

end PendingDetach

namespace CommittedDetach

def terminalizeAfterAttach (cell : CommittedDetach) : TerminalizedDetach :=
  ⟨cell.token, cell.participantId, cell.requestGeneration, cell.requestVerifier, cell.committedBindingEpoch⟩

def outcome (cell : CommittedDetach) (conversationId : ConversationId) : DetachCommitted :=
  ⟨conversationId, cell.participantId, cell.token, cell.committedBindingEpoch, cell.detachedDeliverySeq⟩

end CommittedDetach

def ActiveBinding.verifyDetachRequest (binding : ActiveBinding) (request : DetachRequest) :
    Except DetachVerificationError Unit := do
  require (request.conversationId = binding.conversationId) .conversation
  require (request.participantId = binding.participantId) .participant
  require (request.capabilityGeneration = binding.bindingEpoch.capabilityGeneration) .generation

def LiveMember.validateMemberAuthority (member : LiveMember) (binding : ActiveBinding) : Prop :=
  member.participantId = binding.participantId ∧ member.conversationId = binding.conversationId ∧
    member.generation = binding.bindingEpoch.capabilityGeneration

instance (member : LiveMember) (binding : ActiveBinding) : Decidable (member.validateMemberAuthority binding) :=
  inferInstanceAs (Decidable (_ ∧ _ ∧ _))

def validatePreviousCell (member : LiveMember) (cell : DetachCell) : Except DetachCommitError Unit :=
  match cell with
  | .empty => .ok ()
  | .pending _ => .error .pendingCell
  | .committed _ => .error .committedCell
  | .terminalized cell =>
    require (cell.participantId = member.participantId ∧ cell.requestGeneration < member.generation)
      .terminalizedCellAuthority

/-- The pending cell and the binding's pending terminal are two halves of one clean detach. -/
def validatePendingPair (bindingState : BindingState) (cell : PendingDetach)
    (expectedConversationId : Option ConversationId) : Except DetachReplayError PendingFinalization :=
  match bindingState with
  | .pendingFinalization finalization => do
    require ((∀ conversation ∈ expectedConversationId, finalization.identity.conversationId = conversation) ∧
      finalization.identity.participantId = cell.participantId ∧ finalization.identity.bindingEpoch =
      cell.committedBindingEpoch ∧ finalization.identity.admissionOrder = cell.admissionOrder ∧
      finalization.detachedCause = some .cleanDeregister) .statePair
    return finalization
  | _ => .error .statePair

structure CommittedDetachTransition where
  member : LiveMember
  terminal : CommittedDetachedTerminal
  cell : CommittedDetach
  outcome : DetachCommitted

structure PendingDetachTransition where
  member : LiveMember
  pending : PendingDetachedFinalization
  cell : PendingDetach
  outcome : DetachBackpressure

variable (member binding request requestVerifier previousCell transactionOrder)

def commitDetach (deliverySeq : DeliverySeq) : Except DetachCommitError CommittedDetachTransition := do
  validatePreviousCell member previousCell
  require (member.validateMemberAuthority binding) .membershipAuthority
  let terminal : CommittedDetachedTerminal :=
    ⟨.fromActive binding transactionOrder, .cleanDeregister, deliverySeq⟩
  let member ← (member.withCommittedTerminal (.detached terminal)).mapError .terminalHistory
  let cell : CommittedDetach := ⟨request.detachAttemptToken, request.participantId,
    request.capabilityGeneration, requestVerifier, binding.bindingEpoch, deliverySeq⟩
  return ⟨member, terminal, cell, cell.outcome request.conversationId⟩

/-- A detach the log has no room for: the binding ends, its terminal is pended. -/
def startBlockedDetach (observerProgress : DeliverySeq) : Except DetachCommitError PendingDetachTransition := do
  validatePreviousCell member previousCell
  require (member.validateMemberAuthority binding) .membershipAuthority
  let pending : PendingDetachedFinalization :=
    ⟨.fromActive binding transactionOrder, .cleanDeregister⟩
  let cell : PendingDetach := ⟨request.detachAttemptToken, request.participantId, request.capabilityGeneration,
    requestVerifier, binding.bindingEpoch, pending.identity.admissionOrder, observerProgress⟩
  return ⟨member, pending, cell, cell.backpressure binding.conversationId observerProgress⟩

def validateMemberFinalization (finalization : PendingFinalization) : Prop :=
  member.participantId = finalization.identity.participantId ∧ member.conversationId =
    finalization.identity.conversationId ∧ member.generation = finalization.identity.bindingEpoch.capabilityGeneration

instance (member : LiveMember) (finalization : PendingFinalization) :
    Decidable (validateMemberFinalization member finalization) :=
  inferInstanceAs (Decidable (_ ∧ _ ∧ _))

def completePendingDetach (bindingState : BindingState) (cell : PendingDetach)
    (detachedDeliverySeq : DeliverySeq) : Except DetachReplayError CommittedDetachTransition := do
  let finalization ← validatePendingPair bindingState cell none
  require (validateMemberFinalization member finalization) .membershipAuthority
  match finalization with
  | .detached pending => do
    let terminal : CommittedDetachedTerminal := ⟨pending.identity, pending.cause, detachedDeliverySeq⟩
    let member ← (member.withCommittedTerminal (.detached terminal)).mapError .terminalHistory
    let committed := cell.commit detachedDeliverySeq
    return ⟨member, terminal, committed, committed.outcome pending.identity.conversationId⟩
  | .died _ => .error .statePair

variable {member binding previousCell transactionOrder}

/-! ### Replay of a stored request -/

def verifyStoredRequest (token : DetachAttemptToken) (participantId : ParticipantId)
    (requestGeneration : Generation) (storedVerifier : RequestVerifier) (request : DetachRequest)
    (requestVerifier : RequestVerifier) : Except DetachReplayError Unit := do
  require (request.detachAttemptToken = token) .token
  require (request.participantId = participantId) .participant
  require (request.capabilityGeneration = requestGeneration) .generation
  require (requestVerifier = storedVerifier) .requestVerifier

def PendingDetach.verifyExact (cell : PendingDetach) : Except DetachReplayError Unit :=
  verifyStoredRequest cell.token cell.participantId cell.requestGeneration cell.requestVerifier request requestVerifier

def CommittedDetach.verifyExact (cell : CommittedDetach) : Except DetachReplayError Unit :=
  verifyStoredRequest cell.token cell.participantId cell.requestGeneration cell.requestVerifier request requestVerifier

def TerminalizedDetach.verifyExact (cell : TerminalizedDetach) : Except DetachReplayError Unit :=
  verifyStoredRequest cell.token cell.participantId cell.requestGeneration cell.requestVerifier request requestVerifier

variable {request requestVerifier}

/-- What came of the drain a replay under newer observer progress has to attempt. -/
inductive PendingDrainDecision
  | notAttempted
  | stillBlocked
  | committed (detachedDeliverySeq : DeliverySeq)
deriving DecidableEq

inductive PendingReplayError
  | observerProgressRegression
  | drainRequired
  | unexpectedDrain
  | statePair
  | membershipAuthority
  | terminalHistory (error : MembershipInvariantError)

inductive PendingReplay
  | pending (member : LiveMember) (bindingState : BindingState) (cell : PendingDetach) (outcome : DetachBackpressure)
  | committed (transition : CommittedDetachTransition)

structure PendingReplayRequest where
  conversationId : ConversationId
  bindingState : BindingState
  cell : PendingDetach
  observerProgress : DeliverySeq

def mapPendingReplayError : DetachReplayError → PendingReplayError
  | .membershipAuthority => .membershipAuthority
  | .terminalHistory error => .terminalHistory error
  | .token | .participant | .generation | .requestVerifier | .statePair => .statePair

/-- Equal progress repeats the refusal; greater progress needs the outcome of a drain. -/
def PendingReplayRequest.apply (replay : PendingReplayRequest) (member : LiveMember)
    (decision : PendingDrainDecision) : Except PendingReplayError PendingReplay := do
  let finalization ← (validatePendingPair replay.bindingState replay.cell
    (some replay.conversationId)).mapError fun _ => .statePair
  require (validateMemberFinalization member finalization) .membershipAuthority
  require (replay.cell.refusedEpoch ≤ replay.observerProgress) .observerProgressRegression
  if replay.observerProgress = replay.cell.refusedEpoch then do
    require (decision = .notAttempted) .unexpectedDrain
    return .pending member replay.bindingState replay.cell
      (replay.cell.backpressure replay.conversationId replay.observerProgress)
  else
    match decision with
    | .notAttempted => .error .drainRequired
    | .stillBlocked =>
      let cell := { replay.cell with refusedEpoch := replay.observerProgress }
      return .pending member replay.bindingState cell (cell.backpressure replay.conversationId replay.observerProgress)
    | .committed detachedDeliverySeq => do
      let transition ← (completePendingDetach member replay.bindingState replay.cell
        detachedDeliverySeq).mapError mapPendingReplayError
      return .committed transition

/-! ### What a successful detach has checked -/

theorem commitDetach_eq_ok (h : commitDetach member binding request requestVerifier previousCell transactionOrder
      deliverySeq = .ok transition) :
    transition.terminal = ⟨.fromActive binding transactionOrder, .cleanDeregister, deliverySeq⟩ ∧
      transition.member = { member with latestTerminal := some (.detached transition.terminal) } ∧
      member.validateMemberAuthority binding := by
  simp only [commitDetach, ok_iff] at h
  obtain ⟨_, _, hmember, updated, hupdated, rfl⟩ := h
  exact ⟨rfl, (LiveMember.withCommittedTerminal_eq_ok hupdated).1, hmember⟩

theorem startBlockedDetach_eq_ok {transition}
    (h : startBlockedDetach member binding request requestVerifier previousCell transactionOrder
      observerProgress = .ok transition) : transition.member = member ∧
      transition.pending = ⟨.fromActive binding transactionOrder, .cleanDeregister⟩ ∧
      member.validateMemberAuthority binding := by
  simp only [startBlockedDetach, ok_iff] at h
  obtain ⟨_, _, hmember, rfl⟩ := h
  exact ⟨rfl, rfl, hmember⟩

theorem completePendingDetach_eq_ok (h : completePendingDetach member (.pendingFinalization pending) cell deliverySeq =
    .ok transition) : transition.member = { member with latestTerminal := some (pending.commit deliverySeq) } := by
  simp only [completePendingDetach, validatePendingPair, ok_iff] at h
  obtain ⟨_, ⟨-, rfl⟩, -, h⟩ := h
  cases pending with
  | detached pending =>
    simp only [ok_iff] at h
    obtain ⟨updated, hupdated, rfl⟩ := h
    exact (LiveMember.withCommittedTerminal_eq_ok hupdated).1
  | died pending => cases h

end Liminal
