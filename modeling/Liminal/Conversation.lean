import Liminal.Library.Machine
import Liminal.Lifecycle.Operations.BindingFate
import Liminal.Lifecycle.Operations.BindingTerminal
import Liminal.Lifecycle.Operations.MarkerDrain
import Liminal.Lifecycle.Operations.RecordAdmission

/-!
# A conversation

One live owner, one slot for each live member, the tombstones of those that left, and the hard
observer progress. An operation changes the slot and the owner together, or is refused and changes
nothing. Operations come in any order; a binding fate may be measured at any time after its death.
-/

namespace Liminal

open Checked Fallible

/-- A member, its binding, the cell of its last detach, the token of its binding's fate and a fate still to be
installed. -/
structure ParticipantSlot where
  member : LiveMember
  binding : BindingState
  detachCell : DetachCell
  fateToken : Option SealedBindingFateToken
  finalizer : Option LiveFrontierOwner.PendingDiedOrdinaryFinalizer

namespace ParticipantSlot

abbrev participantId (slot : ParticipantSlot) : ParticipantId := slot.member.participantId

/-- How snapshot restore sees the slot in the frontier. A detached member without a terminal has no place there. -/
def frontierProjection (slot : ParticipantSlot) : Option FrontierParticipant :=
  match slot.binding with
  | .bound binding => some ⟨slot.participantId, slot.member.cursor, .bound binding.bindingEpoch⟩
  | .pendingFinalization pending =>
    some ⟨slot.participantId, slot.member.cursor, .detached pending.identity.bindingEpoch⟩
  | .detached => slot.member.latestTerminal.map fun terminal =>
    ⟨slot.participantId, slot.member.cursor, .detached terminal.identity.bindingEpoch⟩

end ParticipantSlot

structure ConversationConfig where
  limits : OrdinaryProjectionLimits
  maxOrdinaryRecordCharge : ResourceVector

/-- Slots are kept in the order of their participants. -/
structure Conversation where
  config : ConversationConfig
  owner : LiveFrontierOwner
  slots : List ParticipantSlot
  retired : List RetiredIdentity
  observerProgress : DeliverySeq

def replaceSlot (slots : List ParticipantSlot) (slot : ParticipantSlot) : List ParticipantSlot :=
  slots.map fun current => if current.participantId = slot.participantId then slot else current

inductive FateKind
  | ordinary
  | recovered
  | recoveredAndReserveFinalizer

inductive Operation
  | enroll (slot : AllocatedParticipantSlot) (originBindingEpoch : BindingEpoch) (transactionOrder : TransactionOrder)
      (deliverySeq : DeliverySeq) (attachedCharge : RetainedRecordCharge)
  | attachDetached (request : CredentialAttachRequest) (secretProof : AttachSecretProof)
      (parameters : AttachCommitParameters) (charges : LiveFrontierOwner.AttachFrontierCharges)
  | attachSuperseding (request : CredentialAttachRequest) (secretProof : AttachSecretProof)
      (terminalOrder : TransactionOrder) (terminalSeq : DeliverySeq)
      (parameters : AttachCommitParameters) (charges : LiveFrontierOwner.AttachFrontierCharges)
  | attachFenced (request : CredentialAttachRequest) (secretProof : AttachSecretProof)
      (proof : FencedAttachCommit) (pendingTerminalDeliverySeq : Option DeliverySeq)
      (parameters : AttachCommitParameters) (charges : LiveFrontierOwner.AttachFrontierCharges)
  | detach (request : DetachRequest) (requestVerifier : RequestVerifier)
      (transactionOrder : TransactionOrder) (deliverySeq : DeliverySeq) (terminalCharge : RetainedRecordCharge)
  | detachBlocked (request : DetachRequest) (requestVerifier : RequestVerifier) (transactionOrder : TransactionOrder)
      (deliverySeq hardObserverProgress : DeliverySeq) (terminalCharge : RetainedRecordCharge)
  | endBinding (participant : ParticipantId) (cause : TerminalCause) (transactionOrder : TransactionOrder)
      (deliverySeq hardObserverProgress : DeliverySeq) (terminalCharge : RetainedRecordCharge)
  | drainTerminal (participant : ParticipantId) (terminalCharge : RetainedRecordCharge)
  | admitRecord (request : RecordAdmission) (receivingBindingEpoch : BindingEpoch)
      (encodedRecordCharge : ResourceVector) (hardObserverProgress : DeliverySeq)
  | drainMarker (markerCharge : RetainedRecordCharge)
  | ack (request : ParticipantAck) (receivingBindingEpoch : BindingEpoch) (availability : AckAvailability)
  | ackNonzero (request : ParticipantAck) (receivingBindingEpoch : BindingEpoch)
      (availability : AckAvailability) (hardObserverProgress : DeliverySeq)
  | ackMarker (request : MarkerAck) (receivingBindingEpoch : BindingEpoch) (markerState : MarkerProofState)
  | leave (request : LeaveRequest) (secretProof : AttachSecretProof) (leftDeliverySeq : DeliverySeq)
      (leftCharge : RetainedRecordCharge)
  | leavePending (request : LeaveRequest) (secretProof : AttachSecretProof)
      (parameters : PendingLeaveCommitParameters) (terminalCharge leftCharge : RetainedRecordCharge)
  | bindingFate (participant : ParticipantId) (kind : FateKind) (hardObserverProgress : DeliverySeq)
  | measurePendingFate (participant : ParticipantId) (hardObserverProgress : DeliverySeq)
  | completeFate (participant : ParticipantId)

namespace Conversation

variable (s : Conversation) (participant : ParticipantId)

def slot? : Option ParticipantSlot :=
  s.slots.find? fun slot => slot.participantId == participant

variable (slot : ParticipantSlot)

/-- One operation's outcome: the slot, the owner and the progress it projects, if any. -/
def commit (owner : LiveFrontierOwner) (projection : Option DeliverySeq) : Conversation :=
  { s with
    owner
    slots := replaceSlot s.slots slot
    observerProgress := max s.observerProgress (projection.getD 0) }

def retire (committed : LiveLeaveCommit) : Conversation :=
  { s with
    owner := committed.owner
    slots := s.slots.filter fun slot => slot.participantId ≠ committed.identity.participantId
    retired := s.retired ++ [committed.identity]
    observerProgress := max s.observerProgress committed.observerProgressProjection }

def fresh : Bool :=
  s.slots.all (fun slot => slot.participantId != participant) &&
    s.retired.all fun identity => identity.participantId != participant

/-! ### Enrollment and attach -/

def enroll (allocated : AllocatedParticipantSlot) (originBindingEpoch : BindingEpoch)
    (transactionOrder : TransactionOrder) (deliverySeq : DeliverySeq)
    (attachedCharge : RetainedRecordCharge) : Option Conversation := do
  guard (s.fresh allocated.participantId = true ∧ allocated.identityLimit = s.owner.frontiers.identitySlotLimit)
  let enrollment ← (commitEnrollment s.owner.frontiers.conversationId allocated originBindingEpoch
    transactionOrder deliverySeq).toOption
  let owner ← (s.owner.applyEnrollmentFrontier enrollment attachedCharge).toOption
  let slot : ParticipantSlot := ⟨enrollment.member, .bound enrollment.binding, .empty, none, none⟩
  return { s with
    owner
    slots := (s.slots ++ [slot]).insertionSort fun a b => a.participantId ≤ b.participantId }

def attach (parameters : AttachCommitParameters) (mode : AttachMode) (charges : LiveFrontierOwner.AttachFrontierCharges)
    (projection : Option DeliverySeq) : Option Conversation := do
  let committed ← (commitAttach slot.member parameters mode slot.detachCell).toOption
  let owner ← (s.owner.applyAttachFrontier committed charges).toOption
  return s.commit { slot with
    member := committed.member
    binding := .bound committed.binding
    detachCell := committed.detachCell
    fateToken := some committed.token } owner projection

variable (request : CredentialAttachRequest) (secretProof : AttachSecretProof)

def attachDetached (parameters : AttachCommitParameters)
    (charges : LiveFrontierOwner.AttachFrontierCharges) : Option Conversation := do
  let slot ← s.slot? request.participantId
  let mode ← (slot.member.verifyDetachedAttach slot.binding s.owner.closureAccounting.state request
    secretProof parameters).toOption
  s.attach slot parameters mode charges none

/-- The superseded terminal is projected. -/
def attachSuperseding (terminalOrder : TransactionOrder) (terminalSeq : DeliverySeq)
    (parameters : AttachCommitParameters) (charges : LiveFrontierOwner.AttachFrontierCharges) :
    Option Conversation := do
  let slot ← s.slot? request.participantId
  match slot.binding with
  | .bound active => do
    let mode ← (slot.member.verifySupersedingAttach active request secretProof terminalOrder
      terminalSeq parameters).toOption
    s.attach slot parameters mode charges (some terminalSeq)
  | _ => none

/-- A terminal composed into the fenced attach is projected. -/
def attachFenced (proof : FencedAttachCommit)
    (pendingTerminalDeliverySeq : Option DeliverySeq) (parameters : AttachCommitParameters)
    (charges : LiveFrontierOwner.AttachFrontierCharges) : Option Conversation := do
  let slot ← s.slot? request.participantId
  let mode ← (slot.member.verifyFencedAttach slot.binding request secretProof proof
    pendingTerminalDeliverySeq parameters).toOption
  s.attach slot parameters mode charges pendingTerminalDeliverySeq

/-! ### The end of a binding -/

variable (request : DetachRequest) (requestVerifier : RequestVerifier) (transactionOrder : TransactionOrder)

def detach (deliverySeq : DeliverySeq) (terminalCharge : RetainedRecordCharge) : Option Conversation := do
  let slot ← s.slot? request.participantId
  match slot.binding with
  | .bound active => do
    (active.verifyDetachRequest request).toOption
    let transition ← (commitDetach slot.member active request requestVerifier slot.detachCell
      transactionOrder deliverySeq).toOption
    let owner ← (s.owner.applyDetachFrontier transition terminalCharge).toOption
    return s.commit { slot with
      member := transition.member
      binding := .detached
      detachCell := .committed transition.cell
      fateToken := none } owner (some transition.terminal.deliverySeq)
  | _ => none

def detachBlocked (deliverySeq hardObserverProgress : DeliverySeq) (terminalCharge : RetainedRecordCharge) :
    Option Conversation := do
  let slot ← s.slot? request.participantId
  match slot.binding with
  | .bound active => do
    (active.verifyDetachRequest request).toOption
    let prepared ← (s.owner.prepareBindingTerminal active transactionOrder deliverySeq hardObserverProgress).toOption
    match prepared.admitTerminal terminalCharge with
    | .pending owner blockedAtObserver => do
      let transition ← (startBlockedDetach slot.member active request requestVerifier
        slot.detachCell transactionOrder blockedAtObserver).toOption
      return s.commit { slot with
        member := transition.member
        binding := .pendingFinalization (.detached transition.pending)
        detachCell := .pending transition.cell
        fateToken := none } owner none
    | _ => none
  | _ => none

/-- The token outlives a death, for its fate; every other end drops it. -/
def survivingToken (cause : TerminalCause) (token : Option SealedBindingFateToken) : Option SealedBindingFateToken :=
  match cause with
  | .detached _ => none
  | .died _ => token

def endBinding (cause : TerminalCause) (transactionOrder : TransactionOrder)
    (deliverySeq hardObserverProgress : DeliverySeq) (terminalCharge : RetainedRecordCharge) : Option Conversation := do
  let slot ← s.slot? participant
  match slot.binding with
  | .bound active => do
    let prepared ← (s.owner.prepareBindingTerminal active transactionOrder deliverySeq hardObserverProgress).toOption
    match prepared.admitTerminal terminalCharge with
    | .commit owner => do
      let terminal := active.commitTerminal cause transactionOrder deliverySeq
      let member ← (slot.member.withCommittedTerminal terminal).toOption
      return s.commit { slot with
        member
        binding := .detached
        fateToken := survivingToken cause slot.fateToken } owner (some deliverySeq)
    | .pending owner _ =>
      return s.commit { slot with
        binding := .pendingFinalization (active.pendTerminal cause transactionOrder)
        fateToken := survivingToken cause slot.fateToken } owner none
    | .refused _ => none
  | _ => none

/-- The member's half of a drained terminal: a pending detach is completed, any other terminal is recorded. -/
def settleTerminal (pending : PendingFinalization) (deliverySeq : DeliverySeq) : Option ParticipantSlot :=
  match slot.detachCell with
  | .pending cell => do
    let transition ← (completePendingDetach slot.member slot.binding cell deliverySeq).toOption
    return { slot with
      member := transition.member
      binding := .detached
      detachCell := .committed transition.cell }
  | _ => do
    let member ← (slot.member.withCommittedTerminal (pending.commit deliverySeq)).toOption
    return { slot with member, binding := .detached }

def drainTerminal (terminalCharge : RetainedRecordCharge) : Option Conversation := do
  let slot ← s.slot? participant
  match slot.binding with
  | .pendingFinalization pending => do
    let (owner, deliverySeq) ← (s.owner.drainPendingTerminal pending terminalCharge).toOption
    let settled ← settleTerminal slot pending deliverySeq
    return s.commit settled owner (some deliverySeq)
  | _ => none

/-! ### Records, markers and acknowledgements -/

def admitRecord (request : RecordAdmission) (receivingBindingEpoch : BindingEpoch)
    (encodedRecordCharge : ResourceVector) (hardObserverProgress : DeliverySeq) : Option Conversation := do
  let slot ← s.slot? request.participantId
  let projected ← (s.owner.applyRecordAdmission slot.member slot.binding receivingBindingEpoch request
    encodedRecordCharge s.config.maxOrdinaryRecordCharge hardObserverProgress s.config.limits).toOption
  return { s with owner := s.owner.fromRecordAdmission projected }

def drainMarker (markerCharge : RetainedRecordCharge) : Option Conversation := do
  let owner ← (s.owner.drainNextMarker markerCharge).toOption
  return { s with owner }

def moveSlot (update : LiveMemberCursorUpdate)
    (progress : SealedBindingFateToken → Option SealedBindingFateToken) : Option ParticipantSlot := do
  let member ← (slot.member.applyCursorUpdate update).toOption
  match slot.fateToken with
  | none => return { slot with member }
  | some token => do
    let token ← progress token
    return { slot with member, fateToken := some token }

def commitAck (committed : ParticipantAckCommit) : Option Conversation := do
  let moved ← moveSlot slot committed.cursorUpdate committed.progressBindingFateToken
  let owner ← (s.owner.applyAckFrontier slot.participantId committed.throughSeq).toOption
  return s.commit moved owner (some committed.observerProgressProjection)

variable (request : ParticipantAck) (receivingBindingEpoch : BindingEpoch) (availability : AckAvailability)

def ack : Option Conversation := do
  let slot ← s.slot? request.participantId
  let committed ← (applyParticipantAck slot.member slot.binding receivingBindingEpoch request availability).toOption
  s.commitAck slot committed

def ackNonzero (hardObserverProgress : DeliverySeq) : Option Conversation := do
  let slot ← s.slot? request.participantId
  match s.owner.closureAccounting.state with
  | .clear => none
  | .owed debt _ => do
    let episode ← (NonzeroDebtCursorEpisode.fromClaimFrontiers s.owner.frontiers debt hardObserverProgress).toOption
    let committed ← (applyNonzeroParticipantAck slot.member slot.binding receivingBindingEpoch request
      availability episode).toOption
    s.commitAck slot committed

def ackMarker (request : MarkerAck) (receivingBindingEpoch : BindingEpoch)
    (markerState : MarkerProofState) : Option Conversation := do
  let slot ← s.slot? request.participantId
  let committed ← (applyMarkerAck slot.member slot.binding receivingBindingEpoch request markerState).toOption
  let moved ← moveSlot slot committed.cursorUpdate committed.progressBindingFateToken
  let owner ← (s.owner.applyMarkerAckFrontier slot.participantId committed.markerDeliverySeq).toOption
  return s.commit moved owner (some committed.observerProgressProjection)

/-! ### Leave -/

variable (request : LeaveRequest) (secretProof : AttachSecretProof)

def leave (leftDeliverySeq : DeliverySeq) (leftCharge : RetainedRecordCharge) : Option Conversation := do
  let slot ← s.slot? request.participantId
  let verified ← (slot.member.verifyLeaveRequest request secretProof).toOption
  let committed ← (s.owner.commitSettledLeaveFrontier slot.member slot.binding slot.detachCell verified
    leftDeliverySeq leftCharge).toOption
  return s.retire committed

def leavePending (parameters : PendingLeaveCommitParameters) (terminalCharge leftCharge : RetainedRecordCharge) :
    Option Conversation := do
  let slot ← s.slot? request.participantId
  match slot.binding with
  | .pendingFinalization pending => do
    let verified ← (slot.member.verifyLeaveRequest request secretProof).toOption
    let committed ← (s.owner.commitPendingLeaveFrontier slot.member pending slot.detachCell verified
      parameters terminalCharge leftCharge).toOption
    return s.retire committed
  | _ => none

/-! ### Binding fate -/

/-- The terminal a fate is measured for: an ordinary one needs the committed death. -/
def fateTerminal : FateKind → Option BindingFateTerminal
  | .ordinary =>
    match slot.member.latestTerminal with
    | some (.died terminal) => some (.ordinary terminal)
    | _ => none
  | .recovered => some .recovered
  | .recoveredAndReserveFinalizer => some .recoveredAndReserveFinalizer

def bindingFate (kind : FateKind) (hardObserverProgress : DeliverySeq) : Option Conversation := do
  let slot ← s.slot? participant
  let token ← slot.fateToken
  let terminal ← fateTerminal slot kind
  let (owner, fate) ← (s.owner.prepareBindingFate token terminal hardObserverProgress).toOption
  return s.commit { slot with fateToken := none } owner (some fate.observerProgressProjection)

def measurePendingFate (hardObserverProgress : DeliverySeq) : Option Conversation := do
  let slot ← s.slot? participant
  let token ← slot.fateToken
  match slot.binding with
  | .pendingFinalization (.died pending) => do
    let deliverySeq ← add u64Max s.owner.frontiers.high 1
    let (_, finalizer) ← (s.owner.preparePendingDiedOrdinaryFinalizer token
      ⟨pending.identity, pending.cause, deliverySeq⟩ hardObserverProgress).toOption
    return s.commit { slot with fateToken := none, finalizer := some finalizer } s.owner none
  | _ => none

/-- The measured floor of a pended death is installed and projected once its terminal is in the log. -/
def completeFate : Option Conversation := do
  let slot ← s.slot? participant
  let finalizer ← slot.finalizer
  match slot.binding with
  | .pendingFinalization _ => none
  | _ => do
    let owner ← (s.owner.completePendingDiedOrdinaryFinalizer finalizer).toOption
    return s.commit { slot with finalizer := none } owner (some finalizer.resultingFloor)

/-! ### The machine -/

def apply : Operation → Option Conversation
  | .enroll slot epoch order seq charge => s.enroll slot epoch order seq charge
  | .attachDetached request proof parameters charges => s.attachDetached request proof parameters charges
  | .attachSuperseding request proof order seq parameters charges =>
    s.attachSuperseding request proof order seq parameters charges
  | .attachFenced request proof recovery pendingSeq parameters charges =>
    s.attachFenced request proof recovery pendingSeq parameters charges
  | .detach request verifier order seq charge => s.detach request verifier order seq charge
  | .detachBlocked request verifier order seq observer charge =>
    s.detachBlocked request verifier order seq observer charge
  | .endBinding participant cause order seq observer charge =>
    s.endBinding participant cause order seq observer charge
  | .drainTerminal participant charge => s.drainTerminal participant charge
  | .admitRecord request epoch charge observer => s.admitRecord request epoch charge observer
  | .drainMarker charge => s.drainMarker charge
  | .ack request epoch availability => s.ack request epoch availability
  | .ackNonzero request epoch availability observer => s.ackNonzero request epoch availability observer
  | .ackMarker request epoch markerState => s.ackMarker request epoch markerState
  | .leave request proof seq charge => s.leave request proof seq charge
  | .leavePending request proof parameters terminalCharge leftCharge =>
    s.leavePending request proof parameters terminalCharge leftCharge
  | .bindingFate participant kind observer => s.bindingFate participant kind observer
  | .measurePendingFate participant observer => s.measurePendingFate participant observer
  | .completeFate participant => s.completeFate participant

/-- The conversation after its first enrollment. The cap is a pair of `u64` values. -/
def genesis (conversationId : ConversationId) (closure : InitialEnrollmentClosureInput)
    (allocated : AllocatedParticipantSlot) (maxOrdinaryRecordCharge : ResourceVector)
    (retainedRecordLimit : Nat) : Option Conversation := do
  guard (closure.accounting.configuredCap.entries ≤ u64Max ∧ closure.accounting.configuredCap.bytes ≤ u64Max)
  let operation ← (applyInitialEnrollment conversationId closure allocated).toOption
  let owner ← (LiveFrontierOwner.fromInitialEnrollment operation closure.attachedCharge retainedRecordLimit).toOption
  return {
    config := ⟨⟨closure.markerMax, closure.mandatoryBound, closure.recoveryClaim⟩, maxOrdinaryRecordCharge⟩
    owner
    slots := [⟨operation.enrollment.member, .bound operation.enrollment.binding, .empty, none, none⟩]
    retired := []
    observerProgress := 0 }

def IsGenesis : Prop :=
  ∃ conversationId closure allocated maxOrdinaryRecordCharge retainedRecordLimit,
    genesis conversationId closure allocated maxOrdinaryRecordCharge retainedRecordLimit = some s

/-! ### Reading an operation that asks for a state of the binding -/

section

variable {β : Type} {binding : BindingState} {b : β}

theorem bound_iff {f : ActiveBinding → Option β} : (match binding with
      | .bound active => f active
      | _ => none) = some b ↔ ∃ active, binding = .bound active ∧ f active = some b := by
  cases binding <;> simp

theorem pended_iff {f : PendingFinalization → Option β} : (match binding with
      | .pendingFinalization pending => f pending
      | _ => none) = some b ↔ ∃ pending, binding = .pendingFinalization pending ∧ f pending = some b := by
  cases binding <;> simp

end

end Conversation

def conversationMachine : Machine Conversation Operation where
  start := Conversation.IsGenesis
  next := Conversation.apply

end Liminal
