import Liminal.Conversation
import Liminal.Lifecycle.Lookup

/-!
# The life of one slot

One member's half of a conversation, with the frontier left out: a slot starts with an enrollment
and moves by the member's half of each operation. Each step of a conversation is a step of one of
its slots, or of none.
-/

namespace Liminal

open Fallible

inductive SlotOperation
  | attachDetached (closureState : ClosureState) (request : CredentialAttachRequest)
      (secretProof : AttachSecretProof) (parameters : AttachCommitParameters)
  | attachSuperseding (request : CredentialAttachRequest) (secretProof : AttachSecretProof)
      (terminalOrder : TransactionOrder) (terminalSeq : DeliverySeq) (parameters : AttachCommitParameters)
  | attachFenced (request : CredentialAttachRequest) (secretProof : AttachSecretProof) (proof : FencedAttachCommit)
      (pendingTerminalDeliverySeq : Option DeliverySeq) (parameters : AttachCommitParameters)
  | detach (request : DetachRequest) (requestVerifier : RequestVerifier)
      (transactionOrder : TransactionOrder) (deliverySeq : DeliverySeq)
  | detachBlocked (request : DetachRequest) (requestVerifier : RequestVerifier)
      (transactionOrder : TransactionOrder) (observerProgress : DeliverySeq)
  | replayDetach (request : DetachRequest) (requestVerifier : RequestVerifier)
      (receivingBindingEpoch : Option BindingEpoch) (observerProgress : DeliverySeq) (decision : PendingDrainDecision)
  | commitTerminal (cause : TerminalCause) (transactionOrder : TransactionOrder) (deliverySeq : DeliverySeq)
  | pendTerminal (cause : TerminalCause) (transactionOrder : TransactionOrder)
  | drainTerminal (deliverySeq : DeliverySeq)
  | ack (request : ParticipantAck) (receivingBindingEpoch : BindingEpoch) (availability : AckAvailability)
  | ackNonzero (request : ParticipantAck) (receivingBindingEpoch : BindingEpoch)
      (availability : AckAvailability) (episode : NonzeroDebtCursorEpisode)
  | ackMarker (request : MarkerAck) (receivingBindingEpoch : BindingEpoch) (markerState : MarkerProofState)
  | leave (request : LeaveRequest) (secretProof : AttachSecretProof)
      (authority : PreparedLeaveAuthority) (leftDeliverySeq : DeliverySeq)
  | leavePending (request : LeaveRequest) (secretProof : AttachSecretProof)
      (authority : PreparedLeaveAuthority) (parameters : PendingLeaveCommitParameters)
  | measureFate (finalizer : Option LiveFrontierOwner.PendingDiedOrdinaryFinalizer)
  | installFate

inductive SlotState
  | live (slot : ParticipantSlot)
  | retired (identity : RetiredIdentity)

namespace ParticipantSlot

variable (slot : ParticipantSlot)

/-- The context a detach request is looked up in: its token is resolved against the slot's own cell. -/
def lookupContext (presentedIdentity : PresentedIdentity)
    (receivingBindingEpoch : Option BindingEpoch) (request : DetachRequest)
    (requestVerifier : RequestVerifier) (observerProgress : DeliverySeq) : DetachLookupContext where
  tokenResolution :=
    if slot.detachCell.token = some request.detachAttemptToken then .exact (.live slot.member)
    else .noExactMatch
  presentedIdentity := presentedIdentity
  cell := slot.detachCell
  binding := slot.binding
  receivingBindingEpoch := receivingBindingEpoch
  request := request
  requestVerifier := requestVerifier
  observerProgress := observerProgress

def attach (parameters : AttachCommitParameters) (mode : AttachMode) : Option ParticipantSlot := do
  let committed ← (commitAttach slot.member parameters mode slot.detachCell).toOption
  return { slot with
    member := committed.member
    binding := .bound committed.binding
    detachCell := committed.detachCell
    fateToken := some committed.token }

variable (request : DetachRequest) (requestVerifier : RequestVerifier)

def detach (transactionOrder : TransactionOrder) (deliverySeq : DeliverySeq) : Option ParticipantSlot :=
  match slot.binding with
  | .bound active => do
    (active.verifyDetachRequest request).toOption
    let transition ← (commitDetach slot.member active request requestVerifier slot.detachCell
      transactionOrder deliverySeq).toOption
    return { slot with
      member := transition.member
      binding := .detached
      detachCell := .committed transition.cell
      fateToken := none }
  | _ => none

def detachBlocked (transactionOrder : TransactionOrder) (observerProgress : DeliverySeq) : Option ParticipantSlot :=
  match slot.binding with
  | .bound active => do
    (active.verifyDetachRequest request).toOption
    let transition ← (startBlockedDetach slot.member active request requestVerifier slot.detachCell
      transactionOrder observerProgress).toOption
    return { slot with
      member := transition.member
      binding := .pendingFinalization (.detached transition.pending)
      detachCell := .pending transition.cell
      fateToken := none }
  | _ => none

/-- An exact retry of a pending detach, with the outcome of the drain it asks for. -/
def replayDetach (receivingBindingEpoch : Option BindingEpoch)
    (observerProgress : DeliverySeq) (decision : PendingDrainDecision) : Option ParticipantSlot :=
  match lookupDetach (slot.lookupContext (.live slot.member) receivingBindingEpoch request
    requestVerifier observerProgress) with
  | .pendingReplayRequired replay => do
    let outcome ← (replay.apply slot.member decision).toOption
    match outcome with
    | .pending member binding cell _ =>
      return { slot with member, binding, detachCell := .pending cell }
    | .committed transition =>
      return { slot with
        member := transition.member
        binding := .detached
        detachCell := .committed transition.cell }
  | _ => none

section

variable (cause : TerminalCause) (transactionOrder : TransactionOrder)

def commitTerminal (deliverySeq : DeliverySeq) : Option ParticipantSlot :=
  match slot.binding with
  | .bound active => do
    let member ← (slot.member.withCommittedTerminal (active.commitTerminal cause transactionOrder deliverySeq)).toOption
    return { slot with
      member
      binding := .detached
      fateToken := Conversation.survivingToken cause slot.fateToken }
  | _ => none

def pendTerminal : Option ParticipantSlot :=
  match slot.binding with
  | .bound active => some { slot with
      binding := .pendingFinalization (active.pendTerminal cause transactionOrder)
      fateToken := Conversation.survivingToken cause slot.fateToken }
  | _ => none

end

def drainTerminal (deliverySeq : DeliverySeq) : Option ParticipantSlot := match slot.binding with
  | .pendingFinalization pending => Conversation.settleTerminal slot pending deliverySeq
  | _ => none

section

variable (request : LeaveRequest) (secretProof : AttachSecretProof) (authority : PreparedLeaveAuthority)

def leave (leftDeliverySeq : DeliverySeq) : Option RetiredIdentity := do
  let verified ← (slot.member.verifyLeaveRequest request secretProof).toOption
  let committed ← (commitLeave slot.member slot.binding slot.detachCell verified authority leftDeliverySeq).toOption
  return committed.identity

def leavePending (parameters : PendingLeaveCommitParameters) : Option RetiredIdentity :=
  match slot.binding with
  | .pendingFinalization pending => do
    let verified ← (slot.member.verifyLeaveRequest request secretProof).toOption
    let committed ← (commitPendingLeave slot.member pending slot.detachCell verified authority parameters).toOption
    return committed.identity
  | _ => none

end

def attachVerified (parameters : AttachCommitParameters)
    (verified : Except AttachVerificationError AttachMode) : Option ParticipantSlot := do
  let mode ← verified.toOption
  slot.attach parameters mode

def attachSuperseding (request : CredentialAttachRequest)
    (secretProof : AttachSecretProof) (terminalOrder : TransactionOrder) (terminalSeq : DeliverySeq)
    (parameters : AttachCommitParameters) : Option ParticipantSlot :=
  match slot.binding with
  | .bound active => slot.attachVerified parameters (slot.member.verifySupersedingAttach active
      request secretProof terminalOrder terminalSeq parameters)
  | _ => none

def acknowledge (committed : Except ParticipantAckRefusal ParticipantAckCommit) : Option ParticipantSlot := do
  let committed ← committed.toOption
  Conversation.moveSlot slot committed.cursorUpdate committed.progressBindingFateToken

def acknowledgeMarker (committed : Except MarkerAckRefusal MarkerAckCommit) : Option ParticipantSlot := do
  let committed ← committed.toOption
  Conversation.moveSlot slot committed.cursorUpdate committed.progressBindingFateToken

def apply : SlotOperation → Option SlotState
  | .attachDetached closureState request proof parameters =>
    (slot.attachVerified parameters (slot.member.verifyDetachedAttach slot.binding closureState
      request proof parameters)).map .live
  | .attachSuperseding request proof order seq parameters =>
    (slot.attachSuperseding request proof order seq parameters).map .live
  | .attachFenced request proof recovery pendingSeq parameters =>
    (slot.attachVerified parameters (slot.member.verifyFencedAttach slot.binding request proof
      recovery pendingSeq parameters)).map .live
  | .detach request verifier order seq => (slot.detach request verifier order seq).map .live
  | .detachBlocked request verifier order observer =>
    (slot.detachBlocked request verifier order observer).map .live
  | .replayDetach request verifier epoch observer decision =>
    (slot.replayDetach request verifier epoch observer decision).map .live
  | .commitTerminal cause order seq => (slot.commitTerminal cause order seq).map .live
  | .pendTerminal cause order => (slot.pendTerminal cause order).map .live
  | .drainTerminal seq => (slot.drainTerminal seq).map .live
  | .ack request epoch availability =>
    (slot.acknowledge (applyParticipantAck slot.member slot.binding epoch request availability)).map .live
  | .ackNonzero request epoch availability episode =>
    (slot.acknowledge (applyNonzeroParticipantAck slot.member slot.binding epoch request
      availability episode)).map .live
  | .ackMarker request epoch markerState =>
    (slot.acknowledgeMarker (applyMarkerAck slot.member slot.binding epoch request markerState)).map .live
  | .leave request proof authority seq => (slot.leave request proof authority seq).map .retired
  | .leavePending request proof authority parameters =>
    (slot.leavePending request proof authority parameters).map .retired
  | .measureFate finalizer =>
    some (.live { slot with fateToken := none, finalizer := finalizer.or slot.finalizer })
  | .installFate => some (.live { slot with finalizer := none })

def IsEnrolled : Prop := ∃ conversationId allocated epoch order seq enrollment,
    commitEnrollment conversationId allocated epoch order seq = .ok enrollment ∧
      slot = ⟨enrollment.member, .bound enrollment.binding, .empty, none, none⟩

end ParticipantSlot

def SlotState.slot? : SlotState → Option ParticipantSlot
  | .live slot => some slot
  | .retired _ => none

theorem SlotState.slot?_eq_some {state : SlotState} (h : slot ∈ state.slot?) : state = .live slot := by
  cases state with
  | live current =>
    cases h
    rfl
  | retired identity => cases h

def SlotState.next : SlotState → SlotOperation → Option SlotState
  | .live slot, operation => slot.apply operation
  | .retired _, _ => none

def slotMachine : Machine SlotState SlotOperation where
  start state := ∃ slot, slot.IsEnrolled ∧ state = .live slot
  next := SlotState.next

/-! ### The slots of a conversation -/

/-- Each slot was there before, is a new member's, or comes from one step of a slot that was there. -/
def Conversation.SlotStep (s s' : Conversation) : Prop :=
  ∀ slot' ∈ s'.slots, slot' ∈ s.slots ∨ slot'.IsEnrolled ∨
    ∃ slot ∈ s.slots, ∃ operation, slot.apply operation = some (.live slot')

namespace Conversation

variable {s s' : Conversation} {slot : ParticipantSlot} {participant : ParticipantId}

theorem slot?_eq_some (h : s.slot? participant = some slot) :
    slot ∈ s.slots ∧ slot.participantId = participant ∧ s.slot? slot.participantId = some slot := by
  have hid : slot.participantId = participant := by simpa using List.find?_some h
  exact ⟨List.mem_of_find?_eq_some h, hid, by rw [hid]; exact h⟩

theorem mem_replaceSlot {slots} (h : current ∈ replaceSlot slots slot) : current = slot ∨ current ∈ slots := by
  obtain ⟨old, hold, rfl⟩ := List.mem_map.mp h
  split
  · exact Or.inl rfl
  · exact Or.inr hold

theorem SlotStep.of_slots_eq (h : s'.slots = s.slots) : SlotStep s s' :=
  fun _ hslot' => Or.inl (h ▸ hslot')

theorem SlotStep.commit {moved owner} (hfound : s.slot? participant = some slot) (operation : SlotOperation)
    (happly : slot.apply operation = some (.live moved)) : SlotStep s (s.commit moved owner projection) := by
  intro slot' hslot'
  rcases mem_replaceSlot hslot' with rfl | hkept
  · exact Or.inr (Or.inr ⟨slot, (slot?_eq_some hfound).1, operation, happly⟩)
  · exact Or.inl hkept

theorem SlotStep.retire : SlotStep s (s.retire committed) :=
  fun _ hslot' => Or.inl (List.mem_of_mem_filter hslot')

theorem SlotStep.attach (hfound : s.slot? participant = some slot)
    (operation : SlotOperation) (happly : slot.apply operation = (slot.attach parameters mode).map .live)
    (h : s.attach slot parameters mode charges projection = some s') : SlotStep s s' := by
  simp only [Conversation.attach, some_iff] at h
  obtain ⟨committed, hcommit, owner, -, rfl⟩ := h
  refine .commit hfound operation ?_
  rw [happly, ParticipantSlot.attach, hcommit]
  rfl

theorem SlotStep.commitAck (hfound : s.slot? participant = some slot)
    (operation : SlotOperation) (happly : slot.apply operation = (moveSlot slot committed.cursorUpdate
      committed.progressBindingFateToken).map .live) (h : s.commitAck slot committed = some s') : SlotStep s s' := by
  simp only [Conversation.commitAck, some_iff] at h
  obtain ⟨moved, hmoved, owner, -, rfl⟩ := h
  refine .commit hfound operation ?_
  rw [happly, hmoved]
  rfl

end Conversation

end Liminal
