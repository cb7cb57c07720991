import Liminal.Lifecycle.Lookup

/-!
# Looking up the other requests

Every request is first looked for by its token or participant. A tombstone answers before anything
live; a known token is answered out of its receipt, provenance or permanent mapping; only a new
request goes on to generation, secret and binding. Every answer echoes its request, except a
replayed receipt or Leave.
-/

namespace Liminal

open Wire

/-! ### Tombstones -/

/-- A tombstone with the whole result of the Leave that made it: the result is about the same participant,
generation and token. -/
structure Wire.RetiredIdentity extends Liminal.RetiredIdentity where
  leaveAttemptToken : LeaveAttemptToken
  leaveResult : Wire.LeaveCommitted
  conversation : leaveResult.conversationId = conversationId
  participant : leaveResult.participantId = participantId
  generation : leaveResult.retiredGeneration = retiredGeneration
  token : leaveResult.leaveAttemptToken = leaveAttemptToken

def receiptBindingIsCurrent (binding : BindingState) (conversationId : ConversationId)
    (participantId : ParticipantId) (originBindingEpoch : BindingEpoch) : Bool :=
  match binding with
  | .bound active =>
    active.conversationId = conversationId ∧ active.participantId = participantId ∧
      active.bindingEpoch = originBindingEpoch
  | _ => false

/-! ### Enrollment -/

structure EnrollmentProvenance where
  resultGeneration : Generation
  reason : ReceiptExpiryReason

inductive EnrollmentTokenPhase
  | unmapped
  | liveReceipt (identity : ResolvedIdentity) (receipt : EnrollBound)
  | provenance (identity : ResolvedIdentity) (provenance : EnrollmentProvenance)
  | lifetimeMapping (identity : ResolvedIdentity)

inductive EnrollmentLookupResult
  | retired (value : Retired)
  | bound (replay : ReceiptReplay)
  | unboundReceipt (replay : ReceiptReplay)
  | receiptExpired (value : ReceiptExpired)
  | enrollmentKnown (value : EnrollmentKnown)
  | authorizedNew

def retiredEnrollment (tombstone : RetiredIdentity) (request : EnrollmentRequest) : Retired :=
  .enrollment request tombstone.participantId tombstone.retiredGeneration

def lookupEnrollment (phase : EnrollmentTokenPhase) (binding : BindingState)
    (request : EnrollmentRequest) : EnrollmentLookupResult :=
  match phase with
  | .unmapped => .authorizedNew
  | .liveReceipt (.retired tombstone) _ | .provenance (.retired tombstone) _ | .lifetimeMapping (.retired tombstone) =>
    .retired (retiredEnrollment tombstone request)
  | .liveReceipt (.live member) receipt =>
    if receiptBindingIsCurrent binding request.conversationId member.participantId
        receipt.originBindingEpoch then .bound (.enrollment receipt)
    else .unboundReceipt (.enrollment receipt)
  | .provenance (.live member) provenance => .receiptExpired (.enrollment request
      member.participantId provenance.resultGeneration member.generation provenance.reason)
  | .lifetimeMapping (.live member) => .enrollmentKnown ⟨request.conversationId,
      request.enrollmentToken, member.participantId, member.generation⟩

/-! ### Credential attach -/

structure CredentialAttachProvenance where
  resultGeneration : Generation
  reason : ReceiptExpiryReason

inductive CredentialAttachTokenPhase
  | noMatch
  | liveReceipt (identity : ResolvedIdentity) (receipt : AttachBound)
  | provenance (identity : ResolvedIdentity) (provenance : CredentialAttachProvenance)
  | afterProvenance

inductive CredentialAttachLookupResult
  | retired (value : Retired)
  | participantUnknown (value : ParticipantUnknown)
  | staleAuthority (value : StaleAuthority)
  | attemptTokenBodyConflict (value : AttemptTokenBodyConflict)
  | bound (replay : ReceiptReplay)
  | unboundReceipt (replay : ReceiptReplay)
  | receiptExpired (value : ReceiptExpired)
  | staleOrUnknownReceipt (value : StaleOrUnknownReceipt)
  | authorizedFresh (member : LiveMember)

def retiredAttach (tombstone : RetiredIdentity) (request : Wire.CredentialAttachRequest) : Retired :=
  .participant (.credentialAttach request.toAttachEnvelope) tombstone.retiredGeneration

variable (request : Wire.CredentialAttachRequest)

def unknownAttach : ParticipantUnknown :=
  ⟨.credentialAttach request.toAttachEnvelope⟩

def staleAttach (currentGeneration : Generation) : StaleAuthority :=
  .live (.credentialAttach request.toAttachEnvelope) currentGeneration

/-- The secret is verified against the receipt; a changed generation or marker is a conflict. -/
def lookupLiveAttachReceipt (member : LiveMember) (binding : BindingState) (request : Wire.CredentialAttachRequest)
    (secretProof : AttachSecretProof) (receipt : AttachBound) : CredentialAttachLookupResult :=
  if secretProof = .mismatch then .staleAuthority (staleAttach request member.generation)
  else if request.capabilityGeneration ≠ receipt.requestGeneration then
    .attemptTokenBodyConflict (.credentialAttach request.toAttachEnvelope .generation)
  else if request.acceptMarkerDeliverySeq ≠ receipt.acceptedMarkerDeliverySeq then
    .attemptTokenBodyConflict (.credentialAttach request.toAttachEnvelope .markerDeliverySequence)
  else if receiptBindingIsCurrent binding request.conversationId request.participantId
      receipt.originBindingEpoch then .bound (.credentialAttach receipt)
  else .unboundReceipt (.credentialAttach receipt)

/-- A request no receipt has answered: the presented key decides, then generation and secret. -/
def lookupPresentedAttach (afterProvenance : Bool) (presentedIdentity : PresentedIdentity)
    (request : Wire.CredentialAttachRequest) (secretProof : AttachSecretProof) : CredentialAttachLookupResult :=
  match presentedIdentity with
  | .retired tombstone => .retired (retiredAttach tombstone request)
  | .absent => .participantUnknown (unknownAttach request)
  | .live member =>
    if member.conversationId ≠ request.conversationId ∨ member.participantId ≠ request.participantId then
      .participantUnknown (unknownAttach request)
    else if afterProvenance then
      .staleOrUnknownReceipt ⟨request.toAttachEnvelope, member.generation⟩
    else if request.capabilityGeneration ≠ member.generation ∨ secretProof = .mismatch then
      .staleAuthority (staleAttach request member.generation)
    else .authorizedFresh member

def lookupCredentialAttach (tokenPhase : CredentialAttachTokenPhase)
    (presentedIdentity : PresentedIdentity) (binding : BindingState)
    (request : Wire.CredentialAttachRequest) (secretProof : AttachSecretProof) : CredentialAttachLookupResult :=
  match tokenPhase with
  | .liveReceipt (.retired tombstone) _ | .provenance (.retired tombstone) _ =>
    .retired (retiredAttach tombstone request)
  | .liveReceipt (.live member) receipt =>
    lookupLiveAttachReceipt member binding request secretProof receipt
  | .provenance (.live member) provenance => .receiptExpired (.credentialAttach
      request.toAttachEnvelope provenance.resultGeneration member.generation provenance.reason)
  | .noMatch => lookupPresentedAttach false presentedIdentity request secretProof
  | .afterProvenance => lookupPresentedAttach true presentedIdentity request secretProof

/-! ### Requests that need a binding -/

inductive ParticipantBindingRequest
  | participantAck (request : ParticipantAck)
  | markerAck (request : MarkerAck)
  | recordAdmission (request : Wire.RecordAdmission)

namespace ParticipantBindingRequest

def conversation : ParticipantBindingRequest → ConversationId
  | participantAck request | markerAck request | recordAdmission request => request.conversationId

def participant : ParticipantBindingRequest → ParticipantId
  | participantAck request | markerAck request | recordAdmission request => request.participantId

def generation : ParticipantBindingRequest → Generation
  | participantAck request | markerAck request | recordAdmission request => request.capabilityGeneration

def participantReference : ParticipantBindingRequest → ParticipantReferenceEnvelope
  | participantAck request => .participantAck request
  | markerAck request => .markerAck request
  | recordAdmission request => .recordAdmission request.toRecordAdmissionEnvelope

def bindingRequiredEnvelope : ParticipantBindingRequest → BindingRequiredEnvelope
  | participantAck request => .participantAck request
  | markerAck request => .markerAck request
  | recordAdmission request => .recordAdmission request.toRecordAdmissionEnvelope

def commonStaleEnvelope : ParticipantBindingRequest → CommonStaleAuthorityEnvelope
  | participantAck request => .participantAck request
  | markerAck request => .markerAck request
  | recordAdmission request => .recordAdmission request.toRecordAdmissionEnvelope

end ParticipantBindingRequest

inductive BindingRequiredLookupResult
  | retired (value : Retired)
  | participantUnknown (value : ParticipantUnknown)
  | staleAuthority (value : StaleAuthority)
  | noBinding (value : NoBinding)
  | authorized (member : LiveMember) (binding : ActiveBinding)

/-- The same checks as for a live member alone, with the tombstone and the unknown participant before them. -/
def Wire.lookupBindingRequired (identity : PresentedIdentity) (binding : BindingState)
    (receivingBindingEpoch : Option BindingEpoch) (request : ParticipantBindingRequest) : BindingRequiredLookupResult :=
  match identity with
  | .retired tombstone =>
    .retired (.participant request.participantReference tombstone.retiredGeneration)
  | .absent => .participantUnknown ⟨request.participantReference⟩
  | .live member =>
    if member.conversationId ≠ request.conversation ∨ member.participantId ≠ request.participant then
      .participantUnknown ⟨request.participantReference⟩
    else if request.generation ≠ member.generation then
      .staleAuthority (.live request.commonStaleEnvelope member.generation)
    else
      match binding with
      | .bound active =>
        if active.conversationId = member.conversationId ∧ active.participantId = member.participantId ∧
            active.bindingEpoch.capabilityGeneration = member.generation ∧ receivingBindingEpoch =
            some active.bindingEpoch then
          .authorized member active
        else .noBinding ⟨request.bindingRequiredEnvelope⟩
      | _ => .noBinding ⟨request.bindingRequiredEnvelope⟩

/-! ### Leave -/

/-- The key of a Leave, with the tombstone's whole result: an exact token replays it. -/
inductive LeavingIdentity
  | absent
  | live (member : LiveMember)
  | retired (tombstone : Wire.RetiredIdentity)

inductive LeaveSecretProof
  | mismatch
  | verified
deriving DecidableEq

inductive LeaveLookupResult
  | leaveCommitted (value : Wire.LeaveCommitted)
  | attemptTokenBodyConflict (value : AttemptTokenBodyConflict)
  | staleAuthority (stale : LeaveStaleAuthority)
  | retired (value : Retired)
  | participantUnknown (value : ParticipantUnknown)
  | noBinding (value : NoBinding)
  | authorizedBound (member : LiveMember) (binding : ActiveBinding)
  | authorizedDetached (member : LiveMember)

def unknownLeave (request : Wire.LeaveRequest) : ParticipantUnknown :=
  ⟨.leave request.toLeaveEnvelope⟩

def lookupRetiredLeave (tombstone : Wire.RetiredIdentity) (request : Wire.LeaveRequest)
    (secretProof : LeaveSecretProof) : LeaveLookupResult :=
  if request.conversationId ≠ tombstone.conversationId ∨ request.participantId ≠ tombstone.participantId then
    .participantUnknown (unknownLeave request)
  else if request.leaveAttemptToken ≠ tombstone.leaveAttemptToken then
    .retired (.participant (.leave request.toLeaveEnvelope) tombstone.retiredGeneration)
  else if secretProof = .mismatch then
    .staleAuthority (.committedLeaveTombstone request.toLeaveEnvelope tombstone.retiredGeneration)
  else if request.capabilityGeneration ≠ tombstone.leaveResult.presentedGeneration then
    .attemptTokenBodyConflict (.leave request.toLeaveEnvelope)
  else .leaveCommitted tombstone.leaveResult

/-- A pended binding leaves like a detached one. -/
def lookupLeave (identity : LeavingIdentity) (binding : BindingState) (requestBindingEpoch : Option BindingEpoch)
    (request : Wire.LeaveRequest) (secretProof : LeaveSecretProof) : LeaveLookupResult :=
  match identity with
  | .retired tombstone => lookupRetiredLeave tombstone request secretProof
  | .absent => .participantUnknown (unknownLeave request)
  | .live member =>
    if member.conversationId ≠ request.conversationId ∨ member.participantId ≠ request.participantId then
      .participantUnknown (unknownLeave request)
    else if request.capabilityGeneration ≠ member.generation ∨ secretProof = .mismatch then
      .staleAuthority (.live request.toLeaveEnvelope member.generation)
    else
      match binding with
      | .bound active =>
        if active.conversationId = request.conversationId ∧ active.participantId = request.participantId ∧
            requestBindingEpoch = some active.bindingEpoch then
          .authorizedBound member active
        else .noBinding ⟨.leave request.toLeaveEnvelope⟩
      | _ => .authorizedDetached member

/-! ### The answers -/

/-- What goes back to the client; an authorization goes on to the operation instead. -/
def EnrollmentLookupResult.response : EnrollmentLookupResult → Option ServerValue
  | retired value => some (.retired value)
  | bound replay => some (.bound replay)
  | unboundReceipt replay => some (.unboundReceipt replay)
  | receiptExpired value => some (.receiptExpired value)
  | enrollmentKnown value => some (.enrollmentKnown value)
  | authorizedNew => none

def CredentialAttachLookupResult.response : CredentialAttachLookupResult → Option ServerValue
  | retired value => some (.retired value)
  | participantUnknown value => some (.participantUnknown value)
  | staleAuthority value => some (.staleAuthority value)
  | attemptTokenBodyConflict value => some (.attemptTokenBodyConflict value)
  | bound replay => some (.bound replay)
  | unboundReceipt replay => some (.unboundReceipt replay)
  | receiptExpired value => some (.receiptExpired value)
  | staleOrUnknownReceipt value => some (.staleOrUnknownReceipt value)
  | authorizedFresh _ => none

/-- An exact pending detach is not answered by the lookup either: its replay has to run first. -/
def DetachLookupResult.response : DetachLookupResult → Option ServerValue
  | retired request retiredGeneration =>
    some (.retired (.participant (.detach request) retiredGeneration))
  | participantUnknown request => some (.participantUnknown ⟨.detach request⟩)
  | staleAuthority stale => some (.staleAuthority (.detach stale))
  | noBinding request => some (.noBinding ⟨.detach request⟩)
  | detachInProgress progress => some (.detachInProgress progress)
  | detachCommitted outcome => some (.detachCommitted outcome)
  | pendingReplayRequired _ | authorized _ _ => none

def BindingRequiredLookupResult.response : BindingRequiredLookupResult → Option ServerValue
  | retired value => some (.retired value)
  | participantUnknown value => some (.participantUnknown value)
  | staleAuthority value => some (.staleAuthority value)
  | noBinding value => some (.noBinding value)
  | authorized _ _ => none

def LeaveLookupResult.response : LeaveLookupResult → Option ServerValue
  | leaveCommitted value => some (.leaveCommitted value)
  | attemptTokenBodyConflict value => some (.attemptTokenBodyConflict value)
  | staleAuthority stale => some (.staleAuthority (.leave stale))
  | retired value => some (.retired value)
  | participantUnknown value => some (.participantUnknown value)
  | noBinding value => some (.noBinding value)
  | authorizedBound _ _ | authorizedDetached _ => none

end Liminal
