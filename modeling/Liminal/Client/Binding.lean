import Liminal.Wire.Request

/-!
# The client's binding

What a client knows about itself. The binding decides which requests it may record: an enrollment
only before there is an identity, everything else only with the exact generation and, where one is
presented, the exact secret.
-/

namespace Liminal.Client

open Wire

inductive ClientBindingState
  | unbound
  | bound (conversationId : ConversationId) (participantId : ParticipantId) (generation : Generation)
      (attachSecret : AttachSecret) (bindingEpoch : BindingEpoch)
  | detached (conversationId : ConversationId) (participantId : ParticipantId)
      (generation : Generation) (attachSecret : AttachSecret)
  | left (conversationId : ConversationId) (participantId : ParticipantId) (generation : Generation)
deriving DecidableEq

namespace ClientBindingState

variable {binding : ClientBindingState}

def isLeft : ClientBindingState → Bool
  | left .. => true
  | _ => false

variable (binding)

def matchesAck (request : ParticipantAckEnvelope) : Bool :=
  match binding with
  | bound conversationId participantId generation _ _ =>
    conversationId = request.conversationId ∧ participantId = request.participantId ∧
      generation = request.capabilityGeneration
  | _ => false

variable (conversation : ConversationId)

section

variable (participant : ParticipantId) (generationValue : Generation)

def matchesIdentity (allowDetached : Bool) : Bool :=
  match binding with
  | bound conversationId participantId generation _ _ =>
    (conversationId, participantId, generation) = (conversation, participant, generationValue)
  | detached conversationId participantId generation _ =>
    allowDetached ∧ (conversationId, participantId, generation) = (conversation, participant, generationValue)
  | _ => false

def matchesCredential (presentedSecret : AttachSecret)
    (allowDetached : Bool) : Bool :=
  match binding with
  | bound _ _ _ attachSecret _ =>
    attachSecret = presentedSecret ∧ binding.matchesIdentity conversation participant generationValue allowDetached
  | detached _ _ _ attachSecret =>
    allowDetached ∧ attachSecret = presentedSecret ∧
      binding.matchesIdentity conversation participant generationValue true
  | _ => false

end

def acceptsRequest (request : ClientRequest) : Bool :=
  if binding.isLeft then false
  else
    match request with
    | .enrollment _ => binding = unbound
    | .credentialAttach value =>
      binding = unbound ∨ binding.matchesCredential value.conversationId value.participantId
        value.capabilityGeneration value.attachSecret true
    | .detach value | .participantAck value | .markerAck value | .recordAdmission value =>
      binding.matchesIdentity value.conversationId value.participantId value.capabilityGeneration false
    | .leave value => binding.matchesCredential value.conversationId value.participantId
        value.capabilityGeneration value.attachSecret true
    | .observerRecovery _ => true

variable {binding}

/-! ### Identity, generation and secret -/

def identity : ClientBindingState → Option (ConversationId × ParticipantId)
  | unbound => none
  | bound conversationId participantId .. | detached conversationId participantId ..
  | left conversationId participantId _ => some (conversationId, participantId)

def generation : ClientBindingState → Option Generation
  | unbound => none
  | bound _ _ generation _ _ | detached _ _ generation _ | left _ _ generation => some generation

def retainedSecret : ClientBindingState → Option AttachSecret
  | bound _ _ _ attachSecret _ | detached _ _ _ attachSecret => some attachSecret
  | _ => none

theorem acceptsRequest_of_isLeft (h : binding.isLeft = true) (request : ClientRequest) :
    binding.acceptsRequest request = false := by
  simp [acceptsRequest, h]

theorem isLeft_eq_false_of_acceptsRequest (h : binding.acceptsRequest request = true) : binding.isLeft = false := by
  by_contra hleft
  rw [acceptsRequest_of_isLeft (by simpa using hleft)] at h
  cases h

theorem eq_unbound_of_acceptsRequest_enrollment
    (h : binding.acceptsRequest (.enrollment request) = true) : binding = unbound := by
  cases binding <;> simp_all [acceptsRequest, isLeft]

/-- An accepted attach either creates the identity or presents exactly the retained credential. -/
theorem acceptsRequest_credentialAttach
    (h : binding.acceptsRequest (.credentialAttach request) = true) : binding = unbound ∨
      binding.identity = some (request.conversationId, request.participantId) ∧ binding.generation =
        some request.capabilityGeneration ∧ binding.retainedSecret = some request.attachSecret := by
  cases binding <;>
    simp_all [acceptsRequest, isLeft, matchesCredential, matchesIdentity, identity, generation, retainedSecret]

theorem acceptsRequest_detach (h : binding.acceptsRequest (.detach request) = true) :
    ∃ attachSecret bindingEpoch, binding = bound request.conversationId request.participantId
      request.capabilityGeneration attachSecret bindingEpoch := by
  cases binding <;> simp_all [acceptsRequest, isLeft, matchesIdentity]

theorem acceptsRequest_leave (h : binding.acceptsRequest (.leave request) = true) :
    binding.identity = some (request.conversationId, request.participantId) := by
  cases binding <;> simp_all [acceptsRequest, isLeft, matchesCredential, matchesIdentity, identity]

end ClientBindingState

end Liminal.Client
