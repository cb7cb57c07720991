import Liminal.Lifecycle.Membership

/-!
# Enrollment

The first binding of a new participant, and the lifecycle record every attach appends.
-/

namespace Liminal

open Fallible

structure AttachedLifecycleRecord where
  participantId : ParticipantId
  conversationId : ConversationId
  bindingEpoch : BindingEpoch
  admissionOrder : AdmissionOrder
  deliverySeq : DeliverySeq

def AttachedLifecycleRecord.fromBinding (binding : ActiveBinding) (transactionOrder : TransactionOrder)
    (deliverySeq : DeliverySeq) : AttachedLifecycleRecord where
  participantId := binding.participantId
  conversationId := binding.conversationId
  bindingEpoch := binding.bindingEpoch
  admissionOrder := ⟨transactionOrder, .attachLifecycle, binding.participantId⟩
  deliverySeq := deliverySeq

structure AllocatedParticipantSlot where
  conversationId : ConversationId
  participantId : ParticipantId
  identityLimit : Nat
  below : participantId < identityLimit

structure EnrollmentCommit where
  member : LiveMember
  binding : ActiveBinding
  attached : AttachedLifecycleRecord

inductive EnrollmentCommitError
  | conversation
  | bindingGeneration

def commitEnrollment (requestConversation : ConversationId) (slot : AllocatedParticipantSlot)
    (originBindingEpoch : BindingEpoch) (transactionOrder : TransactionOrder)
    (deliverySeq : DeliverySeq) : Except EnrollmentCommitError EnrollmentCommit := do
  require (requestConversation = slot.conversationId) .conversation
  require (originBindingEpoch.capabilityGeneration = 1) .bindingGeneration
  let binding : ActiveBinding := ⟨slot.participantId, requestConversation, originBindingEpoch⟩
  return ⟨.fromEnrollment slot.participantId requestConversation, binding,
    .fromBinding binding transactionOrder deliverySeq⟩

theorem commitEnrollment_eq_ok :
    commitEnrollment requestConversation slot originBindingEpoch transactionOrder deliverySeq = .ok commit ↔
      requestConversation = slot.conversationId ∧ originBindingEpoch.capabilityGeneration = 1 ∧
        commit = ⟨.fromEnrollment slot.participantId requestConversation,
          ⟨slot.participantId, requestConversation, originBindingEpoch⟩,
          .fromBinding ⟨slot.participantId, requestConversation, originBindingEpoch⟩ transactionOrder deliverySeq⟩ := by
  simp only [commitEnrollment, ok_iff]
  constructor <;> rintro ⟨hconv, hgen, rfl⟩ <;> exact ⟨hconv, hgen, rfl⟩

end Liminal
