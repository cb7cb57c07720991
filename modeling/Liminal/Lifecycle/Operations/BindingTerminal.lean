import Liminal.Lifecycle.Operations.LiveFrontier

/-!
# Admitting the end of a binding

A connection fate ends a binding at the next order and the next delivery sequence. The terminal is
committed while the retained suffix has room for its row; otherwise it is pended until the observer
catches up.
-/

namespace Liminal

open Checked Fallible

inductive BindingTerminalPrepareError
  | authority
  | transactionOrder
  | deliverySequence
  | observerProgress
deriving DecidableEq

inductive BindingTerminalAdmitError
  | candidateCharge
  | retainedRecordLimit
  | authority
  | precedence
  | frontier
  | closureAccounting
deriving DecidableEq

structure CandidateTerminalKey where
  activeBinding : ActiveBinding
  admissionOrder : AdmissionOrder
  deliverySeq : DeliverySeq

structure PreparedBindingTerminal where
  owner : LiveFrontierOwner
  key : CandidateTerminalKey
  hardObserverProgress : DeliverySeq

inductive BindingTerminalAdmission
  | commit (owner : LiveFrontierOwner)
  | pending (owner : LiveFrontierOwner) (blockedAtObserver : DeliverySeq)
  | refused (error : BindingTerminalAdmitError)
deriving DecidableEq

def mapLiveFrontierError : LiveFrontierError → BindingTerminalAdmitError
  | .authority => .authority
  | .precedence _ => .precedence
  | .retainedCharge => .candidateCharge
  | .retainedRecordLimit => .retainedRecordLimit
  | .frontier => .frontier
  | .closureAccounting => .closureAccounting

def LiveFrontierOwner.prepareBindingTerminal (owner : LiveFrontierOwner) (activeBinding : ActiveBinding)
    (nextTransactionOrder : TransactionOrder) (nextDeliverySequence hardObserverProgress : DeliverySeq) :
    Except BindingTerminalPrepareError PreparedBindingTerminal := do
  require (activeBinding.conversationId = owner.frontiers.conversationId ∧
    ∃ p ∈ owner.frontiers.activeIdentities.participants, p.participantIndex = activeBinding.participantId ∧
        p.binding = .bound activeBinding.bindingEpoch) .authority
  require (owner.frontiers.nextOrder ≤ u64Max ∧ nextTransactionOrder = owner.frontiers.nextOrder) .transactionOrder
  require (add u64Max owner.frontiers.high 1 = some nextDeliverySequence) .deliverySequence
  require (hardObserverProgress ≤ owner.frontiers.high) .observerProgress
  return ⟨owner, ⟨activeBinding, .bindingTerminal nextTransactionOrder activeBinding.participantId,
    nextDeliverySequence⟩, hardObserverProgress⟩

namespace PreparedBindingTerminal

def chargeMatches (prepared : PreparedBindingTerminal) (charge : RetainedRecordCharge) : Prop :=
  charge.deliverySeq = prepared.key.deliverySeq ∧
    charge.admissionOrder = prepared.key.admissionOrder ∧ charge.encodedCharge.entries = 1

instance (prepared : PreparedBindingTerminal) (charge : RetainedRecordCharge) :
    Decidable (prepared.chargeMatches charge) :=
  inferInstanceAs (Decidable (_ ∧ _ ∧ _))

def admitTerminal (prepared : PreparedBindingTerminal) (charge : RetainedRecordCharge) : BindingTerminalAdmission :=
  let ⟨owner, key, hardObserverProgress⟩ := prepared
  if ¬prepared.chargeMatches charge then .refused .candidateCharge
  else if owner.retainedCharges.length + 1 ≤ owner.retainedRecordLimit then
    match owner.commitBindingTerminalCandidate key.activeBinding key.admissionOrder key.deliverySeq charge with
    | .ok owner => .commit owner
    | .error error => .refused (mapLiveFrontierError error)
  else if hardObserverProgress < key.deliverySeq then
    match owner.pendBindingTerminalCandidate key.activeBinding key.admissionOrder key.deliverySeq with
    | .ok owner => .pending owner hardObserverProgress
    | .error error => .refused (mapLiveFrontierError error)
  else .refused .retainedRecordLimit

end PreparedBindingTerminal

end Liminal
