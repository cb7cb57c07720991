import Liminal.Lifecycle.Operations.Acknowledgement
import Liminal.Lifecycle.Operations.LiveFrontier

/-!
# Admitting an ordinary record

The sender must act through its current binding, the record must have a legal size, and the
conversation must owe nothing. Then the projection decides: drain a candidate first, refuse, or
commit the owner it has computed.
-/

namespace Liminal

open Fallible

inductive RecordAdmissionRefusal
  | lookup (error : BindingRequiredLookupError)
  | recordTooLarge (dimension : ResourceDimension)
  | nonzeroDebt
  | drainFirst (candidate : ImmutableSequenceCandidate)
  | projection (error : OrdinaryProjectionError)

def checkRecordSize (encodedRecordCharge maxOrdinaryRecordCharge : ResourceVector) :
    Except RecordAdmissionRefusal Unit := do
  require (encodedRecordCharge.entries ≤ maxOrdinaryRecordCharge.entries) (.recordTooLarge .entries)
  require (encodedRecordCharge.bytes ≤ maxOrdinaryRecordCharge.bytes) (.recordTooLarge .bytes)

namespace LiveFrontierOwner

variable (owner : LiveFrontierOwner)

def projectionInput (request : RecordAdmission)
    (receivingBindingEpoch : BindingEpoch) (encodedRecordCharge : ResourceVector)
    (observerProgress : DeliverySeq) (limits : OrdinaryProjectionLimits) : OrdinaryRecordProjectionInput where
  request := ⟨request.conversationId, request.participantId⟩
  receivingBindingEpoch := receivingBindingEpoch
  encodedRecordCharge := encodedRecordCharge
  retainedCharges := owner.retainedCharges
  observerProgress := observerProgress
  closureAccounting := owner.closureAccounting
  limits := limits

def fromRecordAdmission (projected : ProjectedOrdinaryRecord) : LiveFrontierOwner where
  frontiers := projected.frontiers
  closureAccounting := projected.accounting
  retainedCharges := projected.retainedCharges
  retainedRecordLimit := owner.retainedRecordLimit

def applyRecordAdmission (member : LiveMember) (binding : BindingState)
    (receivingBindingEpoch : BindingEpoch) (request : RecordAdmission)
    (encodedRecordCharge maxOrdinaryRecordCharge : ResourceVector) (observerProgress : DeliverySeq)
    (limits : OrdinaryProjectionLimits) : Except RecordAdmissionRefusal ProjectedOrdinaryRecord := do
  let _ ← (lookupBindingRequired member binding receivingBindingEpoch request.conversationId
    request.participantId request.capabilityGeneration).mapError .lookup
  checkRecordSize encodedRecordCharge maxOrdinaryRecordCharge
  require (¬(owner.frontiers.sequence.immutableCandidates = [] ∧ owner.closureAccounting.state ≠ .clear)) .nonzeroDebt
  match ← (owner.frontiers.projectOrdinaryRecord (owner.projectionInput request receivingBindingEpoch
      encodedRecordCharge observerProgress limits)).mapError .projection with
  | .drainFirst candidate => .error (.drainFirst candidate)
  | .projected projected => return projected

end LiveFrontierOwner

end Liminal
