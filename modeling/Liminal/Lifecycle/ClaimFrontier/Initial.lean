import Liminal.Lifecycle.ClaimFrontier.Rebuild
import Liminal.Lifecycle.Enrollment
import Liminal.Lifecycle.EnrollmentClosure

/-!
# The frontier of the first enrollment

The first enrollment allocates the first major and the first delivery sequence and builds both lanes
by hand: one terminal, one exit and one product position.
-/

namespace Liminal

open Checked Fallible

variable {requestConversation : ConversationId} {closure : InitialEnrollmentClosureInput}
  {slot : AllocatedParticipantSlot} {operation : InitialEnrollmentOperationCommit}

/-! ### The operation -/

structure InitialEnrollmentOperationCommit where
  enrollment : EnrollmentCommit
  order : OrderAllocation
  sequence : SequenceLedger
  closureProjection : InitialEnrollmentClosureProjection

inductive InitialEnrollmentGateFailure
  | closure (error : InitialEnrollmentClosureError)
  | order (error : OrderAdmissionError)
  | sequence (error : SequenceAdmissionError)
  | observerBackpressure
  | markerClosureCapacityExceeded (reason : ClosureRefusalReason)
  | allocatedParticipantMismatch (expected actual : Nat)
  | allocatedIdentityLimitMismatch (expected actual : Nat)
  | commit (error : EnrollmentCommitError)

/-- The stages after lookup and connection capacity: order, sequence, observer floor, closure, commit. -/
def applyInitialEnrollment (requestConversation : ConversationId) (closure : InitialEnrollmentClosureInput)
    (slot : AllocatedParticipantSlot) : Except InitialEnrollmentGateFailure InitialEnrollmentOperationCommit := do
  let projection ← (projectInitialEnrollmentClosure closure).mapError .closure
  -- The first enrollment never endows the recovery quartet and induces no marker.
  let orderPlan ← (projection.order.planEnrollmentWithRecoveryQuartet false).mapError .order
  let order ← (allocateOrder projection.order orderPlan).mapError .order
  let sequencePlan ← (projection.sequence.planEnrollmentWithRecoveryQuartet 0 false).mapError .sequence
  let sequence ← (admitSequence sequencePlan).mapError .sequence
  require (projection.resultingFloor ≤ 0 + 1) .observerBackpressure
  match checkRemainingClosure projection.currentAccounting false 0 projection.requiredCapacity with
  | some reason => .error (.markerClosureCapacityExceeded reason)
  | none => do
    require (slot.participantId = projection.participantIndex)
      (.allocatedParticipantMismatch projection.participantIndex slot.participantId)
    require (slot.identityLimit = projection.identitySlots)
      (.allocatedIdentityLimitMismatch projection.identitySlots slot.identityLimit)
    let enrollment ← (commitEnrollment requestConversation slot projection.bindingEpoch order.major
      sequence.highWatermark).mapError .commit
    return ⟨enrollment, order, sequence, projection⟩

section

variable (h : applyInitialEnrollment requestConversation closure slot = .ok operation)
include h

theorem applyInitialEnrollment_enrollment : ∃ epoch order seq,
      commitEnrollment requestConversation slot epoch order seq = .ok operation.enrollment := by
  simp only [applyInitialEnrollment, ok_iff] at h
  obtain ⟨_, -, _, -, _, -, _, -, _, -, -, h⟩ := h
  split at h
  · cases h
  · simp only [ok_iff] at h
    obtain ⟨-, -, enrollment, henroll, rfl⟩ := h
    exact ⟨_, _, _, henroll⟩

/-- A first enrollment that goes through: its record is at position one. -/
theorem applyInitialEnrollment_eq_ok : projectInitialEnrollmentClosure closure = .ok operation.closureProjection ∧
      operation.sequence.highWatermark = 1 ∧ ∃ order, operation.enrollment =
        ⟨.fromEnrollment slot.participantId requestConversation,
          ⟨slot.participantId, requestConversation, operation.closureProjection.bindingEpoch⟩,
          .fromBinding ⟨slot.participantId, requestConversation,
            operation.closureProjection.bindingEpoch⟩ order 1⟩ := by
  simp only [applyInitialEnrollment, SequenceLedger.planEnrollmentWithRecoveryQuartet,
    admitSequence, SequenceLedger.checkedHighWatermark, ok_iff, add_eq_some, SequenceLedger.tryNew_eq_ok] at h
  obtain ⟨projection, hproj, _, -, order, -, _, ⟨_, -, _, ⟨-, rfl⟩, _, -, _, -, _, -, rfl⟩,
    sequence, ⟨hhigh, -⟩, -, h⟩ := h
  obtain ⟨hzero, -, hseq, -⟩ := projectInitialEnrollmentClosure_eq_ok hproj
  rw [hseq, hzero] at hhigh
  split at h
  · cases h
  · simp only [ok_iff, commitEnrollment_eq_ok] at h
    obtain ⟨-, -, _, ⟨-, -, rfl⟩, rfl⟩ := h
    refine ⟨hproj, hhigh, order.major, ?_⟩
    rw [hhigh]

end

/-! ### The frontier -/

inductive InitialEnrollmentFrontierError
  | attachedChargeMismatch (expected actual : ResourceVector)
  | enrollmentShape
  | ledgerShape
  | closureProjection
  | positionOverflow
  | frontierInvariant

variable (projection : InitialEnrollmentClosureProjection)

/-- A clear state owes nothing; an owed one waits for the observer to reach the attached record. -/
def initialStateMatches (attached : AttachedLifecycleRecord) : Bool :=
  match projection.resultingAccounting.state with
  | .clear => projection.debt.isZero && decide (projection.remainingRecoveryClaim = ⟨0, 0⟩)
  | .owed debt (.observerProjection observer) =>
    decide (debt.value = projection.debt ∧ observer = ⟨attached.deliverySeq⟩ ∧
      projection.remainingRecoveryClaim = projection.resultingAccounting.edgeKRemaining)
  | .owed _ _ => false

def initialClosureMatches (attached : AttachedLifecycleRecord) : Prop :=
  let accounting := projection.resultingAccounting
  initialStateMatches projection attached = true ∧ projection.resultingFloor = 1 ∧ accounting.markerCapacityCredits =
    0 ∧ accounting.markerAnchors = 0 ∧ accounting.edgeSequenceClaims = 0 ∧ accounting.edgeOrderPositionClaims = 0 ∧
    accounting.baseline = projection.resultingBaseline

instance (projection : InitialEnrollmentClosureProjection) (attached : AttachedLifecycleRecord) :
    Decidable (initialClosureMatches projection attached) :=
  inferInstanceAs (Decidable (_ ∧ _ ∧ _ ∧ _ ∧ _ ∧ _ ∧ _))

namespace InitialEnrollmentOperationCommit

variable (operation)

/-- The enrollment is that of participant zero, of one conversation and one epoch throughout. -/
def shapeMatches : Prop :=
  let enrollment := operation.enrollment
  let binding := enrollment.binding
  let attached := enrollment.attached
  enrollment.member.participantId = 0 ∧ enrollment.member.cursor = 0 ∧ binding.participantId = 0 ∧
    attached.participantId = 0 ∧ binding.conversationId = enrollment.member.conversationId ∧ attached.conversationId =
    binding.conversationId ∧ attached.bindingEpoch = binding.bindingEpoch ∧
    operation.closureProjection.participantIndex = 0 ∧ operation.closureProjection.bindingEpoch = binding.bindingEpoch ∧
    operation.closureProjection.identitySlots ≠ 0

instance (operation : InitialEnrollmentOperationCommit) : Decidable operation.shapeMatches :=
  inferInstanceAs (Decidable (_ ∧ _ ∧ _ ∧ _ ∧ _ ∧ _ ∧ _ ∧ _ ∧ _ ∧ _))

/-- Both ledgers have just admitted the attached record and hold one terminal and one exit. -/
def ledgersMatch : Prop :=
  let attached := operation.enrollment.attached
  let orderLedger := operation.order.resulting
  operation.order.major = attached.admissionOrder.transactionOrder ∧ orderLedger.high =
    .allocated attached.admissionOrder.transactionOrder ∧ orderLedger.claims.activeBindingTerminals = 1 ∧
    orderLedger.claims.membershipExits = 1 ∧ orderLedger.claims.recoveryOperation = false ∧
    orderLedger.claims.recoveryReplacementTerminal = false ∧ operation.sequence.highWatermark = attached.deliverySeq ∧
    operation.sequence.claims = ⟨1, 1, 0, .none⟩ ∧ attached.admissionOrder.candidatePhase = .attachLifecycle

instance (operation : InitialEnrollmentOperationCommit) : Decidable operation.ledgersMatch :=
  inferInstanceAs (Decidable (_ ∧ _ ∧ _ ∧ _ ∧ _ ∧ _ ∧ _ ∧ _ ∧ _))

end InitialEnrollmentOperationCommit

def initialSequenceFrontier (ledger : SequenceLedger) (terminal : BindingTerminalOwner)
    (deliverySeq : DeliverySeq) : SequenceClaimFrontier where
  ledger := ledger
  movableClaims := [⟨deliverySeq + 1, .bindingTerminal terminal⟩, ⟨deliverySeq + 2, .membershipExit 0⟩]
  immutableCandidates := []
  products := ⟨[⟨deliverySeq + 3, 1, terminal⟩], none, []⟩
  recovery := none

def initialOrderFrontier (ledger : OrderLedger) (terminal : BindingTerminalOwner)
    (major : TransactionOrder) : OrderClaimFrontier where
  ledger := ledger
  movableClaims := [⟨major + 1, .activeBindingTerminal terminal⟩, ⟨major + 2, .membershipExit 0⟩]
  immutableCandidates := []
  recovery := none

namespace ClaimFrontiers

variable (operation)

/-- The frontiers of a conversation whose only record is the attach of participant zero. -/
def initialFrontiers : ClaimFrontiers :=
  let projection := operation.closureProjection
  let attached := operation.enrollment.attached
  let binding := operation.enrollment.binding
  let terminal : BindingTerminalOwner := ⟨0, binding.bindingEpoch⟩
  { conversationId := binding.conversationId
    activeIdentities := ⟨[⟨0, 0, .bound binding.bindingEpoch⟩], List.pairwise_singleton _ _⟩
    identitySlotLimit := projection.identitySlots
    retainedFloor := projection.resultingFloor
    retainedRecords := [⟨attached.deliverySeq, attached.admissionOrder, .attachLifecycle 0 binding.bindingEpoch⟩]
    markerRecords := []
    fencedMarkerIssued := none
    sequence := initialSequenceFrontier operation.sequence terminal attached.deliverySeq
    order := initialOrderFrontier operation.order.resulting terminal attached.admissionOrder.transactionOrder }

def fromInitialEnrollment (attachedCharge : ResourceVector) :
    Except InitialEnrollmentFrontierError (ClaimFrontiers × ClosureAccounting) := do
  let projection := operation.closureProjection
  let attached := operation.enrollment.attached
  require (attachedCharge = projection.resultingRetainedCharge)
    (.attachedChargeMismatch projection.resultingRetainedCharge attachedCharge)
  require operation.shapeMatches .enrollmentShape
  require operation.ledgersMatch .ledgerShape
  require (initialClosureMatches projection attached) .closureProjection
  require (attached.deliverySeq + 3 ≤ u64Max ∧ attached.admissionOrder.transactionOrder + 2 ≤ u64Max) .positionOverflow
  let frontiers := initialFrontiers operation
  (validateCrossCounter frontiers.sequence frontiers.order).mapError fun _ => .frontierInvariant
  return (frontiers, projection.resultingAccounting)

theorem fromInitialEnrollment_eq_ok {operation f}
    (h : fromInitialEnrollment operation attachedCharge = .ok (f, accounting)) :
    operation.shapeMatches ∧ operation.ledgersMatch ∧
      initialClosureMatches operation.closureProjection operation.enrollment.attached ∧
      f = initialFrontiers operation ∧ accounting = operation.closureProjection.resultingAccounting := by
  simp only [fromInitialEnrollment, ok_iff, Prod.mk.injEq] at h
  obtain ⟨-, hshape, hledgers, hclosure, -, _, -, rfl, rfl⟩ := h
  exact ⟨hshape, hledgers, hclosure, rfl, rfl⟩

end ClaimFrontiers

end Liminal
