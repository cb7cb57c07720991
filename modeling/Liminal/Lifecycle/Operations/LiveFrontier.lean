import Liminal.Lifecycle.Operations.LiveFrontier.Ledger
import Liminal.Lifecycle.Operations.LiveFrontier.State
import Liminal.Lifecycle.ClaimFrontier.Initial
import Liminal.Lifecycle.ClaimFrontier.Fenced
import Liminal.Lifecycle.ClaimFrontier.Ordinary
import Liminal.Lifecycle.Leave

/-!
# The live owner

The owner couples the frontiers with the closure accounting and the exact charge of every retained
row. Each operation derives rows and ledgers from the member's commit and changes all three together
or nothing.
-/

namespace Liminal

open Checked Fallible

@[ext] structure LiveFrontierOwner where
  frontiers : ClaimFrontiers
  closureAccounting : ClosureAccounting
  retainedCharges : List RetainedRecordCharge
  retainedRecordLimit : Nat
deriving DecidableEq

inductive LiveFrontierError
  | authority
  | precedence (condition : PrecedenceCondition)
  | retainedCharge
  | retainedRecordLimit
  | frontier
  | closureAccounting
deriving DecidableEq

def mapFrontierError : LiveFrontierTransitionError → LiveFrontierError
  | .authority => .authority
  | .precedence condition => .precedence condition
  | .recordPosition | .exhausted | .resultingFrontier => .frontier

def chargeKeyed (row : RetainedCausalRecord) (charge : RetainedRecordCharge) : Prop :=
  row.deliverySeq = charge.deliverySeq ∧ row.admissionOrder = charge.admissionOrder

instance (row : RetainedCausalRecord) (charge : RetainedRecordCharge) : Decidable (chargeKeyed row charge) :=
  inferInstanceAs (Decidable (_ ∧ _))

section

variable (rows : List RetainedCausalRecord) (charges : List RetainedRecordCharge)

def chargesKeyed : Prop :=
  rows.length = charges.length ∧ ∀ pair ∈ rows.zip charges, chargeKeyed pair.1 pair.2

instance (rows : List RetainedCausalRecord) (charges : List RetainedRecordCharge) :
    Decidable (chargesKeyed rows charges) :=
  inferInstanceAs (Decidable (_ ∧ _))

def appendedChargesKeyed : Prop :=
  chargesKeyed rows charges ∧ ∀ charge ∈ charges, charge.encodedCharge.entries = 1

end

instance (rows : List RetainedCausalRecord) (charges : List RetainedRecordCharge) :
    Decidable (appendedChargesKeyed rows charges) :=
  inferInstanceAs (Decidable (_ ∧ _))

namespace LiveFrontierOwner

def fromInitialEnrollment (operation : InitialEnrollmentOperationCommit) (attachedCharge : ResourceVector)
    (retainedRecordLimit : Nat) : Except InitialEnrollmentFrontierError LiveFrontierOwner := do
  let (frontiers, closureAccounting) ← ClaimFrontiers.fromInitialEnrollment operation attachedCharge
  let attached := operation.enrollment.attached
  return {
    frontiers
    closureAccounting
    retainedCharges := [⟨attached.deliverySeq, attached.admissionOrder, attachedCharge⟩]
    retainedRecordLimit }

/-! ### Operations that append rows -/

variable (owner : LiveFrontierOwner)

def transition (active : List FrontierParticipant)
    (rows : List RetainedCausalRecord) (charges : List RetainedRecordCharge)
    (sequence : SequenceLedger) (order : OrderLedger) : Except LiveFrontierError LiveFrontierOwner := do
  require (appendedChargesKeyed rows charges) .retainedCharge
  require (owner.frontiers.retainedRecords.length + rows.length ≤ owner.retainedRecordLimit) .retainedRecordLimit
  let closureAccounting ← orError (owner.closureAccounting.accountingAfterRows charges) .closureAccounting
  let frontiers ← (owner.frontiers.applyLiveTransition active rows sequence order).mapError mapFrontierError
  return { owner with
    frontiers
    closureAccounting
    retainedCharges := owner.retainedCharges ++ charges }

def withParticipant (participant : FrontierParticipant) : List FrontierParticipant :=
  replaceParticipant owner.frontiers.activeIdentities.participants participant

def commitBindingTerminalCandidate (activeBinding : ActiveBinding) (admissionOrder : AdmissionOrder)
    (deliverySeq : DeliverySeq) (charge : RetainedRecordCharge) : Except LiveFrontierError LiveFrontierOwner := do
  let participant ← orError (owner.frontiers.activeIdentities.find? activeBinding.participantId) .authority
  require (participant.binding = .bound activeBinding.bindingEpoch) .authority
  let active := owner.withParticipant
    ⟨participant.participantIndex, participant.cursor, .detached activeBinding.bindingEpoch⟩
  let row : RetainedCausalRecord := ⟨deliverySeq, admissionOrder,
    .bindingTerminal ⟨activeBinding.participantId, activeBinding.bindingEpoch⟩⟩
  let sequence ← orError (detachSequence owner.frontiers.sequence.ledger deliverySeq) .frontier
  let order ← orError (detachOrder owner.frontiers.order.ledger admissionOrder.transactionOrder) .frontier
  owner.transition active [row] [charge] sequence order

def applyEnrollmentFrontier (operation : EnrollmentCommit)
    (attachedCharge : RetainedRecordCharge) : Except LiveFrontierError LiveFrontierOwner := do
  let attached := operation.attached
  require (attached.conversationId = owner.frontiers.conversationId) .authority
  require (owner.frontiers.activeIdentities.contains attached.participantId = false) .authority
  let participant : FrontierParticipant :=
    ⟨attached.participantId, operation.member.cursor, .bound attached.bindingEpoch⟩
  let active := (owner.frontiers.activeIdentities.participants ++ [participant]).insertionSort
    fun p q => p.participantIndex ≤ q.participantIndex
  let sequence ← orError (enrollmentSequence owner.frontiers.sequence.ledger attached.deliverySeq) .frontier
  let order ← orError (enrollmentOrder owner.frontiers.order.ledger attached.admissionOrder.transactionOrder) .frontier
  owner.transition active [retainedAttached attached] [attachedCharge] sequence order

def applyDetachFrontier (operation : CommittedDetachTransition)
    (terminalCharge : RetainedRecordCharge) : Except LiveFrontierError LiveFrontierOwner := do
  let terminal := operation.terminal
  require (terminal.identity.conversationId = owner.frontiers.conversationId) .authority
  let participant ← orError (owner.frontiers.activeIdentities.find? terminal.identity.participantId) .authority
  let active := owner.withParticipant ⟨participant.participantIndex, operation.member.cursor,
    .detached terminal.identity.bindingEpoch⟩
  let row := retainedTerminal (.detached terminal)
  let sequence ← orError (detachSequence owner.frontiers.sequence.ledger row.deliverySeq) .frontier
  let order ← orError (detachOrder owner.frontiers.order.ledger row.admissionOrder.transactionOrder) .frontier
  owner.transition active [row] [terminalCharge] sequence order

/-! ### Attach -/

structure AttachFrontierCharges where
  terminal : Option RetainedRecordCharge
  attached : RetainedRecordCharge

def fencedAttachTransition (participant : FrontierParticipant) (priorBindingEpoch : BindingEpoch)
    (nextClosureState : ClosureState) (rows : List RetainedCausalRecord) (charges : List RetainedRecordCharge) :
    Except LiveFrontierError LiveFrontierOwner := do
  require (appendedChargesKeyed rows charges) .retainedCharge
  require (owner.frontiers.retainedRecords.length + rows.length ≤ owner.retainedRecordLimit) .retainedRecordLimit
  let closureAccounting ← orError
    (owner.closureAccounting.accountingAfterFencedAttach charges nextClosureState) .closureAccounting
  let frontiers ← (owner.frontiers.applyLiveFencedAttach participant priorBindingEpoch rows).mapError mapFrontierError
  return { owner with
    frontiers
    closureAccounting
    retainedCharges := (owner.retainedCharges ++ charges).insertionSort
      fun a b => a.deliverySeq ≤ b.deliverySeq }

/-- The rows of a fenced attach; a composed terminal needs a charge and nothing else may have one. -/
def fencedRows (attached : AttachedLifecycleRecord) (composedTerminal : Option CommittedBindingTerminal)
    (charges : AttachFrontierCharges) :
    Except LiveFrontierError (List RetainedCausalRecord × List RetainedRecordCharge) :=
  match composedTerminal, charges.terminal with
  | none, none => .ok ([retainedAttached attached], [charges.attached])
  | some terminal, some terminalCharge =>
    .ok ([retainedTerminal terminal, retainedAttached attached], [terminalCharge, charges.attached])
  | _, _ => .error .retainedCharge

def applyAttachFrontier (operation : AttachCommit)
    (charges : AttachFrontierCharges) : Except LiveFrontierError LiveFrontierOwner := do
  let attached := operation.attached
  require (attached.conversationId = owner.frontiers.conversationId) .authority
  let current ← orError (owner.frontiers.activeIdentities.find? attached.participantId) .authority
  let participant : FrontierParticipant :=
    ⟨current.participantIndex, operation.member.cursor, .bound attached.bindingEpoch⟩
  let active := owner.withParticipant participant
  let currentSequence := owner.frontiers.sequence.ledger
  let currentOrder := owner.frontiers.order.ledger
  let major := attached.admissionOrder.transactionOrder
  match operation.transition with
  | .detached => do
    require (charges.terminal = none) .retainedCharge
    let sequence ← orError (detachedAttachSequence currentSequence attached.deliverySeq) .frontier
    let order ← orError (detachedAttachOrder currentOrder major) .frontier
    owner.transition active [retainedAttached attached] [charges.attached] sequence order
  | .superseded terminal => do
    let terminalCharge ← orError charges.terminal .retainedCharge
    let rows := [retainedTerminal (.detached terminal), retainedAttached attached]
    let sequence ← orError (supersedingAttachSequence currentSequence rows) .frontier
    let order ← orError (supersedingAttachOrder currentOrder major) .frontier
    owner.transition active rows [terminalCharge, charges.attached] sequence order
  | .fencedRecovery priorBindingEpoch composedTerminal nextClosureState => do
    let (rows, keyedCharges) ← fencedRows attached composedTerminal charges
    owner.fencedAttachTransition participant priorBindingEpoch nextClosureState rows keyedCharges

/-! ### Pended terminals -/

def pendBindingTerminalCandidate (activeBinding : ActiveBinding)
    (admissionOrder : AdmissionOrder) (deliverySeq : DeliverySeq) : Except LiveFrontierError LiveFrontierOwner := do
  let order ← orError (detachOrder owner.frontiers.order.ledger admissionOrder.transactionOrder) .frontier
  let frontiers ← (owner.frontiers.applyPendingBindingTerminal activeBinding.participantId
    activeBinding.bindingEpoch deliverySeq admissionOrder order).mapError mapFrontierError
  return { owner with frontiers }

/-- The record limit is not checked again: a pended terminal keeps the row it was promised. The projection is
the position of the record. -/
def drainPendingTerminal (pending : PendingFinalization) (terminalCharge : RetainedRecordCharge) :
    Except LiveFrontierError (LiveFrontierOwner × DeliverySeq) := do
  let identity := pending.identity
  let expectedSequence ← orError (add u64Max owner.frontiers.high 1) .frontier
  require (terminalCharge.deliverySeq = expectedSequence ∧ terminalCharge.admissionOrder = identity.admissionOrder ∧
    terminalCharge.encodedCharge.entries = 1) .retainedCharge
  let closureAccounting ← orError (owner.closureAccounting.accountingAfterRows [terminalCharge]) .closureAccounting
  let (frontiers, record) ← (owner.frontiers.drainFirstBindingTerminal
    ⟨identity.participantId, identity.bindingEpoch⟩ identity.admissionOrder).mapError mapFrontierError
  return ({ owner with
    frontiers
    closureAccounting
    retainedCharges := owner.retainedCharges ++ [terminalCharge] }, record.deliverySeq)

/-! ### Acknowledgements -/

variable (participant : ParticipantId)

def crossedMarkerAnchors (previousCursor throughSeq : DeliverySeq) : Nat :=
  owner.frontiers.markerRecords.countP fun record => record.isMarkerOf participant &&
    decide (previousCursor < record.deliverySeq ∧ record.deliverySeq ≤ throughSeq)

def moveCursor (current : FrontierParticipant) (cursor : DeliverySeq)
    (closureAccounting : ClosureAccounting) : Except LiveFrontierError LiveFrontierOwner := do
  let frontiers ← (owner.frontiers.applyLiveIdentity
    ⟨current.participantIndex, cursor, current.binding⟩).mapError mapFrontierError
  return { owner with frontiers, closureAccounting }

def accountingAfterCrossed (accounting : ClosureAccounting) (crossed : Nat) : Option ClosureAccounting :=
  if crossed = 0 then some accounting else accounting.accountingAfterMarkerCrossings crossed

variable (throughSeq : DeliverySeq)

/-- Zero-debt and nonzero-debt acknowledgements move the cursor and give up the anchors it crosses. -/
def applyAckFrontier : Except LiveFrontierError LiveFrontierOwner := do
  let current ← orError (owner.frontiers.activeIdentities.find? participant) .authority
  let crossed := owner.crossedMarkerAnchors participant current.cursor throughSeq
  let closureAccounting ← orError (accountingAfterCrossed owner.closureAccounting crossed) .closureAccounting
  owner.moveCursor current throughSeq closureAccounting

def applyParticipantAckFrontier : Except LiveFrontierError LiveFrontierOwner :=
  owner.applyAckFrontier participant throughSeq

def applyNonzeroParticipantAckFrontier : Except LiveFrontierError LiveFrontierOwner :=
  owner.applyAckFrontier participant throughSeq

/-- A marker ack gives up one anchor, whatever the cursor was. -/
def applyMarkerAckFrontier (markerDeliverySeq : DeliverySeq) : Except LiveFrontierError LiveFrontierOwner := do
  require (∃ record ∈ owner.frontiers.markerRecords, record.deliverySeq = markerDeliverySeq ∧
    record.isMarkerOf participant = true) .authority
  let current ← orError (owner.frontiers.activeIdentities.find? participant) .authority
  let closureAccounting ← orError owner.closureAccounting.accountingAfterMarkerAck .closureAccounting
  owner.moveCursor current markerDeliverySeq closureAccounting

/-- Retires the anchors the accounting holds but the frontiers no longer show, and says how many. Runs when a
conversation is loaded, never between two operations. -/
def reconcileOrphanedMarkerAnchors : LiveFrontierOwner × Nat :=
  let derived := owner.frontiers.ordinaryUnacceptedMarkerAnchors.length +
    owner.frontiers.sequence.immutableCandidates.countP ImmutableSequenceCandidate.isMarker
  match sub owner.closureAccounting.markerAnchors derived with
  | none | some 0 => (owner, 0)
  | some orphaned =>
    match owner.closureAccounting.accountingAfterMarkerCrossings orphaned with
    | some closureAccounting => ({ owner with closureAccounting }, orphaned)
    | none => (owner, 0)

/-! ### Leave -/

def retiredMarkerCharge : Option (Option RetainedRecordCharge) :=
  match owner.frontiers.markerRecords.find? fun record => record.isMarkerOf participant with
  | none => some none
  | some marker =>
    (owner.retainedCharges.find? fun charge => charge.deliverySeq == marker.deliverySeq).map some

end LiveFrontierOwner

inductive LiveLeaveError
  | prepare (error : PrepareLeaveAuthorityError)
  | commit (error : LeaveCommitError)
  | retainedCharge
  | retainedRecordLimit
  | closureAccounting

structure LiveLeaveCommit where
  identity : RetiredIdentity
  owner : LiveFrontierOwner

def LiveLeaveCommit.observerProgressProjection (commit : LiveLeaveCommit) : DeliverySeq :=
  commit.identity.committedResult.leftDeliverySeq

namespace LiveFrontierOwner

def sortCharges (charges : List RetainedRecordCharge) : List RetainedRecordCharge :=
  charges.insertionSort fun a b => a.deliverySeq ≤ b.deliverySeq

variable (owner : LiveFrontierOwner)

def commitSettledLeaveFrontier (member : LiveMember)
    (binding : BindingState) (detachCell : DetachCell) (verified : VerifiedLeaveRequest)
    (leftDeliverySeq : DeliverySeq) (leftCharge : RetainedRecordCharge) : Except LiveLeaveError LiveLeaveCommit := do
  let retiredMarkerCharge ← orError (owner.retiredMarkerCharge member.participantId) .retainedCharge
  let authority ← (owner.frontiers.prepareSettledLeaveAuthority member binding).mapError .prepare
  let ⟨retired, frontiers⟩ ← (commitLeave member binding detachCell verified authority leftDeliverySeq).mapError .commit
  require (leftCharge.deliverySeq = retired.committedResult.leftDeliverySeq ∧
    leftCharge.admissionOrder = retired.leftAdmissionOrder ∧ leftCharge.encodedCharge.entries = 1) .retainedCharge
  let retainedCharges := sortCharges (owner.retainedCharges ++ [leftCharge])
  require (frontiers.retainedRecords.length ≤ owner.retainedRecordLimit ∧
    retainedCharges.length = frontiers.retainedRecords.length) .retainedRecordLimit
  let closureAccounting ← orError (owner.closureAccounting.accountingAfterLeave [leftCharge] retiredMarkerCharge)
    .closureAccounting
  return ⟨retired, { owner with frontiers, closureAccounting, retainedCharges }⟩

def commitPendingLeaveFrontier (member : LiveMember) (pending : PendingFinalization) (detachCell : DetachCell)
    (verified : VerifiedLeaveRequest) (parameters : PendingLeaveCommitParameters)
    (terminalCharge leftCharge : RetainedRecordCharge) : Except LiveLeaveError LiveLeaveCommit := do
  let retiredMarkerCharge ← orError (owner.retiredMarkerCharge member.participantId) .retainedCharge
  let authority ← (owner.frontiers.preparePendingLeaveAuthority member pending).mapError .prepare
  let ⟨retired, frontiers⟩ ← (commitPendingLeave member pending detachCell verified authority
    parameters).mapError .commit
  require (retired.committedResult.priorTerminalDeliverySeq = some parameters.terminalDeliverySeq ∧
    terminalCharge.deliverySeq = parameters.terminalDeliverySeq ∧
    terminalCharge.admissionOrder = pending.identity.admissionOrder ∧ terminalCharge.encodedCharge.entries = 1 ∧
    leftCharge.deliverySeq = retired.committedResult.leftDeliverySeq ∧
    leftCharge.admissionOrder = retired.leftAdmissionOrder ∧ leftCharge.encodedCharge.entries = 1) .retainedCharge
  let retainedCharges := sortCharges (owner.retainedCharges ++ [terminalCharge, leftCharge])
  require (frontiers.retainedRecords.length ≤ owner.retainedRecordLimit) .retainedRecordLimit
  require (retainedCharges.length = frontiers.retainedRecords.length) .retainedCharge
  let closureAccounting ← orError (owner.closureAccounting.accountingAfterLeave
    [terminalCharge, leftCharge] retiredMarkerCharge) .closureAccounting
  return ⟨retired, { owner with frontiers, closureAccounting, retainedCharges }⟩

/-! ### Binding fate -/

def releasedBelow (floor : Nat) : List RetainedRecordCharge :=
  owner.retainedCharges.takeWhile fun charge => charge.deliverySeq < floor

def chargesFrom (floor : Nat) : List RetainedRecordCharge :=
  owner.retainedCharges.filter fun charge => floor ≤ charge.deliverySeq

/-- Prepares and installs the fate of one binding at the floor measured for it. -/
def applyBindingFateTransition (participant : ParticipantId) (bindingEpoch : BindingEpoch)
    (cursor resultingFloor : DeliverySeq) (reserveFinalizer : Bool) : Except LiveFrontierError LiveFrontierOwner := do
  require (chargesKeyed owner.frontiers.retainedRecords owner.retainedCharges) .retainedCharge
  let frontiers ← (owner.frontiers.applyBindingFateTransition participant bindingEpoch cursor
    resultingFloor reserveFinalizer).mapError mapFrontierError
  let closureAccounting ← orError (owner.closureAccounting.accountingAfterFloor (owner.releasedBelow resultingFloor))
    .closureAccounting
  return { owner with
    frontiers
    closureAccounting
    retainedCharges := owner.chargesFrom resultingFloor }

def lowestRetainedMarkerSeq : Option DeliverySeq :=
  (owner.frontiers.markerRecords.map RetainedCausalRecord.deliverySeq).min?

/-- Installs what is still admissible of a floor measured earlier. -/
def installFinalizedBindingFateFloor (measuredFloor : DeliverySeq) : Except LiveFrontierError LiveFrontierOwner := do
  require (chargesKeyed owner.frontiers.retainedRecords owner.retainedCharges) .retainedCharge
  match admissibleInstalledFloor measuredFloor owner.frontiers.retainedFloor
      owner.lowestRetainedMarkerSeq owner.frontiers.high with
  | .subsumed => return owner
  | .install floor => do
    let closureAccounting ← orError
      (owner.closureAccounting.accountingAfterFloor (owner.releasedBelow floor)) .closureAccounting
    let frontiers ← (owner.frontiers.installFinalizedBindingFateFloor floor).mapError mapFrontierError
    return { owner with
      frontiers
      closureAccounting
      retainedCharges := owner.chargesFrom floor }

end LiveFrontierOwner

end Liminal
