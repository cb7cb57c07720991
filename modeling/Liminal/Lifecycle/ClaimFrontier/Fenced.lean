import Liminal.Lifecycle.ClaimFrontier.Live

/-!
# Fenced attach

A participant whose binding died while a marker was under way can come back through the recovery
block: the attach takes the block's reserved position and major instead of allocating new ones. The
transition needs a block in both lanes.
-/

namespace Liminal

open Checked Fallible

section

variable (sequence : SequenceLedger) (order : OrderLedger) (finalizesPending : Bool)

def applyFencedLedgers : Option (SequenceLedger × OrderLedger) := do
  let sequence ← (if finalizesPending then sequence.applyFencedRecoveryFinalizingPending
    else sequence.applyFencedRecovery).toOption
  let order ← (if finalizesPending then order.applyFencedRecoveryFinalizingPending
    else order.applyFencedRecovery).toOption
  return (sequence, order)

/-- With the reserves held the ledgers never refuse, and every record takes a position of the reserve. -/
theorem fenced_ledgers_transfer
    (hrecovery : sequence.claims.recovery = .detachedCredentialRecovery) (hterminal : finalizesPending = true →
    sequence.claims.bindingTerminals ≠ 0) (hoperation : order.claims.recoveryOperation = true)
    (hreplacement : order.claims.recoveryReplacementTerminal = true) :
    ∃ sequence' order', applyFencedLedgers sequence order finalizesPending = some (sequence', order') ∧
      sequence'.highWatermark + sequence'.requiredReserve ≤ u64Max ∧ order'.high.next + order'.claims.total ≤
      u64Max + 1 ∧ sequence'.highWatermark = sequence.highWatermark + (if finalizesPending then 2 else 1) ∧
      sequence.requiredReserve = sequence'.requiredReserve + (sequence'.highWatermark - sequence.highWatermark) +
        (if finalizesPending then sequence.claims.liveMembers else 0) ∧
      order'.high = order.high ∧ order.claims.total = order'.claims.total + 1 := by
  obtain ⟨order', hordered, hhigh, htotal⟩ := OrderLedger.applyFencedRecovery_succeeds hoperation hreplacement
  cases finalizesPending with
  | false =>
    obtain ⟨sequence', happly, hadvanced, hreserve⟩ := SequenceLedger.applyFencedRecovery_succeeds hrecovery
    refine ⟨sequence', order', ?_, sequence'.fits, order'.fits, hadvanced, ?_, hhigh, htotal⟩
    · simp [applyFencedLedgers, happly, hordered, Except.toOption]
    · rw [hadvanced, Nat.add_sub_cancel_left]
      exact hreserve
  | true =>
    obtain ⟨sequence', happly, hadvanced, hreserve⟩ :=
      SequenceLedger.applyFencedRecoveryFinalizingPending_succeeds hrecovery (hterminal rfl)
    refine ⟨sequence', order', ?_, sequence'.fits, order'.fits, hadvanced, ?_, hhigh, htotal⟩
    · simp [applyFencedLedgers, happly, OrderLedger.applyFencedRecoveryFinalizingPending, hordered, Except.toOption]
    · rw [hadvanced, Nat.add_sub_cancel_left]
      exact hreserve

end

theorem fenced_ledgers_transfer_pending :
    let sequence : SequenceLedger := ⟨u64Max - 7, ⟨1, 1, 1, .detachedCredentialRecovery⟩, by decide⟩
    let order : OrderLedger := ⟨.allocated 4, ⟨0, 1, true, true, rfl⟩, by decide⟩
    ∃ sequence' order', applyFencedLedgers sequence order true = some (sequence', order') ∧
      sequence'.highWatermark = u64Max - 5 := by
  intro sequence order
  obtain ⟨sequence', order', happly, -, -, hhigh, -⟩ :=
    fenced_ledgers_transfer sequence order true rfl (fun _ => Nat.one_ne_zero) rfl rfl
  exact ⟨sequence', order', happly, hhigh⟩

namespace ClaimFrontiers

def fencedRecoveryAuthorityMatches (current participant : FrontierParticipant) (priorBindingEpoch : BindingEpoch)
    (sequenceRecovery : RecoverySequenceBlock) (orderRecovery : RecoveryOrderBlock) : Bool :=
  let participantMatches := sequenceRecovery.participantIndex == participant.participantIndex &&
    orderRecovery.participantIndex == participant.participantIndex
  let markerMatches := sequenceRecovery.markerDeliverySeq == participant.cursor &&
    orderRecovery.markerDeliverySeq == participant.cursor
  let priorEpochMatches := sequenceRecovery.recoveredBindingEpoch == priorBindingEpoch &&
    orderRecovery.recoveredBindingEpoch == priorBindingEpoch
  let bound := match participant.binding with
    | .bound _ => true
    | .detached _ => false
  participantMatches && markerMatches && priorEpochMatches &&
    current.binding == .detached priorBindingEpoch && current.cursor ≤ participant.cursor && bound

variable (f : ClaimFrontiers)

/-- The pended terminal of the two appended records is the candidate both lanes hold. -/
def pendingFencedTerminalMatches (appendedRecords : List RetainedCausalRecord) : Bool :=
  match appendedRecords with
  | [terminal, _] =>
    match terminal.kind with
    | .bindingTerminal owner =>
      f.sequence.immutableCandidates.contains (.bindingTerminal terminal.deliverySeq terminal.admissionOrder owner) &&
        f.order.immutableCandidates.contains ⟨terminal.admissionOrder.transactionOrder, [terminal.admissionOrder]⟩
    | _ => false
  | _ => false

variable (participant : FrontierParticipant)

/-- The last record is the attach at the block's position; a terminal before it is the block's own or the
pended one. -/
def fencedRecordsMatch (sequenceRecovery : RecoverySequenceBlock) (orderRecovery : RecoveryOrderBlock)
    (appendedRecords : List RetainedCausalRecord) (pendingTerminalMatches : Bool) : Bool :=
  match appendedRecords.getLast?, participant.binding with
  | some attached, .bound recoveredBindingEpoch =>
    let attachedMatches := attached.deliverySeq == sequenceRecovery.recoveryAttachSeq &&
      attached.admissionOrder.transactionOrder == orderRecovery.recoveryOperationOrder &&
      attached.kind == .attachLifecycle participant.participantIndex recoveredBindingEpoch
    attachedMatches &&
      match sequenceRecovery.terminal, orderRecovery.activeBinding, appendedRecords.dropLast with
      | none, none, [] => true
      | none, none, [_] => pendingTerminalMatches
      | some sequenceTerminal, some orderTerminal, [terminal] =>
        sequenceTerminal.owner == orderTerminal.owner && terminal.deliverySeq == sequenceTerminal.deliverySeq &&
          terminal.admissionOrder.transactionOrder == orderTerminal.transactionOrder &&
          terminal.kind == .bindingTerminal sequenceTerminal.owner
      | _, _, _ => false
  | _, _ => false

def hasRecoveryMarker : Bool :=
  f.retainedRecords.any fun record =>
    record.deliverySeq == participant.cursor && record.isMarkerOf participant.participantIndex

def hasDuplicateAppendedRecord (appendedRecords : List RetainedCausalRecord) : Bool :=
  appendedRecords.any fun row => f.retainedRecords.any fun r => r.deliverySeq == row.deliverySeq

def applyLiveFencedAttach (priorBindingEpoch : BindingEpoch) (appendedRecords : List RetainedCausalRecord) :
    Except LiveFrontierTransitionError ClaimFrontiers := do
  let current ← orError (f.activeIdentities.find? participant.participantIndex) .authority
  let sequenceRecovery ← orError f.sequence.recovery (.precedence .fencedRecovery)
  let orderRecovery ← orError f.order.recovery (.precedence .fencedRecovery)
  require (fencedRecoveryAuthorityMatches current participant priorBindingEpoch sequenceRecovery
    orderRecovery = true) .authority
  let finalizesPending := appendedRecords.length == 2
  let pendingTerminalMatches := f.pendingFencedTerminalMatches appendedRecords
  let candidatesEmpty :=
    f.sequence.immutableCandidates.isEmpty && f.order.immutableCandidates.isEmpty
  require ((candidatesEmpty || finalizesPending && pendingTerminalMatches) = true) (.precedence f.precedenceCondition)
  require (fencedRecordsMatch participant sequenceRecovery orderRecovery appendedRecords
    pendingTerminalMatches = true) .recordPosition
  require (f.hasRecoveryMarker participant = true) .authority
  require (f.hasDuplicateAppendedRecord appendedRecords = false) .recordPosition
  let (sequenceLedger, orderLedger) ← orError
    (applyFencedLedgers f.sequence.ledger f.order.ledger finalizesPending) .resultingFrontier
  let active ← (ActiveIdentityRanks.tryNew (replaceParticipant f.activeIdentities.participants
    participant) sequenceLedger.highWatermark f.identitySlotLimit).mapError fun _ => .authority
  let (sequence, order) ← (rebuildUnreservedFrontiers active sequenceLedger orderLedger).mapError
    fun _ => .resultingFrontier
  return { f with
    activeIdentities := active
    retainedRecords := (f.retainedRecords ++ appendedRecords).insertionSort
      fun a b => a.deliverySeq ≤ b.deliverySeq
    markerRecords := f.markerRecords.filter fun record => record.deliverySeq ≠ participant.cursor
    sequence
    order }

end ClaimFrontiers

end Liminal
