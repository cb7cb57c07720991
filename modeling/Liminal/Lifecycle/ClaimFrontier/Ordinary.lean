import Liminal.Lifecycle.Operations.OrdinaryRecordProjection

/-!
# Applying an ordinary record to the frontiers

The record takes the first free position and the first free major, and its markers the positions
after it. Every claim above moves up by as much. The plan says what stays retained.
-/

namespace Liminal

open Checked Fallible

/-! ### Moving the claims up -/

variable (delta : Nat)

def RecoverySequenceBlock.shift (block : RecoverySequenceBlock) : RecoverySequenceBlock :=
  { block with
    terminal := block.terminal.map fun terminal =>
      { terminal with deliverySeq := terminal.deliverySeq + delta }
    recoveryAttachSeq := block.recoveryAttachSeq + delta
    replacementTerminalSeq := block.replacementTerminalSeq + delta }

def RecoveryOrderBlock.shift (block : RecoveryOrderBlock) : RecoveryOrderBlock :=
  { block with
    activeBinding := block.activeBinding.map fun active =>
      { active with transactionOrder := active.transactionOrder + delta }
    recoveryOperationOrder := block.recoveryOperationOrder + delta
    replacementTerminalOrder := block.replacementTerminalOrder + delta }

def MovableSequenceClaim.shift (claim : MovableSequenceClaim) : MovableSequenceClaim :=
  { claim with deliverySeq := claim.deliverySeq + delta }

def TerminalProductRange.shift (range : TerminalProductRange) : TerminalProductRange :=
  { range with start := range.start + delta }

def ReplacementTerminalProductRange.shift (range : ReplacementTerminalProductRange) :
    ReplacementTerminalProductRange :=
  { range with start := range.start + delta }

def ExitProductRange.shift (range : ExitProductRange) : ExitProductRange :=
  { range with start := range.start + delta }

def MovableOrderClaim.shift (claim : MovableOrderClaim) : MovableOrderClaim :=
  { claim with transactionOrder := claim.transactionOrder + delta }

variable (sequence : SequenceClaimFrontier)

/-- The first position of every claim, range and recovery value the sequence lane moves. -/
def SequenceClaimFrontier.ownerStarts : List DeliverySeq :=
  sequence.movableClaims.map MovableSequenceClaim.deliverySeq ++
    sequence.products.liveTimesTerminal.map TerminalProductRange.start ++
    sequence.products.liveTimesReplacementTerminal.toList.map ReplacementTerminalProductRange.start ++
    sequence.products.otherLiveTimesExit.map ExitProductRange.start ++
    sequence.recovery.toList.flatMap fun block =>
      block.terminal.toList.map RecoverySequenceTerminal.deliverySeq ++
        [block.recoveryAttachSeq, block.replacementTerminalSeq]

variable (order : OrderClaimFrontier)

def OrderClaimFrontier.ownerOrders : List TransactionOrder :=
  order.movableClaims.map MovableOrderClaim.transactionOrder ++
    order.recovery.toList.flatMap fun block =>
      block.activeBinding.toList.map RecoveryOrderActiveBinding.transactionOrder ++
        [block.recoveryOperationOrder, block.replacementTerminalOrder]

def preflightOrdinarySequenceOwners (delta : Nat) : Except OrdinaryProjectionError Unit :=
  require (sequence.immutableCandidates = [] ∧
    ∀ start ∈ sequence.ownerStarts, start + delta ≤ u64Max) .sequenceRelocation

def preflightOrdinaryOrderOwners : Except OrdinaryProjectionError Unit :=
  require (order.immutableCandidates = [] ∧ ∀ value ∈ order.ownerOrders, value + 1 ≤ u64Max) .orderRelocation

/-- The wrapping additions of the source do not wrap: the preflight has checked every one of them. -/
def relayOrdinarySequenceOwners (delta : Nat) : SequenceClaimFrontier :=
  { sequence with
    movableClaims := sequence.movableClaims.map (MovableSequenceClaim.shift delta)
    products := {
      liveTimesTerminal := sequence.products.liveTimesTerminal.map (TerminalProductRange.shift delta)
      liveTimesReplacementTerminal := sequence.products.liveTimesReplacementTerminal.map
        (ReplacementTerminalProductRange.shift delta)
      otherLiveTimesExit := sequence.products.otherLiveTimesExit.map (ExitProductRange.shift delta) }
    recovery := sequence.recovery.map (RecoverySequenceBlock.shift delta) }

def relayOrdinaryOrderOwners : OrderClaimFrontier :=
  { order with
    movableClaims := order.movableClaims.map (MovableOrderClaim.shift 1)
    recovery := order.recovery.map (RecoveryOrderBlock.shift 1) }

/-! ### The transition -/

structure ProjectedOrdinaryRecord where
  frontiers : ClaimFrontiers
  floor : FloorComputation
  (retainedCharge baseline : WideResourceVector)
  accounting : ClosureAccounting
  requiredCapacity : RequiredCapacityPlan
  order : OrderAllocation
  sequence : SequenceLedger
  callerRecord : RetainedCausalRecord
  callerCharge : RetainedRecordCharge
  retainedCharges : List RetainedRecordCharge
  newMarkerCandidates : List MarkerCandidateAuthority

inductive OrdinaryRecordProjectionDecision
  | drainFirst (candidate : ImmutableSequenceCandidate)
  | projected (record : ProjectedOrdinaryRecord)

variable (plan : OrdinaryFixedPointPlan)

/-- The lanes after the record: moved up, with the new ledgers and the marker candidates under one major. -/
def relaidLanes : SequenceClaimFrontier × OrderClaimFrontier :=
  let markers := plan.markerCandidates
  let sequence := relayOrdinarySequenceOwners sequence (markers.length + 1)
  let order := relayOrdinaryOrderOwners order
  ({ sequence with
      ledger := plan.sequence
      immutableCandidates := sequence.immutableCandidates ++ markers.map .marker }, { order with
      ledger := plan.order.resulting
      immutableCandidates := order.immutableCandidates ++
        if markers.isEmpty then []
        else [⟨plan.order.major, markers.map MarkerCandidateAuthority.admissionOrder⟩] })

namespace ClaimFrontiers

variable (f : ClaimFrontiers)

def ordinaryUnacceptedMarkerAnchors : List DeliverySeq := f.markerRecords.filterMap fun record =>
    match record.kind with
    | .compactionMarker participantIndex _ =>
      if ∃ p ∈ f.activeIdentities.find? participantIndex, p.cursor < record.deliverySeq then
        some record.deliverySeq
      else none
    | _ => none

def projectedRecord : ProjectedOrdinaryRecord where
  frontiers := { f with
    sequence := (relaidLanes f.sequence f.order plan).1
    order := (relaidLanes f.sequence f.order plan).2
    retainedFloor := plan.floor.resultingFloor
    retainedRecords := plan.retainedRecords
    markerRecords := f.markerRecords.filter fun record =>
      plan.floor.resultingFloor ≤ record.deliverySeq }
  floor := plan.floor
  retainedCharge := plan.retainedCharge
  baseline := plan.baseline
  accounting := plan.resultingAccounting
  requiredCapacity := plan.requiredCapacity
  order := plan.order
  sequence := plan.sequence
  callerRecord := plan.callerRecord
  callerCharge := plan.callerCharge
  retainedCharges := plan.retainedCharges
  newMarkerCandidates := plan.markerCandidates

def applyOrdinaryProjection : Except OrdinaryProjectionError ProjectedOrdinaryRecord := do
  let sequenceDelta ← orError (add u64Max plan.markerCandidates.length 1) .sequenceRelocation
  preflightOrdinarySequenceOwners f.sequence sequenceDelta
  preflightOrdinaryOrderOwners f.order
  let (sequence, order) := relaidLanes f.sequence f.order plan
  (validateCrossCounter sequence order).mapError fun _ => .sequenceRelocation
  return f.projectedRecord plan

variable (input : OrdinaryRecordProjectionInput)

def ordinaryProjectionFacts : OrdinaryProjectionFacts where
  request := input.request
  receivingBindingEpoch := input.receivingBindingEpoch
  encodedRecordCharge := input.encodedRecordCharge
  retainedRecords := f.retainedRecords
  retainedCharges := input.retainedCharges
  activeMarkerCreditRecords := f.markerRecords
  unacceptedMarkerAnchors := f.ordinaryUnacceptedMarkerAnchors
  activeIdentities := f.activeIdentities.participants
  identitySlotLimit := f.identitySlotLimit
  currentFloor := f.retainedFloor
  observerProgress := input.observerProgress
  orderLedger := f.order.ledger
  sequenceLedger := f.sequence.ledger
  immutableCandidates := f.sequence.immutableCandidates
  closureAccounting := input.closureAccounting
  remainingRecoveryClaim := input.closureAccounting.edgeKRemaining
  limits := input.limits

def projectOrdinaryRecord : Except OrdinaryProjectionError OrdinaryRecordProjectionDecision := do
  require (input.request.conversationId = f.conversationId) .conversation
  match ← projectOrdinaryFixedPoint (f.ordinaryProjectionFacts input) with
  | .drainFirst candidate => return .drainFirst candidate
  | .projected plan => do
    require (plan.floor.resultingFloor ≤ input.observerProgress + 1) .observerSelectorInvariant
    require (checkRemainingClosure input.closureAccounting false 0 plan.requiredCapacity = none)
      .closureSelectorInvariant
    let projected ← f.applyOrdinaryProjection plan
    return .projected projected

theorem projectOrdinaryRecord_eq_ok {f : ClaimFrontiers} {input}
    (h : f.projectOrdinaryRecord input = .ok (.projected projected)) :
    f.sequence.immutableCandidates = [] ∧ f.order.immutableCandidates = [] ∧
      ∃ plan markerState search, projected = f.projectedRecord plan ∧
        (f.ordinaryProjectionFacts input).Planned plan markerState search := by
  simp only [projectOrdinaryRecord, ok_iff] at h
  obtain ⟨-, decision, hdecision, h⟩ := h
  cases decision with
  | drainFirst candidate => simp only [pure_eq_ok, reduceCtorEq] at h
  | projected plan =>
    simp only [ok_iff, applyOrdinaryProjection, preflightOrdinarySequenceOwners,
      preflightOrdinaryOrderOwners, OrdinaryRecordProjectionDecision.projected.injEq] at h
    obtain ⟨-, -, _, ⟨_, -, ⟨hseq, -⟩, ⟨horder, -⟩, _, -, rfl⟩, rfl⟩ := h
    have hkernel := (projectOrdinaryFixedPoint_eq_projected.mp hdecision).2
    obtain ⟨markerState, search, hplanned⟩ := OrdinaryProjectionFacts.projectRecord_eq_ok hkernel
    exact ⟨hseq, horder, plan, markerState, search, rfl, hplanned⟩

end ClaimFrontiers

end Liminal
