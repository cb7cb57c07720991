import Liminal.Lifecycle.Operations.LiveFrontier

/-!
# Draining a marker

The first marker candidate becomes a retained record at the next position. Its price was part of the
baseline since it was planned, so only the closure edge can change with it.
-/

namespace Liminal

open Checked Fallible

inductive MarkerDrainError
  | noCandidate
  | bindingTerminalFirst
  | sequenceNotNext
  | currentEdgeMismatch
  | causalMajorNotAllocated
  | missingOrderCandidate
  | resultingLedger
  | markerChargeKey
  | markerEntryCharge
  | resultingAccounting

def mapCoreError : ClaimFrontiers.MarkerDrainCoreError → MarkerDrainError
  | .noCandidate => .noCandidate
  | .bindingTerminalFirst => .bindingTerminalFirst
  | .sequenceNotNext => .sequenceNotNext
  | .causalMajorNotAllocated => .causalMajorNotAllocated
  | .missingOrderCandidate => .missingOrderCandidate
  | .resultingLedger => .resultingLedger

/-- An edge that waits for the observer now waits for the marker; one that waits for compaction must lie below
it. -/
def applyMarkerAppend (current : ClosureState) (markerDeliverySeq : DeliverySeq) :
    Except MarkerDrainError ClosureState :=
  match current with
  | .clear => .ok .clear
  | .owed debt (.observerProjection projection) => do
    require (projection.throughSeq < markerDeliverySeq) .currentEdgeMismatch
    return .owed debt (.observerProjection ⟨markerDeliverySeq⟩)
  | .owed debt (.physicalCompaction compaction) => do
    require (compaction.throughSeq < markerDeliverySeq) .currentEdgeMismatch
    return .owed debt (.physicalCompaction compaction)
  | .owed _ _ => .error .currentEdgeMismatch

namespace LiveFrontierOwner

def drainNextMarker (owner : LiveFrontierOwner) (markerCharge : RetainedRecordCharge) :
    Except MarkerDrainError LiveFrontierOwner := do
  let (frontiers, marker) ← owner.frontiers.drainNextMarkerCore.mapError mapCoreError
  require (markerCharge.deliverySeq = marker.deliverySeq ∧
    markerCharge.admissionOrder = marker.admissionOrder) .markerChargeKey
  require (markerCharge.encodedCharge.entries = 1) .markerEntryCharge
  let state ← applyMarkerAppend owner.closureAccounting.state marker.deliverySeq
  let closureAccounting ← (ClosureAccounting.tryNew
    { owner.closureAccounting.toClosureCounters with state }).mapError fun _ => .resultingAccounting
  let retainedCharges := owner.retainedCharges ++ [markerCharge]
  require (chargesKeyed frontiers.retainedRecords retainedCharges) .markerChargeKey
  return { owner with frontiers, closureAccounting, retainedCharges }

end LiveFrontierOwner

end Liminal
