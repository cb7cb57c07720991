import Liminal.Algebra
import Liminal.Library.Fallible
import Liminal.Wire.Primitives

/-!
# Closure state and closure accounting

A conversation is `clear`, or owes a debt of capacity and stores the edge that repays it.
`ClosureCounters` is the raw record; `ClosureAccounting` one that passed the checks, so every later
value is built through `tryNew` again.
-/

namespace Liminal

open Checked Fallible

@[ext] structure ClosureDebt where
  value : WideResourceVector
  nonzero : value.isZero = false
deriving DecidableEq

def ClosureDebt.new (value : WideResourceVector) : Option ClosureDebt :=
  if h : value.isZero = false then some ⟨value, h⟩ else none

structure ObserverProjection where
  throughSeq : DeliverySeq
deriving DecidableEq

structure PhysicalCompaction where
  (fromFloor throughSeq : DeliverySeq)
  ordered : fromFloor ≤ throughSeq
deriving DecidableEq

structure MarkerDelivery where
  conversationId : ConversationId
  participantId : ParticipantId
  bindingEpoch : BindingEpoch
  markerDeliverySeq : DeliverySeq
deriving DecidableEq

inductive ParticipantCursorProgress
  | continuous (participantId : ParticipantId) (bindingEpoch : BindingEpoch) (throughSeq : DeliverySeq)
  | marker (conversationId : ConversationId) (participantId : ParticipantId)
      (bindingEpoch : BindingEpoch) (throughSeq markerDeliverySeq : DeliverySeq)
deriving DecidableEq

structure DetachedCredentialRecovery where
  conversationId : ConversationId
  participantId : ParticipantId
  markerDeliverySeq : DeliverySeq
  priorBindingEpoch : BindingEpoch
deriving DecidableEq

structure DetachedMarkerRelease where
  participantId : ParticipantId
  markerDeliverySeq : DeliverySeq
  lastDeadBindingEpoch : BindingEpoch
deriving DecidableEq

structure DetachedCursorRelease where
  participantId : ParticipantId
  lastDeadBindingEpoch : BindingEpoch
deriving DecidableEq

inductive StoredEdge
  | observerProjection (edge : ObserverProjection)
  | physicalCompaction (edge : PhysicalCompaction)
  | markerDelivery (edge : MarkerDelivery)
  | participantCursorProgress (edge : ParticipantCursorProgress)
  | detachedCredentialRecovery (edge : DetachedCredentialRecovery)
  | detachedMarkerRelease (edge : DetachedMarkerRelease)
  | detachedCursorRelease (edge : DetachedCursorRelease)
deriving DecidableEq

inductive ClosureState
  | clear
  | owed (debt : ClosureDebt) (edge : StoredEdge)
deriving DecidableEq

/-! ### Accounting -/

inductive ClosureAccountingError
  | zeroChurnLimit
  | churnUsedExceedsLimit (used limit : Nat)
  | markerAnchorsExceedCredits (anchors credits : Nat)
  | baselineExceedsCapacity (dimension : ResourceDimension)
  | clearStateOwnsEdgeResources
  | debtOutsideWireDomain (dimension : ResourceDimension)
deriving DecidableEq

@[ext] structure ClosureCounters where
  state : ClosureState
  (markerCapacityCredits markerAnchors edgeSequenceClaims edgeOrderPositionClaims : Nat)
  edgeKRemaining : ResourceVector
  baseline : WideResourceVector
  configuredCap : ResourceVector
  (episodeChurnUsed episodeChurnLimit : Nat)
deriving DecidableEq

namespace ClosureCounters

def invalidState (c : ClosureCounters) : Option ClosureAccountingError := match c.state with
  | .clear =>
    if c.edgeSequenceClaims ≠ 0 ∨ c.edgeOrderPositionClaims ≠ 0 ∨ c.edgeKRemaining ≠ ⟨0, 0⟩ then
      some .clearStateOwnsEdgeResources
    else none
  | .owed debt _ =>
    if u64Max < debt.value.entries then some (.debtOutsideWireDomain .entries)
    else if u64Max < debt.value.bytes then some (.debtOutsideWireDomain .bytes)
    else none

def invalid (c : ClosureCounters) : Option ClosureAccountingError :=
  if c.episodeChurnLimit = 0 then some .zeroChurnLimit
  else if c.episodeChurnLimit < c.episodeChurnUsed then
    some (.churnUsedExceedsLimit c.episodeChurnUsed c.episodeChurnLimit)
  else if c.markerCapacityCredits < c.markerAnchors then
    some (.markerAnchorsExceedCredits c.markerAnchors c.markerCapacityCredits)
  else if c.configuredCap.entries < c.baseline.entries then
    some (.baselineExceedsCapacity .entries)
  else if c.configuredCap.bytes < c.baseline.bytes then some (.baselineExceedsCapacity .bytes)
  else c.invalidState

end ClosureCounters

@[ext] structure ClosureAccounting extends ClosureCounters where
  valid : toClosureCounters.invalid = none
deriving DecidableEq

namespace ClosureAccounting

def tryNew (c : ClosureCounters) : Except ClosureAccountingError ClosureAccounting :=
  match h : c.invalid with
  | some error => .error error
  | none => .ok ⟨c, h⟩

@[simp] theorem tryNew_eq_ok : tryNew c = .ok accounting ↔ accounting.toClosureCounters = c := by
  unfold tryNew
  split
  · rename_i error h
    simp only [reduceCtorEq, false_iff]
    rintro rfl
    rw [accounting.valid] at h
    cases h
  · rw [Except.ok.injEq]
    constructor
    · rintro rfl
      rfl
    · rintro rfl
      rfl

theorem facts (accounting : ClosureAccounting) : accounting.markerAnchors ≤ accounting.markerCapacityCredits ∧
      accounting.baseline.Fits accounting.configuredCap ∧ accounting.toClosureCounters.invalidState = none := by
  have h := accounting.valid
  unfold ClosureCounters.invalid at h
  split_ifs at h with h₁ h₂ h₃ h₄ h₅
  exact ⟨by omega, ⟨by omega, by omega⟩, h⟩

theorem tryNew_of_baseline {accounting : ClosureAccounting} (hfits : baseline.Fits accounting.configuredCap) :
    ∃ result, tryNew { accounting.toClosureCounters with baseline } = .ok result ∧
      result.toClosureCounters = { accounting.toClosureCounters with baseline } := by
  have hvalid : ClosureCounters.invalid { accounting.toClosureCounters with baseline } = none := by
    have h := accounting.valid
    unfold ClosureCounters.invalid at h ⊢
    split_ifs at h with h₁ h₂ h₃ h₄ h₅
    rw [if_neg h₁, if_neg h₂, if_neg h₃, if_neg (Nat.not_lt.mpr hfits.1), if_neg (Nat.not_lt.mpr hfits.2)]
    exact h
  exact ⟨⟨_, hvalid⟩, by simp, rfl⟩

end ClosureAccounting

/-! ### Required capacity -/

inductive RequiredCapacityPlanError
  | emptySuccessorSet
  | arithmeticOverflow (dimension : ResourceDimension)
deriving DecidableEq

structure RequiredCapacityPlan where
  maximum : WideResourceVector

namespace RequiredCapacityPlan

def fromSuccessors (successors : List WideResourceVector) : Except RequiredCapacityPlanError RequiredCapacityPlan :=
  match successors with
  | [] => .error .emptySuccessorSet
  | first :: rest =>
    .ok ⟨rest.foldl (fun m state => ⟨max m.entries state.entries, max m.bytes state.bytes⟩) first⟩

def ordinary (resultingBaseline : WideResourceVector) (mandatoryBound fullRecoveryClaim : ResourceVector) :
    Except RequiredCapacityPlanError RequiredCapacityPlan := do
  let entriesWithQ ← orError (add u128Max resultingBaseline.entries mandatoryBound.entries)
    (.arithmeticOverflow .entries)
  let entries ← orError (add u128Max entriesWithQ fullRecoveryClaim.entries) (.arithmeticOverflow .entries)
  let bytesWithQ ← orError (add u128Max resultingBaseline.bytes mandatoryBound.bytes) (.arithmeticOverflow .bytes)
  let bytes ← orError (add u128Max bytesWithQ fullRecoveryClaim.bytes) (.arithmeticOverflow .bytes)
  return ⟨⟨entries, bytes⟩⟩

end RequiredCapacityPlan

inductive ClosureRefusalReason
  | recoveryFence
  | deliveredMarkerAwaitingAck
  | episodeChurnLimit
  | capacity (dimension : ResourceDimension) (required limit : Nat)

/-- What is left to check once the recovery fence is down: the reason of a refusal, or nothing. -/
def checkRemainingClosure (accounting : ClosureAccounting) (deliveredMarkerAwaitingAck : Bool)
    (deltaCycles : Nat) (requiredCapacity : RequiredCapacityPlan) : Option ClosureRefusalReason :=
  if deliveredMarkerAwaitingAck then some .deliveredMarkerAwaitingAck
  else if accounting.episodeChurnLimit < accounting.episodeChurnUsed + deltaCycles then
    some .episodeChurnLimit
  else if accounting.configuredCap.entries < requiredCapacity.maximum.entries then
    some (.capacity .entries requiredCapacity.maximum.entries accounting.configuredCap.entries)
  else if accounting.configuredCap.bytes < requiredCapacity.maximum.bytes then
    some (.capacity .bytes requiredCapacity.maximum.bytes accounting.configuredCap.bytes)
  else none

end Liminal
