import Liminal.Lifecycle.Admission.Sequence
import Liminal.Lifecycle.Admission.Order
import Liminal.Lifecycle.ClosureAccounting

/-!
# Closure of the first enrollment

The first enrollment starts from an empty conversation. Its input is checked in full, then the
attached record is priced: everything fits and the conversation is clear, or it starts with a debt
that waits for the observer.
-/

namespace Liminal

open Checked Fallible

structure InitialEnrollmentClosureInput where
  accounting : ClosureAccounting
  identitySlots : Nat
  (mandatoryBound recoveryClaim markerMax attachedCharge : ResourceVector)
  participantIndex : ParticipantId
  bindingEpoch : BindingEpoch
  order : OrderLedger
  sequence : SequenceLedger
  (physicalFloor observerProgress : Nat)

inductive InitialEnrollmentClosureError
  | closureNotClear
  | clearOwnsEdgeResources
  | clearChurnNotReset (used : Nat)
  | churnLimit (configured : Nat)
  | zeroIdentitySlots
  | recoveryClaimDiffersFromMandatoryBound
  | participantIndexOutsideIdentityLimit (participantIndex identitySlots : Nat)
  | initialParticipantIndexNotZero (participantIndex : Nat)
  | bindingGeneration (generation : Generation)
  | nonemptyOrderLedger
  | nonemptySequenceLedger
  | initialFloorOrObserver (physicalFloor observerProgress : Nat)
  | nonemptyMarkerState (credits anchors : Nat)
  | baselineMismatch (derived durable : WideResourceVector)
  | startupEnvelope (dimension : ResourceDimension)
  | attachedChargeExceedsMandatoryBound (dimension : ResourceDimension)
  | attachedEntryCharge (actual : Nat)
  | retainedChargeOverflow (dimension : ResourceDimension)
  | mandatoryCapacity
  | resultingAccounting (error : ClosureAccountingError)
  | baseline

structure InitialEnrollmentClosureProjection where
  (currentAccounting resultingAccounting : ClosureAccounting)
  resultingRetainedCharge : ResourceVector
  resultingFloor : Nat
  resultingBaseline : WideResourceVector
  remainingRecoveryClaim : ResourceVector
  debt : WideResourceVector
  requiredCapacity : RequiredCapacityPlan
  order : OrderLedger
  sequence : SequenceLedger
  participantIndex : ParticipantId
  identitySlots : Nat
  bindingEpoch : BindingEpoch

def maxChurnLimit : Nat := 2 ^ 32 - 1

namespace InitialEnrollmentClosureInput

variable (input : InitialEnrollmentClosureInput)

/-- The baseline of an empty log: every identity slot at the maximum marker. -/
def baselineWith (retainedCharge : ResourceVector) : Except InitialEnrollmentClosureError WideResourceVector :=
  orError (retainedBaseline retainedCharge input.identitySlots 0 input.markerMax) .baseline

def validateInitialLedgersAndFloor : Except InitialEnrollmentClosureError Unit := do
  require (input.order.high = .empty ∧ input.order.claims = ⟨0, 0, false, false, rfl⟩) .nonemptyOrderLedger
  require (input.sequence.highWatermark = 0 ∧ input.sequence.claims = ⟨0, 0, 0, .none⟩) .nonemptySequenceLedger
  require (input.physicalFloor = 1 ∧ input.observerProgress = 0)
    (.initialFloorOrObserver input.physicalFloor input.observerProgress)
  require (input.accounting.markerCapacityCredits = 0 ∧ input.accounting.markerAnchors = 0)
    (.nonemptyMarkerState input.accounting.markerCapacityCredits input.accounting.markerAnchors)

def validateInitialCapacity : Except InitialEnrollmentClosureError Unit := do
  let derived ← input.baselineWith ⟨0, 0⟩
  require (derived = input.accounting.baseline) (.baselineMismatch derived input.accounting.baseline)
  match zeroDebtCapacityFailure derived input.mandatoryBound input.recoveryClaim input.accounting.configuredCap with
  | some dimension => .error (.startupEnvelope dimension)
  | none => do
    require (input.attachedCharge.entries = 1) (.attachedEntryCharge input.attachedCharge.entries)
    require (input.attachedCharge.entries ≤ input.mandatoryBound.entries)
      (.attachedChargeExceedsMandatoryBound .entries)
    require (input.attachedCharge.bytes ≤ input.mandatoryBound.bytes) (.attachedChargeExceedsMandatoryBound .bytes)

def validateInitialInput : Except InitialEnrollmentClosureError Unit := do
  require (input.accounting.state = .clear) .closureNotClear
  require (input.accounting.edgeSequenceClaims = 0 ∧ input.accounting.edgeOrderPositionClaims = 0 ∧
    input.accounting.edgeKRemaining = ⟨0, 0⟩) .clearOwnsEdgeResources
  require (input.accounting.episodeChurnUsed = 0) (.clearChurnNotReset input.accounting.episodeChurnUsed)
  require (2 ≤ input.accounting.episodeChurnLimit ∧ input.accounting.episodeChurnLimit ≤ maxChurnLimit)
    (.churnLimit input.accounting.episodeChurnLimit)
  require (input.identitySlots ≠ 0) .zeroIdentitySlots
  require (input.mandatoryBound = input.recoveryClaim) .recoveryClaimDiffersFromMandatoryBound
  require (input.participantIndex < input.identitySlots)
    (.participantIndexOutsideIdentityLimit input.participantIndex input.identitySlots)
  require (input.participantIndex = 0) (.initialParticipantIndexNotZero input.participantIndex)
  require (input.bindingEpoch.capabilityGeneration = 1) (.bindingGeneration input.bindingEpoch.capabilityGeneration)
  input.validateInitialLedgersAndFloor
  input.validateInitialCapacity

/-- The closure state the debt leaves behind, and the recovery claim that stays with it. -/
def initialState (recoveryClaim : ResourceVector) (debt : WideResourceVector) : ClosureState × ResourceVector :=
  match ClosureDebt.new debt with
  | none => (.clear, ⟨0, 0⟩)
  | some debt => (.owed debt (.observerProjection ⟨1⟩), recoveryClaim)

def checkedSum (baseline : WideResourceVector) (middle last : ResourceVector) :
    Except InitialEnrollmentClosureError WideResourceVector := do
  let entries ← orError ((add u128Max baseline.entries middle.entries).bind
    (add u128Max · last.entries)) (.retainedChargeOverflow .entries)
  let bytes ← orError ((add u128Max baseline.bytes middle.bytes).bind (add u128Max · last.bytes))
    (.retainedChargeOverflow .bytes)
  return ⟨entries, bytes⟩

/-- What the state right after the enrollment needs: with a debt the mandatory bound is no longer free. -/
def immediateRequired (baseline debt : WideResourceVector) : Except InitialEnrollmentClosureError WideResourceVector :=
  if debt.isZero then checkedSum baseline input.mandatoryBound input.recoveryClaim
  else checkedSum baseline ⟨0, 0⟩ input.recoveryClaim

end InitialEnrollmentClosureInput

open InitialEnrollmentClosureInput in
def projectInitialEnrollmentClosure (input : InitialEnrollmentClosureInput) :
    Except InitialEnrollmentClosureError InitialEnrollmentClosureProjection := do
  input.validateInitialInput
  let initialBaseline ← input.baselineWith ⟨0, 0⟩
  let resultingBaseline ← input.baselineWith input.attachedCharge
  let capacity := mandatoryCapacity resultingBaseline input.mandatoryBound input.recoveryClaim
    input.accounting.configuredCap
  require (capacity.isLegal = true) .mandatoryCapacity
  let (state, remainingRecoveryClaim) := initialState input.recoveryClaim capacity.debt
  let resultingAccounting ← (ClosureAccounting.tryNew {
    state
    markerCapacityCredits := 0
    markerAnchors := 0
    edgeSequenceClaims := 0
    edgeOrderPositionClaims := 0
    edgeKRemaining := remainingRecoveryClaim
    baseline := resultingBaseline
    configuredCap := input.accounting.configuredCap
    episodeChurnUsed := 0
    episodeChurnLimit := input.accounting.episodeChurnLimit }).mapError .resultingAccounting
  let immediateRequired ← input.immediateRequired resultingBaseline capacity.debt
  let clearSuccessorRequired ← checkedSum initialBaseline input.mandatoryBound input.recoveryClaim
  let requiredCapacity ← (RequiredCapacityPlan.fromSuccessors
    [immediateRequired, clearSuccessorRequired]).mapError fun _ => .mandatoryCapacity
  return {
    currentAccounting := input.accounting
    resultingAccounting
    resultingRetainedCharge := input.attachedCharge
    resultingFloor := 1
    resultingBaseline
    remainingRecoveryClaim
    debt := capacity.debt
    requiredCapacity
    order := input.order
    sequence := input.sequence
    participantIndex := input.participantIndex
    identitySlots := input.identitySlots
    bindingEpoch := input.bindingEpoch }

theorem projectInitialEnrollmentClosure_eq_ok (h : projectInitialEnrollmentClosure input = .ok projection) :
    input.sequence.highWatermark = 0 ∧ input.attachedCharge.entries = 1 ∧
      projection.sequence = input.sequence ∧ projection.identitySlots = input.identitySlots ∧
      projection.resultingFloor = 1 ∧ retainedBaseline input.attachedCharge input.identitySlots 0 input.markerMax =
        some projection.resultingBaseline ∧
      projection.resultingAccounting.configuredCap = input.accounting.configuredCap := by
  simp only [projectInitialEnrollmentClosure, InitialEnrollmentClosureInput.validateInitialInput,
    InitialEnrollmentClosureInput.validateInitialLedgersAndFloor, InitialEnrollmentClosureInput.validateInitialCapacity,
    InitialEnrollmentClosureInput.baselineWith, ok_iff, ClosureAccounting.tryNew_eq_ok] at h
  obtain ⟨_, ⟨-, -, -, -, -, -, -, -, -, ⟨-, ⟨hhigh, -⟩, -⟩, _, -, -, hcharge⟩, _, -, baseline,
    hbase, -, _, hacct, _, -, _, -, _, -, rfl⟩ := h
  split at hcharge
  · cases hcharge
  · simp only [ok_iff] at hcharge
    exact ⟨hhigh, hcharge.1, rfl, rfl, rfl, hbase, by rw [hacct]⟩

end Liminal
