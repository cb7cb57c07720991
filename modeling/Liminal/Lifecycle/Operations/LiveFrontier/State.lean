import Liminal.Lifecycle.Operations.OrdinaryRecordProjection
import Liminal.Lifecycle.Enrollment

/-!
# Accounting of the live operations

What each operation does to the closure accounting: appended rows raise the baseline, a moved floor
lowers it, acknowledged markers give up their anchors, and a Leave gives up the credit of the marker
it retires.
-/

namespace Liminal

open Checked Fallible WideResourceVector ResourceVector

variable {current result : WideResourceVector} {charges : List RetainedRecordCharge}

/-! ### Sums of charges -/

def chargeTotal (charges : List RetainedRecordCharge) : WideResourceVector :=
  ⟨(charges.map fun charge => charge.encodedCharge.entries).sum,
    (charges.map fun charge => charge.encodedCharge.bytes).sum⟩

@[simp] theorem chargeTotal_nil : chargeTotal [] = .zero := rfl

theorem chargeTotal_cons (charge : RetainedRecordCharge) (charges : List RetainedRecordCharge) :
    chargeTotal (charge :: charges) = charge.encodedCharge.widen + chargeTotal charges := by
  simp [chargeTotal, WideResourceVector.ext_iff]

theorem chargeTotal_append (left right : List RetainedRecordCharge) :
    chargeTotal (left ++ right) = chargeTotal left + chargeTotal right := by
  simp [chargeTotal, WideResourceVector.ext_iff]

def addCharges : WideResourceVector → List RetainedRecordCharge → Option WideResourceVector
  | current, [] => some current
  | current, charge :: rest => do
    let entries ← add u128Max current.entries charge.encodedCharge.entries
    let bytes ← add u128Max current.bytes charge.encodedCharge.bytes
    addCharges ⟨entries, bytes⟩ rest

def subCharges : WideResourceVector → List RetainedRecordCharge → Option WideResourceVector
  | current, [] => some current
  | current, charge :: rest => do
    let entries ← sub current.entries charge.encodedCharge.entries
    let bytes ← sub current.bytes charge.encodedCharge.bytes
    subCharges ⟨entries, bytes⟩ rest

theorem addCharges_eq_some (h : addCharges current charges = some result) : result = current + chargeTotal charges := by
  induction charges generalizing current with
  | nil =>
    simp only [addCharges, Option.some.injEq] at h
    subst h
    simp [WideResourceVector.ext_iff, zero]
  | cons charge rest ih =>
    simp only [addCharges, bind_eq_some, add_eq_some] at h
    obtain ⟨_, ⟨-, rfl⟩, _, ⟨-, rfl⟩, h⟩ := h
    rw [ih h, chargeTotal_cons, WideResourceVector.ext_iff]
    simp only [add_entries, add_bytes, widen_entries, widen_bytes]
    omega

theorem addCharges_of_fits (hentries : cap.entries ≤ u64Max) (hbytes : cap.bytes ≤ u64Max)
    (hfits : (current + chargeTotal [charge]).Fits cap) : addCharges current [charge] = some (current + chargeTotal
    [charge]) := by
  have hwide : u64Max ≤ u128Max := by decide
  rw [chargeTotal_cons] at hfits ⊢
  simp only [Fits, add_entries, add_bytes, widen_entries, widen_bytes, chargeTotal_nil, zero, Nat.add_zero] at hfits
  simp only [addCharges, bind_eq_some, add_eq_some]
  refine ⟨_, ⟨by omega, rfl⟩, _, ⟨by omega, rfl⟩, ?_⟩
  simp [WideResourceVector.ext_iff, zero]

theorem subCharges_eq_some (h : subCharges current charges = some result) : current = result + chargeTotal charges := by
  induction charges generalizing current with
  | nil =>
    simp only [subCharges, Option.some.injEq] at h
    subst h
    simp [WideResourceVector.ext_iff, zero]
  | cons charge rest ih =>
    simp only [subCharges, bind_eq_some, sub_eq_some] at h
    obtain ⟨_, ⟨hentries, rfl⟩, _, ⟨hbytes, rfl⟩, h⟩ := h
    have hrest := ih h
    rw [WideResourceVector.ext_iff] at hrest ⊢
    rw [chargeTotal_cons]
    simp only [add_entries, add_bytes, widen_entries, widen_bytes] at hrest ⊢
    omega

theorem subCharges_of_eq (h : current = result + chargeTotal charges) : subCharges current charges = some result := by
  induction charges generalizing current with
  | nil =>
    rw [h, subCharges]
    simp [WideResourceVector.ext_iff, zero]
  | cons charge rest ih =>
    rw [chargeTotal_cons, WideResourceVector.ext_iff] at h
    simp only [add_entries, add_bytes, widen_entries, widen_bytes] at h
    simp only [subCharges, bind_eq_some, sub_eq_some]
    refine ⟨_, ⟨by omega, rfl⟩, _, ⟨by omega, rfl⟩, ih ?_⟩
    rw [WideResourceVector.ext_iff]
    simp only [add_entries, add_bytes]
    omega

/-! ### The accounting after an operation -/

structure MarkerAccounting where
  (credits anchors : Nat)

namespace ClosureAccounting

variable (accounting : ClosureAccounting) {result : ClosureAccounting} (charges : List RetainedRecordCharge)

def accountingAfterRowsWithState
    (state : ClosureState) (marker : MarkerAccounting) (edgeSequenceClaims edgeOrderPositionClaims : Nat)
    (edgeKRemaining : ResourceVector) : Option ClosureAccounting := do
  let baseline ← addCharges accounting.baseline charges
  (tryNew { accounting.toClosureCounters with
    state
    markerCapacityCredits := marker.credits
    markerAnchors := marker.anchors
    edgeSequenceClaims
    edgeOrderPositionClaims
    edgeKRemaining
    baseline }).toOption

def accountingAfterRows : Option ClosureAccounting :=
  accounting.accountingAfterRowsWithState charges accounting.state ⟨accounting.markerCapacityCredits,
    accounting.markerAnchors⟩ accounting.edgeSequenceClaims accounting.edgeOrderPositionClaims accounting.edgeKRemaining

def accountingAfterFloor (released : List RetainedRecordCharge) : Option ClosureAccounting := do
  let baseline ← subCharges accounting.baseline released
  (tryNew { accounting.toClosureCounters with baseline }).toOption

def accountingAfterMarkerCrossings (crossed : Nat) : Option ClosureAccounting := do
  let anchors ← sub accounting.markerAnchors crossed
  accounting.accountingAfterRowsWithState [] accounting.state ⟨accounting.markerCapacityCredits,
    anchors⟩ accounting.edgeSequenceClaims accounting.edgeOrderPositionClaims accounting.edgeKRemaining

def accountingAfterMarkerAck : Option ClosureAccounting :=
  accounting.accountingAfterMarkerCrossings 1

def accountingAfterFencedAttach (nextState : ClosureState) : Option ClosureAccounting := do
  let anchors ← sub accounting.markerAnchors 1
  accounting.accountingAfterRowsWithState charges nextState ⟨accounting.markerCapacityCredits, anchors⟩ 0 0 ⟨0, 0⟩

/-- The row of a retired marker stays, now at its exact charge; its credit and an anchor are given up. -/
def accountingAfterLeave (retiredMarkerCharge : Option RetainedRecordCharge) : Option ClosureAccounting := do
  let markerReleased := retiredMarkerCharge.toList.length
  let credits ← sub accounting.markerCapacityCredits markerReleased
  let anchors ← sub accounting.markerAnchors markerReleased
  accounting.accountingAfterRowsWithState (charges ++ retiredMarkerCharge.toList) accounting.state ⟨credits,
    anchors⟩ accounting.edgeSequenceClaims accounting.edgeOrderPositionClaims accounting.edgeKRemaining

variable {accounting charges}

theorem accountingAfterRows_eq_some (h : accounting.accountingAfterRows charges = some result) :
    result.toClosureCounters = { accounting.toClosureCounters with
      baseline := accounting.baseline + chargeTotal charges } := by
  simp only [accountingAfterRows, accountingAfterRowsWithState, some_iff, tryNew_eq_ok] at h
  obtain ⟨baseline, hbase, h⟩ := h
  rw [h, addCharges_eq_some hbase]

theorem accountingAfterFloor_eq_some (h : accounting.accountingAfterFloor released = some result) :
    accounting.toClosureCounters = { result.toClosureCounters with
      baseline := result.baseline + chargeTotal released } := by
  simp only [accountingAfterFloor, some_iff, tryNew_eq_ok] at h
  obtain ⟨baseline, hbase, h⟩ := h
  rw [h]
  rw [← subCharges_eq_some hbase]

theorem accountingAfterMarkerCrossings_eq_some (h : accounting.accountingAfterMarkerCrossings crossed = some result) :
    crossed ≤ accounting.markerAnchors ∧ result.toClosureCounters =
      { accounting.toClosureCounters with markerAnchors := accounting.markerAnchors - crossed } := by
  simp only [accountingAfterMarkerCrossings, accountingAfterRowsWithState, addCharges, some_iff,
    sub_eq_some, Option.some.injEq, exists_eq_left', tryNew_eq_ok] at h
  obtain ⟨_, ⟨hle, rfl⟩, h⟩ := h
  exact ⟨hle, h⟩

theorem accountingAfterLeave_eq_some (h : accounting.accountingAfterLeave charges retiredMarkerCharge = some result) :
    retiredMarkerCharge.toList.length ≤ accounting.markerCapacityCredits ∧ retiredMarkerCharge.toList.length ≤
      accounting.markerAnchors ∧ result.toClosureCounters = { accounting.toClosureCounters with
        markerCapacityCredits := accounting.markerCapacityCredits - retiredMarkerCharge.toList.length
        markerAnchors := accounting.markerAnchors - retiredMarkerCharge.toList.length
        baseline := accounting.baseline + chargeTotal (charges ++ retiredMarkerCharge.toList) } := by
  simp only [accountingAfterLeave, accountingAfterRowsWithState, some_iff, sub_eq_some, tryNew_eq_ok] at h
  obtain ⟨_, ⟨hcredits, rfl⟩, _, ⟨hanchors, rfl⟩, baseline, hbase, h⟩ := h
  refine ⟨hcredits, hanchors, ?_⟩
  rw [h, addCharges_eq_some hbase]

end ClosureAccounting

/-! ### Rows -/

def retainedAttached (attached : AttachedLifecycleRecord) : RetainedCausalRecord where
  deliverySeq := attached.deliverySeq
  admissionOrder := attached.admissionOrder
  kind := .attachLifecycle attached.participantId attached.bindingEpoch

def retainedTerminal (terminal : CommittedBindingTerminal) : RetainedCausalRecord where
  deliverySeq := terminal.deliverySeq
  admissionOrder := terminal.identity.admissionOrder
  kind := .bindingTerminal ⟨terminal.identity.participantId, terminal.identity.bindingEpoch⟩

end Liminal
