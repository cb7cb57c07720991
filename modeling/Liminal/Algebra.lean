import Liminal.Library.Checked

/-!
# Resource vectors, capacity and floors

The arithmetic of the lifecycle: a two-component charge over `u64` (or, wide, over `u128`), the
capacity inequalities over it, and the three floor rules.
-/

namespace Liminal

open Checked

variable {lowestRetainedMarkerSeq : Option Nat} {retainedFloor highWatermark floor : Nat}

structure ResourceVector where
  entries : Nat
  bytes : Nat
deriving DecidableEq

@[ext] structure WideResourceVector where
  entries : Nat
  bytes : Nat
deriving DecidableEq

namespace WideResourceVector

def zero : WideResourceVector := ⟨0, 0⟩

def isZero (v : WideResourceVector) : Bool := v.entries == 0 && v.bytes == 0

variable (v w : WideResourceVector)

def add : WideResourceVector :=
  ⟨v.entries + w.entries, v.bytes + w.bytes⟩

instance : Add WideResourceVector := ⟨add⟩

@[simp] theorem add_entries : (v + w).entries = v.entries + w.entries := rfl

@[simp] theorem add_bytes : (v + w).bytes = v.bytes + w.bytes := rfl

def Fits (v : WideResourceVector) (cap : ResourceVector) : Prop :=
  v.entries ≤ cap.entries ∧ v.bytes ≤ cap.bytes

instance (v : WideResourceVector) (cap : ResourceVector) : Decidable (v.Fits cap) :=
  inferInstanceAs (Decidable (_ ∧ _))

end WideResourceVector

def ResourceVector.widen (v : ResourceVector) : WideResourceVector := ⟨v.entries, v.bytes⟩

@[simp] theorem ResourceVector.widen_entries (v : ResourceVector) : v.widen.entries = v.entries := rfl

@[simp] theorem ResourceVector.widen_bytes (v : ResourceVector) : v.widen.bytes = v.bytes := rfl

/-! ### Capacity -/

/-- The retained charge, with every identity slot that holds no marker credit priced at the maximum marker.
Nothing when there are more credits than slots. -/
def retainedBaseline (retainedCharge : ResourceVector) (identitySlots markerCredits : Nat)
    (markerMax : ResourceVector) : Option WideResourceVector :=
  if markerCredits ≤ identitySlots then
    some ⟨retainedCharge.entries + (identitySlots - markerCredits) * markerMax.entries,
      retainedCharge.bytes + (identitySlots - markerCredits) * markerMax.bytes⟩
  else none

/-- One component of the zero-debt inequality; a sum that leaves `u128` does not fit. -/
def componentFits (baseline q k cap : Nat) : Bool := match add u128Max baseline q with
  | none => false
  | some withQ =>
    match add u128Max withQ k with
    | none => false
    | some required => required ≤ cap

inductive ResourceDimension
  | entries
  | bytes
deriving DecidableEq

variable (baseline : WideResourceVector)

section

variable (mandatoryBound recoveryClaim configuredCap : ResourceVector)

/-- The first component in which baseline, mandatory bound and recovery claim do not fit the cap together. -/
def zeroDebtCapacityFailure : Option ResourceDimension :=
  if componentFits baseline.entries mandatoryBound.entries recoveryClaim.entries
      configuredCap.entries = false then some .entries
  else if componentFits baseline.bytes mandatoryBound.bytes recoveryClaim.bytes
      configuredCap.bytes = false then some .bytes
  else none

def zeroDebtAdmission : Bool :=
  (zeroDebtCapacityFailure baseline mandatoryBound recoveryClaim configuredCap).isNone

end

structure MandatoryComponent where
  debt : Nat
  (absoluteFit debtWithinBound : Bool)

def mandatoryComponent (baseline q k cap : Nat) : MandatoryComponent :=
  let debt := match add u128Max baseline q with
    | some withQ =>
      match add u128Max withQ k with
      | some required => required - cap
      | none => u128Max
    | none => u128Max
  let absoluteFit := match add u128Max baseline k with
    | some required => decide (required ≤ cap)
    | none => false
  ⟨debt, absoluteFit, decide (debt ≤ q)⟩

structure MandatoryCapacity where
  debt : WideResourceVector
  (absoluteFit debtWithinMandatoryBound : Bool)

def MandatoryCapacity.isLegal (c : MandatoryCapacity) : Bool :=
  c.absoluteFit && c.debtWithinMandatoryBound

def mandatoryCapacity (resultingBaseline : WideResourceVector)
    (mandatoryBound remainingRecoveryClaim configuredCap : ResourceVector) : MandatoryCapacity :=
  let entries := mandatoryComponent resultingBaseline.entries mandatoryBound.entries
    remainingRecoveryClaim.entries configuredCap.entries
  let bytes := mandatoryComponent resultingBaseline.bytes mandatoryBound.bytes
    remainingRecoveryClaim.bytes configuredCap.bytes
  ⟨⟨entries.debt, bytes.debt⟩, entries.absoluteFit && bytes.absoluteFit,
    entries.debtWithinBound && bytes.debtWithinBound⟩

/-! ### Floors -/

structure FloorComputation where
  (memberCursor preferredFloor resultingFloor : Nat)
deriving DecidableEq

/-- The floor after everyone's cursor and the hard observer have moved on: never below the current floor, the
preferred floor or the capacity floor. -/
def floorTransition (currentFloor : Nat) (minimumMemberCursor : Option Nat)
    (candidateHighWatermark observerProgress capFloor : Nat) : FloorComputation :=
  let memberCursor := minimumMemberCursor.getD candidateHighWatermark
  let preferredFloor :=
    if memberCursor < observerProgress then memberCursor + 1 else observerProgress + 1
  let baseResult := if currentFloor > preferredFloor then currentFloor else preferredFloor
  let resultingFloor := if baseResult > capFloor then baseResult else capFloor
  ⟨memberCursor, preferredFloor, resultingFloor⟩

/-- A floor never passes the lowest retained marker. -/
def markerClampedFloor (computedFloor : Nat) (lowestRetainedMarkerSeq : Option Nat) : Nat :=
  match lowestRetainedMarkerSeq with
  | some marker => if computedFloor < marker then computedFloor else marker
  | none => computedFloor

inductive AdmissibleFloor
  | install (floor : Nat)
  | subsumed

/-- What of a floor measured earlier may still be installed. -/
def admissibleInstalledFloor (measuredFloor retainedFloor : Nat)
    (lowestRetainedMarkerSeq : Option Nat) (highWatermark : Nat) : AdmissibleFloor :=
  let retainedEnd := highWatermark + 1
  let upper := markerClampedFloor retainedEnd lowestRetainedMarkerSeq
  let target := if measuredFloor < upper then measuredFloor else upper
  if target < retainedFloor then .subsumed else .install target

theorem floorTransition_resultingFloor (currentFloor : Nat) (minimumMemberCursor : Option Nat)
    (candidateHighWatermark observerProgress capFloor : Nat) :
    (floorTransition currentFloor minimumMemberCursor candidateHighWatermark observerProgress
        capFloor).resultingFloor = max (max currentFloor
        (min (minimumMemberCursor.getD candidateHighWatermark) observerProgress + 1)) capFloor := by
  simp only [floorTransition]
  split_ifs <;> omega

theorem markerClampedFloor_le (computedFloor : Nat) (lowestRetainedMarkerSeq : Option Nat) :
    markerClampedFloor computedFloor lowestRetainedMarkerSeq ≤ computedFloor ∧ ∀ marker ∈ lowestRetainedMarkerSeq,
        markerClampedFloor computedFloor lowestRetainedMarkerSeq ≤ marker := by
  cases lowestRetainedMarkerSeq with
  | none => exact ⟨Nat.le_refl _, fun _ hmarker => nomatch hmarker⟩
  | some marker =>
    simp only [markerClampedFloor, Option.mem_def, Option.some.injEq, forall_eq']
    split_ifs <;> omega

theorem le_markerClampedFloor (hcomputed : bound ≤ computedFloor) (hmarkers : ∀ marker ∈ lowestRetainedMarkerSeq,
    bound ≤ marker) : bound ≤ markerClampedFloor computedFloor lowestRetainedMarkerSeq := by
  cases lowestRetainedMarkerSeq with
  | none => exact hcomputed
  | some marker =>
    have hmarker := hmarkers marker rfl
    simp only [markerClampedFloor]
    split_ifs <;> assumption

/-- What is installed lies between the floor and everything that bounds it; what is subsumed would lie below
the floor. -/
theorem admissibleInstalledFloor_eq_install
    (h : admissibleInstalledFloor measuredFloor retainedFloor lowestRetainedMarkerSeq highWatermark =
      .install floor) : retainedFloor ≤ floor ∧ floor ≤ measuredFloor ∧ floor ≤ highWatermark + 1 ∧
      ∀ marker ∈ lowestRetainedMarkerSeq, floor ≤ marker := by
  obtain ⟨hend, hmarkers⟩ := markerClampedFloor_le (highWatermark + 1) lowestRetainedMarkerSeq
  simp only [admissibleInstalledFloor] at h
  split_ifs at h with hmeas hsubsumed hsubsumed
  · obtain rfl := AdmissibleFloor.install.inj h
    exact ⟨Nat.not_lt.mp hsubsumed, Nat.le_refl _, Nat.le_trans (Nat.le_of_lt hmeas) hend,
      fun marker hmarker => Nat.le_trans (Nat.le_of_lt hmeas) (hmarkers marker hmarker)⟩
  · obtain rfl := AdmissibleFloor.install.inj h
    exact ⟨Nat.not_lt.mp hsubsumed, Nat.not_lt.mp hmeas, hend, hmarkers⟩

/-- A floor that is already within its bounds is installed as it is. -/
theorem admissibleInstalledFloor_of_le (hfloor : retainedFloor ≤ floor) (hend : floor ≤ highWatermark + 1)
    (hmarkers : ∀ marker ∈ lowestRetainedMarkerSeq, floor ≤ marker) :
    admissibleInstalledFloor floor retainedFloor lowestRetainedMarkerSeq highWatermark = .install floor := by
  have hupper := le_markerClampedFloor hend hmarkers
  have htarget : (if floor < markerClampedFloor (highWatermark + 1) lowestRetainedMarkerSeq then floor
      else markerClampedFloor (highWatermark + 1) lowestRetainedMarkerSeq) = floor := by
    split_ifs <;> omega
  simp only [admissibleInstalledFloor, htarget]
  rw [if_neg (Nat.not_lt.mpr hfloor)]

end Liminal
