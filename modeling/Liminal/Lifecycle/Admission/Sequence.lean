import Liminal.Library.Checked
import Liminal.Library.Fallible

/-!
# The sequence ledger

One conversation owns `u64::MAX` delivery sequences. The ledger counts the positions later records
have a right to: an exit for each member, a terminal for each binding, one for each undrained
marker, two for recovery, and the markers those can induce. All must fit above the high watermark,
so `fits` is a field.
-/

namespace Liminal

open Checked Fallible

inductive RecoverySequenceReserve
  | none
  | detachedCredentialRecovery
deriving DecidableEq

def RecoverySequenceReserve.claims : RecoverySequenceReserve → Nat × Nat
  | .none => (0, 0)
  | .detachedCredentialRecovery => (1, 1)

structure SequenceClaims where
  (liveMembers bindingTerminals markers : Nat)
  recovery : RecoverySequenceReserve
deriving DecidableEq

structure SequenceBudget where
  (highWatermark remaining e t m rs rt lTimesT lTimesRt lOtherTimesE : Nat)
deriving DecidableEq

namespace SequenceClaims

def budget (claims : SequenceClaims) (highWatermark : Nat) : SequenceBudget where
  highWatermark := highWatermark
  remaining := u64Max - highWatermark
  e := claims.liveMembers
  t := claims.bindingTerminals
  m := claims.markers
  rs := claims.recovery.claims.1
  rt := claims.recovery.claims.2
  lTimesT := claims.liveMembers * claims.bindingTerminals
  lTimesRt := claims.liveMembers * claims.recovery.claims.2
  lOtherTimesE := (claims.liveMembers - 1) * claims.liveMembers

end SequenceClaims

namespace SequenceBudget

def requiredReserve (b : SequenceBudget) : Nat :=
  b.e + b.t + b.m + b.rs + b.rt + b.lTimesT + b.lTimesRt + b.lOtherTimesE

/-- The same sum in `u128`; the source's accumulator refuses the first addition that leaves the range. -/
def checkedRequiredReserve (b : SequenceBudget) : Option Nat := do
  let reserve ← add u128Max b.e b.t
  let reserve ← add u128Max reserve b.m
  let reserve ← add u128Max reserve b.rs
  let reserve ← add u128Max reserve b.rt
  let reserve ← add u128Max reserve b.lTimesT
  let reserve ← add u128Max reserve b.lTimesRt
  add u128Max reserve b.lOtherTimesE

end SequenceBudget

namespace SequenceClaims

variable (claims : SequenceClaims)

def requiredReserve : Nat := (claims.budget 0).requiredReserve

theorem requiredReserve_eq :
    claims.requiredReserve = claims.liveMembers + claims.bindingTerminals + claims.markers +
      claims.recovery.claims.1 + claims.recovery.claims.2 + claims.liveMembers * claims.bindingTerminals +
      claims.liveMembers * claims.recovery.claims.2 + (claims.liveMembers - 1) * claims.liveMembers := rfl

end SequenceClaims

inductive SequenceLedgerInvariantError
  | claimsExceedRemaining (budget : SequenceBudget) (requiredReserve : Option Nat)

@[ext] structure SequenceLedger where
  highWatermark : Nat
  claims : SequenceClaims
  fits : highWatermark + claims.requiredReserve ≤ u64Max
deriving DecidableEq

namespace SequenceLedger

def requiredReserve (ledger : SequenceLedger) : Nat := ledger.claims.requiredReserve

/-- A reserve that leaves `u128` cannot fit either, so the two refusals of the source are one check on the
exact sum. -/
def tryNew (highWatermark : Nat) (claims : SequenceClaims) : Except SequenceLedgerInvariantError SequenceLedger :=
  if fits : highWatermark + claims.requiredReserve ≤ u64Max then
    .ok ⟨highWatermark, claims, fits⟩
  else
    .error (.claimsExceedRemaining (claims.budget highWatermark) (claims.budget highWatermark).checkedRequiredReserve)

@[simp] theorem tryNew_eq_ok {highWatermark claims ledger} :
    tryNew highWatermark claims = .ok ledger ↔ ledger.highWatermark = highWatermark ∧ ledger.claims = claims := by
  unfold tryNew
  split
  · rw [Except.ok.injEq, SequenceLedger.ext_iff]
    exact ⟨fun h => ⟨h.1.symm, h.2.symm⟩, fun h => ⟨h.1.symm, h.2.symm⟩⟩
  · rename_i hfits
    simp only [reduceCtorEq, false_iff]
    rintro ⟨rfl, rfl⟩
    exact hfits ledger.fits

end SequenceLedger

/-! ### Planned records -/

structure ResultingSequenceState where
  highWatermark : Nat
  claims : SequenceClaims

inductive SequenceAdmissionError
  | exhausted (budget : SequenceBudget)
  | highWatermarkOverflow (highWatermark requiredValues : Nat)
  | liveMemberClaimOverflow (liveMembers : Nat)
  | bindingTerminalClaimOverflow (bindingTerminals : Nat)
  | markerClaimOverflow (markers newMarkers : Nat)
  | recoverySequenceReserveMissing
  | recoverySequenceReserveAlreadyPresent
  | recoverySequenceInvariantViolation
deriving DecidableEq

namespace SequenceLedger

variable (ledger : SequenceLedger)

def checkedHighWatermark (requiredValues : Nat) : Except SequenceAdmissionError Nat :=
  orError (add u64Max ledger.highWatermark requiredValues) (.highWatermarkOverflow ledger.highWatermark requiredValues)

def checkedMarkers (newMarkers : Nat) : Except SequenceAdmissionError Nat :=
  orError (add u64Max ledger.claims.markers newMarkers) (.markerClaimOverflow ledger.claims.markers newMarkers)

def ensureQuartetCanBeEndowed (endowRecoveryQuartet : Bool) : Except SequenceAdmissionError Unit :=
  require (¬(endowRecoveryQuartet = true ∧ ledger.claims.recovery = .detachedCredentialRecovery))
    .recoverySequenceReserveAlreadyPresent

def planEnrollmentWithRecoveryQuartet (newMarkers : Nat)
    (endowRecoveryQuartet : Bool) : Except SequenceAdmissionError ResultingSequenceState := do
  ledger.ensureQuartetCanBeEndowed endowRecoveryQuartet
  let highWatermark ← ledger.checkedHighWatermark 1
  let liveMembers ← orError (add u64Max ledger.claims.liveMembers 1)
    (.liveMemberClaimOverflow ledger.claims.liveMembers)
  let bindingTerminals ← orError (add u64Max ledger.claims.bindingTerminals 1)
    (.bindingTerminalClaimOverflow ledger.claims.bindingTerminals)
  let markers ← ledger.checkedMarkers newMarkers
  let recovery := if endowRecoveryQuartet then RecoverySequenceReserve.detachedCredentialRecovery
    else ledger.claims.recovery
  return ⟨highWatermark, ⟨liveMembers, bindingTerminals, markers, recovery⟩⟩

def planOrdinaryRecord (newMarkers : Nat) : Except SequenceAdmissionError ResultingSequenceState := do
  let highWatermark ← ledger.checkedHighWatermark 1
  let markers ← ledger.checkedMarkers newMarkers
  return ⟨highWatermark, { ledger.claims with markers }⟩

def applyFencedRecovery : Except SequenceAdmissionError SequenceLedger := do
  require (ledger.claims.recovery = .detachedCredentialRecovery) .recoverySequenceReserveMissing
  let highWatermark ← ledger.checkedHighWatermark 1
  let bindingTerminals ← orError (add u64Max ledger.claims.bindingTerminals 1)
    (.bindingTerminalClaimOverflow ledger.claims.bindingTerminals)
  let claims := { ledger.claims with bindingTerminals, recovery := .none }
  (tryNew highWatermark claims).mapError fun _ => .recoverySequenceInvariantViolation

def applyFencedRecoveryFinalizingPending : Except SequenceAdmissionError SequenceLedger := do
  require (ledger.claims.recovery = .detachedCredentialRecovery) .recoverySequenceReserveMissing
  require (ledger.claims.bindingTerminals ≠ 0) .recoverySequenceInvariantViolation
  let highWatermark ← ledger.checkedHighWatermark 2
  let claims := { ledger.claims with recovery := .none }
  (tryNew highWatermark claims).mapError fun _ => .recoverySequenceInvariantViolation

variable {ledger}

section

variable (hrecovery : ledger.claims.recovery = .detachedCredentialRecovery)
include hrecovery

/-- The reserve of the recovery pays for its record, and `L·RT` passes on to the new terminal. -/
theorem applyFencedRecovery_succeeds :
    ∃ after, ledger.applyFencedRecovery = .ok after ∧ after.highWatermark = ledger.highWatermark + 1 ∧
      ledger.requiredReserve = after.requiredReserve + 1 := by
  let claims : SequenceClaims :=
    { ledger.claims with bindingTerminals := ledger.claims.bindingTerminals + 1, recovery := .none }
  have hreserve : ledger.claims.requiredReserve = claims.requiredReserve + 1 := by
    simp only [SequenceClaims.requiredReserve_eq, hrecovery, RecoverySequenceReserve.claims, claims, Nat.mul_succ]
    omega
  have hfits := ledger.fits
  have hterminals : ledger.claims.bindingTerminals + 1 ≤ ledger.claims.requiredReserve := by
    rw [SequenceClaims.requiredReserve_eq, hrecovery, RecoverySequenceReserve.claims]
    omega
  refine ⟨⟨ledger.highWatermark + 1, claims, by omega⟩, ?_, rfl, hreserve⟩
  simp only [applyFencedRecovery, checkedHighWatermark, ok_iff, add_eq_some, tryNew_eq_ok]
  exact ⟨hrecovery, _, ⟨by omega, rfl⟩, _, ⟨by omega, rfl⟩, rfl, rfl⟩

/-- The new terminal takes the place of the pended one, so that `L·RT` is released. -/
theorem applyFencedRecoveryFinalizingPending_succeeds (hterminal : ledger.claims.bindingTerminals ≠ 0) :
    ∃ after, ledger.applyFencedRecoveryFinalizingPending = .ok after ∧ after.highWatermark = ledger.highWatermark + 2 ∧
      ledger.requiredReserve = after.requiredReserve + 2 + ledger.claims.liveMembers := by
  let claims : SequenceClaims := { ledger.claims with recovery := .none }
  have hreserve : ledger.claims.requiredReserve = claims.requiredReserve + 2 + ledger.claims.liveMembers := by
    simp only [SequenceClaims.requiredReserve_eq, hrecovery, RecoverySequenceReserve.claims, claims]
    omega
  have hfits := ledger.fits
  refine ⟨⟨ledger.highWatermark + 2, claims, by omega⟩, ?_, rfl, hreserve⟩
  simp only [applyFencedRecoveryFinalizingPending, checkedHighWatermark, ok_iff, add_eq_some, tryNew_eq_ok]
  exact ⟨hrecovery, hterminal, _, ⟨by omega, rfl⟩, rfl, rfl⟩

end

end SequenceLedger

def admitSequence (resulting : ResultingSequenceState) : Except SequenceAdmissionError SequenceLedger :=
  (SequenceLedger.tryNew resulting.highWatermark resulting.claims).mapError fun _ =>
    .exhausted (resulting.claims.budget resulting.highWatermark)

end Liminal
