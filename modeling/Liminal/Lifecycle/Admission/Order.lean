import Liminal.Library.Checked
import Liminal.Library.Fallible
import Liminal.Wire.Primitives

/-!
# The order ledger

Transaction majors are handed out one after another. The ledger keeps the last one allocated and the
majors that live bindings, live members and an armed recovery will still need; they must fit below
`2 ^ 64`.
-/

namespace Liminal

open Checked Fallible

inductive OrderClaimsInvariantError
  | recoveryPairMismatch (recoveryOperation recoveryReplacementTerminal : Bool)

/-- The two recovery majors are reserved together or not at all. -/
@[ext] structure OrderClaims where
  (activeBindingTerminals membershipExits : Nat)
  (recoveryOperation recoveryReplacementTerminal : Bool)
  paired : recoveryOperation = recoveryReplacementTerminal
deriving DecidableEq

namespace OrderClaims

def new (activeBindingTerminals membershipExits : Nat)
    (recoveryOperation recoveryReplacementTerminal : Bool) : Except OrderClaimsInvariantError OrderClaims :=
  if paired : recoveryOperation = recoveryReplacementTerminal then
    .ok ⟨activeBindingTerminals, membershipExits, recoveryOperation, recoveryReplacementTerminal, paired⟩
  else .error (.recoveryPairMismatch recoveryOperation recoveryReplacementTerminal)

def total (claims : OrderClaims) : Nat :=
  claims.activeBindingTerminals + claims.membershipExits + claims.recoveryOperation.toNat +
    claims.recoveryReplacementTerminal.toNat

@[simp] theorem new_eq_ok :
    new a x ro ra = .ok claims ↔ claims.activeBindingTerminals = a ∧ claims.membershipExits = x ∧
      claims.recoveryOperation = ro ∧ claims.recoveryReplacementTerminal = ra := by
  unfold new
  split
  · rw [Except.ok.injEq, OrderClaims.ext_iff]
    constructor <;> rintro ⟨h₁, h₂, h₃, h₄⟩ <;> exact ⟨h₁.symm, h₂.symm, h₃.symm, h₄.symm⟩
  · rename_i hpaired
    simp only [reduceCtorEq, false_iff]
    rintro ⟨rfl, rfl, rfl, rfl⟩
    exact hpaired claims.paired

end OrderClaims

inductive OrderHigh
  | empty
  | allocated (order : TransactionOrder)
deriving DecidableEq

namespace OrderHigh

def next : OrderHigh → Nat
  | .empty => 0
  | .allocated high => high + 1

def remaining : OrderHigh → Nat
  | .empty => u64Max + 1
  | .allocated high => u64Max - high

end OrderHigh

inductive OrderLedgerInvariantError
  | claimsExceedRemaining (remaining claims : Nat)

@[ext] structure OrderLedger where
  high : OrderHigh
  claims : OrderClaims
  fits : high.next + claims.total ≤ u64Max + 1
deriving DecidableEq

namespace OrderLedger

def remaining (ledger : OrderLedger) : Nat := ledger.high.remaining

def tryNew (high : OrderHigh) (claims : OrderClaims) : Except OrderLedgerInvariantError OrderLedger :=
  if fits : high.next + claims.total ≤ u64Max + 1 then .ok ⟨high, claims, fits⟩
  else .error (.claimsExceedRemaining high.remaining claims.total)

@[simp] theorem tryNew_eq_ok {high claims ledger} :
    tryNew high claims = .ok ledger ↔ ledger.high = high ∧ ledger.claims = claims := by
  unfold tryNew
  split
  · rw [Except.ok.injEq, OrderLedger.ext_iff]
    exact ⟨fun h => ⟨h.1.symm, h.2.symm⟩, fun h => ⟨h.1.symm, h.2.symm⟩⟩
  · rename_i hfits
    simp only [reduceCtorEq, false_iff]
    rintro ⟨rfl, rfl⟩
    exact hfits ledger.fits

end OrderLedger

inductive OrderAdmissionError
  | exhausted (high : TransactionOrder) (orderRemaining reservedClaims resultingOrderRemaining resultingClaims : Nat)
  | initialClaimsExceedRemaining (remaining resultingClaims : Nat)
  | activeBindingClaimOverflow
  | membershipExitClaimOverflow
  | recoveryOrderReserveAlreadyPresent
  | recoveryOrderReserveMissing (recoveryOperation recoveryReplacementTerminal : Bool)
deriving DecidableEq

namespace OrderLedger

variable (ledger : OrderLedger)

variable (endowRecoveryQuartet : Bool)

def ensureQuartetCanBeEndowed : Except OrderAdmissionError Unit :=
  require (¬(endowRecoveryQuartet = true ∧
      (ledger.claims.recoveryOperation = true ∨ ledger.claims.recoveryReplacementTerminal = true)))
    .recoveryOrderReserveAlreadyPresent

def planEnrollmentWithRecoveryQuartet : Except OrderAdmissionError OrderClaims := do
  ledger.ensureQuartetCanBeEndowed endowRecoveryQuartet
  let activeBindingTerminals ← orError (add u64Max ledger.claims.activeBindingTerminals 1) .activeBindingClaimOverflow
  let membershipExits ← orError (add u64Max ledger.claims.membershipExits 1) .membershipExitClaimOverflow
  return ⟨activeBindingTerminals, membershipExits, ledger.claims.recoveryOperation || endowRecoveryQuartet,
    ledger.claims.recoveryReplacementTerminal || endowRecoveryQuartet,
    congrArg (· || endowRecoveryQuartet) ledger.claims.paired⟩

/-- The recovery pair turns into the terminal of the recovered binding; the high value does not move. -/
def applyFencedRecovery : Except OrderAdmissionError OrderLedger := do
  require (ledger.claims.recoveryOperation = true ∧ ledger.claims.recoveryReplacementTerminal = true)
    (.recoveryOrderReserveMissing ledger.claims.recoveryOperation ledger.claims.recoveryReplacementTerminal)
  let activeBindingTerminals ← orError (add u64Max ledger.claims.activeBindingTerminals 1) .activeBindingClaimOverflow
  let claims : OrderClaims :=
    ⟨activeBindingTerminals, ledger.claims.membershipExits, false, false, rfl⟩
  -- The source builds the ledger without a check: one claim replaces two.
  (tryNew ledger.high claims).mapError fun _ => .activeBindingClaimOverflow

def applyFencedRecoveryFinalizingPending : Except OrderAdmissionError OrderLedger :=
  ledger.applyFencedRecovery

theorem applyFencedRecovery_succeeds {ledger : OrderLedger} (hoperation : ledger.claims.recoveryOperation = true)
    (hreplacement : ledger.claims.recoveryReplacementTerminal = true) :
    ∃ after, ledger.applyFencedRecovery = .ok after ∧ after.high = ledger.high ∧
      ledger.claims.total = after.claims.total + 1 := by
  let claims : OrderClaims :=
    ⟨ledger.claims.activeBindingTerminals + 1, ledger.claims.membershipExits, false, false, rfl⟩
  have htotal : ledger.claims.total = claims.total + 1 := by
    simp only [OrderClaims.total, hoperation, hreplacement, claims, Bool.toNat_true, Bool.toNat_false]
    omega
  have hterminals : ledger.claims.activeBindingTerminals + 1 ≤ claims.total := by
    simp only [OrderClaims.total, claims]
    omega
  have hfits := ledger.fits
  refine ⟨⟨ledger.high, claims, by omega⟩, ?_, rfl, htotal⟩
  simp only [applyFencedRecovery, ok_iff, add_eq_some, tryNew_eq_ok]
  exact ⟨⟨hoperation, hreplacement⟩, _, ⟨by omega, rfl⟩, trivial, rfl⟩

def planOrdinaryRecord : OrderClaims := ledger.claims

end OrderLedger

structure OrderAllocation where
  major : TransactionOrder
  resulting : OrderLedger

def allocateOrder (current : OrderLedger) (resultingClaims : OrderClaims) :
    Except OrderAdmissionError OrderAllocation :=
  match current.high with
  | .empty =>
    if fits : OrderHigh.next (.allocated 0) + resultingClaims.total ≤ u64Max + 1 then
      .ok ⟨0, ⟨.allocated 0, resultingClaims, fits⟩⟩
    else .error (.initialClaimsExceedRemaining u64Max resultingClaims.total)
  | .allocated high =>
    if fits : OrderHigh.next (.allocated (high + 1)) + resultingClaims.total ≤ u64Max + 1 then
      .ok ⟨high + 1, ⟨.allocated (high + 1), resultingClaims, fits⟩⟩
    else
      -- `high + 1` may itself be out of range; then nothing remains.
      let resultingRemaining := if high + 1 ≤ u64Max then current.remaining - 1 else 0
      .error (.exhausted high current.remaining current.claims.total resultingRemaining resultingClaims.total)

theorem allocateOrder_eq_ok : allocateOrder current resultingClaims = .ok allocation ↔
      allocation.major = current.high.next ∧ allocation.resulting.high = .allocated current.high.next ∧
        allocation.resulting.claims = resultingClaims := by
  obtain ⟨major, resulting⟩ := allocation
  unfold allocateOrder
  split <;> rename_i hhigh
  all_goals
    rw [hhigh]
    split
    · simp only [Except.ok.injEq, OrderAllocation.mk.injEq, OrderLedger.ext_iff, OrderHigh.next]
      constructor <;> rintro ⟨h₁, h₂, h₃⟩ <;> exact ⟨h₁.symm, h₂.symm, h₃.symm⟩
    · rename_i hfits
      simp only [reduceCtorEq, false_iff]
      rintro ⟨rfl, hresult, rfl⟩
      have := resulting.fits
      rw [hresult] at this
      exact hfits this

end Liminal
