import Liminal.Lifecycle.ClaimFrontier.Types

/-!
# Ledgers of the live operations

How many members and terminals each operation adds to the two ledgers or takes from them. The high
watermark comes from the record the operation appends, the major must be the next one.
-/

namespace Liminal

open Checked Fallible

variable {current ledger : OrderLedger} {major : TransactionOrder}

/-! ### The sequence ledger -/

section

variable (current : SequenceLedger)

def enrollmentSequence (high : DeliverySeq) : Option SequenceLedger := do
  let liveMembers ← add u64Max current.claims.liveMembers 1
  let bindingTerminals ← add u64Max current.claims.bindingTerminals 1
  (SequenceLedger.tryNew high { current.claims with liveMembers, bindingTerminals }).toOption

def detachedAttachSequence (high : DeliverySeq) : Option SequenceLedger := do
  let bindingTerminals ← add u64Max current.claims.bindingTerminals 1
  (SequenceLedger.tryNew high { current.claims with bindingTerminals }).toOption

/-- The terminal and the attached record take the next two positions; one binding replaces the other. -/
def supersedingAttachSequence (rows : List RetainedCausalRecord) :
    Option SequenceLedger := do
  let last ← rows.getLast?
  let first ← rows.head?
  let next ← add u64Max current.highWatermark 1
  let second ← add u64Max first.deliverySeq 1
  if first.deliverySeq = next ∧ last.deliverySeq = second then
    (SequenceLedger.tryNew last.deliverySeq current.claims).toOption
  else none

def detachSequence (high : DeliverySeq) : Option SequenceLedger := do
  let bindingTerminals ← sub current.claims.bindingTerminals 1
  (SequenceLedger.tryNew high { current.claims with bindingTerminals }).toOption

end

theorem detachSequence_eq_some {current ledger high} :
    detachSequence current high = some ledger ↔ 1 ≤ current.claims.bindingTerminals ∧ ledger.highWatermark = high ∧
        ledger.claims = { current.claims with
          bindingTerminals := current.claims.bindingTerminals - 1 } := by
  simp only [detachSequence, some_iff, sub_eq_some, SequenceLedger.tryNew_eq_ok, and_assoc, exists_and_left,
    exists_eq_left']

/-! ### The order ledger -/

variable (current major)

def nextOrder (claims : OrderClaims) : Option OrderLedger :=
  if current.high.next ≤ u64Max ∧ major = current.high.next then
    (OrderLedger.tryNew (.allocated major) claims).toOption
  else none

/-- The claims with other counts of terminals and exits; the recovery pair stays. -/
def OrderClaims.withCounts (claims : OrderClaims) (activeBindingTerminals membershipExits : Nat) : OrderClaims :=
  { claims with activeBindingTerminals, membershipExits }

def enrollmentOrder : Option OrderLedger := do
  let activeBindingTerminals ← add u64Max current.claims.activeBindingTerminals 1
  let membershipExits ← add u64Max current.claims.membershipExits 1
  nextOrder current major (current.claims.withCounts activeBindingTerminals membershipExits)

def detachedAttachOrder : Option OrderLedger := do
  let activeBindingTerminals ← add u64Max current.claims.activeBindingTerminals 1
  nextOrder current major (current.claims.withCounts activeBindingTerminals current.claims.membershipExits)

def supersedingAttachOrder : Option OrderLedger :=
  nextOrder current major current.claims

def detachOrder : Option OrderLedger := do
  let activeBindingTerminals ← sub current.claims.activeBindingTerminals 1
  nextOrder current major (current.claims.withCounts activeBindingTerminals current.claims.membershipExits)

variable {current major}

theorem nextOrder_eq_some : nextOrder current major claims = some ledger ↔
      major = current.high.next ∧ ledger.high = .allocated major ∧ ledger.claims = claims := by
  simp only [nextOrder, Option.ite_none_right_eq_some, toOption_eq_some, OrderLedger.tryNew_eq_ok]
  constructor
  · rintro ⟨⟨-, hmajor⟩, hledger⟩
    exact ⟨hmajor, hledger⟩
  · rintro ⟨rfl, hhigh, hclaims⟩
    have hfits := ledger.fits
    rw [hhigh] at hfits
    change current.high.next + 1 + _ ≤ _ at hfits
    exact ⟨⟨by omega, rfl⟩, hhigh, hclaims⟩

theorem enrollmentOrder_eq_some (h : enrollmentOrder current major = some ledger) :
    major = current.high.next ∧ ledger.high = .allocated major ∧
      ledger.claims = current.claims.withCounts (current.claims.activeBindingTerminals + 1)
        (current.claims.membershipExits + 1) := by
  simp only [enrollmentOrder, bind_eq_some, add_eq_some, nextOrder_eq_some] at h
  obtain ⟨_, ⟨-, rfl⟩, _, ⟨-, rfl⟩, h⟩ := h
  exact h

theorem detachedAttachOrder_eq_some (h : detachedAttachOrder current major = some ledger) :
    major = current.high.next ∧ ledger.high = .allocated major ∧
      ledger.claims = current.claims.withCounts (current.claims.activeBindingTerminals + 1)
        current.claims.membershipExits := by
  simp only [detachedAttachOrder, bind_eq_some, add_eq_some, nextOrder_eq_some] at h
  obtain ⟨_, ⟨-, rfl⟩, h⟩ := h
  exact h

theorem detachOrder_eq_some : detachOrder current major = some ledger ↔
      1 ≤ current.claims.activeBindingTerminals ∧ major = current.high.next ∧ ledger.high = .allocated major ∧
        ledger.claims = current.claims.withCounts (current.claims.activeBindingTerminals - 1)
          current.claims.membershipExits := by
  simp only [detachOrder, bind_eq_some, sub_eq_some, nextOrder_eq_some, and_assoc, exists_and_left, exists_eq_left']

end Liminal
