import Liminal.Lifecycle.ClaimFrontier.Types
import Mathlib.Data.List.Sort
import Mathlib.Data.Prod.Lex

/-!
# Rebuilding the two lanes

Most live transitions recompute both lanes from the active participants and the resulting ledgers:
terminals, exits, then one product range for each. The loops of the source differ only in cursor,
candidates and whose terminals have a product, so there is one layout per lane. Every position is
handed out by a `u64` cursor that must itself stay in range.
-/

namespace Liminal

open Checked Fallible ActiveIdentityRanks ImmutableSequenceCandidate List

variable {sequence : SequenceClaimFrontier} {order : OrderClaimFrontier} {active : ActiveIdentityRanks}
  {productOwners : List BindingTerminalOwner} {candidates : List ImmutableSequenceCandidate}

inductive PrecedenceCondition
  | bindingTerminal
  | markerDrain (settlementEpoch : DeliverySeq)
  | fencedRecovery
  | unclassified
deriving DecidableEq

inductive LiveFrontierTransitionError
  | authority
  | precedence (condition : PrecedenceCondition)
  | recordPosition
  | exhausted
  | resultingFrontier

/-! ### Agreement between the lanes -/

def BindingTerminalOwner.sortKey (owner : BindingTerminalOwner) : Nat ×ₗ Nat ×ₗ Nat ×ₗ Nat :=
  toLex (owner.participantIndex, toLex (owner.bindingEpoch.connectionIncarnation.serverIncarnation,
    toLex (owner.bindingEpoch.connectionIncarnation.connectionOrdinal, owner.bindingEpoch.capabilityGeneration)))

def sortTerminalOwners (owners : List BindingTerminalOwner) : List BindingTerminalOwner :=
  owners.insertionSort fun a b => a.sortKey ≤ b.sortKey

def RecoverySequenceBlock.blockStart (block : RecoverySequenceBlock) : DeliverySeq :=
  match block.terminal with
  | some terminal => terminal.deliverySeq
  | none => block.recoveryAttachSeq

def RecoveryOrderBlock.blockStart (block : RecoveryOrderBlock) : TransactionOrder :=
  match block.activeBinding with
  | some active => active.transactionOrder
  | none => block.recoveryOperationOrder

/-- The two halves of a recovery block name the same participant, marker, epoch and terminal. -/
def recoveryBlocksMatch (sequence : RecoverySequenceBlock) (order : RecoveryOrderBlock) : Prop :=
  sequence.participantIndex = order.participantIndex ∧ sequence.markerDeliverySeq = order.markerDeliverySeq ∧
    sequence.recoveredBindingEpoch = order.recoveredBindingEpoch ∧
    sequence.terminal.map RecoverySequenceTerminal.owner = order.activeBinding.map RecoveryOrderActiveBinding.owner

instance (sequence : RecoverySequenceBlock) (order : RecoveryOrderBlock) :
    Decidable (recoveryBlocksMatch sequence order) :=
  inferInstanceAs (Decidable (_ ∧ _ ∧ _ ∧ _))

def sequenceOrdinal (ledger : SequenceLedger) (value : DeliverySeq) : Nat :=
  value - (ledger.highWatermark + 1)

def orderOrdinal (ledger : OrderLedger) (value : TransactionOrder) : Nat := value - ledger.high.next

variable (sequence order)

def OrderClaimFrontier.candidateKeys : List AdmissionOrder :=
  order.immutableCandidates.flatMap ImmutableOrderCandidateMajor.candidateKeys

def validateCrossRecovery : Except ClaimFrontierError Unit :=
  match sequence.recovery, order.recovery with
  | none, none => .ok ()
  | some block, other =>
    require (∃ orderBlock ∈ other, recoveryBlocksMatch block orderBlock)
      (sequenceError (sequenceOrdinal sequence.ledger block.blockStart) .recoveryBlock)
  | none, some block =>
    .error (orderError (orderOrdinal order.ledger block.blockStart) .recoveryBlock)

/-- Both lanes know the same recovery block, the same candidates and the same terminals to come. -/
def validateCrossCounter : Except ClaimFrontierError Unit := do
  validateCrossRecovery sequence order
  match sequence.immutableCandidates.find? fun c => c.admissionOrder ∉ order.candidateKeys with
  | some candidate =>
    .error (sequenceError (sequenceOrdinal sequence.ledger candidate.deliverySeq) .candidateKey)
  | none =>
    match order.immutableCandidates.find? fun group =>
        group.candidateKeys.any fun key =>
          key ∉ sequence.immutableCandidates.map admissionOrder with
    | some group =>
      .error (orderError (orderOrdinal order.ledger group.transactionOrder) .candidateKey)
    | none =>
      require (sortTerminalOwners sequence.terminalOwners = sortTerminalOwners order.terminalOwners)
        (sequenceError sequence.ledger.requiredReserve .logicalOwner)

variable {sequence order}

/-- Without recovery blocks, equal candidate keys and equal terminals are all the check asks for. -/
theorem validateCrossCounter_ok (hsequence : sequence.recovery = none) (horder : order.recovery = none)
    (hkeys : ∀ key, key ∈ sequence.immutableCandidates.map admissionOrder ↔
      key ∈ order.candidateKeys) (howners : sequence.terminalOwners = order.terminalOwners) :
    validateCrossCounter sequence order = .ok () := by
  have hleft : sequence.immutableCandidates.find? (fun c => c.admissionOrder ∉ order.candidateKeys) = none := by
    rw [find?_eq_none]
    intro candidate hcand
    simpa using (hkeys _).mp (mem_map_of_mem hcand)
  have hright : order.immutableCandidates.find? (fun group => group.candidateKeys.any fun key =>
      key ∉ sequence.immutableCandidates.map admissionOrder) = none := by
    rw [find?_eq_none]
    intro group hgroup
    simp only [any_eq_true, decide_eq_true_eq, not_exists, not_and, not_not]
    intro key hkey
    exact (hkeys key).mpr (mem_flatMap.mpr ⟨group, hgroup, hkey⟩)
  simp only [validateCrossCounter, validateCrossRecovery, hsequence, horder, hleft, hright, howners,
    bind_eq_ok, require_eq_ok, and_true]
  exact ⟨(), trivial⟩

/-! ### The sequence lane -/

def placeTerminal (start : DeliverySeq) (owner : BindingTerminalOwner) : MovableSequenceClaim :=
  ⟨start, .bindingTerminal owner⟩

def placeExit (start : DeliverySeq) (participant : FrontierParticipant) : MovableSequenceClaim :=
  ⟨start, .membershipExit participant.participantIndex⟩

def placeTerminalProduct (length : Nat) (start : DeliverySeq) (owner : BindingTerminalOwner) : TerminalProductRange :=
  ⟨start, length, owner⟩

def placeExitProduct (length : Nat) (start : DeliverySeq) (participant : FrontierParticipant) : ExitProductRange :=
  ⟨start, length, participant.participantIndex⟩

namespace ActiveIdentityRanks

abbrev live (active : ActiveIdentityRanks) : Nat := active.participants.length

end ActiveIdentityRanks

variable (active productOwners)

/-- The four loops over one cursor; `productOwners` are the terminals that own a product range. -/
def laySequence (candidates : List ImmutableSequenceCandidate) (ledger : SequenceLedger) (cursor : Nat) :
    Except LiveFrontierTransitionError SequenceClaimFrontier := do
  let (terminals, cursor) ←
    orError (takeEach u64Max placeTerminal 1 cursor active.terminalOwners) .exhausted
  let (exits, cursor) ← orError (takeEach u64Max placeExit 1 cursor active.participants) .exhausted
  let (terminalProducts, cursor) ←
    orError (takeEach u64Max (placeTerminalProduct active.live) active.live cursor productOwners) .exhausted
  let (exitProducts, cursor) ←
    orError (takeEach u64Max (placeExitProduct (active.live - 1)) (active.live - 1) cursor
      active.participants) .exhausted
  require (cursor = ledger.highWatermark + ledger.requiredReserve + 1) .resultingFrontier
  return {
    ledger
    movableClaims := terminals ++ exits
    immutableCandidates := candidates
    products := ⟨terminalProducts, none, exitProducts⟩
    recovery := none }

def rebuildUnreservedSequence (ledger : SequenceLedger) : Except LiveFrontierTransitionError SequenceClaimFrontier := do
  let cursor ← orError (add u64Max ledger.highWatermark 1) .exhausted
  laySequence active active.terminalOwners [] ledger cursor

section

variable (pendingOwner : BindingTerminalOwner) (deliverySeq : DeliverySeq) (admissionOrder : AdmissionOrder)

def rebuildPendingTerminalSequence (ledger : SequenceLedger) (allTerminalOwners : List BindingTerminalOwner) :
    Except LiveFrontierTransitionError SequenceClaimFrontier := do
  let cursor ← orError (add u64Max deliverySeq 1) .exhausted
  laySequence active allTerminalOwners [.bindingTerminal deliverySeq admissionOrder pendingOwner] ledger cursor

variable (cursor : Nat)

def movableLayout : List MovableSequenceClaim :=
  layEach placeTerminal 1 cursor active.terminalOwners ++
    layEach placeExit 1 (cursor + active.terminalOwners.length) active.participants

def terminalProductLayout : List TerminalProductRange :=
  layEach (placeTerminalProduct active.live) active.live
    (cursor + active.terminalOwners.length + active.live) productOwners

def exitProductLayout : List ExitProductRange :=
  layEach (placeExitProduct (active.live - 1)) (active.live - 1)
    (cursor + active.terminalOwners.length + active.live + productOwners.length * active.live) active.participants

def layoutEnd : Nat :=
  cursor + active.terminalOwners.length + active.live + productOwners.length * active.live +
    active.live * (active.live - 1)

variable {active productOwners cursor}

theorem laySequence_eq_ok
    (hcursor : cursor ≤ u64Max) : laySequence active productOwners candidates ledger cursor = .ok lane ↔
      layoutEnd active productOwners cursor ≤ u64Max ∧
        layoutEnd active productOwners cursor = ledger.highWatermark + ledger.requiredReserve + 1 ∧ lane = {
          ledger
          movableClaims := movableLayout active cursor
          immutableCandidates := candidates
          products := ⟨terminalProductLayout active productOwners cursor, none,
            exitProductLayout active productOwners cursor⟩
          recovery := none } := by
  simp only [laySequence, ok_iff, Prod.exists]
  constructor
  · rintro ⟨terminals, c₁, h₁, exits, c₂, h₂, terminalProducts, c₃, h₃, exitProducts, c₄, h₄, hend, rfl⟩
    obtain ⟨hle₁, rfl, rfl⟩ := (takeEach_eq_some hcursor).mp h₁
    obtain ⟨hle₂, rfl, rfl⟩ := (takeEach_eq_some hle₁).mp h₂
    obtain ⟨hle₃, rfl, rfl⟩ := (takeEach_eq_some hle₂).mp h₃
    obtain ⟨hle₄, rfl, rfl⟩ := (takeEach_eq_some hle₃).mp h₄
    simp only [Nat.mul_one] at *
    exact ⟨hle₄, hend, rfl⟩
  · rintro ⟨hle, hend, rfl⟩
    simp only [layoutEnd, movableLayout, terminalProductLayout, exitProductLayout, live] at hle hend ⊢
    exact ⟨_, _, takeEach_of_le (by omega), _, _, takeEach_of_le (by omega), _, _,
      takeEach_of_le (by omega), _, _, takeEach_of_le (by omega), by omega, by simp only [Nat.mul_one]⟩

/-! ### The order lane -/

def placeTerminalOrder (order : TransactionOrder) (owner : BindingTerminalOwner) : MovableOrderClaim :=
  ⟨order, .activeBindingTerminal owner⟩

def placeExitOrder (order : TransactionOrder) (participant : FrontierParticipant) : MovableOrderClaim :=
  ⟨order, .membershipExit participant.participantIndex⟩

variable (active cursor)

/-- The terminals, then the exits, from the first major above the high value. -/
def layOrder (candidates : List ImmutableOrderCandidateMajor)
    (ledger : OrderLedger) : Except LiveFrontierTransitionError OrderClaimFrontier := do
  let cursor := ledger.high.next
  require (cursor ≤ u64Max) .exhausted
  let (terminals, cursor) ←
    orError (takeEach u64Max placeTerminalOrder 1 cursor active.terminalOwners) .exhausted
  let (exits, cursor) ←
    orError (takeEach u64Max placeExitOrder 1 cursor active.participants) .exhausted
  require (cursor = ledger.high.next + ledger.claims.total) .resultingFrontier
  return {
    ledger
    movableClaims := terminals ++ exits
    immutableCandidates := candidates
    recovery := none }

def rebuildUnreservedOrder (ledger : OrderLedger) : Except LiveFrontierTransitionError OrderClaimFrontier :=
  layOrder active [] ledger

def rebuildPendingTerminalOrder (ledger : OrderLedger) : Except LiveFrontierTransitionError OrderClaimFrontier :=
  layOrder active [⟨admissionOrder.transactionOrder, [admissionOrder]⟩] ledger

def orderLayout : List MovableOrderClaim :=
  layEach placeTerminalOrder 1 cursor active.terminalOwners ++
    layEach placeExitOrder 1 (cursor + active.terminalOwners.length) active.participants

variable {active}

theorem layOrder_eq_ok {candidates lane} : layOrder active candidates ledger = .ok lane ↔
      ledger.high.next + active.terminalOwners.length + active.live ≤ u64Max ∧
        active.terminalOwners.length + active.live = ledger.claims.total ∧ lane = {
          ledger
          movableClaims := orderLayout active ledger.high.next
          immutableCandidates := candidates
          recovery := none } := by
  simp only [layOrder, ok_iff, Prod.exists, live, orderLayout]
  constructor
  · rintro ⟨hcursor, terminals, c₁, h₁, exits, c₂, h₂, hend, rfl⟩
    obtain ⟨hle₁, rfl, rfl⟩ := (takeEach_eq_some hcursor).mp h₁
    obtain ⟨hle₂, rfl, rfl⟩ := (takeEach_eq_some hle₁).mp h₂
    simp only [Nat.mul_one] at hle₂ hend ⊢
    exact ⟨hle₂, by omega, trivial⟩
  · rintro ⟨hle, hend, rfl⟩
    exact ⟨by omega, _, _, takeEach_of_le (by omega), _, _, takeEach_of_le (by omega), by omega,
      by simp only [Nat.mul_one]⟩

/-! ### Both lanes -/

variable (active) (terminals : Nat) (sequenceLedger : SequenceLedger) (orderLedger : OrderLedger)

/-- The ledgers count exactly the live members and `terminals` in the sequence lane, and the bound
participants in the order lane. -/
def ledgersMatch : Prop :=
  sequenceLedger.claims = ⟨active.live, terminals, 0, .none⟩ ∧ orderLedger.claims.activeBindingTerminals =
    active.terminalOwners.length ∧ orderLedger.claims.membershipExits = active.live ∧
    orderLedger.claims.recoveryOperation = false ∧ orderLedger.claims.recoveryReplacementTerminal = false

instance : Decidable (ledgersMatch active terminals sequenceLedger orderLedger) :=
  inferInstanceAs (Decidable (_ ∧ _ ∧ _ ∧ _ ∧ _))

def rebuildUnreservedFrontiers : Except LiveFrontierTransitionError (SequenceClaimFrontier × OrderClaimFrontier) := do
  require (ledgersMatch active active.terminalOwners.length sequenceLedger orderLedger) .resultingFrontier
  let sequence ← rebuildUnreservedSequence active sequenceLedger
  let order ← rebuildUnreservedOrder active orderLedger
  (validateCrossCounter sequence order).mapError fun _ => .resultingFrontier
  return (sequence, order)

def allTerminalOwners : List BindingTerminalOwner :=
  (active.terminalOwners ++ [pendingOwner]).insertionSort
    fun a b => a.participantIndex ≤ b.participantIndex

@[simp] theorem allTerminalOwners_length :
    (allTerminalOwners active pendingOwner).length = active.terminalOwners.length + 1 := by
  simp [allTerminalOwners, length_insertionSort]

def rebuildPendingTerminalFrontiers :
    Except LiveFrontierTransitionError (SequenceClaimFrontier × OrderClaimFrontier) := do
  require (admissionOrder.candidatePhase = .bindingTerminal ∧ admissionOrder.participantIndex =
      pendingOwner.participantIndex ∧ orderLedger.high = .allocated admissionOrder.transactionOrder ∧
      add u64Max sequenceLedger.highWatermark 1 = some deliverySeq) .recordPosition
  let owners := allTerminalOwners active pendingOwner
  require (ledgersMatch active owners.length sequenceLedger orderLedger) .resultingFrontier
  let sequence ← rebuildPendingTerminalSequence active pendingOwner deliverySeq admissionOrder sequenceLedger owners
  let order ← rebuildPendingTerminalOrder active admissionOrder orderLedger
  (validateCrossCounter sequence order).mapError fun _ => .resultingFrontier
  return (sequence, order)

end

/-! ### What the rebuilds produce -/

variable {productOwners} (cursor : Nat) {sequenceLedger : SequenceLedger} {orderLedger : OrderLedger}

def sequenceLayout (productOwners : List BindingTerminalOwner)
    (candidates : List ImmutableSequenceCandidate) (ledger : SequenceLedger) : SequenceClaimFrontier :=
  let cursor := ledger.highWatermark + 1 + candidates.length
  { ledger
    movableClaims := movableLayout active cursor
    immutableCandidates := candidates
    products := ⟨terminalProductLayout active productOwners cursor, none, exitProductLayout active productOwners cursor⟩
    recovery := none }

def orderLaneLayout (candidates : List ImmutableOrderCandidateMajor) (ledger : OrderLedger) : OrderClaimFrontier where
  ledger := ledger
  movableClaims := orderLayout active ledger.high.next
  immutableCandidates := candidates
  recovery := none

theorem movableLayout_terminals :
    (movableLayout active cursor).filterMap (fun claim => claim.owner.terminal?) = active.terminalOwners := by
  rw [movableLayout, filterMap_append, filterMap_layEach placeTerminal 1 cursor _ _ some (fun _ _ => rfl),
    filterMap_layEach placeExit 1 _ _ _ (fun _ => none) (fun _ _ => rfl), filterMap_some]
  simp

theorem movableLayout_exits :
    (movableLayout active cursor).filterMap (fun claim => claim.owner.exit?) = active.indexes := by
  rw [movableLayout, filterMap_append, filterMap_layEach placeTerminal 1 cursor _ _ (fun _ => none) (fun _ _ => rfl),
    filterMap_layEach placeExit 1 _ _ _ (fun p => some p.participantIndex) (fun _ _ => rfl)]
  simp [indexes, ← filterMap_eq_map']

theorem orderLayout_terminals :
    (orderLayout active cursor).filterMap (fun claim => claim.owner.terminal?) = active.terminalOwners := by
  rw [orderLayout, filterMap_append, filterMap_layEach placeTerminalOrder 1 cursor _ _ some (fun _ _ => rfl),
    filterMap_layEach placeExitOrder 1 _ _ _ (fun _ => none) (fun _ _ => rfl), filterMap_some]
  simp

theorem orderLayout_exits :
    (orderLayout active cursor).filterMap (fun claim => claim.owner.exit?) = active.indexes := by
  rw [orderLayout, filterMap_append, filterMap_layEach placeTerminalOrder 1 cursor _ _ (fun _ => none) (fun _ _ => rfl),
    filterMap_layEach placeExitOrder 1 _ _ _ (fun p => some p.participantIndex) (fun _ _ => rfl)]
  simp [indexes, ← filterMap_eq_map']

variable {active}

theorem validateCrossCounter_layout
    (hkeys : candidates.map admissionOrder = orderCandidates.flatMap ImmutableOrderCandidateMajor.candidateKeys) :
    validateCrossCounter (sequenceLayout active productOwners candidates sequenceLedger)
      (orderLaneLayout active orderCandidates orderLedger) = .ok () := by
  apply validateCrossCounter_ok rfl rfl
  · intro key
    simp only [sequenceLayout, orderLaneLayout, OrderClaimFrontier.candidateKeys, hkeys]
  · simp only [SequenceClaimFrontier.terminalOwners, OrderClaimFrontier.terminalOwners,
      sequenceLayout, orderLaneLayout, movableLayout_terminals, orderLayout_terminals, Option.bind_none]
    rfl

theorem layoutEnd_of_ledgersMatch (hmatch : ledgersMatch active productOwners.length sequenceLedger orderLedger) :
    layoutEnd active productOwners (sequenceLedger.highWatermark + 1) + productOwners.length =
      sequenceLedger.highWatermark + sequenceLedger.requiredReserve + 1 + active.terminalOwners.length := by
  unfold SequenceLedger.requiredReserve
  rw [hmatch.1, SequenceClaims.requiredReserve_eq, layoutEnd]
  simp only [RecoverySequenceReserve.claims, Nat.mul_zero, Nat.add_zero,
    Nat.mul_comm active.live productOwners.length, Nat.mul_comm (active.live - 1) active.live]
  omega

theorem orderTotal_of_ledgersMatch (hmatch : ledgersMatch active terminals sequenceLedger orderLedger) :
    active.terminalOwners.length + active.live = orderLedger.claims.total := by
  obtain ⟨-, hactive, hexits, hop, hreplacement⟩ := hmatch
  simp [OrderClaims.total, hactive, hexits, hop, hreplacement]

/-- The last reserved position and the last reserved major are both below `u64::MAX`. -/
def belowTop (sequenceLedger : SequenceLedger) (orderLedger : OrderLedger) : Prop :=
  sequenceLedger.highWatermark + sequenceLedger.requiredReserve < u64Max ∧
    orderLedger.high.next + orderLedger.claims.total ≤ u64Max

theorem rebuildUnreservedFrontiers_eq_ok :
    rebuildUnreservedFrontiers active sequenceLedger orderLedger = .ok (sequence, order) ↔
      ledgersMatch active active.terminalOwners.length sequenceLedger orderLedger ∧
        belowTop sequenceLedger orderLedger ∧ sequence = sequenceLayout active active.terminalOwners [] sequenceLedger ∧
        order = orderLaneLayout active [] orderLedger := by
  simp only [rebuildUnreservedFrontiers, rebuildUnreservedSequence, rebuildUnreservedOrder, ok_iff,
    add_eq_some, layOrder_eq_ok]
  constructor
  · rintro ⟨hmatch, seq, ⟨cursor, ⟨hcursor, rfl⟩, hseq⟩, ord, ⟨hle, htotal, rfl⟩, _, _, heq⟩
    obtain ⟨hend, hreserve, rfl⟩ := (laySequence_eq_ok hcursor).mp hseq
    obtain ⟨rfl, rfl⟩ := Prod.mk.inj heq
    exact ⟨hmatch, ⟨by omega, by omega⟩, rfl, rfl⟩
  · rintro ⟨hmatch, ⟨hsequence, horder⟩, rfl, rfl⟩
    have hend := layoutEnd_of_ledgersMatch hmatch
    have htotal := orderTotal_of_ledgersMatch hmatch
    refine ⟨hmatch, _, ⟨_, ⟨by omega, rfl⟩, (laySequence_eq_ok (by omega)).mpr
      ⟨by omega, by omega, rfl⟩⟩, _, ⟨by omega, by omega, rfl⟩, (), ?_, rfl⟩
    exact validateCrossCounter_layout (show map admissionOrder [] = _ from rfl)

/-- The pending terminal stands at the first position of the sequence lane, with the major just allocated. -/
def pendingCandidate (ledger : SequenceLedger) (admissionOrder : AdmissionOrder)
    (pendingOwner : BindingTerminalOwner) : ImmutableSequenceCandidate :=
  .bindingTerminal (ledger.highWatermark + 1) admissionOrder pendingOwner

theorem rebuildPendingTerminalFrontiers_eq_ok {pendingOwner deliverySeq admissionOrder} :
    rebuildPendingTerminalFrontiers active pendingOwner deliverySeq admissionOrder sequenceLedger orderLedger = .ok
        (sequence, order) ↔ (admissionOrder.candidatePhase = .bindingTerminal ∧ admissionOrder.participantIndex =
        pendingOwner.participantIndex ∧ orderLedger.high = .allocated admissionOrder.transactionOrder ∧ deliverySeq =
        sequenceLedger.highWatermark + 1) ∧
      ledgersMatch active (active.terminalOwners.length + 1) sequenceLedger orderLedger ∧
        belowTop sequenceLedger orderLedger ∧
        sequence = sequenceLayout active (allTerminalOwners active pendingOwner)
          [pendingCandidate sequenceLedger admissionOrder pendingOwner] sequenceLedger ∧
        order = orderLaneLayout active [⟨admissionOrder.transactionOrder, [admissionOrder]⟩] orderLedger := by
  simp only [rebuildPendingTerminalFrontiers, rebuildPendingTerminalSequence,
    rebuildPendingTerminalOrder, ok_iff, add_eq_some, layOrder_eq_ok, allTerminalOwners_length]
  constructor
  · rintro ⟨⟨hphase, hindex, hhigh, hle, rfl⟩, hmatch, seq, ⟨cursor, ⟨hcursor, rfl⟩, hseq⟩, ord,
      ⟨hord, htotal, rfl⟩, _, _, heq⟩
    obtain ⟨hend, hreserve, rfl⟩ := (laySequence_eq_ok hcursor).mp hseq
    obtain ⟨rfl, rfl⟩ := Prod.mk.inj heq
    exact ⟨⟨hphase, hindex, hhigh, rfl⟩, hmatch, ⟨by omega, by omega⟩, rfl, rfl⟩
  · rintro ⟨⟨hphase, hindex, hhigh, rfl⟩, hmatch, ⟨hsequence, horder⟩, rfl, rfl⟩
    have hmatch' : ledgersMatch active (allTerminalOwners active pendingOwner).length sequenceLedger
        orderLedger := by
      rw [allTerminalOwners_length]
      exact hmatch
    have hend := layoutEnd_of_ledgersMatch hmatch'
    have htotal := orderTotal_of_ledgersMatch hmatch
    simp only [layoutEnd, allTerminalOwners_length] at hend
    refine ⟨⟨hphase, hindex, hhigh, by omega, rfl⟩, hmatch, _, ⟨_, ⟨by omega, rfl⟩,
      (laySequence_eq_ok (by omega)).mpr ⟨?_, ?_, rfl⟩⟩, _, ⟨by omega, by omega, rfl⟩, (), ?_, rfl⟩
    · simp only [layoutEnd, allTerminalOwners_length]
      omega
    · simp only [layoutEnd, allTerminalOwners_length]
      omega
    · exact validateCrossCounter_layout
        (show map _ [pendingCandidate sequenceLedger admissionOrder pendingOwner] = _ from rfl)

/-- The ledgers may reach `u64::MAX`; the rebuilds may not, since each cursor stands one behind the last
position. -/
theorem rebuilds_succeed_iff (active : ActiveIdentityRanks) (sequenceLedger : SequenceLedger)
    (orderLedger : OrderLedger) :
    ((∃ lanes, rebuildUnreservedFrontiers active sequenceLedger orderLedger = .ok lanes) ↔
      ledgersMatch active active.terminalOwners.length sequenceLedger orderLedger ∧
        belowTop sequenceLedger orderLedger) ∧
    ∀ pendingOwner deliverySeq admissionOrder,
      (∃ lanes, rebuildPendingTerminalFrontiers active pendingOwner deliverySeq admissionOrder
        sequenceLedger orderLedger = .ok lanes) ↔
      (admissionOrder.candidatePhase = .bindingTerminal ∧ admissionOrder.participantIndex =
        pendingOwner.participantIndex ∧ orderLedger.high = .allocated admissionOrder.transactionOrder ∧ deliverySeq =
        sequenceLedger.highWatermark + 1) ∧
      ledgersMatch active (active.terminalOwners.length + 1) sequenceLedger orderLedger ∧
        belowTop sequenceLedger orderLedger := by
  constructor
  · constructor
    · rintro ⟨lanes, h⟩
      obtain ⟨hmatch, hfits, -⟩ := rebuildUnreservedFrontiers_eq_ok.mp h
      exact ⟨hmatch, hfits⟩
    · rintro ⟨hmatch, hfits⟩
      exact ⟨_, rebuildUnreservedFrontiers_eq_ok.mpr ⟨hmatch, hfits, rfl, rfl⟩⟩
  · intro pendingOwner deliverySeq admissionOrder
    constructor
    · rintro ⟨lanes, h⟩
      obtain ⟨hplaced, hmatch, hfits, -⟩ := rebuildPendingTerminalFrontiers_eq_ok.mp h
      exact ⟨hplaced, hmatch, hfits⟩
    · rintro ⟨hplaced, hmatch, hfits⟩
      exact ⟨_, rebuildPendingTerminalFrontiers_eq_ok.mpr ⟨hplaced, hmatch, hfits, rfl, rfl⟩⟩

/-- One bound member and a reserve of three that ends at `u64::MAX`. -/
theorem rebuild_exhausted_at_top :
    let active : ActiveIdentityRanks := ⟨[⟨0, 0, .bound ⟨⟨0, 0⟩, 1⟩⟩], by decide⟩
    let sequenceLedger : SequenceLedger := ⟨u64Max - 3, ⟨1, 1, 0, .none⟩, by decide⟩
    let orderLedger : OrderLedger := ⟨.allocated 0, ⟨1, 1, false, false, rfl⟩, by decide⟩
    ledgersMatch active active.terminalOwners.length sequenceLedger orderLedger ∧
      rebuildUnreservedFrontiers active sequenceLedger orderLedger = .error .exhausted := by
  exact ⟨⟨rfl, rfl, rfl, rfl, rfl⟩, rfl⟩

end Liminal
