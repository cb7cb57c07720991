import Liminal.Lifecycle.ClaimFrontier.Live
import Liminal.Lifecycle.Membership

/-!
# Leave

A member that leaves takes its exit, its terminal and its product ranges with it. The other claims
are laid out again behind the Left record, in order. The order lane is consumed first, the sequence
lane when the Leave is finished.
-/

namespace Liminal

open Checked Fallible

inductive PrepareLeaveAuthorityError
  | conversation
  | identity
  | binding
  | immutablePrefix
  | pendingCandidate
  | membershipExitClaim
  | activeBindingClaim
  | orderCapacity
  | resultingOrderLedger
deriving DecidableEq

inductive RetirementError
  | conversation
  | participant
  | generation
  | retiredGeneration
  | token
  | leftAdmissionOrder

inductive LeaveCommitError
  | preparedAuthority
  | verifiedAuthority
  | bindingAuthority
  | pendingTerminalRequiresComposition
  | noInterveningTuple
  | pendingDetachState
  | terminalHistory
  | terminalSequenceOrder
  | sequenceAuthority
  | resultingFrontier
  | retirementInvariant (error : RetirementError)

/-! ### The order lane -/

inductive LeaveRelayUnit
  | direct (claim : MovableOrderClaim)
  | recovery (block : RecoveryOrderBlock)

namespace LeaveRelayUnit

def start : LeaveRelayUnit → TransactionOrder
  | .direct claim => claim.transactionOrder
  | .recovery block => block.blockStart

def len : LeaveRelayUnit → Nat
  | .direct _ => 1
  | .recovery block => if block.activeBinding.isSome then 3 else 2

def place (start : TransactionOrder) : LeaveRelayUnit → LeaveRelayUnit
  | .direct claim => .direct { claim with transactionOrder := start }
  | .recovery block =>
    match block.activeBinding with
    | some active => .recovery { block with
        activeBinding := some { active with transactionOrder := start }
        recoveryOperationOrder := start + 1
        replacementTerminalOrder := start + 2 }
    | none => .recovery { block with
        recoveryOperationOrder := start
        replacementTerminalOrder := start + 1 }

def claim? : LeaveRelayUnit → Option MovableOrderClaim
  | .direct claim => some claim
  | .recovery _ => none

def block? : LeaveRelayUnit → Option RecoveryOrderBlock
  | .direct _ => none
  | .recovery block => some block

end LeaveRelayUnit

structure LeaveOrderSelection where
  units : List LeaveRelayUnit
  selectedMajor : TransactionOrder

def removeOwner (owner : OrderDirectOwner) (claims : List MovableOrderClaim) : List MovableOrderClaim :=
  claims.eraseP fun claim => claim.owner == owner

variable (order : OrderClaimFrontier)

variable (participant : ParticipantId)

/-- The owner of the terminal that the Leave ends, which must be claimed. -/
def matchingActiveClaim
    (endedBindingEpoch : Option BindingEpoch) : Except PrepareLeaveAuthorityError (Option OrderDirectOwner) :=
  match endedBindingEpoch with
  | none => .ok none
  | some epoch => do
    let expected := OrderDirectOwner.activeBindingTerminal ⟨participant, epoch⟩
    require (∃ claim ∈ order.movableClaims, claim.owner = expected) .activeBindingClaim
    return some expected

/-- The major reserved for the exit if the surviving claims fit above it, else the next free one. A pended
terminal has its major already, so the Leave must stay above it. -/
def selectLeaveOrder (endedBindingEpoch : Option BindingEpoch) (pendingOrder : Option AdmissionOrder) :
    Except PrepareLeaveAuthorityError LeaveOrderSelection := do
  let exitOwner := OrderDirectOwner.membershipExit participant
  let exitClaim ← orError (order.movableClaims.find? fun claim => claim.owner == exitOwner) .membershipExitClaim
  require (∀ pending ∈ pendingOrder, pending.transactionOrder < exitClaim.transactionOrder) .pendingCandidate
  let activeOwner ← matchingActiveClaim order participant endedBindingEpoch
  let survivors := activeOwner.elim (removeOwner exitOwner order.movableClaims)
    (removeOwner · (removeOwner exitOwner order.movableClaims))
  let recovery := order.recovery.filter fun block => block.participantIndex ≠ participant
  let units := (survivors.map LeaveRelayUnit.direct ++
    recovery.toList.map LeaveRelayUnit.recovery).insertionSort fun a b => a.start ≤ b.start
  let survivingHandles := (units.map LeaveRelayUnit.len).sum
  if survivingHandles ≤ u64Max - exitClaim.transactionOrder then
    return ⟨units, exitClaim.transactionOrder⟩
  else do
    require (pendingOrder = none) .orderCapacity
    require (order.ledger.high.next ≤ u64Max) .orderCapacity
    return ⟨units, order.ledger.high.next⟩

/-- The units again, one behind the other, from the major after the selected one. -/
def relayLeaveOrderUnits (units : List LeaveRelayUnit) (selectedMajor : TransactionOrder) :
    Except PrepareLeaveAuthorityError (List MovableOrderClaim × Option RecoveryOrderBlock) := do
  let placed ← orError (takeBy u64Max LeaveRelayUnit.len LeaveRelayUnit.place
    (add u64Max selectedMajor 1) units) .orderCapacity
  return ((placed.filterMap LeaveRelayUnit.claim?).insertionSort
      fun a b => a.transactionOrder ≤ b.transactionOrder, (placed.filterMap LeaveRelayUnit.block?).getLast?)

def leaveResultingOrderLedger (selectedMajor : TransactionOrder) (movableClaims : List MovableOrderClaim)
    (recovery : Option RecoveryOrderBlock) : Except PrepareLeaveAuthorityError OrderLedger := do
  let activeBindingTerminals :=
    (movableClaims.filterMap fun claim => claim.owner.terminal?).length +
      (recovery.bind RecoveryOrderBlock.activeBinding).toList.length
  let membershipExits := (movableClaims.filterMap fun claim => claim.owner.exit?).length
  let claims ← (OrderClaims.new activeBindingTerminals membershipExits recovery.isSome
    recovery.isSome).mapError fun _ => .resultingOrderLedger
  (OrderLedger.tryNew (.allocated selectedMajor) claims).mapError fun _ => .resultingOrderLedger

def consumeLeaveOrderLane (participant : ParticipantId)
    (endedBindingEpoch : Option BindingEpoch) (pendingOrder : Option AdmissionOrder) :
    Except PrepareLeaveAuthorityError (OrderClaimFrontier × TransactionOrder) := do
  let selection ← selectLeaveOrder order participant endedBindingEpoch pendingOrder
  let (movableClaims, recovery) ← relayLeaveOrderUnits selection.units selection.selectedMajor
  let ledger ← leaveResultingOrderLedger selection.selectedMajor movableClaims recovery
  return ({ ledger, movableClaims, immutableCandidates := [], recovery }, selection.selectedMajor)

/-! ### The sequence lane -/

inductive LeaveSequenceUnit
  | direct (claim : MovableSequenceClaim)
  | terminalProduct (range : TerminalProductRange)
  | replacementProduct (range : ReplacementTerminalProductRange)
  | exitProduct (range : ExitProductRange)
  | recovery (block : RecoverySequenceBlock)

namespace LeaveSequenceUnit

def originalStart : LeaveSequenceUnit → DeliverySeq
  | .direct claim => claim.deliverySeq
  | .terminalProduct range | .replacementProduct range | .exitProduct range => range.start
  | .recovery block => block.blockStart

def length : LeaveSequenceUnit → Nat
  | .direct _ => 1
  | .terminalProduct range | .replacementProduct range | .exitProduct range => range.length
  | .recovery block => 2 + block.terminal.toList.length

def place (start : DeliverySeq) : LeaveSequenceUnit → LeaveSequenceUnit
  | .direct claim => .direct { claim with deliverySeq := start }
  | .terminalProduct range => .terminalProduct { range with start }
  | .replacementProduct range => .replacementProduct { range with start }
  | .exitProduct range => .exitProduct { range with start }
  | .recovery block =>
    match block.terminal with
    | some terminal => .recovery { block with
        terminal := some { terminal with deliverySeq := start }
        recoveryAttachSeq := start + 1
        replacementTerminalSeq := start + 2 }
    | none => .recovery { block with
        recoveryAttachSeq := start
        replacementTerminalSeq := start + 1 }

def claim? : LeaveSequenceUnit → Option MovableSequenceClaim
  | .direct claim => some claim
  | _ => none

def terminalProduct? : LeaveSequenceUnit → Option TerminalProductRange
  | .terminalProduct range => some range
  | _ => none

def replacementProduct? : LeaveSequenceUnit → Option ReplacementTerminalProductRange
  | .replacementProduct range => some range
  | _ => none

def exitProduct? : LeaveSequenceUnit → Option ExitProductRange
  | .exitProduct range => some range
  | _ => none

def block? : LeaveSequenceUnit → Option RecoverySequenceBlock
  | .recovery block => some block
  | _ => none

end LeaveSequenceUnit

variable (participant : ParticipantId)

variable (endedBindingEpoch : Option BindingEpoch)

/-- The claims that end with the participant: its exit, and its terminal of the ended epoch. -/
def endsWith : SequenceDirectOwner → Bool
  | .membershipExit owner => owner == participant
  | .bindingTerminal owner =>
    owner.participantIndex == participant && some owner.bindingEpoch == endedBindingEpoch

/-- The exit is claimed once, and so is the terminal of the ended epoch, if there is one. -/
def checkConsumed (claims : List MovableSequenceClaim) : Except LeaveCommitError Unit :=
  let consumed := claims.filter fun claim => endsWith participant endedBindingEpoch claim.owner
  require ((consumed.filterMap fun claim => claim.owner.exit?).length = 1 ∧
    (consumed.filterMap fun claim => claim.owner.terminal?).length = endedBindingEpoch.toList.length) .resultingFrontier

variable (sequence : SequenceClaimFrontier)

section

variable (participant : ParticipantId) (endedBindingEpoch : Option BindingEpoch) (resultingLive : Nat)

/-- What survives the participant, with the lengths of `resultingLive` members, in the order it had. -/
def leaveSequenceUnits : List LeaveSequenceUnit :=
  let recoveryOwned := sequence.recovery.any fun block => block.participantIndex == participant
  let claims := sequence.movableClaims.filter fun claim =>
    !endsWith participant endedBindingEpoch claim.owner
  let terminalProducts := sequence.products.liveTimesTerminal.filter fun range =>
    range.terminal.participantIndex != participant && resultingLive != 0
  let replacementProduct := sequence.products.liveTimesReplacementTerminal.filter fun _ =>
    !recoveryOwned && resultingLive != 0
  let resultingOther := resultingLive - 1
  let exitProducts := sequence.products.otherLiveTimesExit.filter fun range =>
    resultingOther != 0 && range.exitParticipant != participant
  let recovery := sequence.recovery.filter fun _ => !recoveryOwned
  (claims.map LeaveSequenceUnit.direct ++ terminalProducts.map
      (fun range => LeaveSequenceUnit.terminalProduct { range with length := resultingLive }) ++
    replacementProduct.toList.map
      (fun range => LeaveSequenceUnit.replacementProduct { range with length := resultingLive }) ++
    exitProducts.map (fun range => LeaveSequenceUnit.exitProduct { range with length := resultingOther }) ++
    recovery.toList.map LeaveSequenceUnit.recovery).insertionSort
      fun a b => a.originalStart ≤ b.originalStart

def relayLeaveSequence (leftDeliverySeq : DeliverySeq) : Except LeaveCommitError SequenceClaimFrontier := do
  checkConsumed participant endedBindingEpoch sequence.movableClaims
  let placed ← orError (takeBy u64Max LeaveSequenceUnit.length LeaveSequenceUnit.place (add u64Max leftDeliverySeq 1)
    (leaveSequenceUnits sequence participant endedBindingEpoch resultingLive)) .resultingFrontier
  let movableClaims := (placed.filterMap LeaveSequenceUnit.claim?).insertionSort
    fun a b => a.deliverySeq ≤ b.deliverySeq
  let recovery := (placed.filterMap LeaveSequenceUnit.block?).getLast?
  let terminalCount := (movableClaims.filterMap fun claim => claim.owner.terminal?).length +
    (recovery.bind RecoverySequenceBlock.terminal).toList.length
  let reserve := if recovery.isSome then RecoverySequenceReserve.detachedCredentialRecovery else .none
  let ledger ← (SequenceLedger.tryNew leftDeliverySeq
    ⟨resultingLive, terminalCount, 0, reserve⟩).mapError fun _ => .resultingFrontier
  return {
    ledger
    movableClaims
    immutableCandidates := []
    products := {
      liveTimesTerminal := (placed.filterMap LeaveSequenceUnit.terminalProduct?).insertionSort
        fun a b => a.start ≤ b.start
      liveTimesReplacementTerminal := (placed.filterMap LeaveSequenceUnit.replacementProduct?).getLast?
      otherLiveTimesExit := (placed.filterMap LeaveSequenceUnit.exitProduct?).insertionSort
        fun a b => a.start ≤ b.start }
    recovery }

end

/-! ### The frontiers -/

def leftRecord (leftDeliverySeq : DeliverySeq) (leftTransactionOrder : TransactionOrder) : RetainedCausalRecord where
  deliverySeq := leftDeliverySeq
  admissionOrder := ⟨leftTransactionOrder, .membershipExit, participant⟩
  kind := .membershipExit participant

def terminalRecord (terminal : CommittedBindingTerminal) : RetainedCausalRecord where
  deliverySeq := terminal.deliverySeq
  admissionOrder := terminal.identity.admissionOrder
  kind := .bindingTerminal ⟨participant, terminal.identity.bindingEpoch⟩

variable (firstAppended : DeliverySeq)

/-- A settled Leave finds no candidate; a pending one finds its own terminal and nothing else. -/
def leaveCandidatesMatch (candidates : List ImmutableSequenceCandidate) : Option CommittedBindingTerminal → Bool
  | none => candidates.isEmpty
  | some terminal => decide (terminal.deliverySeq = firstAppended ∧
      candidates = [.bindingTerminal firstAppended terminal.identity.admissionOrder
        ⟨participant, terminal.identity.bindingEpoch⟩])

/-- The Left record comes first, or right behind the composed terminal. -/
def expectedLeft : Option CommittedBindingTerminal → Option DeliverySeq
  | none => some firstAppended
  | some _ => add u64Max firstAppended 1

theorem expectedLeft_eq_some {firstAppended}
    (h : expectedLeft firstAppended terminal = some leftDeliverySeq) :
    leftDeliverySeq = firstAppended + terminal.toList.length := by
  cases terminal with
  | none => exact (Option.some.inj h).symm
  | some terminal => exact (add_eq_some.mp h).2.symm

namespace ActiveIdentityRanks

def remove (active : ActiveIdentityRanks) (participant : ParticipantId) : ActiveIdentityRanks where
  participants := active.participants.filter fun p => p.participantIndex ≠ participant
  ascending := active.ascending.filter _

end ActiveIdentityRanks

namespace ClaimFrontiers

variable (f : ClaimFrontiers)

def finishLeaveClaims (participant : ParticipantId) (endedBindingEpoch : Option BindingEpoch)
    (committedTerminal : Option CommittedBindingTerminal) (leftDeliverySeq : DeliverySeq)
    (leftTransactionOrder : TransactionOrder) : Except LeaveCommitError ClaimFrontiers := do
  let firstAppended ← orError (add u64Max f.high 1) .sequenceAuthority
  let expectedLeft ← orError (expectedLeft firstAppended committedTerminal) .sequenceAuthority
  require (leftDeliverySeq = expectedLeft) .sequenceAuthority
  require (leaveCandidatesMatch participant firstAppended f.sequence.immutableCandidates
    committedTerminal = true) .sequenceAuthority
  require (f.activeIdentities.contains participant = true) .resultingFrontier
  let active := f.activeIdentities.remove participant
  let sequence ← relayLeaveSequence f.sequence participant endedBindingEpoch active.live leftDeliverySeq
  let appended := committedTerminal.toList.map (terminalRecord participant) ++
    [leftRecord participant leftDeliverySeq leftTransactionOrder]
  require (f.order.ledger.claims.membershipExits = active.live ∧
    f.order.recovery.isSome = sequence.recovery.isSome) .resultingFrontier
  (validateCrossCounter sequence f.order).mapError fun _ => .resultingFrontier
  return { f with
    activeIdentities := active
    retainedRecords := (f.retainedRecords ++ appended).insertionSort
      fun a b => a.deliverySeq ≤ b.deliverySeq
    markerRecords := f.markerRecords.filter fun record => !record.isMarkerOf participant
    sequence }

/-! ### Preparing a Leave -/

def validateLeaveIdentity (member : LiveMember) : Except PrepareLeaveAuthorityError FrontierParticipant := do
  require (member.conversationId = f.conversationId) .conversation
  let participant ← orError (f.activeIdentities.find? member.participantId) .identity
  require (participant.cursor = member.cursor) .identity
  return participant

def validateSettledLeavePrestate (member : LiveMember) (bindingState : BindingState) :
    Except PrepareLeaveAuthorityError (ParticipantId × Option BindingEpoch) := do
  let participant ← f.validateLeaveIdentity member
  require (f.order.immutableCandidates = []) .immutablePrefix
  match bindingState with
  | .detached =>
    match participant.binding with
    | .detached _ => return (member.participantId, none)
    | .bound _ => .error .binding
  | .bound binding => do
    require (binding.conversationId = f.conversationId ∧ binding.participantId = member.participantId) .binding
    require (participant.binding = .bound binding.bindingEpoch) .binding
    return (member.participantId, some binding.bindingEpoch)
  | .pendingFinalization _ => .error .binding

/-- The position of the pended terminal is not looked at here. -/
def pendingCandidateMatches (identity : BindingTerminalIdentity) : List ImmutableSequenceCandidate → Bool
  | [.bindingTerminal _ admissionOrder owner] =>
    decide (admissionOrder = identity.admissionOrder ∧ owner = ⟨participant, identity.bindingEpoch⟩)
  | _ => false

def validatePendingLeavePrestate (member : LiveMember) (pending : PendingFinalization) :
    Except PrepareLeaveAuthorityError (ParticipantId × AdmissionOrder) := do
  let participant ← f.validateLeaveIdentity member
  let identity := pending.identity
  require (identity.conversationId = f.conversationId ∧ identity.participantId = member.participantId) .binding
  require (participant.binding = .detached identity.bindingEpoch) .binding
  require (pendingCandidateMatches member.participantId identity f.sequence.immutableCandidates = true ∧
    f.order.immutableCandidates =
      [⟨identity.admissionOrder.transactionOrder, [identity.admissionOrder]⟩]) .pendingCandidate
  return (member.participantId, identity.admissionOrder)

end ClaimFrontiers

/-- The authority a prepared Leave carries: the frontiers with their order lane consumed, and what the Leave
was prepared for. -/
inductive PreparedLeaveAuthority
  | settled (frontiers : ClaimFrontiers) (conversationId : ConversationId) (participantId : ParticipantId)
      (endedBindingEpoch : Option BindingEpoch) (leftTransactionOrder : TransactionOrder)
  | pending (frontiers : ClaimFrontiers) (conversationId : ConversationId) (participantId : ParticipantId)
      (bindingEpoch : BindingEpoch) (pendingOrder : AdmissionOrder) (leftTransactionOrder : TransactionOrder)

namespace ClaimFrontiers

variable (f : ClaimFrontiers) (member : LiveMember)

def prepareSettledLeaveAuthority
    (bindingState : BindingState) : Except PrepareLeaveAuthorityError PreparedLeaveAuthority := do
  let (participant, endedBindingEpoch) ← f.validateSettledLeavePrestate member bindingState
  let (order, leftOrder) ← consumeLeaveOrderLane f.order participant endedBindingEpoch none
  return .settled { f with order } member.conversationId participant endedBindingEpoch leftOrder

def preparePendingLeaveAuthority
    (pending : PendingFinalization) : Except PrepareLeaveAuthorityError PreparedLeaveAuthority := do
  let (participant, expectedOrder) ← f.validatePendingLeavePrestate member pending
  let (order, leftOrder) ← consumeLeaveOrderLane f.order participant none (some expectedOrder)
  return .pending { f with order } member.conversationId participant pending.identity.bindingEpoch
    expectedOrder leftOrder

end ClaimFrontiers

namespace PreparedLeaveAuthority

variable (authority : PreparedLeaveAuthority)

variable (conversationId : ConversationId) (participantId : ParticipantId)

def consumeSettled
    (endedBindingEpoch : Option BindingEpoch) : Except LeaveCommitError (TransactionOrder × ClaimFrontiers) :=
  match authority with
  | .settled frontiers conversation participant ended leftOrder => do
    require (conversation = conversationId ∧ participant = participantId ∧ ended = endedBindingEpoch) .preparedAuthority
    return (leftOrder, frontiers)
  | .pending .. => .error .preparedAuthority

def consumePending (bindingEpoch : BindingEpoch)
    (pendingOrder : AdmissionOrder) : Except LeaveCommitError (TransactionOrder × ClaimFrontiers) :=
  match authority with
  | .pending frontiers conversation participant epoch order leftOrder => do
    require (conversation = conversationId ∧ participant = participantId ∧ epoch = bindingEpoch ∧
      order = pendingOrder ∧ pendingOrder.transactionOrder < leftOrder) .preparedAuthority
    return (leftOrder, frontiers)
  | .settled .. => .error .preparedAuthority

end PreparedLeaveAuthority

end Liminal
