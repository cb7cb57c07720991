import Liminal.Lifecycle.Admission.Sequence
import Liminal.Lifecycle.Admission.Order
import Liminal.Library.Segments

/-!
# Claim frontiers

What one conversation knows about the positions above its two high values: who is active, what is
retained below, and which future sequence and major belongs to whom. The segments at the end read
the positions off class by class.
-/

namespace Liminal

open Fallible

/-! ### Participants -/

inductive FrontierBinding
  | bound (epoch : BindingEpoch)
  | detached (epoch : BindingEpoch)
deriving DecidableEq

def FrontierBinding.epoch : FrontierBinding → BindingEpoch
  | .bound epoch | .detached epoch => epoch

@[ext] structure FrontierParticipant where
  participantIndex : ParticipantId
  cursor : DeliverySeq
  binding : FrontierBinding
deriving DecidableEq

structure BindingTerminalOwner where
  participantIndex : ParticipantId
  bindingEpoch : BindingEpoch
deriving DecidableEq

def FrontierParticipant.terminalOwner? (p : FrontierParticipant) : Option BindingTerminalOwner :=
  match p.binding with
  | .bound epoch => some ⟨p.participantIndex, epoch⟩
  | .detached _ => none

inductive ClaimFrontierCounter
  | deliverySequence
  | transactionOrder

inductive ClaimFrontierInvalidReason
  | numericPosition
  | candidateKey
  | logicalOwner
  | productRange
  | recoveryBlock
  | aggregateLedger

structure ClaimFrontierError where
  counter : ClaimFrontierCounter
  firstBadPosition : Nat
  reason : ClaimFrontierInvalidReason

section

variable (position : Nat) (reason : ClaimFrontierInvalidReason)

def sequenceError : ClaimFrontierError :=
  ⟨.deliverySequence, position, reason⟩

def orderError : ClaimFrontierError :=
  ⟨.transactionOrder, position, reason⟩

end

def AscendingIndexes (participants : List FrontierParticipant) : Prop :=
  participants.Pairwise fun p q => p.participantIndex < q.participantIndex

instance (participants : List FrontierParticipant) : Decidable (AscendingIndexes participants) :=
  inferInstanceAs (Decidable (List.Pairwise _ _))

@[ext] structure ActiveIdentityRanks where
  participants : List FrontierParticipant
  ascending : AscendingIndexes participants
deriving DecidableEq

namespace ActiveIdentityRanks

variable {highWatermark identitySlotLimit : Nat} {participants : List FrontierParticipant}

/-- The loop of the source over the participants: `previous` is the index before, `rank` the position reached. -/
def firstBadRank (highWatermark identitySlotLimit : Nat) (previous : Option ParticipantId) (rank : Nat) :
    List FrontierParticipant → Option Nat
  | [] => none
  | p :: rest =>
    if previous.any (p.participantIndex ≤ ·) ∨ identitySlotLimit ≤ p.participantIndex ∨
        highWatermark < p.cursor then some rank
    else firstBadRank highWatermark identitySlotLimit (some p.participantIndex) (rank + 1) rest

/-- A participant the ranks accept: its index is below the slot limit and its cursor not above the high
watermark. -/
def Admissible (highWatermark identitySlotLimit : Nat) (p : FrontierParticipant) : Prop :=
  p.participantIndex < identitySlotLimit ∧ p.cursor ≤ highWatermark

theorem firstBadRank_eq_none : firstBadRank highWatermark identitySlotLimit previous rank participants = none ↔
      (∀ i ∈ previous, ∀ p ∈ participants, i < p.participantIndex) ∧ AscendingIndexes participants ∧
        ∀ p ∈ participants, Admissible highWatermark identitySlotLimit p := by
  induction participants generalizing previous rank with
  | nil => simp [firstBadRank, AscendingIndexes]
  | cons p rest ih =>
    simp only [firstBadRank, AscendingIndexes, List.pairwise_cons, List.forall_mem_cons]
    rw [ite_eq_iff]
    simp only [reduceCtorEq, and_false, false_or, ih, AscendingIndexes, Option.mem_def,
      Option.some.injEq, forall_eq', not_or, not_lt, Admissible, not_le]
    constructor
    · rintro ⟨⟨hprev, hslot, hcursor⟩, hlt, hasc, hall⟩
      refine ⟨fun i hi => ?_, ⟨hlt, hasc⟩, ⟨hslot, hcursor⟩, hall⟩
      subst hi
      have hip : i < p.participantIndex := by simpa using hprev
      exact ⟨hip, fun q hq => hip.trans (hlt q hq)⟩
    · rintro ⟨hprev, ⟨hlt, hasc⟩, ⟨hslot, hcursor⟩, hall⟩
      refine ⟨⟨?_, hslot, hcursor⟩, hlt, hasc, hall⟩
      cases previous with
      | none => simp
      | some i => simpa using (hprev i rfl).1

/-- At most one participant per identity slot, in strictly increasing order, each index below the limit and
each cursor at most the high watermark. -/
def tryNew (participants : List FrontierParticipant) (highWatermark : DeliverySeq)
    (identitySlotLimit : Nat) : Except ClaimFrontierError ActiveIdentityRanks :=
  if participants.length > identitySlotLimit then
    .error (sequenceError identitySlotLimit .logicalOwner)
  else
    match h : firstBadRank highWatermark identitySlotLimit none 0 participants with
    | some rank => .error (sequenceError rank .logicalOwner)
    | none => .ok ⟨participants, (firstBadRank_eq_none.mp h).2.1⟩

theorem tryNew_eq_ok : tryNew participants highWatermark identitySlotLimit = .ok active ↔
      active.participants = participants ∧ active.participants.length ≤ identitySlotLimit ∧
        ∀ p ∈ active.participants, Admissible highWatermark identitySlotLimit p := by
  unfold tryNew
  split
  · simp only [reduceCtorEq, false_iff]
    rintro ⟨rfl, hcount, -⟩
    omega
  · split
    · rename_i rank hbad
      simp only [reduceCtorEq, false_iff]
      rintro ⟨rfl, -, hall⟩
      have hnone : firstBadRank highWatermark identitySlotLimit none 0 active.participants = none :=
        firstBadRank_eq_none.mpr ⟨by simp, active.ascending, hall⟩
      rw [hnone] at hbad
      cases hbad
    · rename_i hnone
      have hall := (firstBadRank_eq_none.mp hnone).2.2
      rw [Except.ok.injEq, ActiveIdentityRanks.ext_iff]
      refine ⟨?_, fun h => h.1.symm⟩
      rintro rfl
      exact ⟨rfl, by omega, hall⟩

variable (active : ActiveIdentityRanks)

variable (participant : ParticipantId)

def find? : Option FrontierParticipant :=
  active.participants.find? fun p => p.participantIndex == participant

def contains : Bool :=
  active.participants.any fun p => p.participantIndex == participant

/-- The active participants that hold a binding, with the terminal each of them will own. -/
def terminalOwners : List BindingTerminalOwner :=
  active.participants.filterMap FrontierParticipant.terminalOwner?

def indexes : List ParticipantId := active.participants.map FrontierParticipant.participantIndex

theorem indexes_nodup : active.indexes.Nodup := by
  have h := active.ascending
  exact (List.pairwise_map.mpr h).imp fun hlt => Nat.ne_of_lt hlt

end ActiveIdentityRanks

/-! ### Retained records and markers -/

inductive TerminalProductSource
  | binding (owner : BindingTerminalOwner)
  | recoveryReplacement (participantIndex : ParticipantId) (bindingEpoch : BindingEpoch)
deriving DecidableEq

inductive MarkerProvenance
  | nonProductM
  | terminalProduct (terminal : TerminalProductSource) (affectedParticipant : ParticipantId)
  | exitProduct (exitParticipant remainingParticipant : ParticipantId)
deriving DecidableEq

inductive RetainedCausalRecordKind
  | bindingTerminal (owner : BindingTerminalOwner)
  | membershipExit (participantIndex : ParticipantId)
  | attachLifecycle (participantIndex : ParticipantId) (bindingEpoch : BindingEpoch)
  | ordinaryRecord (participantIndex : ParticipantId)
  | compactionMarker (participantIndex : ParticipantId) (provenance : MarkerProvenance)
deriving DecidableEq

structure RetainedCausalRecord where
  deliverySeq : DeliverySeq
  admissionOrder : AdmissionOrder
  kind : RetainedCausalRecordKind
deriving DecidableEq

def RetainedCausalRecord.markerOwner? (record : RetainedCausalRecord) : Option ParticipantId :=
  match record.kind with
  | .compactionMarker participantIndex _ => some participantIndex
  | _ => none

theorem RetainedCausalRecord.markerOwner?_eq_some {record : RetainedCausalRecord}
 : record.markerOwner? = some participant ↔ ∃ provenance, record.kind = .compactionMarker participant provenance := by
  obtain ⟨_, _, kind⟩ := record
  cases kind <;> simp [markerOwner?]

def RetainedCausalRecord.isMarkerOf (record : RetainedCausalRecord) (participant : ParticipantId) : Bool :=
  record.markerOwner? == some participant

inductive SequenceProductClass
  | liveTimesTerminal
  | liveTimesReplacementTerminal
  | otherLiveTimesExit
deriving DecidableEq

inductive MarkerSequenceOwner
  | marker
  | conditionalProduct (class' : SequenceProductClass)
deriving DecidableEq

/-- A marker with its position, waiting to be drained: whom it tells, and which deliveries it tells them are
gone. -/
structure MarkerCandidateAuthority where
  deliverySeq : DeliverySeq
  admissionOrder : AdmissionOrder
  targetBinding : FrontierBinding
  provenance : MarkerProvenance
  (abandonedAfter abandonedThrough physicalFloorAtDecision : DeliverySeq)
  currentOwner : MarkerSequenceOwner
deriving DecidableEq

inductive ImmutableSequenceCandidate
  | bindingTerminal (deliverySeq : DeliverySeq) (admissionOrder : AdmissionOrder) (owner : BindingTerminalOwner)
  | marker (authority : MarkerCandidateAuthority)
deriving DecidableEq

namespace ImmutableSequenceCandidate

def deliverySeq : ImmutableSequenceCandidate → DeliverySeq
  | .bindingTerminal deliverySeq _ _ => deliverySeq
  | .marker authority => authority.deliverySeq

def admissionOrder : ImmutableSequenceCandidate → AdmissionOrder
  | .bindingTerminal _ admissionOrder _ => admissionOrder
  | .marker authority => authority.admissionOrder

def isMarker : ImmutableSequenceCandidate → Bool
  | .bindingTerminal .. => false
  | .marker _ => true

end ImmutableSequenceCandidate

/-! ### The sequence lane -/

inductive SequenceDirectOwner
  | membershipExit (participantIndex : ParticipantId)
  | bindingTerminal (owner : BindingTerminalOwner)
deriving DecidableEq

structure MovableSequenceClaim where
  deliverySeq : DeliverySeq
  owner : SequenceDirectOwner
deriving DecidableEq

structure TerminalProductRange where
  start : DeliverySeq
  length : Nat
  terminal : BindingTerminalOwner
deriving DecidableEq

structure ReplacementTerminalProductRange where
  start : DeliverySeq
  length : Nat
  participantIndex : ParticipantId
  markerDeliverySeq : DeliverySeq
  priorBindingEpoch : BindingEpoch
deriving DecidableEq

structure ExitProductRange where
  start : DeliverySeq
  length : Nat
  exitParticipant : ParticipantId
deriving DecidableEq

@[ext] structure SequenceProductRanges where
  liveTimesTerminal : List TerminalProductRange
  liveTimesReplacementTerminal : Option ReplacementTerminalProductRange
  otherLiveTimesExit : List ExitProductRange
deriving DecidableEq

structure RecoverySequenceTerminal where
  deliverySeq : DeliverySeq
  owner : BindingTerminalOwner
deriving DecidableEq

structure RecoverySequenceBlock where
  terminal : Option RecoverySequenceTerminal
  (recoveryAttachSeq replacementTerminalSeq : DeliverySeq)
  participantIndex : ParticipantId
  markerDeliverySeq : DeliverySeq
  recoveredBindingEpoch : BindingEpoch
deriving DecidableEq

@[ext] structure SequenceClaimFrontier where
  ledger : SequenceLedger
  movableClaims : List MovableSequenceClaim
  immutableCandidates : List ImmutableSequenceCandidate
  products : SequenceProductRanges
  recovery : Option RecoverySequenceBlock
deriving DecidableEq

/-! ### The order lane -/

inductive OrderDirectOwner
  | activeBindingTerminal (owner : BindingTerminalOwner)
  | membershipExit (participantIndex : ParticipantId)
deriving DecidableEq

structure MovableOrderClaim where
  transactionOrder : TransactionOrder
  owner : OrderDirectOwner
deriving DecidableEq

structure ImmutableOrderCandidateMajor where
  transactionOrder : TransactionOrder
  candidateKeys : List AdmissionOrder
deriving DecidableEq

structure RecoveryOrderActiveBinding where
  transactionOrder : TransactionOrder
  owner : BindingTerminalOwner
deriving DecidableEq

structure RecoveryOrderBlock where
  activeBinding : Option RecoveryOrderActiveBinding
  (recoveryOperationOrder replacementTerminalOrder : TransactionOrder)
  participantIndex : ParticipantId
  markerDeliverySeq : DeliverySeq
  recoveredBindingEpoch : BindingEpoch
deriving DecidableEq

@[ext] structure OrderClaimFrontier where
  ledger : OrderLedger
  movableClaims : List MovableOrderClaim
  immutableCandidates : List ImmutableOrderCandidateMajor
  recovery : Option RecoveryOrderBlock
deriving DecidableEq

/-! ### Both lanes -/

@[ext] structure ClaimFrontiers where
  conversationId : ConversationId
  activeIdentities : ActiveIdentityRanks
  (identitySlotLimit retainedFloor : Nat)
  (retainedRecords markerRecords : List RetainedCausalRecord)
  fencedMarkerIssued : Option (ParticipantId × DeliverySeq × BindingEpoch)
  sequence : SequenceClaimFrontier
  order : OrderClaimFrontier
deriving DecidableEq

namespace ClaimFrontiers

abbrev high (f : ClaimFrontiers) : DeliverySeq := f.sequence.ledger.highWatermark

abbrev nextOrder (f : ClaimFrontiers) : TransactionOrder := f.order.ledger.high.next

end ClaimFrontiers

/-! ### Reading positions off a frontier -/

def SequenceDirectOwner.exit? : SequenceDirectOwner → Option ParticipantId
  | .membershipExit participant => some participant
  | .bindingTerminal _ => none

def SequenceDirectOwner.terminal? : SequenceDirectOwner → Option BindingTerminalOwner
  | .membershipExit _ => none
  | .bindingTerminal owner => some owner

def OrderDirectOwner.exit? : OrderDirectOwner → Option ParticipantId
  | .activeBindingTerminal _ => none
  | .membershipExit participant => some participant

def OrderDirectOwner.terminal? : OrderDirectOwner → Option BindingTerminalOwner
  | .activeBindingTerminal owner => some owner
  | .membershipExit _ => none

namespace RecoverySequenceBlock

def segments (block : RecoverySequenceBlock) : List Segment :=
  block.terminal.toList.map (fun terminal => .single terminal.deliverySeq) ++
    [.single block.recoveryAttachSeq, .single block.replacementTerminalSeq]

end RecoverySequenceBlock

namespace SequenceProductRanges

def segments (products : SequenceProductRanges) : List Segment :=
  products.liveTimesTerminal.map (fun range => ⟨range.start, range.length⟩) ++
    products.liveTimesReplacementTerminal.toList.map (fun range => ⟨range.start, range.length⟩) ++
    products.otherLiveTimesExit.map (fun range => ⟨range.start, range.length⟩)

end SequenceProductRanges

namespace SequenceClaimFrontier

variable (lane : SequenceClaimFrontier)

def segments : List Segment :=
  lane.immutableCandidates.map (fun candidate => .single candidate.deliverySeq) ++
    lane.movableClaims.map (fun claim => .single claim.deliverySeq) ++
    lane.products.segments ++ lane.recovery.toList.flatMap RecoverySequenceBlock.segments

def exitOwners : List ParticipantId := lane.movableClaims.filterMap fun claim => claim.owner.exit?

/-- Owners of the terminals still to come, the one inside a recovery block included. -/
def terminalOwners : List BindingTerminalOwner :=
  lane.movableClaims.filterMap (fun claim => claim.owner.terminal?) ++
    (lane.recovery.bind RecoverySequenceBlock.terminal).toList.map RecoverySequenceTerminal.owner

def positionBudget : SequenceBudget where
  highWatermark := lane.ledger.highWatermark
  remaining := Checked.u64Max - lane.ledger.highWatermark
  e := lane.exitOwners.length
  t := lane.terminalOwners.length + lane.immutableCandidates.countP (fun c => !c.isMarker)
  m := lane.immutableCandidates.countP ImmutableSequenceCandidate.isMarker
  rs := lane.recovery.toList.length
  rt := lane.recovery.toList.length
  lTimesT := (lane.products.liveTimesTerminal.map TerminalProductRange.length).sum
  lTimesRt := (lane.products.liveTimesReplacementTerminal.toList.map ReplacementTerminalProductRange.length).sum
  lOtherTimesE := (lane.products.otherLiveTimesExit.map ExitProductRange.length).sum

end SequenceClaimFrontier

namespace RecoveryOrderBlock

def segments (block : RecoveryOrderBlock) : List Segment :=
  block.activeBinding.toList.map (fun active => .single active.transactionOrder) ++
    [.single block.recoveryOperationOrder, .single block.replacementTerminalOrder]

end RecoveryOrderBlock

namespace OrderClaimFrontier

/-- Every major the lane has reserved above the high value. Candidates carry majors already allocated. -/
def segments (lane : OrderClaimFrontier) : List Segment :=
  lane.movableClaims.map (fun claim => .single claim.transactionOrder) ++
    lane.recovery.toList.flatMap RecoveryOrderBlock.segments

def exitOwners (lane : OrderClaimFrontier) : List ParticipantId :=
  lane.movableClaims.filterMap fun claim => claim.owner.exit?

def terminalOwners (lane : OrderClaimFrontier) : List BindingTerminalOwner :=
  lane.movableClaims.filterMap (fun claim => claim.owner.terminal?) ++
    (lane.recovery.bind RecoveryOrderBlock.activeBinding).toList.map RecoveryOrderActiveBinding.owner

end OrderClaimFrontier

end Liminal
