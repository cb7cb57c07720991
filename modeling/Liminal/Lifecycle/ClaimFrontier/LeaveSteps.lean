import Liminal.Lifecycle.ClaimFrontier.LeaveLayout
import Liminal.Lifecycle.ClaimFrontier.PartitionSteps

/-!
# What a Leave makes of the frontiers

On lanes that are laid out, a Leave that goes through returns the frontiers without the participant:
its claims and marker are gone, its pended terminal and its Left record are in the log. A Leave
without a pended terminal always goes through.
-/

namespace Liminal

open Checked Fallible FrontierParticipant ActiveIdentityRanks List

namespace ClaimFrontiers

variable {lane : OrderClaimFrontier} {member : LiveMember} {bindingState : BindingState}
  {authority : PreparedLeaveAuthority}

/-- The frontiers without one participant, after the records its Leave appended. -/
def withoutParticipant (f : ClaimFrontiers) (participant : ParticipantId) (appended : List RetainedCausalRecord)
    (sequenceLedger : SequenceLedger) (orderLedger : OrderLedger) : ClaimFrontiers :=
  { f with
    activeIdentities := f.activeIdentities.remove participant
    retainedRecords := (f.retainedRecords ++ appended).insertionSort
      fun a b => a.deliverySeq ≤ b.deliverySeq
    markerRecords := f.markerRecords.filter fun record => !record.isMarkerOf participant
    sequence := leftSequenceLayout (f.activeIdentities.remove participant) sequenceLedger
    order := orderLaneLayout (f.activeIdentities.remove participant) [] orderLedger }

/-- The records of a Leave: the terminal it composes, if any, and the Left record. -/
def leaveRecords (participant : ParticipantId) (terminal : Option CommittedBindingTerminal)
    (leftDeliverySeq : DeliverySeq) (leftTransactionOrder : TransactionOrder) : List RetainedCausalRecord :=
  terminal.toList.map (terminalRecord participant) ++ [leftRecord participant leftDeliverySeq leftTransactionOrder]

/-- Everything a finished Leave says about the frontiers before and after it. -/
structure LeftBy (f f' : ClaimFrontiers) (participant : ParticipantId) (terminal : Option CommittedBindingTerminal)
    (leftDeliverySeq : DeliverySeq) (leftTransactionOrder : TransactionOrder) : Prop where
  candidates : leaveCandidatesMatch participant (f.high + 1) f.sequence.immutableCandidates terminal = true
  position : leftDeliverySeq = f.high + 1 + terminal.toList.length
  major : f.nextOrder ≤ leftTransactionOrder
  result : ∃ sequenceLedger orderLedger, f' = f.withoutParticipant participant
      (leaveRecords participant terminal leftDeliverySeq leftTransactionOrder) sequenceLedger orderLedger ∧
      sequenceLedger.highWatermark = leftDeliverySeq ∧
      orderLedger.high = .allocated leftTransactionOrder
  laidOut : f'.LaidOut

theorem laidOut_withoutParticipant {f : ClaimFrontiers}
    (hclaims : sequenceLedger.claims = ⟨(f.activeIdentities.remove participant).live,
      (f.activeIdentities.remove participant).terminalOwners.length, 0, .none⟩)
    (hterms : orderLedger.claims.activeBindingTerminals = (f.activeIdentities.remove participant).terminalOwners.length)
    (hexits : orderLedger.claims.membershipExits = (f.activeIdentities.remove participant).live)
    (hop : orderLedger.claims.recoveryOperation = false) :
    (f.withoutParticipant participant appended sequenceLedger orderLedger).LaidOut where
  sequenceRecovery := rfl
  orderRecovery := rfl
  replacement := rfl
  movable := rfl
  terminalProducts := rfl
  exitProducts := by
    by_cases hlive : (f.activeIdentities.remove participant).live ≤ 1
    · exact Or.inr ⟨hlive, if_pos hlive⟩
    · exact Or.inl (if_neg hlive)
  orderMovable := rfl
  sequenceClaims := hclaims
  activeBindingTerminals := hterms
  membershipExits := hexits
  recoveryOperation := hop
  candidatePositions := rfl
  candidateShape := CandidateShape.nil
  candidatesPaired := Or.inl ⟨rfl, rfl⟩

variable {f f' : ClaimFrontiers} {participant : ParticipantId} {endedBindingEpoch : Option BindingEpoch}
  {terminal : Option CommittedBindingTerminal} {leftDeliverySeq : DeliverySeq} {leftTransactionOrder : TransactionOrder}

/-- Only the terminals of the others own a range after a Leave: the leaver's own pended terminal goes with it. -/
theorem productOwners_remaining
    (hcands : leaveCandidatesMatch participant (f.high + 1) f.sequence.immutableCandidates
      terminal = true) : (f.productOwners.filter fun owner => owner.participantIndex ≠ participant) =
      (f.activeIdentities.remove participant).terminalOwners := by
  rw [remove_terminalOwners]
  cases terminal with
  | none => rw [productOwners_of_nil (isEmpty_iff.mp hcands)]
  | some terminal =>
    obtain ⟨-, hcands⟩ := of_decide_eq_true hcands
    rw [productOwners, hcands]
    exact Keyed.filter_insertionSort_append
      (f.activeIdentities.terminalOwners_sorted.imp fun hlt => Nat.le_of_lt hlt) _ _ (by simp)

namespace LaidOut

variable (h : f.LaidOut) (hleaves : f.activeIdentities.Leaves participant endedBindingEpoch)

include h

theorem sequenceLaidOut : SequenceLaidOut f.sequence f.activeIdentities f.productOwners f.firstMovable :=
  ⟨h.sequenceRecovery, h.replacement, h.movable, h.terminalProducts, h.exitProducts⟩

include hleaves

theorem finishLeaveClaims_eq_ok
    (hconsume : consumeLeaveOrderLane f.order participant endedBindingEpoch pendingOrder =
      .ok (lane, leftTransactionOrder))
    (hfinish : finishLeaveClaims { f with order := lane } participant endedBindingEpoch terminal
      leftDeliverySeq leftTransactionOrder = .ok f') :
    f.LeftBy f' participant terminal leftDeliverySeq leftTransactionOrder := by
  obtain ⟨hmajor, hlane, hhigh, hterms, hexits, hop⟩ :=
    consumeLeaveOrderLane_eq_ok rfl h.orderMovable h.orderRecovery hleaves hconsume
  simp only [finishLeaveClaims, ok_iff, add_eq_some] at hfinish
  obtain ⟨_, ⟨-, rfl⟩, _, hexpected, rfl, hcands, -, sequence, hrelay, -, _, -, rfl⟩ := hfinish
  obtain ⟨hseq, hwatermark, hclaims⟩ := h.sequenceLaidOut.relayLeaveSequence_eq_ok rfl hleaves
    (productOwners_remaining hcands) hrelay
  have hresult : { f with
      order := lane
      activeIdentities := f.activeIdentities.remove participant
      retainedRecords := (f.retainedRecords ++
        leaveRecords participant terminal leftDeliverySeq leftTransactionOrder).insertionSort
          fun a b => a.deliverySeq ≤ b.deliverySeq
      markerRecords := f.markerRecords.filter fun record => !record.isMarkerOf participant
      sequence } = f.withoutParticipant participant
        (leaveRecords participant terminal leftDeliverySeq leftTransactionOrder) sequence.ledger
        lane.ledger := by
    rw [withoutParticipant, ← hseq, ← hlane]
  exact {
    candidates := hcands
    position := expectedLeft_eq_some hexpected
    major := hmajor
    result := ⟨sequence.ledger, lane.ledger, hresult, hwatermark, hhigh⟩
    laidOut := Eq.subst hresult.symm (laidOut_withoutParticipant hclaims hterms hexits hop) }

/-- The exit gives up at least the one position that the Left record takes. -/
theorem remaining_fits :
    f.sequence.ledger.highWatermark + 1 + (SequenceClaims.mk (f.activeIdentities.remove participant).live
      (f.activeIdentities.remove participant).terminalOwners.length 0 .none).requiredReserve ≤ u64Max := by
  have hlive := hleaves.remove_live
  have hterms := hleaves.remove_terminalOwners_length
  have howners := productOwners_length h.candidateShape
  have hfits := f.sequence.ledger.fits
  have hmarkers : f.sequence.immutableCandidates.countP ImmutableSequenceCandidate.isMarker ≤
      f.sequence.immutableCandidates.length := countP_le_length
  rw [h.sequenceClaims, SequenceClaims.requiredReserve_eq] at hfits
  rw [SequenceClaims.requiredReserve_eq]
  simp only [RecoverySequenceReserve.claims, Nat.mul_zero, Nat.add_zero] at hfits ⊢
  generalize (f.activeIdentities.remove participant).live = live at *
  generalize f.activeIdentities.live = total at *
  subst hlive
  have hproducts : live * (f.activeIdentities.remove participant).terminalOwners.length ≤
      (live + 1) * f.productOwners.length :=
    Nat.mul_le_mul (Nat.le_succ _) (by omega)
  have hexits : (live - 1) * live ≤ (live + 1 - 1) * (live + 1) :=
    Nat.mul_le_mul (by omega) (Nat.le_succ _)
  omega

theorem finishLeaveClaims_settled (hnil : f.sequence.immutableCandidates = [])
    (hconsume : consumeLeaveOrderLane f.order participant endedBindingEpoch none = .ok (lane, leftTransactionOrder)) :
    ∃ f', finishLeaveClaims { f with order := lane } participant endedBindingEpoch none (f.high + 1)
      leftTransactionOrder = .ok f' := by
  obtain ⟨-, hlane, -, -, hexits, -⟩ :=
    consumeLeaveOrderLane_eq_ok rfl h.orderMovable h.orderRecovery hleaves hconsume
  have hfits := h.remaining_fits hleaves
  have hcands : leaveCandidatesMatch participant (f.high + 1) f.sequence.immutableCandidates none = true := by
    rw [hnil]
    rfl
  have hrelay := h.sequenceLaidOut.relayLeaveSequence_of_fits rfl hleaves (productOwners_remaining hcands) hfits
  have hcontains : f.activeIdentities.contains participant = true := by
    obtain ⟨p, hfind, -⟩ := hleaves
    obtain ⟨hmem, hindex⟩ := find?_eq_some.mp hfind
    exact any_eq_true.mpr ⟨p, hmem, by simpa using hindex⟩
  have hrecovery : lane.recovery = none := by rw [hlane]; rfl
  have hcross : validateCrossCounter (leftSequenceLayout (f.activeIdentities.remove participant)
      ⟨f.high + 1, _, hfits⟩) lane = .ok () := by
    rw [hlane]
    refine validateCrossCounter_ok rfl rfl (fun _ => Iff.rfl) ?_
    simp only [SequenceClaimFrontier.terminalOwners, OrderClaimFrontier.terminalOwners,
      leftSequenceLayout, orderLaneLayout, movableLayout_terminals, orderLayout_terminals, Option.bind_none]
    rfl
  simp only [finishLeaveClaims, ok_iff, add_eq_some]
  exact ⟨_, _, ⟨Nat.le_of_add_right_le hfits, rfl⟩, _, rfl, rfl, hcands, hcontains, _, hrelay,
    ⟨hexits, by rw [hrecovery]; rfl⟩, (), hcross, rfl⟩

end LaidOut

/-! ### What a Leave removes -/

/-- One participant's claims and marker are gone; every other claim has kept its owner and its place among the
others. -/
structure RemovesClaims (f f' : ClaimFrontiers) (participant : ParticipantId) : Prop where
  participants : f'.activeIdentities.participants =
    f.activeIdentities.participants.filter fun p => p.participantIndex ≠ participant
  sequenceOwners : f'.sequence.movableClaims.map MovableSequenceClaim.owner =
    (f.sequence.movableClaims.map MovableSequenceClaim.owner).filter fun owner =>
      owner.participantIndex ≠ participant
  orderOwners : f'.order.movableClaims.map MovableOrderClaim.owner =
    (f.order.movableClaims.map MovableOrderClaim.owner).filter fun owner =>
      owner.participantIndex ≠ participant
  terminalProducts : f'.sequence.products.liveTimesTerminal.map TerminalProductRange.terminal =
    (f.sequence.products.liveTimesTerminal.map TerminalProductRange.terminal).filter fun owner =>
      owner.participantIndex ≠ participant
  exitProducts : f'.sequence.products.otherLiveTimesExit.map ExitProductRange.exitParticipant =
    if f'.activeIdentities.live ≤ 1 then [] else
      (f.sequence.products.otherLiveTimesExit.map ExitProductRange.exitParticipant).filter
        fun index => index ≠ participant
  candidates : f'.sequence.immutableCandidates = [] ∧ f'.order.immutableCandidates = []
  markers : f'.markerRecords = f.markerRecords.filter fun record => !record.isMarkerOf participant

section

variable (active : ActiveIdentityRanks) (owners : List BindingTerminalOwner) (cursor : Nat)

theorem terminalProductLayout_terminals
    : (terminalProductLayout active owners cursor).map TerminalProductRange.terminal = owners := by
  rw [terminalProductLayout, map_layEach _ _ _ _ TerminalProductRange.terminal id fun _ _ => rfl, map_id]

theorem exitProductLayout_exits :
    (exitProductLayout active owners cursor).map ExitProductRange.exitParticipant = active.indexes := by
  rw [exitProductLayout, map_layEach _ _ _ _ ExitProductRange.exitParticipant participantIndex fun _ _ => rfl]
  rfl

end

/-- A Leave that finishes without a pended terminal removes the leaver's claims, and those alone. -/
theorem LeftBy.removesClaims (h : f.LeftBy f' participant none leftDeliverySeq leftTransactionOrder)
    (hlaid : f.LaidOut) (hleaves : f.activeIdentities.Leaves participant endedBindingEpoch)
    (hnil : f.sequence.immutableCandidates = []) : f.RemovesClaims f' participant := by
  obtain ⟨sequenceLedger, orderLedger, rfl, -, -⟩ := h.result
  have hterms := f.activeIdentities.remove_terminalOwners participant
  have hindexes := f.activeIdentities.remove_indexes participant
  have howners := productOwners_of_nil hnil
  exact {
    participants := rfl
    sequenceOwners := by
      rw [hlaid.movable, movableLayout_owners, filter_append, filter_map, filter_map]
      change (movableLayout (f.activeIdentities.remove participant) _).map _ = _
      rw [movableLayout_owners, hterms, hindexes]
      rfl
    orderOwners := by
      rw [hlaid.orderMovable, orderLayout_owners, filter_append, filter_map, filter_map]
      change (orderLayout (f.activeIdentities.remove participant) _).map _ = _
      rw [orderLayout_owners, hterms, hindexes]
      rfl
    terminalProducts := by
      rw [hlaid.terminalProducts, terminalProductLayout_terminals, howners, ← hterms]
      exact terminalProductLayout_terminals _ _ _
    exitProducts := by
      change (remainingExitProducts (f.activeIdentities.remove participant) _).map _ =
        if (f.activeIdentities.remove participant).live ≤ 1 then [] else _
      unfold remainingExitProducts
      split
      · rfl
      · -- with two survivors there were three members, and each had a range
        have hmembers := hleaves.remove_live
        rcases hlaid.exitProducts with hexits | ⟨hlone, -⟩
        · rw [hexits, exitProductLayout_exits, exitProductLayout_exits, hindexes]
        · omega
    candidates := ⟨rfl, rfl⟩
    markers := rfl }

/-! ### Preparing -/

/-- A prepared settled Leave has consumed the order lane for a participant whose cursor the member shares. -/
theorem prepareSettledLeaveAuthority_eq_ok (h : f.prepareSettledLeaveAuthority member bindingState = .ok authority) :
    ∃ current endedBindingEpoch lane leftTransactionOrder, f.activeIdentities.find? member.participantId =
      some current ∧ current.cursor = member.cursor ∧ f.activeIdentities.Leaves member.participantId endedBindingEpoch ∧
      consumeLeaveOrderLane f.order member.participantId endedBindingEpoch none = .ok (lane, leftTransactionOrder) ∧
      authority = .settled { f with order := lane } member.conversationId member.participantId
        endedBindingEpoch leftTransactionOrder := by
  simp only [prepareSettledLeaveAuthority, validateSettledLeavePrestate, validateLeaveIdentity,
    ok_iff, Prod.exists] at h
  obtain ⟨participant, ended, ⟨_, ⟨-, current, hfind, hcursor, rfl⟩, -, hbinding⟩, lane, major, hconsume, rfl⟩ := h
  obtain ⟨rfl, hleaves⟩ : participant = member.participantId ∧
      f.activeIdentities.Leaves member.participantId ended := by
    cases bindingState with
    | detached =>
      cases hcurrent : current.binding with
      | detached epoch =>
        simp only [hcurrent, pure_eq_ok, Prod.mk.injEq] at hbinding
        obtain ⟨rfl, rfl⟩ := hbinding
        exact ⟨rfl, current, hfind, by simp [terminalOwner?, hcurrent]⟩
      | bound epoch => simp only [hcurrent, reduceCtorEq] at hbinding
    | bound binding =>
      simp only [ok_iff, Prod.mk.injEq] at hbinding
      obtain ⟨-, hbound, rfl, rfl⟩ := hbinding
      refine ⟨rfl, current, hfind, ?_⟩
      simp [terminalOwner?, hbound, (find?_eq_some.mp hfind).2]
    | pendingFinalization pending => simp only [reduceCtorEq] at hbinding
  exact ⟨current, ended, lane, major, hfind, hcursor, hleaves, hconsume, rfl⟩

/-- A settled Leave of a member that fits its participant is always prepared and finished, and it removes the
leaver's claims alone. -/
theorem LaidOut.settledLeave (h : f.LaidOut)
    (hnil : f.sequence.immutableCandidates = []) (hconversation : member.conversationId = f.conversationId)
    (hfind : f.activeIdentities.find? member.participantId = some current) (hcursor : current.cursor = member.cursor)
    (hbinding : (∃ epoch, bindingState = .detached ∧ current.binding = .detached epoch) ∨
      ∃ binding, bindingState = .bound binding ∧ current.binding = .bound binding.bindingEpoch ∧
        binding.participantId = member.participantId ∧ binding.conversationId = member.conversationId) :
    ∃ frontiers endedBindingEpoch leftTransactionOrder f',
      f.prepareSettledLeaveAuthority member bindingState = .ok (.settled frontiers
        member.conversationId member.participantId endedBindingEpoch leftTransactionOrder) ∧
      frontiers.finishLeaveClaims member.participantId endedBindingEpoch none (f.high + 1)
        leftTransactionOrder = .ok f' ∧ f.RemovesClaims f' member.participantId := by
  have horder : f.order.immutableCandidates = [] := by
    rcases h.candidatesPaired with ⟨-, hgroups⟩ | ⟨hne, -⟩
    · exact hgroups
    · exact absurd hnil hne
  obtain ⟨endedBindingEpoch, hvalid, hleaves⟩ : ∃ endedBindingEpoch,
      f.validateSettledLeavePrestate member bindingState = .ok (member.participantId, endedBindingEpoch) ∧
      f.activeIdentities.Leaves member.participantId endedBindingEpoch := by
    simp only [validateSettledLeavePrestate, validateLeaveIdentity, hfind, hconversation, horder,
      ok_iff, Option.some.injEq]
    rcases hbinding with ⟨epoch, rfl, hdet⟩ | ⟨binding, rfl, hbound, hid, hconv⟩
    · refine ⟨none, ⟨current, ⟨trivial, current, rfl, hcursor, rfl⟩, trivial, ?_⟩, current, hfind, ?_⟩
      · rw [hdet]
        rfl
      · simp [terminalOwner?, hdet]
    · refine ⟨some binding.bindingEpoch,
        ⟨current, ⟨trivial, current, rfl, hcursor, rfl⟩, trivial, ?_⟩, current, hfind, ?_⟩
      · simp only [ok_iff]
        exact ⟨⟨hconv.trans hconversation, hid⟩, hbound, trivial⟩
      · simp [terminalOwner?, hbound, (find?_eq_some.mp hfind).2]
  obtain ⟨lane, major, hconsume⟩ :=
    consumeLeaveOrderLane_settled h.orderMovable h.orderRecovery hleaves h.orderTotal
  obtain ⟨f', hfinish⟩ := h.finishLeaveClaims_settled hleaves hnil hconsume
  refine ⟨{ f with order := lane }, endedBindingEpoch, major, f', ?_, hfinish, ?_⟩
  · simp only [prepareSettledLeaveAuthority, ok_iff, Prod.exists]
    exact ⟨_, _, hvalid, lane, major, hconsume, rfl⟩
  · exact (h.finishLeaveClaims_eq_ok hleaves hconsume hfinish).removesClaims h hleaves hnil

/-- The same for a member whose terminal is pended: the binding is over already, so only the exit is consumed. -/
theorem preparePendingLeaveAuthority_eq_ok
    (h : f.preparePendingLeaveAuthority member pending = .ok authority) : ∃ current lane leftTransactionOrder,
      f.activeIdentities.find? member.participantId = some current ∧ current.cursor = member.cursor ∧
      f.activeIdentities.Leaves member.participantId none ∧ consumeLeaveOrderLane f.order member.participantId none
        (some pending.identity.admissionOrder) = .ok (lane, leftTransactionOrder) ∧
      authority = .pending { f with order := lane } member.conversationId member.participantId
        pending.identity.bindingEpoch pending.identity.admissionOrder leftTransactionOrder := by
  simp only [preparePendingLeaveAuthority, validatePendingLeavePrestate, validateLeaveIdentity,
    ok_iff, Prod.exists, Prod.mk.injEq] at h
  obtain ⟨participant, order, ⟨_, ⟨-, current, hfind, hcursor, rfl⟩, -, hdet, -, rfl, rfl⟩, lane,
    major, hconsume, rfl⟩ := h
  refine ⟨current, lane, major, hfind, hcursor, ⟨current, hfind, ?_⟩, hconsume, rfl⟩
  simp [terminalOwner?, hdet]

end ClaimFrontiers

end Liminal
