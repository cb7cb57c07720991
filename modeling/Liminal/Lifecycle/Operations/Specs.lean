import Liminal.Library.WindowLog
import Liminal.Lifecycle.ClaimFrontier.LeaveSteps
import Liminal.Lifecycle.Operations.BindingFate
import Liminal.Lifecycle.Operations.BindingTerminal
import Liminal.Lifecycle.Operations.MarkerDrain
import Liminal.Lifecycle.Operations.RecordAdmission

/-!
# What the operations of the owner do

One lemma for each operation of the live owner: when it goes through, and what the owner is
afterwards. Nothing above this module unfolds an operation.
-/

namespace Liminal

open Checked Fallible ClaimFrontiers ActiveIdentityRanks SealedBindingFateToken List

abbrev OneTransaction (major : TransactionOrder) (orders : List AdmissionOrder) : Prop :=
  WindowLog.OneTransaction AdmissionOrder.transactionOrder major orders

namespace LiveFrontierOwner

variable {owner owner' : LiveFrontierOwner} {active : List FrontierParticipant} {charges : List RetainedRecordCharge}
  {sequence : SequenceLedger} {order : OrderLedger} {binding : ActiveBinding} {admissionOrder : AdmissionOrder}
  {deliverySeq : DeliverySeq} {charge : RetainedRecordCharge} {prepared : PreparedBindingTerminal}
  {participant : ParticipantId}

/-! ### Rows -/

/-- Rows of one new transaction were appended, none of them a marker, and `active` are the participants from
then on. -/
inductive Appends (owner : LiveFrontierOwner) (active : List FrontierParticipant)
    (rows : List RetainedCausalRecord) : LiveFrontierOwner → Prop
  | intro {owner' : LiveFrontierOwner} {charges sequence order}
      (oneTransaction : OneTransaction owner.frontiers.nextOrder (rows.map RetainedCausalRecord.admissionOrder))
      (orderHigh : order.high = .allocated owner.frontiers.nextOrder) (nonempty : rows ≠ []) (unmarked : ∀ row ∈ rows,
      row.markerOwner? = none) (transition : owner.transition active rows charges sequence order = .ok owner') :
      Appends owner active rows owner'

theorem transition_eq_ok :
    owner.transition active rows charges sequence order = .ok owner' ↔ appendedChargesKeyed rows charges ∧
      owner.frontiers.retainedRecords.length + rows.length ≤ owner.retainedRecordLimit ∧ ∃ closureAccounting,
        owner.closureAccounting.accountingAfterRows charges = some closureAccounting ∧ ∃ frontiers,
        owner.frontiers.applyLiveTransition active rows sequence order = .ok frontiers ∧ { owner with
          frontiers, closureAccounting, retainedCharges := owner.retainedCharges ++ charges } = owner' := by
  simp only [transition, ok_iff]

def terminalRow (binding : ActiveBinding) (admissionOrder : AdmissionOrder) (deliverySeq : DeliverySeq) :
    RetainedCausalRecord :=
  ⟨deliverySeq, admissionOrder, .bindingTerminal ⟨binding.participantId, binding.bindingEpoch⟩⟩

theorem commitBindingTerminalCandidate_eq_ok :
    owner.commitBindingTerminalCandidate binding admissionOrder deliverySeq charge = .ok owner' ↔
      ∃ current, owner.frontiers.activeIdentities.find? binding.participantId = some current ∧
        current.binding = .bound binding.bindingEpoch ∧
      ∃ sequence order, detachSequence owner.frontiers.sequence.ledger deliverySeq = some sequence ∧
        detachOrder owner.frontiers.order.ledger admissionOrder.transactionOrder = some order ∧
        owner.transition (owner.withParticipant ⟨binding.participantId, current.cursor, .detached binding.bindingEpoch⟩)
          [terminalRow binding admissionOrder deliverySeq] [charge] sequence order = .ok owner' := by
  simp only [commitBindingTerminalCandidate, ok_iff]
  constructor
  · rintro ⟨current, hfind, hbound, sequence, hsequence, order, horder, h⟩
    rw [(find?_eq_some.mp hfind).2] at h
    exact ⟨current, hfind, hbound, sequence, order, hsequence, horder, h⟩
  · rintro ⟨current, hfind, hbound, sequence, order, hsequence, horder, h⟩
    rw [← (find?_eq_some.mp hfind).2] at h
    exact ⟨current, hfind, hbound, sequence, hsequence, order, horder, h⟩

theorem Appends.single (hmajor : row.admissionOrder.transactionOrder = owner.frontiers.nextOrder) (hhigh : order.high =
    .allocated row.admissionOrder.transactionOrder) (hunmarked : row.markerOwner? = none)
    (htrans : owner.transition active [row] charges sequence order = .ok owner') : owner.Appends active
    [row] owner' := by
  rw [hmajor] at hhigh
  refine .intro ?_ hhigh (cons_ne_nil _ _) (by simpa using hunmarked) htrans
  rw [← hmajor]
  exact .single row.admissionOrder

theorem commitBindingTerminalCandidate_appends
    (h : owner.commitBindingTerminalCandidate binding admissionOrder deliverySeq charge = .ok owner') :
    ∃ current, owner.frontiers.activeIdentities.find? binding.participantId = some current ∧
      owner.Appends (owner.withParticipant ⟨binding.participantId, current.cursor,
        .detached binding.bindingEpoch⟩) [terminalRow binding admissionOrder deliverySeq] owner' := by
  obtain ⟨current, hfind, -, sequence, order, -, horder, htrans⟩ :=
    commitBindingTerminalCandidate_eq_ok.mp h
  obtain ⟨-, hmajor, hhigh, -⟩ := detachOrder_eq_some.mp horder
  exact ⟨current, hfind, .single hmajor hhigh rfl htrans⟩

theorem applyEnrollmentFrontier_appends (h : owner.applyEnrollmentFrontier operation charge = .ok owner') :
    ∃ row, row.deliverySeq = operation.attached.deliverySeq ∧
      owner.Appends ((owner.frontiers.activeIdentities.participants ++
        [FrontierParticipant.mk operation.attached.participantId operation.member.cursor
          (.bound operation.attached.bindingEpoch)]).insertionSort
            fun p q => p.participantIndex ≤ q.participantIndex) [row] owner' := by
  simp only [applyEnrollmentFrontier, ok_iff] at h
  obtain ⟨-, -, sequence, -, order, horder, htrans⟩ := h
  obtain ⟨hmajor, hhigh, -⟩ := enrollmentOrder_eq_some horder
  exact ⟨_, rfl, .single hmajor hhigh rfl htrans⟩

theorem applyDetachFrontier_appends (h : owner.applyDetachFrontier operation charge = .ok owner') :
    ∃ row, row.deliverySeq = operation.terminal.deliverySeq ∧
      owner.Appends (owner.withParticipant ⟨operation.terminal.identity.participantId,
        operation.member.cursor, .detached operation.terminal.identity.bindingEpoch⟩) [row] owner' := by
  simp only [applyDetachFrontier, ok_iff] at h
  obtain ⟨-, current, hfind, sequence, -, order, horder, htrans⟩ := h
  obtain ⟨-, hmajor, hhigh, -⟩ := detachOrder_eq_some.mp horder
  rw [(find?_eq_some.mp hfind).2] at htrans
  exact ⟨_, rfl, .single hmajor hhigh rfl htrans⟩

/-- A detached attach appends its record, a superseding one the superseded terminal before it. A fenced attach
needs a recovery block. -/
theorem applyAttachFrontier_appends {charges : AttachFrontierCharges}
    (hrecovery : owner.frontiers.sequence.recovery = none)
    (hsuperseded : ∀ terminal, operation.transition = .superseded terminal →
      terminal.identity.admissionOrder < operation.attached.admissionOrder ∧
      terminal.identity.admissionOrder.transactionOrder = operation.attached.admissionOrder.transactionOrder)
    (h : owner.applyAttachFrontier operation charges = .ok owner') :
    ∃ rows, owner.Appends (owner.withParticipant ⟨operation.attached.participantId,
        operation.member.cursor, .bound operation.attached.bindingEpoch⟩) rows owner' ∧
      (operation.transition = .detached ∧ rows.map RetainedCausalRecord.deliverySeq = [operation.attached.deliverySeq] ∨
        ∃ terminal, operation.transition = .superseded terminal ∧ rows.map RetainedCausalRecord.deliverySeq =
            [terminal.deliverySeq, operation.attached.deliverySeq]) := by
  simp only [applyAttachFrontier, ok_iff] at h
  obtain ⟨-, current, hfind, h⟩ := h
  rw [(find?_eq_some.mp hfind).2] at h
  cases htrans : operation.transition with
  | detached =>
    simp only [htrans, ok_iff] at h
    obtain ⟨-, sequence, -, order, horder, h⟩ := h
    obtain ⟨hmajor, hhigh, -⟩ := detachedAttachOrder_eq_some horder
    exact ⟨_, .single hmajor hhigh rfl h, Or.inl ⟨rfl, rfl⟩⟩
  | superseded terminal =>
    simp only [htrans, ok_iff] at h
    obtain ⟨charge, -, sequence, -, order, horder, h⟩ := h
    obtain ⟨hmajor, hhigh, -⟩ := nextOrder_eq_some.mp horder
    obtain ⟨hlt, hsame⟩ := hsuperseded terminal htrans
    refine ⟨_, .intro ⟨?_, ?_⟩ (hhigh.trans (congrArg _ hmajor)) (cons_ne_nil _ _) ?_ h, Or.inr ⟨terminal, rfl, rfl⟩⟩
    · exact pairwise_pair.mpr hlt
    · intro admissionOrder hmem
      simp only [map_cons, map_nil, mem_cons, not_mem_nil, or_false] at hmem
      rcases hmem with rfl | rfl
      · exact hsame.trans hmajor
      · exact hmajor
    · intro row hrow
      simp only [mem_cons, not_mem_nil, or_false] at hrow
      rcases hrow with rfl | rfl <;> rfl
  | fencedRecovery prior composed next =>
    simp only [htrans, ok_iff, Prod.exists, fencedAttachTransition] at h
    obtain ⟨rows, keyed, -, -, -, _, -, frontiers, hfenced, -⟩ := h
    simp only [applyLiveFencedAttach, ok_iff, hrecovery, reduceCtorEq, false_and, and_false, exists_false] at hfenced

/-! ### Pended terminals -/

theorem pendBindingTerminalCandidate_eq_ok :
    owner.pendBindingTerminalCandidate binding admissionOrder deliverySeq = .ok owner' ↔ ∃ order,
        detachOrder owner.frontiers.order.ledger admissionOrder.transactionOrder = some order ∧ ∃ frontiers,
        owner.frontiers.applyPendingBindingTerminal binding.participantId binding.bindingEpoch
          deliverySeq admissionOrder order = .ok frontiers ∧ { owner with frontiers } = owner' := by
  simp only [pendBindingTerminalCandidate, ok_iff]

theorem drainPendingTerminal_eq_ok :
    owner.drainPendingTerminal pending charge = .ok (owner', deliverySeq) ↔ owner.frontiers.high + 1 ≤ u64Max ∧
      charge.deliverySeq = owner.frontiers.high + 1 ∧ charge.admissionOrder = pending.identity.admissionOrder ∧
      charge.encodedCharge.entries = 1 ∧ ∃ closureAccounting,
        owner.closureAccounting.accountingAfterRows [charge] = some closureAccounting ∧ ∃ frontiers record,
        owner.frontiers.drainFirstBindingTerminal ⟨pending.identity.participantId, pending.identity.bindingEpoch⟩
          pending.identity.admissionOrder = .ok (frontiers, record) ∧ { owner with
          frontiers, closureAccounting, retainedCharges := owner.retainedCharges ++ [charge] } = owner' ∧
        record.deliverySeq = deliverySeq := by
  simp only [drainPendingTerminal, ok_iff, add_eq_some, Prod.exists, Prod.mk.injEq, and_assoc,
    exists_and_left, exists_eq_left']

theorem prepareBindingTerminal_eq_ok {order} :
    owner.prepareBindingTerminal binding order deliverySeq observer = .ok prepared ↔
      (binding.conversationId = owner.frontiers.conversationId ∧ ∃ p ∈ owner.frontiers.activeIdentities.participants,
          p.participantIndex = binding.participantId ∧ p.binding = .bound binding.bindingEpoch) ∧
      (owner.frontiers.nextOrder ≤ u64Max ∧ order = owner.frontiers.nextOrder) ∧
      (owner.frontiers.high + 1 ≤ u64Max ∧ owner.frontiers.high + 1 = deliverySeq) ∧ observer ≤ owner.frontiers.high ∧
      ⟨owner, ⟨binding, .bindingTerminal order binding.participantId, deliverySeq⟩, observer⟩ = prepared := by
  simp only [prepareBindingTerminal, ok_iff, add_eq_some]

theorem admitTerminal_eq_commit (h : prepared.admitTerminal charge = .commit owner') :
    prepared.owner.commitBindingTerminalCandidate prepared.key.activeBinding
      prepared.key.admissionOrder prepared.key.deliverySeq charge = .ok owner' := by
  simp only [PreparedBindingTerminal.admitTerminal] at h
  repeat' split at h
  all_goals cases h
  rename_i hcommit
  exact hcommit

theorem admitTerminal_eq_pending (h : prepared.admitTerminal charge = .pending owner' blockedAtObserver) :
    prepared.owner.pendBindingTerminalCandidate prepared.key.activeBinding
      prepared.key.admissionOrder prepared.key.deliverySeq = .ok owner' := by
  simp only [PreparedBindingTerminal.admitTerminal] at h
  repeat' split at h
  all_goals cases h
  rename_i hpended
  exact hpended

/-! ### Markers and records -/

theorem drainNextMarker_eq_ok (h : owner.drainNextMarker charge = .ok owner') :
    ∃ frontiers marker state closureAccounting, owner.frontiers.drainNextMarkerCore = .ok (frontiers, marker) ∧
      chargeKeyed (markerRecord marker) charge ∧ closureAccounting.toClosureCounters =
      { owner.closureAccounting.toClosureCounters with state } ∧ owner' = { owner with
        frontiers, closureAccounting, retainedCharges := owner.retainedCharges ++ [charge] } := by
  simp only [drainNextMarker, ok_iff, Prod.exists, ClosureAccounting.tryNew_eq_ok] at h
  obtain ⟨frontiers, marker, hdrain, ⟨hseq, horder⟩, -, state, -, accounting, hacct, -, rfl⟩ := h
  exact ⟨frontiers, marker, state, accounting, hdrain, ⟨hseq.symm, horder.symm⟩, hacct, rfl⟩

theorem applyRecordAdmission_eq_ok {member binding}
    (h : owner.applyRecordAdmission member binding receivingBindingEpoch request encodedRecordCharge
      maxOrdinaryRecordCharge observerProgress limits = .ok projected) :
    owner.frontiers.projectOrdinaryRecord (owner.projectionInput request receivingBindingEpoch
      encodedRecordCharge observerProgress limits) = .ok (.projected projected) := by
  simp only [applyRecordAdmission, ok_iff] at h
  obtain ⟨_, -, _, -, -, decision, hdecision, h⟩ := h
  cases decision with
  | drainFirst candidate => cases h
  | projected record =>
    simp only [pure_eq_ok] at h
    rw [hdecision, h]

/-! ### Cursors -/

def withCursor (owner : LiveFrontierOwner) (current : FrontierParticipant) (cursor : DeliverySeq)
    (closureAccounting : ClosureAccounting) : LiveFrontierOwner :=
  { owner with
    frontiers := { owner.frontiers with
      activeIdentities := owner.frontiers.activeIdentities.replace ⟨current.participantIndex, cursor, current.binding⟩ }
    closureAccounting }

theorem moveCursor_eq_ok {cursor closureAccounting}
    (h : owner.moveCursor current cursor closureAccounting = .ok owner') :
    ∃ previous, owner.frontiers.activeIdentities.find? current.participantIndex = some previous ∧ previous.cursor ≤
      cursor ∧ cursor ≤ owner.frontiers.high ∧ owner' = owner.withCursor current cursor closureAccounting := by
  simp only [moveCursor, ok_iff, applyLiveIdentity_eq_ok] at h
  obtain ⟨_, ⟨previous, hfind, ⟨hle, hhigh⟩, rfl⟩, rfl⟩ := h
  exact ⟨previous, hfind, hle, hhigh, rfl⟩

theorem accountingAfterCrossed_eq_some (h : accountingAfterCrossed accounting crossed = some result) :
    crossed ≤ accounting.markerAnchors ∧ result.toClosureCounters =
      { accounting.toClosureCounters with markerAnchors := accounting.markerAnchors - crossed } := by
  unfold accountingAfterCrossed at h
  split at h
  · rename_i hzero
    cases h
    subst hzero
    exact ⟨Nat.zero_le _, rfl⟩
  · exact ClosureAccounting.accountingAfterMarkerCrossings_eq_some h

theorem applyAckFrontier_eq_ok
    (h : owner.applyAckFrontier participant throughSeq = .ok owner') : ∃ current closureAccounting,
      owner.frontiers.activeIdentities.find? participant = some current ∧
      current.cursor ≤ throughSeq ∧ throughSeq ≤ owner.frontiers.high ∧ accountingAfterCrossed owner.closureAccounting
        (owner.crossedMarkerAnchors participant current.cursor throughSeq) = some closureAccounting ∧
      owner' = owner.withCursor current throughSeq closureAccounting := by
  simp only [applyAckFrontier, ok_iff] at h
  obtain ⟨current, hfind, accounting, hacct, hmove⟩ := h
  obtain ⟨previous, hprevious, hle, hhigh, rfl⟩ := moveCursor_eq_ok hmove
  rw [(find?_eq_some.mp hfind).2, hfind, Option.some.injEq] at hprevious
  exact ⟨current, accounting, hfind, hprevious ▸ hle, hhigh, hacct, rfl⟩

theorem applyMarkerAckFrontier_eq_ok
    (h : owner.applyMarkerAckFrontier participant markerDeliverySeq = .ok owner') : ∃ current closureAccounting,
      (∃ record ∈ owner.frontiers.markerRecords, record.deliverySeq = markerDeliverySeq ∧
        record.isMarkerOf participant = true) ∧ owner.frontiers.activeIdentities.find? participant = some current ∧
      current.cursor ≤ markerDeliverySeq ∧ markerDeliverySeq ≤ owner.frontiers.high ∧
      owner.closureAccounting.accountingAfterMarkerAck = some closureAccounting ∧
      owner' = owner.withCursor current markerDeliverySeq closureAccounting := by
  simp only [applyMarkerAckFrontier, ok_iff] at h
  obtain ⟨hrecord, current, hfind, accounting, hacct, hmove⟩ := h
  obtain ⟨previous, hprevious, hle, hhigh, rfl⟩ := moveCursor_eq_ok hmove
  rw [(find?_eq_some.mp hfind).2, hfind, Option.some.injEq] at hprevious
  exact ⟨current, accounting, hrecord, hfind, hprevious ▸ hle, hhigh, hacct, rfl⟩

end LiveFrontierOwner

/-! ### Leave -/

theorem finishLeave_eq_ok (h : finishLeave member verified endedBindingEpoch prior terminal leftTransactionOrder
      leftDeliverySeq frontiers = .ok commit) :
    frontiers.finishLeaveClaims verified.participantId endedBindingEpoch terminal leftDeliverySeq
        leftTransactionOrder = .ok commit.frontiers ∧ (commit.identity.participantId = member.participantId ∧
        commit.identity.conversationId = member.conversationId) ∧ commit.identity.leftAdmissionOrder =
        ⟨leftTransactionOrder, .membershipExit, verified.participantId⟩ ∧
      commit.identity.committedResult.leftDeliverySeq = leftDeliverySeq := by
  simp only [finishLeave, ok_iff, LeaveCommitted.new, Option.ite_none_right_eq_some,
    Option.some.injEq, LiveMember.retire] at h
  obtain ⟨-, result, ⟨-, rfl⟩, left, hleft, retired, ⟨-, -, -, -, -, rfl⟩, rfl⟩ := h
  exact ⟨hleft, ⟨rfl, rfl⟩, rfl, rfl⟩

namespace LiveFrontierOwner

variable {owner owner' : LiveFrontierOwner} {member : LiveMember} {detachCell : DetachCell}
  {verified : VerifiedLeaveRequest} {commit : LiveLeaveCommit} {token : SealedBindingFateToken}
  {terminal : BindingFateTerminal} {hardObserverProgress : DeliverySeq} {fate : MeasuredBindingFate}
  {participant : ParticipantId} {floor : Nat} {active : ActiveIdentityRanks}

structure Leaving (owner owner' : LiveFrontierOwner) (member : LiveMember)
    (terminal : Option CommittedBindingTerminal) (newCharges : List RetainedRecordCharge)
    (leftDeliverySeq : DeliverySeq) (leftTransactionOrder : TransactionOrder) : Prop where
  current : ∃ current, owner.frontiers.activeIdentities.find? member.participantId = some current ∧
    current.cursor = member.cursor
  frontiers : owner.frontiers.LeftBy owner'.frontiers member.participantId terminal leftDeliverySeq
    leftTransactionOrder
  keyed : List.Forall₂ chargeKeyed (leaveRecords member.participantId terminal
    leftDeliverySeq leftTransactionOrder) newCharges
  charges : owner'.retainedCharges = sortCharges (owner.retainedCharges ++ newCharges)
  accounting : ∃ retired, owner.retiredMarkerCharge member.participantId = some retired ∧
    owner.closureAccounting.accountingAfterLeave newCharges retired = some owner'.closureAccounting
  limit : owner'.retainedRecordLimit = owner.retainedRecordLimit

theorem commitSettledLeaveFrontier_eq_ok (hlaid : owner.frontiers.LaidOut)
    (h : owner.commitSettledLeaveFrontier member binding detachCell verified leftDeliverySeq charge =
      .ok commit) : (commit.identity.participantId = member.participantId ∧
        commit.identity.conversationId = member.conversationId) ∧ commit.observerProgressProjection = leftDeliverySeq ∧
      ∃ leftTransactionOrder, owner.Leaving commit.owner member none [charge] leftDeliverySeq leftTransactionOrder := by
  simp only [commitSettledLeaveFrontier, ok_iff] at h
  obtain ⟨retired, hretired, authority, hauth, left, hleft, ⟨hseq, horder, -⟩, -, accounting, hacct, rfl⟩ := h
  obtain ⟨current, ended, lane, major, hfind, hcursor, hleaves, hconsume, rfl⟩ :=
    prepareSettledLeaveAuthority_eq_ok hauth
  simp only [commitLeave, LiveMember.validateVerified, PreparedLeaveAuthority.consumeSettled,
    ok_iff, Prod.exists, Prod.mk.injEq] at hleft
  obtain ⟨⟨-, hverified, -⟩, epoch, -, _, -, _, _, ⟨⟨-, -, hended⟩, rfl, rfl⟩, -, hfinish⟩ := hleft
  obtain ⟨hclaims, hident, hadmission, hresult⟩ := finishLeave_eq_ok hfinish
  subst hended
  rw [hverified] at hclaims hadmission
  refine ⟨hident, hresult, major, ?_⟩
  exact {
    current := ⟨current, hfind, hcursor⟩
    frontiers := hlaid.finishLeaveClaims_eq_ok hleaves hconsume hclaims
    keyed := by
      rw [hresult] at hseq
      rw [hadmission] at horder
      exact Forall₂.cons ⟨hseq.symm, horder.symm⟩ Forall₂.nil
    charges := rfl
    accounting := ⟨retired, hretired, hacct⟩
    limit := rfl }

theorem commitPendingLeaveFrontier_eq_ok (hlaid : owner.frontiers.LaidOut)
    (h : owner.commitPendingLeaveFrontier member pending detachCell verified parameters terminalCharge
      leftCharge = .ok commit) : (commit.identity.participantId = member.participantId ∧
        commit.identity.conversationId = member.conversationId) ∧
      commit.observerProgressProjection = parameters.leftDeliverySeq ∧
      ∃ leftTransactionOrder, owner.Leaving commit.owner member
        (some (pending.commit parameters.terminalDeliverySeq)) [terminalCharge, leftCharge]
        parameters.leftDeliverySeq leftTransactionOrder := by
  simp only [commitPendingLeaveFrontier, ok_iff] at h
  obtain ⟨retired, hretired, authority, hauth, left, hleft,
    ⟨-, hterminalSeq, hterminalOrder, -, hseq, horder, -⟩, -, -, accounting, hacct, rfl⟩ := h
  obtain ⟨current, lane, major, hfind, hcursor, hleaves, hconsume, rfl⟩ :=
    preparePendingLeaveAuthority_eq_ok hauth
  simp only [commitPendingLeave, LiveMember.validateVerified, PreparedLeaveAuthority.consumePending,
    ok_iff, Prod.exists, Prod.mk.injEq] at hleft
  obtain ⟨⟨-, hverified, -⟩, _, -, _, _, ⟨-, rfl, rfl⟩, _, -, -, _, -, hfinish⟩ := hleft
  obtain ⟨hclaims, hident, hadmission, hresult⟩ := finishLeave_eq_ok hfinish
  rw [hverified] at hclaims hadmission
  refine ⟨hident, hresult, major, ?_⟩
  exact {
    current := ⟨current, hfind, hcursor⟩
    frontiers := hlaid.finishLeaveClaims_eq_ok hleaves hconsume hclaims
    keyed := by
      rw [hresult] at hseq
      rw [hadmission] at horder
      refine Forall₂.cons ⟨?_, ?_⟩ (Forall₂.cons ⟨hseq.symm, horder.symm⟩ Forall₂.nil)
      · rw [hterminalSeq]
        cases pending <;> rfl
      · rw [hterminalOrder]
        cases pending <;> rfl
    charges := rfl
    accounting := ⟨retired, hretired, hacct⟩
    limit := rfl }

/-! ### Binding fate -/

/-- The owner before and after its floor was moved; the participants may have changed in their cursors only. -/
structure Floored (owner owner' : LiveFrontierOwner) (active : ActiveIdentityRanks) (floor : Nat) : Prop where
  keyed : chargesKeyed owner.frontiers.retainedRecords owner.retainedCharges
  admissible : owner.frontiers.checkFateFloor floor = .ok ()
  claimants : SameClaimants active owner.frontiers.activeIdentities
  seated : ∀ p ∈ active.participants, p ∈ owner.frontiers.activeIdentities.participants ∨
    ActiveIdentityRanks.Admissible owner.frontiers.high owner.frontiers.identitySlotLimit p
  frontiers : owner'.frontiers = compactTo { owner.frontiers with activeIdentities := active } floor
  charges : owner'.retainedCharges = owner.chargesFrom floor
  accounting : owner.closureAccounting.accountingAfterFloor (owner.releasedBelow floor) = some owner'.closureAccounting
  limit : owner'.retainedRecordLimit = owner.retainedRecordLimit

/-- The token's participant is detached at the token's cursor, the floor is the measured one; without a
reserve the cursor ends at the top. -/
theorem prepareBindingFate_eq_ok
    (h : owner.prepareBindingFate token terminal hardObserverProgress = .ok (owner', fate)) :
    ∃ context current, token.measurementContext = some context ∧
      owner.frontiers.activeIdentities.find? context.participantId = some current ∧ current.cursor = context.cursor ∧
      current.binding = .detached context.bindingEpoch ∧ hardObserverProgress ≤ owner.frontiers.high ∧
      measuredFate token terminal (owner.measuredFloor context.participantId hardObserverProgress) =
        some fate ∧ owner.Floored owner' (owner.frontiers.activeIdentities.replace ⟨context.participantId,
          if terminal = .recoveredAndReserveFinalizer then context.cursor else owner.frontiers.high,
          .detached context.bindingEpoch⟩) (owner.measuredFloor context.participantId hardObserverProgress) := by
  simp only [prepareBindingFate, validateBindingFateMeasurement, validateBindingFateFloor, ok_iff,
    Prod.exists, Prod.mk.injEq, applyBindingFateTransition] at h
  obtain ⟨floor, installed, ⟨_, ⟨context, hcontext, -, _, -, -, -, hobs, -, rfl⟩, _, hcontext',
    owner'', ⟨hkeyed, frontiers, hfate, accounting, hacct, rfl⟩, rfl, rfl⟩, fate', hmeas, rfl, rfl⟩ := h
  rw [hcontext, Option.some.injEq] at hcontext'
  subst hcontext'
  obtain ⟨current, hfind, hcursor, hbinding, hfloor, hseated, rfl⟩ :=
    applyBindingFateTransition_eq_ok hfate
  simp only [decide_eq_true_eq] at hfloor hseated ⊢
  refine ⟨context, current, hcontext, hfind, hcursor, hbinding, hobs, hmeas, ?_⟩
  exact {
    keyed := hkeyed
    admissible := hfloor
    claimants := sameClaimants_replace hfind (by simp [FrontierParticipant.terminalOwner?, hbinding])
    seated := fun p hp => Or.inr (hseated p hp)
    frontiers := rfl
    charges := rfl
    accounting := hacct
    limit := rfl }

theorem measuredFate_ordinary (hfor : token.OrdinaryFor participant) (h : measuredFate token terminal floor =
    some fate) : terminal ≠ .recoveredAndReserveFinalizer ∧ fate.observerProgressProjection = floor := by
  obtain ⟨hrecov, authority, hordinary, -⟩ := hfor
  cases terminal with
  | ordinary died =>
    simp only [measuredFate, ordinaryBindingFate, hrecov, hordinary, OrdinaryBindingAuthority.bindingFate] at h
    split at h
    · cases h
      exact ⟨by simp, rfl⟩
    · cases h
  | recovered => simp [measuredFate, recoveredBindingFateMeasured, hordinary] at h
  | recoveredAndReserveFinalizer =>
    simp [measuredFate, recoveredBindingFateMeasured, hordinary] at h

/-- With an ordinary token it is the token's own participant whose cursor goes to the high watermark. -/
theorem prepareBindingFate_ordinary (hfor : token.OrdinaryFor participant)
    (h : owner.prepareBindingFate token terminal hardObserverProgress = .ok (owner', fate)) :
    ∃ current epoch, owner.frontiers.activeIdentities.find? participant = some current ∧
      current.binding = .detached epoch ∧ hardObserverProgress ≤ owner.frontiers.high ∧
      fate.observerProgressProjection = owner.measuredFloor participant hardObserverProgress ∧
      owner.Floored owner' (owner.frontiers.activeIdentities.replace
          ⟨participant, owner.frontiers.high, .detached epoch⟩)
        (owner.measuredFloor participant hardObserverProgress) := by
  obtain ⟨context, current, hcontext, hfind, -, hbinding, hobs, hfate, hfloored⟩ :=
    prepareBindingFate_eq_ok h
  obtain rfl := hfor.measurementContext hcontext
  obtain ⟨hterm, hproj⟩ := measuredFate_ordinary hfor hfate
  rw [if_neg hterm] at hfloored
  exact ⟨current, context.bindingEpoch, hfind, hbinding, hobs, hproj, hfloored⟩

/-- A pended death is measured the same way; the owner waits. -/
theorem preparePendingDiedOrdinaryFinalizer_eq_ok {terminal : CommittedDiedTerminal}
    {fate : OrdinaryBindingFate} (hfor : token.OrdinaryFor participant)
    (h : owner.preparePendingDiedOrdinaryFinalizer token terminal hardObserverProgress =
      .ok (fate, finalizer)) : hardObserverProgress ≤ owner.frontiers.high ∧
      finalizer.resultingFloor = owner.measuredFloor participant hardObserverProgress := by
  simp only [preparePendingDiedOrdinaryFinalizer, validateBindingFateMeasurement,
    validateBindingFateFloor, ok_iff, Prod.exists, Prod.mk.injEq] at h
  obtain ⟨floor, installed, ⟨_, ⟨context, hcontext, -, _, -, -, -, hobs, -, rfl⟩, _, -, _, -, rfl,
    rfl⟩, _, -, -, rfl⟩ := h
  obtain rfl := hfor.measurementContext hcontext
  exact ⟨hobs, rfl⟩

/-- Installing a measured floor later does nothing, or moves the floor to what is still admissible of it. -/
theorem installFinalizedBindingFateFloor_eq_ok {measuredFloor : DeliverySeq}
    (h : owner.installFinalizedBindingFateFloor measuredFloor = .ok owner') : owner' = owner ∨ ∃ floor,
      admissibleInstalledFloor measuredFloor owner.frontiers.retainedFloor
        owner.lowestRetainedMarkerSeq owner.frontiers.high = .install floor ∧
      owner.Floored owner' owner.frontiers.activeIdentities floor := by
  simp only [installFinalizedBindingFateFloor, ok_iff] at h
  obtain ⟨hkeyed, h⟩ := h
  split at h
  · simp only [pure_eq_ok] at h
    exact Or.inl h.symm
  · rename_i floor hinstall
    simp only [ok_iff, ClaimFrontiers.installFinalizedBindingFateFloor] at h
    obtain ⟨accounting, hacct, frontiers, ⟨_, hfloor, rfl⟩, rfl⟩ := h
    exact Or.inr ⟨floor, hinstall, {
      keyed := hkeyed
      admissible := hfloor
      claimants := ⟨rfl, rfl⟩
      seated := fun p hp => Or.inl hp
      frontiers := rfl
      charges := rfl
      accounting := hacct
      limit := rfl }⟩

theorem le_lowestRetainedMarkerSeq : (∀ marker ∈ owner.lowestRetainedMarkerSeq, floor ≤ marker) ↔
      ∀ record ∈ owner.frontiers.markerRecords, floor ≤ record.deliverySeq := by
  constructor
  · intro h record hrecord
    have hmem : record.deliverySeq ∈ owner.frontiers.markerRecords.map RetainedCausalRecord.deliverySeq :=
      mem_map_of_mem hrecord
    obtain ⟨lowest, hlowest⟩ := Option.isSome_iff_exists.mp (isSome_min?_of_ne_nil (ne_nil_of_mem hmem))
    exact (h lowest hlowest).trans ((min?_eq_some_iff.mp hlowest).2 _ hmem)
  · intro h marker hmarker
    obtain ⟨record, hrecord, rfl⟩ := mem_map.mp (min?_eq_some_iff.mp hmarker).1
    exact h record hrecord

/-- A floor that was installed together with new cursors can as well be installed alone, and from any
measurement it is the admissible part of. -/
theorem Floored.installFinalized {measuredFloor : Nat} (h : owner.Floored owner' active floor)
    (hinstall : admissibleInstalledFloor measuredFloor owner.frontiers.retainedFloor
      owner.lowestRetainedMarkerSeq owner.frontiers.high = .install floor) :
    owner.installFinalizedBindingFateFloor measuredFloor = .ok { owner' with
      frontiers := { owner'.frontiers with activeIdentities := owner.frontiers.activeIdentities } } := by
  simp only [installFinalizedBindingFateFloor, ok_iff, hinstall, ClaimFrontiers.installFinalizedBindingFateFloor]
  refine ⟨h.keyed, owner'.closureAccounting, h.accounting, _, ⟨(), h.admissible, rfl⟩, ?_⟩
  rw [h.frontiers, ← h.charges, ← h.limit]
  rfl

theorem Floored.admissibleInstalledFloor (h : owner.Floored owner' active floor) :
    admissibleInstalledFloor floor owner.frontiers.retainedFloor owner.lowestRetainedMarkerSeq
      owner.frontiers.high = .install floor := by
  obtain ⟨hfloor, hend, hmarkers⟩ := checkFateFloor_eq_ok.mp h.admissible
  exact admissibleInstalledFloor_of_le hfloor hend (le_lowestRetainedMarkerSeq.mpr hmarkers)

end LiveFrontierOwner

end Liminal
