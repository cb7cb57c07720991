import Liminal.Lifecycle.Operations.Steps

/-!
# Two routes of a terminal

The terminal of a binding is committed at once, or pended and drained later. The routes rebuild the
lanes with different code; with nothing in between both end at the same owner. The pend needs one
more position: it keeps the reserve of the terminal, and the layout names the position behind the
last one.

On either route the fate of a death installs the same floor; only the immediate one moves the cursor
of the dead participant.
-/

namespace Liminal

open Checked Fallible ClaimFrontiers ActiveIdentityRanks

namespace LiveFrontierOwner

variable {owner : LiveFrontierOwner} {charge : RetainedRecordCharge} {committed drained : LiveFrontierOwner}
  {binding : ActiveBinding} {admissionOrder : AdmissionOrder} {deliverySeq : DeliverySeq}
  {pending : PendingFinalization} {major : TransactionOrder} {observer : DeliverySeq}

structure CommitsTerminal (owner committed : LiveFrontierOwner) (binding : ActiveBinding)
    (admissionOrder : AdmissionOrder) (charge : RetainedRecordCharge) (current : FrontierParticipant)
    (active : ActiveIdentityRanks) (sequenceLedger : SequenceLedger) (orderLedger : OrderLedger)
    (closureAccounting : ClosureAccounting) : Prop where
  free : owner.frontiers.liveTransitionBlocked = false
  found : owner.frontiers.activeIdentities.find? binding.participantId = some current
  bound : current.binding = .bound binding.bindingEpoch
  participants : active.participants = replaceParticipant owner.frontiers.activeIdentities.participants
    ⟨binding.participantId, current.cursor, .detached binding.bindingEpoch⟩
  count : active.participants.length ≤ owner.frontiers.identitySlotLimit
  seated : ∀ p ∈ active.participants, ActiveIdentityRanks.Admissible (owner.frontiers.high + 1)
    owner.frontiers.identitySlotLimit p
  sequence : detachSequence owner.frontiers.sequence.ledger (owner.frontiers.high + 1) = some sequenceLedger
  order : detachOrder owner.frontiers.order.ledger admissionOrder.transactionOrder = some orderLedger
  matched : ledgersMatch active active.terminalOwners.length sequenceLedger orderLedger
  sequenceFits : sequenceLedger.highWatermark + sequenceLedger.requiredReserve + 1 ≤ u64Max
  orderFits : orderLedger.high.next + orderLedger.claims.total ≤ u64Max
  charged : charge.deliverySeq = owner.frontiers.high + 1 ∧ charge.admissionOrder = admissionOrder ∧
    charge.encodedCharge.entries = 1
  limit : owner.frontiers.retainedRecords.length + 1 ≤ owner.retainedRecordLimit
  accounting : owner.closureAccounting.accountingAfterRows [charge] = some closureAccounting
  result : committed = { owner with
    frontiers := { owner.frontiers with
      activeIdentities := active
      retainedRecords := owner.frontiers.retainedRecords ++
        [terminalRow binding admissionOrder (owner.frontiers.high + 1)]
      sequence := sequenceLayout active active.terminalOwners [] sequenceLedger
      order := orderLaneLayout active [] orderLedger }
    closureAccounting
    retainedCharges := owner.retainedCharges ++ [charge] }

theorem appendedChargesKeyed_singleton :
    appendedChargesKeyed [row] [charge] ↔ charge.deliverySeq = row.deliverySeq ∧
      charge.admissionOrder = row.admissionOrder ∧ charge.encodedCharge.entries = 1 := by
  simp only [appendedChargesKeyed, chargesKeyed, chargeKeyed, List.zip_cons_cons, List.zip_nil_left,
    List.length_singleton, List.mem_singleton, forall_eq, true_and, and_assoc,
    eq_comm (a := charge.deliverySeq), eq_comm (a := charge.admissionOrder)]

theorem commitsTerminal :
    owner.commitBindingTerminalCandidate binding admissionOrder deliverySeq charge = .ok committed ↔
      deliverySeq = owner.frontiers.high + 1 ∧ ∃ current active sequence order closureAccounting,
        owner.CommitsTerminal committed binding admissionOrder charge current active sequence order
          closureAccounting := by
  rw [commitBindingTerminalCandidate_eq_ok]
  constructor
  · rintro ⟨current, hfound, hbound, sequence, order, hseq, horder, htrans⟩
    obtain ⟨hkeyed, hlimit, accounting, hacct, frontiers, hfronts, rfl⟩ :=
      transition_eq_ok.mp htrans
    obtain ⟨hfree, active, hparts, hcount, hseated, hplaces, hmatched, ⟨hsequenceFits,
      horderFits⟩, rfl⟩ := applyLiveTransition_eq_ok.mp hfronts
    have hplace : deliverySeq = owner.frontiers.high + 1 := by
      simpa [terminalRow] using hplaces.2.1
    subst hplace
    obtain ⟨-, hhigh, -⟩ := detachSequence_eq_some.mp hseq
    rw [hhigh] at hseated
    refine ⟨rfl, current, active, sequence, order, accounting, ?_⟩
    exact {
      free := hfree
      found := hfound
      bound := hbound
      participants := hparts
      count := hcount
      seated := hseated
      sequence := hseq
      order := horder
      matched := hmatched
      sequenceFits := hsequenceFits
      orderFits := horderFits
      charged := appendedChargesKeyed_singleton.mp hkeyed
      limit := hlimit
      accounting := hacct
      result := rfl }
  · rintro ⟨rfl, current, active, sequence, order, accounting, h⟩
    obtain ⟨-, hhigh, -⟩ := detachSequence_eq_some.mp h.sequence
    refine ⟨current, h.found, h.bound, sequence, order, h.sequence, h.order,
      transition_eq_ok.mpr ⟨appendedChargesKeyed_singleton.mpr h.charged, h.limit, accounting,
        h.accounting, _, applyLiveTransition_eq_ok.mpr ⟨h.free, active, h.participants,
          h.count, ?_, ?_, h.matched, ⟨h.sequenceFits, h.orderFits⟩, rfl⟩, h.result.symm⟩⟩
    · rw [hhigh]
      exact h.seated
    · have hfits := h.sequenceFits
      rw [hhigh] at hfits
      refine ⟨Nat.le_of_add_right_le (Nat.le_of_succ_le hfits), rfl, fun record hrecord => ?_⟩
      obtain rfl := Option.some.inj hrecord
      exact hhigh.symm

theorem pend_room (h : owner.pendBindingTerminalCandidate binding admissionOrder deliverySeq = .ok pended) :
    owner.frontiers.high + owner.frontiers.sequence.ledger.requiredReserve < u64Max := by
  obtain ⟨_, -, frontiers, hfronts, -⟩ := pendBindingTerminalCandidate_eq_ok.mp h
  obtain ⟨-, _, -, -, _, -, -, -, -, -, -, -, -, ⟨hfits, -⟩, -⟩ := applyPendingBindingTerminal_eq_ok.mp hfronts
  exact hfits

/-- With that position, a terminal that can be committed can be pended and drained, and ends where the commit
ends. -/
theorem CommitsTerminal.pend_drain {accounting : ClosureAccounting}
    (h : owner.CommitsTerminal committed binding (.bindingTerminal major binding.participantId) charge
      current active sequenceLedger orderLedger accounting) (hseated : owner.frontiers.Seated)
    (hpending : pending.identity = .fromActive binding major)
    (hroom : owner.frontiers.high + owner.frontiers.sequence.ledger.requiredReserve < u64Max) :
    ∃ pended, owner.pendBindingTerminalCandidate binding
        (.bindingTerminal major binding.participantId) (owner.frontiers.high + 1) = .ok pended ∧
      pended.drainPendingTerminal pending charge = .ok (committed, owner.frontiers.high + 1) := by
  obtain ⟨hterms, hhigh, hclaims⟩ := detachSequence_eq_some.mp h.sequence
  obtain ⟨-, hmajor, horderHigh, -⟩ := detachOrder_eq_some.mp h.order
  obtain ⟨hseq, horder, hentries⟩ := h.charged
  have hnext : owner.frontiers.high + 1 ≤ u64Max := by
    have hfits := h.sequenceFits
    rw [hhigh] at hfits
    exact Nat.le_of_add_right_le (Nat.le_of_succ_le hfits)
  -- the ledger the pend keeps still counts the terminal it has pended
  have hmatched : ledgersMatch active (active.terminalOwners.length + 1)
      owner.frontiers.sequence.ledger orderLedger := by
    refine ⟨?_, h.matched.2⟩
    have hcounted := h.matched.1
    rw [hclaims, SequenceClaims.mk.injEq] at hcounted
    obtain ⟨hlive, hterm, hmarkers, hreserve⟩ := hcounted
    rw [← hlive, ← hterm, ← hmarkers, ← hreserve, Nat.sub_add_cancel hterms]
  refine ⟨_, pendBindingTerminalCandidate_eq_ok.mpr ⟨orderLedger, h.order, _,
    applyPendingBindingTerminal_eq_ok.mpr ⟨h.free, current, h.found, h.bound, active,
      h.participants, h.count, ?_, rfl, rfl, horderHigh, rfl, hmatched, ⟨hroom, h.orderFits⟩, rfl⟩,
      rfl⟩, drainPendingTerminal_eq_ok.mpr ⟨hnext, hseq, ?_, hentries, accounting, h.accounting, _, _,
        drainFirstBindingTerminal_eq_ok.mpr ⟨?_, rfl, sequenceLedger, hterms, hhigh,
          hclaims, h.count, h.seated, h.matched, ⟨h.sequenceFits, h.orderFits⟩, rfl⟩, ?_, rfl⟩⟩
  · intro p hp
    rw [h.participants] at hp
    rcases mem_replaceParticipant hp with rfl | ⟨hold, -⟩
    · obtain ⟨hmem, hindex⟩ := find?_eq_some.mp h.found
      exact hindex ▸ hseated.admissible current hmem
    · exact hseated.admissible p hold
  · rw [hpending]
    exact horder
  · rw [hpending]
    refine validateFirstTerminalCandidate_eq_ok.mpr ⟨⟨rfl, rfl⟩, rfl, hnext, rfl, ?_, decide_eq_true rfl, ?_⟩
    · change major < orderLedger.high.next
      rw [horderHigh]
      exact Nat.lt_succ_self major
    · refine ⟨⟨binding.participantId, current.cursor, .detached binding.bindingEpoch⟩, ?_, rfl, rfl⟩
      change _ ∈ active.participants
      rw [h.participants]
      obtain ⟨hmem, hindex⟩ := find?_eq_some.mp h.found
      exact mem_replaceParticipant_of_mem hmem hindex
  · rw [hpending, h.result]
    rfl

/-- Where a terminal is committed at once, pending and draining it is possible exactly if one position is left
above the reserve, and leads to the same owner. -/
theorem pend_drain_eq_commit (hseated : owner.frontiers.Seated)
    (hpending : pending.identity = .fromActive binding major) (hcommit : owner.commitBindingTerminalCandidate binding
      (.bindingTerminal major binding.participantId) deliverySeq charge = .ok committed) :
    (∃ pended, owner.pendBindingTerminalCandidate binding
        (.bindingTerminal major binding.participantId) deliverySeq = .ok pended ∧
      pended.drainPendingTerminal pending charge = .ok (committed, deliverySeq)) ↔
    owner.frontiers.high + owner.frontiers.sequence.ledger.requiredReserve < u64Max := by
  obtain ⟨rfl, current, active, sequenceLedger, orderLedger, accounting, h⟩ := commitsTerminal.mp hcommit
  constructor
  · rintro ⟨pended, hpend, -⟩
    exact pend_room hpend
  · exact h.pend_drain hseated hpending

/-! ### The fate behind a terminal -/

/-- The observer is not ahead of the log, so the position the drain adds makes no difference to the floor. -/
theorem measuredFloor_drained (h : owner.drainPendingTerminal pending charge = .ok (drained, deliverySeq))
    (hobs : observer ≤ owner.frontiers.high) (participant : ParticipantId) :
    drained.measuredFloor participant observer = owner.measuredFloor participant observer := by
  obtain ⟨-, -, -, -, accounting, -, frontiers, record, hfronts, rfl, -⟩ := drainPendingTerminal_eq_ok.mp h
  obtain ⟨-, -, ledger, -, hhigh, -, -, -, -, -, rfl⟩ :=
    drainFirstBindingTerminal_eq_ok.mp hfronts
  simp only [measuredFloor, floorTransition_resultingFloor]
  change markerClampedFloor (max (max _ (min ((owner.minimumRemainingCursor participant).getD
    ledger.highWatermark) observer + 1)) _) owner.lowestRetainedMarkerSeq = _
  rw [hhigh]
  cases owner.minimumRemainingCursor participant with
  | none =>
    rw [Option.getD_none, Option.getD_none, Nat.min_eq_right hobs, Nat.min_eq_right (Nat.le_succ_of_le hobs)]
  | some cursor => rfl

section

variable (owner : LiveFrontierOwner) (binding : ActiveBinding) (major : TransactionOrder)
  (deliverySeq observer : DeliverySeq)

variable (charge : RetainedRecordCharge) (token : SealedBindingFateToken) (died : CommittedDiedTerminal)

def commitAndFate : Option LiveFrontierOwner := do
  let committed ← (owner.commitBindingTerminalCandidate binding
    (.bindingTerminal major binding.participantId) deliverySeq charge).toOption
  let (fated, _) ← (committed.prepareBindingFate token (.ordinary died) observer).toOption
  return fated

/-- The deferred death: the terminal is pended and its fate measured; once it is drained, the floor is installed. -/
def pendAndFinalize (pending : PendingFinalization) : Option LiveFrontierOwner := do
  let pended ← (owner.pendBindingTerminalCandidate binding
    (.bindingTerminal major binding.participantId) deliverySeq).toOption
  let (_, finalizer) ← (pended.preparePendingDiedOrdinaryFinalizer token died observer).toOption
  let (drained, _) ← (pended.drainPendingTerminal pending charge).toOption
  (drained.completePendingDiedOrdinaryFinalizer finalizer).toOption

end

/-- The two owners differ in the cursor of the dead participant: the immediate fate puts it at the
terminal's position, the deferred one leaves it. -/
theorem deferred_fate_eq_immediate {immediate deferred : LiveFrontierOwner} {token : SealedBindingFateToken}
    {died : CommittedDiedTerminal} (hseated : owner.frontiers.Seated) (hfor : token.OrdinaryFor binding.participantId)
    (hpending : pending.identity = .fromActive binding major)
    (himmediate : owner.commitAndFate binding major deliverySeq observer charge token died = some immediate)
    (hdeferred : owner.pendAndFinalize binding major deliverySeq observer charge token died pending = some deferred) :
    ∃ current, owner.frontiers.activeIdentities.find? binding.participantId = some current ∧
      deferred.frontiers.activeIdentities.find? binding.participantId =
        some ⟨binding.participantId, current.cursor, .detached binding.bindingEpoch⟩ ∧
      immediate = deferred.withCursor ⟨binding.participantId, current.cursor, .detached binding.bindingEpoch⟩
        (owner.frontiers.high + 1) deferred.closureAccounting ∧ immediate ≠ deferred := by
  simp only [commitAndFate, some_iff, Prod.exists] at himmediate
  simp only [pendAndFinalize, some_iff, Prod.exists] at hdeferred
  obtain ⟨committed, hcommit, immediate, _, hfate, rfl⟩ := himmediate
  obtain ⟨pended, hpend, _, finalizer, hmeasure, drained, _, hdrain, hcomplete⟩ := hdeferred
  obtain ⟨rfl, current, active, sequenceLedger, orderLedger, accounting, h⟩ := commitsTerminal.mp hcommit
  -- both routes are at the same owner before the floor
  obtain ⟨pended', hpend', hdrain'⟩ := h.pend_drain hseated hpending (pend_room hpend)
  rw [hpend', Except.ok.injEq] at hpend
  subst hpend
  rw [hdrain', Except.ok.injEq, Prod.mk.injEq] at hdrain
  obtain ⟨rfl, -⟩ := hdrain
  obtain ⟨hobserver, hfloor⟩ := preparePendingDiedOrdinaryFinalizer_eq_ok hfor hmeasure
  have hmeasured := measuredFloor_drained hdrain' hobserver binding.participantId
  obtain ⟨dead, epoch, hdead, hdetached, -, -, hfloored⟩ := prepareBindingFate_ordinary hfor hfate
  have hinstalled := hfloored.installFinalized hfloored.admissibleInstalledFloor
  rw [hmeasured, ← hfloor] at hinstalled
  obtain rfl := Except.ok.inj (hinstalled.symm.trans hcomplete)
  obtain ⟨hmem, hindex⟩ := find?_eq_some.mp h.found
  have hactive : committed.frontiers.activeIdentities = active := by
    rw [h.result]
  have hfound : committed.frontiers.activeIdentities.find? binding.participantId =
      some ⟨binding.participantId, current.cursor, .detached binding.bindingEpoch⟩ := by
    refine find?_eq_some.mpr ⟨?_, rfl⟩
    rw [hactive, h.participants]
    exact mem_replaceParticipant_of_mem hmem hindex
  rw [hfound, Option.some.injEq] at hdead
  subst hdead
  obtain rfl := FrontierBinding.detached.inj hdetached
  have hhigh : committed.frontiers.high = owner.frontiers.high + 1 := by
    rw [h.result]
    exact (detachSequence_eq_some.mp h.sequence).2.1
  have hmoved : immediate.frontiers.activeIdentities = committed.frontiers.activeIdentities.replace
      ⟨binding.participantId, owner.frontiers.high + 1, .detached binding.bindingEpoch⟩ := by
    rw [hfloored.frontiers, ← hhigh]
    rfl
  refine ⟨current, h.found, hfound, ?_, ?_⟩
  · rw [withCursor, ← hmoved]
  · intro heq
    have hsame : immediate.frontiers.activeIdentities = committed.frontiers.activeIdentities :=
      congrArg (fun o => o.frontiers.activeIdentities) heq
    have hcursor : (⟨binding.participantId, owner.frontiers.high + 1, .detached binding.bindingEpoch⟩ :
        FrontierParticipant) ∈ committed.frontiers.activeIdentities.participants := by
      rw [← hsame, hmoved]
      exact mem_replaceParticipant_of_mem (find?_eq_some.mp hfound).1 rfl
    have hunique := find?_eq_some.mpr ⟨hcursor, rfl⟩
    rw [hfound, Option.some.injEq, FrontierParticipant.mk.injEq] at hunique
    have hbelow := (hseated.admissible current hmem).2
    rw [hunique.2.1] at hbelow
    exact Nat.not_succ_le_self _ hbelow

/-! ### An owner with one member -/

variable (high : DeliverySeq)

section

variable (fits : high + 3 ≤ u64Max)

/-- One bound member whose attach is the only retained row, at position `high`. -/
def lone : LiveFrontierOwner :=
  let epoch : BindingEpoch := ⟨⟨0, 0⟩, 1⟩
  let active : ActiveIdentityRanks := ⟨[⟨0, 0, .bound epoch⟩], by decide⟩
  let admissionOrder : AdmissionOrder := ⟨0, .attachLifecycle, 0⟩
  { frontiers := {
      conversationId := 0
      activeIdentities := active
      identitySlotLimit := 1
      retainedFloor := high
      retainedRecords := [⟨high, admissionOrder, .attachLifecycle 0 epoch⟩]
      markerRecords := []
      fencedMarkerIssued := none
      sequence := sequenceLayout active active.terminalOwners [] ⟨high, ⟨1, 1, 0, .none⟩, fits⟩
      order := orderLaneLayout active [] ⟨.allocated 0, ⟨1, 1, false, false, rfl⟩, by decide⟩ }
    closureAccounting := ⟨{
      state := .clear
      markerCapacityCredits := 0
      markerAnchors := 0
      edgeSequenceClaims := 0
      edgeOrderPositionClaims := 0
      edgeKRemaining := ⟨0, 0⟩
      baseline := ⟨2, 2⟩
      configuredCap := ⟨10, 10⟩
      episodeChurnUsed := 0
      episodeChurnLimit := 2 }, by decide⟩
    retainedCharges := [⟨high, admissionOrder, ⟨1, 1⟩⟩]
    retainedRecordLimit := 10 }

theorem lone_laidOut : (lone high fits).frontiers.LaidOut where
  sequenceRecovery := rfl
  orderRecovery := rfl
  replacement := rfl
  movable := rfl
  terminalProducts := rfl
  exitProducts := Or.inl rfl
  orderMovable := rfl
  sequenceClaims := rfl
  activeBindingTerminals := rfl
  membershipExits := rfl
  recoveryOperation := rfl
  candidatePositions := rfl
  candidateShape := .nil
  candidatesPaired := Or.inl ⟨rfl, rfl⟩

theorem lone_seated : (lone high fits).frontiers.Seated where
  count := Nat.le_refl 1
  admissible := by
    rintro _ (_ | ⟨_, ⟨⟩⟩)
    exact ⟨Nat.zero_lt_one, Nat.zero_le _⟩

end

def loneBinding : ActiveBinding := ⟨0, 0, ⟨⟨0, 0⟩, 1⟩⟩

def loneCharge : RetainedRecordCharge := ⟨high + 1, .bindingTerminal 1 0, ⟨1, 1⟩⟩

theorem pend_drain_eq_commit_lone : ∃ committed pended,
    (lone 1 (by decide)).commitBindingTerminalCandidate loneBinding (.bindingTerminal 1 0) 2
      (loneCharge 1) = .ok committed ∧
    (lone 1 (by decide)).pendBindingTerminalCandidate loneBinding (.bindingTerminal 1 0) 2 = .ok pended ∧
    pended.drainPendingTerminal (loneBinding.pendTerminal (.died .connectionLost) 1) (loneCharge 1) =
      .ok (committed, 2) := by
  obtain ⟨committed, hcommit⟩ : ∃ committed, (lone 1 (by decide)).commitBindingTerminalCandidate
      loneBinding (.bindingTerminal 1 0) 2 (loneCharge 1) = .ok committed := ⟨_, rfl⟩
  have hpending : (loneBinding.pendTerminal (.died .connectionLost) 1).identity = .fromActive loneBinding 1 := rfl
  obtain ⟨pended, hpend, hdrain⟩ :=
    (pend_drain_eq_commit (lone_seated 1 (by decide)) hpending hcommit).mpr (by decide)
  exact ⟨committed, pended, hcommit, hpend, hdrain⟩

def loneToken : SealedBindingFateToken := ⟨some ⟨loneBinding, 0⟩, none, 0⟩

def loneDied : CommittedDiedTerminal := ⟨.fromActive loneBinding 1, .connectionLost, 2⟩

theorem deferred_fate_eq_immediate_lone : ∃ immediate deferred,
    (lone 1 (by decide)).commitAndFate loneBinding 1 2 1 (loneCharge 1) loneToken loneDied = some immediate ∧
    (lone 1 (by decide)).pendAndFinalize loneBinding 1 2 1 (loneCharge 1) loneToken loneDied
      (loneBinding.pendTerminal (.died .connectionLost) 1) = some deferred ∧
    immediate = deferred.withCursor ⟨0, 0, .detached ⟨⟨0, 0⟩, 1⟩⟩ 2 deferred.closureAccounting := by
  obtain ⟨immediate, himmediate⟩ : ∃ immediate, (lone 1 (by decide)).commitAndFate loneBinding 1 2 1
      (loneCharge 1) loneToken loneDied = some immediate := ⟨_, rfl⟩
  obtain ⟨deferred, hdeferred⟩ : ∃ deferred, (lone 1 (by decide)).pendAndFinalize loneBinding 1 2 1
      (loneCharge 1) loneToken loneDied (loneBinding.pendTerminal (.died .connectionLost) 1) =
        some deferred := ⟨_, rfl⟩
  have hfor : loneToken.OrdinaryFor loneBinding.participantId := ⟨rfl, _, rfl, rfl⟩
  have hpending : (loneBinding.pendTerminal (.died .connectionLost) 1).identity = .fromActive loneBinding 1 := rfl
  obtain ⟨current, hcurrent, -, hmoved, -⟩ :=
    deferred_fate_eq_immediate (lone_seated 1 (by decide)) hfor hpending himmediate hdeferred
  exact ⟨immediate, deferred, himmediate, hdeferred, hmoved⟩

/-- The dead member has acknowledged nothing. The immediate fate leaves its cursor at two, the deferred one at
zero. -/
theorem deferred_fate_ne_immediate_lone :
    (lone 1 (by decide)).frontiers.LaidOut ∧ (lone 1 (by decide)).frontiers.Seated ∧
    ((lone 1 (by decide)).commitAndFate loneBinding 1 2 1 (loneCharge 1) loneToken loneDied).map
      (fun owner => owner.frontiers.activeIdentities.participants) = some [⟨0, 2, .detached ⟨⟨0, 0⟩, 1⟩⟩] ∧
    ((lone 1 (by decide)).pendAndFinalize loneBinding 1 2 1 (loneCharge 1) loneToken loneDied
      (loneBinding.pendTerminal (.died .connectionLost) 1)).map
      (fun owner => owner.frontiers.activeIdentities.participants) = some [⟨0, 0, .detached ⟨⟨0, 0⟩, 1⟩⟩] :=
  ⟨lone_laidOut _ _, lone_seated _ _, by decide, by decide⟩

/-- With the reserve up to the last position a terminal is committed, but it cannot be pended. -/
theorem pend_refused_lone : (lone (u64Max - 3) (by decide)).frontiers.LaidOut ∧
    (lone (u64Max - 3) (by decide)).frontiers.Seated ∧
    (∃ committed, (lone (u64Max - 3) (by decide)).commitBindingTerminalCandidate loneBinding
      (.bindingTerminal 1 0) (u64Max - 2) (loneCharge (u64Max - 3)) = .ok committed) ∧
    (lone (u64Max - 3) (by decide)).pendBindingTerminalCandidate loneBinding (.bindingTerminal 1 0)
      (u64Max - 2) = .error .frontier :=
  ⟨lone_laidOut _ _, lone_seated _ _, ⟨_, rfl⟩, by decide⟩

end LiveFrontierOwner

end Liminal
