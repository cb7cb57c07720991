import Liminal.Conversation.Baseline
import Liminal.Lifecycle.Operations.TerminalRoutes

/-!
# Deaths and their terminals

The end of a binding cannot be undone, so its terminal ought to find its place. The positions are
reserved; capacity is not: a terminal is charged against the cap like any other row, when committed
and when drained, and a conversation at the cap refuses it. Pending needs no capacity but one more
position than was reserved.
-/

namespace Liminal

open Checked Fallible ClaimFrontiers ActiveIdentityRanks LiveFrontierOwner PreparedBindingTerminal
open List
open ClosureAccounting SequenceClaims

/-! ### Room for one more row -/

namespace LiveFrontierOwner

def HasRoom (owner : LiveFrontierOwner) (charge : RetainedRecordCharge) : Prop :=
  (owner.closureAccounting.baseline + charge.encodedCharge.widen).Fits owner.closureAccounting.configuredCap

instance (owner : LiveFrontierOwner) (charge : RetainedRecordCharge) : Decidable (owner.HasRoom charge) :=
  inferInstanceAs (Decidable (WideResourceVector.Fits _ _))

def OrderRoom (f : ClaimFrontiers) : Prop :=
  f.order.ledger.high.next + f.order.ledger.claims.total ≤ u64Max

instance (f : ClaimFrontiers) : Decidable (OrderRoom f) := inferInstanceAs (Decidable (_ ≤ _))

def SequenceRoom (f : ClaimFrontiers) : Prop := f.high + f.sequence.ledger.requiredReserve < u64Max

instance (f : ClaimFrontiers) : Decidable (SequenceRoom f) := inferInstanceAs (Decidable (_ < _))

variable {owner owner' : LiveFrontierOwner} {limits : OrdinaryProjectionLimits}
  {charge : RetainedRecordCharge} {pending : PendingFinalization} {slot : ParticipantSlot} {observer : DeliverySeq}

theorem Accounted.accountingAfterRows_iff (h : owner.Accounted limits) (charge : RetainedRecordCharge) :
    (∃ accounting, owner.closureAccounting.accountingAfterRows [charge] = some accounting) ↔ owner.HasRoom charge := by
  have htotal : chargeTotal [charge] = charge.encodedCharge.widen := by
    rw [chargeTotal_cons, chargeTotal_nil, WideResourceVector.add_zero]
  constructor
  · rintro ⟨accounting, hacct⟩
    have hcounters := accountingAfterRows_eq_some hacct
    have hfits := accounting.facts.2.1
    rw [hcounters, htotal] at hfits
    exact hfits
  · intro hroom
    obtain ⟨accounting, hacct, -⟩ := tryNew_of_baseline hroom
    refine ⟨accounting, ?_⟩
    have hfits : (owner.closureAccounting.baseline + chargeTotal [charge]).Fits
        owner.closureAccounting.configuredCap := by
      exact hroom
    have hadded := addCharges_of_fits h.cap.1 h.cap.2 hfits
    simp only [accountingAfterRows, accountingAfterRowsWithState,
      Option.bind_eq_bind, hadded, htotal, Option.bind_some, toOption_eq_some]
    exact hacct

end LiveFrontierOwner

/-! ### Ledgers without a terminal -/

theorem SequenceClaims.requiredReserve_terminal {claims : SequenceClaims} (h : 1 ≤ claims.bindingTerminals) :
    requiredReserve { claims with bindingTerminals := claims.bindingTerminals - 1 } + 1 +
      claims.liveMembers = claims.requiredReserve := by
  obtain ⟨live, terminals, markers, recovery⟩ := claims
  obtain ⟨terminals, rfl⟩ := Nat.exists_eq_succ_of_ne_zero (Nat.one_le_iff_ne_zero.mp h)
  simp only [requiredReserve_eq, Nat.succ_eq_add_one, Nat.add_sub_cancel, Nat.mul_add, Nat.mul_one]
  omega

theorem OrderClaims.total_terminal {claims : OrderClaims} (h : 1 ≤ claims.activeBindingTerminals) :
    (claims.withCounts (claims.activeBindingTerminals - 1) claims.membershipExits).total + 1 = claims.total := by
  simp only [total, withCounts]
  omega

theorem ActiveIdentityRanks.replace_terminalOwners_length {active : ActiveIdentityRanks}
    (hfind : active.find? detached.participantIndex = some current)
    (hbound : current.binding = .bound epoch) (hdet : detached.terminalOwner? = none) :
    (active.replace detached).terminalOwners.length + 1 = active.terminalOwners.length := by
  have hleaves : active.Leaves detached.participantIndex (some epoch) := by
    refine ⟨current, hfind, ?_⟩
    rw [FrontierParticipant.terminalOwner?, hbound, (find?_eq_some.mp hfind).2]
    rfl
  have hremoved : (active.replace detached).terminalOwners =
      (active.remove detached.participantIndex).terminalOwners := by
    simp only [terminalOwners, replace, replaceParticipant, remove, filterMap_map, filterMap_filter]
    refine filterMap_congr fun p _ => ?_
    by_cases hindex : p.participantIndex = detached.participantIndex <;> simp [hindex, hdet]
  rw [hremoved]
  exact hleaves.remove_terminalOwners_length

namespace ClaimFrontiers

variable {f : ClaimFrontiers}

/-- Every live member has a position reserved, so the next one exists. -/
theorem LaidOut.next_le (h : f.LaidOut)
    (hp : p ∈ f.activeIdentities.participants) : f.high + 1 ≤ u64Max := by
  have hfits := f.sequence.ledger.fits
  have hlive : 1 ≤ f.activeIdentities.live := length_pos_of_mem hp
  rw [h.sequenceClaims, requiredReserve_eq] at hfits
  simp only at hfits
  change f.sequence.ledger.highWatermark + 1 ≤ u64Max
  omega

end ClaimFrontiers

/-! ### Committing and pending -/

namespace LiveFrontierOwner

variable {owner : LiveFrontierOwner} {limits : OrdinaryProjectionLimits} {binding : ActiveBinding}
  {current : FrontierParticipant}

def ended (owner : LiveFrontierOwner) (binding : ActiveBinding) (current : FrontierParticipant) : ActiveIdentityRanks :=
  owner.frontiers.activeIdentities.replace ⟨binding.participantId, current.cursor, .detached binding.bindingEpoch⟩

section

variable (hlaid : owner.frontiers.LaidOut) (hfree : owner.frontiers.sequence.immutableCandidates = [])
  (hfind : owner.frontiers.activeIdentities.find? binding.participantId = some current)
  (hbound : current.binding = .bound binding.bindingEpoch)

include hlaid hfree hfind hbound

theorem ended_counts : (owner.ended binding current).terminalOwners.length + 1 =
        owner.frontiers.activeIdentities.terminalOwners.length ∧
      owner.frontiers.sequence.ledger.claims = ⟨(owner.ended binding current).live,
        (owner.ended binding current).terminalOwners.length + 1, 0, .none⟩ := by
  have hcount : (owner.ended binding current).terminalOwners.length + 1 =
      owner.frontiers.activeIdentities.terminalOwners.length :=
    replace_terminalOwners_length hfind hbound rfl
  refine ⟨hcount, ?_⟩
  rw [hlaid.sequenceClaims, productOwners_of_nil hfree, hfree, hcount, ended, replace_live]
  rfl

theorem detachOrder_isSome : ∃ orderLedger, detachOrder owner.frontiers.order.ledger owner.frontiers.nextOrder =
        some orderLedger ∧ orderLedger.high = .allocated owner.frontiers.nextOrder ∧
      (orderLedger.claims.activeBindingTerminals = (owner.ended binding current).terminalOwners.length ∧
        orderLedger.claims.membershipExits = (owner.ended binding current).live ∧
        orderLedger.claims.recoveryOperation = false ∧ orderLedger.claims.recoveryReplacementTerminal = false) ∧
      (orderLedger.high.next + orderLedger.claims.total ≤ u64Max ↔ OrderRoom owner.frontiers) := by
  obtain ⟨hcount, -⟩ := ended_counts hlaid hfree hfind hbound
  have hclaims : owner.frontiers.order.ledger.claims.activeBindingTerminals =
      (owner.ended binding current).terminalOwners.length + 1 := by
    rw [hlaid.activeBindingTerminals, hcount]
  have hsome : 1 ≤ owner.frontiers.order.ledger.claims.activeBindingTerminals := by omega
  have htotal := OrderClaims.total_terminal hsome
  have hfits := owner.frontiers.order.ledger.fits
  let orderLedger : OrderLedger := {
    high := .allocated owner.frontiers.nextOrder
    claims := owner.frontiers.order.ledger.claims.withCounts
      (owner.frontiers.order.ledger.claims.activeBindingTerminals - 1)
      owner.frontiers.order.ledger.claims.membershipExits
    fits := by
      change owner.frontiers.order.ledger.high.next + 1 + _ ≤ _
      omega }
  refine ⟨orderLedger, detachOrder_eq_some.mpr ⟨hsome, rfl, rfl, rfl⟩, rfl, ⟨?_, ?_, ?_, ?_⟩, ?_⟩
  · change owner.frontiers.order.ledger.claims.activeBindingTerminals - 1 = _
    rw [hclaims, Nat.add_sub_cancel]
  · exact hlaid.membershipExits.trans (replace_live _ _).symm
  · exact hlaid.recoveryOperation
  · exact owner.frontiers.order.ledger.claims.paired.symm.trans hlaid.recoveryOperation
  · have hsum : orderLedger.high.next + orderLedger.claims.total =
        owner.frontiers.order.ledger.high.next + owner.frontiers.order.ledger.claims.total := by
      rw [← htotal, Nat.add_comm _ 1, ← Nat.add_assoc]
      rfl
    rw [hsum]
    rfl

end

theorem ended_seated {high} (hseated : owner.frontiers.Seated) (hle : owner.frontiers.high ≤ high)
    (hfind : owner.frontiers.activeIdentities.find? binding.participantId = some current) :
    (owner.ended binding current).participants.length ≤ owner.frontiers.identitySlotLimit ∧
      ∀ p ∈ (owner.ended binding current).participants, Admissible high owner.frontiers.identitySlotLimit p := by
  obtain ⟨hmem, hindex⟩ := find?_eq_some.mp hfind
  refine ⟨(replace_live _ _).trans_le hseated.count, fun p hp => ?_⟩
  rcases mem_replaceParticipant hp with rfl | ⟨hold, -⟩
  · exact hindex ▸ (hseated.admissible current hmem).mono hle
  · exact (hseated.admissible p hold).mono hle

variable {charge : RetainedRecordCharge}

/-- The position of a terminal and its products were reserved, so the rest fits above it. -/
theorem terminal_fits_above {f : ClaimFrontiers} (hterms : 1 ≤ f.sequence.ledger.claims.bindingTerminals)
    (hlive : 1 ≤ f.sequence.ledger.claims.liveMembers) :
    f.high + 1 + requiredReserve { f.sequence.ledger.claims with
      bindingTerminals := f.sequence.ledger.claims.bindingTerminals - 1 } + 1 ≤ u64Max := by
  have hreserve := requiredReserve_terminal hterms
  exact Nat.le_trans (by simp only [high]; omega) f.sequence.ledger.fits

theorem admitTerminal_pending {prepared : PreparedBindingTerminal}
    (h : prepared.admitTerminal charge = .pending pended blockedAtObserver) :
    prepared.owner.retainedRecordLimit ≤ prepared.owner.retainedCharges.length := by
  by_contra hlimit
  rw [admitTerminal] at h
  split at h
  · cases h
  · rw [if_pos (Nat.succ_le_of_lt (Nat.not_le.mp hlimit))] at h
    split at h <;> cases h

variable (hsound : owner.Sound) (hcounted : owner.Accounted limits) (hfree : owner.frontiers.liveTransitionBlocked =
  false) (hfind : owner.frontiers.activeIdentities.find? binding.participantId = some current)
  (hbound : current.binding = .bound binding.bindingEpoch)
  (hcharge : charge.deliverySeq = owner.frontiers.high + 1 ∧ charge.admissionOrder =
    .bindingTerminal owner.frontiers.nextOrder binding.participantId ∧ charge.encodedCharge.entries = 1)

include hsound hfree hfind hbound

include hcounted hcharge in
theorem commit_iff (hlimit : owner.frontiers.retainedRecords.length + 1 ≤ owner.retainedRecordLimit) :
    (∃ committed, owner.commitBindingTerminalCandidate binding
        (.bindingTerminal owner.frontiers.nextOrder binding.participantId) (owner.frontiers.high + 1)
        charge = .ok committed) ↔ OrderRoom owner.frontiers ∧ owner.HasRoom charge := by
  have hnil := (liveTransitionBlocked_eq_false.mp hfree).1
  obtain ⟨orderLedger, horder, -, hmatched, hroom⟩ :=
    detachOrder_isSome hsound.laidOut hnil hfind hbound
  obtain ⟨-, hclaims⟩ := ended_counts hsound.laidOut hnil hfind hbound
  have hterms : 1 ≤ owner.frontiers.sequence.ledger.claims.bindingTerminals := by
    rw [hclaims]
    exact Nat.succ_pos _
  have habove := terminal_fits_above hterms (by
    rw [hsound.laidOut.sequenceClaims]
    exact length_pos_of_mem (find?_eq_some.mp hfind).1)
  rw [← hroom, ← hcounted.accountingAfterRows_iff]
  constructor
  · rintro ⟨committed, hcommitted⟩
    obtain ⟨-, _, _, _, orderLedger', accounting, h⟩ := commitsTerminal.mp hcommitted
    have hsame : orderLedger' = orderLedger := Option.some.inj (h.order.symm.trans horder)
    exact ⟨hsame ▸ h.orderFits, accounting, h.accounting⟩
  · rintro ⟨horderFits, accounting, hacct⟩
    obtain ⟨hcount, hseated⟩ := ended_seated hsound.seated (Nat.le_succ _) hfind
    refine Exists.intro _ (commitsTerminal.mpr ⟨rfl, current, owner.ended binding current,
      ⟨owner.frontiers.high + 1, _, Nat.le_of_succ_le habove⟩, orderLedger, accounting, {
      free := hfree
      found := hfind
      bound := hbound
      participants := rfl
      count := hcount
      seated := hseated
      sequence := detachSequence_eq_some.mpr ⟨hterms, rfl, rfl⟩
      order := horder
      matched := by
        refine ⟨?_, hmatched⟩
        simp only [hclaims, Nat.add_sub_cancel]
      sequenceFits := habove
      orderFits := horderFits
      charged := hcharge
      limit := hlimit
      accounting := hacct
      result := rfl }⟩)

theorem pend_iff : (∃ pended, owner.pendBindingTerminalCandidate binding
        (.bindingTerminal owner.frontiers.nextOrder binding.participantId) (owner.frontiers.high + 1) =
          .ok pended) ↔ OrderRoom owner.frontiers ∧ SequenceRoom owner.frontiers := by
  have hnil := (liveTransitionBlocked_eq_false.mp hfree).1
  obtain ⟨orderLedger, horder, hhigh, hmatched, hroom⟩ :=
    detachOrder_isSome hsound.laidOut hnil hfind hbound
  obtain ⟨-, hclaims⟩ := ended_counts hsound.laidOut hnil hfind hbound
  rw [← hroom]
  constructor
  · rintro ⟨pended, hpended⟩
    obtain ⟨orderLedger', horder', frontiers, hfronts, -⟩ :=
      pendBindingTerminalCandidate_eq_ok.mp hpended
    obtain ⟨-, _, -, -, _, -, -, -, -, -, -, -, -, ⟨hseq, hfits⟩, -⟩ :=
      applyPendingBindingTerminal_eq_ok.mp hfronts
    have hsame : orderLedger' = orderLedger := Option.some.inj (horder'.symm.trans horder)
    exact ⟨hsame ▸ hfits, hseq⟩
  · rintro ⟨horderFits, hseq⟩
    obtain ⟨hcount, hseated⟩ := ended_seated hsound.seated (Nat.le_refl _) hfind
    exact ⟨_, pendBindingTerminalCandidate_eq_ok.mpr ⟨orderLedger, horder, _,
      applyPendingBindingTerminal_eq_ok.mpr ⟨hfree, current, hfind, hbound, owner.ended binding current, rfl, hcount,
        hseated, rfl, rfl, hhigh, rfl, ⟨hclaims, hmatched⟩, ⟨hseq, horderFits⟩, rfl⟩, rfl⟩⟩

include hcounted hcharge in
/-- A prepared terminal is accepted iff the majors have room, and so has the accounting of a committed row or
the positions of a pended one. -/
theorem admitTerminal_iff (hobs : observer ≤ owner.frontiers.high) : (∀ error, admitTerminal ⟨owner, ⟨binding,
        .bindingTerminal owner.frontiers.nextOrder binding.participantId, owner.frontiers.high + 1⟩,
        observer⟩ charge ≠ .refused error) ↔ OrderRoom owner.frontiers ∧
        if owner.retainedCharges.length < owner.retainedRecordLimit then owner.HasRoom charge
        else SequenceRoom owner.frontiers := by
  have hmatches : chargeMatches ⟨owner, ⟨binding,
      .bindingTerminal owner.frontiers.nextOrder binding.participantId, owner.frontiers.high + 1⟩,
      observer⟩ charge := hcharge
  rw [admitTerminal, if_neg (not_not_intro hmatches)]
  by_cases hlimit : owner.retainedCharges.length < owner.retainedRecordLimit
  · have hcommit := commit_iff hsound hcounted hfree hfind hbound hcharge (by rw [hsound.keyed.length_eq]; exact hlimit)
    rw [if_pos hlimit, if_pos (Nat.succ_le_of_lt hlimit), ← hcommit]
    split
    · rename_i committed hcommitted
      exact iff_of_true (fun _ hrefused => by cases hrefused) ⟨committed, hcommitted⟩
    · rename_i error herror
      refine iff_of_false (fun hnot => hnot _ rfl) ?_
      rintro ⟨committed, hcommitted⟩
      cases herror.symm.trans hcommitted
  · have hpend := pend_iff hsound hfree hfind hbound
    rw [if_neg hlimit, if_neg (fun hle => hlimit (Nat.lt_of_succ_le hle)), if_pos (Nat.lt_succ_of_le hobs), ← hpend]
    split
    · rename_i pended hpended
      exact iff_of_true (fun _ hrefused => by cases hrefused) ⟨pended, hpended⟩
    · rename_i error herror
      refine iff_of_false (fun hnot => hnot _ rfl) ?_
      rintro ⟨pended, hpended⟩
      cases herror.symm.trans hpended

end LiveFrontierOwner

/-! ### The death of a bound participant -/

namespace Conversation

variable {s : Conversation}

theorem Coupled.lookup_bound (h : s.Coupled) (hslot : slot ∈ s.slots) (hbound : slot.binding = .bound active) :
    active.conversationId = s.owner.frontiers.conversationId ∧ ∃ p,
      s.owner.frontiers.activeIdentities.find? active.participantId = some p ∧
      p.binding = .bound active.bindingEpoch := by
  obtain ⟨p, hfind, hagrees⟩ := h.agrees_of_mem hslot
  have howned := hagrees.owned
  simp only [ParticipantSlot.OwnsBinding, hbound] at howned
  rw [← howned.1] at hfind
  exact ⟨howned.2.trans hagrees.conversation, p, hfind, hagrees.bound hbound⟩

/-- Where nothing blocks a transition, the terminal of a bound participant can always be prepared. Whether it
is refused depends on the room that is left. -/
theorem death_accepted (h : conversationMachine.Reachable s) (hfree : s.owner.frontiers.liveTransitionBlocked = false)
    (hslot : slot ∈ s.slots) {active : ActiveBinding} (hbound : slot.binding = .bound active) (hobserver : observer ≤
    s.owner.frontiers.high)
    (hcharge : charge.deliverySeq = s.owner.frontiers.high + 1 ∧
      charge.admissionOrder = .bindingTerminal s.owner.frontiers.nextOrder active.participantId ∧
      charge.encodedCharge.entries = 1) : ∃ prepared, s.owner.prepareBindingTerminal active s.owner.frontiers.nextOrder
        (s.owner.frontiers.high + 1) observer = .ok prepared ∧
      ((∀ error, prepared.admitTerminal charge ≠ .refused error) ↔ OrderRoom s.owner.frontiers ∧
          if s.owner.retainedCharges.length < s.owner.retainedRecordLimit then s.owner.HasRoom charge
          else SequenceRoom s.owner.frontiers) ∧
      ∀ owner blockedAtObserver, prepared.admitTerminal charge = .pending owner blockedAtObserver →
        s.owner.retainedRecordLimit ≤ s.owner.retainedCharges.length := by
  have hsound := sound_of_reachable h
  obtain ⟨hconversation, p, hfind, hp⟩ := (coupled_of_reachable h).lookup_bound hslot hbound
  obtain ⟨hmem, hindex⟩ := find?_eq_some.mp hfind
  obtain ⟨orderLedger, horder, -⟩ := detachOrder_isSome hsound.laidOut
    (liveTransitionBlocked_eq_false.mp hfree).1 hfind hp
  have hnext : s.owner.frontiers.nextOrder ≤ u64Max := by
    have hsome := (detachOrder_eq_some.mp horder).1
    have hfits := s.owner.frontiers.order.ledger.fits
    have htotal := OrderClaims.total_terminal hsome
    change s.owner.frontiers.order.ledger.high.next ≤ u64Max
    omega
  refine ⟨_, prepareBindingTerminal_eq_ok.mpr ⟨⟨hconversation, p, hmem, hindex, hp⟩,
    ⟨hnext, rfl⟩, ⟨hsound.laidOut.next_le hmem, rfl⟩, hobserver, rfl⟩, ?_, ?_⟩
  · exact admitTerminal_iff hsound (accounted_of_reachable h) hfree hfind hp hcharge hobserver
  · intro owner blockedAtObserver hpending
    exact admitTerminal_pending hpending

/-- One member that has come back once: three rows beside the marker of its slot. -/
def reattached : List Operation := [ .detach ⟨0, 0, 1, 0⟩ 0 1 2 (unitCharge 2 ⟨1, .bindingTerminal, 0⟩),
  .attachDetached ⟨0, 0, 1, none⟩ .verified ⟨⟨0, 0, unitEpoch 1 2⟩, 2, 3⟩ ⟨none, unitCharge 3 ⟨2, .attachLifecycle, 0⟩⟩]

def reattachedBinding : ActiveBinding := ⟨0, 0, unitEpoch 1 2⟩

def deathCharge : RetainedRecordCharge := unitCharge 4 ⟨3, .bindingTerminal, 0⟩

theorem death_accepted_reattached : ∃ s, unitRun ⟨100, 100⟩ 1 50 reattached = some s ∧
    ∃ prepared, s.owner.prepareBindingTerminal reattachedBinding 3 4 0 = .ok prepared ∧
      ∀ error, prepared.admitTerminal deathCharge ≠ .refused error := by
  obtain ⟨s, hs, hfree, hhigh, hnext, horder, hlimit, hroom, slot, hslot, hbound⟩ : ∃ s, unitRun ⟨100,
      100⟩ 1 50 reattached = some s ∧ s.owner.frontiers.liveTransitionBlocked = false ∧ s.owner.frontiers.high = 3 ∧
      s.owner.frontiers.nextOrder = 3 ∧ OrderRoom s.owner.frontiers ∧ s.owner.retainedCharges.length <
      s.owner.retainedRecordLimit ∧ s.owner.HasRoom deathCharge ∧ ∃ slot ∈ s.slots,
      slot.binding = .bound reattachedBinding := exists_of_any (by decide)
  have hkeyed : deathCharge.deliverySeq = s.owner.frontiers.high + 1 ∧
      deathCharge.admissionOrder =
        .bindingTerminal s.owner.frontiers.nextOrder reattachedBinding.participantId ∧
      deathCharge.encodedCharge.entries = 1 := by
    rw [hhigh, hnext]
    exact ⟨rfl, rfl, rfl⟩
  obtain ⟨prepared, hprepared, haccepted, -⟩ :=
    death_accepted (unitRun_reachable hs) hfree hslot hbound (Nat.zero_le _) hkeyed
  rw [hhigh, hnext] at hprepared
  exact ⟨s, hs, prepared, hprepared, haccepted.mpr ⟨horder, by rw [if_pos hlimit]; exact hroom⟩⟩

/-- The baseline has reached the cap of four, and the death of the one bound member is refused. -/
theorem death_refused_reattached : ∃ s, unitRun ⟨4, 4⟩ 1 50 reattached = some s ∧
    conversationMachine.Reachable s ∧ s.owner.frontiers.liveTransitionBlocked = false ∧
    deathCharge.encodedCharge = s.config.limits.mandatoryBound ∧
    (s.owner.prepareBindingTerminal reattachedBinding s.owner.frontiers.nextOrder (s.owner.frontiers.high + 1) 0).map
        (admitTerminal · deathCharge) = .ok (.refused .closureAccounting) :=
  exists_of_any_and (fun _ => unitRun_reachable) (by decide)

end Conversation

/-! ### Draining what was pended -/

/-- While a terminal is pended a major is left: its own has been taken already. -/
def ClaimFrontiers.TerminalFits (f : ClaimFrontiers) : Prop :=
  ∀ deliverySeq order owner, f.sequence.immutableCandidates =
    [.bindingTerminal deliverySeq order owner] → LiveFrontierOwner.OrderRoom f

namespace LiveFrontierOwner

variable {owner owner' : LiveFrontierOwner} {limits : OrdinaryProjectionLimits}

theorem Step.terminalFits (h : owner.Step owner') (hlaid : owner.frontiers.LaidOut)
    (hfits : owner.frontiers.TerminalFits) : owner'.frontiers.TerminalFits := by
  intro deliverySeq order terminalOwner hcands
  cases h with
  | appended happends =>
    rw [happends.frontiers.2.2.1] at hcands
    cases hcands
  | pended hpend =>
    obtain ⟨orderLedger, -, frontiers, hfronts, rfl⟩ := pendBindingTerminalCandidate_eq_ok.mp hpend
    obtain ⟨-, _, -, -, active, -, -, -, -, -, -, -, -, ⟨-, hroom⟩, rfl⟩ :=
      applyPendingBindingTerminal_eq_ok.mp hfronts
    exact hroom
  | drained hdrain =>
    obtain ⟨-, -, -, -, accounting, -, frontiers, record, hfronts, rfl, -⟩ :=
      drainPendingTerminal_eq_ok.mp hdrain
    obtain ⟨-, -, ledger, -, -, -, -, -, -, -, rfl⟩ := drainFirstBindingTerminal_eq_ok.mp hfronts
    cases hcands
  | recorded hproject =>
    obtain ⟨hnil, -, plan, _, _, rfl, -⟩ := projectOrdinaryRecord_eq_ok hproject
    have hmarkers : plan.markerCandidates.map ImmutableSequenceCandidate.marker =
        [.bindingTerminal deliverySeq order terminalOwner] :=
      (projectedRecord_immutableCandidates hnil).symm.trans hcands
    obtain ⟨marker, -, hmarker⟩ := map_eq_singleton_iff.mp hmarkers
    cases hmarker
  | markerDrained hdrain =>
    obtain ⟨frontiers, marker, state, accounting, hfronts, -, -, rfl⟩ := drainNextMarker_eq_ok hdrain
    obtain ⟨rest, _, _, hold, -, -, -, -, -, rfl⟩ := drainNextMarkerCore_eq_ok hfronts
    -- behind a marker there are markers only
    have hshape := hlaid.candidateShape
    rw [hold] at hshape
    obtain rfl : rest = [.bindingTerminal deliverySeq order terminalOwner] := hcands
    rcases hshape with ⟨_, _, _, hterm⟩ | hmarkers
    · cases hterm
    · cases hmarkers _ (mem_cons_of_mem _ (mem_singleton_self _))
  | acknowledged _ _ | unchanged => exact hfits _ _ _ hcands
  | left hleaving =>
    obtain ⟨sequence, order, hresult, -⟩ := hleaving.frontiers.result
    rw [hresult] at hcands
    cases hcands
  | floored hfloored =>
    rw [hfloored.frontiers] at hcands ⊢
    exact hfits _ _ _ hcands

/-- A pended terminal at its place can be drained exactly if the accounting has room for its row. -/
theorem drain_iff (hsound : owner.Sound) (hcounted : owner.Accounted limits)
    (hfits : owner.frontiers.TerminalFits) {deliverySeq : DeliverySeq}
    {current : FrontierParticipant} (hcands : owner.frontiers.sequence.immutableCandidates =
      [.bindingTerminal deliverySeq pending.identity.admissionOrder
        ⟨pending.identity.participantId, pending.identity.bindingEpoch⟩])
    (hmem : current ∈ owner.frontiers.activeIdentities.participants)
    (hindex : current.participantIndex = pending.identity.participantId)
    (hdet : current.binding = .detached pending.identity.bindingEpoch)
    (hcharge : charge.deliverySeq = owner.frontiers.high + 1 ∧
      charge.admissionOrder = pending.identity.admissionOrder ∧ charge.encodedCharge.entries = 1) :
    (∃ owner', owner.drainPendingTerminal pending charge = .ok (owner', owner.frontiers.high + 1)) ↔
      owner.HasRoom charge := by
  rw [← hcounted.accountingAfterRows_iff]
  constructor
  · rintro ⟨owner', hdrain⟩
    obtain ⟨-, -, -, -, accounting, hacct, -⟩ := drainPendingTerminal_eq_ok.mp hdrain
    exact ⟨accounting, hacct⟩
  · rintro ⟨accounting, hacct⟩
    have hlaid := hsound.laidOut
    have hplace : deliverySeq = owner.frontiers.high + 1 := by
      have hplaces := hlaid.candidatePositions
      rw [hcands] at hplaces
      exact (cons.inj hplaces).1
    have hgroup : holdsOnlyKey owner.frontiers.order.immutableCandidates pending.identity.admissionOrder = true := by
      rcases hlaid.candidatesPaired with ⟨hnil, -⟩ | ⟨-, major, hgroups, -⟩
      · exact nomatch hcands.symm.trans hnil
      · rw [hgroups, hcands]
        exact decide_eq_true rfl
    have hmajor : pending.identity.admissionOrder.transactionOrder <
        owner.frontiers.order.ledger.high.next := by
      refine hsound.logged.wellFormed.used _ ?_
      rw [window, log, hcands, map_append]
      exact mem_append_right _ mem_cons_self
    -- the ledger counts the pended terminal beside those still bound
    have hcount : owner.frontiers.productOwners.length =
        owner.frontiers.activeIdentities.terminalOwners.length + 1 := by
      have hlength := productOwners_length hlaid.candidateShape
      rw [hcands] at hlength
      exact hlength
    have hmarkers : owner.frontiers.sequence.immutableCandidates.countP ImmutableSequenceCandidate.isMarker = 0 := by
      rw [hcands]
      rfl
    have hclaims := hlaid.sequenceClaims
    rw [hcount, hmarkers] at hclaims
    have hterms : 1 ≤ owner.frontiers.sequence.ledger.claims.bindingTerminals := by
      rw [hclaims]
      exact Nat.succ_pos _
    have habove := terminal_fits_above hterms (by rw [hclaims]; exact length_pos_of_mem hmem)
    obtain ⟨hseq, horder, hentries⟩ := hcharge
    refine Exists.intro _ (drainPendingTerminal_eq_ok.mpr
      ⟨hlaid.next_le hmem, hseq, horder, hentries, accounting, hacct, _, _,
      drainFirstBindingTerminal_eq_ok.mpr ⟨?_, rfl, ⟨owner.frontiers.high + 1, _, Nat.le_of_succ_le habove⟩, hterms,
        rfl, rfl, hsound.seated.count, fun p hp => (hsound.seated.admissible p hp).mono (Nat.le_succ _), ?_,
        ⟨habove, hfits _ _ _ hcands⟩, rfl⟩, rfl, rfl⟩)
    · rw [← hplace]
      exact validateFirstTerminalCandidate_eq_ok.mpr ⟨⟨hlaid.sequenceRecovery, hlaid.orderRecovery⟩, hcands,
        hlaid.next_le hmem, hplace, hmajor, hgroup, current, hmem, hindex, hdet⟩
    · refine ⟨?_, hlaid.activeBindingTerminals, hlaid.membershipExits, hlaid.recoveryOperation,
        owner.frontiers.order.ledger.claims.paired.symm.trans hlaid.recoveryOperation⟩
      simp only [hclaims, Nat.add_sub_cancel]

end LiveFrontierOwner

namespace Conversation

variable {s : Conversation}

theorem terminalFits_of_reachable (h : conversationMachine.Reachable s) : s.owner.frontiers.TerminalFits := by
  refine reaches_invariant ?_ (fun _ _ _ hsound _ hfits _ heffect =>
    heffect.ownerStep.terminalFits hsound.laidOut hfits) h
  intro s closure epoch order hstarted deliverySeq key owner hcands
  rw [hstarted.candidates] at hcands
  cases hcands

/-- A terminal that was pended can be drained at any later time exactly if the accounting has room for its row
then. -/
theorem pended_terminal_drains (h : conversationMachine.Reachable s) (hslot : slot ∈ s.slots) (hpended : slot.binding =
    .pendingFinalization pending)
    (hcharge : charge.deliverySeq = s.owner.frontiers.high + 1 ∧
      charge.admissionOrder = pending.identity.admissionOrder ∧ charge.encodedCharge.entries = 1) :
    (∃ owner', s.owner.drainPendingTerminal pending charge =
        .ok (owner', s.owner.frontiers.high + 1)) ↔ s.owner.HasRoom charge := by
  have hcoupled := coupled_of_reachable h
  obtain ⟨p, hfind, hagrees⟩ := hcoupled.agrees_of_mem hslot
  obtain ⟨hmem, hindex⟩ := find?_eq_some.mp hfind
  obtain ⟨deliverySeq, hcandidates⟩ := hcoupled.pended slot hslot pending hpended
  have howned := hagrees.owned
  simp only [ParticipantSlot.OwnsBinding, hpended] at howned
  rw [← howned.1] at hcandidates hindex
  exact drain_iff (sound_of_reachable h) (accounted_of_reachable h)
    (terminalFits_of_reachable h) hcandidates hmem hindex (hagrees.pended hpended) hcharge

/-- The one member comes back and dies when the suffix has no room for a fourth row. -/
def diedCrowded : List Operation :=
  reattached ++ [.endBinding 0 (.died .connectionLost) 3 4 0 deathCharge]

def diedCrowdedPending : PendingFinalization := reattachedBinding.pendTerminal (.died .connectionLost) 3

theorem pended_terminal_drains_diedCrowded : ∃ s, unitRun ⟨100, 100⟩ 1 3 diedCrowded = some s ∧
    (∃ slot ∈ s.slots, slot.binding = .pendingFinalization diedCrowdedPending) ∧
    ∃ owner', s.owner.drainPendingTerminal diedCrowdedPending
      deathCharge = .ok (owner', 4) := by
  obtain ⟨s, hs, hhigh, hroom, slot, hslot, hpended⟩ : ∃ s, unitRun ⟨100, 100⟩ 1 3 diedCrowded = some s ∧
      s.owner.frontiers.high = 3 ∧ s.owner.HasRoom deathCharge ∧ ∃ slot ∈ s.slots,
      slot.binding = .pendingFinalization diedCrowdedPending :=
    exists_of_any (by decide)
  have hkeyed : deathCharge.deliverySeq = s.owner.frontiers.high + 1 ∧
      deathCharge.admissionOrder = diedCrowdedPending.identity.admissionOrder ∧
      deathCharge.encodedCharge.entries = 1 := by
    rw [hhigh]
    exact ⟨rfl, rfl, rfl⟩
  obtain ⟨owner', hdrain⟩ :=
    (pended_terminal_drains (unitRun_reachable hs) hslot hpended hkeyed).mpr hroom
  rw [hhigh] at hdrain
  exact ⟨s, hs, ⟨slot, hslot, hpended⟩, owner', hdrain⟩

/-- With a cap of four the same death is accepted as pending, and its terminal cannot be drained. -/
theorem pended_terminal_stuck_diedCrowded : ∃ s, unitRun ⟨4, 4⟩ 1 3 diedCrowded = some s ∧
    conversationMachine.Reachable s ∧ (∃ slot ∈ s.slots, slot.binding = .pendingFinalization diedCrowdedPending) ∧
    s.owner.frontiers.high + 1 = 4 ∧
    s.owner.drainPendingTerminal diedCrowdedPending deathCharge =
      .error .closureAccounting :=
  exists_of_any_and (fun _ => unitRun_reachable) (by decide)

end Conversation

end Liminal
