import Liminal.Library.Keyed
import Liminal.Lifecycle.ClaimFrontier.Leave
import Liminal.Lifecycle.ClaimFrontier.Partition

/-!
# A Leave lays the lanes out again

A Leave sorts the surviving claims by position and places them one behind the other. On a lane that
is laid out nothing has to be sorted, and what comes out is the layout of the remaining
participants.
-/

namespace Liminal

open Checked Fallible Keyed MovableOrderClaim ActiveIdentityRanks Option
open BindingTerminalOwner

section

open List

/-! ### Who leaves -/

theorem FrontierParticipant.terminalOwner?_index {p : FrontierParticipant} {owner}
    (h : p.terminalOwner? = some owner) : owner.participantIndex = p.participantIndex := by
  unfold terminalOwner? at h
  split at h
  · cases h
    rfl
  · cases h

namespace ActiveIdentityRanks

variable (active : ActiveIdentityRanks) (participant : ParticipantId)

/-- The participant is active, and the Leave ends exactly the binding it holds, if any. -/
def Leaves (endedBindingEpoch : Option BindingEpoch) : Prop :=
  ∃ p, active.find? participant = some p ∧ p.terminalOwner? = endedBindingEpoch.map fun epoch => ⟨participant, epoch⟩

theorem terminalOwners_sorted : (active.terminalOwners.map participantIndex).Pairwise (· < ·) := by
  rw [pairwise_map]
  refine List.Pairwise.filterMap FrontierParticipant.terminalOwner? ?_ active.ascending
  intro p q hlt owner howner owner' howner'
  rw [FrontierParticipant.terminalOwner?_index howner, FrontierParticipant.terminalOwner?_index howner']
  exact hlt

theorem remove_terminalOwners : (active.remove participant).terminalOwners =
      active.terminalOwners.filter fun owner => owner.participantIndex ≠ participant := by
  simp only [terminalOwners, remove, filterMap_filter, filter_filterMap]
  apply filterMap_congr
  intro p _
  cases howner : p.terminalOwner? with
  | none => simp
  | some owner =>
    rw [filter_some, FrontierParticipant.terminalOwner?_index howner]

theorem remove_indexes :
    (active.remove participant).indexes = active.indexes.filter fun index => index ≠ participant := by
  simp only [indexes, remove, List.filter_map]
  rfl

variable {active participant} {endedBindingEpoch : Option BindingEpoch}

theorem Leaves.mem_terminalOwners (h : active.Leaves participant (some epoch)) :
    (⟨participant, epoch⟩ : BindingTerminalOwner) ∈ active.terminalOwners := by
  obtain ⟨p, hfind, hterm⟩ := h
  exact mem_filterMap.mpr ⟨p, (find?_eq_some.mp hfind).1, hterm⟩

variable (h : active.Leaves participant endedBindingEpoch)

include h

/-- A terminal of the leaving participant is the one its Leave ends. -/
theorem Leaves.ended_of_mem {owner : BindingTerminalOwner} (hmem : owner ∈ active.terminalOwners)
    (hindex : owner.participantIndex = participant) : endedBindingEpoch = some owner.bindingEpoch := by
  obtain ⟨p, hfind, hterm⟩ := h
  obtain ⟨q, hq, howner⟩ := mem_filterMap.mp hmem
  have hqfind : active.find? participant = some q :=
    find?_eq_some.mpr ⟨hq, by rw [← FrontierParticipant.terminalOwner?_index howner, hindex]⟩
  rw [hfind, some.injEq] at hqfind
  rw [hqfind, howner] at hterm
  cases endedBindingEpoch with
  | none => cases hterm
  | some epoch =>
    simp only [map_some, some.injEq] at hterm
    rw [hterm]

theorem Leaves.mem_indexes : participant ∈ active.indexes := by
  obtain ⟨p, hfind, -⟩ := h
  obtain ⟨hmem, hindex⟩ := find?_eq_some.mp hfind
  exact mem_map.mpr ⟨p, hmem, hindex⟩

theorem Leaves.remove_live : (active.remove participant).live + 1 = active.live := by
  have hcount := length_filter_ne active.indexes participant
  rw [← remove_indexes, count_eq_one_of_mem active.indexes_nodup h.mem_indexes, indexes, length_map, indexes,
    length_map] at hcount
  exact hcount

theorem Leaves.count_terminalOwners :
    (active.terminalOwners.map participantIndex).count participant = endedBindingEpoch.toList.length := by
  have hnodup : (active.terminalOwners.map participantIndex).Nodup :=
    active.terminalOwners_sorted.imp fun hlt => Nat.ne_of_lt hlt
  cases endedBindingEpoch with
  | none =>
    rw [toList_none, length_nil, count_eq_zero]
    intro hmem
    obtain ⟨owner, howner, hindex⟩ := mem_map.mp hmem
    cases h.ended_of_mem howner hindex
  | some epoch =>
    exact count_eq_one_of_mem hnodup (mem_map.mpr ⟨⟨participant, epoch⟩, h.mem_terminalOwners, rfl⟩)

theorem Leaves.remove_terminalOwners_length :
    (active.remove participant).terminalOwners.length + endedBindingEpoch.toList.length =
      active.terminalOwners.length := by
  have hcount := length_filter_ne (active.terminalOwners.map participantIndex) participant
  rw [h.count_terminalOwners, List.filter_map, length_map, length_map] at hcount
  rw [remove_terminalOwners]
  exact hcount

end ActiveIdentityRanks

/-! ### The order lane -/

variable (active : ActiveIdentityRanks) (participant : ParticipantId) (cursor : Nat)

theorem orderLayout_owners : (orderLayout active cursor).map owner =
      active.terminalOwners.map .activeBindingTerminal ++ active.indexes.map .membershipExit := by
  rw [orderLayout, map_append, map_layEach placeTerminalOrder 1 cursor _ owner .activeBindingTerminal fun _ _ => rfl,
    map_layEach placeExitOrder 1 _ _ owner (fun p => .membershipExit p.participantIndex)
      fun _ _ => rfl, indexes, List.map_map]
  rfl

theorem orderLayout_owners_nodup : ((orderLayout active cursor).map owner).Nodup := by
  have hterms : active.terminalOwners.Nodup := List.Nodup.of_map participantIndex
      (active.terminalOwners_sorted.imp fun hlt => Nat.ne_of_lt hlt)
  rw [orderLayout_owners, nodup_append]
  refine ⟨hterms.map fun _ _ heq => by cases heq; rfl,
    active.indexes_nodup.map fun _ _ heq => by cases heq; rfl, ?_⟩
  simp

theorem orderLayout_sorted : ((orderLayout active cursor).map transactionOrder).Pairwise (· ≤ ·) := by
  rw [orderLayout, map_append, map_start_layEach fun _ _ => rfl, map_start_layEach fun _ _ => rfl, range'_append_1]
  exact pairwise_le_range'

theorem orderLayout_length : (orderLayout active cursor).length = active.terminalOwners.length + active.live := by
  rw [orderLayout, length_append, layEach_length, layEach_length]

def OrderDirectOwner.participantIndex : OrderDirectOwner → ParticipantId
  | .activeBindingTerminal owner => owner.participantIndex
  | .membershipExit participant => participant

def orderSurvivors : List MovableOrderClaim :=
  (orderLayout active cursor).filter fun claim => claim.owner.participantIndex ≠ participant

/-- Laying out again what survives a participant is laying out the others. -/
theorem relay_orderLayout (cursor' : Nat) :
    layEach (fun start claim => MovableOrderClaim.mk start claim.owner) 1 cursor'
      (orderSurvivors active participant cursor) = orderLayout (active.remove participant) cursor' := by
  have hlength := filter_layEach_length placeTerminalOrder 1 cursor active.terminalOwners
    (fun claim => claim.owner.participantIndex ≠ participant)
    (fun owner => owner.participantIndex ≠ participant) fun _ _ _ => rfl
  rw [orderSurvivors, orderLayout, filter_append, layEach_append, orderLayout,
    layEach_filter_layEach placeTerminalOrder _ placeTerminalOrder 1 1 cursor cursor' _ _
      (fun owner => owner.participantIndex ≠ participant) (fun _ _ _ => rfl) fun _ _ _ => rfl,
    layEach_filter_layEach placeExitOrder _ placeExitOrder 1 1 _ _ _ _
      (fun p => p.participantIndex ≠ participant) (fun _ _ _ => rfl) fun _ _ _ => rfl,
    remove_terminalOwners, hlength, Nat.mul_one]
  rfl

theorem orderSurvivors_length : (orderSurvivors active participant cursor).length =
      (active.remove participant).terminalOwners.length + (active.remove participant).live := by
  have h := congrArg length (relay_orderLayout active participant cursor 0)
  rw [layEach_length, orderLayout_length] at h
  exact h

theorem leaveUnits_eq : ((orderSurvivors active participant cursor).map LeaveRelayUnit.direct ++
      ((none : Option RecoveryOrderBlock).filter fun block =>
        decide (block.participantIndex ≠ participant)).toList.map
          LeaveRelayUnit.recovery).insertionSort (fun a b => a.start ≤ b.start) =
      (orderSurvivors active participant cursor).map LeaveRelayUnit.direct := by
  rw [filter_none, toList_none, map_nil, append_nil]
  apply insertionSort_eq_self
  rw [List.map_map]
  exact (orderLayout_sorted active cursor).sublist (filter_sublist.map _)

theorem relayed_orderLayout : ((((orderLayout active cursor).map LeaveRelayUnit.direct).filterMap
        LeaveRelayUnit.claim?).insertionSort fun a b => a.transactionOrder ≤ b.transactionOrder) =
      orderLayout active cursor ∧ (((orderLayout active cursor).map LeaveRelayUnit.direct).filterMap
      LeaveRelayUnit.block?).getLast? = none := by
  simp only [filterMap_map, Function.comp_def, LeaveRelayUnit.claim?, LeaveRelayUnit.block?, filterMap_some,
    filterMap_none]
  exact ⟨insertionSort_eq_self (orderLayout_sorted active cursor), rfl⟩

variable {active participant cursor} {endedBindingEpoch : Option BindingEpoch}

theorem removeOwner_eq_filter (h : (claims.map owner).Nodup)
    (removed : Option OrderDirectOwner) : removed.elim claims (removeOwner · claims) =
      claims.filter fun claim => decide (some claim.owner ≠ removed) := by
  cases removed with
  | none => simp
  | some removed =>
    rw [elim_some, removeOwner, eraseP_eq_filter h]
    apply filter_congr
    intro claim _
    rw [Bool.eq_iff_iff]
    simp

/-- The claims a Leave takes away one by one are all the claims of the participant. -/
theorem survivors_orderLayout (h : active.Leaves participant endedBindingEpoch) :
    (endedBindingEpoch.map fun epoch => OrderDirectOwner.activeBindingTerminal ⟨participant, epoch⟩).elim
        (removeOwner (.membershipExit participant) (orderLayout active cursor))
        (removeOwner · (removeOwner (.membershipExit participant) (orderLayout active cursor))) =
      orderSurvivors active participant cursor := by
  have hnodup := orderLayout_owners_nodup active cursor
  have hexit := removeOwner_eq_filter hnodup (some (.membershipExit participant))
  rw [elim_some] at hexit
  rw [hexit, removeOwner_eq_filter (hnodup.sublist (filter_sublist.map _)), List.filter_filter, orderSurvivors]
  apply filter_congr
  intro claim hclaim
  have hmem := mem_map_of_mem (f := owner) hclaim
  rw [orderLayout_owners] at hmem
  cases howner : claim.owner with
  | activeBindingTerminal owner =>
    -- A terminal of the leaver is claimed only if the Leave ends it.
    have hended : owner.participantIndex = participant →
        endedBindingEpoch = some owner.bindingEpoch := h.ended_of_mem (by simpa [howner] using hmem)
    obtain ⟨index, epoch⟩ := owner
    cases endedBindingEpoch <;> grind [OrderDirectOwner.participantIndex]
  | membershipExit other => cases endedBindingEpoch <;> grind [OrderDirectOwner.participantIndex]

theorem mem_orderLayout (h : claim ∈ orderLayout active cursor) : cursor ≤ claim.transactionOrder ∧
      claim.transactionOrder < cursor + active.terminalOwners.length + active.live := by
  have hmem := mem_map_of_mem (f := transactionOrder) h
  rw [orderLayout, map_append, map_start_layEach fun _ _ => rfl, map_start_layEach fun _ _ => rfl,
    range'_append_1, mem_range'_1, ← Nat.add_assoc] at hmem
  exact hmem

theorem matchingActiveClaim_eq_ok {order owner} (h : matchingActiveClaim order participant endedBindingEpoch =
    .ok owner) : owner = endedBindingEpoch.map fun epoch => .activeBindingTerminal ⟨participant, epoch⟩ := by
  unfold matchingActiveClaim at h
  split at h
  · exact (Except.ok.inj h).symm
  · simp only [ok_iff] at h
    exact h.2.symm

section OrderLane

variable {order : OrderClaimFrontier} {pendingOrder : Option AdmissionOrder}
  {rest : ActiveIdentityRanks} (hrest : rest = active.remove participant)

include hrest in
theorem layBy_survivors (cursor' : Nat) : layBy LeaveRelayUnit.len LeaveRelayUnit.place cursor'
        ((orderSurvivors active participant order.ledger.high.next).map .direct) =
      (orderLayout rest cursor').map .direct := by
  rw [hrest, layBy_map LeaveRelayUnit.len LeaveRelayUnit.place cursor' LeaveRelayUnit.direct 1 fun _ => rfl,
    ← relay_orderLayout active participant order.ledger.high.next cursor', ← layEach_map]
  rfl

variable (hmovable : order.movableClaims = orderLayout active order.ledger.high.next)
  (hrecovery : order.recovery = none) (hleaves : active.Leaves participant endedBindingEpoch)

include hmovable hrecovery hleaves

theorem selectLeaveOrder_eq_ok (h : selectLeaveOrder order participant endedBindingEpoch pendingOrder = .ok selection) :
    selection.units = (orderSurvivors active participant order.ledger.high.next).map .direct ∧
      order.ledger.high.next ≤ selection.selectedMajor := by
  simp only [selectLeaveOrder, ok_iff] at h
  obtain ⟨exitClaim, hexit, -, owner, howner, h⟩ := h
  obtain rfl := matchingActiveClaim_eq_ok howner
  have hbound := (mem_orderLayout (hmovable ▸ mem_of_find?_eq_some hexit)).1
  rw [hmovable, hrecovery, survivors_orderLayout hleaves, leaveUnits_eq] at h
  split at h
  · simp only [pure_eq_ok] at h
    subst h
    exact ⟨rfl, hbound⟩
  · simp only [ok_iff] at h
    obtain ⟨-, -, rfl⟩ := h
    exact ⟨rfl, Nat.le_refl _⟩

/-- Without a pended terminal the selection never runs out of majors: the fallback takes the next one. -/
theorem selectLeaveOrder_settled (htotal : order.ledger.claims.total = active.terminalOwners.length + active.live) :
    ∃ selection, selectLeaveOrder order participant endedBindingEpoch none = .ok selection ∧
      (orderSurvivors active participant order.ledger.high.next).length + selection.selectedMajor ≤ u64Max := by
  have hfits := order.ledger.fits
  have hlive := hleaves.remove_live
  have hterms := hleaves.remove_terminalOwners_length
  have hsurvivors := orderSurvivors_length active participant order.ledger.high.next
  -- The exit is claimed, and so is the terminal that the Leave ends.
  have hclaimed : ∀ owner ∈ active.terminalOwners.map .activeBindingTerminal ++ active.indexes.map .membershipExit,
      ∃ claim ∈ order.movableClaims, claim.owner = owner := by
    intro owner howner
    rw [← orderLayout_owners active order.ledger.high.next, ← hmovable] at howner
    exact mem_map.mp howner
  have hmatching : ∃ owner, matchingActiveClaim order participant endedBindingEpoch = .ok owner := by
    unfold matchingActiveClaim
    cases endedBindingEpoch with
    | none => exact ⟨none, rfl⟩
    | some epoch =>
      refine ⟨some (.activeBindingTerminal ⟨participant, epoch⟩), ?_⟩
      simp only [ok_iff, and_true]
      exact hclaimed _ (mem_append_left _ (mem_map_of_mem hleaves.mem_terminalOwners))
  obtain ⟨exitClaim, hfind⟩ : ∃ claim, order.movableClaims.find?
      (fun claim => claim.owner == .membershipExit participant) = some claim := by
    obtain ⟨claim, hclaim, howner⟩ := hclaimed _ (mem_append_right _ (mem_map_of_mem hleaves.mem_indexes))
    apply isSome_iff_exists.mp
    rw [find?_isSome]
    exact ⟨claim, hclaim, by simpa using howner⟩
  obtain ⟨owner, howner⟩ := hmatching
  have hbound := mem_orderLayout (hmovable ▸ mem_of_find?_eq_some hfind)
  obtain rfl := matchingActiveClaim_eq_ok howner
  have hexitLe : exitClaim.transactionOrder ≤ u64Max := by
    exact Nat.le_of_lt_succ (Nat.lt_of_lt_of_le hbound.2 (by omega))
  obtain ⟨survivors, hs⟩ : ∃ survivors, orderSurvivors active participant order.ledger.high.next = survivors := ⟨_, rfl⟩
  rw [hs] at hsurvivors ⊢
  have hlen : ((survivors.map LeaveRelayUnit.direct).map LeaveRelayUnit.len).sum = survivors.length := by
    rw [sum_map_const LeaveRelayUnit.len LeaveRelayUnit.direct 1 fun _ => rfl, Nat.mul_one]
  have hnext : survivors.length + order.ledger.high.next ≤ u64Max := by
    omega
  simp only [selectLeaveOrder, ok_iff]
  by_cases hroom : survivors.length + exitClaim.transactionOrder ≤ u64Max
  · refine ⟨⟨survivors.map .direct, exitClaim.transactionOrder⟩, ⟨exitClaim, hfind, by simp, _, howner, ?_⟩, hroom⟩
    rw [hmovable, hrecovery, survivors_orderLayout hleaves, leaveUnits_eq, hs, hlen,
      if_pos ((Nat.le_sub_iff_add_le hexitLe).mpr hroom)]
    rfl
  · refine ⟨⟨survivors.map .direct, order.ledger.high.next⟩, ⟨exitClaim, hfind, by simp, _, howner, ?_⟩, hnext⟩
    rw [hmovable, hrecovery, survivors_orderLayout hleaves, leaveUnits_eq, hs, hlen,
      if_neg fun hle => hroom ((Nat.le_sub_iff_add_le hexitLe).mp hle)]
    simp only [ok_iff, and_true, true_and]
    exact (Nat.le_add_left _ _).trans hnext

include hrest in
theorem consumeLeaveOrderLane_eq_ok
    (h : consumeLeaveOrderLane order participant endedBindingEpoch pendingOrder = .ok (lane, major)) :
    order.ledger.high.next ≤ major ∧ lane = orderLaneLayout rest [] lane.ledger ∧ lane.ledger.high = .allocated major ∧
      lane.ledger.claims.activeBindingTerminals = rest.terminalOwners.length ∧ lane.ledger.claims.membershipExits =
      rest.live ∧ lane.ledger.claims.recoveryOperation = false := by
  simp only [consumeLeaveOrderLane, relayLeaveOrderUnits, leaveResultingOrderLedger, ok_iff,
    OrderClaims.new_eq_ok, OrderLedger.tryNew_eq_ok, Prod.exists, Prod.mk.injEq] at h
  obtain ⟨selection, hselection, _, _, ⟨placed, hplaced, rfl, rfl⟩, ledger,
    ⟨claims, ⟨hterms, hexits, hop, -⟩, hhigh, rfl⟩, rfl, rfl⟩ := h
  obtain ⟨hunits, hmajor⟩ := selectLeaveOrder_eq_ok hmovable hrecovery hleaves hselection
  have hlayout := takeBy_eq_some hplaced
  rw [hunits, layBy_survivors hrest] at hlayout
  subst hlayout
  obtain ⟨hclaims, hblocks⟩ := relayed_orderLayout rest (selection.selectedMajor + 1)
  rw [hclaims, hblocks, orderLayout_terminals] at hterms
  rw [hclaims, orderLayout_exits] at hexits
  rw [hblocks] at hop
  refine ⟨hmajor, ?_, hhigh, hterms, ?_, hop⟩
  · rw [hclaims, hblocks, orderLaneLayout, hhigh]
    rfl
  · rw [hexits, indexes, length_map]

theorem consumeLeaveOrderLane_settled
    (htotal : order.ledger.claims.total = active.terminalOwners.length + active.live) :
    ∃ lane major, consumeLeaveOrderLane order participant endedBindingEpoch none = .ok (lane, major) := by
  obtain ⟨rest, hrest⟩ : ∃ rest, rest = active.remove participant := ⟨_, rfl⟩
  obtain ⟨selection, hselection, hroom⟩ :=
    selectLeaveOrder_settled hmovable hrecovery hleaves htotal
  obtain ⟨hunits, -⟩ := selectLeaveOrder_eq_ok hmovable hrecovery hleaves hselection
  obtain ⟨hclaims, hblocks⟩ := relayed_orderLayout rest (selection.selectedMajor + 1)
  have hsurvivors := orderSurvivors_length active participant order.ledger.high.next
  rw [← hrest] at hsurvivors
  have hplaced : takeBy u64Max LeaveRelayUnit.len LeaveRelayUnit.place
      (add u64Max selection.selectedMajor 1) selection.units =
      some ((orderLayout rest (selection.selectedMajor + 1)).map .direct) := by
    rw [hunits, ← layBy_survivors hrest]
    refine takeBy_of_le (fun unit hunit => ?_) ?_
    · obtain ⟨claim, -, rfl⟩ := mem_map.mp hunit
      exact Nat.le_refl 1
    · rw [sum_map_const LeaveRelayUnit.len LeaveRelayUnit.direct 1 fun _ => rfl, Nat.mul_one]
      omega
  let claims : OrderClaims := ⟨rest.terminalOwners.length, rest.live, false, false, rfl⟩
  have hfits : OrderHigh.next (.allocated selection.selectedMajor) + claims.total ≤ u64Max + 1 := by
    have hnext : OrderHigh.next (.allocated selection.selectedMajor) = 1 + selection.selectedMajor :=
      Nat.add_comm _ _
    have hcount : claims.total = rest.terminalOwners.length + rest.live := rfl
    omega
  refine ⟨orderLaneLayout rest [] ⟨.allocated selection.selectedMajor, claims, hfits⟩, selection.selectedMajor, ?_⟩
  simp only [consumeLeaveOrderLane, relayLeaveOrderUnits, leaveResultingOrderLedger, ok_iff,
    OrderClaims.new_eq_ok, OrderLedger.tryNew_eq_ok, Prod.exists, Prod.mk.injEq]
  refine ⟨selection, hselection, _, _, ⟨_, hplaced, rfl, rfl⟩, ⟨.allocated selection.selectedMajor,
    claims, hfits⟩, ⟨claims, ⟨?_, ?_, ?_, ?_⟩, rfl, rfl⟩, ?_, rfl⟩
  · rw [hclaims, hblocks, orderLayout_terminals]
    rfl
  · rw [hclaims, orderLayout_exits, indexes, length_map]
  · rw [hblocks]
    rfl
  · rw [hblocks]
    rfl
  · rw [hclaims, hblocks]
    rfl

end OrderLane

end

/-! ### The sequence lane -/

open LeaveSequenceUnit SequenceDirectOwner
open List hiding length

def SequenceDirectOwner.participantIndex : SequenceDirectOwner → ParticipantId
  | .bindingTerminal owner => owner.participantIndex
  | .membershipExit participant => participant

variable (active : ActiveIdentityRanks) (cursor : Nat)

def remainingExitProducts : List ExitProductRange :=
  if active.live ≤ 1 then [] else exitProductLayout active active.terminalOwners cursor

def remainingSequenceUnits : List LeaveSequenceUnit :=
  (movableLayout active cursor).map .direct ++
    (terminalProductLayout active active.terminalOwners cursor).map .terminalProduct ++
    (remainingExitProducts active cursor).map .exitProduct

theorem movableLayout_length : (movableLayout active cursor).length = active.terminalOwners.length + active.live := by
  rw [movableLayout, length_append, layEach_length, layEach_length]

theorem movableLayout_starts : (movableLayout active cursor).map MovableSequenceClaim.deliverySeq =
      range' cursor (active.terminalOwners.length + active.live) := by
  rw [movableLayout, map_append, map_start_layEach fun _ _ => rfl,
    map_start_layEach fun _ _ => rfl, range'_append_1]

theorem movableLayout_owners : (movableLayout active cursor).map MovableSequenceClaim.owner =
      active.terminalOwners.map .bindingTerminal ++ active.indexes.map .membershipExit := by
  rw [movableLayout, map_append,
    map_layEach placeTerminal 1 cursor _ MovableSequenceClaim.owner .bindingTerminal fun _ _ => rfl,
    map_layEach placeExit 1 _ _ MovableSequenceClaim.owner (fun p => .membershipExit p.participantIndex)
      fun _ _ => rfl, indexes, List.map_map]
  rfl

theorem terminalProductLayout_sorted (owners) : ((terminalProductLayout active owners cursor).insertionSort
      fun a b => a.start ≤ b.start) = terminalProductLayout active owners cursor :=
  insertionSort_eq_self (pairwise_map.mpr (pairwise_layEach fun _ _ => rfl))

theorem remainingExitProducts_sorted :
    ((remainingExitProducts active cursor).insertionSort fun a b => a.start ≤ b.start) =
      remainingExitProducts active cursor := by
  apply insertionSort_eq_self
  rw [remainingExitProducts]
  split
  · exact List.Pairwise.nil
  · exact pairwise_map.mpr (pairwise_layEach fun _ _ => rfl)

theorem remainingSequenceUnits_classes : ((remainingSequenceUnits active cursor).filterMap claim?).insertionSort
        (fun a b => a.deliverySeq ≤ b.deliverySeq) = movableLayout active cursor ∧
      ((remainingSequenceUnits active cursor).filterMap terminalProduct?).insertionSort
        (fun a b => a.start ≤ b.start) = terminalProductLayout active active.terminalOwners cursor ∧
      ((remainingSequenceUnits active cursor).filterMap exitProduct?).insertionSort
        (fun a b => a.start ≤ b.start) = remainingExitProducts active cursor ∧
      (remainingSequenceUnits active cursor).filterMap replacementProduct? = [] ∧
      (remainingSequenceUnits active cursor).filterMap block? = [] := by
  have hmovable : (movableLayout active cursor).insertionSort
      (fun a b => a.deliverySeq ≤ b.deliverySeq) = movableLayout active cursor := by
    apply insertionSort_eq_self
    rw [movableLayout_starts]
    exact pairwise_le_range'
  -- Every class is read back from its own part of the list and from no other.
  have hread : ∀ {α : Type} (read : LeaveSequenceUnit → Option α),
      (remainingSequenceUnits active cursor).filterMap read =
      ((movableLayout active cursor).filterMap fun claim => read (.direct claim)) ++
        ((terminalProductLayout active active.terminalOwners cursor).filterMap fun range =>
          read (.terminalProduct range)) ++
        (remainingExitProducts active cursor).filterMap fun range => read (.exitProduct range) := by
    simp [remainingSequenceUnits, filterMap_map]
  simp only [hread, claim?, terminalProduct?, exitProduct?, replacementProduct?, block?, filterMap_some,
    filterMap_none, append_nil, nil_append]
  exact ⟨hmovable, terminalProductLayout_sorted _ _ _, remainingExitProducts_sorted _ _, trivial, trivial⟩

theorem length_remainingExitProducts :
    ((remainingExitProducts active cursor).map ExitProductRange.length).sum = active.live * (active.live - 1) := by
  rw [remainingExitProducts]
  split
  · rename_i hlive
    rw [Nat.sub_eq_zero_of_le hlive, Nat.mul_zero]
    rfl
  · rw [exitProductLayout, map_layEach _ _ _ _ ExitProductRange.length (fun _ => active.live - 1) fun _ _ => rfl]
    simp

theorem remainingSequenceUnits_length : (∀ unit ∈ remainingSequenceUnits active cursor, 1 ≤ unit.length) ∧
      ((remainingSequenceUnits active cursor).map length).sum =
        (SequenceClaims.mk active.live active.terminalOwners.length 0 .none).requiredReserve := by
  have hterm : ∀ range ∈ terminalProductLayout active active.terminalOwners cursor, range.length = active.live := by
    intro range hrange
    obtain ⟨start, owner, -, rfl⟩ := mem_layEach hrange
    rfl
  have hexit : ∀ range ∈ remainingExitProducts active cursor, range.length = active.live - 1 ∧ 1 < active.live := by
    intro range hrange
    rw [remainingExitProducts] at hrange
    split at hrange
    · cases hrange
    · rename_i hlive
      obtain ⟨start, p, -, rfl⟩ := mem_layEach hrange
      exact ⟨rfl, Nat.lt_of_not_le hlive⟩
  constructor
  · intro unit hunit
    simp only [remainingSequenceUnits, mem_append, List.mem_map] at hunit
    rcases hunit with (⟨claim, -, rfl⟩ | ⟨range, hrange, rfl⟩) | ⟨range, hrange, rfl⟩
    · exact Nat.le_refl 1
    · obtain ⟨start, owner, howner, -⟩ := mem_layEach hrange
      have hlive := length_pos_of_mem howner
      have hbound := length_filterMap_le FrontierParticipant.terminalOwner? active.participants
      rw [length, hterm range hrange]
      exact Nat.lt_of_lt_of_le hlive hbound
    · have hlength := hexit range hrange
      rw [length]
      omega
  · have hterms : ((terminalProductLayout active active.terminalOwners cursor).map
        TerminalProductRange.length).sum = active.terminalOwners.length * active.live := by
      rw [map_congr_left hterm]
      simp [terminalProductLayout]
    have hexits := length_remainingExitProducts active cursor
    have hclaims := movableLayout_length active cursor
    simp only [remainingSequenceUnits, map_append, sum_append, List.map_map, Function.comp_def, length]
    rw [hterms, hexits, SequenceClaims.requiredReserve_eq]
    simp only [map_const', sum_replicate_nat, Nat.mul_one, hclaims,
      RecoverySequenceReserve.claims, Nat.mul_zero, Nat.add_zero]
    rw [Nat.mul_comm active.live active.terminalOwners.length, Nat.mul_comm (active.live - 1), Nat.add_comm active.live]

def leftSequenceLayout (ledger : SequenceLedger) : SequenceClaimFrontier where
  ledger := ledger
  movableClaims := movableLayout active (ledger.highWatermark + 1)
  immutableCandidates := []
  products := ⟨terminalProductLayout active active.terminalOwners (ledger.highWatermark + 1), none,
    remainingExitProducts active (ledger.highWatermark + 1)⟩
  recovery := none

variable {active cursor} {participant : ParticipantId} {endedBindingEpoch : Option BindingEpoch}

theorem relay_movableLayout (h : active.Leaves participant endedBindingEpoch) (cursor cursor' : Nat) :
    layEach (fun start claim => MovableSequenceClaim.mk start claim.owner) 1 cursor'
        ((movableLayout active cursor).filter fun claim =>
          !endsWith participant endedBindingEpoch claim.owner) = movableLayout (active.remove participant) cursor' := by
  have hkeep : ∀ start, ∀ owner ∈ active.terminalOwners,
      (!endsWith participant endedBindingEpoch (placeTerminal start owner).owner) =
        decide (owner.participantIndex ≠ participant) := by
    intro start owner howner
    by_cases hindex : owner.participantIndex = participant
    · simp [placeTerminal, endsWith, hindex, h.ended_of_mem howner hindex]
    · simp [placeTerminal, endsWith, hindex]
  have hexit : ∀ start, ∀ p ∈ active.participants,
      (!endsWith participant endedBindingEpoch (placeExit start p).owner) =
        decide (p.participantIndex ≠ participant) := by
    intro start p _
    rw [Bool.eq_iff_iff]
    simp [placeExit, endsWith]
  have hlength := filter_layEach_length placeTerminal 1 cursor active.terminalOwners
    (fun claim => !endsWith participant endedBindingEpoch claim.owner)
    (fun owner => owner.participantIndex ≠ participant) hkeep
  rw [movableLayout, filter_append, layEach_append, movableLayout,
    layEach_filter_layEach placeTerminal _ placeTerminal 1 1 cursor cursor' _ _
      (fun owner => owner.participantIndex ≠ participant) hkeep fun _ _ _ => rfl,
    layEach_filter_layEach placeExit _ placeExit 1 1 _ _ _ _
      (fun p => p.participantIndex ≠ participant) hexit fun _ _ _ => rfl, remove_terminalOwners, hlength, Nat.mul_one]
  rfl

/-- A participant that leaves has one exit to consume, and one terminal for the binding it still holds. -/
theorem checkConsumed_ok (hleaves : active.Leaves participant endedBindingEpoch) :
    checkConsumed participant endedBindingEpoch (movableLayout active cursor) = .ok () := by
  -- Both counts are counts over the owners of the claims.
  have hcount : ∀ {α : Type} (read : SequenceDirectOwner → Option α),
      (((movableLayout active cursor).filter fun claim =>
        endsWith participant endedBindingEpoch claim.owner).filterMap fun claim => read claim.owner).length =
      (active.terminalOwners.map bindingTerminal ++ active.indexes.map membershipExit).countP fun owner =>
          (read owner).isSome && endsWith participant endedBindingEpoch owner := by
    intro α read
    rw [← movableLayout_owners active cursor, countP_map, length_filterMap_eq_countP, countP_filter]
    rfl
  have hexit := count_eq_one_of_mem active.indexes_nodup hleaves.mem_indexes
  have hterm := hleaves.count_terminalOwners
  simp only [checkConsumed, require_eq_ok, hcount, countP_append, countP_map]
  constructor
  · rw [countP_eq_zero.mpr (by simp [exit?]), Nat.zero_add, ← hexit]
    rfl
  · rw [Nat.add_eq_left.mpr (countP_eq_zero.mpr (by simp [terminal?])), ← hterm, count, countP_map]
    apply countP_congr
    intro owner howner
    by_cases hindex : owner.participantIndex = participant
    · simp [terminal?, endsWith, hindex, hleaves.ended_of_mem howner hindex]
    · simp [terminal?, endsWith, hindex]

theorem place_length (start : Nat) (unit : LeaveSequenceUnit) : (unit.place start).length = unit.length := by
  cases unit with
  | recovery block =>
    simp only [place]
    split <;> simp [length, *]
  | _ => rfl

section SequenceLane

variable {sequence : SequenceClaimFrontier} {owners : List BindingTerminalOwner}

/-- The lane is laid out from `cursor` on; an exit range of length zero may be missing. -/
structure SequenceLaidOut (sequence : SequenceClaimFrontier) (active : ActiveIdentityRanks)
    (owners : List BindingTerminalOwner) (cursor : Nat) : Prop where
  recovery : sequence.recovery = none
  replacement : sequence.products.liveTimesReplacementTerminal = none
  movable : sequence.movableClaims = movableLayout active cursor
  terminalProducts : sequence.products.liveTimesTerminal = terminalProductLayout active owners cursor
  exitProducts : sequence.products.otherLiveTimesExit = exitProductLayout active owners cursor ∨
    active.live ≤ 1 ∧ sequence.products.otherLiveTimesExit = []

theorem SequenceLaidOut.starts_sorted (h : SequenceLaidOut sequence active owners cursor) :
    (sequence.movableClaims.map MovableSequenceClaim.deliverySeq ++
      sequence.products.liveTimesTerminal.map TerminalProductRange.start ++
      sequence.products.otherLiveTimesExit.map ExitProductRange.start).Pairwise (· ≤ ·) := by
  have hterminalBounds : ∀ start ∈ sequence.products.liveTimesTerminal.map TerminalProductRange.start,
      cursor + active.terminalOwners.length + active.live ≤ start ∧
        start ≤ cursor + active.terminalOwners.length + active.live + owners.length * active.live := by
    intro start hstart
    obtain ⟨range, hrange, rfl⟩ := mem_map.mp hstart
    rw [h.terminalProducts, terminalProductLayout] at hrange
    exact start_of_mem_layEach (fun _ _ => rfl) hrange
  refine pairwise_append_of_le (cursor + active.terminalOwners.length + active.live + owners.length * active.live)
    (pairwise_append_of_le (cursor + active.terminalOwners.length + active.live) ?_ ?_ ?_
      fun start hstart => (hterminalBounds start hstart).1) ?_ ?_ ?_
  · rw [h.movable, movableLayout_starts]
    exact pairwise_le_range'
  · rw [h.terminalProducts, pairwise_map]
    exact pairwise_layEach fun _ _ => rfl
  · intro start hstart
    rw [h.movable, movableLayout_starts, mem_range'_1] at hstart
    omega
  · rcases h.exitProducts with hexits | ⟨-, hexits⟩
    · rw [hexits, pairwise_map]
      exact pairwise_layEach fun _ _ => rfl
    · rw [hexits]
      exact List.Pairwise.nil
  · intro start hstart
    rcases mem_append.mp hstart with hstart | hstart
    · rw [h.movable, movableLayout_starts, mem_range'_1] at hstart
      omega
    · exact (hterminalBounds start hstart).2
  · intro start hstart
    obtain ⟨range, hrange, rfl⟩ := mem_map.mp hstart
    rcases h.exitProducts with hexits | ⟨-, hexits⟩
    · rw [hexits, exitProductLayout] at hrange
      exact (start_of_mem_layEach (fun _ _ => rfl) hrange).1
    · rw [hexits] at hrange
      cases hrange

/-- On a laid out lane the units need no sorting: the surviving claims, then the surviving ranges with their
new lengths. -/
theorem SequenceLaidOut.leaveSequenceUnits_eq (h : SequenceLaidOut sequence active owners cursor)
    (resultingLive : Nat) : leaveSequenceUnits sequence participant endedBindingEpoch resultingLive =
      ((movableLayout active cursor).filter fun claim =>
          !endsWith participant endedBindingEpoch claim.owner).map .direct ++
        ((terminalProductLayout active owners cursor).filter fun range =>
          range.terminal.participantIndex != participant && resultingLive != 0).map
            (fun range => .terminalProduct { range with length := resultingLive }) ++
        (sequence.products.otherLiveTimesExit.filter fun range =>
          resultingLive - 1 != 0 && range.exitParticipant != participant).map
            fun range => .exitProduct { range with length := resultingLive - 1 } := by
  have hsorted := h.starts_sorted
  simp only [leaveSequenceUnits, h.recovery, h.replacement, filter_none, toList_none, map_nil, append_nil]
  rw [h.movable, h.terminalProducts] at hsorted ⊢
  refine insertionSort_eq_self (hsorted.sublist ?_)
  simp only [map_append, List.map_map]
  exact ((filter_sublist.map _).append (filter_sublist.map _)).append (filter_sublist.map _)

variable {rest : ActiveIdentityRanks} (h : SequenceLaidOut sequence active owners cursor)
  (hrest : rest = active.remove participant) (hleaves : active.Leaves participant endedBindingEpoch)
  (howners : (owners.filter fun owner => owner.participantIndex ≠ participant) = rest.terminalOwners)

include howners in
theorem survivingOwners : (owners.filter fun owner =>
      owner.participantIndex != participant && rest.live != 0) = rest.terminalOwners := by
  by_cases hlive : rest.live = 0
  · have hnone : rest.terminalOwners = [] := by
      rw [terminalOwners, eq_nil_of_length_eq_zero hlive]
      rfl
    simp [hlive, hnone]
  · rw [← howners]
    apply filter_congr
    intro owner _
    rw [Bool.eq_iff_iff]
    simp [hlive]

include hrest hleaves in
theorem layBy_claims (cursor' : Nat) : layBy length place cursor' (((movableLayout active cursor).filter fun claim =>
          !endsWith participant endedBindingEpoch claim.owner).map .direct) =
      (movableLayout rest cursor').map .direct := by
  rw [hrest, layBy_map length place cursor' direct 1 fun _ => rfl, ← relay_movableLayout hleaves cursor cursor',
    ← layEach_map]
  rfl

include hrest hleaves in
theorem claims_length : ((movableLayout active cursor).filter fun claim =>
        !endsWith participant endedBindingEpoch claim.owner).length =
      rest.terminalOwners.length + rest.live := by
  have hlength := congrArg List.length (relay_movableLayout hleaves cursor 0)
  rw [layEach_length, movableLayout_length, ← hrest] at hlength
  exact hlength

include howners in
theorem layBy_terminalProducts (start : Nat) : layBy length place start
        (((terminalProductLayout active owners cursor).filter fun range =>
          range.terminal.participantIndex != participant && rest.live != 0).map
            fun range => .terminalProduct { range with length := rest.live }) =
      (layEach (placeTerminalProduct rest.live) rest.live start rest.terminalOwners).map .terminalProduct := by
  rw [layBy_map length place start _ rest.live fun _ => rfl, terminalProductLayout,
    layEach_filter_layEach (placeTerminalProduct active.live) _ (fun start owner => .terminalProduct
        (placeTerminalProduct rest.live start owner)) _ _ _ _ _ _
      (fun owner => owner.participantIndex != participant && rest.live != 0)
      (fun _ _ _ => rfl) fun _ _ _ => rfl, survivingOwners howners]
  exact layEach_map _ _ _ _ _

include howners in
theorem terminalProducts_length : ((terminalProductLayout active owners cursor).filter fun range =>
        range.terminal.participantIndex != participant && rest.live != 0).length = rest.terminalOwners.length := by
  rw [terminalProductLayout, filter_layEach_length _ _ _ _ _
    (fun owner => owner.participantIndex != participant && rest.live != 0)
    fun _ _ _ => rfl, survivingOwners howners]

include h hrest hleaves in
theorem SequenceLaidOut.layBy_exitProducts (start : Nat) : layBy length place start
        ((sequence.products.otherLiveTimesExit.filter fun range =>
          rest.live - 1 != 0 && range.exitParticipant != participant).map fun range =>
              .exitProduct { range with length := rest.live - 1 }) =
      (if rest.live ≤ 1 then []
        else layEach (placeExitProduct (rest.live - 1)) (rest.live - 1) start rest.participants).map .exitProduct := by
  by_cases hlive : rest.live ≤ 1
  · have hzero : rest.live - 1 = 0 := Nat.sub_eq_zero_of_le hlive
    simp [if_pos hlive, hzero, layBy]
  · have hexits : sequence.products.otherLiveTimesExit = exitProductLayout active owners cursor := by
      have hmore := hleaves.remove_live
      rw [← hrest] at hmore
      rcases h.exitProducts with hexits | ⟨hone, -⟩
      · exact hexits
      · omega
    have hkeep : ∀ start, ∀ p ∈ active.participants, (rest.live - 1 != 0 &&
          (placeExitProduct (active.live - 1) start p).exitParticipant != participant) =
          decide (p.participantIndex ≠ participant) := by
      intro start p _
      have hpositive : rest.live - 1 ≠ 0 := by omega
      rw [Bool.eq_iff_iff]
      simp [placeExitProduct, hpositive]
    rw [if_neg hlive, hexits, exitProductLayout, layBy_map length place start _ (rest.live - 1) fun _ => rfl,
      layEach_filter_layEach (placeExitProduct (active.live - 1)) _ (fun start p => .exitProduct
          (placeExitProduct (rest.live - 1) start p)) _ _ _ _ _ _
        (fun p => p.participantIndex ≠ participant) hkeep fun _ _ _ => rfl]
    subst hrest
    exact layEach_map _ _ _ _ _

include h hrest hleaves howners in
theorem SequenceLaidOut.layBy_leaveSequenceUnits (cursor' : Nat) : layBy length place cursor'
        (leaveSequenceUnits sequence participant endedBindingEpoch rest.live) =
      remainingSequenceUnits rest cursor' := by
  rw [h.leaveSequenceUnits_eq, layBy_append, layBy_append, layBy_claims hrest hleaves, layBy_terminalProducts howners,
    h.layBy_exitProducts hrest hleaves, map_append, sum_append, sum_map_const length direct 1 fun _ => rfl,
    sum_map_const length _ rest.live fun _ => rfl, claims_length hrest hleaves, terminalProducts_length howners,
    Nat.mul_one, remainingSequenceUnits, remainingExitProducts, terminalProductLayout, exitProductLayout]
  simp only [Nat.add_assoc]

include h hrest hleaves howners in
theorem SequenceLaidOut.relayLeaveSequence_eq_ok (hrelay : relayLeaveSequence sequence participant endedBindingEpoch
      rest.live leftDeliverySeq = .ok lane) : lane = leftSequenceLayout rest lane.ledger ∧ lane.ledger.highWatermark =
      leftDeliverySeq ∧ lane.ledger.claims = ⟨rest.live, rest.terminalOwners.length, 0, .none⟩ := by
  simp only [relayLeaveSequence, ok_iff, SequenceLedger.tryNew_eq_ok] at hrelay
  obtain ⟨_, -, placed, hplaced, ledger, ⟨hhigh, hclaims⟩, rfl⟩ := hrelay
  have hlayout := takeBy_eq_some hplaced
  rw [h.layBy_leaveSequenceUnits hrest hleaves howners] at hlayout
  subst hlayout
  obtain ⟨hmovable, hterms, hexits, hreplacement, hblocks⟩ :=
    remainingSequenceUnits_classes rest (leftDeliverySeq + 1)
  rw [hmovable, hblocks, movableLayout_terminals] at hclaims
  refine ⟨?_, hhigh, hclaims⟩
  rw [hmovable, hterms, hexits, hreplacement, hblocks, leftSequenceLayout, hhigh]
  rfl

include h hrest hleaves howners in
/-- A Leave whose remaining claims fit behind the Left record finds its sequence lane. -/
theorem SequenceLaidOut.relayLeaveSequence_of_fits (hfits : leftDeliverySeq +
      (SequenceClaims.mk rest.live rest.terminalOwners.length 0 .none).requiredReserve ≤ u64Max) :
    relayLeaveSequence sequence participant endedBindingEpoch rest.live leftDeliverySeq =
      .ok (leftSequenceLayout rest ⟨leftDeliverySeq, _, hfits⟩) := by
  obtain ⟨hmovable, hterms, hexits, hreplacement, hblocks⟩ :=
    remainingSequenceUnits_classes rest (leftDeliverySeq + 1)
  obtain ⟨hpositive, hsum⟩ :=
    remainingSequenceUnits_length rest (leftDeliverySeq + 1)
  have hlayout := h.layBy_leaveSequenceUnits hrest hleaves howners (leftDeliverySeq + 1)
  have hlengths : (leaveSequenceUnits sequence participant endedBindingEpoch rest.live).map length =
      (remainingSequenceUnits rest (leftDeliverySeq + 1)).map length := by
    rw [← hlayout, map_length_layBy place_length]
  have hplaced : takeBy u64Max length place
      (add u64Max leftDeliverySeq 1) (leaveSequenceUnits sequence participant endedBindingEpoch rest.live) =
      some (remainingSequenceUnits rest (leftDeliverySeq + 1)) := by
    rw [← hlayout]
    refine takeBy_of_le (fun unit hunit => ?_) ?_
    · have hmem := mem_map_of_mem (f := length) hunit
      rw [hlengths] at hmem
      obtain ⟨unit', hunit', hlength⟩ := mem_map.mp hmem
      rw [← hlength]
      exact hpositive unit' hunit'
    · rw [hlengths, hsum]
      exact Nat.succ_le_succ hfits |>.trans' (Nat.le_of_eq (Nat.add_right_comm _ _ _))
  simp only [relayLeaveSequence, ok_iff, SequenceLedger.tryNew_eq_ok, h.movable]
  refine ⟨(), checkConsumed_ok hleaves, _, hplaced, ⟨leftDeliverySeq, _, hfits⟩, ⟨rfl, ?_⟩, ?_⟩
  · rw [hmovable, hblocks, movableLayout_terminals]
    rfl
  · rw [hmovable, hterms, hexits, hreplacement, hblocks]
    rfl

end SequenceLane

end Liminal
