import Liminal.Lifecycle.Operations.Specs

/-!
# The steps of the owner

Eight kinds of change cover every operation. Each keeps the lanes laid out, so the claims of an
owner partition the positions above its two high values whatever has happened to it.
-/

namespace Liminal

open Checked Fallible ClaimFrontiers ActiveIdentityRanks

namespace LiveFrontierOwner

inductive Step (owner : LiveFrontierOwner) : LiveFrontierOwner → Prop
  | appended {owner' active rows} (appends : owner.Appends active rows owner') : Step owner owner'
  | pended {owner' binding admissionOrder deliverySeq}
      (pend : owner.pendBindingTerminalCandidate binding admissionOrder deliverySeq = .ok owner') : Step owner owner'
  | drained {owner' pending charge deliverySeq} (drain : owner.drainPendingTerminal pending charge = .ok
      (owner', deliverySeq)) : Step owner owner'
  | recorded {request receivingBindingEpoch encodedRecordCharge observerProgress limits projected}
      (project : owner.frontiers.projectOrdinaryRecord (owner.projectionInput request
        receivingBindingEpoch encodedRecordCharge observerProgress limits) = .ok (.projected projected)) :
      Step owner (owner.fromRecordAdmission projected)
  | markerDrained {owner' charge} (drain : owner.drainNextMarker charge = .ok owner') : Step owner owner'
  | acknowledged {current cursor closureAccounting}
      (found : owner.frontiers.activeIdentities.find? current.participantIndex = some current) (bounded : cursor ≤
      owner.frontiers.high) : Step owner (owner.withCursor current cursor closureAccounting)
  | left {owner' member terminal charges leftDeliverySeq leftTransactionOrder}
      (leaving : owner.Leaving owner' member terminal charges leftDeliverySeq leftTransactionOrder) : Step owner owner'
  | floored {owner' active floor} (floored : owner.Floored owner' active floor) : Step owner owner'
  | unchanged : Step owner owner

variable {owner owner' : LiveFrontierOwner}

theorem Step.laidOut (h : owner.Step owner') (hlaid : owner.frontiers.LaidOut) : owner'.frontiers.LaidOut := by
  cases h with
  | appended happends =>
    obtain ⟨-, -, -, -, htrans⟩ := happends
    obtain ⟨-, -, accounting, -, frontiers, hfronts, rfl⟩ := transition_eq_ok.mp htrans
    exact .applyLiveTransition hfronts
  | pended hpend =>
    obtain ⟨order, -, frontiers, hfronts, rfl⟩ := pendBindingTerminalCandidate_eq_ok.mp hpend
    exact .applyPendingBindingTerminal hfronts
  | drained hdrain =>
    obtain ⟨-, -, -, -, accounting, -, frontiers, record, hfronts, rfl, -⟩ :=
      drainPendingTerminal_eq_ok.mp hdrain
    exact .drainFirstBindingTerminal hfronts
  | recorded hproject => exact hlaid.projectOrdinaryRecord hproject
  | markerDrained hdrain =>
    obtain ⟨frontiers, marker, state, accounting, hfronts, -, -, rfl⟩ := drainNextMarker_eq_ok hdrain
    exact hlaid.drainNextMarkerCore hfronts
  | acknowledged hfound _ =>
    exact hlaid.congr rfl rfl (sameClaimants_replace hfound rfl)
  | left hleaving => exact hleaving.frontiers.laidOut
  | floored hfloored =>
    rw [hfloored.frontiers]
    exact hlaid.congr rfl rfl hfloored.claimants
  | unchanged => exact hlaid

/-- Rows are appended only while no candidate is pending, right above the high watermark, and leave none. -/
theorem Appends.frontiers (h : owner.Appends active rows owner') :
    owner'.frontiers.activeIdentities.participants = active ∧
      owner.frontiers.sequence.immutableCandidates = [] ∧ owner'.frontiers.sequence.immutableCandidates = [] ∧
      owner'.frontiers.high = owner.frontiers.high + rows.length ∧ rows.map RetainedCausalRecord.deliverySeq =
        List.range' (owner.frontiers.high + 1) rows.length := by
  obtain ⟨-, -, hne, -, htrans⟩ := h
  obtain ⟨-, -, accounting, -, frontiers, hfronts, rfl⟩ := transition_eq_ok.mp htrans
  obtain ⟨hfree, active, rfl, -, -, hplaces, -, -, rfl⟩ := applyLiveTransition_eq_ok.mp hfronts
  exact ⟨rfl, (liveTransitionBlocked_eq_false.mp hfree).1, rfl, hplaces.resultingHigh_eq hne, hplaces.2.1⟩

theorem Appends.below (h : owner.Appends active rows owner')
    (hmem : deliverySeq ∈ rows.map RetainedCausalRecord.deliverySeq) : deliverySeq ≤ owner'.frontiers.high := by
  obtain ⟨-, -, -, hhigh, hplaces⟩ := h.frontiers
  rw [hplaces, List.mem_range'_1, Nat.add_right_comm] at hmem
  exact (Nat.lt_succ_iff.mp hmem.2).trans_eq hhigh.symm

end LiveFrontierOwner

/-! ### Seats -/

/-- Every participant has a seat below the limit and a cursor that is not ahead of the log. -/
structure ClaimFrontiers.Seated (f : ClaimFrontiers) : Prop where
  count : f.activeIdentities.participants.length ≤ f.identitySlotLimit
  admissible : ∀ p ∈ f.activeIdentities.participants, ActiveIdentityRanks.Admissible f.high f.identitySlotLimit p

theorem ActiveIdentityRanks.Admissible.mono {high high' limit p}
    (h : Admissible high limit p) (hle : high ≤ high') : Admissible high' limit p :=
  ⟨h.1, h.2.trans hle⟩

theorem ClaimFrontiers.Seated.later {f : ClaimFrontiers} {high} (h : f.Seated)
    (hle : f.high ≤ high) : ∀ p ∈ f.activeIdentities.participants, Admissible high f.identitySlotLimit p :=
  fun p hp => (h.admissible p hp).mono hle

namespace LiveFrontierOwner

/-- What every step keeps: conversation, seats and row limit are fixed for good, the high watermark does not
go down, and nobody is without a seat. -/
structure Keeps (owner owner' : LiveFrontierOwner) : Prop where
  conversation : owner'.frontiers.conversationId = owner.frontiers.conversationId
  seats : owner'.frontiers.identitySlotLimit = owner.frontiers.identitySlotLimit
  rowLimit : owner'.retainedRecordLimit = owner.retainedRecordLimit
  high_le : owner.frontiers.high ≤ owner'.frontiers.high
  seated : owner.frontiers.Seated → owner'.frontiers.Seated

theorem Step.keeps {owner owner' : LiveFrontierOwner} (h : owner.Step owner') : owner.Keeps owner' := by
  cases h with
  | appended happends =>
    have hhigh := happends.frontiers.2.2.2.1
    obtain ⟨-, -, -, -, htrans⟩ := happends
    obtain ⟨-, -, accounting, -, frontiers, hfronts, rfl⟩ := transition_eq_ok.mp htrans
    obtain ⟨-, active, rfl, hcount, hall, -, -, -, rfl⟩ := applyLiveTransition_eq_ok.mp hfronts
    exact ⟨rfl, rfl, rfl, (Nat.le_add_right _ _).trans_eq hhigh.symm, fun _ => ⟨hcount, hall⟩⟩
  | pended hpend =>
    obtain ⟨order, -, frontiers, hfronts, rfl⟩ := pendBindingTerminalCandidate_eq_ok.mp hpend
    obtain ⟨-, _, -, -, active, -, hcount, hall, -, -, -, -, -, -, rfl⟩ :=
      applyPendingBindingTerminal_eq_ok.mp hfronts
    exact ⟨rfl, rfl, rfl, Nat.le_refl _, fun _ => ⟨hcount, hall⟩⟩
  | drained hdrain =>
    obtain ⟨-, -, -, -, accounting, -, frontiers, record, hfronts, rfl, -⟩ :=
      drainPendingTerminal_eq_ok.mp hdrain
    obtain ⟨-, -, ledger, -, hhigh, -, hcount, -, -, -, rfl⟩ :=
      drainFirstBindingTerminal_eq_ok.mp hfronts
    have hle : owner.frontiers.high ≤ _ := (Nat.le_succ _).trans_eq hhigh.symm
    exact ⟨rfl, rfl, rfl, hle, fun hseated => ⟨hcount, hseated.later hle⟩⟩
  | recorded hproject =>
    obtain ⟨-, -, plan, markerState, search, rfl, hplan⟩ := projectOrdinaryRecord_eq_ok hproject
    have hle : owner.frontiers.high ≤ _ := (Nat.le_succ _).trans_eq hplan.sequenceHigh.symm
    exact ⟨rfl, rfl, rfl, hle, fun hseated => ⟨hseated.count, hseated.later hle⟩⟩
  | markerDrained hdrain =>
    obtain ⟨frontiers, marker, state, accounting, hfronts, -, -, rfl⟩ := drainNextMarker_eq_ok hdrain
    obtain ⟨_, _, _, -, -, -, -, hhigh, -, rfl⟩ := drainNextMarkerCore_eq_ok hfronts
    have hle : owner.frontiers.high ≤ _ := (Nat.le_succ _).trans_eq hhigh.symm
    exact ⟨rfl, rfl, rfl, hle, fun hseated => ⟨hseated.count, hseated.later hle⟩⟩
  | acknowledged hfound hbounded =>
    refine ⟨rfl, rfl, rfl, Nat.le_refl _, fun hseated => ⟨?_, fun p hp => ?_⟩⟩
    · rw [withCursor]
      simpa [replace, replaceParticipant] using hseated.count
    · rcases mem_replaceParticipant hp with rfl | ⟨hold, -⟩
      · obtain ⟨hmem, -⟩ := find?_eq_some.mp hfound
        exact ⟨(hseated.admissible _ hmem).1, hbounded⟩
      · exact hseated.admissible p hold
  | left hleaving =>
    obtain ⟨sequence, order, hresult, hhigh, -⟩ := hleaving.frontiers.result
    rw [hleaving.frontiers.position] at hhigh
    have hle := (Nat.le_succ_of_le (Nat.le_add_right _ _)).trans_eq ((Nat.add_right_comm _ _ _).trans hhigh.symm)
    refine ⟨?_, ?_, hleaving.limit, ?_, fun hseated => ?_⟩ <;> rw [hresult]
    · rfl
    · rfl
    · exact hle
    · exact ⟨(List.length_filter_le _ _).trans hseated.count, fun p hp =>
        hseated.later hle p (List.mem_of_mem_filter hp)⟩
  | floored hfloored =>
    refine ⟨?_, ?_, hfloored.limit, ?_, fun hseated => ?_⟩ <;> rw [hfloored.frontiers]
    · rfl
    · rfl
    · exact Nat.le_refl _
    · exact ⟨hfloored.claimants.live.trans_le hseated.count, fun p hp =>
        (hfloored.seated p hp).elim (hseated.admissible p) id⟩
  | unchanged => exact ⟨rfl, rfl, rfl, Nat.le_refl _, id⟩

end LiveFrontierOwner

end Liminal
