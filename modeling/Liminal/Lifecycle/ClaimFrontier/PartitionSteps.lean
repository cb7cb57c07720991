import Liminal.Lifecycle.ClaimFrontier.Initial
import Liminal.Lifecycle.ClaimFrontier.Ordinary
import Liminal.Lifecycle.ClaimFrontier.Partition

/-!
# Live transitions keep the lanes laid out

The first enrollment is laid out, and so is what any transition makes of lanes that are. A marker
drain consumes the first candidate, an ordinary record moves everything up, an acknowledgement or a
fate touches no claim.
-/

namespace Liminal

open Checked Fallible ImmutableSequenceCandidate List

/-! ### Layouts that move up -/

variable (active : ActiveIdentityRanks)

theorem movableLayout_shift (cursor delta : Nat) :
    (movableLayout active cursor).map (MovableSequenceClaim.shift delta) = movableLayout active (cursor + delta) := by
  rw [movableLayout, movableLayout, map_append,
    map_shift_layEach placeTerminal 1 _ delta _ (MovableSequenceClaim.shift delta) fun _ _ => rfl,
    map_shift_layEach placeExit 1 _ delta _ (MovableSequenceClaim.shift delta) fun _ _ => rfl, Nat.add_right_comm]

section

variable (owners : List BindingTerminalOwner) (cursor delta : Nat)

theorem terminalProductLayout_shift :
    (terminalProductLayout active owners cursor).map (TerminalProductRange.shift delta) =
      terminalProductLayout active owners (cursor + delta) := by
  rw [terminalProductLayout, terminalProductLayout, map_shift_layEach (placeTerminalProduct active.live)
    active.live _ delta _ (TerminalProductRange.shift delta) fun _ _ => rfl]
  congr 1
  omega

theorem exitProductLayout_shift : (exitProductLayout active owners cursor).map (ExitProductRange.shift delta) =
      exitProductLayout active owners (cursor + delta) := by
  rw [exitProductLayout, exitProductLayout, map_shift_layEach (placeExitProduct (active.live - 1))
    (active.live - 1) _ delta _ (ExitProductRange.shift delta) fun _ _ => rfl]
  congr 1
  omega

end

theorem orderLayout_shift (cursor delta : Nat) : (orderLayout active cursor).map (MovableOrderClaim.shift delta) =
      orderLayout active (cursor + delta) := by
  rw [orderLayout, orderLayout, map_append,
    map_shift_layEach placeTerminalOrder 1 _ delta _ (MovableOrderClaim.shift delta) fun _ _ => rfl,
    map_shift_layEach placeExitOrder 1 _ delta _ (MovableOrderClaim.shift delta) fun _ _ => rfl, Nat.add_right_comm]

namespace ClaimFrontiers

namespace LaidOut

variable {f f' : ClaimFrontiers} {sequenceLedger : SequenceLedger} {orderLedger : OrderLedger}

/-- Claims, candidates and ledgers of `f` are those of `g`, and so are the claimants. -/
theorem congr {g : ClaimFrontiers} (h : f.LaidOut) (hseq : g.sequence = f.sequence)
    (horder : g.order = f.order) (hactive : SameClaimants g.activeIdentities f.activeIdentities) : g.LaidOut := by
  have howners : g.productOwners = f.productOwners := by
    unfold productOwners
    rw [hseq]
    split
    · exact hactive.allTerminalOwners _
    · exact hactive.terminalOwners
  obtain ⟨_, active, _, _, _, _, _, sequence, order⟩ := g
  obtain rfl : sequence = f.sequence := hseq
  obtain rfl : order = f.order := horder
  have hlive := hactive.live
  exact { h with
    movable := h.movable.trans (hactive.movableLayout _).symm
    terminalProducts := by
      rw [howners]
      exact h.terminalProducts.trans (hactive.terminalProductLayout ..).symm
    exitProducts := by
      rw [howners, hactive.exitProductLayout, hlive]
      exact h.exitProducts
    orderMovable := h.orderMovable.trans (hactive.orderLayout _).symm
    sequenceClaims := by rw [h.sequenceClaims, hlive, howners]
    activeBindingTerminals := by rw [h.activeBindingTerminals, hactive.terminalOwners]
    membershipExits := by rw [h.membershipExits, hlive] }

theorem of_layout {productOwners} (hseq : f.sequence =
    sequenceLayout f.activeIdentities productOwners candidates sequenceLedger) (horder : f.order =
    orderLaneLayout f.activeIdentities groups orderLedger) (howners : f.productOwners = productOwners)
    (hmatch : ledgersMatch f.activeIdentities productOwners.length sequenceLedger orderLedger)
    (hmarkers : candidates.countP isMarker = 0) (hplaces : candidates.map deliverySeq =
      range' (sequenceLedger.highWatermark + 1) candidates.length)
    (hshape : CandidateShape candidates) (hpaired : CandidatesPaired candidates groups) : f.LaidOut := by
  obtain ⟨_, active, _, _, _, _, _, sequence, order⟩ := f
  obtain rfl : sequence = sequenceLayout active productOwners candidates sequenceLedger := hseq
  obtain rfl : order = orderLaneLayout active groups orderLedger := horder
  obtain ⟨hclaims, hactive, hexits, hop, -⟩ := hmatch
  exact {
    sequenceRecovery := rfl
    orderRecovery := rfl
    replacement := rfl
    movable := rfl
    terminalProducts := by rw [howners]; rfl
    exitProducts := Or.inl (by rw [howners]; rfl)
    orderMovable := rfl
    sequenceClaims := by
      rw [howners]
      simp only [sequenceLayout, hmarkers]
      exact hclaims
    activeBindingTerminals := hactive
    membershipExits := hexits
    recoveryOperation := hop
    candidatePositions := hplaces
    candidateShape := hshape
    candidatesPaired := hpaired }

theorem initial (h : fromInitialEnrollment operation attachedCharge = .ok (f, accounting)) : f.LaidOut := by
  obtain ⟨-, hledgers, -, rfl, -⟩ := fromInitialEnrollment_eq_ok h
  obtain ⟨-, horder, hactive, hexits, hop, -, hhigh, hclaims, -⟩ := hledgers
  exact {
    sequenceRecovery := rfl
    orderRecovery := rfl
    replacement := rfl
    movable := by
      simp only [firstMovable, high, initialFrontiers, initialSequenceFrontier, hhigh]
      rfl
    terminalProducts := by
      simp only [firstMovable, high, initialFrontiers, initialSequenceFrontier, hhigh]
      rfl
    exitProducts := Or.inr ⟨Nat.le_refl 1, rfl⟩
    orderMovable := by
      simp only [nextOrder, initialFrontiers, initialOrderFrontier, horder]
      rfl
    sequenceClaims := hclaims
    activeBindingTerminals := hactive
    membershipExits := hexits
    recoveryOperation := hop
    candidatePositions := rfl
    candidateShape := CandidateShape.nil
    candidatesPaired := Or.inl ⟨rfl, rfl⟩ }

theorem applyLiveTransition
    (h : f.applyLiveTransition participants appendedRecords sequenceLedger orderLedger = .ok f') : f'.LaidOut := by
  obtain ⟨-, active, -, -, -, -, hmatch, -, rfl⟩ := applyLiveTransition_eq_ok.mp h
  exact of_layout rfl rfl (productOwners_of_nil rfl) hmatch rfl rfl CandidateShape.nil (Or.inl ⟨rfl, rfl⟩)

theorem applyPendingBindingTerminal {deliverySeq admissionOrder}
    (h : f.applyPendingBindingTerminal participant bindingEpoch deliverySeq admissionOrder
      orderLedger = .ok f') : f'.LaidOut := by
  obtain ⟨-, _, -, -, active, -, -, -, -, -, -, -, hmatch, -, rfl⟩ :=
    applyPendingBindingTerminal_eq_ok.mp h
  rw [← allTerminalOwners_length active ⟨participant, bindingEpoch⟩] at hmatch
  refine of_layout rfl rfl rfl hmatch rfl rfl (Or.inl ⟨_, _, _, rfl⟩) (Or.inr ⟨cons_ne_nil _ _, _, rfl, ?_⟩)
  simp [pendingCandidate, ImmutableSequenceCandidate.admissionOrder]

theorem drainFirstBindingTerminal
    (h : f.drainFirstBindingTerminal expectedOwner expectedOrder = .ok (f', record)) : f'.LaidOut := by
  obtain ⟨-, -, ledger, -, -, -, -, -, hmatch, -, rfl⟩ := drainFirstBindingTerminal_eq_ok.mp h
  exact of_layout rfl rfl (productOwners_of_nil rfl) hmatch rfl rfl CandidateShape.nil (Or.inl ⟨rfl, rfl⟩)

theorem removeOrderKey_paired (hpaired : CandidatesPaired (candidate :: rest) groups)
    (h : removeOrderKey candidate.admissionOrder groups = some groups') : CandidatesPaired rest groups' := by
  rcases hpaired with ⟨hnil, -⟩ | ⟨-, major, rfl, hmajor⟩
  · cases hnil
  · rw [removeOrderKey, if_pos (by simp)] at h
    simp only [map_cons, erase_cons_head, List.isEmpty_iff, map_eq_nil_iff] at h
    by_cases hrest : rest = []
    · rw [if_pos hrest, Option.some.injEq] at h
      exact Or.inl ⟨hrest, h.symm⟩
    · rw [if_neg hrest, Option.some.injEq] at h
      exact Or.inr ⟨hrest, major, h.symm, fun c hc => hmajor c (mem_cons_of_mem candidate hc)⟩

theorem drainNextMarkerCore {marker} (h : f.LaidOut)
    (hdrain : f.drainNextMarkerCore = .ok (f', marker)) : f'.LaidOut := by
  obtain ⟨rest, groups, ledger, hcands, -, hkeys, -, hhigh, hclaims, hf'⟩ := drainNextMarkerCore_eq_ok hdrain
  have hall : ∀ candidate ∈ f.sequence.immutableCandidates, candidate.isMarker = true := by
    rcases h.candidateShape with ⟨_, _, _, hterm⟩ | hall
    · rw [hcands] at hterm
      simp at hterm
    · exact hall
  have hrest : ∀ candidate ∈ rest, candidate.isMarker = true := by
    intro candidate hcand
    exact hall candidate (by rw [hcands]; exact mem_cons_of_mem _ hcand)
  have howners : f'.productOwners = f.productOwners := by
    rw [productOwners_of_markers hall, hf']
    exact productOwners_of_markers hrest
  -- The cursor behind the candidates does not move: one candidate less, one position higher.
  have hfirst : f'.firstMovable = f.firstMovable := by
    simp only [firstMovable, high, hf', hcands, hhigh, length_cons]
    omega
  have hmarkers : f.sequence.ledger.claims.markers - 1 = rest.countP isMarker := by
    rw [h.sequenceClaims, hcands, countP_cons]
    simp [isMarker]
  have hplaces := h.candidatePositions
  have hpaired := h.candidatesPaired
  rw [hcands] at hplaces hpaired
  rw [map_cons, length_cons, range'_succ, cons.injEq] at hplaces
  subst hf'
  exact {
    sequenceRecovery := h.sequenceRecovery
    orderRecovery := h.orderRecovery
    replacement := h.replacement
    movable := by rw [hfirst]; exact h.movable
    terminalProducts := by rw [hfirst, howners]; exact h.terminalProducts
    exitProducts := by rw [hfirst, howners]; exact h.exitProducts
    orderMovable := h.orderMovable
    sequenceClaims := by
      rw [howners]
      simp only [hclaims, hmarkers]
      rw [h.sequenceClaims]
    activeBindingTerminals := h.activeBindingTerminals
    membershipExits := h.membershipExits
    recoveryOperation := h.recoveryOperation
    candidatePositions := by
      simp only [high, hhigh]
      exact hplaces.2
    candidateShape := Or.inr hrest
    candidatesPaired := removeOrderKey_paired hpaired hkeys }

/-! ### Ordinary records -/

theorem projectOrdinaryRecord (h : f.LaidOut)
    (hproject : f.projectOrdinaryRecord input = .ok (.projected projected)) : projected.frontiers.LaidOut := by
  obtain ⟨hnil, hgroups, plan, markerState, search, hprojd, hplan⟩ :=
    projectOrdinaryRecord_eq_ok hproject
  have hhigh : plan.sequence.highWatermark = f.high + 1 := hplan.sequenceHigh
  have hlength : plan.markerCandidates.length = search.markerParticipants.length := by
    rw [hplan.markers, layEach_length]
  have hcands : projected.frontiers.sequence.immutableCandidates = plan.markerCandidates.map .marker := by
    rw [hprojd]
    simp [projectedRecord, relaidLanes, relayOrdinarySequenceOwners, hnil]
  have hmarkers : ∀ candidate ∈ projected.frontiers.sequence.immutableCandidates, candidate.isMarker = true := by
    intro candidate hcand
    rw [hcands] at hcand
    obtain ⟨marker, -, rfl⟩ := mem_map.mp hcand
    rfl
  have howners : projected.frontiers.productOwners = f.productOwners := by
    rw [productOwners_of_markers hmarkers, hprojd, productOwners_of_nil hnil]
    rfl
  have hfirst : projected.frontiers.firstMovable = f.firstMovable + (plan.markerCandidates.length + 1) := by
    rw [firstMovable, firstMovable, hcands, hnil, high, hprojd, length_map]
    simp only [projectedRecord, relaidLanes, hhigh, length_nil]
    omega
  have hplaces : plan.markerCandidates.map MarkerCandidateAuthority.deliverySeq =
      range' (f.high + 2) plan.markerCandidates.length := by
    rw [hlength, hplan.markers]
    exact map_start_layEach fun _ _ => rfl
  have hmajors : ∀ marker ∈ plan.markerCandidates, marker.admissionOrder.transactionOrder = plan.order.major := by
    intro marker hmarker
    rw [hplan.markers] at hmarker
    obtain ⟨_, _, -, rfl⟩ := mem_layEach hmarker
    exact hplan.major.symm
  have hclaims := hplan.orderClaims
  subst hprojd
  exact {
    sequenceRecovery := by simp [projectedRecord, relaidLanes, relayOrdinarySequenceOwners, h.sequenceRecovery]
    orderRecovery := by simp [projectedRecord, relaidLanes, relayOrdinaryOrderOwners, h.orderRecovery]
    replacement := by simp [projectedRecord, relaidLanes, relayOrdinarySequenceOwners, h.replacement]
    movable := by
      rw [hfirst]
      exact (congrArg _ h.movable).trans (movableLayout_shift ..)
    terminalProducts := by
      rw [hfirst, howners]
      exact (congrArg _ h.terminalProducts).trans (terminalProductLayout_shift ..)
    exitProducts := by
      rw [hfirst, howners]
      refine h.exitProducts.imp (fun hexits => ?_) fun ⟨hlive, hexits⟩ => ⟨hlive, ?_⟩
      · exact (congrArg _ hexits).trans (exitProductLayout_shift ..)
      · simp [projectedRecord, relaidLanes, relayOrdinarySequenceOwners, hexits]
    orderMovable := by
      have hnext : (f.projectedRecord plan).frontiers.nextOrder = f.nextOrder + 1 :=
        congrArg OrderHigh.next hplan.orderHigh
      rw [hnext]
      exact (congrArg _ h.orderMovable).trans (orderLayout_shift ..)
    sequenceClaims := by
      rw [howners, countP_eq_length.mpr hmarkers, hcands, length_map, hlength]
      exact hplan.sequenceClaims.trans (by simp [ordinaryProjectionFacts, h.sequenceClaims, hnil]; rfl)
    activeBindingTerminals := (congrArg _ hclaims).trans h.activeBindingTerminals
    membershipExits := (congrArg _ hclaims).trans h.membershipExits
    recoveryOperation := (congrArg _ hclaims).trans h.recoveryOperation
    candidatePositions := by
      rw [hcands, map_map, length_map]
      simp only [high, projectedRecord, relaidLanes, hhigh]
      exact hplaces
    candidateShape := Or.inr hmarkers
    candidatesPaired := by
      rw [hcands]
      simp only [projectedRecord, relaidLanes, relayOrdinaryOrderOwners, hgroups, nil_append]
      cases hmarkerList : plan.markerCandidates with
      | nil => exact Or.inl ⟨rfl, rfl⟩
      | cons marker rest =>
        rw [hmarkerList] at hmajors
        refine Or.inr ⟨by simp, plan.order.major, by simp [admissionOrder], fun candidate hcand => ?_⟩
        obtain ⟨marker, hmarker, rfl⟩ := mem_map.mp hcand
        exact hmajors marker hmarker }

end LaidOut

end ClaimFrontiers

end Liminal
