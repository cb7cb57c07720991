import Liminal.Conversation.Anchors
import Liminal.Conversation.Fates

/-!
# Does the marker accounting stay in step?

Credits and baseline do, in every run. Anchors do as long as no fate passes a marker its participant
has not read and no member leaves behind a marker it has read. While all three are in step the
projection of a record has nothing to object to.
-/

namespace Liminal

open Checked Fallible ClaimFrontiers LiveFrontierOwner List

namespace LiveFrontierOwner

variable {owner owner' : LiveFrontierOwner} {limits : OrdinaryProjectionLimits}
  {participant : ParticipantId} {cursor : DeliverySeq}

/-- A marker is one that was there before or stands above everything that was. -/
theorem AccountStep.marker_from (h : owner.AccountStep limits owner')
    (hrecord : record ∈ owner'.frontiers.markerRecords) :
    record ∈ owner.frontiers.markerRecords ∨ owner.frontiers.high < record.deliverySeq := by
  cases h with
  | kept _ _ hmarkers | grown _ _ _ hmarkers | floored _ _ _ hmarkers =>
    exact Or.inl (hmarkers ▸ hrecord)
  | marked _ hplace _ hmarkers =>
    rw [hmarkers] at hrecord
    rcases mem_append.mp hrecord with hold | hnew
    · exact Or.inl hold
    · rw [mem_singleton.mp hnew]
      exact Or.inr ((Nat.lt_succ_self _).trans_eq hplace.2.symm)
  | recorded => exact Or.inl (mem_of_mem_filter hrecord)
  | left _ _ _ hmarkers =>
    rw [hmarkers] at hrecord
    exact Or.inl (mem_of_mem_filter hrecord)

theorem markersAbove_eq_zero : owner.frontiers.markersAbove participant cursor = 0 ↔
      ∀ record ∈ owner.frontiers.markerRecords, record.isMarkerOf participant = true → record.deliverySeq ≤ cursor := by
  rw [markersAbove, countP_eq_zero]
  simp only [mem_filter, decide_eq_true_eq, Nat.not_lt, and_imp]

end LiveFrontierOwner

namespace Conversation

variable {s s' : Conversation} {op : Operation} {slot : ParticipantSlot}

/-- The participant of a fate has read its marker, and a member that leaves has not. -/
structure MarkersSettled (s : Conversation) (op : Operation) : Prop where
  fate : ∀ participant ∈ op.fated?, ∀ p ∈ s.owner.frontiers.activeIdentities.find? participant,
    ∀ record ∈ s.owner.frontiers.markerRecords, record.isMarkerOf participant = true → record.deliverySeq ≤ p.cursor
  leave : ∀ participant ∈ op.leaver?, ∀ p ∈ s.owner.frontiers.activeIdentities.find? participant,
    ∀ record ∈ s.owner.frontiers.markerRecords, record.isMarkerOf participant = true → p.cursor < record.deliverySeq

instance (s : Conversation) (op : Operation) : Decidable (MarkersSettled s op) :=
  decidable_of_iff (_ ∧ _) ⟨fun h => ⟨h.1, h.2⟩, fun h => ⟨h.fate, h.leave⟩⟩

/-- The anchors are counted, and a marker the frontier takes for read has been read by the member. -/
structure Anchored (s : Conversation) : Prop where
  counted : s.owner.AnchorsCounted
  read : ∀ slot ∈ s.slots, ∀ p ∈ s.owner.frontiers.activeIdentities.find? slot.participantId,
    ∀ record ∈ s.owner.frontiers.markerRecords, record.isMarkerOf slot.participantId = true →
      record.deliverySeq ≤ p.cursor → record.deliverySeq ≤ slot.member.cursor

theorem Effect.marker_read (h : Effect s op s') (hsound : s.owner.Sound) (hcoupled : s.Coupled)
    (hanchored : s.Anchored) (hsettled : MarkersSettled s op) :
    ∀ slot ∈ s'.slots, ∀ p ∈ s'.owner.frontiers.activeIdentities.find? slot.participantId,
      ∀ record ∈ s'.owner.frontiers.markerRecords, record.isMarkerOf slot.participantId = true →
        record.deliverySeq ≤ p.cursor → record.deliverySeq ≤ slot.member.cursor := by
  intro slot' hslot' p' hp' record hrecord howner hbelow
  obtain ⟨-, hpairs⟩ := forall₂_iff_zip.mp (h.pairs hcoupled)
  have hfrom := (h.accountStep hsound hcoupled).marker_from hrecord
  have hseat : ∀ {slot p}, (slot, p) ∈ s.slots.zip s.owner.frontiers.activeIdentities.participants →
      p.cursor ≤ s.owner.frontiers.high :=
    fun hpair => (hsound.seated.admissible _ (of_mem_zip hpair).2).2
  cases (hpairs ((h.coupled hsound hcoupled).zip_of_find hslot' hp')).2 with
  | level hcursors => exact hbelow.trans_eq hcursors
  | @kept slot p hpair hid hfront hmember =>
    -- what is new stands above every cursor there was
    have hold := hfrom.resolve_right (Nat.not_lt.mpr (hbelow.trans (hfront.trans_le (hseat hpair))))
    rw [hid] at howner
    rw [hfront] at hbelow
    rw [hmember]
    exact hanchored.read slot (of_mem_zip hpair).1 p (hcoupled.find?_of_zip hpair) record hold howner hbelow
  | @fated slot p _ _ hpair hid hop hfront hmember =>
    subst hop
    have hold := hfrom.resolve_right (Nat.not_lt.mpr (hbelow.trans hfront.le))
    have hfind := hcoupled.find?_of_zip hpair
    rw [hid] at howner
    rw [hmember]
    exact hanchored.read slot (of_mem_zip hpair).1 p hfind record hold howner
      (hsettled.fate _ rfl p hfind record hold howner)

theorem left_anchors (hheld : s.owner.frontiers.MarkersHeld) (hcounted : s.owner.AnchorsCounted)
    (hleaving : s.owner.Leaving owner' slot.member terminal charges leftDeliverySeq leftTransactionOrder) :
    owner'.AnchorsCounted ↔ ∀ p ∈ s.owner.frontiers.activeIdentities.find? slot.participantId,
        ∀ record ∈ s.owner.frontiers.markerRecords, record.isMarkerOf slot.participantId = true →
          p.cursor < record.deliverySeq := by
  obtain ⟨current, hfind, hcursor⟩ := hleaving.current
  obtain ⟨hstored, hderived⟩ := hleaving.anchors hheld
  have hall : s.owner.frontiers.markersAbove slot.participantId slot.member.cursor =
      (s.owner.frontiers.markerRecords.filter fun record =>
        record.isMarkerOf slot.participantId).length ↔ ∀ record ∈ s.owner.frontiers.markerRecords,
          record.isMarkerOf slot.participantId = true → slot.member.cursor < record.deliverySeq := by
    rw [markersAbove, countP_eq_length]
    simp only [mem_filter, decide_eq_true_eq, and_imp]
  rw [AnchorsCounted] at hcounted ⊢
  change _ + (s.owner.frontiers.markerRecords.filter fun record =>
    record.isMarkerOf slot.participantId).length = _ at hstored
  change _ + s.owner.frontiers.markersAbove slot.participantId slot.member.cursor = _ at hderived
  constructor
  · intro hcounted' p hp
    rw [Option.mem_def, hfind, Option.some.injEq] at hp
    rw [← hp, hcursor]
    refine hall.mp ?_
    omega
  · intro habove
    have hsame := hall.mpr (hcursor ▸ habove current hfind)
    omega

theorem fated_anchors (hsound : s.owner.Sound) (hcoupled : s.Coupled) (hheld : s.owner.frontiers.MarkersHeld)
    (hcounted : s.owner.AnchorsCounted) (hfound : s.slot? slot.participantId = some slot) (htoken : slot.fateToken =
    some token) (hprepare : s.owner.prepareBindingFate token terminal observer = .ok (owner', fate)) :
    owner'.AnchorsCounted ↔ ∀ p ∈ s.owner.frontiers.activeIdentities.find? slot.participantId,
        ∀ record ∈ s.owner.frontiers.markerRecords, record.isMarkerOf slot.participantId = true →
          record.deliverySeq ≤ p.cursor := by
  obtain ⟨p, -, hagrees⟩ := hcoupled.lookup hfound
  obtain ⟨current, epoch, hfind, -, -, -, hfloored⟩ :=
    prepareBindingFate_ordinary (hagrees.token _ htoken) hprepare
  obtain ⟨hstored, hderived⟩ := hfloored.anchors hfind
  have hnone : s.owner.frontiers.markersAbove slot.participantId s.owner.frontiers.high = 0 :=
    markersAbove_eq_zero.mpr fun record hrecord _ => hsound.record_le_high (hheld.retained record hrecord)
  rw [hnone] at hderived
  rw [AnchorsCounted, hstored, hcounted, hfind]
  simp only [Option.mem_def, Option.some.injEq, forall_eq', ← markersAbove_eq_zero]
  change _ + s.owner.frontiers.markersAbove slot.participantId current.cursor = _ + 0 at hderived
  omega

theorem Effect.anchored (h : Effect s op s') (hsound : s.owner.Sound) (hcoupled : s.Coupled)
    (haccounted : s.owner.Accounted s.config.limits) (hanchored : s.Anchored)
    (hsettled : MarkersSettled s op) : s'.Anchored := by
  refine ⟨?_, h.marker_read hsound hcoupled hanchored hsettled⟩
  have hcounted := hanchored.counted
  have hheld := haccounted.held
  cases h with
  | @enrolled participant epoch _ _ _ _ _ _ hfresh happends =>
    obtain ⟨hanchors, hmarkers, hcands⟩ := happends.anchors
    have habsent : participant ∉ s.owner.frontiers.activeIdentities.indexes := by
      rw [← hcoupled.ids]
      intro hmem
      obtain ⟨slot, hslot, rfl⟩ := mem_map.mp hmem
      rw [fresh, Bool.and_eq_true, all_eq_true] at hfresh
      exact absurd rfl (bne_iff_ne.mp (hfresh.1 slot hslot))
    have hparts := perm_insertionSort (fun p q : FrontierParticipant =>
      p.participantIndex ≤ q.participantIndex) (s.owner.frontiers.activeIdentities.participants ++
        [FrontierParticipant.mk participant 0 (.bound epoch)])
    rw [← enrolledParticipants, ← happends.frontiers.1] at hparts
    exact hanchors.trans (hcounted.trans (derivedAnchors_enroll hmarkers hcands habsent rfl
      (fun record hrecord owner howner => hheld.active owner (mem_markerOwners hrecord howner)) hparts).symm)
  | @attached _ slot _ _ _ _ _ _ hfound _ _ happends _ =>
    obtain ⟨p, hfind, hagrees⟩ := hcoupled.lookup hfound
    refine hcounted.appends hfind happends (countP_congr fun record hmem => ?_)
    obtain ⟨hrecord, howner⟩ := mem_filter.mp hmem
    have hread := hanchored.read slot (slot?_eq_some hfound).1 p hfind record hrecord howner
    rw [decide_eq_true_eq, decide_eq_true_eq]
    exact ⟨fun habove => Nat.lt_of_not_le fun hle => absurd (hread hle) (Nat.not_le.mpr habove),
      hagrees.cursor.trans_lt⟩
  | ended hfound hbound _ _ hkept happends =>
    obtain ⟨p, hfind, hagrees⟩ := hcoupled.lookup hfound
    refine hcounted.appends hfind happends ?_
    rcases hkept with hmember | ⟨current, hcurrent, hcursor⟩
    · rw [hagrees.boundCursor _ hbound]
      exact congrArg _ hmember
    · rw [hfind, Option.some.injEq] at hcurrent
      rw [hcurrent]
      exact congrArg _ hcursor
  | pended hfound hbound _ _ hpend =>
    obtain ⟨ledger, -, frontiers, hfronts, rfl⟩ := pendBindingTerminalCandidate_eq_ok.mp hpend
    obtain ⟨hfree, current, hcurrent, -, ranks, hranks, -, -, -, -, -, -, -, -, rfl⟩ :=
      applyPendingBindingTerminal_eq_ok.mp hfronts
    have hcands : s.owner.frontiers.markerCandidates = [] :=
      markerCandidates_of_nil (liveTransitionBlocked_eq_false.mp hfree).1
    refine hcounted.trans (Eq.symm ?_)
    exact derivedAnchors_rebound rfl ((markerCandidates_terminal rfl).trans hcands.symm) hranks hcurrent rfl
  | drained _ _ hdrain =>
    obtain ⟨-, -, -, -, accounting, hacct, frontiers, record, hfronts, rfl, -⟩ :=
      drainPendingTerminal_eq_ok.mp hdrain
    obtain ⟨hvalid, -, ledger, -, -, -, -, -, -, -, rfl⟩ :=
      drainFirstBindingTerminal_eq_ok.mp hfronts
    have hcands := markerCandidates_terminal (validateFirstTerminalCandidate_eq_ok.mp hvalid).2.1
    have hanchors : accounting.markerAnchors = s.owner.closureAccounting.markerAnchors := by
      rw [ClosureAccounting.accountingAfterRows_eq_some hacct]
    refine hanchors.trans (hcounted.trans (Eq.symm ?_))
    exact derivedAnchors_same rfl hcands.symm rfl
  | recorded hproject =>
    obtain ⟨hnil, -, plan, markerState, search, rfl, hplan⟩ := projectOrdinaryRecord_eq_ok hproject
    exact (derivedAnchors_projectedRecord hnil hplan).symm
  | markerDrained hdrain =>
    obtain ⟨frontiers, marker, state, accounting, hfronts, -, hacct, rfl⟩ :=
      drainNextMarker_eq_ok hdrain
    obtain ⟨rest, _, _, hcands, hplace, -, -, -, -, rfl⟩ := drainNextMarkerCore_eq_ok hfronts
    have hmarkers : s.owner.frontiers.markerCandidates =
        marker :: rest.filterMap ImmutableSequenceCandidate.marker? := by
      rw [markerCandidates, hcands]
      rfl
    have hactive : marker.admissionOrder.participantIndex ∈
        s.owner.frontiers.activeIdentities.indexes := by
      refine hheld.active _ (mem_append_right _ (mem_map.mpr ⟨marker, ?_, rfl⟩))
      rw [hmarkers]
      exact mem_cons_self
    obtain ⟨p, hp, hindex⟩ := mem_map.mp hactive
    have hcursor : p.cursor < marker.deliverySeq := by
      rw [hplace]
      exact Nat.lt_succ_of_le (hsound.seated.admissible p hp).2
    have hanchors : accounting.markerAnchors = s.owner.closureAccounting.markerAnchors := by
      rw [hacct]
    refine hanchors.trans (hcounted.trans (Eq.symm ?_))
    exact derivedAnchors_marked (ActiveIdentityRanks.find?_eq_some.mpr ⟨hp, hindex⟩) hcursor rfl rfl hmarkers
  | acked hfound hbound hadvances _ hack =>
    rcases hack with hack | hack
    · exact hcounted.ack hack
    · refine hcounted.markerAck hheld (fun current hcurrent => ?_) hack
      obtain ⟨p, hfind, hagrees⟩ := hcoupled.lookup hfound
      rw [Option.mem_def, hfind, Option.some.injEq] at hcurrent
      rw [← hcurrent, hagrees.boundCursor _ hbound]
      exact hadvances
  | left hleaver _ _ hleaving =>
    exact (left_anchors hheld hcounted hleaving).mpr (hsettled.leave _ hleaver)
  | fated hfound htoken hprepare =>
    exact (fated_anchors hsound hcoupled hheld hcounted hfound htoken hprepare).mpr (hsettled.fate _ rfl)
  | measured => exact hcounted
  | completed _ _ _ hcompl =>
    rcases installFinalizedBindingFateFloor_eq_ok hcompl with rfl | ⟨_, -, hfloored⟩
    · exact hcounted
    · have hanchors := congrArg ClosureCounters.markerAnchors
        (ClosureAccounting.accountingAfterFloor_eq_some hfloored.accounting)
      exact hanchors.symm.trans (hcounted.trans (derivedAnchors_same
        hfloored.markers_kept (by rw [hfloored.frontiers]; rfl) (by rw [hfloored.frontiers]; rfl)).symm)

theorem anchored_of_reaches (h : conversationMachine.Reaches MarkersSettled s) : s.Anchored := by
  induction h with
  | start hs =>
    obtain ⟨closure, epoch, order, hstarted⟩ := hs.started
    refine ⟨?_, fun slot _ p _ record hrecord => ?_⟩
    · rw [AnchorsCounted, hstarted.markers.2, derivedAnchors,
        ordinaryUnacceptedMarkerAnchors_eq, hstarted.markerRecords, markerCandidates_of_nil hstarted.candidates]
      rfl
    · rw [hstarted.markerRecords] at hrecord
      cases hrecord
  | next hs hsettled hnext ih =>
    have hsound := sound_of_reachable hs.reachable
    exact (apply_effect hsound.laidOut hnext).1.anchored hsound (coupled_of_reachable hs.reachable)
      (accounted_of_reachable hs.reachable) ih hsettled

end Conversation

end Liminal
