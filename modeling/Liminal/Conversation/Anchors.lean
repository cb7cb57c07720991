import Liminal.Conversation.Baseline
import Liminal.Conversation.Projection

/-!
# Anchors

An anchor is a marker its owner has not reached: retained above the owner's cursor, or still a
candidate. Each operation touches the markers of one participant at most. Two operations get the
count wrong: the fate of a committed death moves the cursor past the marker and keeps the anchor,
and a Leave gives up an anchor even if the marker was reached before.
-/

namespace Liminal

open Checked Fallible ActiveIdentityRanks ClaimFrontiers OrdinaryProjectionFacts ClosureAccounting
open List
open RetainedCausalRecord

namespace ClaimFrontiers

variable {record : RetainedCausalRecord} {participant : ParticipantId} {p p' : FrontierParticipant}

def Unaccepted (participants : List FrontierParticipant) (record : RetainedCausalRecord) : Prop :=
  ∃ p ∈ participants, record.isMarkerOf p.participantIndex = true ∧ p.cursor < record.deliverySeq

instance (participants : List FrontierParticipant) (record : RetainedCausalRecord) :
    Decidable (Unaccepted participants record) :=
  inferInstanceAs (Decidable (∃ p ∈ participants, _))

variable (f : ClaimFrontiers) {f' : ClaimFrontiers}

/-- Retained markers that are not reached, and markers that are still to come. -/
def derivedAnchors : Nat :=
  f.ordinaryUnacceptedMarkerAnchors.length + f.markerCandidates.length

theorem isMarkerOf_iff : record.isMarkerOf participant = true ↔ record.markerOwner? = some participant := by
  rw [isMarkerOf, beq_iff_eq]

theorem ordinaryUnacceptedMarkerAnchors_eq : f.ordinaryUnacceptedMarkerAnchors = (f.markerRecords.filter fun record =>
      Unaccepted f.activeIdentities.participants record).map deliverySeq := by
  rw [ordinaryUnacceptedMarkerAnchors, ← filterMap_eq_map, filterMap_filter]
  refine filterMap_congr fun record _ => ?_
  have howner : ∀ participant, (∃ p ∈ f.activeIdentities.find? participant,
      p.cursor < record.deliverySeq) ↔ ∃ p ∈ f.activeIdentities.participants,
        some participant = some p.participantIndex ∧ p.cursor < record.deliverySeq := by
    intro participant
    constructor
    · rintro ⟨p, hp, hcursor⟩
      obtain ⟨hmem, hindex⟩ := find?_eq_some.mp hp
      exact ⟨p, hmem, congrArg some hindex.symm, hcursor⟩
    · rintro ⟨p, hmem, hindex, hcursor⟩
      exact ⟨p, find?_eq_some.mpr ⟨hmem, (Option.some.inj hindex).symm⟩, hcursor⟩
  simp only [Unaccepted, isMarkerOf_iff, markerOwner?]
  cases hkind : record.kind with
  | compactionMarker participant provenance =>
    simp only [howner, decide_eq_true_eq]
    rfl
  | _ => simp

def markersAbove (participant : ParticipantId) (cursor : DeliverySeq) : Nat :=
  (f.markerRecords.filter fun record => record.isMarkerOf participant).countP fun record =>
    cursor < record.deliverySeq

def anchorsBeside (participant : ParticipantId) : Nat :=
  (f.markerRecords.filter fun record => !record.isMarkerOf participant).countP fun record =>
    Unaccepted f.activeIdentities.participants record

variable {f}

theorem unaccepted_owner (hfind : f.activeIdentities.find? participant = some p)
    (howner : record.isMarkerOf participant = true) :
    Unaccepted f.activeIdentities.participants record ↔ p.cursor < record.deliverySeq := by
  obtain ⟨hmem, rfl⟩ := find?_eq_some.mp hfind
  constructor
  · rintro ⟨q, hq, hother, hcursor⟩
    rw [isMarkerOf_iff] at howner hother
    have hsame := find?_eq_some.mpr ⟨hq, Option.some.inj (hother.symm.trans howner)⟩
    rw [hfind, Option.some.injEq] at hsame
    exact hsame ▸ hcursor
  · exact fun hcursor => ⟨p, hmem, howner, hcursor⟩

theorem derivedAnchors_split (hfind : f.activeIdentities.find? participant = some p) : f.derivedAnchors =
      f.markersAbove participant p.cursor + f.anchorsBeside participant + f.markerCandidates.length := by
  rw [derivedAnchors, ordinaryUnacceptedMarkerAnchors_eq, length_map, ← countP_eq_length_filter,
    countP_eq_countP_filter_add _ _ fun record => record.isMarkerOf participant]
  congr 2
  refine countP_congr fun record hrecord => ?_
  rw [decide_eq_true_eq, decide_eq_true_eq]
  exact unaccepted_owner hfind (mem_filter.mp hrecord).2

theorem derivedAnchors_absent (habsent : participant ∉ f.activeIdentities.indexes) : f.derivedAnchors =
      f.anchorsBeside participant + f.markerCandidates.length := by
  rw [derivedAnchors, ordinaryUnacceptedMarkerAnchors_eq, length_map, ← countP_eq_length_filter,
    countP_eq_countP_filter_add _ _ fun record => record.isMarkerOf participant]
  congr 1
  refine (congrArg (· + _) (countP_eq_zero.mpr fun record hrecord => ?_)).trans (Nat.zero_add _)
  rw [decide_eq_true_eq]
  rintro ⟨p, hp, howner, -⟩
  have hother := isMarkerOf_iff.mp (mem_filter.mp hrecord).2
  rw [isMarkerOf_iff, hother, Option.some.injEq] at howner
  exact habsent (howner ▸ mem_map_of_mem hp)

/-- Two frontiers with the same participants and markers, but for one participant. -/
structure SameBeside (f f' : ClaimFrontiers) (participant : ParticipantId) : Prop where
  participants : ∀ p, p.participantIndex ≠ participant →
    (p ∈ f'.activeIdentities.participants ↔ p ∈ f.activeIdentities.participants)
  markers : f'.markerRecords.filter (fun record => !record.isMarkerOf participant) =
    f.markerRecords.filter fun record => !record.isMarkerOf participant

theorem SameBeside.anchorsBeside (h : f.SameBeside f' participant) :
    f'.anchorsBeside participant = f.anchorsBeside participant := by
  rw [ClaimFrontiers.anchorsBeside, ClaimFrontiers.anchorsBeside, h.markers]
  refine countP_congr fun record hrecord => ?_
  have hother := (mem_filter.mp hrecord).2
  have hindex : ∀ p : FrontierParticipant, record.isMarkerOf p.participantIndex = true →
      p.participantIndex ≠ participant := by
    rintro p howner rfl
    rw [howner] at hother
    cases hother
  rw [decide_eq_true_eq, decide_eq_true_eq]
  constructor
  · rintro ⟨p, hp, howner, hcursor⟩
    exact ⟨p, (h.participants p (hindex p howner)).mp hp, howner, hcursor⟩
  · rintro ⟨p, hp, howner, hcursor⟩
    exact ⟨p, (h.participants p (hindex p howner)).mpr hp, howner, hcursor⟩

theorem SameBeside.replace (hparts : f'.activeIdentities.participants =
      replaceParticipant f.activeIdentities.participants p')
    (hmarkers : f'.markerRecords = f.markerRecords) : f.SameBeside f' p'.participantIndex where
  participants := by
    intro p hother
    rw [hparts]
    constructor
    · intro hp
      rcases mem_replaceParticipant hp with rfl | ⟨hold, -⟩
      · exact absurd rfl hother
      · exact hold
    · exact fun hp => mem_map.mpr ⟨p, hp, if_neg hother⟩
  markers := by rw [hmarkers]

section

variable (hmarkers : f'.markerRecords = f.markerRecords) (hcands : f'.markerCandidates = f.markerCandidates)

include hmarkers hcands

/-- One participant moves; what it does to the anchors is what it does to that participant's. -/
theorem derivedAnchors_replace (p' : FrontierParticipant) (hfind : f.activeIdentities.find? p'.participantIndex =
    some p) (hparts : f'.activeIdentities.participants = replaceParticipant f.activeIdentities.participants p') :
    f'.derivedAnchors + f.markersAbove p'.participantIndex p.cursor =
      f.derivedAnchors + f.markersAbove p'.participantIndex p'.cursor := by
  obtain ⟨hmem, hindex⟩ := find?_eq_some.mp hfind
  have hfind' : f'.activeIdentities.find? p'.participantIndex = some p' := by
    refine find?_eq_some.mpr ⟨?_, rfl⟩
    rw [hparts]
    exact mem_replaceParticipant_of_mem hmem hindex
  have habove : f'.markersAbove p'.participantIndex p'.cursor = f.markersAbove p'.participantIndex p'.cursor := by
    rw [markersAbove, markersAbove, hmarkers]
  rw [derivedAnchors_split hfind, derivedAnchors_split hfind', habove, hcands,
    (SameBeside.replace hparts hmarkers).anchorsBeside]
  omega

theorem derivedAnchors_rebound (hparts : f'.activeIdentities.participants =
      replaceParticipant f.activeIdentities.participants p')
    (hfind : f.activeIdentities.find? p'.participantIndex = some p) (hcursor : p'.cursor = p.cursor) :
    f'.derivedAnchors = f.derivedAnchors := by
  have hmoved := derivedAnchors_replace hmarkers hcands p' hfind hparts
  rw [hcursor] at hmoved
  exact Nat.add_right_cancel hmoved

theorem derivedAnchors_same (hparts : f'.activeIdentities = f.activeIdentities) :
    f'.derivedAnchors = f.derivedAnchors := by
  rw [derivedAnchors, derivedAnchors, ordinaryUnacceptedMarkerAnchors_eq,
    ordinaryUnacceptedMarkerAnchors_eq, hparts, hmarkers, hcands]

theorem derivedAnchors_enroll (habsent : participant ∉ f.activeIdentities.indexes)
    (hindex : p.participantIndex = participant)
    (howners : ∀ record ∈ f.markerRecords, ∀ owner, record.markerOwner? = some owner →
      owner ∈ f.activeIdentities.indexes)
    (hparts : f'.activeIdentities.participants.Perm (f.activeIdentities.participants ++ [p])) :
    f'.derivedAnchors = f.derivedAnchors := by
  have hbeside : f.SameBeside f' participant := {
    participants := by
      intro q hother
      rw [hparts.mem_iff, mem_append, mem_singleton]
      exact ⟨fun h => h.resolve_right (by rintro rfl; exact hother hindex), Or.inl⟩
    markers := by rw [hmarkers] }
  have hfind : f'.activeIdentities.find? participant = some p := find?_eq_some.mpr
      ⟨hparts.mem_iff.mpr (mem_append_right _ (mem_singleton_self p)), hindex⟩
  have hnone : f'.markersAbove participant p.cursor = 0 := by
    rw [markersAbove, hmarkers]
    refine countP_eq_zero.mpr fun record hrecord => ?_
    obtain ⟨hmem, howner⟩ := mem_filter.mp hrecord
    exact absurd (howners record hmem participant (isMarkerOf_iff.mp howner)) habsent
  rw [derivedAnchors_absent habsent, derivedAnchors_split hfind, hnone, hbeside.anchorsBeside, hcands, Nat.zero_add]

end

theorem derivedAnchors_leave (hfind : f.activeIdentities.find? participant = some p) (hparts : f'.activeIdentities =
    f.activeIdentities.remove participant) (hmarkers : f'.markerRecords =
    f.markerRecords.filter fun record => !record.isMarkerOf participant) (hcands : f'.markerCandidates =
    f.markerCandidates) : f'.derivedAnchors + f.markersAbove participant p.cursor = f.derivedAnchors := by
  have hbeside : f.SameBeside f' participant := {
    participants := by
      intro q hother
      rw [hparts, remove, mem_filter]
      exact ⟨fun h => h.1, fun h => ⟨h, decide_eq_true hother⟩⟩
    markers := by
      rw [hmarkers, filter_filter]
      simp only [Bool.and_self] }
  have habsent : participant ∉ f'.activeIdentities.indexes := by
    rw [hparts, remove_indexes, mem_filter]
    simp
  rw [derivedAnchors_absent habsent, derivedAnchors_split hfind, hbeside.anchorsBeside, hcands]
  omega

theorem derivedAnchors_marked (howner : f.activeIdentities.find? marker.admissionOrder.participantIndex = some p)
    (hcursor : p.cursor < marker.deliverySeq) (hparts : f'.activeIdentities = f.activeIdentities)
    (hmarkers : f'.markerRecords = f.markerRecords ++ [markerRecord marker]) (hcands : f.markerCandidates =
    marker :: f'.markerCandidates) : f'.derivedAnchors = f.derivedAnchors := by
  obtain ⟨hmem, hindex⟩ := find?_eq_some.mp howner
  have hanchor : Unaccepted f.activeIdentities.participants (markerRecord marker) :=
    ⟨p, hmem, isMarkerOf_iff.mpr (congrArg some hindex.symm), hcursor⟩
  rw [derivedAnchors, derivedAnchors, ordinaryUnacceptedMarkerAnchors_eq, ordinaryUnacceptedMarkerAnchors_eq, hparts,
    hmarkers, hcands, filter_append, filter_cons_of_pos (by simpa using hanchor)]
  simp
  omega

/-- After a record the anchors are those that survive its floor, and its new candidates. -/
theorem derivedAnchors_projectedRecord (hnil : f.sequence.immutableCandidates = [])
    (h : (f.ordinaryProjectionFacts input).Planned plan markerState search) :
    (f.projectedRecord plan).frontiers.derivedAnchors = plan.resultingAccounting.markerAnchors := by
  have hstate := (validateSnapshot_eq_ok h.snapshot).2.2.2.1
  have hanchors := (validateMarkerState_eq_ok hstate).2.1
  obtain ⟨-, -, hcount, -⟩ := capacityAt_eq_ok (searchFloor_eq_ok h.searched).1
  have hnew : plan.markerCandidates.length = search.markerParticipants.length := by
    rw [h.markers, layEach_length]
  have hsurviving : search.survivingAnchorCount =
      (f.projectedRecord plan).frontiers.ordinaryUnacceptedMarkerAnchors.length := by
    have hrecords : (f.projectedRecord plan).frontiers.markerRecords =
        f.markerRecords.filter fun record => search.floor ≤ record.deliverySeq := by
      rw [← h.floor]
      rfl
    rw [hcount, hanchors, ((perm_insertionSort _ _).filter _).length_eq,
      ordinaryUnacceptedMarkerAnchors_eq, hrecords, length_map]
    change ((f.ordinaryUnacceptedMarkerAnchors).filter _).length = _
    rw [ordinaryUnacceptedMarkerAnchors_eq, filter_map, length_map, filter_filter, filter_filter]
    exact congrArg length (filter_congr fun record _ => Bool.and_comm _ _)
  rw [derivedAnchors, projectedRecord_markerCandidates hnil, ← hsurviving, hnew, h.accounting]

theorem crossedMarkerAnchors_add (owner : LiveFrontierOwner) (participant : ParticipantId) (hle : cursor ≤ throughSeq) :
    owner.crossedMarkerAnchors participant cursor throughSeq + owner.frontiers.markersAbove participant throughSeq =
      owner.frontiers.markersAbove participant cursor := by
  rw [markersAbove, markersAbove, countP_eq_countP_filter_add _
    (fun record : RetainedCausalRecord => decide (cursor < record.deliverySeq)) fun record =>
      decide (record.deliverySeq ≤ throughSeq)]
  congr 1
  · rw [LiveFrontierOwner.crossedMarkerAnchors, filter_filter, countP_filter]
    refine countP_congr fun record _ => ?_
    simp only [Bool.and_eq_true, decide_eq_true_eq]
    exact ⟨fun ⟨howner, hlow, hhigh⟩ => ⟨hlow, hhigh, howner⟩, fun ⟨hlow, hhigh, howner⟩ => ⟨howner, hlow, hhigh⟩⟩
  · rw [filter_filter, countP_filter, countP_filter]
    refine countP_congr fun record _ => ?_
    simp only [Bool.and_eq_true, Bool.not_eq_true', decide_eq_true_eq, decide_eq_false_iff_not, Nat.not_le]
    exact ⟨fun ⟨habove, howner⟩ => ⟨hle.trans_lt habove, habove, howner⟩, fun h => h.2⟩

end ClaimFrontiers

namespace LiveFrontierOwner

variable {owner owner' : LiveFrontierOwner} {rows : List RetainedCausalRecord} {p p' : FrontierParticipant}
  {participant : ParticipantId}

def AnchorsCounted (owner : LiveFrontierOwner) : Prop :=
  owner.closureAccounting.markerAnchors = owner.frontiers.derivedAnchors

theorem Appends.anchors (h : owner.Appends active rows owner') :
    owner'.closureAccounting.markerAnchors = owner.closureAccounting.markerAnchors ∧ owner'.frontiers.markerRecords =
      owner.frontiers.markerRecords ∧ owner'.frontiers.markerCandidates = owner.frontiers.markerCandidates := by
  obtain ⟨-, hnil, hnil', -, -⟩ := h.frontiers
  obtain ⟨-, -, -, -, htrans⟩ := h
  obtain ⟨-, -, accounting, hacct, frontiers, hfronts, rfl⟩ := transition_eq_ok.mp htrans
  obtain ⟨-, ranks, -, -, -, -, -, -, rfl⟩ := applyLiveTransition_eq_ok.mp hfronts
  refine ⟨?_, rfl, ?_⟩
  · rw [accountingAfterRows_eq_some hacct]
  · rw [markerCandidates_of_nil hnil', markerCandidates_of_nil hnil]

/-- Rows beside a participant that stays where it is with respect to its markers. -/
theorem AnchorsCounted.appends (hcounted : owner.AnchorsCounted)
    (hfind : owner.frontiers.activeIdentities.find? p'.participantIndex = some p)
    (happends : owner.Appends (owner.withParticipant p') rows owner')
    (hsame : owner.frontiers.markersAbove p'.participantIndex p'.cursor =
      owner.frontiers.markersAbove p'.participantIndex p.cursor) : owner'.AnchorsCounted := by
  obtain ⟨hanchors, hmarkers, hcands⟩ := happends.anchors
  have hderived := derivedAnchors_replace hmarkers hcands p' hfind happends.frontiers.1
  rw [hsame] at hderived
  rw [AnchorsCounted, hanchors, hcounted]
  exact (Nat.add_right_cancel hderived).symm

theorem derivedAnchors_withCursor (hfind : owner.frontiers.activeIdentities.find? participant = some p)
    (throughSeq accounting) : (owner.withCursor p throughSeq accounting).frontiers.derivedAnchors +
        owner.frontiers.markersAbove participant p.cursor =
      owner.frontiers.derivedAnchors + owner.frontiers.markersAbove participant throughSeq := by
  obtain ⟨-, rfl⟩ := find?_eq_some.mp hfind
  refine derivedAnchors_replace ?_ ?_ ⟨p.participantIndex, throughSeq, p.binding⟩ hfind ?_ <;> rfl

theorem AnchorsCounted.ack (hcounted : owner.AnchorsCounted)
    (h : owner.applyAckFrontier participant throughSeq = .ok owner') : owner'.AnchorsCounted := by
  obtain ⟨current, accounting, hfind, hle, -, hacct, rfl⟩ := applyAckFrontier_eq_ok h
  obtain ⟨hcrossed, hcounters⟩ := accountingAfterCrossed_eq_some hacct
  have hderived := derivedAnchors_withCursor hfind throughSeq accounting
  have hsum := crossedMarkerAnchors_add owner participant hle
  have hanchors : (owner.withCursor current throughSeq accounting).closureAccounting.markerAnchors =
      owner.closureAccounting.markerAnchors - owner.crossedMarkerAnchors participant current.cursor throughSeq :=
    congrArg ClosureCounters.markerAnchors hcounters
  rw [AnchorsCounted] at hcounted ⊢
  omega

/-- A participant has one marker at most, so the one it acknowledges is the only one it crosses. -/
theorem markersAbove_markerAck (hheld : owner.frontiers.MarkersHeld) {record : RetainedCausalRecord}
    (hrecord : record ∈ owner.frontiers.markerRecords)
    (howner : record.isMarkerOf participant = true)
    (hcursor : cursor < record.deliverySeq) : owner.frontiers.markersAbove participant cursor = 1 ∧
      owner.frontiers.markersAbove participant record.deliverySeq = 0 := by
  have hone := markersOf_eq hheld participant
  have hmem : record ∈ owner.frontiers.markerRecords.filter fun record =>
      record.isMarkerOf participant := mem_filter.mpr ⟨hrecord, howner⟩
  rw [hone, Option.mem_toList] at hmem
  rw [Option.mem_def.mp hmem, Option.toList_some] at hone
  rw [markersAbove, markersAbove, hone]
  simp [hcursor]

theorem AnchorsCounted.markerAck (hcounted : owner.AnchorsCounted) (hheld : owner.frontiers.MarkersHeld)
    (hadvances : ∀ p ∈ owner.frontiers.activeIdentities.find? participant, p.cursor < markerDeliverySeq)
    (h : owner.applyMarkerAckFrontier participant markerDeliverySeq = .ok owner') : owner'.AnchorsCounted := by
  obtain ⟨current, accounting, ⟨record, hrecord, rfl, howner⟩, hfind, -, -, hacct, rfl⟩ :=
    applyMarkerAckFrontier_eq_ok h
  obtain ⟨-, hcounters⟩ := accountingAfterMarkerCrossings_eq_some hacct
  have hderived := derivedAnchors_withCursor hfind record.deliverySeq accounting
  obtain ⟨hbefore, hafter⟩ := markersAbove_markerAck hheld hrecord howner (hadvances current hfind)
  have hanchors : (owner.withCursor current record.deliverySeq accounting).closureAccounting.markerAnchors =
      owner.closureAccounting.markerAnchors - 1 := congrArg ClosureCounters.markerAnchors hcounters
  rw [AnchorsCounted] at hcounted ⊢
  omega

theorem Leaving.anchors (hheld : owner.frontiers.MarkersHeld)
    (h : owner.Leaving owner' member terminal newCharges leftDeliverySeq leftTransactionOrder) :
    owner'.closureAccounting.markerAnchors + (owner.frontiers.markerRecords.filter fun record =>
          record.isMarkerOf member.participantId).length = owner.closureAccounting.markerAnchors ∧
    owner'.frontiers.derivedAnchors + owner.frontiers.markersAbove member.participantId member.cursor =
      owner.frontiers.derivedAnchors := by
  obtain ⟨current, hfind, hcursor⟩ := h.current
  obtain ⟨retired, hretired, hacct⟩ := h.accounting
  obtain ⟨-, hle, hcounters⟩ := accountingAfterLeave_eq_some hacct
  have hlost := (retiredMarkerCharge_eq_some hretired).length_eq
  rw [← markersOf_eq hheld] at hlost
  obtain ⟨sequence, order, hresult, -, -⟩ := h.frontiers.result
  have hcands : owner'.frontiers.markerCandidates = owner.frontiers.markerCandidates := by
    have hmatch := h.frontiers.candidates
    have hnone : owner.frontiers.markerCandidates = [] := by
      cases terminal with
      | none => exact markerCandidates_of_nil (isEmpty_iff.mp hmatch)
      | some terminal => exact markerCandidates_terminal (of_decide_eq_true hmatch).2
    rw [hnone, hresult]
    rfl
  constructor
  · rw [hlost, hcounters]
    exact Nat.sub_add_cancel hle
  · rw [← hcursor]
    exact derivedAnchors_leave hfind (by rw [hresult]; rfl) (by rw [hresult]; rfl) hcands

theorem Floored.anchors (hfind : owner.frontiers.activeIdentities.find? p'.participantIndex = some p)
    (h : owner.Floored owner' (owner.frontiers.activeIdentities.replace p') floor) :
    owner'.closureAccounting.markerAnchors = owner.closureAccounting.markerAnchors ∧
      owner'.frontiers.derivedAnchors + owner.frontiers.markersAbove p'.participantIndex p.cursor =
        owner.frontiers.derivedAnchors + owner.frontiers.markersAbove p'.participantIndex p'.cursor := by
  have hacct := accountingAfterFloor_eq_some h.accounting
  obtain ⟨-, -, hspared⟩ := checkFateFloor_eq_ok.mp h.admissible
  refine ⟨by rw [hacct], derivedAnchors_replace ?_ (by rw [h.frontiers]; rfl) p' hfind (by rw [h.frontiers]; rfl)⟩
  rw [h.frontiers]
  exact filter_eq_self.mpr fun record hrecord => decide_eq_true (hspared record hrecord)

end LiveFrontierOwner

end Liminal
