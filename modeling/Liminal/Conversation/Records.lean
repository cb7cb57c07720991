import Liminal.Conversation.Invariants

/-!
# What an ordinary record may overtake

A record that needs room moves the retained floor, possibly past participants that have not read so
far. Each is told by a marker it holds already or by exactly one new candidate, which abandons
everything up to and including the record that pushed the floor.
-/

namespace Liminal

open Checked Fallible OrdinaryProjectionFacts FrontierParticipant RetainedCausalRecord List
open ActiveIdentityRanks

def ProjectedOrdinaryRecord.newMarkersFor (projected : ProjectedOrdinaryRecord)
    (participant : ParticipantId) : List MarkerCandidateAuthority :=
  projected.newMarkerCandidates.filter fun marker =>
    marker.admissionOrder.participantIndex = participant

/-- What a committed record keeps and whom it tells, with `F` its resulting floor. -/
structure KeepsHistory (f : ClaimFrontiers) (hardObserverProgress : DeliverySeq)
    (projected : ProjectedOrdinaryRecord) : Prop where
  observed : projected.frontiers.retainedFloor ≤ hardObserverProgress + 1
  caller : projected.callerRecord ∈ projected.frontiers.retainedRecords ∧
    projected.callerRecord.deliverySeq = f.high + 1
  anchored : ∀ record ∈ f.markerRecords, ∀ p ∈ f.activeIdentities.participants,
    record.isMarkerOf p.participantIndex = true → p.cursor < record.deliverySeq →
      projected.frontiers.retainedFloor ≤ record.deliverySeq
  candidates : projected.frontiers.sequence.immutableCandidates = projected.newMarkerCandidates.map .marker
  overtaken : ∀ p ∈ f.activeIdentities.participants,
    p.cursor + 1 < projected.frontiers.retainedFloor →
      ((∃ record ∈ projected.frontiers.markerRecords, record.isMarkerOf p.participantIndex = true ∧
          projected.frontiers.retainedFloor ≤ record.deliverySeq) ∧ projected.newMarkersFor p.participantIndex = []) ∨
      ∃ marker, projected.newMarkersFor p.participantIndex = [marker] ∧ marker.abandonedAfter = p.cursor ∧
        marker.abandonedThrough = projected.callerRecord.deliverySeq ∧ marker.physicalFloorAtDecision =
        projected.frontiers.retainedFloor
  untouched : ∀ p ∈ f.activeIdentities.participants,
    projected.frontiers.retainedFloor ≤ p.cursor + 1 → projected.newMarkersFor p.participantIndex = []

namespace ClaimFrontiers

variable {f : ClaimFrontiers} {input : OrdinaryRecordProjectionInput} {plan : OrdinaryFixedPointPlan}
  {markerState : MarkerState} {search : CapacitySearch}

theorem mem_credits (h : (f.ordinaryProjectionFacts input).Planned plan markerState search)
    (hcredit : credit ∈ markerState.credits) :
    ∃ record ∈ f.markerRecords, record.deliverySeq = credit.deliverySeq ∧
      record.isMarkerOf credit.participantIndex = true := by
  have hstate := (validateSnapshot_eq_ok h.snapshot).2.2.2.1
  obtain ⟨⟨credits, hcredits, hsorted⟩, -⟩ := validateMarkerState_eq_ok hstate
  rw [hsorted, mem_insertionSort] at hcredit
  obtain ⟨record, hrecord, hseq, howner⟩ := Keyed.exists_of_forall₂ hcredits.flip hcredit
  exact ⟨record, hrecord, hseq.symm, by rw [isMarkerOf, howner, beq_self_eq_true]⟩

theorem mem_unacceptedMarkerAnchors (hrecord : record ∈ f.markerRecords) (hp : p ∈ f.activeIdentities.participants)
    (howner : record.isMarkerOf p.participantIndex = true) (hcursor : p.cursor < record.deliverySeq) :
    record.deliverySeq ∈ f.ordinaryUnacceptedMarkerAnchors := by
  have hfind := find?_eq_some.mpr ⟨hp, rfl⟩
  refine mem_filterMap.mpr ⟨record, hrecord, ?_⟩
  obtain ⟨provenance, hkind⟩ := markerOwner?_eq_some.mp (beq_iff_eq.mp howner)
  simp only [hkind]
  exact if_pos ⟨p, hfind, hcursor⟩

/-- The new candidates are one marker for each participant the floor has newly overtaken. -/
theorem newMarkersFor_eq (h : (f.ordinaryProjectionFacts input).Planned plan markerState search)
    (hp : p ∈ f.activeIdentities.participants) :
    (p ∈ search.markerParticipants → ∃ start, (f.projectedRecord plan).newMarkersFor p.participantIndex =
      [placeMarker f.nextOrder (f.high + 1) search.floor start p]) ∧ (p ∉ search.markerParticipants →
      (f.projectedRecord plan).newMarkersFor p.participantIndex = []) := by
  have hmarkers : (f.projectedRecord plan).newMarkerCandidates = layEach
      (placeMarker f.nextOrder (f.high + 1) search.floor) 1 (f.high + 2) search.markerParticipants :=
    h.markers
  have hkeys := map_layEach (placeMarker f.nextOrder (f.high + 1) search.floor) 1 (f.high + 2)
    search.markerParticipants (fun marker => marker.admissionOrder.participantIndex)
    participantIndex fun _ _ => rfl
  -- the overtaken are some of the active participants, so their indexes are distinct
  have hsub : search.markerParticipants.Sublist f.activeIdentities.participants := by
    rw [(capacityAt_eq_ok (searchFloor_eq_ok h.searched).1).2.2.2.1]
    exact filter_sublist
  have hnodup : (search.markerParticipants.map participantIndex).Nodup :=
    f.activeIdentities.indexes_nodup.sublist (hsub.map _)
  have hsame : ∀ q ∈ search.markerParticipants, q.participantIndex = p.participantIndex → q = p := by
    intro q hq hindex
    have hfind := find?_eq_some.mpr ⟨hsub.subset hq, hindex⟩
    exact Option.some.inj (hfind.symm.trans (find?_eq_some.mpr ⟨hp, rfl⟩))
  rw [ProjectedOrdinaryRecord.newMarkersFor, hmarkers]
  constructor
  · intro hovertaken
    have hkey : p.participantIndex ∈ (layEach (placeMarker f.nextOrder (f.high + 1) search.floor) 1
        (f.high + 2) search.markerParticipants).map
          fun marker => marker.admissionOrder.participantIndex := by
      rw [hkeys]
      exact mem_map_of_mem hovertaken
    obtain ⟨marker, hmarker, hindex⟩ := mem_map.mp hkey
    obtain ⟨start, q, hq, rfl⟩ := mem_layEach hmarker
    obtain rfl := hsame q hq hindex
    exact ⟨start, Keyed.filter_key_eq_singleton (hkeys ▸ hnodup) hmarker⟩
  · intro hkept
    refine filter_eq_nil_iff.mpr fun marker hmarker hindex => hkept ?_
    obtain ⟨start, q, hq, rfl⟩ := mem_layEach hmarker
    exact hsame q hq (of_decide_eq_true hindex) ▸ hq

theorem projectOrdinaryRecord_keepsHistory (h : f.projectOrdinaryRecord input = .ok (.projected projected)) :
    KeepsHistory f input.observerProgress projected := by
  obtain ⟨hnil, -, plan, markerState, search, rfl, hplan⟩ := projectOrdinaryRecord_eq_ok h
  obtain ⟨hcapacity, hanchors, hobs, -, -⟩ :=
    searchFloor_eq_ok hplan.searched
  obtain ⟨-, hsurviving, -, hovertaken, -⟩ := capacityAt_eq_ok hcapacity
  obtain ⟨-, hhigh, hlength, hstate, -⟩ := validateSnapshot_eq_ok hplan.snapshot
  obtain ⟨-, hanchorList, -⟩ := validateMarkerState_eq_ok hstate
  have hfloor : (f.projectedRecord plan).frontiers.retainedFloor = search.floor := hplan.floor
  have hcaller : (f.projectedRecord plan).callerRecord.deliverySeq = f.high + 1 :=
    congrArg deliverySeq hplan.callerRecord
  constructor
  · exact hfloor ▸ hobs
  · refine ⟨?_, hcaller⟩
    change plan.callerRecord ∈ plan.retainedRecords
    rw [hplan.records, resultingRetainedRows_fst hlength]
    refine mem_filter.mpr ⟨mem_append_right _ (mem_singleton_self _), ?_⟩
    exact decide_eq_true ((hobs.trans (Nat.succ_le_succ hhigh)).trans_eq hcaller.symm)
  · intro record hrecord p hp howner hcursor
    have hanchor := mem_unacceptedMarkerAnchors hrecord hp howner hcursor
    rw [hfloor]
    refine hanchors _ ?_
    rw [hanchorList, mem_insertionSort]
    exact hanchor
  · change f.sequence.immutableCandidates ++ _ = _
    rw [hnil]
    rfl
  · intro p hp hpassed
    rw [hfloor] at hpassed ⊢
    by_cases hnew : p ∈ search.markerParticipants
    · obtain ⟨start, hmarker⟩ := (newMarkersFor_eq hplan hp).1 hnew
      exact Or.inr ⟨_, hmarker, rfl, hcaller.symm, rfl⟩
    · -- overtaken and not newly so: a credited marker of the participant has survived
      refine Or.inl ⟨?_, (newMarkersFor_eq hplan hp).2 hnew⟩
      rw [hovertaken, newlyOvertaken, mem_filter, not_and] at hnew
      have hheld := hnew hp
      simp only [hpassed, decide_true, Bool.true_and, Bool.not_eq_true', Bool.not_eq_false,
        any_eq_true, beq_iff_eq] at hheld
      obtain ⟨credit, hcredit, hindex⟩ := hheld
      rw [hsurviving, mem_filter] at hcredit
      obtain ⟨record, hrecord, hseq, howner⟩ := mem_credits hplan hcredit.1
      have habove : search.floor ≤ record.deliverySeq := hseq ▸ of_decide_eq_true hcredit.2
      refine ⟨record, mem_filter.mpr ⟨hrecord, ?_⟩, hindex ▸ howner, habove⟩
      exact decide_eq_true (hplan.floor ▸ habove)
  · intro p hp hahead
    refine (newMarkersFor_eq hplan hp).2 ?_
    rw [hovertaken, newlyOvertaken, mem_filter, not_and]
    intro _ hnew
    rw [hfloor] at hahead
    simp only [Bool.and_eq_true, decide_eq_true_eq] at hnew
    exact absurd hnew.1 (Nat.not_lt.mpr hahead)

end ClaimFrontiers

/-- A committed record passes nothing the observer has not seen and no unaccepted marker, and tells each one
it overtakes by one marker. -/
theorem LiveFrontierOwner.record_keeps_history {owner : LiveFrontierOwner} {member : LiveMember}
    {binding : BindingState} {receivingBindingEpoch : BindingEpoch} {request : RecordAdmission}
    {encodedRecordCharge maxOrdinaryRecordCharge : ResourceVector} {hardObserverProgress : DeliverySeq}
    {limits : OrdinaryProjectionLimits} {projected : ProjectedOrdinaryRecord}
    (h : owner.applyRecordAdmission member binding receivingBindingEpoch request encodedRecordCharge
      maxOrdinaryRecordCharge hardObserverProgress limits = .ok projected) :
    KeepsHistory owner.frontiers hardObserverProgress projected :=
  ClaimFrontiers.projectOrdinaryRecord_keepsHistory (LiveFrontierOwner.applyRecordAdmission_eq_ok h)

namespace Conversation

/-- The first of two members reads and writes; its third record has no room left at floor one, and the second
has read nothing. -/
def crowded : List Operation := [ .enroll ⟨0, 1, 2, Nat.one_lt_two⟩ (unitEpoch 1 1) 1 2
  (unitCharge 2 ⟨1, .attachLifecycle, 1⟩), .admitRecord ⟨0, 0, 1⟩ (unitEpoch 0 1) ⟨1, 1⟩ 2, .ack ⟨0, 0, 1, 3⟩
  (unitEpoch 0 1) (.contiguous 3), .admitRecord ⟨0, 0, 1⟩ (unitEpoch 0 1) ⟨1, 1⟩ 3]

def crowdingRecord (s : Conversation) : Except RecordAdmissionRefusal ProjectedOrdinaryRecord :=
  s.owner.applyRecordAdmission { LiveMember.fromEnrollment 0 0 with cursor := 3 }
    (.bound ⟨0, 0, unitEpoch 0 1⟩) (unitEpoch 0 1) ⟨0, 0, 1⟩ ⟨1, 1⟩ ⟨1, 1⟩ 4 s.config.limits

theorem record_keeps_history_crowded : ∃ s projected, unitRun ⟨8, 100⟩ 2 50 crowded = some s ∧ crowdingRecord s =
    .ok projected ∧ projected.frontiers.retainedFloor = 2 ∧ KeepsHistory s.owner.frontiers 4 projected := by
  obtain ⟨s, hs, projected, hprojected, hfloor⟩ : ∃ s, unitRun ⟨8, 100⟩ 2 50 crowded = some s ∧
      ∃ projected ∈ (crowdingRecord s).toOption, projected.frontiers.retainedFloor = 2 :=
    exists_of_any (by decide)
  have hcommitted := toOption_eq_some.mp hprojected
  exact ⟨s, projected, hs, hcommitted, hfloor, LiveFrontierOwner.record_keeps_history hcommitted⟩

/-- The floor is two, the second member has read nothing and holds no marker, and its new candidate abandons
everything up to the record at five. -/
theorem record_abandons_through_caller : ∃ s projected, unitRun ⟨8, 100⟩ 2 50 crowded = some s ∧
    crowdingRecord s = .ok projected ∧ projected.frontiers.retainedFloor = 2 ∧ projected.frontiers.markerRecords = [] ∧
    s.owner.frontiers.activeIdentities.participants.map cursor = [3, 0] ∧
    (projected.newMarkersFor 1).map (fun marker => (marker.abandonedAfter, marker.abandonedThrough)) = [(0, 5)] := by
  obtain ⟨s, hs, projected, hprojected, hvalues⟩ : ∃ s, unitRun ⟨8, 100⟩ 2 50 crowded = some s ∧
      ∃ projected ∈ (crowdingRecord s).toOption, projected.frontiers.retainedFloor = 2 ∧
        projected.frontiers.markerRecords = [] ∧ s.owner.frontiers.activeIdentities.participants.map cursor = [3, 0] ∧
        (projected.newMarkersFor 1).map (fun marker =>
          (marker.abandonedAfter, marker.abandonedThrough)) = [(0, 5)] :=
    exists_of_any (by decide)
  exact ⟨s, projected, hs, toOption_eq_some.mp hprojected, hvalues⟩

end Conversation

end Liminal
