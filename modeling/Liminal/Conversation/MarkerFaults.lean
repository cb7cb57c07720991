import Liminal.Conversation.MarkerAccounting

/-!
# A record is not refused for its markers

The projection of a record answers with a fault if the markers do not fit the three counters that
stand for them. `MarkersInStep` is what it looks for; with it no marker fault is left.
-/

namespace Liminal

open Checked Fallible MarkerCredit ClaimFrontiers List

variable {floor : Nat} {markerMax : ResourceVector}

def OrdinaryProjectionError.markerFault : OrdinaryProjectionError → Bool
  | .markerCredit | .markerAnchor | .markerCreditAccounting _ _ | .markerAnchorAccounting _ _
  | .baselineAccounting _ _ => true
  | _ => false

abbrev MarkerFaultFree {α : Type} (x : Except OrdinaryProjectionError α) : Prop :=
  Avoids (fun error => error.markerFault = true) x

/-! ### Prices -/

theorem checkedAddResource_faultFree (current : WideResourceVector) (increment : ResourceVector) :
    MarkerFaultFree (checkedAddResource current increment) :=
  (avoids_orError nofun).bind fun _ _ => (avoids_orError nofun).bind fun _ _ => avoids_ok _

theorem checkedAddMarkerCharge_faultFree (current : WideResourceVector) (count : Nat)
    (markerMax : ResourceVector) : MarkerFaultFree (checkedAddMarkerCharge current count markerMax) :=
  (avoids_orError nofun).bind fun _ _ => (avoids_orError nofun).bind fun _ _ => avoids_ok _

theorem addRowCharges_faultFree (charge : WideResourceVector)
    (rows : List (RetainedCausalRecord × RetainedRecordCharge)) :
    MarkerFaultFree (addRowCharges floor credits markerMax charge rows) := by
  induction rows generalizing charge with
  | nil => exact avoids_ok _
  | cons row rest ih =>
    unfold addRowCharges
    split
    · exact ih charge
    · exact (checkedAddResource_faultFree _ _).bind fun _ _ => ih _

theorem retainedBaselineWide_faultFree (h : markerCredits ≤ identitySlots) :
    MarkerFaultFree (retainedBaselineWide retainedCharge identitySlots markerCredits markerMax) := by
  refine (avoids_orError fun _ => ?_).bind fun _ _ => checkedAddMarkerCharge_faultFree _ _ _
  rw [Option.isSome_iff_exists]
  exact ⟨_, sub_eq_some.mpr ⟨h, rfl⟩⟩

theorem positionedMarkers_faultFree (offset : Nat)
    (participants : List FrontierParticipant) : MarkerFaultFree
      (positionedMarkers callerMajor callerSequence physicalFloorAtDecision offset participants) := by
  induction participants generalizing offset with
  | nil => exact avoids_ok _
  | cons participant rest ih =>
    exact (avoids_orError nofun).bind fun _ _ => (ih (offset + 1)).bind fun _ _ => avoids_ok _

theorem checkRetainedRows_faultFree (index : Nat) (rows : List (RetainedCausalRecord × RetainedRecordCharge)) :
    MarkerFaultFree (checkRetainedRows floor index rows) := by
  induction rows generalizing index with
  | nil => exact avoids_ok _
  | cons row rest ih =>
    exact ((avoids_require nofun).bind fun _ _ => avoids_require nofun).bind fun _ _ => ih (index + 1)

namespace OrdinaryProjectionFacts

variable {facts : OrdinaryProjectionFacts} {markerState : MarkerState} {credits : List MarkerCredit}
  {candidateHighWatermark : DeliverySeq} {baseline : WideResourceVector}

theorem retainedChargeAtFloor_faultFree :
    MarkerFaultFree (facts.retainedChargeAtFloor floor credits newMarkerCount callerSequence) := by
  refine (addRowCharges_faultFree _ _).bind fun charge _ => ?_
  split
  · exact (checkedAddResource_faultFree _ _).bind fun _ _ => checkedAddMarkerCharge_faultFree _ _ _
  · exact (avoids_ok _).bind fun _ _ => checkedAddMarkerCharge_faultFree _ _ _

/-! ### The checks -/

/-- The markers the checks look for: retained, each of its own active participant and at its own position. -/
structure MarkersInStep (facts : OrdinaryProjectionFacts) : Prop where
  owned : ∀ record ∈ facts.activeMarkerCreditRecords, ∃ p ∈ facts.activeIdentities,
    record.markerOwner? = some p.participantIndex ∧ p.participantIndex < facts.identitySlotLimit
  retained : ∀ record ∈ facts.activeMarkerCreditRecords, record ∈ facts.retainedRecords
  distinct : facts.activeMarkerCreditRecords.Pairwise fun a b =>
    a.deliverySeq ≠ b.deliverySeq ∧ a.markerOwner? ≠ b.markerOwner?
  participants : (facts.activeIdentities.map FrontierParticipant.participantIndex).Nodup
  seats : facts.activeIdentities.length ≤ facts.identitySlotLimit
  anchors : facts.unacceptedMarkerAnchors.Sublist (facts.activeMarkerCreditRecords.map RetainedCausalRecord.deliverySeq)
  credits : facts.closureAccounting.markerCapacityCredits = facts.activeMarkerCreditRecords.length
  counted : facts.closureAccounting.markerAnchors = facts.unacceptedMarkerAnchors.length

theorem collectCredits_isOk (howned : ∀ record ∈ records, ∃ p ∈ facts.activeIdentities,
      record.markerOwner? = some p.participantIndex ∧ p.participantIndex < facts.identitySlotLimit)
    (hret : ∀ record ∈ records, record ∈ facts.retainedRecords) (hdistinct : records.Pairwise fun a b =>
      a.deliverySeq ≠ b.deliverySeq ∧ a.markerOwner? ≠ b.markerOwner?)
    (hfresh : ∀ record ∈ records, ∀ credit ∈ credits, credit.deliverySeq ≠ record.deliverySeq ∧
      some credit.participantIndex ≠ record.markerOwner?) :
    ∃ result, facts.collectCredits credits records = .ok result := by
  induction records generalizing credits with
  | nil => exact ⟨credits, rfl⟩
  | cons record rest ih =>
    simp only [forall_mem_cons] at howned hret hfresh
    obtain ⟨⟨p, hp, howner, hslot⟩, howned⟩ := howned
    obtain ⟨hfirst, hrest⟩ := pairwise_cons.mp hdistinct
    have hcredit : facts.markerCredit? credits record = some ⟨record.deliverySeq, p.participantIndex⟩ := by
      refine markerCredit?_eq_some.mpr ⟨⟨rfl, howner⟩, hslot, ⟨p, hp, rfl⟩, ?_, hret.1⟩
      intro credit hmem
      obtain ⟨hseq, hindex⟩ := hfresh.1 credit hmem
      rw [howner] at hindex
      exact ⟨hseq, fun heq => hindex (congrArg some heq)⟩
    have hnew : ∀ other ∈ rest, ∀ credit ∈ credits ++ [⟨record.deliverySeq, p.participantIndex⟩],
        credit.deliverySeq ≠ other.deliverySeq ∧ some credit.participantIndex ≠ other.markerOwner? := by
      intro other hother credit hmem
      rcases mem_append.mp hmem with hold | hlast
      · exact hfresh.2 other hother credit hold
      · rw [mem_singleton.mp hlast, ← howner]
        exact hfirst other hother
    obtain ⟨result, hresult⟩ := ih howned hret.2 hrest hnew
    refine ⟨result, ?_⟩
    simp only [collectCredits, ok_iff]
    exact ⟨_, hcredit, hresult⟩

section

variable (h : facts.MarkersInStep)
include h

/-- No two credits are for the same participant, and all are for active ones. -/
theorem MarkersInStep.creditOwners (hcredits : Forall₂ Credits facts.activeMarkerCreditRecords credits) :
    (credits.map participantIndex).Nodup ∧ credits.map participantIndex ⊆
        facts.activeIdentities.map FrontierParticipant.participantIndex := by
  have howners : facts.activeMarkerCreditRecords.map RetainedCausalRecord.markerOwner? =
      (credits.map participantIndex).map some := by
    rw [map_map]
    exact Keyed.map_eq_of_forall₂ (fun _ _ hcredit => hcredit.2) hcredits
  constructor
  · refine Nodup.of_map some ?_
    rw [← howners]
    exact pairwise_map.mpr (h.distinct.imp And.right)
  · intro participant hmem
    have howner := mem_map_of_mem (f := some) hmem
    rw [← howners] at howner
    obtain ⟨record, hrecord, heq⟩ := mem_map.mp howner
    obtain ⟨p, hp, hindex, -⟩ := h.owned record hrecord
    rw [heq, Option.some.injEq] at hindex
    exact mem_map.mpr ⟨p, hp, hindex.symm⟩

theorem MarkersInStep.length_le (hdistinct : owners.Nodup)
    (hactive : owners ⊆ facts.activeIdentities.map FrontierParticipant.participantIndex) :
    owners.length ≤ facts.identitySlotLimit := by
  have hle := (subperm_of_subset hdistinct hactive).length_le
  rw [length_map] at hle
  exact hle.trans h.seats

theorem MarkersInStep.validateMarkerState_faultFree : MarkerFaultFree facts.validateMarkerState := by
  obtain ⟨credits, hcollected⟩ : ∃ credits, facts.collectCredits [] facts.activeMarkerCreditRecords =
      .ok credits := collectCredits_isOk h.owned h.retained h.distinct nofun
  obtain ⟨_, rfl, hcredits⟩ := collectCredits_eq_ok hcollected
  obtain ⟨hdistinct, hactive⟩ := h.creditOwners hcredits
  have hplaces := Keyed.map_eq_of_forall₂ (fun _ _ hcredit => hcredit.1.symm) hcredits
  have hanchors := perm_insertionSort (· ≤ ·) facts.unacceptedMarkerAnchors
  have hnodup : (facts.unacceptedMarkerAnchors.insertionSort (· ≤ ·)).Nodup :=
    hanchors.nodup_iff.mpr ((pairwise_map.mpr (h.distinct.imp And.left)).sublist h.anchors)
  have hcredited : ∀ anchor ∈ facts.unacceptedMarkerAnchors.insertionSort (· ≤ ·),
      ∃ credit ∈ credits.insertionSort fun a b => a.deliverySeq ≤ b.deliverySeq, credit.deliverySeq = anchor := by
    intro anchor hanchor
    have hmem := h.anchors.subset (hanchors.mem_iff.mp hanchor)
    rw [hplaces] at hmem
    obtain ⟨credit, hcredit, hseq⟩ := mem_map.mp hmem
    exact ⟨credit, (mem_insertionSort _).mpr hcredit, hseq⟩
  unfold validateMarkerState
  refine (avoids_require fun _ => ?_).bind fun _ _ => ?_
  · rw [hcredits.length_eq, ← length_map participantIndex]
    exact h.length_le hdistinct hactive
  rw [hcollected]
  refine (avoids_ok _).bind fun collected hok => ?_
  obtain rfl := Except.ok.inj hok
  refine (avoids_require fun _ => ?_).bind fun _ _ =>
    (avoids_require fun _ => ⟨hnodup, hcredited⟩).bind fun _ _ => ?_
  · rw [length_insertionSort, ← hcredits.length_eq, h.credits]
  refine (avoids_require fun _ => ?_).bind fun _ _ => avoids_ok _
  rw [length_insertionSort, h.counted]

/-! ### The floor search -/

/-- Credits and new markers are for different active participants, so there are seats for all of them. -/
theorem MarkersInStep.markers_le_seats
    (hdistinct : (credits.map participantIndex).Nodup) (hactive : credits.map participantIndex ⊆
      facts.activeIdentities.map FrontierParticipant.participantIndex) (floor : Nat) :
    credits.length + (newlyOvertaken facts.activeIdentities credits floor).length ≤ facts.identitySlotLimit := by
  have hnew : (newlyOvertaken facts.activeIdentities credits floor).Sublist facts.activeIdentities :=
    filter_sublist
  have hall : (credits.map participantIndex ++ (newlyOvertaken facts.activeIdentities
      credits floor).map FrontierParticipant.participantIndex).Nodup := by
    refine nodup_append.mpr ⟨hdistinct, h.participants.sublist (hnew.map _), ?_⟩
    intro owner howner other hother heq
    obtain ⟨credit, hcredit, rfl⟩ := mem_map.mp howner
    obtain ⟨p, hp, rfl⟩ := mem_map.mp hother
    obtain ⟨-, hfree⟩ := Bool.and_eq_true_iff.mp (mem_filter.mp hp).2
    rw [Bool.not_eq_true', any_eq_false] at hfree
    exact hfree credit hcredit (beq_iff_eq.mpr heq)
  have hle := h.length_le hall (append_subset.mpr ⟨hactive, (hnew.map _).subset⟩)
  rwa [length_append, length_map, length_map] at hle

theorem MarkersInStep.capacityAt_faultFree (hstate : facts.validateMarkerState =
    .ok markerState) : MarkerFaultFree (facts.capacityAt markerState candidateHighWatermark floor) := by
  obtain ⟨⟨credits, hcredits, hsorted⟩, -⟩ := validateMarkerState_eq_ok hstate
  obtain ⟨hdistinct, hactive⟩ := h.creditOwners hcredits
  have hperm : (markerState.credits.map participantIndex).Perm (credits.map participantIndex) :=
    (hsorted ▸ perm_insertionSort _ credits).map _
  have hsurviving : ((markerState.credits.filter fun credit => floor ≤ credit.deliverySeq).map
      participantIndex).Sublist (markerState.credits.map participantIndex) :=
    filter_sublist.map _
  refine retainedChargeAtFloor_faultFree.bind fun _ _ => (avoids_orError nofun).bind fun sum hsum => ?_
  obtain ⟨-, rfl⟩ := add_eq_some.mp (orError_eq_ok.mp hsum)
  exact (retainedBaselineWide_faultFree (h.markers_le_seats ((hperm.nodup_iff.mpr hdistinct).sublist hsurviving)
    (fun owner howner => hactive (hperm.mem_iff.mp (hsurviving.subset howner))) floor)).bind
    fun _ _ => avoids_ok _

end

theorem requiredMaximum_faultFree : MarkerFaultFree (facts.requiredMaximum baseline) :=
  (avoids_mapError nofun _).map _

theorem refuseAnchor_faultFree : MarkerFaultFree (facts.refuseAnchor baseline anchor) :=
  requiredMaximum_faultFree.bind fun _ _ => avoids_error nofun

theorem acceptFloor_faultFree : MarkerFaultFree (facts.acceptFloor markerState search) := by
  unfold acceptFloor
  split
  · exact refuseAnchor_faultFree
  · exact avoids_ok _

variable (h : facts.MarkersInStep)
include h

theorem MarkersInStep.searchCapacityFloor_faultFree
    (hstate : facts.validateMarkerState = .ok markerState) (floor : Nat) (ahead : List DeliverySeq) :
    MarkerFaultFree (facts.searchCapacityFloor markerState candidateHighWatermark floor ahead) := by
  induction ahead generalizing floor with
  | nil =>
    refine (h.capacityAt_faultFree hstate).bind fun search _ => ?_
    split
    · exact acceptFloor_faultFree
    · exact requiredMaximum_faultFree.bind fun _ _ => avoids_error nofun
  | cons next rest ih =>
    unfold searchCapacityFloor
    split
    · exact ih floor
    · refine (h.capacityAt_faultFree hstate).bind fun search _ => ?_
      split
      · exact acceptFloor_faultFree
      · split
        · exact refuseAnchor_faultFree
        · exact ih (next + 1)

/-- The snapshot passes or fails for another reason, if the baseline is the one its rows give. -/
theorem MarkersInStep.validateSnapshot_faultFree
    (hbaseline : ∀ markerState charge baseline, facts.validateMarkerState = .ok markerState →
      facts.retainedChargeAtFloor facts.currentFloor markerState.credits 0 none = .ok charge →
      retainedBaselineWide charge facts.identitySlotLimit markerState.credits.length
        facts.limits.markerMax = .ok baseline → baseline = facts.closureAccounting.baseline) :
    MarkerFaultFree facts.validateSnapshot := by
  have hclear : MarkerFaultFree facts.validateClearSnapshot :=
    (avoids_require nofun).bind fun _ _ => (avoids_require nofun).bind fun _ _ => avoids_require nofun
  have hsuffix : MarkerFaultFree facts.validateRetainedSuffix :=
    (avoids_orError nofun).bind fun _ _ => (avoids_require nofun).bind fun _ _ =>
      (checkRetainedRows_faultFree _ _).bind fun _ _ => avoids_require nofun
  refine hclear.bind fun _ _ => (avoids_require nofun).bind fun _ _ => hsuffix.bind fun _ _ =>
    h.validateMarkerState_faultFree.bind fun markerState hstate =>
      retainedChargeAtFloor_faultFree.bind fun charge hcharge => ?_
  obtain ⟨⟨credits, hcredits, hsorted⟩, -⟩ := validateMarkerState_eq_ok hstate
  obtain ⟨hdistinct, hactive⟩ := h.creditOwners hcredits
  have hseats : markerState.credits.length ≤ facts.identitySlotLimit := by
    have hle := h.length_le hdistinct hactive
    rwa [length_map, ← length_insertionSort (fun a b : MarkerCredit =>
      a.deliverySeq ≤ b.deliverySeq) credits, ← hsorted] at hle
  exact (retainedBaselineWide_faultFree hseats).bind fun baseline hbase =>
    (avoids_require fun _ => hbaseline markerState charge baseline hstate hcharge hbase).bind
      fun _ _ => avoids_ok _

theorem MarkersInStep.projectRecord_faultFree
    (hsnapshot : MarkerFaultFree facts.validateSnapshot) : MarkerFaultFree facts.projectRecord := by
  refine hsnapshot.bind fun markerState hstate => (avoids_mapError nofun _).bind fun _ _ =>
    (avoids_orError nofun).bind fun high _ => ?_
  have hsearch : MarkerFaultFree (facts.searchFloor markerState high) :=
    (h.searchCapacityFloor_faultFree (validateSnapshot_eq_ok hstate).2.2.2.1 _ _).bind
      fun _ _ => (avoids_require nofun).bind fun _ _ => avoids_ok _
  exact hsearch.bind fun _ _ => (avoids_mapError nofun _).bind fun _ _ =>
    (avoids_mapError nofun _).bind fun _ _ => (avoids_require nofun).bind fun _ _ =>
    (positionedMarkers_faultFree _ _).bind fun _ _ => (avoids_orError nofun).bind fun _ _ =>
    (avoids_orError nofun).bind fun _ _ => (avoids_mapError nofun _).bind fun _ _ =>
    (avoids_require nofun).bind fun _ _ => (avoids_mapError nofun _).bind fun _ _ => avoids_ok _

end OrdinaryProjectionFacts

namespace ClaimFrontiers

variable {f : ClaimFrontiers} {input : OrdinaryRecordProjectionInput}

theorem projectOrdinaryRecord_faultFree (h : f.sequence.immutableCandidates = [] →
      MarkerFaultFree (f.ordinaryProjectionFacts input).projectRecord) :
    MarkerFaultFree (f.projectOrdinaryRecord input) := by
  have hfixed : MarkerFaultFree (projectOrdinaryFixedPoint (f.ordinaryProjectionFacts input)) := by
    unfold projectOrdinaryFixedPoint
    split
    · exact avoids_ok _
    · exact (h ‹_›).map _
  refine (avoids_require nofun).bind fun _ _ => hfixed.bind fun decision _ => ?_
  cases decision with
  | drainFirst candidate => exact avoids_ok _
  | projected plan =>
    have happly : MarkerFaultFree (f.applyOrdinaryProjection plan) :=
      (avoids_orError nofun).bind fun _ _ => (avoids_require nofun).bind fun _ _ =>
        (avoids_require nofun).bind fun _ _ => (avoids_mapError nofun _).bind fun _ _ => avoids_ok _
    exact (avoids_require nofun).bind fun _ _ => (avoids_require nofun).bind fun _ _ =>
      happly.bind fun _ _ => avoids_ok _

end ClaimFrontiers

namespace LiveFrontierOwner

variable {owner : LiveFrontierOwner} {limits : OrdinaryProjectionLimits} {request : RecordAdmission}
  {receivingBindingEpoch : BindingEpoch} {encodedRecordCharge : ResourceVector} {observerProgress : DeliverySeq}

section

variable (haccounted : owner.Accounted limits) (hsound : owner.Sound)
include haccounted hsound

/-- What the projection reads of an owner whose markers are held and counted. -/
theorem Accounted.markersInStep
    (hcounted : owner.AnchorsCounted) (hnil : owner.frontiers.sequence.immutableCandidates = []) :
    (owner.frontiers.ordinaryProjectionFacts (owner.projectionInput request receivingBindingEpoch
      encodedRecordCharge observerProgress limits)).MarkersInStep where
  owned := by
    intro record hrecord
    obtain ⟨participant, howner⟩ := haccounted.held.owned record hrecord
    have hactive := haccounted.held.active participant (mem_markerOwners hrecord howner)
    obtain ⟨p, hp, rfl⟩ := mem_map.mp hactive
    exact ⟨p, hp, howner, (hsound.seated.admissible p hp).1⟩
  retained := haccounted.held.retained
  distinct := by
    have hplaces := pairwise_map.mp (hsound.markerPositions_nodup haccounted.held)
    have howners := pairwise_filterMap.mp (nodup_append.mp haccounted.held.distinct).1
    refine (hplaces.and howners).imp_of_mem fun hrecord _ h => ⟨h.1, fun hsame => ?_⟩
    obtain ⟨participant, howner⟩ := haccounted.held.owned _ hrecord
    exact h.2 participant howner participant (hsame ▸ howner) rfl
  participants := owner.frontiers.activeIdentities.indexes_nodup
  seats := hsound.seated.count
  anchors := by
    change owner.frontiers.ordinaryUnacceptedMarkerAnchors.Sublist _
    rw [ordinaryUnacceptedMarkerAnchors_eq]
    exact filter_sublist.map _
  credits := by
    refine haccounted.credits.trans ?_
    rw [markerCandidates_of_nil hnil]
    rfl
  counted := by
    refine hcounted.trans ?_
    rw [derivedAnchors, markerCandidates_of_nil hnil]
    rfl

theorem Accounted.currentBaseline {markerState baseline}
    (hstate : (owner.frontiers.ordinaryProjectionFacts (owner.projectionInput request
      receivingBindingEpoch encodedRecordCharge observerProgress limits)).validateMarkerState =
        .ok markerState) (hcharge : (owner.frontiers.ordinaryProjectionFacts (owner.projectionInput request
      receivingBindingEpoch encodedRecordCharge observerProgress limits)).retainedChargeAtFloor
        owner.frontiers.retainedFloor markerState.credits 0 none = .ok charge)
    (hbaseline : retainedBaselineWide charge owner.frontiers.identitySlotLimit
      markerState.credits.length limits.markerMax = .ok baseline) : baseline = owner.closureAccounting.baseline := by
  obtain ⟨⟨credits, hcredits, hsorted⟩, -⟩ := OrdinaryProjectionFacts.validateMarkerState_eq_ok hstate
  have hperm : markerState.credits.Perm credits := hsorted ▸ perm_insertionSort _ credits
  have hmapped : owner.frontiers.markerRecords.map RetainedCausalRecord.deliverySeq =
      credits.map deliverySeq :=
    Keyed.map_eq_of_forall₂ (fun _ _ hcredit => hcredit.1.symm) hcredits
  have hplaces := hperm.map deliverySeq
  rw [← hmapped] at hplaces
  have hlength : markerState.credits.length = owner.frontiers.markerRecords.length := by
    simpa using hplaces.length_eq
  -- nothing retained lies below the floor
  have hmarkers : owner.frontiers.markerRecords = owner.frontiers.markerRecords.filter fun record =>
      owner.frontiers.retainedFloor ≤ record.deliverySeq :=
    (filter_eq_self.mpr fun record hrecord =>
      decide_eq_true (hsound.floor_le_record (haccounted.held.retained record hrecord))).symm
  have hcharges : owner.chargesFrom owner.frontiers.retainedFloor = owner.retainedCharges := by
    refine filter_eq_self.mpr fun charge hmem => decide_eq_true ?_
    have hplace := mem_map_of_mem (f := RetainedRecordCharge.deliverySeq) hmem
    rw [hsound.chargePositions, mem_range'_1] at hplace
    exact hplace.1
  have hrows := ((retainedChargeAtFloor_eq_ok hsound.keyed).mp hcharge).1
  change charge = rowsCharge markerState.credits limits.markerMax
    (owner.chargesFrom owner.frontiers.retainedFloor) + .zero + limits.markerMax.times 0 at hrows
  rw [rowsCharge_eq hsound haccounted.held hmarkers hplaces, hcharges, ResourceVector.times_zero,
    WideResourceVector.add_zero, WideResourceVector.add_zero] at hrows
  obtain ⟨hslots, hresult, -⟩ := retainedBaselineWide_eq_ok.mp hbaseline
  rw [haccounted.baseline, derivedBaseline, hresult, hrows, hlength, WideResourceVector.add_assoc,
    ← ResourceVector.times_add, Nat.add_sub_cancel' (hlength ▸ hslots)]
  rfl

/-- A record is not refused for the markers of an owner that holds and counts them. -/
theorem Accounted.projectOrdinaryRecord_faultFree (hcounted : owner.AnchorsCounted) :
    MarkerFaultFree (owner.frontiers.projectOrdinaryRecord (owner.projectionInput request
      receivingBindingEpoch encodedRecordCharge observerProgress limits)) := by
  refine ClaimFrontiers.projectOrdinaryRecord_faultFree fun hnil => ?_
  have hstep : (owner.frontiers.ordinaryProjectionFacts (owner.projectionInput request
      receivingBindingEpoch encodedRecordCharge observerProgress limits)).MarkersInStep :=
    haccounted.markersInStep hsound hcounted hnil
  exact hstep.projectRecord_faultFree (hstep.validateSnapshot_faultFree fun _ _ _ => haccounted.currentBaseline hsound)

end

end LiveFrontierOwner

namespace Conversation

variable {s s' : Conversation}

/-- A fate that passes an unread marker, or a Leave that leaves a read one behind, is the end of the count. -/
theorem markersSettled_of_counted (h : conversationMachine.Reaches MarkersSettled s) {op : Operation}
    (hnext : s.apply op = some s') (hcounted : s'.owner.AnchorsCounted) : MarkersSettled s op := by
  have hsound := sound_of_reachable h.reachable
  have hcoupled := coupled_of_reachable h.reachable
  have hheld := (accounted_of_reachable h.reachable).held
  have hbefore := (anchored_of_reaches h).counted
  cases op with
  | bindingFate participant kind observer =>
    simp only [apply, bindingFate, some_iff, Prod.exists] at hnext
    obtain ⟨slot, hslot, token, htoken, terminal, -, owner, fate, hprepare, rfl⟩ := hnext
    obtain ⟨-, rfl, hfound⟩ := slot?_eq_some hslot
    refine ⟨fun participant hpart => ?_, fun _ hleaves => (by cases hleaves)⟩
    cases hpart
    exact (fated_anchors hsound hcoupled hheld hbefore hfound htoken hprepare).mp hcounted
  | leave request proof leftDeliverySeq charge =>
    simp only [apply, leave, some_iff] at hnext
    obtain ⟨slot, hslot, verified, -, committed, hcommit, rfl⟩ := hnext
    obtain ⟨-, hid, -⟩ := slot?_eq_some hslot
    obtain ⟨-, -, order, hleaving⟩ :=
      LiveFrontierOwner.commitSettledLeaveFrontier_eq_ok hsound.laidOut hcommit
    refine ⟨fun _ hfated => (by cases hfated), fun participant hpart => ?_⟩
    cases hpart
    exact hid ▸ (left_anchors hheld hbefore hleaving).mp hcounted
  | leavePending request proof parameters terminalCharge leftCharge =>
    simp only [apply, leavePending, bind_eq_some] at hnext
    obtain ⟨slot, hslot, hnext⟩ := hnext
    obtain ⟨-, hid, -⟩ := slot?_eq_some hslot
    split at hnext
    · simp only [some_iff] at hnext
      obtain ⟨verified, -, committed, hcommit, rfl⟩ := hnext
      obtain ⟨-, -, order, hleaving⟩ :=
        LiveFrontierOwner.commitPendingLeaveFrontier_eq_ok hsound.laidOut hcommit
      refine ⟨fun _ hfated => (by cases hfated), fun participant hpart => ?_⟩
      cases hpart
      exact hid ▸ (left_anchors hheld hbefore hleaving).mp hcounted
    · cases hnext
  | _ => exact ⟨fun _ hfated => (by cases hfated), fun _ hleaves => (by cases hleaves)⟩

/-- As long as markers are settled, no record is refused for the accounting; the first operation that finds
one unsettled puts the anchors out of step. -/
theorem marker_accounting_in_step (h : conversationMachine.Reaches MarkersSettled s) :
    s.owner.closureAccounting.markerCapacityCredits =
        s.owner.frontiers.markerRecords.length + s.owner.frontiers.markerCandidates.length ∧
      s.owner.closureAccounting.markerAnchors = s.owner.frontiers.ordinaryUnacceptedMarkerAnchors.length +
        s.owner.frontiers.markerCandidates.length ∧
      s.owner.closureAccounting.baseline = s.owner.derivedBaseline s.config.limits ∧
      (∀ request epoch charge observer error, s.owner.frontiers.projectOrdinaryRecord
        (s.owner.projectionInput request epoch charge observer s.config.limits) = .error error →
          error.markerFault = false) ∧
      ∀ op s', s.apply op = some s' → (s'.owner.AnchorsCounted ↔ MarkersSettled s op) := by
  have haccounted := accounted_of_reachable h.reachable
  have hcounted := (anchored_of_reaches h).counted
  refine ⟨haccounted.credits, hcounted, haccounted.baseline, ?_, fun op s' hnext => ?_⟩
  · intro request epoch charge observer error herror
    exact Bool.not_eq_true _ ▸ haccounted.projectOrdinaryRecord_faultFree
      (sound_of_reachable h.reachable) hcounted error herror
  · exact ⟨markersSettled_of_counted h hnext, fun hsettled =>
      (anchored_of_reaches (.next h hsettled hnext)).counted⟩

/-- The second of two members is overtaken by a record and gets its marker, at position six. -/
def overtaken : List Operation := [ .enroll ⟨0, 1, 2, Nat.one_lt_two⟩ (unitEpoch 1 1) 1 2
  (unitCharge 2 ⟨1, .attachLifecycle, 1⟩), .detach ⟨0, 1, 1, 0⟩ 0 2 3 (unitCharge 3 ⟨2, .bindingTerminal, 1⟩),
  .attachDetached ⟨0, 1, 1, none⟩ .verified ⟨⟨1, 0, unitEpoch 1 2⟩, 3, 4⟩
    ⟨none, unitCharge 4 ⟨3, .attachLifecycle, 1⟩⟩, .ack ⟨0, 0, 1, 4⟩ (unitEpoch 0 1) (.contiguous 4),
  .admitRecord ⟨0, 0, 1⟩ (unitEpoch 0 1) ⟨1, 1⟩ 4, .drainMarker (unitCharge 6 ⟨4, .compactionMarker, 1⟩)]

def overtakenReads : Operation :=
  .ackMarker ⟨0, 1, 2, 6⟩ (unitEpoch 1 2) ⟨false, some 6, some (.marker 0 1 (unitEpoch 1 2) 6 6)⟩

def overtakenFate : List Operation := [
  .endBinding 1 (.died .connectionLost) 5 7 4 (unitCharge 7 ⟨5, .bindingTerminal, 1⟩), .bindingFate 1 .ordinary 4]

def nextRecord (s : Conversation) : Except OrdinaryProjectionError OrdinaryRecordProjectionDecision :=
  s.owner.frontiers.projectOrdinaryRecord (s.owner.projectionInput ⟨0, 0, 1⟩ (unitEpoch 0 1) ⟨1, 1⟩ 4 s.config.limits)

/-- A marker that was read before its participant died. -/
theorem marker_accounting_in_step_overtaken : ∃ s, unitRunWithin MarkersSettled ⟨8, 100⟩ 2 50
    (overtaken ++ overtakenReads :: overtakenFate) = some s ∧ s.owner.frontiers.markerRecords.length = 1 ∧
    s.owner.frontiers.markerCandidates = [] ∧ s.owner.closureAccounting.markerCapacityCredits = 1 ∧ ∀ error,
    s.nextRecord = .error error → error.markerFault = false := by
  refine exists_of_any_imp₂ (by decide) fun s hs hmarkers hcandidates => ?_
  obtain ⟨hcredits, -, -, hfaults, -⟩ := marker_accounting_in_step (unitRunWithin_reaches hs)
  rw [hmarkers, hcandidates] at hcredits
  exact ⟨hcredits, hfaults _ _ _ _⟩

/-- Nobody has two markers, none outlives its participant, and each has one credit, so every credit has a seat. -/
theorem markers_one_each (h : conversationMachine.Reachable s) : s.owner.frontiers.markerOwners.Nodup ∧
      s.owner.frontiers.markerOwners ⊆ s.owner.frontiers.activeIdentities.indexes ∧
      s.owner.closureAccounting.markerCapacityCredits = s.owner.frontiers.markerOwners.length ∧
      s.owner.closureAccounting.markerCapacityCredits ≤ s.owner.frontiers.identitySlotLimit := by
  obtain ⟨⟨-, howned, hactive, hdistinct⟩, hcredits, -, -⟩ := accounted_of_reachable h
  have hcount : s.owner.closureAccounting.markerCapacityCredits = s.owner.frontiers.markerOwners.length := by
    rw [hcredits, markerOwners, length_append, length_map, filterMap_length_eq_length.mpr]
    exact fun record hrecord => Option.isSome_iff_exists.mpr (howned record hrecord)
  refine ⟨hdistinct, hactive, hcount, hcount.trans_le ?_⟩
  calc s.owner.frontiers.markerOwners.length
    _ ≤ s.owner.frontiers.activeIdentities.indexes.length := (subperm_of_subset hdistinct hactive).length_le
    _ = s.owner.frontiers.activeIdentities.participants.length := length_map _
    _ ≤ _ := (sound_of_reachable h).seated.count

theorem markers_one_each_overtaken : ∃ s, unitRun ⟨8, 100⟩ 2 50 overtaken = some s ∧
    s.owner.frontiers.markerOwners = [1] ∧ s.owner.closureAccounting.markerCapacityCredits = 1 := by
  refine exists_of_any_imp (by decide) fun s hs howners => ?_
  obtain ⟨-, -, hcredits, -⟩ := markers_one_each (unitRun_reachable hs)
  rw [hcredits, howners]
  rfl

/-- Of three members two are overtaken; one of them reads its marker and leaves. -/
def overtakenLeave : List Operation := [
  .enroll ⟨0, 1, 3, by decide⟩ (unitEpoch 1 1) 1 2 (unitCharge 2 ⟨1, .attachLifecycle, 1⟩),
  .enroll ⟨0, 2, 3, by decide⟩ (unitEpoch 2 1) 2 3 (unitCharge 3 ⟨2, .attachLifecycle, 2⟩),
  .ack ⟨0, 0, 1, 3⟩ (unitEpoch 0 1) (.contiguous 3), .admitRecord ⟨0, 0, 1⟩ (unitEpoch 0 1) ⟨1, 1⟩ 3,
  .drainMarker (unitCharge 5 ⟨3, .compactionMarker, 1⟩), .drainMarker (unitCharge 6 ⟨3, .compactionMarker, 2⟩),
  .ackMarker ⟨0, 1, 1, 5⟩ (unitEpoch 1 1) ⟨false, some 5, some (.marker 0 1 (unitEpoch 1 1) 5 5)⟩,
  .leave ⟨0, 1, 1⟩ .verified 7 (unitCharge 7 ⟨8, .membershipExit, 1⟩)]

/-- The fate leaves an anchor behind that nobody holds, the Leave takes one away that is still held. Both
times the next record is refused. -/
theorem marker_anchors_drift : (∃ s, unitRun ⟨8, 100⟩ 2 50 (overtaken ++ overtakenFate) = some s ∧
      conversationMachine.Reachable s ∧ s.owner.closureAccounting.markerAnchors = 1 ∧
      s.owner.frontiers.ordinaryUnacceptedMarkerAnchors = [] ∧ s.owner.frontiers.markerCandidates = [] ∧
      s.nextRecord = .error (.markerAnchorAccounting 0 1)) ∧
    ∃ s, unitRun ⟨8, 100⟩ 3 50 overtakenLeave = some s ∧ conversationMachine.Reachable s ∧
      s.owner.closureAccounting.markerAnchors = 0 ∧ s.owner.frontiers.ordinaryUnacceptedMarkerAnchors = [6] ∧
      s.owner.frontiers.markerCandidates = [] ∧ s.nextRecord = .error (.markerAnchorAccounting 1 0) :=
  ⟨exists_of_any_and (fun _ => unitRun_reachable) (by decide),
    exists_of_any_and (fun _ => unitRun_reachable) (by decide)⟩

end Conversation

end Liminal
