import Liminal.Conversation.Deaths

/-!
# Floors and fates

The fate of a dead binding moves the floor. It is measured against one owner and, when its terminal
had to wait, installed in a later one, clamped anew to what is then retained. In every reachable
conversation the clamp leaves nothing to refuse.
-/

namespace Liminal

open Checked Fallible ClaimFrontiers

namespace LiveFrontierOwner

variable {owner owner' : LiveFrontierOwner} {limits : OrdinaryProjectionLimits}

theorem Sound.floor_le (h : owner.Sound) : owner.frontiers.retainedFloor ≤ owner.frontiers.high + 1 :=
  (Nat.le_add_right _ _).trans_eq h.logged.retained.2

theorem Sound.floor_le_record (h : owner.Sound)
    (hrecord : record ∈ owner.frontiers.retainedRecords) : owner.frontiers.retainedFloor ≤ record.deliverySeq := by
  have hplace := List.mem_map_of_mem (f := RetainedCausalRecord.deliverySeq) hrecord
  rw [h.logged.retained.1, List.mem_range'_1] at hplace
  exact hplace.1

/-- What lies below a floor that spares the markers is part of the baseline, so it can be released. -/
theorem Accounted.accountingAfterFloor_isSome (hcounted : owner.Accounted limits) (hsound : owner.Sound) {floor : Nat}
    (hspared : ∀ record ∈ owner.frontiers.markerRecords, floor ≤ record.deliverySeq) :
    ∃ accounting, owner.closureAccounting.accountingAfterFloor (owner.releasedBelow floor) = some accounting := by
  have hbase : owner.closureAccounting.baseline = chargeTotal ((owner.chargesFrom floor).filter
      (plainAmong owner.frontiers.markerRecords)) + limits.markerMax.times
        owner.frontiers.identitySlotLimit + chargeTotal (owner.releasedBelow floor) := by
    rw [hcounted.baseline, derivedBaseline, plainCharges_split hsound hspared, WideResourceVector.ext_iff]
    simp only [WideResourceVector.add_entries, WideResourceVector.add_bytes]
    omega
  have hfits := owner.closureAccounting.facts.2.1
  rw [hbase] at hfits
  have hkept : WideResourceVector.Fits (chargeTotal ((owner.chargesFrom floor).filter
      (plainAmong owner.frontiers.markerRecords)) + limits.markerMax.times
        owner.frontiers.identitySlotLimit) owner.closureAccounting.configuredCap :=
    ⟨Nat.le_of_add_right_le hfits.1, Nat.le_of_add_right_le hfits.2⟩
  obtain ⟨accounting, hacct, -⟩ := ClosureAccounting.tryNew_of_baseline hkept
  refine ⟨accounting, ?_⟩
  simp only [ClosureAccounting.accountingAfterFloor, some_iff]
  exact ⟨_, subCharges_of_eq hbase, hacct⟩

theorem Accounted.floored (hcounted : owner.Accounted limits) (hsound : owner.Sound)
    (hfloor : owner.frontiers.checkFateFloor floor = .ok ())
    (hclaimants : SameClaimants active owner.frontiers.activeIdentities)
    (hseated : ∀ p ∈ active.participants, p ∈ owner.frontiers.activeIdentities.participants ∨
      ActiveIdentityRanks.Admissible owner.frontiers.high owner.frontiers.identitySlotLimit p) :
    ∃ owner', owner.Floored owner' active floor := by
  obtain ⟨-, -, hmarkers⟩ := checkFateFloor_eq_ok.mp hfloor
  obtain ⟨accounting, hacct⟩ := hcounted.accountingAfterFloor_isSome hsound hmarkers
  exact ⟨⟨compactTo { owner.frontiers with activeIdentities := active } floor, accounting,
    owner.chargesFrom floor, owner.retainedRecordLimit⟩, {
      keyed := chargesKeyed_iff.mpr hsound.keyed
      admissible := hfloor
      claimants := hclaimants
      seated := hseated
      frontiers := rfl
      charges := rfl
      accounting := hacct
      limit := rfl }⟩

theorem Floored.markers_kept (h : owner.Floored owner' active floor) :
    owner'.frontiers.markerRecords = owner.frontiers.markerRecords := by
  rw [h.frontiers]
  exact List.filter_eq_self.mpr fun record hrecord =>
    decide_eq_true ((checkFateFloor_eq_ok.mp h.admissible).2.2 record hrecord)

end LiveFrontierOwner

namespace Conversation

variable {s : Conversation}

/-- A floor once measured can be installed at any later time. It never moves back or beyond the log, and takes
no marker with it. -/
theorem finalized_floor_installs (h : conversationMachine.Reachable s) (measuredFloor : DeliverySeq) :
    ∃ owner', s.owner.installFinalizedBindingFateFloor measuredFloor = .ok owner' ∧ s.owner.frontiers.retainedFloor ≤
      owner'.frontiers.retainedFloor ∧ owner'.frontiers.retainedFloor ≤
      max s.owner.frontiers.retainedFloor measuredFloor ∧ owner'.frontiers.retainedFloor ≤ s.owner.frontiers.high + 1 ∧
      owner'.frontiers.markerRecords = s.owner.frontiers.markerRecords ∧ ∀ record ∈ s.owner.frontiers.markerRecords,
      record ∈ owner'.frontiers.retainedRecords := by
  have hsound := sound_of_reachable h
  have haccounted := accounted_of_reachable h
  have hheld := haccounted.held.retained
  have hkeyed := chargesKeyed_iff.mpr hsound.keyed
  cases hadmissible : admissibleInstalledFloor measuredFloor s.owner.frontiers.retainedFloor
      s.owner.lowestRetainedMarkerSeq s.owner.frontiers.high with
  | subsumed =>
    refine ⟨s.owner, ?_, Nat.le_refl _, Nat.le_max_left _ _, hsound.floor_le, rfl, hheld⟩
    simp only [LiveFrontierOwner.installFinalizedBindingFateFloor, ok_iff, hadmissible, and_true]
    exact hkeyed
  | install floor =>
    obtain ⟨hfloor, hmeasured, hend, hmarkers⟩ := admissibleInstalledFloor_eq_install hadmissible
    have hspared := LiveFrontierOwner.le_lowestRetainedMarkerSeq.mp hmarkers
    obtain ⟨owner', hfloored⟩ := haccounted.floored hsound (checkFateFloor_eq_ok.mpr ⟨hfloor, hend, hspared⟩) ⟨rfl, rfl⟩
      (fun p hp => Or.inl hp)
    have hretained : ∀ record ∈ s.owner.frontiers.markerRecords, record ∈ owner'.frontiers.retainedRecords := by
      intro record hrecord
      rw [hfloored.frontiers]
      exact List.mem_filter.mpr ⟨hheld record hrecord, decide_eq_true (hspared record hrecord)⟩
    have hresult : owner'.frontiers.retainedFloor = floor := by
      rw [hfloored.frontiers]
      rfl
    refine ⟨_, hfloored.installFinalized hadmissible, ?_, ?_, ?_, hfloored.markers_kept, hretained⟩
    · exact hfloor.trans_eq hresult.symm
    · exact hresult.trans_le (hmeasured.trans (Nat.le_max_right _ _))
    · exact hresult.trans_le hend

/-- A floor far beyond the log, installed while a death is pended. -/
theorem finalized_floor_installs_pendedDeath : ∃ s, pendedDeath = some s ∧
    ∃ owner', s.owner.installFinalizedBindingFateFloor 9 = .ok owner' ∧
      1 ≤ owner'.frontiers.retainedFloor ∧ owner'.frontiers.retainedFloor ≤ 3 := by
  obtain ⟨s, hs, hhigh, hfloor⟩ : ∃ s, pendedDeath = some s ∧ s.owner.frontiers.high = 2 ∧
      s.owner.frontiers.retainedFloor = 1 := exists_of_any (by decide)
  obtain ⟨owner', hinstalled, hback, -, hend, -⟩ := finalized_floor_installs (unitRun_reachable hs) 9
  rw [hfloor] at hback
  rw [hhigh] at hend
  exact ⟨s, hs, owner', hinstalled, hback, hend⟩

end Conversation

end Liminal
