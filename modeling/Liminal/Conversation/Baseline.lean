import Liminal.Conversation.Accounting

/-!
# The baseline

What the retained rows cost. The source prices a credited marker at the maximum and adds one maximum
for every identity slot without a credit; so the baseline is the exact charge of all other rows plus
one maximum marker for each slot. Every operation keeps that value.
-/

namespace Liminal

open Checked Fallible WideResourceVector RetainedCausalRecord OrdinaryProjectionFacts ClaimFrontiers
open List

variable {current result : WideResourceVector} {markerMax : ResourceVector}
  {credits : List MarkerCredit} {floor : Nat} {facts : OrdinaryProjectionFacts}

/-! ### Sums in `u128` -/

namespace WideResourceVector

def InRange (v : WideResourceVector) : Prop := v.entries ≤ u128Max ∧ v.bytes ≤ u128Max

theorem InRange.left {v w : WideResourceVector} (h : (v + w).InRange) : v.InRange :=
  ⟨Nat.le_of_add_right_le h.1, Nat.le_of_add_right_le h.2⟩

theorem add_assoc (u v w : WideResourceVector) : u + v + w = u + (v + w) := by
  rw [WideResourceVector.ext_iff]
  exact ⟨Nat.add_assoc _ _ _, Nat.add_assoc _ _ _⟩

theorem add_right_comm (u v w : WideResourceVector) : u + v + w = u + w + v := by
  rw [WideResourceVector.ext_iff]
  exact ⟨Nat.add_right_comm _ _ _, Nat.add_right_comm _ _ _⟩

@[simp] theorem add_zero (v : WideResourceVector) : v + .zero = v := rfl

@[simp] theorem zero_add (v : WideResourceVector) : .zero + v = v := by
  rw [WideResourceVector.ext_iff]
  exact ⟨Nat.zero_add _, Nat.zero_add _⟩

end WideResourceVector

namespace ResourceVector

variable (v : ResourceVector)

def times (count : Nat) : WideResourceVector :=
  ⟨count * v.entries, count * v.bytes⟩

@[simp] theorem times_zero : v.times 0 = .zero := by
  simp [times, zero]

theorem times_add (m n : Nat) : v.times (m + n) = v.times m + v.times n := by
  rw [WideResourceVector.ext_iff]
  exact ⟨Nat.add_mul _ _ _, Nat.add_mul _ _ _⟩

theorem times_succ (n : Nat) : v.times (n + 1) = v.widen + v.times n := by
  rw [WideResourceVector.ext_iff]
  exact ⟨(Nat.succ_mul _ _).trans (Nat.add_comm _ _), (Nat.succ_mul _ _).trans (Nat.add_comm _ _)⟩

end ResourceVector

theorem checkedAddResource_eq_ok : checkedAddResource current increment = .ok result ↔
      result = current + increment.widen ∧ result.InRange := by
  simp only [checkedAddResource, ok_iff, add_eq_some]
  constructor
  · rintro ⟨_, ⟨hentries, rfl⟩, _, ⟨hbytes, rfl⟩, rfl⟩
    exact ⟨rfl, hentries, hbytes⟩
  · rintro ⟨rfl, hentries, hbytes⟩
    exact ⟨_, ⟨hentries, rfl⟩, _, ⟨hbytes, rfl⟩, rfl⟩

theorem checkedAddMarkerCharge_eq_ok {count} : checkedAddMarkerCharge current count markerMax = .ok result ↔
      result = current + markerMax.times count ∧ result.InRange := by
  simp only [checkedAddMarkerCharge, ok_iff, add_eq_some]
  constructor
  · rintro ⟨_, ⟨hentries, rfl⟩, _, ⟨hbytes, rfl⟩, rfl⟩
    exact ⟨rfl, hentries, hbytes⟩
  · rintro ⟨rfl, hentries, hbytes⟩
    exact ⟨_, ⟨hentries, rfl⟩, _, ⟨hbytes, rfl⟩, rfl⟩

theorem retainedBaselineWide_eq_ok :
    retainedBaselineWide retainedCharge identitySlots markerCredits markerMax = .ok result ↔
      markerCredits ≤ identitySlots ∧
        result = retainedCharge + markerMax.times (identitySlots - markerCredits) ∧ result.InRange := by
  simp only [retainedBaselineWide, ok_iff, sub_eq_some, checkedAddMarkerCharge_eq_ok]
  constructor
  · rintro ⟨_, ⟨hle, rfl⟩, hresult⟩
    exact ⟨hle, hresult⟩
  · rintro ⟨hle, hresult⟩
    exact ⟨_, ⟨hle, rfl⟩, hresult⟩

/-! ### What the rows cost -/

def credited (credits : List MarkerCredit) (charge : RetainedRecordCharge) : Bool :=
  decide (charge.deliverySeq ∈ credits.map MarkerCredit.deliverySeq)

/-- The exact charges of the rows that are not credited, and the maximum for each credited one. -/
def rowsCharge (credits : List MarkerCredit) (markerMax : ResourceVector)
    (charges : List RetainedRecordCharge) : WideResourceVector :=
  chargeTotal (charges.filter fun charge => !credited credits charge) +
    markerMax.times (charges.countP (credited credits))

theorem rowsCharge_cons (hkeyed : chargeKeyed record charge) (charges : List RetainedRecordCharge) :
    rowsCharge credits markerMax (charge :: charges) =
      (rowCharge credits markerMax record charge).widen + rowsCharge credits markerMax charges := by
  have hcredited : credits.any (fun credit => credit.deliverySeq == record.deliverySeq) =
      credited credits charge := by
    rw [Bool.eq_iff_iff]
    simp [credited, hkeyed.1]
  unfold rowsCharge rowCharge
  rw [hcredited]
  by_cases hcredit : credited credits charge = true
  · rw [if_pos hcredit, filter_cons_of_neg (by simpa using hcredit),
      countP_cons_of_pos hcredit, ResourceVector.times_succ, ← add_assoc, ← add_assoc]
    congr 1
    rw [WideResourceVector.ext_iff]
    exact ⟨Nat.add_comm _ _, Nat.add_comm _ _⟩
  · rw [if_neg hcredit, filter_cons_of_pos (by simpa using hcredit),
      countP_cons_of_neg hcredit, chargeTotal_cons, add_assoc]

/-- The loop over the rows computes what they cost, as long as that is a `u128` value. -/
theorem addRowCharges_eq_ok (hkeyed : Forall₂ chargeKeyed records charges) (hcharge : charge.InRange) :
    addRowCharges floor credits markerMax charge (records.zip charges) = .ok result ↔
      result = charge + rowsCharge credits markerMax
          (charges.filter fun charge => floor ≤ charge.deliverySeq) ∧ result.InRange := by
  induction hkeyed generalizing charge with
  | nil =>
    have hnil : rowsCharge credits markerMax [] = .zero := by simp [rowsCharge]
    rw [zip_nil_left, addRowCharges, filter_nil, hnil, add_zero, Except.ok.injEq]
    constructor
    · rintro rfl
      exact ⟨rfl, hcharge⟩
    · rintro ⟨rfl, -⟩
      rfl
  | @cons record exact _ _ hrow _ ih =>
    rw [zip_cons_cons, addRowCharges]
    split
    · rename_i hbelow
      rw [hrow.1] at hbelow
      rw [ih hcharge, filter_cons_of_neg (by simpa using hbelow)]
    · rename_i habove
      rw [hrow.1] at habove
      rw [filter_cons_of_pos (by simpa using habove), rowsCharge_cons hrow, ← add_assoc]
      simp only [bind_eq_ok, checkedAddResource_eq_ok]
      constructor
      · rintro ⟨_, ⟨rfl, hrange⟩, hrest⟩
        exact (ih hrange).mp hrest
      · rintro ⟨rfl, hrange⟩
        exact ⟨_, ⟨rfl, hrange.left⟩, (ih hrange.left).mpr ⟨rfl, hrange⟩⟩

def callerRowCharge (facts : OrdinaryProjectionFacts) (floor : Nat)
    (callerSequence : Option DeliverySeq) : WideResourceVector :=
  if callerSequence.any (floor ≤ ·) then facts.encodedRecordCharge.widen else .zero

theorem retainedChargeAtFloor_eq_ok (hkeyed : Forall₂ chargeKeyed facts.retainedRecords facts.retainedCharges) :
    facts.retainedChargeAtFloor floor credits newMarkerCount callerSequence = .ok result ↔
      result = rowsCharge credits facts.limits.markerMax
            (facts.retainedCharges.filter fun charge => floor ≤ charge.deliverySeq) +
          callerRowCharge facts floor callerSequence + facts.limits.markerMax.times newMarkerCount ∧
        result.InRange := by
  have hzero : zero.InRange := ⟨Nat.zero_le _, Nat.zero_le _⟩
  unfold retainedChargeAtFloor callerRowCharge
  split
  · simp only [bind_eq_ok, addRowCharges_eq_ok hkeyed hzero, zero_add,
      checkedAddResource_eq_ok, checkedAddMarkerCharge_eq_ok]
    constructor
    · rintro ⟨_, ⟨rfl, -⟩, _, ⟨rfl, -⟩, hresult⟩
      exact hresult
    · rintro ⟨rfl, hrange⟩
      exact ⟨_, ⟨rfl, hrange.left.left⟩, _, ⟨rfl, hrange.left⟩, rfl, hrange⟩
  · simp only [ok_iff, addRowCharges_eq_ok hkeyed hzero, zero_add, add_zero, checkedAddMarkerCharge_eq_ok]
    constructor
    · rintro ⟨_, ⟨rfl, -⟩, _, rfl, hresult⟩
      exact hresult
    · rintro ⟨rfl, hrange⟩
      exact ⟨_, ⟨rfl, hrange.left⟩, _, rfl, rfl, hrange⟩

/-! ### Positions -/

namespace LiveFrontierOwner.Sound

variable {owner : LiveFrontierOwner} (h : owner.Sound)

include h

theorem chargePositions : owner.retainedCharges.map RetainedRecordCharge.deliverySeq =
    range' owner.frontiers.retainedFloor owner.frontiers.retainedRecords.length := by
  rw [keyed_positions h.keyed]
  exact h.logged.retained.1

theorem charge_le_high (hcharge : charge ∈ owner.retainedCharges) : charge.deliverySeq ≤ owner.frontiers.high := by
  have hmem : charge.deliverySeq ∈ owner.retainedCharges.map RetainedRecordCharge.deliverySeq :=
    mem_map_of_mem hcharge
  rw [h.chargePositions, mem_range'_1, h.logged.retained.2] at hmem
  exact Nat.lt_succ_iff.mp hmem.2

theorem record_le_high (hrecord : record ∈ owner.frontiers.retainedRecords) :
    record.deliverySeq ≤ owner.frontiers.high := by
  obtain ⟨charge, hcharge, hkeyed⟩ := Keyed.exists_of_forall₂ h.keyed hrecord
  exact hkeyed.1.trans_le (h.charge_le_high hcharge)

variable (hheld : owner.frontiers.MarkersHeld)

include hheld

theorem not_marker (habove : owner.frontiers.high < position) :
    position ∉ owner.frontiers.markerRecords.map deliverySeq := by
  intro hmem
  obtain ⟨record, hrecord, rfl⟩ := mem_map.mp hmem
  exact absurd (h.record_le_high (hheld.retained record hrecord)) (Nat.not_le.mpr habove)

theorem markerPositions_nodup : (owner.frontiers.markerRecords.map deliverySeq).Nodup := by
  have hrows : (owner.frontiers.retainedRecords.map deliverySeq).Nodup := by
    rw [h.logged.retained.1]
    exact nodup_range'
  have howners := pairwise_filterMap.mp (nodup_append.mp hheld.distinct).1
  refine pairwise_map.mpr (howners.imp_of_mem ?_)
  intro record other hrecord hother hdistinct hseq
  obtain rfl := inj_on_of_nodup_map hrows (hheld.retained record hrecord) (hheld.retained other hother) hseq
  obtain ⟨participant, howner⟩ := hheld.owned record hrecord
  exact hdistinct participant howner participant howner rfl

end LiveFrontierOwner.Sound

/-! ### The baseline is kept -/

theorem chargeTotal_filter (p : RetainedRecordCharge → Bool) (charges : List RetainedRecordCharge) :
    chargeTotal charges = chargeTotal (charges.filter p) + chargeTotal (charges.filter fun charge => !p charge) := by
  induction charges with
  | nil => rfl
  | cons charge rest ih =>
    by_cases hp : p charge = true
    · rw [filter_cons_of_pos hp, filter_cons_of_neg (by simpa using hp), chargeTotal_cons,
        chargeTotal_cons, ih, add_assoc]
    · rw [filter_cons_of_neg hp, filter_cons_of_pos (by simpa using hp), chargeTotal_cons,
        chargeTotal_cons, ih, WideResourceVector.ext_iff]
      exact ⟨Nat.add_left_comm _ _ _, Nat.add_left_comm _ _ _⟩

theorem resultingRetainedRows_snd (h : Forall₂ chargeKeyed facts.retainedRecords facts.retainedCharges)
    (hcaller : chargeKeyed callerRecord callerCharge) :
    (resultingRetainedRows facts floor callerRecord callerCharge).map Prod.snd =
      (facts.retainedCharges ++ [callerCharge]).filter fun charge => floor ≤ charge.deliverySeq := by
  have hrows : (facts.retainedRecords.zip facts.retainedCharges ++ [(callerRecord, callerCharge)]).map
      Prod.snd = facts.retainedCharges ++ [callerCharge] := by
    rw [map_append, map_snd_zip h.length_eq.ge, map_singleton]
  rw [resultingRetainedRows, ← hrows, filter_map]
  congr 1
  refine filter_congr fun row hrow => ?_
  have hkeyed : chargeKeyed row.1 row.2 := by
    rcases mem_append.mp hrow with hold | hnew
    · exact (forall₂_iff_zip.mp h).2 hold
    · rw [mem_singleton.mp hnew]
      exact hcaller
  simp only [Function.comp_apply, hkeyed.1]

namespace LiveFrontierOwner

variable {owner owner' : LiveFrontierOwner} {limits : OrdinaryProjectionLimits}

/-- What the baseline stands for: the exact charges of the rows that are no credited markers, and one maximum
marker for each identity slot. -/
def derivedBaseline (owner : LiveFrontierOwner) (limits : OrdinaryProjectionLimits) : WideResourceVector :=
  chargeTotal owner.plainCharges + limits.markerMax.times owner.frontiers.identitySlotLimit

section

variable (hsound : owner.Sound) (hheld : owner.frontiers.MarkersHeld)

include hsound hheld

theorem rowsCharge_eq (hmarkers : markers = owner.frontiers.markerRecords.filter fun record => floor ≤
    record.deliverySeq) (hcredits : (credits.map MarkerCredit.deliverySeq).Perm (markers.map deliverySeq)) :
    rowsCharge credits markerMax (owner.chargesFrom floor) =
      chargeTotal ((owner.chargesFrom floor).filter (plainAmong markers)) + markerMax.times markers.length := by
  have hcredited : credited credits = fun charge =>
      decide (charge.deliverySeq ∈ markers.map deliverySeq) := by
    funext charge
    simp only [credited, hcredits.mem_iff]
  have hplain : (fun charge => !credited credits charge) = plainAmong markers := by
    funext charge
    rw [hcredited, plainAmong, decide_not]
  have hcharges : ((owner.chargesFrom floor).map RetainedRecordCharge.deliverySeq).Nodup := by
    refine Nodup.sublist (filter_sublist.map _) ?_
    rw [hsound.chargePositions]
    exact nodup_range'
  have hplaces : (markers.map deliverySeq).Nodup := by
    rw [hmarkers]
    exact (hsound.markerPositions_nodup hheld).sublist (filter_sublist.map _)
  have hoccur : markers.map deliverySeq ⊆ (owner.chargesFrom floor).map RetainedRecordCharge.deliverySeq := by
    intro position hplace
    obtain ⟨record, hrecord, rfl⟩ := mem_map.mp hplace
    rw [hmarkers, mem_filter] at hrecord
    obtain ⟨charge, hcharge, hkeyed⟩ :=
      Keyed.exists_of_forall₂ hsound.keyed (hheld.retained record hrecord.1)
    exact mem_map.mpr ⟨charge, mem_filter.mpr ⟨hcharge, hkeyed.1 ▸ hrecord.2⟩, hkeyed.1.symm⟩
  rw [rowsCharge, hplain, hcredited, Keyed.countP_key_mem hcharges hplaces hoccur, length_map]

section Planned

variable {request : RecordAdmission} {receivingBindingEpoch : BindingEpoch} {encodedRecordCharge : ResourceVector}
  {observerProgress : DeliverySeq} {plan : OrdinaryFixedPointPlan} {markerState : MarkerState} {search : CapacitySearch}
  (h : (owner.frontiers.ordinaryProjectionFacts (owner.projectionInput request
    receivingBindingEpoch encodedRecordCharge observerProgress limits)).Planned plan markerState search)

include h

theorem plainCharges_fromRecordAdmission :
    (owner.fromRecordAdmission (owner.frontiers.projectedRecord plan)).plainCharges =
      (owner.chargesFrom search.floor).filter
        (plainAmong (owner.frontiers.projectedRecord plan).frontiers.markerRecords) ++ [plan.callerCharge] := by
  obtain ⟨-, -, hobs, -, -⟩ := searchFloor_eq_ok h.searched
  obtain ⟨-, hhigh, -, -, -⟩ := validateSnapshot_eq_ok h.snapshot
  have hcaller : chargeKeyed plan.callerRecord plan.callerCharge := by
    rw [h.callerRecord, h.callerCharge]
    exact ⟨rfl, rfl⟩
  have hplace : plan.callerCharge.deliverySeq = owner.frontiers.high + 1 :=
    congrArg RetainedRecordCharge.deliverySeq h.callerCharge
  have hfloor : search.floor ≤ plan.callerCharge.deliverySeq := by
    rw [hplace]
    exact hobs.trans (Nat.succ_le_succ hhigh)
  -- the caller's row stands above the high watermark, where no marker is
  have hplain : plainAmong (owner.frontiers.projectedRecord plan).frontiers.markerRecords plan.callerCharge = true := by
    rw [plainAmong, decide_eq_true_eq, hplace]
    exact fun hmem => hsound.not_marker hheld (Nat.lt_succ_self _) ((filter_sublist.map _).subset hmem)
  have hrows : plan.retainedCharges = owner.chargesFrom search.floor ++ [plan.callerCharge] := by
    rw [h.charges, resultingRetainedRows_snd hsound.keyed hcaller, filter_append,
      filter_cons_of_pos (by simpa using hfloor), filter_nil]
    rfl
  change plan.retainedCharges.filter (plainAmong (owner.frontiers.projectedRecord plan).frontiers.markerRecords) = _
  rw [hrows, filter_append, filter_cons_of_pos hplain, filter_nil]

theorem plannedBaseline_eq : plan.resultingAccounting.baseline =
      (owner.fromRecordAdmission (owner.frontiers.projectedRecord plan)).derivedBaseline limits := by
  obtain ⟨hcapacity, -, hobs, -, -⟩ := searchFloor_eq_ok h.searched
  obtain ⟨-, hhigh, -, -, -⟩ := validateSnapshot_eq_ok h.snapshot
  obtain ⟨-, -, -, -, hcharge, hbase⟩ := capacityAt_eq_ok hcapacity
  obtain ⟨credits, hcredits, hperm⟩ := Planned.survivingCredits h
  have hplaces : (search.survivingCredits.map MarkerCredit.deliverySeq).Perm
      ((owner.frontiers.projectedRecord plan).frontiers.markerRecords.map deliverySeq) := by
    rw [Keyed.map_eq_of_forall₂ (fun _ _ hcredit => hcredit.1.symm) hcredits]
    exact hperm.map _
  have hlength : search.survivingCredits.length =
      (owner.frontiers.projectedRecord plan).frontiers.markerRecords.length := by
    simpa using hplaces.length_eq
  have hmarkers : (owner.frontiers.projectedRecord plan).frontiers.markerRecords =
      owner.frontiers.markerRecords.filter fun record => search.floor ≤ record.deliverySeq := by
    rw [← h.floor]
    rfl
  have hcaller : callerRowCharge (owner.frontiers.ordinaryProjectionFacts (owner.projectionInput
      request receivingBindingEpoch encodedRecordCharge observerProgress limits)) search.floor
      (some (owner.frontiers.high + 1)) = plan.callerCharge.encodedCharge.widen := by
    have habove : decide (search.floor ≤ owner.frontiers.high + 1) = true :=
      decide_eq_true (hobs.trans (Nat.succ_le_succ hhigh))
    rw [h.callerCharge, callerRowCharge, Option.any_some, if_pos habove]
  have hrows := ((retainedChargeAtFloor_eq_ok hsound.keyed).mp hcharge).1
  obtain ⟨hslots, hresult, -⟩ := retainedBaselineWide_eq_ok.mp hbase
  change search.retainedCharge = rowsCharge search.survivingCredits limits.markerMax
    (owner.chargesFrom search.floor) + callerRowCharge _ search.floor (some (owner.frontiers.high + 1)) +
      limits.markerMax.times search.markerParticipants.length at hrows
  change search.baseline = search.retainedCharge + limits.markerMax.times
    (owner.frontiers.identitySlotLimit - _) at hresult
  change _ ≤ owner.frontiers.identitySlotLimit at hslots
  -- credited rows, new markers and empty slots are together all slots
  have hall : limits.markerMax.times owner.frontiers.identitySlotLimit =
      limits.markerMax.times search.survivingCredits.length + limits.markerMax.times search.markerParticipants.length +
        limits.markerMax.times (owner.frontiers.identitySlotLimit -
          (search.survivingCredits.length + search.markerParticipants.length)) := by
    rw [← ResourceVector.times_add, ← ResourceVector.times_add, Nat.add_sub_cancel' hslots]
  rw [h.accounting, derivedBaseline, plainCharges_fromRecordAdmission hsound hheld h,
    chargeTotal_append, chargeTotal_cons]
  change search.baseline = _ + limits.markerMax.times owner.frontiers.identitySlotLimit
  rw [hresult, hrows, rowsCharge_eq hsound hheld hmarkers hplaces, hcaller, ← hlength, hall, chargeTotal_nil, add_zero]
  rw [WideResourceVector.ext_iff]
  simp only [add_entries, add_bytes]
  omega

end Planned

/-- The charge a Leave retires is all that stands at the positions of the markers it retires. -/
theorem retiredCharges_eq
    (h : owner.retiredMarkerCharge participant = some retired) : owner.retainedCharges.filter (fun charge => plainAmong
        (owner.frontiers.markerRecords.filter fun record => !record.isMarkerOf participant) charge &&
      !plainAmong owner.frontiers.markerRecords charge) = retired.toList := by
  have hsame : ∀ charge ∈ owner.retainedCharges, (plainAmong
        (owner.frontiers.markerRecords.filter fun record => !record.isMarkerOf participant) charge &&
      !plainAmong owner.frontiers.markerRecords charge) = decide (charge.deliverySeq ∈
        (owner.frontiers.markerRecords.filter fun record => record.isMarkerOf participant).map deliverySeq) := by
    intro charge _
    rw [Bool.eq_iff_iff]
    simp only [plainAmong, Bool.and_eq_true, decide_eq_true_eq, Bool.not_eq_true', decide_eq_false_iff_not,
      not_not, mem_map, mem_filter]
    constructor
    · rintro ⟨hkept, record, hrecord, hseq⟩
      refine ⟨record, ⟨hrecord, ?_⟩, hseq⟩
      by_contra hother
      exact hkept ⟨record, ⟨hrecord, by simpa using hother⟩, hseq⟩
    · rintro ⟨record, ⟨hrecord, howner⟩, hseq⟩
      refine ⟨?_, record, hrecord, hseq⟩
      rintro ⟨other, ⟨hother, hnot⟩, hsame⟩
      -- two markers at one position are the same marker
      obtain rfl := inj_on_of_nodup_map (hsound.markerPositions_nodup hheld) hrecord hother (hseq.trans hsame.symm)
      rw [howner] at hnot
      cases hnot
  have hretired := retiredMarkerCharge_eq_some h
  rw [← markersOf_eq hheld participant] at hretired
  rw [filter_congr hsame]
  cases retired with
  | none =>
    rw [Option.toList_none, forall₂_nil_right_iff] at hretired
    rw [hretired]
    simp
  | some charge =>
    obtain ⟨marker, rest, ⟨hmem, hseq⟩, hrest, hmarkers⟩ := forall₂_cons_right_iff.mp hretired
    rw [forall₂_nil_right_iff.mp hrest] at hmarkers
    have hnodup : (owner.retainedCharges.map RetainedRecordCharge.deliverySeq).Nodup := by
      rw [hsound.chargePositions]
      exact nodup_range'
    rw [hmarkers, map_singleton, ← hseq]
    simp only [mem_singleton]
    exact Keyed.filter_key_eq_singleton hnodup hmem

end

/-- What lies below a floor that spares the markers, and what stays. -/
theorem plainCharges_split (hsound : owner.Sound)
    (hspared : ∀ record ∈ owner.frontiers.markerRecords, floor ≤ record.deliverySeq) : chargeTotal owner.plainCharges =
      chargeTotal ((owner.chargesFrom floor).filter (plainAmong owner.frontiers.markerRecords)) +
        chargeTotal (owner.releasedBelow floor) := by
  have hreleased : owner.plainCharges.filter (fun charge => !decide (floor ≤ charge.deliverySeq)) =
      owner.releasedBelow floor := by
    have hsorted : (owner.retainedCharges.map RetainedRecordCharge.deliverySeq).Pairwise (· ≤ ·) := by
      rw [hsound.chargePositions]
      exact pairwise_le_range'
    rw [releasedBelow, Keyed.takeWhile_lt_eq_filter hsorted, plainCharges, filter_filter]
    refine filter_congr fun charge _ => ?_
    rw [Bool.eq_iff_iff]
    simp only [plainAmong, Bool.and_eq_true, Bool.not_eq_true', decide_eq_false_iff_not, Nat.not_le,
      decide_eq_true_eq, and_iff_left_iff_imp]
    intro hbelow hmem
    obtain ⟨record, hrecord, hseq⟩ := mem_map.mp hmem
    exact absurd (hspared record hrecord) (hseq ▸ Nat.not_le.mpr hbelow)
  rw [chargeTotal_filter (fun charge => decide (floor ≤ charge.deliverySeq)), hreleased, plainCharges,
    chargesFrom, filter_filter, filter_filter]
  simp only [Bool.and_comm]

section

variable (h : owner.AccountStep limits owner')
include h

theorem AccountStep.baseline (hsound : owner.Sound)
    (hheld : owner.frontiers.MarkersHeld) (hslots : owner'.frontiers.identitySlotLimit =
    owner.frontiers.identitySlotLimit) (hbase : owner.closureAccounting.baseline = owner.derivedBaseline limits) :
    owner'.closureAccounting.baseline = owner'.derivedBaseline limits := by
  cases h with
  | kept _ hcharges hmarkers _ _ hacct =>
    rw [hacct.baseline, hbase, derivedBaseline, derivedBaseline, plainCharges, plainCharges, hcharges, hmarkers, hslots]
  | @grown _ _ new _ hcharges habove hmarkers _ _ hacct =>
    have hplain : ∀ charge ∈ new, plainAmong owner.frontiers.markerRecords charge = true :=
      fun charge hcharge => decide_eq_true (hsound.not_marker hheld (habove charge hcharge))
    rw [hacct, hbase, derivedBaseline, derivedBaseline, plainCharges, plainCharges, hcharges,
      hmarkers, hslots, filter_append, filter_eq_self.mpr hplain, chargeTotal_append]
    exact add_right_comm _ _ _
  | @marked _ marker charge _ hplace _ hmarkers hcharges _ hacct =>
    -- the new row is a marker, and no old row stands where it does
    have hold : ∀ old ∈ owner.retainedCharges, plainAmong (owner.frontiers.markerRecords ++
        [markerRecord marker]) old = plainAmong owner.frontiers.markerRecords old := by
      intro old hmem
      have hne : old.deliverySeq ≠ (markerRecord marker).deliverySeq := by
        have hle := hsound.charge_le_high hmem
        exact Nat.ne_of_lt ((Nat.lt_succ_of_le hle).trans_eq hplace.2.symm)
      simp only [plainAmong, map_append, map_singleton, mem_append, mem_singleton, hne, or_false]
    have hnew : ¬plainAmong (owner.frontiers.markerRecords ++ [markerRecord marker]) charge = true := by
      rw [plainAmong, decide_eq_true_eq, not_not, hplace.1, map_append]
      exact mem_append_right _ (mem_singleton_self _)
    rw [hacct.baseline, hbase, derivedBaseline, derivedBaseline, plainCharges, plainCharges,
      hcharges, hmarkers, hslots, filter_append, filter_cons_of_neg hnew, filter_nil, append_nil, filter_congr hold]
  | recorded _ hplan => exact plannedBaseline_eq hsound hheld hplan
  | @left _ participant _ new retired _ hcharges habove hmarkers _ _ hretired hacct =>
    obtain ⟨-, -, hcounters⟩ := ClosureAccounting.accountingAfterLeave_eq_some hacct
    have hplain : ∀ charge ∈ new, plainAmong owner'.frontiers.markerRecords charge = true := by
      intro charge hcharge
      refine decide_eq_true fun hmem => hsound.not_marker hheld (habove charge hcharge) ?_
      rw [hmarkers] at hmem
      exact (filter_sublist.map _).subset hmem
    -- of the old rows, the retired marker is plain now and was not before
    have hold : chargeTotal (owner.retainedCharges.filter (plainAmong owner'.frontiers.markerRecords)) =
        chargeTotal owner.plainCharges + chargeTotal retired.toList := by
      rw [chargeTotal_filter (plainAmong owner.frontiers.markerRecords), filter_filter,
        filter_filter, ← retiredCharges_eq hsound hheld hretired, hmarkers, plainCharges]
      congr 2
      · refine filter_congr fun charge _ => ?_
        rw [Bool.eq_iff_iff, Bool.and_eq_true, and_iff_left_iff_imp]
        intro hnone
        refine decide_eq_true fun hmem => of_decide_eq_true hnone ?_
        exact (filter_sublist.map _).subset hmem
      · exact filter_congr fun charge _ => Bool.and_comm _ _
    have hnow : chargeTotal owner'.plainCharges =
        chargeTotal owner.plainCharges + chargeTotal retired.toList + chargeTotal new := by
      rw [plainCharges, hcharges, filter_append, filter_eq_self.mpr hplain, chargeTotal_append, hold]
    have hafter : owner'.closureAccounting.baseline =
        owner.closureAccounting.baseline + chargeTotal (new ++ retired.toList) := by
      rw [hcounters]
    rw [hafter, hbase, derivedBaseline, derivedBaseline, hnow, hslots, chargeTotal_append, WideResourceVector.ext_iff]
    simp only [add_entries, add_bytes]
    omega
  | @floored _ floor hspared _ hcharges hmarkers _ _ hacct =>
    have hsplit := plainCharges_split hsound hspared
    have hbefore : owner.closureAccounting.baseline =
        owner'.closureAccounting.baseline + chargeTotal (owner.releasedBelow floor) := by
      rw [hacct]
    rw [hbefore, derivedBaseline, hsplit, ← hslots, WideResourceVector.ext_iff] at hbase
    rw [derivedBaseline, plainCharges, hcharges, hmarkers, WideResourceVector.ext_iff]
    simp only [add_entries, add_bytes] at hbase ⊢
    omega

theorem AccountStep.cap : owner'.closureAccounting.configuredCap = owner.closureAccounting.configuredCap := by
  cases h with
  | kept _ _ _ _ _ hacct | marked _ _ _ _ _ _ hacct => exact hacct.cap
  | grown _ _ _ _ _ _ hacct => rw [hacct]
  | @recorded _ _ _ _ plan _ _ _ hplan =>
    change plan.resultingAccounting.configuredCap = _
    rw [hplan.accounting]
    rfl
  | left _ _ _ _ _ _ _ hacct =>
    rw [(ClosureAccounting.accountingAfterLeave_eq_some hacct).2.2]
  | floored _ _ _ _ _ _ hacct => rw [hacct]

structure Accounted (owner : LiveFrontierOwner) (limits : OrdinaryProjectionLimits) : Prop where
  held : owner.frontiers.MarkersHeld
  credits : owner.closureAccounting.markerCapacityCredits =
    owner.frontiers.markerRecords.length + owner.frontiers.markerCandidates.length
  baseline : owner.closureAccounting.baseline = owner.derivedBaseline limits
  cap : owner.closureAccounting.configuredCap.entries ≤ u64Max ∧ owner.closureAccounting.configuredCap.bytes ≤ u64Max

theorem AccountStep.accounted (hsound : owner.Sound)
    (hslots : owner'.frontiers.identitySlotLimit = owner.frontiers.identitySlotLimit)
    (hcounted : owner.Accounted limits) : owner'.Accounted limits where
  held := h.markersHeld hcounted.held
  credits := h.credits hcounted.held hcounted.credits
  baseline := h.baseline hsound hcounted.held hslots hcounted.baseline
  cap := by rw [h.cap]; exact hcounted.cap

end

end LiveFrontierOwner

namespace Conversation

variable {s s' : Conversation}

theorem Effect.config (h : Effect s op s') : s'.config = s.config := by
  cases h <;> rfl

theorem Started.accounted {closure epoch order} (h : s.Started closure epoch order) :
    s.owner.Accounted s.config.limits where
  held := by
    have howners : s.owner.frontiers.markerOwners = [] := by
      rw [markerOwners, h.markerRecords, markerCandidates_of_nil h.candidates]
      rfl
    exact {
      retained := by simp [h.markerRecords]
      owned := by simp [h.markerRecords]
      active := by simp [howners]
      distinct := by simp [howners] }
  credits := by
    rw [h.markers.1, h.markerRecords, markerCandidates_of_nil h.candidates]
    rfl
  baseline := by
    have hplain : s.owner.plainCharges = s.owner.retainedCharges := by
      rw [LiveFrontierOwner.plainCharges, h.markerRecords]
      exact filter_eq_self.mpr fun _ _ => decide_eq_true (not_mem_nil)
    have hbase := h.baseline
    rw [retainedBaseline, if_pos (Nat.zero_le _), Option.some.injEq] at hbase
    rw [← hbase, LiveFrontierOwner.derivedBaseline, hplain, h.retainedCharges, h.markerMax, h.identitySlotLimit.1]
    rfl
  cap := h.cap

/-- In every conversation that can be reached, the accounting stands for what the frontiers hold. -/
theorem accounted_of_reachable (h : conversationMachine.Reachable s) : s.owner.Accounted s.config.limits := by
  refine reaches_invariant (fun _ _ _ _ hstarted => hstarted.accounted) ?_ h
  intro s op s' hsound hcoupled hcounted _ heffect
  rw [heffect.config]
  exact (heffect.accountStep hsound hcoupled).accounted hsound heffect.ownerStep.keeps.seats hcounted

end Conversation

end Liminal
