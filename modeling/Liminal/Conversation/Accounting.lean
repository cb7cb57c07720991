import Liminal.Conversation.Coupling
import Liminal.Conversation.Records

/-!
# What the accounting of a conversation stands for

The closure accounting keeps counters that each operation moves by a delta of its own. `AccountStep`
reduces the twelve effects to six deltas. From it follow, in every reachable conversation: every
retained marker is a retained row of an active participant, no participant has two, the credits
count the markers, and the baseline is the cost of the other rows plus one maximum marker for each
identity slot.
-/

namespace Liminal

open Checked Fallible ClaimFrontiers OrdinaryProjectionFacts LiveFrontierOwner RetainedCausalRecord
open List
open FrontierParticipant ActiveIdentityRanks ClosureAccounting

/-! ### Markers of the frontiers -/

def ImmutableSequenceCandidate.marker? : ImmutableSequenceCandidate → Option MarkerCandidateAuthority
  | .bindingTerminal .. => none
  | .marker authority => some authority

namespace ClaimFrontiers

def markerCandidates (f : ClaimFrontiers) : List MarkerCandidateAuthority :=
  f.sequence.immutableCandidates.filterMap ImmutableSequenceCandidate.marker?

def markerOwners (f : ClaimFrontiers) : List ParticipantId :=
  f.markerRecords.filterMap markerOwner? ++
    f.markerCandidates.map fun marker => marker.admissionOrder.participantIndex

theorem markerCandidates_of_nil {f : ClaimFrontiers} (h : f.sequence.immutableCandidates = []) :
    f.markerCandidates = [] := by
  rw [markerCandidates, h]
  rfl

end ClaimFrontiers

structure ClosureAccounting.SameRoom (accounting accounting' : ClosureAccounting) : Prop where
  credits : accounting.markerCapacityCredits = accounting'.markerCapacityCredits
  baseline : accounting.baseline = accounting'.baseline
  cap : accounting.configuredCap = accounting'.configuredCap

theorem ClosureAccounting.SameRoom.of_eq {accounting accounting' : ClosureAccounting}
    (h : accounting.toClosureCounters =
      { accounting'.toClosureCounters with state, markerAnchors }) : accounting.SameRoom accounting' := by
  constructor <;> rw [h]

namespace LiveFrontierOwner

variable {deliverySeq : DeliverySeq} {charge : RetainedRecordCharge}

def plainAmong (markers : List RetainedCausalRecord) (charge : RetainedRecordCharge) : Bool :=
  decide (charge.deliverySeq ∉ markers.map RetainedCausalRecord.deliverySeq)

def plainCharges (owner : LiveFrontierOwner) : List RetainedRecordCharge :=
  owner.retainedCharges.filter (plainAmong owner.frontiers.markerRecords)

/-! ### The deltas -/

/-- What an effect does to rows, charges, markers and counters. -/
inductive AccountStep (limits : OrdinaryProjectionLimits) (owner : LiveFrontierOwner) : LiveFrontierOwner → Prop
  | kept {owner'} (records : owner'.frontiers.retainedRecords = owner.frontiers.retainedRecords)
      (charges : owner'.retainedCharges = owner.retainedCharges) (markers : owner'.frontiers.markerRecords =
      owner.frontiers.markerRecords) (candidates : owner'.frontiers.markerCandidates = owner.frontiers.markerCandidates)
      (indexes : owner'.frontiers.activeIdentities.indexes = owner.frontiers.activeIdentities.indexes)
      (accounting : owner'.closureAccounting.SameRoom owner.closureAccounting) : AccountStep limits owner owner'
  | grown {owner' rows new} (records : owner'.frontiers.retainedRecords = owner.frontiers.retainedRecords ++ rows)
      (charges : owner'.retainedCharges = owner.retainedCharges ++ new) (above : ∀ charge ∈ new, owner.frontiers.high <
      charge.deliverySeq) (markers : owner'.frontiers.markerRecords = owner.frontiers.markerRecords)
      (candidates : owner'.frontiers.markerCandidates = owner.frontiers.markerCandidates)
      (indexes : owner.frontiers.activeIdentities.indexes ⊆ owner'.frontiers.activeIdentities.indexes)
      (accounting : owner'.closureAccounting.toClosureCounters = { owner.closureAccounting.toClosureCounters with
          baseline := owner.closureAccounting.baseline + chargeTotal new }) :
      AccountStep limits owner owner'
  | marked {owner' marker charge}
      (candidates : owner.frontiers.markerCandidates = marker :: owner'.frontiers.markerCandidates)
      (position : charge.deliverySeq = marker.deliverySeq ∧ marker.deliverySeq = owner.frontiers.high + 1)
      (records : owner'.frontiers.retainedRecords = owner.frontiers.retainedRecords ++ [markerRecord marker])
      (markers : owner'.frontiers.markerRecords = owner.frontiers.markerRecords ++ [markerRecord marker])
      (charges : owner'.retainedCharges = owner.retainedCharges ++ [charge])
      (indexes : owner'.frontiers.activeIdentities.indexes = owner.frontiers.activeIdentities.indexes)
      (accounting : owner'.closureAccounting.SameRoom owner.closureAccounting) :
      AccountStep limits owner owner'
  | recorded {request receivingBindingEpoch encodedRecordCharge observerProgress plan markerState search}
      (candidates : owner.frontiers.sequence.immutableCandidates = [])
      (planned : (owner.frontiers.ordinaryProjectionFacts (owner.projectionInput request
        receivingBindingEpoch encodedRecordCharge observerProgress limits)).Planned plan markerState search) :
      AccountStep limits owner (owner.fromRecordAdmission (owner.frontiers.projectedRecord plan))
  | left {owner' participant rows new retired} (records : owner'.frontiers.retainedRecords =
      owner.frontiers.retainedRecords ++ rows) (charges : owner'.retainedCharges = owner.retainedCharges ++ new)
      (above : ∀ charge ∈ new, owner.frontiers.high < charge.deliverySeq)
      (markers : owner'.frontiers.markerRecords =
        owner.frontiers.markerRecords.filter fun record => !record.isMarkerOf participant)
      (candidates : owner.frontiers.markerCandidates = [] ∧ owner'.frontiers.markerCandidates = [])
      (indexes : owner'.frontiers.activeIdentities.indexes =
        owner.frontiers.activeIdentities.indexes.filter fun index => index ≠ participant)
      (marker : owner.retiredMarkerCharge participant = some retired)
      (accounting : owner.closureAccounting.accountingAfterLeave new retired = some owner'.closureAccounting) :
      AccountStep limits owner owner'
  | floored {owner' floor} (spared : ∀ record ∈ owner.frontiers.markerRecords, floor ≤ record.deliverySeq)
      (records : owner'.frontiers.retainedRecords =
        owner.frontiers.retainedRecords.filter fun record => floor ≤ record.deliverySeq)
      (charges : owner'.retainedCharges = owner.chargesFrom floor)
      (markers : owner'.frontiers.markerRecords = owner.frontiers.markerRecords)
      (candidates : owner'.frontiers.markerCandidates = owner.frontiers.markerCandidates)
      (indexes : owner'.frontiers.activeIdentities.indexes = owner.frontiers.activeIdentities.indexes)
      (accounting : owner.closureAccounting.toClosureCounters = { owner'.closureAccounting.toClosureCounters with
          baseline := owner'.closureAccounting.baseline + chargeTotal (owner.releasedBelow floor) }) :
      AccountStep limits owner owner'

variable {owner owner' : LiveFrontierOwner} {limits : OrdinaryProjectionLimits}

theorem Appends.accountStep
    (h : owner.Appends active rows owner') (hindexes : owner.frontiers.activeIdentities.indexes ⊆
      active.map participantIndex) : owner.AccountStep limits owner' := by
  obtain ⟨hactive, hnil, hnil', -, -⟩ := h.frontiers
  rw [← hactive] at hindexes
  obtain ⟨-, -, -, -, htrans⟩ := h
  obtain ⟨⟨hkeyed, -⟩, -, accounting, hacct, frontiers, hfronts, rfl⟩ := transition_eq_ok.mp htrans
  obtain ⟨-, ranks, -, -, -, hplaces, -, -, rfl⟩ := applyLiveTransition_eq_ok.mp hfronts
  refine .grown rfl rfl ?_ rfl ?_ hindexes (accountingAfterRows_eq_some hacct)
  · intro charge hcharge
    have hmem : charge.deliverySeq ∈ rows.map deliverySeq := by
      rw [← keyed_positions (chargesKeyed_iff.mp hkeyed)]
      exact mem_map_of_mem hcharge
    rw [hplaces.2.1, mem_range'_1] at hmem
    exact hmem.1
  · rw [markerCandidates_of_nil hnil', markerCandidates_of_nil hnil]

theorem markerCandidates_terminal {f : ClaimFrontiers} {order}
    (h : f.sequence.immutableCandidates = [.bindingTerminal deliverySeq order terminal]) : f.markerCandidates = [] := by
  rw [markerCandidates, h]
  rfl

theorem pendBindingTerminalCandidate_accountStep {binding : ActiveBinding} {admissionOrder}
    (h : owner.pendBindingTerminalCandidate binding admissionOrder deliverySeq = .ok owner') :
    owner.AccountStep limits owner' := by
  obtain ⟨order, -, frontiers, hfronts, rfl⟩ := pendBindingTerminalCandidate_eq_ok.mp h
  obtain ⟨hfree, current, -, -, active, hactive, -, -, -, -, -, -, -, -, rfl⟩ :=
    applyPendingBindingTerminal_eq_ok.mp hfronts
  refine .kept rfl rfl rfl ?_ ?_ ⟨rfl, rfl, rfl⟩
  · rw [markerCandidates_terminal rfl, markerCandidates_of_nil (liveTransitionBlocked_eq_false.mp hfree).1]
  · rw [indexes, hactive, replaceParticipant_indexes]
    rfl

theorem drainPendingTerminal_accountStep
    (h : owner.drainPendingTerminal pending charge = .ok (owner', deliverySeq)) : owner.AccountStep limits owner' := by
  obtain ⟨-, hseq, -, -, accounting, hacct, frontiers, record, hfronts, rfl, -⟩ :=
    drainPendingTerminal_eq_ok.mp h
  obtain ⟨hvalid, -, ledger, -, -, -, -, -, -, -, rfl⟩ :=
    drainFirstBindingTerminal_eq_ok.mp hfronts
  have hcands := (validateFirstTerminalCandidate_eq_ok.mp hvalid).2.1
  refine .grown rfl rfl ?_ rfl ?_ (Subset.refl _) (accountingAfterRows_eq_some hacct)
  · intro new hnew
    rw [mem_singleton.mp hnew, hseq]
    exact Nat.lt_succ_self _
  · rw [markerCandidates_terminal hcands]
    rfl

theorem drainNextMarker_accountStep (h : owner.drainNextMarker charge = .ok owner') :
    owner.AccountStep limits owner' := by
  obtain ⟨frontiers, marker, state, accounting, hfronts, hkeyed, hacct, rfl⟩ :=
    drainNextMarker_eq_ok h
  obtain ⟨rest, _, _, hcands, hplace, -, -, -, -, rfl⟩ := drainNextMarkerCore_eq_ok hfronts
  refine .marked ?_ ⟨hkeyed.1.symm, hplace⟩ rfl rfl rfl rfl (.of_eq hacct)
  rw [markerCandidates, hcands]
  rfl

theorem withCursor_accountStep {cursor}
    (hacct : accounting.toClosureCounters =
      { owner.closureAccounting.toClosureCounters with markerAnchors := anchors }) :
    owner.AccountStep limits (owner.withCursor current cursor accounting) :=
  .kept rfl rfl rfl rfl (replace_indexes _ _) (.of_eq hacct)

theorem Leaving.accountStep (hsound : owner.Sound)
    (h : owner.Leaving owner' member terminal newCharges leftDeliverySeq leftTransactionOrder) :
    owner.AccountStep limits owner' := by
  obtain ⟨hrecords, hcharges, habove⟩ := h.rows_eq hsound.logged hsound.keyed
  obtain ⟨retired, hretired, hacct⟩ := h.accounting
  have hcands := h.frontiers.candidates
  obtain ⟨sequence, order, hresult, -, -⟩ := h.frontiers.result
  refine .left hrecords hcharges habove (by rw [hresult]; rfl) ⟨?_, by rw [hresult]; rfl⟩ ?_ hretired hacct
  · cases terminal with
    | none => exact markerCandidates_of_nil (isEmpty_iff.mp hcands)
    | some terminal => exact markerCandidates_terminal (of_decide_eq_true hcands).2
  · rw [hresult]
    exact remove_indexes _ _

theorem Floored.accountStep (h : owner.Floored owner' active floor)
    (hindexes : active.indexes = owner.frontiers.activeIdentities.indexes) : owner.AccountStep limits owner' := by
  obtain ⟨-, -, hspared⟩ := checkFateFloor_eq_ok.mp h.admissible
  have hacct := accountingAfterFloor_eq_some h.accounting
  refine .floored hspared (by rw [h.frontiers]; rfl) h.charges ?_ (by rw [h.frontiers]; rfl)
    (by rw [h.frontiers]; exact hindexes) hacct
  rw [h.frontiers]
  exact filter_eq_self.mpr fun record hrecord => decide_eq_true (hspared record hrecord)

end LiveFrontierOwner

theorem Conversation.Effect.accountStep (h : Effect s op s')
    (hsound : s.owner.Sound) (hcoupled : s.Coupled) : s.owner.AccountStep s.config.limits s'.owner := by
  have hreplaced : ∀ p, s.owner.frontiers.activeIdentities.indexes ⊆
      (s.owner.withParticipant p).map participantIndex := fun p => by
    rw [withParticipant, replaceParticipant_indexes]
    exact Subset.refl _
  cases h with
  | enrolled _ happends =>
    refine happends.accountStep fun index hindex => ?_
    obtain ⟨p, hp, rfl⟩ := mem_map.mp hindex
    refine mem_map_of_mem ?_
    exact (mem_insertionSort _).mpr (mem_append_left _ hp)
  | attached _ _ _ happends _ | ended _ _ _ _ _ happends => exact happends.accountStep (hreplaced _)
  | pended _ _ _ _ hpend => exact pendBindingTerminalCandidate_accountStep hpend
  | drained _ _ hdrain => exact drainPendingTerminal_accountStep hdrain
  | recorded hproject =>
    obtain ⟨hnil, -, plan, markerState, search, rfl, hplan⟩ := projectOrdinaryRecord_eq_ok hproject
    exact .recorded hnil hplan
  | markerDrained hdrain => exact drainNextMarker_accountStep hdrain
  | acked _ _ _ _ hack =>
    rcases hack with hack | hack
    · obtain ⟨current, accounting, -, -, -, hacct, rfl⟩ := applyAckFrontier_eq_ok hack
      exact withCursor_accountStep (accountingAfterCrossed_eq_some hacct).2
    · obtain ⟨current, accounting, -, -, -, -, hacct, rfl⟩ := applyMarkerAckFrontier_eq_ok hack
      exact withCursor_accountStep (accountingAfterMarkerCrossings_eq_some hacct).2
  | left _ _ _ hleaving => exact hleaving.accountStep hsound
  | fated hfound hheld hprepare =>
    obtain ⟨p, -, hagrees⟩ := hcoupled.lookup hfound
    obtain ⟨current, epoch, -, -, -, -, hfloored⟩ :=
      prepareBindingFate_ordinary (hagrees.token _ hheld) hprepare
    exact hfloored.accountStep (replace_indexes _ _)
  | measured _ _ _ _ => exact .kept rfl rfl rfl rfl rfl ⟨rfl, rfl, rfl⟩
  | completed _ _ _ hcompl =>
    rcases installFinalizedBindingFateFloor_eq_ok hcompl with rfl | ⟨_, -, hfloored⟩
    · exact .kept rfl rfl rfl rfl rfl ⟨rfl, rfl, rfl⟩
    · exact hfloored.accountStep rfl

/-! ### Markers and credits -/

namespace ClaimFrontiers

/-- Retained markers are retained rows, every marker is for an active participant, and no participant has two. -/
structure MarkersHeld (f : ClaimFrontiers) : Prop where
  retained : ∀ record ∈ f.markerRecords, record ∈ f.retainedRecords
  owned : ∀ record ∈ f.markerRecords, ∃ participant, record.markerOwner? = some participant
  active : ∀ participant ∈ f.markerOwners, participant ∈ f.activeIdentities.indexes
  distinct : f.markerOwners.Nodup

variable {f f' : ClaimFrontiers} {input : OrdinaryRecordProjectionInput}
  {plan : OrdinaryFixedPointPlan} {markerState : MarkerState} {search : CapacitySearch}

theorem mem_markerOwners (hrecord : record ∈ f.markerRecords) (howner : record.markerOwner? = some participant) :
    participant ∈ f.markerOwners :=
  mem_append_left _ (mem_filterMap.mpr ⟨record, hrecord, howner⟩)

theorem MarkersHeld.of_same (hheld : f.MarkersHeld) (hmarkers : f'.markerRecords = f.markerRecords)
    (hcands : f'.markerCandidates = f.markerCandidates)
    (hindexes : f.activeIdentities.indexes ⊆ f'.activeIdentities.indexes)
    (hret : ∀ record ∈ f.markerRecords, record ∈ f'.retainedRecords) : f'.MarkersHeld where
  retained := by rw [hmarkers]; exact hret
  owned := by rw [hmarkers]; exact hheld.owned
  active := by
    rw [markerOwners, hmarkers, hcands]
    exact fun participant hpart => hindexes (hheld.active participant hpart)
  distinct := by
    rw [markerOwners, hmarkers, hcands]
    exact hheld.distinct

section

variable (h : (f.ordinaryProjectionFacts input).Planned plan markerState search)
include h

/-- The credits of a snapshot that passed are those of the retained markers, in some order. -/
theorem Planned.credits :
    ∃ credits, Forall₂ Credits f.markerRecords credits ∧ markerState.credits.Perm credits := by
  have hstate := (validateSnapshot_eq_ok h.snapshot).2.2.2.1
  obtain ⟨⟨credits, hcredits, hsorted⟩, -⟩ := validateMarkerState_eq_ok hstate
  exact ⟨credits, hcredits, hsorted ▸ perm_insertionSort _ credits⟩

theorem Planned.survivingCredits :
    ∃ credits, Forall₂ Credits (f.projectedRecord plan).frontiers.markerRecords credits ∧
      search.survivingCredits.Perm credits := by
  obtain ⟨credits, hcredits, hperm⟩ := Planned.credits h
  have hsurviving := (capacityAt_eq_ok (searchFloor_eq_ok h.searched).1).2.1
  refine ⟨credits.filter fun credit => search.floor ≤ credit.deliverySeq, ?_, hsurviving ▸ hperm.filter _⟩
  change Forall₂ _ (f.markerRecords.filter fun record =>
    plan.floor.resultingFloor ≤ record.deliverySeq) _
  rw [h.floor]
  refine rel_filter ?_ hcredits
  intro record credit hcredit
  simp only [hcredit.1]

end

theorem projectedRecord_immutableCandidates (hnil : f.sequence.immutableCandidates = []) :
    (f.projectedRecord plan).frontiers.sequence.immutableCandidates = plan.markerCandidates.map .marker := by
  simp [projectedRecord, relaidLanes, relayOrdinarySequenceOwners, hnil]

theorem projectedRecord_markerCandidates (hnil : f.sequence.immutableCandidates = []) :
    (f.projectedRecord plan).frontiers.markerCandidates = plan.markerCandidates := by
  rw [markerCandidates, projectedRecord_immutableCandidates hnil]
  simp [filterMap_map, Function.comp_def, ImmutableSequenceCandidate.marker?]

/-- New candidates are for participants that hold no surviving marker. -/
theorem MarkersHeld.projectedRecord (hheld : f.MarkersHeld) (hnil : f.sequence.immutableCandidates = [])
    (h : (f.ordinaryProjectionFacts input).Planned plan markerState search) :
    (f.projectedRecord plan).frontiers.MarkersHeld := by
  obtain ⟨-, -, hlength, -, -⟩ := validateSnapshot_eq_ok h.snapshot
  obtain ⟨credits, hcredits, hperm⟩ := Planned.survivingCredits h
  have hovertaken := (capacityAt_eq_ok (searchFloor_eq_ok h.searched).1).2.2.2.1
  have hrows := h.records.trans (resultingRetainedRows_fst hlength)
  have hsub : search.markerParticipants.Sublist f.activeIdentities.participants := by
    rw [hovertaken]
    exact filter_sublist
  have howners : (f.projectedRecord plan).frontiers.markerOwners =
      (f.projectedRecord plan).frontiers.markerRecords.filterMap markerOwner? ++
        search.markerParticipants.map participantIndex := by
    rw [markerOwners, projectedRecord_markerCandidates hnil, h.markers]
    exact congrArg _ (map_layEach _ _ _ _ _ _ fun _ _ => rfl)
  have hkept : ((f.projectedRecord plan).frontiers.markerRecords.filterMap
      markerOwner?).Sublist (f.markerRecords.filterMap markerOwner?) := filter_sublist.filterMap _
  constructor
  · intro record hrecord
    obtain ⟨hmem, hfloor⟩ := mem_filter.mp hrecord
    rw [h.floor] at hfloor
    change record ∈ plan.retainedRecords
    rw [hrows]
    exact mem_filter.mpr ⟨mem_append_left _ (hheld.retained record hmem), hfloor⟩
  · exact fun record hrecord => hheld.owned record (mem_of_mem_filter hrecord)
  · intro participant hpart
    rw [howners, mem_append] at hpart
    rcases hpart with hold | hnew
    · exact hheld.active participant (mem_append_left _ (hkept.subset hold))
    · exact (hsub.map _).subset hnew
  · rw [howners, nodup_append]
    refine ⟨(nodup_append.mp hheld.distinct).1.sublist hkept, f.activeIdentities.indexes_nodup.sublist (hsub.map _), ?_⟩
    rintro participant hold _ hnew rfl
    obtain ⟨record, hrecord, howner⟩ := mem_filterMap.mp hold
    obtain ⟨credit, hcredit, -, hcredited⟩ := Keyed.exists_of_forall₂ hcredits hrecord
    rw [howner, Option.some.injEq] at hcredited
    obtain ⟨p, hp, rfl⟩ := mem_map.mp hnew
    -- the new candidate's participant would hold a surviving credit
    rw [hovertaken, newlyOvertaken, mem_filter, Bool.and_eq_true, Bool.not_eq_true'] at hp
    have hnone := any_eq_false.mp hp.2.2 credit (hperm.mem_iff.mpr hcredit)
    exact hnone (beq_iff_eq.mpr hcredited.symm)

end ClaimFrontiers

namespace LiveFrontierOwner

variable {owner owner' : LiveFrontierOwner} {limits : OrdinaryProjectionLimits}

theorem AccountStep.markersHeld (h : owner.AccountStep limits owner')
    (hheld : owner.frontiers.MarkersHeld) : owner'.frontiers.MarkersHeld := by
  cases h with
  | kept hrecords _ hmarkers hcands hindexes _ =>
    exact hheld.of_same hmarkers hcands (hindexes ▸ Subset.refl _) (by rw [hrecords]; exact hheld.retained)
  | grown hrecords _ _ hmarkers hcands hindexes _ =>
    refine hheld.of_same hmarkers hcands hindexes fun record hrecord => ?_
    rw [hrecords]
    exact mem_append_left _ (hheld.retained record hrecord)
  | @marked _ marker _ hcands _ hrecords hmarkers _ hindexes _ =>
    -- the marker moves from the candidates to the records, and its owner with it
    have howners : owner'.frontiers.markerOwners = owner.frontiers.markerOwners := by
      rw [markerOwners, markerOwners, hmarkers, hcands, filterMap_append, append_assoc]
      rfl
    exact {
      retained := by
        rw [hrecords, hmarkers]
        intro record hrecord
        rcases mem_append.mp hrecord with hold | hnew
        · exact mem_append_left _ (hheld.retained record hold)
        · exact mem_append_right _ hnew
      owned := by
        rw [hmarkers]
        intro record hrecord
        rcases mem_append.mp hrecord with hold | hnew
        · exact hheld.owned record hold
        · exact ⟨marker.admissionOrder.participantIndex, by rw [mem_singleton.mp hnew]; rfl⟩
      active := by rw [howners, hindexes]; exact hheld.active
      distinct := by rw [howners]; exact hheld.distinct }
  | recorded hnil hplan => exact hheld.projectedRecord hnil hplan
  | @left _ participant _ _ _ hrecords _ _ hmarkers hcands hindexes _ _ =>
    have howners : owner'.frontiers.markerOwners = owner'.frontiers.markerRecords.filterMap markerOwner? := by
      rw [markerOwners, hcands.2, map_nil, append_nil]
    have hsub : owner'.frontiers.markerOwners.Sublist owner.frontiers.markerOwners := by
      rw [howners, hmarkers]
      exact (filter_sublist.filterMap _).trans (sublist_append_left _ _)
    exact {
      retained := by
        rw [hrecords, hmarkers]
        exact fun record hrecord => mem_append_left _ (hheld.retained record (mem_of_mem_filter hrecord))
      owned := by
        rw [hmarkers]
        exact fun record hrecord => hheld.owned record (mem_of_mem_filter hrecord)
      active := by
        intro other hother
        rw [hindexes, mem_filter]
        refine ⟨hheld.active other (hsub.subset hother), decide_eq_true ?_⟩
        rintro rfl
        rw [howners, hmarkers] at hother
        obtain ⟨record, hrecord, howner⟩ := mem_filterMap.mp hother
        have hkept := (mem_filter.mp hrecord).2
        rw [isMarkerOf, howner, beq_self_eq_true] at hkept
        cases hkept
      distinct := hheld.distinct.sublist hsub }
  | floored hspared hrecords _ hmarkers hcands hindexes _ =>
    refine hheld.of_same hmarkers hcands (hindexes ▸ Subset.refl _) fun record hrecord => ?_
    rw [hrecords]
    exact mem_filter.mpr ⟨hheld.retained record hrecord, decide_eq_true (hspared record hrecord)⟩

theorem markersOf_eq (hheld : owner.frontiers.MarkersHeld) (participant : ParticipantId) :
    owner.frontiers.markerRecords.filter (fun record => record.isMarkerOf participant) =
      (owner.frontiers.markerRecords.find? fun record => record.isMarkerOf participant).toList := by
  apply Keyed.filter_eq_find?_toList
  have hcount := nodup_iff_count_le_one.mp (nodup_append.mp hheld.distinct).1 participant
  rw [count_filterMap] at hcount
  exact hcount

theorem retiredMarkerCharge_eq_some (h : owner.retiredMarkerCharge participant = some retired) :
    Forall₂ (fun marker charge => charge ∈ owner.retainedCharges ∧ charge.deliverySeq = marker.deliverySeq)
      (owner.frontiers.markerRecords.find? fun record => record.isMarkerOf participant).toList retired.toList := by
  unfold retiredMarkerCharge at h
  split at h
  · rename_i hnone
    rw [hnone, ← Option.some.inj h]
    exact .nil
  · rename_i marker hmarker
    obtain ⟨charge, hcharge, rfl⟩ := Option.map_eq_some_iff.mp h
    rw [hmarker]
    exact .cons ⟨mem_of_find?_eq_some hcharge, by simpa using find?_some hcharge⟩ .nil

theorem AccountStep.credits (h : owner.AccountStep limits owner') (hheld : owner.frontiers.MarkersHeld)
    (hcredits : owner.closureAccounting.markerCapacityCredits =
      owner.frontiers.markerRecords.length + owner.frontiers.markerCandidates.length) :
    owner'.closureAccounting.markerCapacityCredits =
      owner'.frontiers.markerRecords.length + owner'.frontiers.markerCandidates.length := by
  cases h with
  | kept _ _ hmarkers hcands _ hacct =>
    rw [hmarkers, hcands, hacct.credits, hcredits]
  | grown _ _ _ hmarkers hcands _ hacct =>
    rw [hmarkers, hcands, hacct, hcredits]
  | marked hcands _ _ hmarkers _ _ hacct =>
    rw [hmarkers, hacct.credits, hcredits, hcands, length_append, length_cons, length_singleton]
    omega
  | @recorded _ _ _ _ plan _ search hnil hplan =>
    obtain ⟨credits, hcredits', hperm⟩ := Planned.survivingCredits hplan
    have hcount : plan.markerCandidates.length = search.markerParticipants.length := by
      rw [hplan.markers, layEach_length]
    change plan.resultingAccounting.markerCapacityCredits =
      (owner.frontiers.projectedRecord plan).frontiers.markerRecords.length +
        (owner.frontiers.projectedRecord plan).frontiers.markerCandidates.length
    rw [projectedRecord_markerCandidates hnil, hcount, hplan.accounting, hcredits'.length_eq, hperm.length_eq]
  | @left _ participant _ _ retired _ _ _ hmarkers hcands _ hretired hacct =>
    obtain ⟨-, -, hcounters⟩ := accountingAfterLeave_eq_some hacct
    -- what the Leave filters out is the one marker whose charge it retires
    have hlost := (retiredMarkerCharge_eq_some hretired).length_eq
    rw [← markersOf_eq hheld, ← countP_eq_length_filter] at hlost
    have hsplit := owner.frontiers.markerRecords.length_eq_countP_add_countP
      fun record => record.isMarkerOf participant
    have hkept : owner'.frontiers.markerRecords.length = owner.frontiers.markerRecords.countP
        fun record => decide ¬record.isMarkerOf participant = true := by
      rw [hmarkers, ← countP_eq_length_filter]
      simp
    rw [hcounters, hcands.2, hkept]
    rw [hcands.1] at hcredits
    simp only [length_nil] at hcredits ⊢
    omega
  | floored _ _ _ hmarkers hcands _ hacct =>
    rw [hmarkers, hcands, ← hcredits, hacct]

end LiveFrontierOwner

end Liminal
