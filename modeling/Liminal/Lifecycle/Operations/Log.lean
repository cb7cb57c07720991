import Liminal.Lifecycle.Operations.Steps

/-!
# The log

Retained rows, then the candidates that already have their place: together the window on the log.
Every step of the owner is a step of that window, so positions are contiguous, orders increase, and
no major is given out twice.
-/

namespace Liminal

open Checked Fallible ImmutableSequenceCandidate ClaimFrontiers OrdinaryProjectionFacts List

variable {owner owner' : LiveFrontierOwner} {rows : List RetainedCausalRecord} {charges : List RetainedRecordCharge}

abbrev LogEntry := DeliverySeq × AdmissionOrder

def RetainedCausalRecord.entry (record : RetainedCausalRecord) : LogEntry :=
  (record.deliverySeq, record.admissionOrder)

def ImmutableSequenceCandidate.entry (candidate : ImmutableSequenceCandidate) : LogEntry :=
  (candidate.deliverySeq, candidate.admissionOrder)

namespace ClaimFrontiers

variable {floor : Nat} {candidates : List ImmutableSequenceCandidate} {order : OrderLedger}
  {participant : ParticipantId} {input : OrdinaryRecordProjectionInput} {plan : OrdinaryFixedPointPlan}
  {markerState : MarkerState} {search : CapacitySearch} {terminal : Option CommittedBindingTerminal}
  {leftDeliverySeq : DeliverySeq} {leftTransactionOrder : TransactionOrder}

def log (f : ClaimFrontiers) : List LogEntry := f.retainedRecords.map RetainedCausalRecord.entry ++
    f.sequence.immutableCandidates.map entry

def window (f : ClaimFrontiers) : WindowLog AdmissionOrder := ⟨f.retainedFloor, f.log, f.nextOrder⟩

structure Logged (f : ClaimFrontiers) : Prop where
  wellFormed : f.window.WellFormed AdmissionOrder.transactionOrder
  stop : f.window.stop = f.firstMovable

structure LogStep (f f' : ClaimFrontiers) (new : List LogEntry) : Prop where
  step : WindowLog.Step AdmissionOrder.transactionOrder f.window f'.window new
  extent : f'.firstMovable = f.firstMovable + new.length

variable {f f' : ClaimFrontiers} {new : List LogEntry}

theorem LogStep.logged (h : f.LogStep f' new) (hlogged : f.Logged) : f'.Logged where
  wellFormed := h.step.wellFormed (fun _ _ => AdmissionOrder.lt_of_transactionOrder_lt) hlogged.wellFormed
  stop := by rw [h.step.stop_eq hlogged.wellFormed, hlogged.stop, h.extent]

theorem LogStep.append (hlogged : f.Logged) (hlog : f'.log = f.log ++ new) (hfloor : f'.retainedFloor = f.retainedFloor)
    (hplaces : new.map Prod.fst = range' f.firstMovable new.length)
    (hfirst : f'.firstMovable = f.firstMovable + new.length)
    (htransaction : ∃ major, f.nextOrder ≤ major ∧ OneTransaction major (new.map Prod.snd) ∧
      f'.nextOrder = major + 1) : f.LogStep f' new where
  step := by
    obtain ⟨major, hmajor, hone, hnext⟩ := htransaction
    refine .append hlogged.wellFormed hlog hfloor (by rw [hlogged.stop]; exact hplaces)
      ⟨major, hmajor, hone, fun _ => ?_⟩ ?_
    · exact (Nat.lt_succ_self major).trans_eq hnext.symm
    · exact (Nat.le_succ_of_le hmajor).trans_eq hnext.symm
  extent := hfirst

theorem LogStep.same (hlogged : f.Logged) (hwindow : f'.window = f.window)
    (hfirst : f'.firstMovable = f.firstMovable) : f.LogStep f' [] where
  step := by
    rw [hwindow]
    exact .refl hlogged.wellFormed
  extent := hfirst

theorem firstMovable_of_nil (h : f.sequence.immutableCandidates = []) : f.firstMovable = f.high + 1 := by
  rw [firstMovable, h]
  rfl

theorem log_of_nil (h : f.sequence.immutableCandidates = []) :
    f.log = f.retainedRecords.map RetainedCausalRecord.entry := by
  rw [log, h, map_nil, append_nil]

theorem map_fst_entry (rows : List RetainedCausalRecord) :
    (rows.map RetainedCausalRecord.entry).map Prod.fst = rows.map RetainedCausalRecord.deliverySeq := by
  rw [map_map]
  rfl

theorem map_snd_entry (rows : List RetainedCausalRecord) :
    (rows.map RetainedCausalRecord.entry).map Prod.snd = rows.map RetainedCausalRecord.admissionOrder := by
  rw [map_map]
  rfl

theorem Logged.retained (h : f.Logged) : f.retainedRecords.map RetainedCausalRecord.deliverySeq =
        range' f.retainedFloor f.retainedRecords.length ∧ f.retainedFloor + f.retainedRecords.length = f.high + 1 := by
  have hplaces := h.wellFormed.positions
  have hstop := h.stop
  simp only [window, log, map_append, length_append, length_map, map_fst_entry,
    WindowLog.stop, firstMovable] at hplaces hstop
  rw [← range'_append_1] at hplaces
  exact ⟨(append_inj hplaces (by simp)).1, by omega⟩

theorem Logged.candidate_above (h : f.Logged)
    (hcand : candidate ∈ f.sequence.immutableCandidates) : f.high + 1 ≤ candidate.deliverySeq := by
  have hplaces := h.wellFormed.positions
  have hextent := h.retained.2
  simp only [window, log, map_append, length_append, length_map, map_fst_entry] at hplaces
  rw [← range'_append_1] at hplaces
  have hlater := (append_inj hplaces (by simp)).2
  have hmem : candidate.deliverySeq ∈ (f.sequence.immutableCandidates.map entry).map Prod.fst := by
    rw [map_map]
    exact mem_map_of_mem (f := Prod.fst ∘ entry) hcand
  rw [hlater, mem_range'_1] at hmem
  exact hextent.ge.trans hmem.1

theorem filter_entry (floor : Nat) (rows : List RetainedCausalRecord) :
    (rows.map RetainedCausalRecord.entry).filter (fun entry => floor ≤ entry.1) =
      (rows.filter fun record => floor ≤ record.deliverySeq).map RetainedCausalRecord.entry := by
  rw [filter_map]
  rfl

theorem filter_candidates (h : ∀ candidate ∈ candidates, floor ≤ candidate.deliverySeq) :
    (candidates.map entry).filter (fun entry => floor ≤ entry.1) = candidates.map entry := by
  rw [filter_eq_self]
  intro entry hentry
  obtain ⟨candidate, hcand, rfl⟩ := mem_map.mp hentry
  exact decide_eq_true (h candidate hcand)

/-! ### The steps of the frontiers -/

theorem LogStep.applyLiveTransition {sequence} (hlogged : f.Logged) (hrows : OneTransaction f.nextOrder
    (rows.map RetainedCausalRecord.admissionOrder)) (horder : order.high = .allocated f.nextOrder) (hne : rows ≠ [])
    (h : f.applyLiveTransition participants rows sequence order = .ok f') : f.LogStep f'
    (rows.map RetainedCausalRecord.entry) := by
  obtain ⟨hfree, active, -, -, -, happended, -, -, rfl⟩ := applyLiveTransition_eq_ok.mp h
  obtain ⟨hnil, -, -, -⟩ := liveTransitionBlocked_eq_false.mp hfree
  have hhigh := happended.resultingHigh_eq hne
  refine .append hlogged ?_ rfl ?_ ?_ ⟨f.nextOrder, Nat.le_refl _, ?_, ?_⟩
  · rw [log_of_nil hnil]
    simp [log, sequenceLayout]
  · rw [map_fst_entry, happended.2.1, firstMovable_of_nil hnil, length_map]
  · rw [firstMovable_of_nil hnil, firstMovable_of_nil rfl, high]
    simp only [sequenceLayout, hhigh, length_map]
    exact Nat.add_right_comm _ _ _
  · rw [map_snd_entry]
    exact hrows
  · rw [nextOrder]
    simp only [orderLaneLayout, horder]
    rfl

theorem LogStep.applyPendingBindingTerminal {deliverySeq admissionOrder} (hlogged : f.Logged)
    (hmajor : admissionOrder.transactionOrder = f.nextOrder)
    (h : f.applyPendingBindingTerminal participant bindingEpoch deliverySeq admissionOrder order =
      .ok f') : f.LogStep f' [(f.high + 1, admissionOrder)] := by
  obtain ⟨hfree, current, -, -, active, -, -, -, -, -, horder, -, -, -, rfl⟩ :=
    applyPendingBindingTerminal_eq_ok.mp h
  obtain ⟨hnil, -, -, -⟩ := liveTransitionBlocked_eq_false.mp hfree
  refine .append hlogged ?_ rfl ?_ ?_ ⟨f.nextOrder, Nat.le_refl _, ?_, ?_⟩
  · rw [log_of_nil hnil]
    rfl
  · rw [firstMovable_of_nil hnil]
    rfl
  · rw [firstMovable_of_nil hnil]
    rfl
  · rw [← hmajor]
    exact .single admissionOrder
  · rw [nextOrder]
    simp only [orderLaneLayout, horder, hmajor]
    rfl

theorem LogStep.drainFirstBindingTerminal {owner order} (hlogged : f.Logged)
    (h : f.drainFirstBindingTerminal owner order = .ok (f', record)) : f.LogStep f' [] := by
  obtain ⟨hvalid, rfl, ledger, -, hhigh, -, -, -, -, -, rfl⟩ := drainFirstBindingTerminal_eq_ok.mp h
  obtain ⟨-, hcands, -, -, -, -, -⟩ := validateFirstTerminalCandidate_eq_ok.mp hvalid
  refine .same hlogged ?_ ?_
  · simp [window, log, sequenceLayout, hcands, RetainedCausalRecord.entry, entry, deliverySeq,
      admissionOrder, nextOrder, orderLaneLayout]
  · rw [firstMovable_of_nil rfl, firstMovable, hcands, high]
    simp only [sequenceLayout, hhigh, length_singleton]

theorem LogStep.drainNextMarkerCore {marker} (hlogged : f.Logged)
    (h : f.drainNextMarkerCore = .ok (f', marker)) : f.LogStep f' [] := by
  obtain ⟨rest, groups, ledger, hcands, -, -, -, hhigh, -, rfl⟩ := drainNextMarkerCore_eq_ok h
  refine .same hlogged ?_ ?_
  · simp [window, log, hcands, RetainedCausalRecord.entry, markerRecord, entry, deliverySeq, admissionOrder, nextOrder]
  · simp only [firstMovable, hcands, high, hhigh, length_cons]
    exact Nat.add_right_comm _ _ _

/-- A raised floor forgets retained rows only: every candidate lies above it. -/
theorem LogStep.compactTo (hlogged : f.Logged) (hfloor : f.checkFateFloor floor = .ok
    ()) : f.LogStep (ClaimFrontiers.compactTo { f with activeIdentities := active } floor) [] := by
  obtain ⟨hlow, hhigh, -⟩ := checkFateFloor_eq_ok.mp hfloor
  have hextent := hlogged.retained.2
  refine ⟨⟨?_, rfl, ⟨f.nextOrder, Nat.le_refl _, ⟨Pairwise.nil, by simp⟩, fun h => absurd rfl h⟩,
    Nat.le_refl _, hlow, ?_⟩, rfl⟩
  · have hcands : ∀ candidate ∈ f.sequence.immutableCandidates, floor ≤ candidate.deliverySeq :=
      fun candidate hcand => hhigh.trans (hlogged.candidate_above hcand)
    change (f.retainedRecords.filter fun record => floor ≤ record.deliverySeq).map
        RetainedCausalRecord.entry ++ f.sequence.immutableCandidates.map
          entry = (f.log ++ []).filter fun entry => floor ≤ entry.1
    rw [append_nil, log, filter_append, filter_entry, filter_candidates hcands]
  · simp only [window, ClaimFrontiers.compactTo, WindowLog.stop, log, length_append, length_map, length_nil]
    omega

/-- The record comes before the markers it induces, and those come in the order of their participants. -/
theorem Planned.oneTransaction (h : (f.ordinaryProjectionFacts input).Planned plan markerState search) :
    OneTransaction f.nextOrder (plan.callerRecord.admissionOrder ::
      plan.markerCandidates.map MarkerCandidateAuthority.admissionOrder) := by
  have hovertaken := (capacityAt_eq_ok (searchFloor_eq_ok h.searched).1).2.2.2.1
  have horders : plan.markerCandidates.map MarkerCandidateAuthority.admissionOrder =
      search.markerParticipants.map fun p => ⟨f.nextOrder, .compactionMarker, p.participantIndex⟩ := by
    rw [h.markers]
    exact map_layEach _ _ _ _ _ _ fun _ _ => rfl
  rw [horders, h.callerRecord]
  refine ⟨pairwise_cons.mpr ⟨?_, ?_⟩, ?_⟩
  · intro order horder
    obtain ⟨p, -, rfl⟩ := mem_map.mp horder
    exact AdmissionOrder.lt_of_rank_lt rfl (Nat.lt_succ_self 3)
  · rw [pairwise_map, hovertaken]
    refine (f.activeIdentities.ascending.filter _).imp ?_
    intro p q hlt
    exact Or.inr ⟨rfl, Or.inr ⟨rfl, hlt⟩⟩
  · intro order horder
    rcases mem_cons.mp horder with rfl | horder
    · rfl
    · obtain ⟨p, -, rfl⟩ := mem_map.mp horder
      rfl

/-- An ordinary record and the markers it induces are one transaction; the floor may rise at the same time. -/
theorem LogStep.projectOrdinaryRecord (hlogged : f.Logged)
    (h : f.projectOrdinaryRecord input = .ok (.projected projected)) :
    f.LogStep projected.frontiers (projected.callerRecord.entry ::
      (projected.newMarkerCandidates.map marker).map entry) := by
  obtain ⟨hnil, -, plan, markerState, search, rfl, hplan⟩ := projectOrdinaryRecord_eq_ok h
  obtain ⟨-, hobs, hlength, -⟩ := validateSnapshot_eq_ok hplan.snapshot
  obtain ⟨-, -, hceiling, hfloor, -⟩ := searchFloor_eq_ok hplan.searched
  have hstop : f.window.stop = f.high + 1 := hlogged.stop.trans (firstMovable_of_nil hnil)
  have hmarkers : ∀ candidate ∈ plan.markerCandidates.map marker, search.floor ≤ candidate.deliverySeq := by
    intro candidate hcand
    obtain ⟨marker, hmarker, rfl⟩ := mem_map.mp hcand
    rw [hplan.markers] at hmarker
    have hplace : f.high + 1 + 1 ≤ marker.deliverySeq :=
      (start_of_mem_layEach (fun _ _ => rfl) hmarker).1
    exact hceiling.trans ((Nat.succ_le_succ hobs).trans ((Nat.le_succ _).trans hplace))
  have hcands : (f.projectedRecord plan).frontiers.sequence.immutableCandidates =
      plan.markerCandidates.map .marker := by
    simp [projectedRecord, relaidLanes, relayOrdinarySequenceOwners, hnil]
  have hhigh : (f.projectedRecord plan).frontiers.high = f.high + 1 := hplan.sequenceHigh
  have hnext : (f.projectedRecord plan).frontiers.nextOrder = f.nextOrder + 1 :=
    congrArg OrderHigh.next hplan.orderHigh
  have hplaces : plan.markerCandidates.map MarkerCandidateAuthority.deliverySeq =
      range' (f.high + 2) plan.markerCandidates.length := by
    rw [hplan.markers, layEach_length]
    exact map_start_layEach fun _ _ => rfl
  refine ⟨⟨?_, ?_, ⟨f.nextOrder, Nat.le_refl _, ?_, fun _ => ?_⟩, ?_, ?_, ?_⟩, ?_⟩
  · -- The rows and the caller's row are filtered together; the markers lie above the floor anyway.
    have hentries : f.log ++ (plan.callerRecord.entry :: (plan.markerCandidates.map .marker).map entry) =
        (f.retainedRecords ++ [plan.callerRecord]).map RetainedCausalRecord.entry ++
          (plan.markerCandidates.map .marker).map entry := by
      rw [log_of_nil hnil, map_append, append_assoc]
      rfl
    have hrows := hplan.records.trans (resultingRetainedRows_fst hlength)
    have hlog : (f.projectedRecord plan).frontiers.log = (f.log ++ (plan.callerRecord.entry ::
        (plan.markerCandidates.map .marker).map entry)).filter
          fun entry => search.floor ≤ entry.1 := by
      rw [hentries, filter_append, filter_entry, filter_candidates hmarkers, log, hcands]
      exact congrArg (fun rows => rows.map RetainedCausalRecord.entry ++ _) hrows
    rw [← hplan.floor] at hlog
    exact hlog
  · rw [hstop, map_cons, map_map, map_map, length_cons, length_map, length_map, range'_succ, cons.injEq]
    exact ⟨congrArg RetainedCausalRecord.deliverySeq hplan.callerRecord, hplaces⟩
  · rw [map_cons, map_map, map_map]
    exact Planned.oneTransaction hplan
  · exact (Nat.lt_succ_self _).trans_eq hnext.symm
  · exact (Nat.le_succ _).trans_eq hnext.symm
  · exact hfloor.trans_eq hplan.floor.symm
  · rw [hstop]
    exact hplan.floor.trans_le (hceiling.trans ((Nat.succ_le_succ hobs).trans (Nat.le_add_right _ _)))
  · rw [firstMovable, hcands, hhigh, firstMovable_of_nil hnil, length_cons, length_map, length_map, length_map]
    exact (Nat.add_right_comm _ _ _).trans (Nat.add_assoc _ _ _)

/-- A pended terminal that a Leave composes had its place in the log before. -/
theorem leaveCandidatesMatch_entries
    (h : leaveCandidatesMatch participant firstAppended candidates terminal = true) : candidates.map entry =
        (terminal.toList.map (terminalRecord participant)).map RetainedCausalRecord.entry ∧
      (terminal.toList.map (terminalRecord participant)).map RetainedCausalRecord.deliverySeq =
        range' firstAppended terminal.toList.length := by
  cases terminal with
  | none =>
    rw [isEmpty_iff.mp h]
    exact ⟨rfl, rfl⟩
  | some terminal =>
    obtain ⟨hplace, rfl⟩ := of_decide_eq_true h
    constructor
    · simp [entry, RetainedCausalRecord.entry, terminalRecord, hplace, deliverySeq, admissionOrder]
    · simp [terminalRecord, hplace]

section

variable (hlogged : f.Logged) (h : f.LeftBy f' participant terminal leftDeliverySeq leftTransactionOrder)
include hlogged h

theorem LeftBy.retainedRecords_eq : (f.retainedRecords ++ leaveRecords participant terminal leftDeliverySeq
        leftTransactionOrder).map RetainedCausalRecord.deliverySeq =
        range' f.retainedFloor (f.retainedRecords.length + (terminal.toList.length + 1)) ∧
      f'.retainedRecords = f.retainedRecords ++ leaveRecords participant terminal leftDeliverySeq
        leftTransactionOrder := by
  obtain ⟨hplaces, hextent⟩ := hlogged.retained
  have hterm := (leaveCandidatesMatch_entries h.candidates).2
  have hrows : (f.retainedRecords ++ leaveRecords participant terminal leftDeliverySeq
      leftTransactionOrder).map RetainedCausalRecord.deliverySeq =
      range' f.retainedFloor (f.retainedRecords.length + (terminal.toList.length + 1)) := by
    have hleft : (leftRecord participant leftDeliverySeq leftTransactionOrder).deliverySeq =
        f.high + 1 + terminal.toList.length := h.position
    rw [map_append, leaveRecords, map_append, hplaces, hterm, ← hextent,
      map_singleton, hleft, ← hextent, ← range'_append_1, range'_concat, Nat.one_mul]
  obtain ⟨sequence, order, rfl, -, -⟩ := h.result
  refine ⟨hrows, Keyed.insertionSort_eq_self ?_⟩
  rw [hrows]
  exact pairwise_le_range'

theorem LogStep.leftBy : f.LogStep f' [(leftRecord participant leftDeliverySeq leftTransactionOrder).entry] := by
  obtain ⟨hentries, -⟩ := leaveCandidatesMatch_entries h.candidates
  have hlength : f.sequence.immutableCandidates.length = terminal.toList.length := by
    have hcounts := congrArg length hentries
    simpa using hcounts
  have hrecords := (h.retainedRecords_eq hlogged).2
  obtain ⟨sequence, order, hf', hhigh, horder⟩ := h.result
  have hnil : f'.sequence.immutableCandidates = [] := by rw [hf']; rfl
  have hfirst : f.firstMovable = leftDeliverySeq := by
    rw [firstMovable, hlength, h.position]
  refine .append hlogged ?_ (by rw [hf']; rfl) ?_ ?_ ⟨leftTransactionOrder, h.major, .single _, ?_⟩
  · rw [log_of_nil hnil, hrecords, log, hentries, leaveRecords, map_append, map_append, append_assoc]
    rfl
  · rw [hfirst]
    rfl
  · rw [firstMovable_of_nil hnil, hfirst, high, hf']
    exact congrArg (· + 1) hhigh
  · rw [nextOrder, hf']
    exact congrArg OrderHigh.next horder

end

end ClaimFrontiers

theorem LiveFrontierOwner.Step.logStep (h : owner.Step owner') (hlogged : owner.frontiers.Logged) :
    ∃ new, owner.frontiers.LogStep owner'.frontiers new := by
  cases h with
  | appended happends =>
    obtain ⟨hrows, horder, hne, -, htrans⟩ := happends
    obtain ⟨-, -, accounting, -, frontiers, hfronts, rfl⟩ := transition_eq_ok.mp htrans
    exact ⟨_, .applyLiveTransition hlogged hrows horder hne hfronts⟩
  | pended hpend =>
    obtain ⟨order, horder, frontiers, hfronts, rfl⟩ := pendBindingTerminalCandidate_eq_ok.mp hpend
    obtain ⟨-, hmajor, -⟩ := detachOrder_eq_some.mp horder
    exact ⟨_, .applyPendingBindingTerminal hlogged hmajor hfronts⟩
  | drained hdrain =>
    obtain ⟨-, -, -, -, accounting, -, frontiers, record, hfronts, rfl, -⟩ :=
      drainPendingTerminal_eq_ok.mp hdrain
    exact ⟨_, .drainFirstBindingTerminal hlogged hfronts⟩
  | recorded hproject => exact ⟨_, .projectOrdinaryRecord hlogged hproject⟩
  | markerDrained hdrain =>
    obtain ⟨frontiers, marker, state, accounting, hfronts, -, -, rfl⟩ := drainNextMarker_eq_ok hdrain
    exact ⟨_, .drainNextMarkerCore hlogged hfronts⟩
  | acknowledged _ _ | unchanged => exact ⟨_, .same hlogged rfl rfl⟩
  | left hleaving => exact ⟨_, .leftBy hlogged hleaving.frontiers⟩
  | floored hfloored =>
    rw [hfloored.frontiers]
    exact ⟨_, .compactTo hlogged hfloored.admissible⟩

/-! ### Charges -/

theorem chargesKeyed_iff : chargesKeyed rows charges ↔ Forall₂ chargeKeyed rows charges := by
  rw [chargesKeyed, forall₂_iff_zip]
  simp only [Prod.forall]

theorem keyed_positions (h : Forall₂ chargeKeyed rows charges) :
    charges.map RetainedRecordCharge.deliverySeq = rows.map RetainedCausalRecord.deliverySeq := by
  induction h with
  | nil => rfl
  | cons hkeyed _ ih => rw [map_cons, map_cons, ih, hkeyed.1]

/-- The rows of a Leave and their charges go behind the others, at positions above the high watermark. -/
theorem LiveFrontierOwner.Leaving.rows_eq {terminal : Option CommittedBindingTerminal} {leftDeliverySeq : DeliverySeq}
    {leftTransactionOrder : TransactionOrder}
    (h : owner.Leaving owner' member terminal newCharges leftDeliverySeq leftTransactionOrder)
    (hlogged : owner.frontiers.Logged)
    (hkeyed : Forall₂ chargeKeyed owner.frontiers.retainedRecords owner.retainedCharges) :
    owner'.frontiers.retainedRecords = owner.frontiers.retainedRecords ++ leaveRecords
        member.participantId terminal leftDeliverySeq leftTransactionOrder ∧
      owner'.retainedCharges = owner.retainedCharges ++ newCharges ∧
      ∀ charge ∈ newCharges, owner.frontiers.high < charge.deliverySeq := by
  obtain ⟨hplaces, hrecords⟩ := h.frontiers.retainedRecords_eq hlogged
  obtain ⟨hold, hextent⟩ := hlogged.retained
  have hrows := rel_append hkeyed h.keyed
  refine ⟨hrecords, ?_, fun charge hcharge => ?_⟩
  · rw [h.charges]
    apply Keyed.insertionSort_eq_self
    rw [keyed_positions hrows, hplaces]
    exact pairwise_le_range'
  · have hnew : newCharges.map RetainedRecordCharge.deliverySeq =
        range' (owner.frontiers.high + 1) (terminal.toList.length + 1) := by
      rw [map_append, hold, ← range'_append_1, hextent] at hplaces
      rw [keyed_positions h.keyed]
      exact append_cancel_left hplaces
    have hmem : charge.deliverySeq ∈ newCharges.map RetainedRecordCharge.deliverySeq :=
      mem_map_of_mem hcharge
    rw [hnew, mem_range'_1] at hmem
    exact hmem.1

theorem LiveFrontierOwner.Step.keyed (h : owner.Step owner') (hlogged : owner.frontiers.Logged)
    (hkeyed : Forall₂ chargeKeyed owner.frontiers.retainedRecords owner.retainedCharges) :
    Forall₂ chargeKeyed owner'.frontiers.retainedRecords owner'.retainedCharges := by
  cases h with
  | appended happends =>
    obtain ⟨-, -, -, -, htrans⟩ := happends
    obtain ⟨⟨hrows, -⟩, -, accounting, -, frontiers, hfronts, rfl⟩ := transition_eq_ok.mp htrans
    obtain ⟨-, active, -, -, -, -, -, -, rfl⟩ := applyLiveTransition_eq_ok.mp hfronts
    exact rel_append hkeyed (chargesKeyed_iff.mp hrows)
  | pended hpend =>
    obtain ⟨order, -, frontiers, hfronts, rfl⟩ := pendBindingTerminalCandidate_eq_ok.mp hpend
    obtain ⟨-, _, -, -, active, -, -, -, -, -, -, -, -, -, rfl⟩ :=
      applyPendingBindingTerminal_eq_ok.mp hfronts
    exact hkeyed
  | drained hdrain =>
    obtain ⟨-, hseq, horder, -, accounting, -, frontiers, record, hfronts, rfl, -⟩ :=
      drainPendingTerminal_eq_ok.mp hdrain
    obtain ⟨-, rfl, ledger, -, -, -, -, -, -, -, rfl⟩ :=
      drainFirstBindingTerminal_eq_ok.mp hfronts
    exact rel_append hkeyed (.cons ⟨hseq.symm, horder.symm⟩ .nil)
  | recorded hproject =>
    obtain ⟨-, -, plan, markerState, search, rfl, hplan⟩ := projectOrdinaryRecord_eq_ok hproject
    have hcaller : chargeKeyed plan.callerRecord plan.callerCharge := by
      rw [hplan.callerRecord, hplan.callerCharge]
      exact ⟨rfl, rfl⟩
    change Forall₂ chargeKeyed plan.retainedRecords plan.retainedCharges
    rw [hplan.records, hplan.charges, forall₂_map_left_iff, forall₂_map_right_iff, forall₂_same]
    intro row hrow
    rcases mem_append.mp (mem_filter.mp hrow).1 with hold | hnew
    · exact (forall₂_iff_zip.mp hkeyed).2 hold
    · rw [mem_singleton.mp hnew]
      exact hcaller
  | markerDrained hdrain =>
    obtain ⟨frontiers, marker, state, accounting, hfronts, hmarker, -, rfl⟩ :=
      drainNextMarker_eq_ok hdrain
    obtain ⟨_, _, _, -, -, -, -, -, -, rfl⟩ := drainNextMarkerCore_eq_ok hfronts
    exact rel_append hkeyed (.cons hmarker .nil)
  | acknowledged _ _ | unchanged => exact hkeyed
  | left hleaving =>
    obtain ⟨hrecords, hcharges, -⟩ := hleaving.rows_eq hlogged hkeyed
    rw [hrecords, hcharges]
    exact rel_append hkeyed hleaving.keyed
  | floored hfloored =>
    rw [hfloored.frontiers, hfloored.charges]
    refine rel_filter (R := chargeKeyed) (fun record charge hrow => ?_) hkeyed
    simp only [hrow.1]

end Liminal
