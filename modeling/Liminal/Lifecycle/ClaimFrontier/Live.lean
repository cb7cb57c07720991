import Liminal.Lifecycle.ClaimFrontier.Rebuild

/-!
# Live transitions of the frontiers

What the live operations do to the frontiers. A failed transition hands them back untouched, so only
the result and the reason of a refusal are modelled.
-/

namespace Liminal

open Checked Fallible ActiveIdentityRanks List

variable {participants : List FrontierParticipant} {p q : FrontierParticipant}

/-! ### Replacing one participant -/

section

variable (participants : List FrontierParticipant) (p : FrontierParticipant)

def replaceParticipant : List FrontierParticipant :=
  participants.map fun q => if q.participantIndex = p.participantIndex then p else q

theorem replaceParticipant_indexes :
    (replaceParticipant participants p).map FrontierParticipant.participantIndex =
      participants.map FrontierParticipant.participantIndex := by
  simp only [replaceParticipant, map_map]
  apply map_congr_left
  intro q _
  simp only [Function.comp_apply]
  split <;> simp_all

end

theorem mem_replaceParticipant (h : q ∈ replaceParticipant participants p) :
    q = p ∨ q ∈ participants ∧ q.participantIndex ≠ p.participantIndex := by
  obtain ⟨r, hr, rfl⟩ := mem_map.mp h
  split
  · exact Or.inl rfl
  · rename_i hne
    exact Or.inr ⟨hr, hne⟩

theorem mem_replaceParticipant_of_mem (hq : q ∈ participants)
    (hindex : q.participantIndex = p.participantIndex) : p ∈ replaceParticipant participants p :=
  mem_map.mpr ⟨q, hq, if_pos hindex⟩

theorem replaceParticipant_self (hself : ∀ q ∈ participants, q.participantIndex = p.participantIndex → q = p) :
    replaceParticipant participants p = participants := by
  conv_rhs => rw [← map_id participants]
  apply map_congr_left
  intro q hq
  split
  · rename_i hindex
    exact (hself q hq hindex).symm
  · rfl

theorem find?_of_ascending (hasc : AscendingIndexes participants) (hmem : p ∈ participants) :
    participants.find? (fun q => q.participantIndex == p.participantIndex) = some p := by
  induction participants with
  | nil => cases hmem
  | cons q rest ih =>
    obtain ⟨hlt, hrest⟩ := pairwise_cons.mp hasc
    rw [find?_cons]
    rcases mem_cons.mp hmem with rfl | hp
    · simp
    · have hne : (q.participantIndex == p.participantIndex) = false := by
        simpa using Nat.ne_of_lt (hlt p hp)
      rw [hne]
      exact ih hrest hp

namespace ActiveIdentityRanks

variable (active : ActiveIdentityRanks) {participant : ParticipantId} (p : FrontierParticipant)

def replace : ActiveIdentityRanks where
  participants := replaceParticipant active.participants p
  ascending := by
    have h := pairwise_map.mpr active.ascending
    rw [← replaceParticipant_indexes active.participants p] at h
    exact pairwise_map.mp h

@[simp] theorem replace_indexes : (active.replace p).indexes = active.indexes :=
  replaceParticipant_indexes active.participants p

@[simp] theorem replace_live : (active.replace p).live = active.live :=
  length_map ..

variable {active p}

theorem find?_eq_some :
    active.find? participant = some p ↔ p ∈ active.participants ∧ p.participantIndex = participant := by
  constructor
  · intro h
    exact ⟨mem_of_find?_eq_some h, by simpa using find?_some h⟩
  · rintro ⟨hmem, rfl⟩
    exact find?_of_ascending active.ascending hmem

theorem replaceParticipant_of_find? (h : active.find? participant = some p) :
    replaceParticipant active.participants p = active.participants := by
  obtain ⟨-, rfl⟩ := find?_eq_some.mp h
  refine replaceParticipant_self fun q hq hindex => ?_
  exact Option.some.inj ((find?_eq_some.mpr ⟨hq, hindex⟩).symm.trans h)

end ActiveIdentityRanks

namespace ClaimFrontiers

variable {f f' : ClaimFrontiers} {orderLedger : OrderLedger} {participant : ParticipantId}
  {bindingEpoch : BindingEpoch} {deliverySeq : DeliverySeq} {expectedOwner : BindingTerminalOwner}
  {expectedOrder : AdmissionOrder} {resultingFloor : Nat}

/-! ### Precedence -/

def liveTransitionBlocked (f : ClaimFrontiers) : Bool :=
  !f.sequence.immutableCandidates.isEmpty || f.sequence.recovery.isSome ||
    !f.order.immutableCandidates.isEmpty || f.order.recovery.isSome

def precedenceCondition (f : ClaimFrontiers) : PrecedenceCondition :=
  if f.sequence.recovery.isSome || f.order.recovery.isSome then .fencedRecovery
  else
    match f.sequence.immutableCandidates with
    | .marker marker :: _ => .markerDrain marker.deliverySeq
    | .bindingTerminal .. :: _ => .bindingTerminal
    | [] => .unclassified

theorem liveTransitionBlocked_eq_false : f.liveTransitionBlocked = false ↔ f.sequence.immutableCandidates = [] ∧
      f.sequence.recovery = none ∧ f.order.immutableCandidates = [] ∧ f.order.recovery = none := by
  simp [liveTransitionBlocked, and_assoc]

/-! ### Transitions that append records -/

/-- The appended records take the positions right above the high watermark, and the last of them is the new
high watermark. -/
def appendedPositions (highWatermark resultingHigh : DeliverySeq) (records : List RetainedCausalRecord) : Prop :=
  highWatermark + 1 ≤ u64Max ∧ records.map RetainedCausalRecord.deliverySeq = range'
    (highWatermark + 1) records.length ∧ ∀ record ∈ records.getLast?, record.deliverySeq = resultingHigh

instance (highWatermark resultingHigh : DeliverySeq) (records : List RetainedCausalRecord) :
    Decidable (appendedPositions highWatermark resultingHigh records) :=
  inferInstanceAs (Decidable (_ ∧ _ ∧ _))

theorem appendedPositions.resultingHigh_eq (h : appendedPositions highWatermark resultingHigh records)
    (hne : records ≠ []) : resultingHigh = highWatermark + records.length := by
  obtain ⟨-, hplaces, hlast⟩ := h
  obtain ⟨init, last, rfl⟩ := (eq_nil_or_concat' records).resolve_left hne
  rw [map_append, map_singleton, length_append, length_singleton, range'_concat] at hplaces
  have hplace := append_inj_right hplaces (by simp)
  rw [← hlast last (by simp), singleton_inj.mp hplace, length_append, length_singleton, Nat.one_mul]
  exact Nat.add_right_comm _ _ _

def applyLiveTransition (f : ClaimFrontiers) (participants : List FrontierParticipant)
    (appendedRecords : List RetainedCausalRecord) (sequenceLedger : SequenceLedger)
    (orderLedger : OrderLedger) : Except LiveFrontierTransitionError ClaimFrontiers := do
  require (f.liveTransitionBlocked = false) (.precedence f.precedenceCondition)
  let active ← (tryNew participants sequenceLedger.highWatermark f.identitySlotLimit).mapError fun _ => .authority
  require (appendedPositions f.high sequenceLedger.highWatermark appendedRecords) .recordPosition
  let (sequence, order) ← rebuildUnreservedFrontiers active sequenceLedger orderLedger
  return { f with
    activeIdentities := active
    retainedRecords := f.retainedRecords ++ appendedRecords
    sequence
    order }

/-- A terminal that cannot be appended yet is pended: the binding ends now and its record keeps the next
position. -/
def applyPendingBindingTerminal (f : ClaimFrontiers) (participant : ParticipantId)
    (bindingEpoch : BindingEpoch) (deliverySeq : DeliverySeq) (admissionOrder : AdmissionOrder)
    (orderLedger : OrderLedger) : Except LiveFrontierTransitionError ClaimFrontiers := do
  require (f.liveTransitionBlocked = false) (.precedence f.precedenceCondition)
  let current ← orError (f.activeIdentities.find? participant) .authority
  require (current.binding = .bound bindingEpoch) .authority
  let detached : FrontierParticipant := ⟨participant, current.cursor, .detached bindingEpoch⟩
  let active ← (tryNew (replaceParticipant f.activeIdentities.participants detached)
    f.high f.identitySlotLimit).mapError fun _ => .authority
  let (sequence, order) ← rebuildPendingTerminalFrontiers active ⟨participant, bindingEpoch⟩
    deliverySeq admissionOrder f.sequence.ledger orderLedger
  return { f with activeIdentities := active, sequence, order }

theorem applyLiveTransition_eq_ok :
    f.applyLiveTransition participants appendedRecords sequenceLedger orderLedger = .ok f' ↔
      f.liveTransitionBlocked = false ∧ ∃ active : ActiveIdentityRanks, active.participants = participants ∧
        active.participants.length ≤ f.identitySlotLimit ∧
        (∀ p ∈ active.participants, Admissible sequenceLedger.highWatermark f.identitySlotLimit p) ∧
        appendedPositions f.high sequenceLedger.highWatermark appendedRecords ∧
        ledgersMatch active active.terminalOwners.length sequenceLedger orderLedger ∧
        belowTop sequenceLedger orderLedger ∧ { f with
          activeIdentities := active
          retainedRecords := f.retainedRecords ++ appendedRecords
          sequence := sequenceLayout active active.terminalOwners [] sequenceLedger
          order := orderLaneLayout active [] orderLedger } = f' := by
  simp only [applyLiveTransition, ok_iff, tryNew_eq_ok, Prod.exists, rebuildUnreservedFrontiers_eq_ok,
    and_assoc, exists_and_left, exists_eq_left]

theorem applyPendingBindingTerminal_eq_ok :
    f.applyPendingBindingTerminal participant bindingEpoch deliverySeq admissionOrder orderLedger = .ok f' ↔
      f.liveTransitionBlocked = false ∧
      ∃ current : FrontierParticipant, f.activeIdentities.find? participant = some current ∧
        current.binding = .bound bindingEpoch ∧ ∃ active : ActiveIdentityRanks,
        active.participants = replaceParticipant f.activeIdentities.participants
          ⟨participant, current.cursor, .detached bindingEpoch⟩ ∧ active.participants.length ≤ f.identitySlotLimit ∧
        (∀ p ∈ active.participants, Admissible f.high f.identitySlotLimit p) ∧
        admissionOrder.candidatePhase = .bindingTerminal ∧ admissionOrder.participantIndex = participant ∧
        orderLedger.high = .allocated admissionOrder.transactionOrder ∧ deliverySeq = f.high + 1 ∧
        ledgersMatch active (active.terminalOwners.length + 1) f.sequence.ledger orderLedger ∧
        belowTop f.sequence.ledger orderLedger ∧ { f with
          activeIdentities := active
          sequence := sequenceLayout active (allTerminalOwners active ⟨participant, bindingEpoch⟩)
            [pendingCandidate f.sequence.ledger admissionOrder ⟨participant, bindingEpoch⟩] f.sequence.ledger
          order := orderLaneLayout active [⟨admissionOrder.transactionOrder, [admissionOrder]⟩] orderLedger } = f' := by
  simp only [applyPendingBindingTerminal, ok_iff, tryNew_eq_ok, Prod.exists,
    rebuildPendingTerminalFrontiers_eq_ok, and_assoc, exists_and_left, exists_eq_left, high]

/-! ### Acknowledgements -/

/-- Replaces one participant; its cursor may only move forward, up to the high watermark. -/
def applyLiveIdentity (f : ClaimFrontiers) (participant : FrontierParticipant) :
    Except LiveFrontierTransitionError ClaimFrontiers := do
  let current ← orError (f.activeIdentities.find? participant.participantIndex) .authority
  require (current.cursor ≤ participant.cursor ∧ participant.cursor ≤ f.high) .authority
  return { f with activeIdentities := f.activeIdentities.replace participant }

theorem applyLiveIdentity_eq_ok {participant} : f.applyLiveIdentity participant = .ok f' ↔
      ∃ current, f.activeIdentities.find? participant.participantIndex = some current ∧
        (current.cursor ≤ participant.cursor ∧ participant.cursor ≤ f.high) ∧
        { f with activeIdentities := f.activeIdentities.replace participant } = f' := by
  simp only [applyLiveIdentity, ok_iff]

/-! ### Draining the first candidate -/

inductive MarkerDrainCoreError
  | noCandidate
  | bindingTerminalFirst
  | sequenceNotNext
  | causalMajorNotAllocated
  | missingOrderCandidate
  | resultingLedger

/-- The order candidates without `key`; an emptied group goes away. Groups are sorted, so the source's binary
search finds what is there. -/
def removeOrderKey (key : AdmissionOrder) :
    List ImmutableOrderCandidateMajor → Option (List ImmutableOrderCandidateMajor)
  | [] => none
  | group :: rest =>
    if key ∈ group.candidateKeys then
      let keys := group.candidateKeys.erase key
      if keys.isEmpty then some rest else some ({ group with candidateKeys := keys } :: rest)
    else (removeOrderKey key rest).map (group :: ·)

def markerRecord (marker : MarkerCandidateAuthority) : RetainedCausalRecord where
  deliverySeq := marker.deliverySeq
  admissionOrder := marker.admissionOrder
  kind := .compactionMarker marker.admissionOrder.participantIndex marker.provenance

def drainNextMarkerCore (f : ClaimFrontiers) :
    Except MarkerDrainCoreError (ClaimFrontiers × MarkerCandidateAuthority) :=
  match f.sequence.immutableCandidates with
  | [] => .error .noCandidate
  | .bindingTerminal .. :: _ => .error .bindingTerminalFirst
  | .marker marker :: rest => do
    let expectedSequence ← orError (add u64Max f.high 1) .sequenceNotNext
    require (marker.deliverySeq = expectedSequence) .sequenceNotNext
    require (marker.admissionOrder.transactionOrder < f.order.ledger.high.next) .causalMajorNotAllocated
    let orderCandidates ← orError (removeOrderKey marker.admissionOrder f.order.immutableCandidates)
      .missingOrderCandidate
    let claims := f.sequence.ledger.claims
    let markers ← orError (sub claims.markers 1) .resultingLedger
    let ledger ← (SequenceLedger.tryNew expectedSequence { claims with markers }).mapError fun _ =>
      .resultingLedger
    return ({ f with
      markerRecords := f.markerRecords ++ [markerRecord marker]
      retainedRecords := f.retainedRecords ++ [markerRecord marker]
      sequence := { f.sequence with ledger, immutableCandidates := rest }
      order := { f.order with immutableCandidates := orderCandidates } }, marker)

def holdsOnlyKey (groups : List ImmutableOrderCandidateMajor) (key : AdmissionOrder) : Bool :=
  match groups with
  | [group] => decide (group.candidateKeys = [key])
  | _ => false

section

variable (f : ClaimFrontiers) (expectedOwner : BindingTerminalOwner) (expectedOrder : AdmissionOrder)

/-- The only candidate is the expected terminal, at the next position, of a participant already detached from
that epoch. -/
def validateFirstTerminalCandidate : Except LiveFrontierTransitionError DeliverySeq := do
  require (f.sequence.recovery = none ∧ f.order.recovery = none) (.precedence .fencedRecovery)
  match f.sequence.immutableCandidates with
  | [.bindingTerminal deliverySeq admissionOrder owner] => do
    require (owner = expectedOwner ∧ admissionOrder = expectedOrder) .authority
    let expectedSequence ← orError (add u64Max f.high 1) .exhausted
    require (deliverySeq = expectedSequence ∧
      admissionOrder.transactionOrder < f.order.ledger.high.next) .recordPosition
    require (holdsOnlyKey f.order.immutableCandidates admissionOrder = true) .recordPosition
    require (∃ p ∈ f.activeIdentities.participants, p.participantIndex = owner.participantIndex ∧
      p.binding = .detached owner.bindingEpoch) .authority
    return deliverySeq
  | _ => .error (.precedence f.precedenceCondition)

def drainFirstBindingTerminal : Except LiveFrontierTransitionError (ClaimFrontiers × RetainedCausalRecord) := do
  let deliverySeq ← f.validateFirstTerminalCandidate expectedOwner expectedOrder
  let claims := f.sequence.ledger.claims
  let bindingTerminals ← orError (sub claims.bindingTerminals 1) .resultingFrontier
  let sequenceLedger ← (SequenceLedger.tryNew deliverySeq { claims with bindingTerminals }).mapError
    fun _ => .resultingFrontier
  let active ← (tryNew f.activeIdentities.participants
    sequenceLedger.highWatermark f.identitySlotLimit).mapError fun _ => .authority
  let (sequence, order) ← rebuildUnreservedFrontiers active sequenceLedger f.order.ledger
  let record : RetainedCausalRecord := ⟨deliverySeq, expectedOrder, .bindingTerminal expectedOwner⟩
  return ({ f with
    activeIdentities := active
    sequence
    order
    retainedRecords := f.retainedRecords ++ [record] }, record)

end

theorem drainNextMarkerCore_eq_ok (h : f.drainNextMarkerCore = .ok (f', marker)) :
    ∃ rest orderCandidates ledger, f.sequence.immutableCandidates = .marker marker :: rest ∧ marker.deliverySeq =
      f.high + 1 ∧ removeOrderKey marker.admissionOrder f.order.immutableCandidates = some orderCandidates ∧ 1 ≤
      f.sequence.ledger.claims.markers ∧ ledger.highWatermark = f.high + 1 ∧ ledger.claims =
      { f.sequence.ledger.claims with
        markers := f.sequence.ledger.claims.markers - 1 } ∧
      f' = { f with
        markerRecords := f.markerRecords ++ [markerRecord marker]
        retainedRecords := f.retainedRecords ++ [markerRecord marker]
        sequence := { f.sequence with ledger, immutableCandidates := rest }
        order := { f.order with immutableCandidates := orderCandidates } } := by
  unfold drainNextMarkerCore at h
  split at h
  · cases h
  · cases h
  · rename_i first rest hcands
    simp only [ok_iff, add_eq_some, sub_eq_some, SequenceLedger.tryNew_eq_ok, Prod.mk.injEq] at h
    obtain ⟨_, ⟨-, rfl⟩, hseq, -, orderCandidates, hkeys, _, ⟨hmarkers, rfl⟩, ledger, ⟨hhigh, hclaims⟩, rfl, rfl⟩ := h
    exact ⟨rest, orderCandidates, ledger, hcands, hseq, hkeys, hmarkers, hhigh, hclaims, rfl⟩

theorem validateFirstTerminalCandidate_eq_ok :
    f.validateFirstTerminalCandidate expectedOwner expectedOrder = .ok deliverySeq ↔
      (f.sequence.recovery = none ∧ f.order.recovery = none) ∧
      f.sequence.immutableCandidates = [.bindingTerminal deliverySeq expectedOrder expectedOwner] ∧
      f.high + 1 ≤ u64Max ∧ deliverySeq = f.high + 1 ∧ expectedOrder.transactionOrder < f.order.ledger.high.next ∧
      holdsOnlyKey f.order.immutableCandidates expectedOrder = true ∧
      ∃ p ∈ f.activeIdentities.participants, p.participantIndex = expectedOwner.participantIndex ∧
        p.binding = .detached expectedOwner.bindingEpoch := by
  simp only [validateFirstTerminalCandidate, ok_iff]
  refine and_congr_right fun _ => ?_
  split
  · rename_i seq order owner hcands
    simp only [ok_iff, add_eq_some]
    constructor
    · rintro ⟨⟨rfl, rfl⟩, _, ⟨hle, rfl⟩, ⟨hseq, hmajor⟩, hgroup, hp, rfl⟩
      exact ⟨hcands, hle, hseq, hmajor, hgroup, hp⟩
    · rintro ⟨heq, hle, hseq, hmajor, hgroup, hp⟩
      rw [hcands] at heq
      obtain ⟨rfl, rfl, rfl⟩ := heq
      exact ⟨⟨rfl, rfl⟩, _, ⟨hle, rfl⟩, ⟨hseq, hmajor⟩, hgroup, hp, rfl⟩
  · rename_i hnone
    simp only [reduceCtorEq, false_iff]
    rintro ⟨heq, -⟩
    exact hnone _ _ _ heq

theorem drainFirstBindingTerminal_eq_ok :
    f.drainFirstBindingTerminal expectedOwner expectedOrder = .ok (f', record) ↔
      f.validateFirstTerminalCandidate expectedOwner expectedOrder = .ok (f.high + 1) ∧
      record = ⟨f.high + 1, expectedOrder, .bindingTerminal expectedOwner⟩ ∧
      ∃ sequenceLedger : SequenceLedger, 1 ≤ f.sequence.ledger.claims.bindingTerminals ∧
        sequenceLedger.highWatermark = f.high + 1 ∧ sequenceLedger.claims = { f.sequence.ledger.claims with
          bindingTerminals := f.sequence.ledger.claims.bindingTerminals - 1 } ∧
        f.activeIdentities.participants.length ≤ f.identitySlotLimit ∧
        (∀ p ∈ f.activeIdentities.participants, Admissible (f.high + 1) f.identitySlotLimit p) ∧
        ledgersMatch f.activeIdentities f.activeIdentities.terminalOwners.length sequenceLedger
          f.order.ledger ∧ belowTop sequenceLedger f.order.ledger ∧
        f' = { f with
          sequence := sequenceLayout f.activeIdentities f.activeIdentities.terminalOwners [] sequenceLedger
          order := orderLaneLayout f.activeIdentities [] f.order.ledger
          retainedRecords := f.retainedRecords ++ [record] } := by
  simp only [drainFirstBindingTerminal, ok_iff, sub_eq_some, SequenceLedger.tryNew_eq_ok,
    tryNew_eq_ok, Prod.exists, rebuildUnreservedFrontiers_eq_ok, Prod.mk.injEq]
  constructor
  · rintro ⟨seq, hvalid, _, ⟨hle, rfl⟩, ledger, ⟨hhigh, hclaims⟩, active, ⟨hparts, hlen, hall⟩, _, _,
      ⟨hmatch, hfits, rfl, rfl⟩, rfl, rfl⟩
    obtain rfl := (validateFirstTerminalCandidate_eq_ok.mp hvalid).2.2.2.1
    obtain rfl : active = f.activeIdentities := ActiveIdentityRanks.ext hparts
    rw [hhigh] at hall
    exact ⟨hvalid, rfl, ledger, hle, hhigh, hclaims, hlen, hall, hmatch, hfits, rfl⟩
  · rintro ⟨hvalid, rfl, ledger, hle, hhigh, hclaims, hlen, hall, hmatch, hfits, rfl⟩
    rw [← hhigh] at hall
    exact ⟨_, hvalid, _, ⟨hle, rfl⟩, ledger, ⟨hhigh, hclaims⟩, f.activeIdentities,
      ⟨rfl, hlen, hall⟩, _, _, ⟨hmatch, hfits, rfl, rfl⟩, rfl, rfl⟩

/-! ### Binding fate -/

variable (f)

def compactTo (floor : Nat) : ClaimFrontiers :=
  { f with
    retainedFloor := floor
    retainedRecords := f.retainedRecords.filter fun record => floor ≤ record.deliverySeq
    markerRecords := f.markerRecords.filter fun record => floor ≤ record.deliverySeq }

/-- A floor that may be installed: between the current floor and the end of the retained suffix, and not above
a retained marker. -/
def checkFateFloor (resultingFloor : Nat) : Except LiveFrontierTransitionError Unit := do
  require (f.retainedFloor ≤ resultingFloor ∧ resultingFloor ≤ f.high + 1) .resultingFrontier
  require (∀ record ∈ f.markerRecords, resultingFloor ≤ record.deliverySeq) (.precedence .unclassified)

/-- Unless the finalizer is kept in reserve, the ended participant's cursor goes to the high watermark. -/
def applyBindingFateTransition (participant : ParticipantId)
    (bindingEpoch : BindingEpoch) (cursor resultingFloor : DeliverySeq) (reserveFinalizer : Bool) :
    Except LiveFrontierTransitionError ClaimFrontiers := do
  let current ← orError (f.activeIdentities.find? participant) .authority
  require (current.cursor = cursor ∧ current.binding = .detached bindingEpoch) .authority
  f.checkFateFloor resultingFloor
  let resultingCursor := if reserveFinalizer then cursor else f.high
  let active ← (tryNew (replaceParticipant f.activeIdentities.participants
    ⟨participant, resultingCursor, .detached bindingEpoch⟩) f.high f.identitySlotLimit).mapError
    fun _ => .authority
  return { f with activeIdentities := active }.compactTo resultingFloor

def installFinalizedBindingFateFloor (resultingFloor : Nat) : Except LiveFrontierTransitionError ClaimFrontiers := do
  f.checkFateFloor resultingFloor
  return f.compactTo resultingFloor

variable {f}

theorem checkFateFloor_eq_ok : f.checkFateFloor resultingFloor = .ok u ↔
      f.retainedFloor ≤ resultingFloor ∧ resultingFloor ≤ f.high + 1 ∧
        ∀ record ∈ f.markerRecords, resultingFloor ≤ record.deliverySeq := by
  simp only [checkFateFloor, ok_iff, and_assoc]

theorem applyBindingFateTransition_eq_ok
    (h : f.applyBindingFateTransition participant bindingEpoch cursor resultingFloor reserveFinalizer = .ok f') :
    ∃ current, f.activeIdentities.find? participant = some current ∧ current.cursor = cursor ∧
      current.binding = .detached bindingEpoch ∧ f.checkFateFloor resultingFloor = .ok () ∧
      (∀ p ∈ (f.activeIdentities.replace ⟨participant, if reserveFinalizer then cursor else f.high,
        .detached bindingEpoch⟩).participants, Admissible f.high f.identitySlotLimit p) ∧
      f' = compactTo { f with activeIdentities := (f.activeIdentities.replace
        ⟨participant, if reserveFinalizer then cursor else f.high, .detached bindingEpoch⟩) } resultingFloor := by
  simp only [applyBindingFateTransition, ok_iff, tryNew_eq_ok] at h
  obtain ⟨current, hfind, ⟨hcursor, hbinding⟩, _, hfloor, active, ⟨hparts, -, hall⟩, rfl⟩ := h
  obtain rfl : active = f.activeIdentities.replace
      ⟨participant, if reserveFinalizer then cursor else f.high, .detached bindingEpoch⟩ :=
    ActiveIdentityRanks.ext hparts
  exact ⟨current, hfind, hcursor, hbinding, hfloor, hall, rfl⟩

end ClaimFrontiers

end Liminal
