import Liminal.Lifecycle.ClaimFrontier.Live
import Liminal.Lifecycle.ClosureAccounting

/-!
# Projecting an ordinary record

Admitting one ordinary record may have to move the retained floor: the record, the markers for
everybody the floor overtakes, and what stays retained must fit the capacity together. The kernel
searches the lowest such floor, one record at a time, pricing everything again at each.
-/

namespace Liminal

open Checked Fallible SequenceLedger List

structure RetainedRecordCharge where
  deliverySeq : DeliverySeq
  admissionOrder : AdmissionOrder
  encodedCharge : ResourceVector
deriving DecidableEq

structure OrdinaryProjectionLimits where
  (markerMax mandatoryBound fullRecoveryClaim : ResourceVector)

structure RecordAdmissionEnvelope where
  conversationId : ConversationId
  participantId : ParticipantId

structure OrdinaryRecordProjectionInput where
  request : RecordAdmissionEnvelope
  receivingBindingEpoch : BindingEpoch
  encodedRecordCharge : ResourceVector
  retainedCharges : List RetainedRecordCharge
  observerProgress : DeliverySeq
  closureAccounting : ClosureAccounting
  limits : OrdinaryProjectionLimits

inductive OrdinaryProjectionError
  | conversation
  | nonzeroDebt
  | clearClosureResidue
  | senderBinding
  | observerBeyondHighWatermark
  | retainedSuffix
  | retainedChargeKey (index : Nat)
  | retainedEntryCharge (deliverySeq : DeliverySeq) (entries : Nat)
  | markerCredit
  | markerAnchor
  | markerCreditAccounting (derived stored : Nat)
  | markerAnchorAccounting (derived stored : Nat)
  | baselineAccounting (derived stored : WideResourceVector)
  | arithmeticOverflow (dimension : ResourceDimension)
  | order (error : OrderAdmissionError)
  | sequence (error : SequenceAdmissionError)
  | observerBackpressure (capFloor : Nat) (observerProgress : DeliverySeq)
  | markerAnchorCapacity (markerDeliverySeq : DeliverySeq) (required : WideResourceVector) (limit : ResourceVector)
  | capacity (required : WideResourceVector) (limit : ResourceVector)
  | requiredCapacity (error : RequiredCapacityPlanError)
  | resultingAccounting (error : ClosureAccountingError)
  | sequenceRelocation
  | orderRelocation
  | observerSelectorInvariant
  | closureSelectorInvariant
deriving DecidableEq

structure OrdinaryProjectionFacts where
  request : RecordAdmissionEnvelope
  receivingBindingEpoch : BindingEpoch
  encodedRecordCharge : ResourceVector
  retainedRecords : List RetainedCausalRecord
  retainedCharges : List RetainedRecordCharge
  activeMarkerCreditRecords : List RetainedCausalRecord
  unacceptedMarkerAnchors : List DeliverySeq
  activeIdentities : List FrontierParticipant
  (identitySlotLimit currentFloor : Nat)
  observerProgress : DeliverySeq
  orderLedger : OrderLedger
  sequenceLedger : SequenceLedger
  immutableCandidates : List ImmutableSequenceCandidate
  closureAccounting : ClosureAccounting
  remainingRecoveryClaim : ResourceVector
  limits : OrdinaryProjectionLimits

/-! ### Prices -/

variable (current : WideResourceVector)

def checkedAddResource (increment : ResourceVector) : Except OrdinaryProjectionError WideResourceVector := do
  let entries ← orError (add u128Max current.entries increment.entries) (.arithmeticOverflow .entries)
  let bytes ← orError (add u128Max current.bytes increment.bytes) (.arithmeticOverflow .bytes)
  return ⟨entries, bytes⟩

/-- `count` markers at the maximum charge; the product and the sum must stay in `u128`, so the sum decides. -/
def checkedAddMarkerCharge (count : Nat) (markerMax : ResourceVector) :
    Except OrdinaryProjectionError WideResourceVector := do
  let entries ← orError (add u128Max current.entries (count * markerMax.entries)) (.arithmeticOverflow .entries)
  let bytes ← orError (add u128Max current.bytes (count * markerMax.bytes)) (.arithmeticOverflow .bytes)
  return ⟨entries, bytes⟩

structure MarkerCredit where
  deliverySeq : DeliverySeq
  participantIndex : ParticipantId

/-- What one retained row costs: the maximum marker when it is a credited marker, its exact charge otherwise. -/
def rowCharge (currentCredits : List MarkerCredit) (markerMax : ResourceVector)
    (record : RetainedCausalRecord) (exact : RetainedRecordCharge) : ResourceVector :=
  if currentCredits.any (fun credit => credit.deliverySeq == record.deliverySeq) then markerMax
  else exact.encodedCharge

def addRowCharges (floor : Nat) (currentCredits : List MarkerCredit) (markerMax : ResourceVector) :
    WideResourceVector → List (RetainedCausalRecord × RetainedRecordCharge) →
      Except OrdinaryProjectionError WideResourceVector
  | charge, [] => .ok charge
  | charge, (record, exact) :: rest =>
    if record.deliverySeq < floor then addRowCharges floor currentCredits markerMax charge rest
    else do
      let charge ← checkedAddResource charge (rowCharge currentCredits markerMax record exact)
      addRowCharges floor currentCredits markerMax charge rest

namespace OrdinaryProjectionFacts

def retainedChargeAtFloor (facts : OrdinaryProjectionFacts) (floor : Nat)
    (currentCredits : List MarkerCredit) (newMarkerCount : Nat) (callerSequence : Option DeliverySeq) :
    Except OrdinaryProjectionError WideResourceVector := do
  let charge ← addRowCharges floor currentCredits facts.limits.markerMax .zero
    (facts.retainedRecords.zip facts.retainedCharges)
  let charge ← if callerSequence.any (floor ≤ ·) then
      checkedAddResource charge facts.encodedRecordCharge
    else pure charge
  checkedAddMarkerCharge charge newMarkerCount facts.limits.markerMax

end OrdinaryProjectionFacts

def retainedBaselineWide (retainedCharge : WideResourceVector) (identitySlots markerCredits : Nat)
    (markerMax : ResourceVector) : Except OrdinaryProjectionError WideResourceVector := do
  let uncredited ← orError (sub identitySlots markerCredits) .markerCredit
  checkedAddMarkerCharge retainedCharge uncredited markerMax

/-! ### Checks on the snapshot -/

structure MarkerState where
  credits : List MarkerCredit
  anchors : List DeliverySeq

/-- The row, its charge and the expected position agree, and the row costs one entry. -/
def checkRetainedRow (index expectedSequence : Nat) (record : RetainedCausalRecord)
    (charge : RetainedRecordCharge) : Except OrdinaryProjectionError Unit := do
  require (record.deliverySeq = expectedSequence ∧ charge.deliverySeq = record.deliverySeq ∧
    charge.admissionOrder = record.admissionOrder) (.retainedChargeKey index)
  require (charge.encodedCharge.entries = 1) (.retainedEntryCharge charge.deliverySeq charge.encodedCharge.entries)

def checkRetainedRows (floor : Nat) :
    Nat → List (RetainedCausalRecord × RetainedRecordCharge) → Except OrdinaryProjectionError Unit
  | _, [] => .ok ()
  | index, (record, charge) :: rest => do
    checkRetainedRow index (floor + index) record charge
    checkRetainedRows floor (index + 1) rest

namespace OrdinaryProjectionFacts

variable (facts : OrdinaryProjectionFacts)

def validateClearSnapshot : Except OrdinaryProjectionError Unit := do
  require (facts.closureAccounting.state = .clear) .nonzeroDebt
  require (facts.remainingRecoveryClaim = ⟨0, 0⟩ ∧ facts.remainingRecoveryClaim =
      facts.closureAccounting.edgeKRemaining ∧ facts.closureAccounting.episodeChurnUsed = 0) .clearClosureResidue
  require (facts.observerProgress ≤ facts.sequenceLedger.highWatermark) .observerBeyondHighWatermark

def validateSender : Except OrdinaryProjectionError Unit :=
  let sender := facts.activeIdentities.find? fun p =>
    p.participantIndex == facts.request.participantId
  require (∃ p ∈ sender, p.binding = .bound facts.receivingBindingEpoch) .senderBinding

def validateRetainedSuffix : Except OrdinaryProjectionError Unit := do
  let highEnd := facts.sequenceLedger.highWatermark + 1
  let expectedLen ← orError (sub highEnd facts.currentFloor) .retainedSuffix
  require (facts.retainedRecords.length = expectedLen ∧
    facts.retainedRecords.length = facts.retainedCharges.length) .retainedSuffix
  checkRetainedRows facts.currentFloor 0 (facts.retainedRecords.zip facts.retainedCharges)
  require (facts.encodedRecordCharge.entries = 1)
    (.retainedEntryCharge (min (facts.sequenceLedger.highWatermark + 1) u64Max) facts.encodedRecordCharge.entries)

/-- The credited marker behind a record of the credit list: a marker of an active participant, the only one of
that participant and position so far, and retained. -/
def markerCredit? (credits : List MarkerCredit) (record : RetainedCausalRecord) : Option MarkerCredit :=
  match record.kind with
  | .compactionMarker participantIndex _ =>
    if facts.identitySlotLimit ≤ participantIndex ∨ (¬∃ p ∈ facts.activeIdentities, p.participantIndex =
        participantIndex) ∨ (∃ current ∈ credits, current.deliverySeq = record.deliverySeq ∨ current.participantIndex =
        participantIndex) ∨ record ∉ facts.retainedRecords then none
    else some ⟨record.deliverySeq, participantIndex⟩
  | _ => none

def collectCredits (facts : OrdinaryProjectionFacts) :
    List MarkerCredit → List RetainedCausalRecord → Except OrdinaryProjectionError (List MarkerCredit)
  | credits, [] => .ok credits
  | credits, record :: rest => do
    let credit ← orError (facts.markerCredit? credits record) .markerCredit
    facts.collectCredits (credits ++ [credit]) rest

def validateMarkerState : Except OrdinaryProjectionError MarkerState := do
  require (facts.activeMarkerCreditRecords.length ≤ facts.identitySlotLimit) .markerCredit
  let credits ← facts.collectCredits [] facts.activeMarkerCreditRecords
  let credits := credits.insertionSort fun a b => a.deliverySeq ≤ b.deliverySeq
  require (credits.length = facts.closureAccounting.markerCapacityCredits)
    (.markerCreditAccounting credits.length facts.closureAccounting.markerCapacityCredits)
  let anchors := facts.unacceptedMarkerAnchors.insertionSort (· ≤ ·)
  -- The source compares neighbours; the list is sorted, so that finds every duplicate.
  require (anchors.Nodup ∧ ∀ anchor ∈ anchors, ∃ credit ∈ credits, credit.deliverySeq = anchor) .markerAnchor
  require (anchors.length = facts.closureAccounting.markerAnchors)
    (.markerAnchorAccounting anchors.length facts.closureAccounting.markerAnchors)
  return ⟨credits, anchors⟩

end OrdinaryProjectionFacts

/-! ### The floor search -/

structure CapacitySearch where
  floor : Nat
  (retainedCharge baseline : WideResourceVector)
  survivingCredits : List MarkerCredit
  survivingAnchorCount : Nat
  markerParticipants : List FrontierParticipant

/-- Active participants whose next delivery lies below the floor and who hold no credited marker. -/
def newlyOvertaken (activeIdentities : List FrontierParticipant) (currentCredits : List MarkerCredit)
    (floor : Nat) : List FrontierParticipant :=
  activeIdentities.filter fun p => p.cursor + 1 < floor &&
    !currentCredits.any fun credit => credit.participantIndex == p.participantIndex

namespace OrdinaryProjectionFacts

variable (facts : OrdinaryProjectionFacts)

def capacityAt (markerState : MarkerState) (candidateHighWatermark : DeliverySeq) (floor : Nat) :
    Except OrdinaryProjectionError CapacitySearch := do
  let survivingCredits := markerState.credits.filter fun credit => floor ≤ credit.deliverySeq
  let survivingAnchorCount := (markerState.anchors.filter (floor ≤ ·)).length
  let markerParticipants := newlyOvertaken facts.activeIdentities survivingCredits floor
  let markerCount := markerParticipants.length
  let retainedCharge ← facts.retainedChargeAtFloor floor survivingCredits markerCount (some candidateHighWatermark)
  let resultingCredits ← orError (add u64Max survivingCredits.length markerCount) (.arithmeticOverflow .entries)
  let baseline ← retainedBaselineWide retainedCharge facts.identitySlotLimit resultingCredits facts.limits.markerMax
  return ⟨floor, retainedCharge, baseline, survivingCredits, survivingAnchorCount, markerParticipants⟩

variable (baseline : WideResourceVector)

def requiredMaximum : Except OrdinaryProjectionError WideResourceVector :=
  ((RequiredCapacityPlan.ordinary baseline facts.limits.mandatoryBound
    facts.limits.fullRecoveryClaim).mapError .requiredCapacity).map RequiredCapacityPlan.maximum

def admits : Bool :=
  zeroDebtAdmission baseline facts.limits.mandatoryBound facts.limits.fullRecoveryClaim
    facts.closureAccounting.configuredCap

def refuseAnchor (anchor : DeliverySeq) : Except OrdinaryProjectionError CapacitySearch := do
  let required ← facts.requiredMaximum baseline
  .error (.markerAnchorCapacity anchor required facts.closureAccounting.configuredCap)

/-- A floor at which everything fits is taken, unless an unaccepted marker lies below it. -/
def acceptFloor (markerState : MarkerState) (search : CapacitySearch) : Except OrdinaryProjectionError CapacitySearch :=
  match markerState.anchors.find? (· < search.floor) with
  | some anchor => facts.refuseAnchor search.baseline anchor
  | none => .ok search

/-- The loop over the sequences still ahead: retained ones, then the caller's own. The source starts each
search at the head of the list; all that precedes the one found last is below the floor. -/
def searchCapacityFloor (facts : OrdinaryProjectionFacts) (markerState : MarkerState)
    (candidateHighWatermark : DeliverySeq) (floor : Nat) :
    List DeliverySeq → Except OrdinaryProjectionError CapacitySearch
  | [] => do
    let search ← facts.capacityAt markerState candidateHighWatermark floor
    if facts.admits search.baseline then facts.acceptFloor markerState search
    else
      let required ← facts.requiredMaximum search.baseline
      .error (.capacity required facts.closureAccounting.configuredCap)
  | next :: rest =>
    if next < floor then facts.searchCapacityFloor markerState candidateHighWatermark floor rest
    else do
      let search ← facts.capacityAt markerState candidateHighWatermark floor
      if facts.admits search.baseline then facts.acceptFloor markerState search
      else
        match markerState.anchors.find? (· < next + 1) with
        | some anchor => facts.refuseAnchor search.baseline anchor
        | none => facts.searchCapacityFloor markerState candidateHighWatermark (next + 1) rest

end OrdinaryProjectionFacts

/-! ### The plan -/

section

variable (callerMajor : TransactionOrder) (callerSequence physicalFloorAtDecision : DeliverySeq)

def placeMarker (deliverySeq : DeliverySeq) (participant : FrontierParticipant) : MarkerCandidateAuthority where
  deliverySeq := deliverySeq
  admissionOrder := ⟨callerMajor, .compactionMarker, participant.participantIndex⟩
  targetBinding := participant.binding
  provenance := .nonProductM
  abandonedAfter := participant.cursor
  abandonedThrough := callerSequence
  physicalFloorAtDecision := physicalFloorAtDecision
  currentOwner := .marker

def positionedMarkers :
    Nat → List FrontierParticipant → Except OrdinaryProjectionError (List MarkerCandidateAuthority)
  | _, [] => .ok []
  | offset, participant :: rest => do
    let deliverySeq ← orError (add u64Max callerSequence offset)
      (.sequence (.highWatermarkOverflow callerSequence offset))
    let markers ← positionedMarkers (offset + 1) rest
    return placeMarker callerMajor callerSequence physicalFloorAtDecision deliverySeq participant :: markers

end

structure OrdinaryFixedPointPlan where
  floor : FloorComputation
  (retainedCharge baseline : WideResourceVector)
  resultingAccounting : ClosureAccounting
  requiredCapacity : RequiredCapacityPlan
  order : OrderAllocation
  sequence : SequenceLedger
  callerRecord : RetainedCausalRecord
  callerCharge : RetainedRecordCharge
  retainedRecords : List RetainedCausalRecord
  retainedCharges : List RetainedRecordCharge
  markerCandidates : List MarkerCandidateAuthority

inductive OrdinaryProjectionKernelDecision
  | drainFirst (candidate : ImmutableSequenceCandidate)
  | projected (plan : OrdinaryFixedPointPlan)

def resultingRetainedRows (facts : OrdinaryProjectionFacts) (floor : Nat) (callerRecord : RetainedCausalRecord)
    (callerCharge : RetainedRecordCharge) : List (RetainedCausalRecord × RetainedRecordCharge) :=
  (facts.retainedRecords.zip facts.retainedCharges ++ [(callerRecord, callerCharge)]).filter
    fun row => floor ≤ row.1.deliverySeq

namespace OrdinaryProjectionFacts

variable (facts : OrdinaryProjectionFacts)

def minimumMemberCursor : Option DeliverySeq :=
  (facts.activeIdentities.map FrontierParticipant.cursor).min?

/-- The checks before anything is planned: the snapshot, and the stored baseline against the one its rows give. -/
def validateSnapshot : Except OrdinaryProjectionError MarkerState := do
  facts.validateClearSnapshot
  facts.validateSender
  facts.validateRetainedSuffix
  let markerState ← facts.validateMarkerState
  let currentRetainedCharge ← facts.retainedChargeAtFloor facts.currentFloor markerState.credits 0 none
  let currentBaseline ← retainedBaselineWide currentRetainedCharge facts.identitySlotLimit
    markerState.credits.length facts.limits.markerMax
  require (currentBaseline = facts.closureAccounting.baseline)
    (.baselineAccounting currentBaseline facts.closureAccounting.baseline)
  return markerState

/-- The search, started at the floor the cursors and the observer allow already. -/
def searchFloor (markerState : MarkerState)
    (candidateHighWatermark : DeliverySeq) : Except OrdinaryProjectionError CapacitySearch := do
  let base := (floorTransition facts.currentFloor facts.minimumMemberCursor candidateHighWatermark
    facts.observerProgress facts.currentFloor).resultingFloor
  let search ← facts.searchCapacityFloor markerState candidateHighWatermark base
    (facts.retainedRecords.map RetainedCausalRecord.deliverySeq ++ [candidateHighWatermark])
  require (search.floor ≤ facts.observerProgress + 1) (.observerBackpressure search.floor facts.observerProgress)
  return search

/-- The accounting after the record: still clear, with the surviving and the new markers. -/
def resultingAccounting (resultingCredits resultingAnchors : Nat)
    (baseline : WideResourceVector) : Except OrdinaryProjectionError ClosureAccounting :=
  (ClosureAccounting.tryNew {
    state := .clear
    markerCapacityCredits := resultingCredits
    markerAnchors := resultingAnchors
    edgeSequenceClaims := 0
    edgeOrderPositionClaims := 0
    edgeKRemaining := ⟨0, 0⟩
    baseline
    configuredCap := facts.closureAccounting.configuredCap
    episodeChurnUsed := 0
    episodeChurnLimit := facts.closureAccounting.episodeChurnLimit }).mapError .resultingAccounting

def projectRecord : Except OrdinaryProjectionError OrdinaryFixedPointPlan := do
  let markerState ← facts.validateSnapshot
  let order ← (allocateOrder facts.orderLedger facts.orderLedger.planOrdinaryRecord).mapError .order
  let candidateHighWatermark ← orError (add u64Max facts.sequenceLedger.highWatermark 1)
    (.sequence (.highWatermarkOverflow facts.sequenceLedger.highWatermark 1))
  let search ← facts.searchFloor markerState candidateHighWatermark
  let floor := floorTransition facts.currentFloor facts.minimumMemberCursor candidateHighWatermark
    facts.observerProgress search.floor
  let markerCount := search.markerParticipants.length
  let resultingSequence ← (facts.sequenceLedger.planOrdinaryRecord markerCount).mapError .sequence
  let sequence ← (admitSequence resultingSequence).mapError .sequence
  let callerOrder : AdmissionOrder := ⟨order.major, .ordinaryRecord, facts.request.participantId⟩
  let callerRecord : RetainedCausalRecord :=
    ⟨candidateHighWatermark, callerOrder, .ordinaryRecord facts.request.participantId⟩
  let callerCharge : RetainedRecordCharge :=
    ⟨candidateHighWatermark, callerOrder, facts.encodedRecordCharge⟩
  require (floor.resultingFloor ≤ u64Max) (.arithmeticOverflow .entries)
  let markerCandidates ← positionedMarkers order.major candidateHighWatermark floor.resultingFloor 1
    search.markerParticipants
  let rows := resultingRetainedRows facts floor.resultingFloor callerRecord callerCharge
  let resultingCredits ← orError (add u64Max search.survivingCredits.length markerCount) (.arithmeticOverflow .entries)
  let resultingAnchors ← orError (add u64Max search.survivingAnchorCount markerCount) (.arithmeticOverflow .entries)
  let requiredCapacity ← (RequiredCapacityPlan.ordinary search.baseline facts.limits.mandatoryBound
    facts.limits.fullRecoveryClaim).mapError .requiredCapacity
  require (facts.admits search.baseline = true)
    (.capacity requiredCapacity.maximum facts.closureAccounting.configuredCap)
  let resultingAccounting ← facts.resultingAccounting resultingCredits resultingAnchors search.baseline
  return {
    floor
    retainedCharge := search.retainedCharge
    baseline := search.baseline
    resultingAccounting
    requiredCapacity
    order
    sequence
    callerRecord
    callerCharge
    retainedRecords := rows.map Prod.fst
    retainedCharges := rows.map Prod.snd
    markerCandidates }

end OrdinaryProjectionFacts

/-- A candidate that is still pending has to be drained before any record is admitted. -/
def projectOrdinaryFixedPoint (facts : OrdinaryProjectionFacts) :
    Except OrdinaryProjectionError OrdinaryProjectionKernelDecision :=
  match facts.immutableCandidates with
  | candidate :: _ => .ok (.drainFirst candidate)
  | [] => facts.projectRecord.map .projected

/-! ### What a planned record is made of -/

theorem positionedMarkers_eq_ok
    (h : positionedMarkers callerMajor callerSequence physicalFloorAtDecision offset participants =
      .ok markers) : markers = layEach (placeMarker callerMajor callerSequence physicalFloorAtDecision) 1
      (callerSequence + offset) participants := by
  induction participants generalizing offset markers with
  | nil =>
    simp only [positionedMarkers, Except.ok.injEq] at h
    exact h.symm
  | cons participant rest ih =>
    simp only [positionedMarkers, ok_iff, add_eq_some] at h
    obtain ⟨_, ⟨-, rfl⟩, tail, htail, rfl⟩ := h
    rw [ih htail, layEach, Nat.add_assoc]

namespace OrdinaryProjectionFacts

variable {facts : OrdinaryProjectionFacts} {markerState : MarkerState} {candidateHighWatermark : DeliverySeq}
  {floor : Nat} {search : CapacitySearch} {credits : List MarkerCredit}

theorem capacityAt_eq_ok (h : facts.capacityAt markerState candidateHighWatermark floor = .ok search) :
    search.floor = floor ∧ search.survivingCredits = markerState.credits.filter (fun credit => floor ≤
      credit.deliverySeq) ∧ search.survivingAnchorCount = (markerState.anchors.filter (floor ≤ ·)).length ∧
      search.markerParticipants = newlyOvertaken facts.activeIdentities search.survivingCredits floor ∧
      facts.retainedChargeAtFloor floor search.survivingCredits search.markerParticipants.length
        (some candidateHighWatermark) = .ok search.retainedCharge ∧
      retainedBaselineWide search.retainedCharge facts.identitySlotLimit
        (search.survivingCredits.length + search.markerParticipants.length) facts.limits.markerMax =
        .ok search.baseline := by
  simp only [capacityAt, ok_iff, add_eq_some] at h
  obtain ⟨retainedCharge, hcharge, _, ⟨-, rfl⟩, baseline, hbaseline, rfl⟩ := h
  exact ⟨rfl, rfl, rfl, rfl, hcharge, hbaseline⟩

theorem acceptFloor_eq_ok (h : facts.acceptFloor markerState search = .ok result) :
    result = search ∧ ∀ anchor ∈ markerState.anchors, search.floor ≤ anchor := by
  unfold acceptFloor at h
  split at h
  · simp only [refuseAnchor, bind_eq_ok, reduceCtorEq, and_false, exists_false] at h
  · rename_i hnone
    refine ⟨(Except.ok.inj h).symm, fun anchor hanchor => ?_⟩
    simpa using find?_eq_none.mp hnone anchor hanchor

/-- The search ends at a floor that is not below the one it started from, where everything fits and no
unaccepted marker lies below. -/
theorem searchCapacityFloor_eq_ok
    (h : facts.searchCapacityFloor markerState candidateHighWatermark floor ahead = .ok search) :
    floor ≤ search.floor ∧ facts.capacityAt markerState candidateHighWatermark search.floor = .ok search ∧
      ∀ anchor ∈ markerState.anchors, search.floor ≤ anchor := by
  -- Both branches that answer go through `acceptFloor` on what was computed at the current floor.
  obtain ⟨above, found, hle, hfound, haccepted⟩ : ∃ above found, floor ≤ above ∧
      facts.capacityAt markerState candidateHighWatermark above = .ok found ∧
      facts.acceptFloor markerState found = .ok search := by
    induction ahead generalizing floor with
    | nil =>
      simp only [searchCapacityFloor, bind_eq_ok] at h
      obtain ⟨found, hfound, h⟩ := h
      split at h
      · exact ⟨floor, found, le_rfl, hfound, h⟩
      · simp only [bind_eq_ok, reduceCtorEq, and_false, exists_false] at h
    | cons next rest ih =>
      unfold searchCapacityFloor at h
      split at h
      · exact ih h
      · rename_i hnext
        simp only [bind_eq_ok] at h
        obtain ⟨found, hfound, h⟩ := h
        split at h
        · exact ⟨floor, found, le_rfl, hfound, h⟩
        · split at h
          · simp only [refuseAnchor, bind_eq_ok, reduceCtorEq, and_false, exists_false] at h
          · obtain ⟨above, found, hle, hrest⟩ := ih h
            exact ⟨above, found, (Nat.not_lt.mp hnext).trans (by omega), hrest⟩
  obtain ⟨rfl, hanchors⟩ := acceptFloor_eq_ok haccepted
  obtain rfl := (capacityAt_eq_ok hfound).1
  exact ⟨hle, hfound, hanchors⟩

theorem searchFloor_eq_ok (h : facts.searchFloor markerState candidateHighWatermark = .ok search) :
    facts.capacityAt markerState candidateHighWatermark search.floor = .ok search ∧ (∀ anchor ∈ markerState.anchors,
      search.floor ≤ anchor) ∧ search.floor ≤ facts.observerProgress + 1 ∧ facts.currentFloor ≤ search.floor ∧
      (floorTransition facts.currentFloor facts.minimumMemberCursor candidateHighWatermark
        facts.observerProgress search.floor).resultingFloor = search.floor := by
  simp only [searchFloor, ok_iff] at h
  obtain ⟨found, hfound, hobs, rfl⟩ := h
  obtain ⟨hbase, hcapacity, hanchors⟩ := searchCapacityFloor_eq_ok hfound
  rw [floorTransition_resultingFloor] at hbase ⊢
  exact ⟨hcapacity, hanchors, hobs, by omega, by omega⟩

/-- A snapshot that passes: nothing owed, the observer not ahead, charges beside all rows, and the stored
baseline the one its rows give. -/
theorem validateSnapshot_eq_ok (h : facts.validateSnapshot = .ok markerState) :
    facts.closureAccounting.state = .clear ∧ facts.observerProgress ≤ facts.sequenceLedger.highWatermark ∧
      facts.retainedRecords.length = facts.retainedCharges.length ∧
      facts.validateMarkerState = .ok markerState ∧ ∃ retainedCharge,
        facts.retainedChargeAtFloor facts.currentFloor markerState.credits 0 none = .ok retainedCharge ∧
        retainedBaselineWide retainedCharge facts.identitySlotLimit markerState.credits.length
          facts.limits.markerMax = .ok facts.closureAccounting.baseline := by
  simp only [validateSnapshot, validateClearSnapshot, validateSender, validateRetainedSuffix, ok_iff] at h
  obtain ⟨⟨hclear, -, hobs⟩, -, ⟨_, -, ⟨-, hlength⟩, _, -, -⟩, state, hstate, charge, hcharge,
    baseline, hbaseline, rfl, rfl⟩ := h
  exact ⟨hclear, hobs, hlength, hstate, charge, hcharge, hbaseline⟩

def Credits (record : RetainedCausalRecord) (credit : MarkerCredit) : Prop :=
  credit.deliverySeq = record.deliverySeq ∧ record.markerOwner? = some credit.participantIndex

theorem markerCredit?_eq_some :
    facts.markerCredit? credits record = some credit ↔ Credits record credit ∧ credit.participantIndex <
      facts.identitySlotLimit ∧ (∃ p ∈ facts.activeIdentities, p.participantIndex = credit.participantIndex) ∧
      (∀ current ∈ credits, current.deliverySeq ≠ credit.deliverySeq ∧
        current.participantIndex ≠ credit.participantIndex) ∧ record ∈ facts.retainedRecords := by
  unfold markerCredit? Credits
  split
  · rename_i participant provenance hkind
    have howner := RetainedCausalRecord.markerOwner?_eq_some.mpr ⟨provenance, hkind⟩
    simp only [howner, Option.ite_none_left_eq_some, Option.some.injEq, not_or, not_not, not_exists,
      not_and, not_forall, exists_prop, Nat.not_le]
    constructor
    · rintro ⟨⟨hbelow, hactive, hfresh, hret⟩, rfl⟩
      exact ⟨⟨rfl, rfl⟩, hbelow, hactive, hfresh, hret⟩
    · rintro ⟨⟨hseq, rfl⟩, hbelow, hactive, hfresh, hret⟩
      rw [hseq] at hfresh
      refine ⟨⟨hbelow, hactive, hfresh, hret⟩, ?_⟩
      rw [← hseq]
  · rename_i hkind
    constructor
    · exact fun h => nomatch h
    · rintro ⟨⟨-, howner⟩, -⟩
      obtain ⟨provenance, hmarker⟩ := RetainedCausalRecord.markerOwner?_eq_some.mp howner
      exact absurd hmarker (hkind _ provenance)

theorem collectCredits_eq_ok (h : facts.collectCredits credits records = .ok result) :
    ∃ new, result = credits ++ new ∧ Forall₂ Credits records new := by
  induction records generalizing credits with
  | nil =>
    simp only [collectCredits, Except.ok.injEq] at h
    exact ⟨[], by rw [← h, append_nil], .nil⟩
  | cons record rest ih =>
    simp only [collectCredits, ok_iff] at h
    obtain ⟨credit, hcredit, h⟩ := h
    obtain ⟨new, rfl, hnew⟩ := ih h
    exact ⟨credit :: new, by rw [append_assoc, singleton_append], .cons (markerCredit?_eq_some.mp hcredit).1 hnew⟩

/-- A marker state that passes: credits of the credited records and the anchors, both in order. -/
theorem validateMarkerState_eq_ok (h : facts.validateMarkerState = .ok markerState) :
    (∃ credits, Forall₂ Credits facts.activeMarkerCreditRecords credits ∧
      markerState.credits = credits.insertionSort fun a b => a.deliverySeq ≤ b.deliverySeq) ∧
      markerState.anchors = facts.unacceptedMarkerAnchors.insertionSort (· ≤ ·) ∧
      markerState.credits.length = facts.closureAccounting.markerCapacityCredits ∧
      markerState.anchors.length = facts.closureAccounting.markerAnchors := by
  simp only [validateMarkerState, ok_iff] at h
  obtain ⟨-, credits, hcredits, hcount, -, hanchors, rfl⟩ := h
  obtain ⟨_, rfl, hcollected⟩ := collectCredits_eq_ok hcredits
  exact ⟨⟨_, hcollected, rfl⟩, rfl, hcount, hanchors⟩

theorem resultingRetainedRows_fst (hlength : facts.retainedRecords.length = facts.retainedCharges.length) :
    (resultingRetainedRows facts floor callerRecord callerCharge).map Prod.fst =
      (facts.retainedRecords ++ [callerRecord]).filter fun record => floor ≤ record.deliverySeq := by
  have hrows : (facts.retainedRecords.zip facts.retainedCharges ++ [(callerRecord, callerCharge)]).map
      Prod.fst = facts.retainedRecords ++ [callerRecord] := by
    rw [map_append, map_fst_zip hlength.le, map_singleton]
  rw [resultingRetainedRows, ← hrows, filter_map]
  rfl

structure Planned (facts : OrdinaryProjectionFacts) (plan : OrdinaryFixedPointPlan)
    (markerState : MarkerState) (search : CapacitySearch) : Prop where
  snapshot : facts.validateSnapshot = .ok markerState
  searched : facts.searchFloor markerState (facts.sequenceLedger.highWatermark + 1) = .ok search
  floor : plan.floor.resultingFloor = search.floor
  baseline : plan.baseline = search.baseline
  major : plan.order.major = facts.orderLedger.high.next
  orderHigh : plan.order.resulting.high = .allocated facts.orderLedger.high.next
  orderClaims : plan.order.resulting.claims = facts.orderLedger.claims
  sequenceHigh : plan.sequence.highWatermark = facts.sequenceLedger.highWatermark + 1
  sequenceClaims : plan.sequence.claims = { facts.sequenceLedger.claims with
    markers := facts.sequenceLedger.claims.markers + search.markerParticipants.length }
  callerRecord : plan.callerRecord = ⟨facts.sequenceLedger.highWatermark + 1,
    ⟨facts.orderLedger.high.next, .ordinaryRecord, facts.request.participantId⟩,
    .ordinaryRecord facts.request.participantId⟩
  callerCharge : plan.callerCharge = ⟨facts.sequenceLedger.highWatermark + 1,
    ⟨facts.orderLedger.high.next, .ordinaryRecord, facts.request.participantId⟩, facts.encodedRecordCharge⟩
  markers : plan.markerCandidates = layEach (placeMarker facts.orderLedger.high.next
    (facts.sequenceLedger.highWatermark + 1) search.floor) 1
    (facts.sequenceLedger.highWatermark + 2) search.markerParticipants
  records : plan.retainedRecords = (resultingRetainedRows facts search.floor plan.callerRecord
    plan.callerCharge).map Prod.fst
  charges : plan.retainedCharges = (resultingRetainedRows facts search.floor plan.callerRecord
    plan.callerCharge).map Prod.snd
  accounting : plan.resultingAccounting.toClosureCounters = {
    state := .clear
    markerCapacityCredits := search.survivingCredits.length + search.markerParticipants.length
    markerAnchors := search.survivingAnchorCount + search.markerParticipants.length
    edgeSequenceClaims := 0
    edgeOrderPositionClaims := 0
    edgeKRemaining := ⟨0, 0⟩
    baseline := search.baseline
    configuredCap := facts.closureAccounting.configuredCap
    episodeChurnUsed := 0
    episodeChurnLimit := facts.closureAccounting.episodeChurnLimit }

theorem projectRecord_eq_ok (h : facts.projectRecord = .ok plan) :
    ∃ markerState search, Planned facts plan markerState search := by
  simp only [projectRecord, ok_iff, add_eq_some, allocateOrder_eq_ok, planOrdinaryRecord,
    checkedHighWatermark, checkedMarkers, admitSequence, tryNew_eq_ok, resultingAccounting,
    ClosureAccounting.tryNew_eq_ok, OrderLedger.planOrdinaryRecord] at h
  obtain ⟨markerState, hsnapshot, order, ⟨hmajor, horder, hclaims⟩, _, ⟨-, rfl⟩, search, hsearch,
    resulting, ⟨_, ⟨-, rfl⟩, _, ⟨-, rfl⟩, rfl⟩, sequence, ⟨hhigh, hseqClaims⟩, -, markers, hmarkers, _,
    ⟨-, rfl⟩, _, ⟨-, rfl⟩, capacity, -, -, accounting, hacct, rfl⟩ := h
  have hfloor := (searchFloor_eq_ok hsearch).2.2.2.2
  have hplaced := positionedMarkers_eq_ok hmarkers
  rw [hfloor, hmajor] at hplaced
  exact ⟨markerState, search, {
    snapshot := hsnapshot
    searched := hsearch
    floor := hfloor
    baseline := rfl
    major := hmajor
    orderHigh := horder
    orderClaims := hclaims
    sequenceHigh := hhigh
    sequenceClaims := hseqClaims
    callerRecord := by simp only [hmajor]
    callerCharge := by simp only [hmajor]
    markers := hplaced
    records := by simp only [hfloor]
    charges := by simp only [hfloor]
    accounting := hacct }⟩

end OrdinaryProjectionFacts

theorem projectOrdinaryFixedPoint_eq_projected : projectOrdinaryFixedPoint facts = .ok (.projected plan) ↔
      facts.immutableCandidates = [] ∧ facts.projectRecord = .ok plan := by
  unfold projectOrdinaryFixedPoint
  split
  · rename_i hcands
    simp only [Except.ok.injEq, reduceCtorEq, hcands, false_and]
  · rename_i hcands
    simp only [map_eq_ok, OrdinaryProjectionKernelDecision.projected.injEq, exists_eq_right, hcands, true_and]

end Liminal
