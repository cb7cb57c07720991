import Mathlib.Data.List.Sort
import Liminal.Lifecycle.ClaimFrontier.Types
import Liminal.Lifecycle.ClosureAccounting
import Liminal.Wire.Request

/-!
# Cursors while a debt is owed

What a recipient may acknowledge, and the episode of a conversation that owes a debt: cursors, the
high watermark at which it was built, and a fact for every boundary acknowledged. Acknowledging
moves one cursor, records and consumes its fact, and recomputes the floor.
-/

namespace Liminal

open Fallible

/-! ### What is available to acknowledge -/

inductive RecipientAckObligationsContextError
  | participant (expected actual : ParticipantId)
  | acknowledgedThrough (expected actual : DeliverySeq)

/-- The deliveries one recipient still owes an acknowledgement, strictly increasing and above what it has
acknowledged. -/
structure RecipientAckObligations where
  participantId : ParticipantId
  acknowledgedThrough : DeliverySeq
  deliverySequences : List DeliverySeq
  live : ∀ deliverySeq ∈ deliverySequences, acknowledgedThrough < deliverySeq
  increasing : deliverySequences.Pairwise (· < ·)

/-- The sequences increase, so the source's binary search finds exactly the members. -/
def RecipientAckObligations.containsEndpoint (obligations : RecipientAckObligations) (participantId : ParticipantId)
    (acknowledgedThrough endpoint : DeliverySeq) : Except RecipientAckObligationsContextError Bool := do
  require (obligations.participantId = participantId) (.participant participantId obligations.participantId)
  require (obligations.acknowledgedThrough = acknowledgedThrough)
    (.acknowledgedThrough acknowledgedThrough obligations.acknowledgedThrough)
  return decide (endpoint ∈ obligations.deliverySequences)

inductive AckAvailability
  | contiguous (throughSeq : DeliverySeq)
  | obligations (owed : RecipientAckObligations)

def AckAvailability.contains (availability : AckAvailability) (participantId : ParticipantId)
    (acknowledgedThrough endpoint : DeliverySeq) : Except RecipientAckObligationsContextError Bool :=
  match availability with
  | .contiguous throughSeq => .ok (decide (endpoint ≤ throughSeq))
  | .obligations owed => owed.containsEndpoint participantId acknowledgedThrough endpoint

/-! ### Facts -/

structure CursorProgressKey where
  participantIndex : ParticipantId
  boundary : DeliverySeq
deriving DecidableEq

inductive CursorProgressFact
  | pending
  | consumed
deriving DecidableEq

structure CursorProgressFacts where
  facts : List (CursorProgressKey × CursorProgressFact)
deriving DecidableEq

namespace CursorProgressFacts

def new : CursorProgressFacts := ⟨[]⟩

variable (facts : CursorProgressFacts) (key : CursorProgressKey)

def get : Option CursorProgressFact :=
  (facts.facts.find? fun entry => entry.1 = key).map Prod.snd

def keyLe (a b : CursorProgressKey × CursorProgressFact) : Bool :=
  a.1.participantIndex < b.1.participantIndex ||
    a.1.participantIndex == b.1.participantIndex && decide (a.1.boundary ≤ b.1.boundary)

def record : Bool × CursorProgressFacts :=
  if (facts.get key).isSome then (false, facts)
  else (true, ⟨facts.facts.orderedInsert (fun a b => keyLe a b = true) (key, .pending)⟩)

/-- The facts with this one, in place of any other under its key, and the one it has replaced. -/
def insert (fact : CursorProgressFact) : Option CursorProgressFact × CursorProgressFacts :=
  match facts.get key with
  | some old =>
    (some old, ⟨facts.facts.map fun entry => if entry.1 = key then (key, fact) else entry⟩)
  | none => (none, ⟨facts.facts.orderedInsert (fun a b => keyLe a b = true) (key, fact)⟩)

variable (participantIndex : ParticipantId)

def covered (through : DeliverySeq) (entry : CursorProgressKey × CursorProgressFact) : Bool :=
  entry.1.participantIndex == participantIndex && decide (entry.1.boundary ≤ through) &&
    decide (entry.2 = .pending)

def consumeThrough (through : DeliverySeq) : List CursorProgressKey × CursorProgressFacts :=
  ((facts.facts.filter (covered participantIndex through)).map Prod.fst, ⟨facts.facts.map fun entry =>
      if covered participantIndex through entry then (entry.1, .consumed) else entry⟩)

end CursorProgressFacts

/-! ### The episode -/

structure BoundParticipantCursor where
  participantId : ParticipantId
  activeBindingEpoch : BindingEpoch
  cursor : DeliverySeq

/-- The episode keeps bound and detached participants alike. -/
def BoundParticipantCursor.tagged (p : BoundParticipantCursor) : FrontierParticipant :=
  ⟨p.participantId, p.cursor, .bound p.activeBindingEpoch⟩

inductive CursorEpisodeBuildError
  | duplicateParticipant (participantId : ParticipantId)
  | observerBeyondHighWatermark (observerProgress candidateHighWatermark : DeliverySeq)
  | cursorBeyondHighWatermark (participantId : ParticipantId) (cursor candidateHighWatermark : DeliverySeq)
  | floorBeyondRetainedEnd (currentFloor retainedEnd : Nat)
  | capacityFloorBelowBase (capFloor baseFloor : Nat)
  | capacityFloorBeyondObserver (capFloor observerLimit : Nat)
deriving DecidableEq

inductive CumulativeAckAuthorizationError
  | participantIndexUnknown
  | conversationMismatch
  | participantMismatch
  | generationMismatch
  | bindingEpochMismatch
  | obligationContext (error : RecipientAckObligationsContextError)

inductive CumulativeAckOutcome
  | committed
  | noOp
  | gap (currentCursor : DeliverySeq)
  | regression (currentCursor : DeliverySeq)

structure NonzeroDebtCursorEpisode where
  conversationId : ConversationId
  debt : ClosureDebt
  (observerProgress candidateHighWatermark : DeliverySeq)
  capFloor : Nat
  floor : FloorComputation
  participants : List FrontierParticipant
  facts : CursorProgressFacts
deriving DecidableEq

namespace NonzeroDebtCursorEpisode

def minimumMemberCursor (participants : List FrontierParticipant) : Option DeliverySeq :=
  (participants.map FrontierParticipant.cursor).min?

/-- The loop of the source over the participants, which it keeps in the order of their index. -/
def indexParticipants (candidateHighWatermark : DeliverySeq) : List FrontierParticipant → List BoundParticipantCursor →
      Except CursorEpisodeBuildError (List FrontierParticipant)
  | indexed, [] => .ok indexed
  | indexed, p :: rest => do
    require (p.cursor ≤ candidateHighWatermark)
      (.cursorBeyondHighWatermark p.participantId p.cursor candidateHighWatermark)
    require (∀ q ∈ indexed, q.participantIndex ≠ p.participantId) (.duplicateParticipant p.participantId)
    indexParticipants candidateHighWatermark
      (indexed.orderedInsert (fun a b => a.participantIndex ≤ b.participantIndex) p.tagged) rest

def new (conversationId : ConversationId) (debt : ClosureDebt)
    (observerProgress candidateHighWatermark : DeliverySeq) (currentFloor capFloor : Nat)
    (participants : List BoundParticipantCursor) : Except CursorEpisodeBuildError NonzeroDebtCursorEpisode := do
  require (observerProgress ≤ candidateHighWatermark)
    (.observerBeyondHighWatermark observerProgress candidateHighWatermark)
  require (currentFloor ≤ candidateHighWatermark + 1)
    (.floorBeyondRetainedEnd currentFloor (candidateHighWatermark + 1))
  let indexed ← indexParticipants candidateHighWatermark [] participants
  let floor := floorTransition currentFloor (minimumMemberCursor indexed) candidateHighWatermark
    observerProgress capFloor
  let baseFloor := max currentFloor floor.preferredFloor
  require (baseFloor ≤ capFloor) (.capacityFloorBelowBase capFloor baseFloor)
  require (capFloor ≤ observerProgress + 1) (.capacityFloorBeyondObserver capFloor (observerProgress + 1))
  return {
    conversationId
    debt
    observerProgress
    candidateHighWatermark
    capFloor
    floor
    participants := indexed
    facts := .new }

def fromClaimFrontiers (frontiers : ClaimFrontiers) (debt : ClosureDebt) (observerProgress : DeliverySeq) :
    Except CursorEpisodeBuildError NonzeroDebtCursorEpisode := do
  let high := frontiers.high
  require (observerProgress ≤ high) (.observerBeyondHighWatermark observerProgress high)
  let currentFloor := frontiers.retainedFloor
  require (currentFloor ≤ high + 1) (.floorBeyondRetainedEnd currentFloor (high + 1))
  let participants := frontiers.activeIdentities.participants
  let minimum := minimumMemberCursor participants
  let preferred := floorTransition currentFloor minimum high observerProgress currentFloor
  let capFloor := max currentFloor preferred.preferredFloor
  return {
    conversationId := frontiers.conversationId
    debt
    observerProgress
    candidateHighWatermark := high
    capFloor
    floor := floorTransition currentFloor minimum high observerProgress capFloor
    participants
    facts := .new }

/-- Kept if its participant is still there and its boundary not above the new watermark. What the cursor
covers by now is consumed. -/
def keepFact (next : NonzeroDebtCursorEpisode) (facts : CursorProgressFacts)
    (entry : CursorProgressKey × CursorProgressFact) : CursorProgressFacts :=
  match next.participants.find? fun p => p.participantIndex == entry.1.participantIndex with
  | none => facts
  | some participant =>
    if entry.1.boundary ≤ next.candidateHighWatermark then
      (facts.insert entry.1 (if entry.1.boundary ≤ participant.cursor then .consumed else entry.2)).2
    else facts

variable (episode : NonzeroDebtCursorEpisode)

/-- The episode of the frontiers as they are now, with what survives of the facts. -/
def reconcileClaimFrontiers (frontiers : ClaimFrontiers) (debt : ClosureDebt) (observerProgress : DeliverySeq) :
    Except CursorEpisodeBuildError NonzeroDebtCursorEpisode := do
  let next ← fromClaimFrontiers frontiers debt observerProgress
  let kept := episode.facts.facts.foldl next.keepFact .new
  let facts := next.participants.foldl (fun facts p => (facts.consumeThrough p.participantIndex p.cursor).2) kept
  return { next with facts }

def restoreFacts (episode : NonzeroDebtCursorEpisode) :
    List (CursorProgressKey × CursorProgressFact) → Option NonzeroDebtCursorEpisode
  | [] => some episode
  | (key, fact) :: rest => do
    let participant ← episode.participants.find? fun p => p.participantIndex == key.participantIndex
    guard (key.boundary ≤ episode.candidateHighWatermark ∧ (fact = .consumed → key.boundary ≤ participant.cursor) ∧
      (fact = .pending → participant.cursor < key.boundary))
    match episode.facts.insert key fact with
    | (some _, _) => none
    | (none, facts) => restoreFacts { episode with facts } rest

/-- Participants come from storage as bound ones only. -/
def restore (conversationId : ConversationId) (debt : ClosureDebt)
    (observerProgress candidateHighWatermark : DeliverySeq) (currentFloor capFloor : Nat)
    (participants : List BoundParticipantCursor) (facts : List (CursorProgressKey × CursorProgressFact)) :
    Option NonzeroDebtCursorEpisode := do
  let episode ← (new conversationId debt observerProgress candidateHighWatermark currentFloor capFloor
    participants).toOption
  guard (episode.floor.resultingFloor = currentFloor)
  episode.restoreFacts facts

variable (participantIndex : ParticipantId)

def participant : Option (BindingEpoch × DeliverySeq) := do
  let participant ← episode.participants.find? fun p => p.participantIndex == participantIndex
  match participant.binding with
  | .bound epoch => some (epoch, participant.cursor)
  | .detached _ => none

/-- The episode after the cursor of one participant has moved: its fact is recorded and everything it covers
consumed. -/
def advance (throughSeq : DeliverySeq) : NonzeroDebtCursorEpisode :=
  let participants := episode.participants.map fun p =>
    if p.participantIndex = participantIndex then { p with cursor := max p.cursor throughSeq } else p
  let floor := floorTransition episode.floor.resultingFloor (minimumMemberCursor participants)
    episode.candidateHighWatermark episode.observerProgress episode.capFloor
  let recorded := (episode.facts.record ⟨participantIndex, throughSeq⟩).2
  let facts := (recorded.consumeThrough participantIndex throughSeq).2
  { episode with participants, floor, capFloor := floor.resultingFloor, facts }

def acknowledge (receivingBindingEpoch : BindingEpoch) (request : ParticipantAck) (availability : AckAvailability) :
    Except CumulativeAckAuthorizationError (CumulativeAckOutcome × NonzeroDebtCursorEpisode) := do
  let participant ← orError (episode.participants.find? fun p => p.participantIndex == participantIndex)
    .participantIndexUnknown
  require (request.conversationId = episode.conversationId) .conversationMismatch
  require (request.participantId = participant.participantIndex) .participantMismatch
  match participant.binding with
  | .detached _ => .error .bindingEpochMismatch
  | .bound activeBindingEpoch => do
    require (request.capabilityGeneration = activeBindingEpoch.capabilityGeneration) .generationMismatch
    require (receivingBindingEpoch = activeBindingEpoch) .bindingEpochMismatch
    let available ← (availability.contains participant.participantIndex participant.cursor
      request.throughSeq).mapError .obligationContext
    if request.throughSeq < participant.cursor then
      return (.regression participant.cursor, episode)
    else if request.throughSeq = participant.cursor then return (.noOp, episode)
    else if episode.candidateHighWatermark < request.throughSeq ∨ available = false then
      return (.gap participant.cursor, episode)
    else return (.committed, episode.advance participantIndex request.throughSeq)

end NonzeroDebtCursorEpisode

end Liminal
