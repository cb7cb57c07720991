import Liminal.Lifecycle.BindingFate
import Liminal.Lifecycle.CursorFacts
import Liminal.Lifecycle.Membership
import Liminal.Wire.Response

/-!
# Acknowledgements

A bound participant acknowledges deliveries up to a position, in zero or nonzero debt, or one marker
delivered to its current epoch. Each commit is a checked update of the member's cursor and carries
the fate token along.
-/

namespace Liminal

open Fallible

variable (member : LiveMember) (binding : BindingState) (receivingBindingEpoch : BindingEpoch)
  (request : ParticipantAck) (availability : AckAvailability) (episode : NonzeroDebtCursorEpisode)
  {commit : ParticipantAckCommit}

/-! ### Lookup -/

inductive BindingRequiredLookupError
  | participantUnknown
  | staleAuthority (currentGeneration : Generation)
  | noBinding

def lookupBindingRequired (conversationId : ConversationId) (participantId : ParticipantId)
    (generation : Generation) : Except BindingRequiredLookupError ActiveBinding := do
  require (member.conversationId = conversationId ∧ member.participantId = participantId) .participantUnknown
  require (generation = member.generation) (.staleAuthority member.generation)
  match binding with
  | .bound active => do
    require (active.conversationId = member.conversationId ∧ active.participantId = member.participantId ∧
      active.bindingEpoch.capabilityGeneration = member.generation ∧
      receivingBindingEpoch = active.bindingEpoch) .noBinding
    return active
  | _ => .error .noBinding

variable {member binding receivingBindingEpoch} in
theorem lookupBindingRequired_eq_ok
    (h : lookupBindingRequired member binding receivingBindingEpoch conversationId participantId
      generation = .ok active) : binding = .bound active := by
  simp only [lookupBindingRequired, ok_iff] at h
  obtain ⟨-, -, h⟩ := h
  cases binding with
  | bound bound =>
    simp only [ok_iff] at h
    rw [h.2]
  | detached | pendingFinalization pending => cases h

/-! ### Cumulative acknowledgements -/

/-- A committed acknowledgement: the member's update and the epoch it came through. -/
structure ParticipantAckCommit where
  cursorUpdate : LiveMemberCursorUpdate
  bindingEpoch : BindingEpoch

namespace ParticipantAckCommit

variable (commit)

def throughSeq : DeliverySeq := commit.cursorUpdate.resultingCursor

def observerProgressProjection : DeliverySeq := commit.throughSeq

def progressBindingFateToken (token : SealedBindingFateToken) : Option SealedBindingFateToken :=
  token.participantAckProgressed commit.cursorUpdate.conversationId commit.cursorUpdate.participantId
    commit.bindingEpoch commit.cursorUpdate.fromCursor commit.cursorUpdate.resultingCursor

end ParticipantAckCommit

inductive NonzeroParticipantAckInvariantError
  | conversation
  | participantMissing
  | generation
  | cursor (member episode : DeliverySeq)
  | bindingEpoch
  | episodeTransition (error : CumulativeAckAuthorizationError)

inductive ParticipantAckRefusal
  | lookup (error : BindingRequiredLookupError)
  | obligationContext (error : RecipientAckObligationsContextError)
  | ackRegression (currentCursor : DeliverySeq)
  | ackNoOp
  | ackGap (currentCursor : DeliverySeq)
  | invariant (error : NonzeroParticipantAckInvariantError)

def ParticipantAck.cursorUpdate (request : ParticipantAck) (member : LiveMember) : LiveMemberCursorUpdate where
  conversationId := request.conversationId
  participantId := request.participantId
  generation := request.capabilityGeneration
  fromCursor := member.cursor
  resultingCursor := request.throughSeq

def applyParticipantAck : Except ParticipantAckRefusal ParticipantAckCommit := do
  let _ ← (lookupBindingRequired member binding receivingBindingEpoch request.conversationId
    request.participantId request.capabilityGeneration).mapError .lookup
  let available ← (availability.contains request.participantId member.cursor
    request.throughSeq).mapError .obligationContext
  require (member.cursor ≤ request.throughSeq) (.ackRegression member.cursor)
  require (request.throughSeq ≠ member.cursor) .ackNoOp
  require (available = true) (.ackGap member.cursor)
  return ⟨request.cursorUpdate member, receivingBindingEpoch⟩

def validateAggregate (activeBindingEpoch : BindingEpoch)
    (episode : NonzeroDebtCursorEpisode) : Except NonzeroParticipantAckInvariantError Unit := do
  require (member.conversationId = episode.conversationId) .conversation
  let (epoch, cursor) ← orError (episode.participant member.participantId) .participantMissing
  require (epoch.capabilityGeneration = member.generation) .generation
  require (cursor = member.cursor) (.cursor member.cursor cursor)
  require (epoch = activeBindingEpoch) .bindingEpoch

variable {member binding receivingBindingEpoch request availability} in
/-- A committed acknowledgement came through the current binding and starts at the member's cursor. -/
theorem applyParticipantAck_eq_ok (h : applyParticipantAck member binding receivingBindingEpoch request availability =
    .ok commit) : (∃ active, binding = .bound active) ∧ commit.cursorUpdate = request.cursorUpdate member := by
  simp only [applyParticipantAck, ok_iff] at h
  obtain ⟨active, hactive, _, -, -, -, -, rfl⟩ := h
  exact ⟨⟨active, lookupBindingRequired_eq_ok hactive⟩, rfl⟩

/-! ### The commit of an acknowledgement in nonzero debt -/

/-- The episode it was selected on and the one it leads to travel with the commit. -/
structure NonzeroParticipantAckCommit where
  outcome : Wire.AckCommitted
  fromCursor : DeliverySeq
  bindingEpoch : BindingEpoch
  (beforeEpisode resultingEpisode : NonzeroDebtCursorEpisode)

inductive NonzeroAckEpisodePosition
  | before
  | resulting
deriving DecidableEq

inductive NonzeroParticipantAckCommitError
  | conversation (expected actual : ConversationId)
  | participant (expected actual : ParticipantId)
  | generation (expected actual : Generation)
  | episodePrestate
  | aggregateCursorPrestate (episodePosition : NonzeroAckEpisodePosition) (expectedCursor actualCursor : DeliverySeq)
  | nonAdvancing (fromCursor resultingCursor : DeliverySeq)
  | cursorPrestate (expectedFromCursor resultingCursor actualCursor : DeliverySeq)
deriving DecidableEq

def NonzeroParticipantAckCommitError.fromMemberError : LiveMemberCursorUpdateError → NonzeroParticipantAckCommitError
  | .conversation expected actual => .conversation expected actual
  | .participant expected actual => .participant expected actual
  | .generation expected actual => .generation expected actual
  | .nonAdvancing fromCursor resultingCursor => .nonAdvancing fromCursor resultingCursor
  | .cursorPrestate expected resulting actual => .cursorPrestate expected resulting actual

namespace NonzeroParticipantAckCommit

variable (commit : NonzeroParticipantAckCommit)

/-- The update of the member; it repeats the request and the cursor the commit was selected at. -/
def cursorUpdate : LiveMemberCursorUpdate where
  conversationId := commit.outcome.request.conversationId
  participantId := commit.outcome.request.participantId
  generation := commit.outcome.request.capabilityGeneration
  fromCursor := commit.fromCursor
  resultingCursor := commit.outcome.request.throughSeq

def toParticipantAckCommit : ParticipantAckCommit := ⟨commit.cursorUpdate, commit.bindingEpoch⟩

/-- Where the episode stands to the commit, and the cursor the member must have there. -/
def position (episode : NonzeroDebtCursorEpisode) :
    Except NonzeroParticipantAckCommitError (NonzeroAckEpisodePosition × DeliverySeq) :=
  if episode = commit.beforeEpisode then .ok (.before, commit.fromCursor)
  else if episode = commit.resultingEpisode then .ok (.resulting, commit.outcome.request.throughSeq)
  else .error .episodePrestate

/-- Member and episode afterwards. On an error neither has been touched. -/
def applyTo (member : LiveMember) (episode : NonzeroDebtCursorEpisode) :
    Except NonzeroParticipantAckCommitError (LiveMember × NonzeroDebtCursorEpisode) := do
  let request := commit.outcome.request
  require (member.conversationId = request.conversationId) (.conversation request.conversationId member.conversationId)
  require (member.participantId = request.participantId) (.participant request.participantId member.participantId)
  require (member.generation = request.capabilityGeneration)
    (.generation request.capabilityGeneration member.generation)
  let (position, expectedCursor) ← commit.position episode
  require (member.cursor = expectedCursor) (.aggregateCursorPrestate position expectedCursor member.cursor)
  let member ← (member.applyCursorUpdate commit.cursorUpdate).mapError .fromMemberError
  return (member, if position = .before then commit.resultingEpisode else episode)

structure Addresses (commit : NonzeroParticipantAckCommit) (member : LiveMember) : Prop where
  conversation : member.conversationId = commit.outcome.request.conversationId
  participant : member.participantId = commit.outcome.request.participantId
  generation : member.generation = commit.outcome.request.capabilityGeneration
  advances : commit.fromCursor < commit.outcome.request.throughSeq

/-- Applied to the old pair it moves both; on the resulting pair it changes nothing. -/
theorem applyTo_eq_ok {commit : NonzeroParticipantAckCommit} {member member' : LiveMember}
    {episode episode' : NonzeroDebtCursorEpisode} : commit.applyTo member episode = .ok (member', episode') ↔
      commit.Addresses member ∧ episode' = commit.resultingEpisode ∧
      member' = { member with cursor := commit.outcome.request.throughSeq } ∧
      ((episode = commit.beforeEpisode ∧ member.cursor = commit.fromCursor) ∨
        (episode ≠ commit.beforeEpisode ∧ episode = commit.resultingEpisode ∧
          member.cursor = commit.outcome.request.throughSeq)) := by
  simp only [applyTo, ok_iff, Prod.exists, Prod.mk.injEq]
  constructor
  · rintro ⟨hconv, hpart, hgen, position, cursor, hplace, hcursor, _, hupdate, rfl, rfl⟩
    obtain ⟨rfl, hadvances, -⟩ := LiveMember.applyCursorUpdate_eq_ok hupdate
    refine ⟨⟨hconv, hpart, hgen, hadvances⟩, ?_, rfl, ?_⟩
    all_goals
      unfold NonzeroParticipantAckCommit.position at hplace
      split at hplace
    · cases hplace
      rfl
    · split at hplace
      · rename_i hresult
        cases hplace
        exact hresult
      · cases hplace
    · rename_i hbefore
      cases hplace
      exact Or.inl ⟨hbefore, hcursor⟩
    · rename_i hbefore
      split at hplace
      · rename_i hresult
        cases hplace
        exact Or.inr ⟨hbefore, hresult, hcursor⟩
      · cases hplace
  · rintro ⟨⟨hconv, hpart, hgen, hadvances⟩, rfl, rfl, hpair⟩
    refine ⟨hconv, hpart, hgen, ?_⟩
    rcases hpair with ⟨rfl, hcursor⟩ | ⟨hbefore, rfl, hcursor⟩
    · refine ⟨.before, _, if_pos rfl, hcursor, _, ?_, rfl, rfl⟩
      have hne : member.cursor ≠ commit.outcome.request.throughSeq :=
        fun heq => Nat.ne_of_lt hadvances (hcursor.symm.trans heq)
      simp only [LiveMember.applyCursorUpdate, ok_iff]
      refine ⟨hconv, hpart, hgen, hadvances, (if_neg hne).trans ?_⟩
      simp only [ok_iff]
      exact ⟨hcursor, rfl⟩
    · refine ⟨.resulting, _, (if_neg hbefore).trans (if_pos rfl), hcursor, _, ?_, rfl, rfl⟩
      simp only [LiveMember.applyCursorUpdate, ok_iff]
      refine ⟨hconv, hpart, hgen, hadvances, (if_pos hcursor).trans ?_⟩
      rw [← hcursor]
      rfl

end NonzeroParticipantAckCommit

def decideNonzeroParticipantAck : Except ParticipantAckRefusal NonzeroParticipantAckCommit := do
  let active ← (lookupBindingRequired member binding receivingBindingEpoch request.conversationId
    request.participantId request.capabilityGeneration).mapError .lookup
  (validateAggregate member active.bindingEpoch episode).mapError .invariant
  let (outcome, resultingEpisode) ← (episode.acknowledge member.participantId active.bindingEpoch request
    availability).mapError fun error => .invariant (.episodeTransition error)
  match outcome with
  | .committed => return ⟨⟨request⟩, member.cursor, active.bindingEpoch, episode, resultingEpisode⟩
  | .noOp => .error .ackNoOp
  | .gap cursor => .error (.ackGap cursor)
  | .regression cursor => .error (.ackRegression cursor)

/-- What the slot sees of it. -/
def applyNonzeroParticipantAck : Except ParticipantAckRefusal ParticipantAckCommit := do
  return (← decideNonzeroParticipantAck member binding receivingBindingEpoch request availability
    episode).toParticipantAckCommit

variable {member binding receivingBindingEpoch request availability episode} in
theorem applyNonzeroParticipantAck_eq_ok
    (h : applyNonzeroParticipantAck member binding receivingBindingEpoch request availability episode = .ok commit) :
    (∃ active, binding = .bound active) ∧ commit.cursorUpdate = request.cursorUpdate member := by
  simp only [applyNonzeroParticipantAck, decideNonzeroParticipantAck, ok_iff, Prod.exists] at h
  obtain ⟨_, ⟨active, hactive, _, -, outcome, _, -, h⟩, rfl⟩ := h
  refine ⟨⟨active, lookupBindingRequired_eq_ok hactive⟩, ?_⟩
  cases outcome with
  | committed =>
    simp only [pure_eq_ok] at h
    rw [← h]
    rfl
  | noOp | gap cursor | regression cursor => cases h

/-! ### Marker acknowledgements -/

/-- The marker facts stored beside the member; cursor and proof epoch are read off the member and its binding. -/
structure MarkerProofState where
  acceptedMarkerAtCursor : Bool
  expectedMarkerDeliverySeq : Option DeliverySeq
  deliveredToProofEpoch : Option ParticipantCursorProgress

inductive MarkerAckRefusal
  | lookup (error : BindingRequiredLookupError)
  | ackNoOp
  | belowCursor (currentCursor : DeliverySeq)
  | noMarkerExpected
  | expectedDifferentMarker (expected : DeliverySeq)
  | markerNotDelivered (expected : DeliverySeq)

/-- The marker has been delivered to this participant's binding, and its progress ends at the marker. -/
def progressMatches (progress : ParticipantCursorProgress) (participantId : ParticipantId)
    (proofBindingEpoch : BindingEpoch) (expected : DeliverySeq) : Bool :=
  match progress with
  | .marker _ participant epoch throughSeq markerDeliverySeq =>
    decide (participant = participantId ∧ epoch = proofBindingEpoch ∧ throughSeq = expected ∧
      markerDeliverySeq = expected)
  | .continuous .. => false

def selectMarkerProof (state : MarkerProofState) (currentCursor : DeliverySeq)
    (proofBindingEpoch : BindingEpoch) (request : MarkerAck) : Except MarkerAckRefusal Unit := do
  let requested := request.markerDeliverySeq
  require (currentCursor ≤ requested) (.belowCursor currentCursor)
  require (¬(requested = currentCursor ∧ state.acceptedMarkerAtCursor = true)) .ackNoOp
  let expected ← orError state.expectedMarkerDeliverySeq .noMarkerExpected
  require (requested = expected) (.expectedDifferentMarker expected)
  let progress ← orError state.deliveredToProofEpoch (.markerNotDelivered expected)
  require (progressMatches progress request.participantId proofBindingEpoch expected = true ∧
    proofBindingEpoch.capabilityGeneration = request.capabilityGeneration) (.markerNotDelivered expected)

structure MarkerAckCommit where
  cursorUpdate : LiveMemberCursorUpdate
  proofBindingEpoch : BindingEpoch

namespace MarkerAckCommit

variable (commit : MarkerAckCommit)

def markerDeliverySeq : DeliverySeq := commit.cursorUpdate.resultingCursor

def observerProgressProjection : DeliverySeq := commit.markerDeliverySeq

def progressBindingFateToken (token : SealedBindingFateToken) :
    Option SealedBindingFateToken :=
  token.markerAckProgressed commit.cursorUpdate.conversationId commit.cursorUpdate.participantId
    commit.proofBindingEpoch commit.cursorUpdate.fromCursor commit.cursorUpdate.resultingCursor

end MarkerAckCommit

def applyMarkerAck (request : MarkerAck) (markerState : MarkerProofState) :
    Except MarkerAckRefusal MarkerAckCommit := do
  let active ← (lookupBindingRequired member binding receivingBindingEpoch request.conversationId
    request.participantId request.capabilityGeneration).mapError .lookup
  selectMarkerProof markerState member.cursor active.bindingEpoch request
  return ⟨⟨request.conversationId, request.participantId, request.capabilityGeneration,
    member.cursor, request.markerDeliverySeq⟩, active.bindingEpoch⟩

variable {member binding receivingBindingEpoch} in
theorem applyMarkerAck_eq_ok {request commit}
    (h : applyMarkerAck member binding receivingBindingEpoch request markerState = .ok commit) :
    (∃ active, binding = .bound active) ∧ commit.cursorUpdate.fromCursor = member.cursor := by
  simp only [applyMarkerAck, ok_iff] at h
  obtain ⟨active, hactive, _, -, rfl⟩ := h
  exact ⟨⟨active, lookupBindingRequired_eq_ok hactive⟩, rfl⟩

end Liminal
