import Liminal.Lifecycle.Binding
import Liminal.Lifecycle.ClosureAccounting

/-!
# The sealed fate of a binding

An attach hands out a token that measures the fate of its binding later and follows the member's
cursor. It is ordinary, or recovered when the attach went through a recovery block. An enrollment's
binding has no token.
-/

namespace Liminal

structure OrdinaryBindingAuthority where
  binding : ActiveBinding
  throughSeq : DeliverySeq

structure FencedAttachCommit where
  conversationId : ConversationId
  participantId : ParticipantId
  markerDeliverySeq : DeliverySeq
  (priorBindingEpoch newBindingEpoch : BindingEpoch)
  nextState : ClosureState

structure SealedBindingFateToken where
  ordinary : Option OrdinaryBindingAuthority
  recovered : Option FencedAttachCommit
  cursor : DeliverySeq

inductive SealedBindingFateIntent
  | ordinary
  | recovered (priorBindingEpoch : BindingEpoch) (markerDeliverySeq : DeliverySeq)
deriving DecidableEq

structure BindingFateMeasurementContext where
  conversationId : ConversationId
  participantId : ParticipantId
  bindingEpoch : BindingEpoch
  cursor : DeliverySeq
deriving DecidableEq

structure OrdinaryBindingFate where
  conversationId : ConversationId
  (throughSeq resultingFloor : DeliverySeq)
  release : DetachedCursorRelease
deriving DecidableEq

inductive RecoveredStorageEdge
  | observerProjection (edge : ObserverProjection)
  | physicalCompaction (edge : PhysicalCompaction)
deriving DecidableEq

structure RecoveredBindingFate where
  conversationId : ConversationId
  predecessorDebt : ClosureDebt
  predecessor : RecoveredStorageEdge
  resultingFloor : DeliverySeq
  release : DetachedCursorRelease
deriving DecidableEq

variable (authority : OrdinaryBindingAuthority)

def OrdinaryBindingAuthority.participantAckProgressed (conversationId : ConversationId) (participantId : ParticipantId)
    (bindingEpoch : BindingEpoch) (previousCursor throughSeq : DeliverySeq) : Option OrdinaryBindingAuthority :=
  if conversationId = authority.binding.conversationId ∧ participantId = authority.binding.participantId ∧
      bindingEpoch = authority.binding.bindingEpoch ∧ previousCursor = authority.throughSeq ∧ previousCursor <
      throughSeq then
    some { authority with throughSeq }
  else none

def OrdinaryBindingAuthority.bindingFate
    (terminal : CommittedDiedTerminal) (resultingFloor : DeliverySeq) : Option OrdinaryBindingFate :=
  if terminal.identity.participantId = authority.binding.participantId ∧ terminal.identity.conversationId =
      authority.binding.conversationId ∧ terminal.identity.bindingEpoch = authority.binding.bindingEpoch then
    some ⟨authority.binding.conversationId, authority.throughSeq, resultingFloor,
      ⟨authority.binding.participantId, authority.binding.bindingEpoch⟩⟩
  else none

/-- The fate of a recovered binding hangs on the storage edge its attach left behind. -/
def FencedAttachCommit.recoveredBindingFate (proof : FencedAttachCommit) (participantId : ParticipantId)
    (bindingEpoch : BindingEpoch) (resultingFloor : DeliverySeq) : Option RecoveredBindingFate :=
  if participantId = proof.participantId ∧ bindingEpoch = proof.newBindingEpoch then
    match proof.nextState with
    | .owed debt (.observerProjection edge) => some ⟨proof.conversationId, debt,
        .observerProjection edge, resultingFloor, ⟨participantId, bindingEpoch⟩⟩
    | .owed debt (.physicalCompaction edge) => some ⟨proof.conversationId, debt,
        .physicalCompaction edge, resultingFloor, ⟨participantId, bindingEpoch⟩⟩
    | _ => none
  else none

namespace SealedBindingFateToken

variable (token : SealedBindingFateToken) {token' : SealedBindingFateToken} {participant participantId : ParticipantId}
  {conversationId : ConversationId} {bindingEpoch : BindingEpoch} {previousCursor throughSeq : DeliverySeq}

def intent : Option SealedBindingFateIntent :=
  match token.ordinary, token.recovered with
  | some _, none => some .ordinary
  | none, some proof => some (.recovered proof.priorBindingEpoch proof.markerDeliverySeq)
  | _, _ => none

section

variable (conversationId : ConversationId) (participantId : ParticipantId) (bindingEpoch : BindingEpoch)
  (previousCursor throughSeq : DeliverySeq)

def participantAckProgressed : Option SealedBindingFateToken :=
  if previousCursor ≠ token.cursor ∨ throughSeq ≤ previousCursor then none
  else
    match token.ordinary, token.recovered with
    | some authority, none =>
      (authority.participantAckProgressed conversationId participantId bindingEpoch previousCursor
        throughSeq).map fun authority => { token with ordinary := some authority, cursor := throughSeq }
    | none, some proof =>
      if proof.conversationId = conversationId ∧ proof.participantId = participantId ∧
          proof.newBindingEpoch = bindingEpoch then
        some { token with cursor := throughSeq }
      else none
    | _, _ => none

/-- Unlike a participant ack, a marker ack may be replayed onto a token that has consumed it. -/
def markerAckProgressed : Option SealedBindingFateToken :=
  if token.cursor = throughSeq ∧ previousCursor < throughSeq then some token
  else token.participantAckProgressed conversationId participantId bindingEpoch previousCursor throughSeq

end

def measurementContext : Option BindingFateMeasurementContext :=
  match token.ordinary, token.recovered with
  | some authority, none =>
    if authority.throughSeq = token.cursor then
      some ⟨authority.binding.conversationId, authority.binding.participantId,
        authority.binding.bindingEpoch, token.cursor⟩
    else none
  | none, some proof =>
    some ⟨proof.conversationId, proof.participantId, proof.newBindingEpoch, token.cursor⟩
  | _, _ => none

def ordinaryBindingFate (terminal : CommittedDiedTerminal)
    (resultingFloor : DeliverySeq) : Option OrdinaryBindingFate :=
  match token.recovered, token.ordinary with
  | none, some authority => authority.bindingFate terminal resultingFloor
  | _, _ => none

def recoveredBindingFateMeasured (resultingFloor : DeliverySeq) : Option RecoveredBindingFate :=
  match token.measurementContext, token.ordinary, token.recovered with
  | some context, none, some proof =>
    proof.recoveredBindingFate context.participantId context.bindingEpoch resultingFloor
  | _, _, _ => none

def OrdinaryFor (participant : ParticipantId) : Prop :=
  token.recovered = none ∧ ∃ authority, token.ordinary = some authority ∧ authority.binding.participantId = participant

variable {token}

theorem OrdinaryFor.participantAckProgressed (hfor : token.OrdinaryFor participant)
    (h : token.participantAckProgressed conversationId participantId bindingEpoch previousCursor
      throughSeq = some token') : token'.OrdinaryFor participant := by
  obtain ⟨hrecov, authority, hordinary, hpart⟩ := hfor
  simp only [SealedBindingFateToken.participantAckProgressed, hordinary, hrecov,
    OrdinaryBindingAuthority.participantAckProgressed] at h
  split at h
  · cases h
  · split at h
    · cases h
      exact ⟨rfl, _, rfl, hpart⟩
    · cases h

theorem OrdinaryFor.markerAckProgressed (hfor : token.OrdinaryFor participant)
    (h : token.markerAckProgressed conversationId participantId bindingEpoch previousCursor
      throughSeq = some token') : token'.OrdinaryFor participant := by
  unfold SealedBindingFateToken.markerAckProgressed at h
  split at h
  · cases h
    exact hfor
  · exact hfor.participantAckProgressed h

/-- An ordinary token gives no recovered fate, and it is measured for its own participant. -/
theorem OrdinaryFor.measurementContext (hfor : token.OrdinaryFor participant)
    (h : token.measurementContext = some context) : context.participantId = participant := by
  obtain ⟨hrecov, authority, hordinary, hpart⟩ := hfor
  simp only [SealedBindingFateToken.measurementContext, hordinary, hrecov] at h
  split at h
  · cases h
    exact hpart
  · cases h

end SealedBindingFateToken

end Liminal
