import Liminal.Lifecycle.Binding
import Liminal.Library.Fallible

/-!
# Live members

A live member has a capability generation, a cursor and the terminal of its latest ended binding.
Its cursor moves only by a checked update, which may be applied twice.
-/

namespace Liminal

open Fallible

inductive MembershipInvariantError
  | terminalIdentity
  | terminalGeneration

structure LiveMember where
  participantId : ParticipantId
  conversationId : ConversationId
  generation : Generation
  cursor : DeliverySeq
  latestTerminal : Option CommittedBindingTerminal
deriving DecidableEq

structure LiveMemberCursorUpdate where
  conversationId : ConversationId
  participantId : ParticipantId
  generation : Generation
  (fromCursor resultingCursor : DeliverySeq)

inductive LiveMemberCursorUpdateError
  | conversation (expected actual : ConversationId)
  | participant (expected actual : ParticipantId)
  | generation (expected actual : Generation)
  | nonAdvancing (fromCursor resultingCursor : DeliverySeq)
  | cursorPrestate (expectedFromCursor resultingCursor actualCursor : DeliverySeq)

def validateTerminal (participantId : ParticipantId) (conversationId : ConversationId)
    (generation : Generation) (terminal : Option CommittedBindingTerminal) : Except MembershipInvariantError Unit :=
  match terminal with
  | none => .ok ()
  | some terminal => do
    require (terminal.identity.participantId = participantId ∧
      terminal.identity.conversationId = conversationId) .terminalIdentity
    require (terminal.identity.bindingEpoch.capabilityGeneration ≤ generation) .terminalGeneration

namespace LiveMember

variable {member member' : LiveMember} {terminal : CommittedBindingTerminal}

def fromEnrollment (participantId : ParticipantId) (conversationId : ConversationId) : LiveMember where
  participantId := participantId
  conversationId := conversationId
  generation := 1
  cursor := 0
  latestTerminal := none

def applyCursorUpdate (member : LiveMember) (update : LiveMemberCursorUpdate) :
    Except LiveMemberCursorUpdateError LiveMember := do
  require (member.conversationId = update.conversationId) (.conversation update.conversationId member.conversationId)
  require (member.participantId = update.participantId) (.participant update.participantId member.participantId)
  require (member.generation = update.generation) (.generation update.generation member.generation)
  require (update.fromCursor < update.resultingCursor) (.nonAdvancing update.fromCursor update.resultingCursor)
  if member.cursor = update.resultingCursor then return member
  else do
    require (member.cursor = update.fromCursor) (.cursorPrestate update.fromCursor update.resultingCursor member.cursor)
    return { member with cursor := update.resultingCursor }

def withCommittedTerminal (member : LiveMember) (terminal : CommittedBindingTerminal) :
    Except MembershipInvariantError LiveMember := do
  validateTerminal member.participantId member.conversationId member.generation (some terminal)
  return { member with latestTerminal := some terminal }

/-- The member after an attach: a new generation, and the terminal the attach has put in place, if any. -/
def rotate (member : LiveMember) (generation : Generation) (cursor : DeliverySeq)
    (terminal : Option CommittedBindingTerminal) : Except MembershipInvariantError LiveMember := do
  let latestTerminal := terminal.or member.latestTerminal
  validateTerminal member.participantId member.conversationId generation latestTerminal
  return { member with generation, cursor, latestTerminal }

theorem applyCursorUpdate_eq_ok (h : member.applyCursorUpdate update = .ok member') :
    member' = { member with cursor := update.resultingCursor } ∧ update.fromCursor < update.resultingCursor ∧
      (member.cursor = update.fromCursor ∨ member.cursor = update.resultingCursor) := by
  simp only [applyCursorUpdate, ok_iff] at h
  obtain ⟨-, -, -, hlt, h⟩ := h
  split at h
  · rename_i hcursor
    simp only [pure_eq_ok] at h
    subst h
    refine ⟨?_, hlt, Or.inr hcursor⟩
    rw [← hcursor]
  · simp only [ok_iff] at h
    exact ⟨h.2.symm, hlt, Or.inl h.1⟩

theorem withCommittedTerminal_eq_ok (h : member.withCommittedTerminal terminal = .ok member') :
    member' = { member with latestTerminal := some terminal } ∧
      terminal.identity.participantId = member.participantId := by
  simp only [withCommittedTerminal, validateTerminal, ok_iff] at h
  obtain ⟨⟨⟨hpart, -⟩, -⟩, rfl⟩ := h
  exact ⟨rfl, hpart⟩

theorem withCommittedTerminal_generation (h : member.withCommittedTerminal terminal = .ok member') :
    terminal.identity.bindingEpoch.capabilityGeneration ≤ member.generation := by
  simp only [withCommittedTerminal, validateTerminal, ok_iff] at h
  exact h.1.2

theorem rotate_eq_ok {generation cursor terminal}
    (h : member.rotate generation cursor terminal = .ok member') : member' = { member with
      generation, cursor, latestTerminal := terminal.or member.latestTerminal } := by
  simp only [rotate, ok_iff] at h
  obtain ⟨_, _, h⟩ := h
  exact h.symm

end LiveMember

end Liminal
