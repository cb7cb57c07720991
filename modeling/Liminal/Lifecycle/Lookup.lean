import Liminal.Lifecycle.Leave

/-!
# Looking up a detach request

A detach request is first looked for by its token, and a stored one gets the stored answer out of
the member's detach cell before generation and binding are looked at. Only an unknown token goes on
to the checks for a fresh detach.
-/

namespace Liminal

open Fallible

variable {cell : DetachCell} {request : DetachRequest} {requestVerifier : RequestVerifier} {member : LiveMember}

inductive ResolvedIdentity
  | live (member : LiveMember)
  | retired (identity : RetiredIdentity)

inductive PresentedIdentity
  | absent
  | live (member : LiveMember)
  | retired (identity : RetiredIdentity)

inductive DetachTokenResolution
  | noExactMatch
  | exact (identity : ResolvedIdentity)

inductive DetachLookupResult
  | retired (request : DetachRequest) (retiredGeneration : Generation)
  | participantUnknown (request : DetachRequest)
  | staleAuthority (stale : DetachStaleAuthority)
  | noBinding (request : DetachRequest)
  | pendingReplayRequired (replay : PendingReplayRequest)
  | detachInProgress (progress : DetachInProgress)
  | detachCommitted (outcome : DetachCommitted)
  | authorized (member : LiveMember) (binding : ActiveBinding)

structure DetachLookupContext where
  tokenResolution : DetachTokenResolution
  presentedIdentity : PresentedIdentity
  cell : DetachCell
  binding : BindingState
  receivingBindingEpoch : Option BindingEpoch
  request : DetachRequest
  requestVerifier : RequestVerifier
  observerProgress : DeliverySeq

def PendingDetach.competingAttempt (cell : PendingDetach) (conversationId : ConversationId)
    (presentedToken : DetachAttemptToken) (presentedGeneration : Generation) : DetachInProgress :=
  ⟨conversationId, cell.participantId, presentedToken, presentedGeneration, cell.committedBindingEpoch⟩

def TerminalizedDetach.outcome (cell : TerminalizedDetach) (conversationId : ConversationId)
    (currentGeneration : Generation) (bindingState : BindingStateView) : TerminalizedDetachCell :=
  ⟨conversationId, cell.participantId, cell.requestGeneration, cell.token, currentGeneration,
    cell.committedBindingEpoch, bindingState⟩

def bindingView (member : LiveMember) (binding : BindingState) : BindingStateView :=
  match binding with
  | .bound active =>
    if member.validateMemberAuthority active then .bound active.bindingEpoch else .detached
  | _ => .detached

def staleDetach (request : DetachRequest) (currentGeneration : Generation) : DetachLookupResult :=
  .staleAuthority (.live request currentGeneration)

/-- The cell's answer. A cell does not name its conversation: the member it was resolved to does. -/
def lookupExactDetachCell (member : LiveMember) (cell : DetachCell) (binding : BindingState) (request : DetachRequest)
    (requestVerifier : RequestVerifier) (observerProgress : DeliverySeq) : Option DetachLookupResult :=
  if request.conversationId ≠ member.conversationId then none
  else
    match cell with
    | .empty => none
    | .pending pending =>
      match pending.verifyExact request requestVerifier with
      | .ok _ => some (.pendingReplayRequired ⟨request.conversationId, binding, pending, observerProgress⟩)
      | .error _ => some (staleDetach request member.generation)
    | .committed committed =>
      match committed.verifyExact request requestVerifier with
      | .ok _ => some (.detachCommitted (committed.outcome request.conversationId))
      | .error _ => some (staleDetach request member.generation)
    | .terminalized terminalized =>
      match terminalized.verifyExact request requestVerifier with
      | .ok _ => some (.staleAuthority (.terminalizedDetachCell (terminalized.outcome
          request.conversationId member.generation (bindingView member binding))))
      | .error _ => some (staleDetach request member.generation)

variable (context : DetachLookupContext)

def lookupCurrentBinding (member : LiveMember) : DetachLookupResult :=
  if context.request.capabilityGeneration ≠ member.generation then
    staleDetach context.request member.generation
  else
    match context.binding with
    | .bound active =>
      if active.conversationId = context.request.conversationId ∧ active.participantId = context.request.participantId ∧
          active.bindingEpoch.capabilityGeneration = context.request.capabilityGeneration ∧
          context.receivingBindingEpoch = some active.bindingEpoch then
        .authorized member active
      else .noBinding context.request
    | _ => .noBinding context.request

/-- The member under the presented key; another token meets a pending detach before anything else. -/
def lookupPresented : DetachLookupResult :=
  match context.presentedIdentity with
  | .retired identity => .retired context.request identity.retiredGeneration
  | .absent => .participantUnknown context.request
  | .live member =>
    if member.conversationId ≠ context.request.conversationId ∨
        member.participantId ≠ context.request.participantId then
      .participantUnknown context.request
    else
      match context.tokenResolution, context.cell with
      | .noExactMatch, .pending pending => .detachInProgress (pending.competingAttempt
          context.request.conversationId context.request.detachAttemptToken context.request.capabilityGeneration)
      | _, _ => lookupCurrentBinding context member

def lookupDetach : DetachLookupResult :=
  match context.tokenResolution with
  | .exact (.retired identity) => .retired context.request identity.retiredGeneration
  | .exact (.live member) =>
    (lookupExactDetachCell member context.cell context.binding context.request
      context.requestVerifier context.observerProgress).getD (lookupPresented context)
  | .noExactMatch => lookupPresented context

/-! ### What a lookup says -/

def DetachCell.token : DetachCell → Option DetachAttemptToken
  | .empty => none
  | .pending cell | .committed cell | .terminalized cell => some cell.token

/-- The request the cell remembers: token, participant, generation and verifier. -/
def DetachCell.stored : DetachCell → Option (DetachAttemptToken × ParticipantId × Generation × RequestVerifier)
  | .empty => none
  | .pending cell | .committed cell | .terminalized cell =>
    some (cell.token, cell.participantId, cell.requestGeneration, cell.requestVerifier)

def DetachCell.Stores (cell : DetachCell) (request : DetachRequest) (requestVerifier : RequestVerifier) : Prop :=
  cell.stored = some (request.detachAttemptToken, request.participantId, request.capabilityGeneration, requestVerifier)

instance (cell : DetachCell) (request : DetachRequest) (requestVerifier : RequestVerifier) :
    Decidable (cell.Stores request requestVerifier) :=
  inferInstanceAs (Decidable (_ = _))

theorem DetachCell.Stores.token (h : cell.Stores request requestVerifier) :
    cell.token = some request.detachAttemptToken := by
  cases cell <;> simp_all [DetachCell.Stores, DetachCell.stored, DetachCell.token]

theorem verifyStoredRequest_eq_ok :
    verifyStoredRequest token participantId requestGeneration storedVerifier request requestVerifier = .ok () ↔
      (token, participantId, requestGeneration, storedVerifier) = (request.detachAttemptToken,
        request.participantId, request.capabilityGeneration, requestVerifier) := by
  simp only [verifyStoredRequest, ok_iff, Prod.mk.injEq]
  constructor <;> rintro ⟨rfl, rfl, rfl, rfl⟩ <;> exact ⟨rfl, rfl, rfl, rfl⟩

/-- Within its conversation a resolved token always gets the cell's own answer, never an authorization. -/
theorem lookupExactDetachCell_isSome (hconv : request.conversationId = member.conversationId)
    (htoken : cell.token.isSome = true) (binding : BindingState) (requestVerifier : RequestVerifier)
    (observerProgress : DeliverySeq) :
    ∃ result, lookupExactDetachCell member cell binding request requestVerifier observerProgress =
      some result ∧ ∀ fresh active, result ≠ .authorized fresh active := by
  simp only [lookupExactDetachCell, hconv, ne_eq, not_true_eq_false, if_false]
  cases cell with
  | empty => cases htoken
  | pending cell | committed cell | terminalized cell =>
    simp only; split <;> exact ⟨_, rfl, by simp [staleDetach]⟩

end Liminal
