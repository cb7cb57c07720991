import Liminal.Lifecycle.Leave

/-!
# Checks of snapshot restore

Two checks a cold restore makes: the triple of a live member, its binding and its detach cell must
fit together, and the live members must project to exactly the participants of the stored frontier.
-/

namespace Liminal

open Fallible

variable {binding : BindingState} {cell : PendingDetach} {conversationId : ConversationId}
  {member : LiveMember} {retired : List RetiredIdentity}

inductive StorageRestoreError
  | membershipInvariant
  | bindingAuthority
  | detachBindingPair
  | closureDebt
  | cursorEpisode
deriving DecidableEq

/-! ### Member, binding and detach cell -/

def cleanDetachMatches (member : LiveMember) (cell : CommittedDetach) : Prop :=
  ∃ terminal ∈ member.latestTerminal, terminal.identity.participantId = cell.participantId ∧
    terminal.identity.conversationId = member.conversationId ∧ terminal.identity.bindingEpoch =
    cell.committedBindingEpoch ∧ terminal.deliverySeq = cell.detachedDeliverySeq ∧ terminal.detachedCause =
    some .cleanDeregister

instance (member : LiveMember) (cell : CommittedDetach) : Decidable (cleanDetachMatches member cell) :=
  inferInstanceAs (Decidable (∃ terminal ∈ member.latestTerminal, _))

def validateLivePair (member : LiveMember) (binding : BindingState) (detachCell : DetachCell) :
    Except StorageRestoreError Unit :=
  match detachCell with
  | .empty => .ok ()
  | .pending cell => do
    require (cell.participantId = member.participantId ∧ cell.requestGeneration = member.generation) .detachBindingPair
    let _ ← (validatePendingPair binding cell (some member.conversationId)).mapError
      fun _ => StorageRestoreError.detachBindingPair
  | .committed cell =>
    require (cell.participantId = member.participantId ∧ cell.requestGeneration = member.generation ∧
      binding = .detached ∧ cleanDetachMatches member cell) .detachBindingPair
  | .terminalized cell =>
    require (cell.participantId = member.participantId ∧ cell.requestGeneration < member.generation) .detachBindingPair

/-- A pending finalization and a pending cell that describe one clean detach of the conversation. -/
def PendingFinalization.Fits (pending : PendingFinalization) (cell : PendingDetach)
    (conversationId : ConversationId) : Prop :=
  pending.identity.conversationId = conversationId ∧ pending.identity.participantId = cell.participantId ∧
    pending.identity.bindingEpoch = cell.committedBindingEpoch ∧ pending.identity.admissionOrder = cell.admissionOrder ∧
    pending.detachedCause = some .cleanDeregister

theorem validatePendingPair_eq_ok : validatePendingPair binding cell (some conversationId) = .ok pending ↔
      binding = .pendingFinalization pending ∧ pending.Fits cell conversationId := by
  cases binding with
  | pendingFinalization current =>
    simp only [validatePendingPair, ok_iff, Option.mem_some_iff, forall_eq',
      PendingFinalization.Fits, BindingState.pendingFinalization.injEq]
    constructor
    · rintro ⟨hfits, rfl⟩
      exact ⟨rfl, hfits⟩
    · rintro ⟨rfl, hfits⟩
      exact ⟨hfits, rfl⟩
  | detached | bound active => simp [validatePendingPair]

theorem validateLivePair_pending : validateLivePair member binding (.pending cell) = .ok () ↔
      (cell.participantId = member.participantId ∧ cell.requestGeneration = member.generation) ∧
        ∃ pending, binding = .pendingFinalization pending ∧ pending.Fits cell member.conversationId := by
  simp only [validateLivePair, ok_iff, validatePendingPair_eq_ok, and_true]

theorem validateLivePair_committed {cell} :
    validateLivePair member binding (.committed cell) = .ok () ↔
      cell.participantId = member.participantId ∧ cell.requestGeneration = member.generation ∧
        binding = .detached ∧ cleanDetachMatches member cell :=
  require_eq_ok

theorem validateLivePair_terminalized {cell} :
    validateLivePair member binding (.terminalized cell) = .ok () ↔
      cell.participantId = member.participantId ∧ cell.requestGeneration < member.generation :=
  require_eq_ok

/-! ### Members and frontier -/

/-- One restored participant: a live member with its binding, or a tombstone. -/
inductive RestoredParticipantLifecycle
  | live (member : LiveMember) (binding : BindingState)
  | retired (identity : RetiredIdentity)

/-- The frontier's view of a binding. A detached member must have had one that ended. -/
def restoredFrontierBinding (member : LiveMember) : BindingState → Option FrontierBinding
  | .bound binding => some (.bound binding.bindingEpoch)
  | .pendingFinalization pending => some (.detached pending.identity.bindingEpoch)
  | .detached => member.latestTerminal.map fun terminal => .detached terminal.identity.bindingEpoch

def projectRestored (conversationId : ConversationId) :
    List RestoredParticipantLifecycle → Except StorageRestoreError (List FrontierParticipant)
  | [] => .ok []
  | .live member binding :: rest => do
    require (member.conversationId = conversationId) .membershipInvariant
    let frontierBinding ← orError (restoredFrontierBinding member binding) .bindingAuthority
    let projected ← projectRestored conversationId rest
    return ⟨member.participantId, member.cursor, frontierBinding⟩ :: projected
  | .retired identity :: rest => do
    require (identity.conversationId = conversationId) .membershipInvariant
    projectRestored conversationId rest

def validateParticipantFrontierProjection (participants : List RestoredParticipantLifecycle)
    (conversationId : ConversationId) (frontier : List FrontierParticipant) : Except StorageRestoreError Unit := do
  let projected ← projectRestored conversationId participants
  require (projected.insertionSort (fun p q => p.participantIndex ≤ q.participantIndex) = frontier) .membershipInvariant

theorem projectRestored_retired (h : ∀ identity ∈ retired, identity.conversationId = conversationId) :
    projectRestored conversationId (retired.map .retired) = .ok [] := by
  induction retired with
  | nil => rfl
  | cons identity rest ih =>
    have hrest := ih fun identity hmem => h identity (List.mem_cons_of_mem _ hmem)
    rw [List.map_cons, projectRestored, hrest]
    simp only [ok_iff, and_true]
    exact h identity List.mem_cons_self

theorem projectRestored_live {member : α → LiveMember}
    {binding : α → BindingState}
    (hretired : ∀ identity ∈ retired, identity.conversationId = conversationId)
    (h : List.Forall₂ (fun slot p => (member slot).conversationId = conversationId ∧
      restoredFrontierBinding (member slot) (binding slot) = some p.binding ∧
      (member slot).participantId = p.participantIndex ∧ (member slot).cursor = p.cursor) slots participants) :
    projectRestored conversationId (slots.map (fun slot => .live (member slot) (binding slot)) ++
      retired.map .retired) = .ok participants := by
  induction h with
  | nil => exact projectRestored_retired hretired
  | cons hpair _ ih =>
    obtain ⟨hconv, hbinding, hindex, hcursor⟩ := hpair
    rw [List.map_cons, List.cons_append, projectRestored, ih, hbinding, hindex, hcursor]
    simp only [ok_iff, Option.some.injEq, exists_eq_left', Except.ok.injEq, and_true]
    exact hconv

end Liminal
