import Liminal.Server.Membership

/-!
# Deaths seen by the supervisor

When a connection dies the supervisor writes a durable Open, has the participant service end every
binding of the connection, and writes the Complete. One conversation is kept here with its fatal
latch and its unmatched Opens; position and charge of each terminal are arguments.
-/

namespace Liminal

open Fallible ConversationAuthority LiveFrontierOwner

structure ParticipantService where
  authority : ConversationAuthority
  serviceFatal : Bool
  unmatchedOpens : List ConnectionIncarnation

structure TerminalAllocation where
  transactionOrder : TransactionOrder
  deliverySeq : DeliverySeq
  terminalCharge : RetainedRecordCharge

structure ConnectionDeath where
  connectionIncarnation : ConnectionIncarnation
  cause : TerminalCause
  allocation : ParticipantId → TerminalAllocation

namespace ConversationAuthority

def fateTargets (a : ConversationAuthority) (connection : ConnectionIncarnation) : List ParticipantId :=
  a.conversation.slots.filterMap fun slot =>
    match slot.binding with
    | .bound active =>
      if active.bindingEpoch.connectionIncarnation = connection then some slot.participantId else none
    | _ => none

def completeTargets (a : ConversationAuthority) (death : ConnectionDeath) :
    List ParticipantId → ConversationAuthority × Bool
  | [] => (a, true)
  | participant :: rest =>
    let allocation := death.allocation participant
    match a.completeTarget participant death.cause allocation.transactionOrder
        allocation.deliverySeq allocation.terminalCharge with
    | some ended => ended.completeTargets death rest
    | none => (a, false)

variable {a a' : ConversationAuthority} {participant : ParticipantId} {cause : TerminalCause}

theorem lane_of_completeTarget (h : a.completeTarget participant cause order deliverySeq charge = some a') :
    a.conversation.owner.frontiers.sequence.immutableCandidates = [] := by
  simp only [completeTarget, bind_eq_some] at h
  obtain ⟨owner, howner, slot, -, h⟩ := h
  obtain ⟨-, rfl⟩ := frontier_eq_some howner
  split at h
  · simp only [some_iff, prepareBindingTerminal_eq_ok] at h
    obtain ⟨prepared, ⟨-, -, -, -, rfl⟩, h⟩ := h
    split at h
    · rename_i admitted hadmit
      obtain ⟨_, -, happends⟩ := commitBindingTerminalCandidate_appends (admitTerminal_eq_commit hadmit)
      exact happends.frontiers.2.1
    · rename_i admitted blocked hadmit
      obtain ⟨_, -, _, hpended, -⟩ := pendBindingTerminalCandidate_eq_ok.mp (admitTerminal_eq_pending hadmit)
      have hfree := (ClaimFrontiers.applyPendingBindingTerminal_eq_ok.mp hpended).1
      exact (ClaimFrontiers.liveTransitionBlocked_eq_false.mp hfree).1
    · cases h
  · cases h

end ConversationAuthority

namespace ParticipantService

/-- The handler latches every failure but a refusal for precedence, and the supervisor latches whatever the
handler failed with. -/
def completeConnectionFate (s : ParticipantService) (death : ConnectionDeath) : ParticipantService :=
  if s.serviceFatal then s
  else match s.authority.completeTargets death (s.authority.fateTargets death.connectionIncarnation) with
    | (authority, true) => { s with authority }
    | (authority, false) =>
      ⟨authority, true, s.unmatchedOpens ++ [death.connectionIncarnation]⟩

variable {s : ParticipantService}

theorem serviceFatal_keeps (h : s.serviceFatal = true) (deaths : List ConnectionDeath) :
    deaths.foldl completeConnectionFate s = s := by
  induction deaths with
  | nil => rfl
  | cons death rest ih => rw [List.foldl_cons, completeConnectionFate, if_pos h, ih]

section

variable (hlive : s.serviceFatal = false)
include hlive

theorem completeConnectionFate_untouched
    (hnone : s.authority.fateTargets death.connectionIncarnation = []) : s.completeConnectionFate death = s := by
  rw [completeConnectionFate, if_neg (by simp [hlive]), hnone]
  rfl

variable (hlane : s.authority.conversation.owner.frontiers.sequence.immutableCandidates ≠ [])
include hlane

/-- Behind an occupied lane the first target of a death is refused already. -/
theorem completeConnectionFate_latches (hsome : s.authority.fateTargets death.connectionIncarnation ≠ []) :
    s.completeConnectionFate death = ⟨s.authority, true, s.unmatchedOpens ++ [death.connectionIncarnation]⟩ := by
  rw [completeConnectionFate, if_neg (by simp [hlive])]
  cases htargets : s.authority.fateTargets death.connectionIncarnation with
  | nil => exact absurd htargets hsome
  | cons participant rest =>
    rw [completeTargets]
    cases hended : s.authority.completeTarget participant death.cause _ _ _ with
    | none => rfl
    | some ended => exact absurd (lane_of_completeTarget hended) hlane

/-- Behind an occupied lane the service outlives exactly the deaths of connections through which nobody is
bound, and only then is every Open completed. -/
theorem deaths_behind_lane_iff
   
    (deaths : List ConnectionDeath) : ((deaths.foldl completeConnectionFate s).serviceFatal = false ∧
        (deaths.foldl completeConnectionFate s).unmatchedOpens = s.unmatchedOpens) ↔
      ∀ death ∈ deaths, s.authority.fateTargets death.connectionIncarnation = [] := by
  induction deaths with
  | nil => simp [hlive]
  | cons death rest ih =>
    rw [List.foldl_cons, List.forall_mem_cons]
    by_cases htargets : s.authority.fateTargets death.connectionIncarnation = []
    · rw [completeConnectionFate_untouched hlive htargets, ih]
      exact ⟨fun h => ⟨htargets, h⟩, fun h => h.2⟩
    · rw [completeConnectionFate_latches hlive hlane htargets, serviceFatal_keeps rfl]
      exact ⟨fun h => absurd h.1 (by simp), fun h => absurd h.1 htargets⟩

end

/-- Two members; the second dies with no room for its terminal, which is pended. -/
def pendedDeath : List ServerOperation := drainedDeath.take 2

theorem deaths_behind_lane_other : ∃ a, unitServerRun ⟨100, 100⟩ 2 2 pendedDeath = some a ∧ serverMachine.Reachable a ∧
    ∀ cause allocation, ((mk a false []).completeConnectionFate ⟨⟨9, 9⟩, cause, allocation⟩).serviceFatal = false := by
  obtain ⟨a, ha, hlane, htargets⟩ : ∃ a, unitServerRun ⟨100, 100⟩ 2 2 pendedDeath = some a ∧
      a.conversation.owner.frontiers.sequence.immutableCandidates ≠ [] ∧
      a.fateTargets ⟨9, 9⟩ = [] := exists_of_any (by decide)
  refine ⟨a, ha, unitServerRun_reachable ha, fun cause allocation => ?_⟩
  have hnone : ∀ death ∈ [ConnectionDeath.mk ⟨9, 9⟩ cause allocation],
      a.fateTargets death.connectionIncarnation = [] := by simpa using htargets
  exact ((@deaths_behind_lane_iff ⟨a, false, []⟩ rfl hlane _).mpr hnone).1

/-- The first member is bound through a connection of its own. However its death is allocated, it stops the
service. -/
theorem death_behind_lane_latches : ∃ a, unitServerRun ⟨100, 100⟩ 2 2 pendedDeath = some a ∧ serverMachine.Reachable a ∧
    a.conversation.owner.frontiers.sequence.immutableCandidates ≠ [] ∧
    ∀ cause allocation, (mk a false []).completeConnectionFate ⟨⟨0, 0⟩, cause, allocation⟩ = ⟨a, true, [⟨0, 0⟩]⟩ := by
  obtain ⟨a, ha, hlane, htargets⟩ : ∃ a, unitServerRun ⟨100, 100⟩ 2 2 pendedDeath = some a ∧
      a.conversation.owner.frontiers.sequence.immutableCandidates ≠ [] ∧
      a.fateTargets ⟨0, 0⟩ ≠ [] := exists_of_any (by decide)
  exact ⟨a, ha, unitServerRun_reachable ha, hlane, fun cause allocation =>
    completeConnectionFate_latches rfl hlane htargets⟩

end ParticipantService

end Liminal
