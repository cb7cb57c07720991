import Liminal.Client.Binding
import Liminal.Client.Correlation

/-!
# The client aggregate

Everything a client must not lose, in one record because it is persisted together. The reducers of
the detach replay are here too; each reports whether it applied.
-/

namespace Liminal.Client

open Wire

/-! ### Detach replay -/

inductive DetachReplayTerminal
  | detachCommitted (value : DetachCommitted)
  | detachInProgress (value : DetachInProgress)
  | terminalizedDetachCell (value : TerminalizedDetachCell)
  /-- Any other answer that was correlated to the detach, kept whole. -/
  | authorityRefused (value : ServerValue)
deriving DecidableEq

inductive DetachReplayStatus
  | parked
  | inFlight
  | superseded
  | leaveSuperseded
  | terminal (outcome : DetachReplayTerminal)
deriving DecidableEq

/-- A superseded or terminal detach yields to a newer one; one that a Leave superseded does not. -/
def DetachReplayStatus.replaceable : DetachReplayStatus → Bool
  | superseded | terminal _ => true
  | _ => false

inductive DetachReplayState
  | empty
  | recorded (request : DetachEnvelope) (status : DetachReplayStatus)
deriving DecidableEq

inductive DetachReplayOutcome
  | detachCommitted (value : DetachCommitted)
  | detachInProgress (value : DetachInProgress)
  | terminalizedDetachCell (value : TerminalizedDetachCell)

namespace DetachReplayState

def markInitialAttemptStarted : DetachReplayState → DetachReplayState
  | recorded request .parked => recorded request .inFlight
  | replay => replay

variable (replay : DetachReplayState)

def canReplaceWith (request : DetachEnvelope) : Bool := match replay with
  | recorded retained status =>
    retained.conversationId = request.conversationId ∧ retained.participantId = request.participantId ∧
      retained.capabilityGeneration < request.capabilityGeneration ∧ status.replaceable
  | empty => false

/-- Moves a recorded detach to `status` if the input names it. -/
def moveWhen (names : DetachEnvelope → Bool) (status : DetachReplayStatus) : DetachReplayState × Bool :=
  match replay with
  | empty => (empty, false)
  | recorded request old =>
    if names request then (recorded request status, true) else (recorded request old, false)

/-- Any granted generation above the recorded one supersedes the detach, also one that skips generations. -/
def applyAttach (attach : AttachBound) : DetachReplayState × Bool :=
  replay.moveWhen (fun request => attach.conversationId = request.conversationId ∧ attach.participantId =
    request.participantId ∧ request.capabilityGeneration < attach.capabilityGeneration) .superseded

def applyLeave (leave : Wire.LeaveCommitted) : DetachReplayState × Bool :=
  replay.moveWhen (fun request => leave.conversationId = request.conversationId ∧ leave.participantId =
    request.participantId ∧ leave.presentedGeneration = request.capabilityGeneration) .leaveSuperseded

def applyRetired (conversationId : ConversationId)
    (participantId : ParticipantId) (retiredGeneration : Generation) : DetachReplayState × Bool :=
  replay.moveWhen (fun request => request.conversationId = conversationId ∧
    request.participantId = participantId ∧ request.capabilityGeneration ≤ retiredGeneration) .leaveSuperseded

def applyDetachCommitted (value : DetachCommitted) : DetachReplayState × Bool :=
  replay.moveWhen (fun request => committedEnvelope value = request) (.terminal (.detachCommitted value))

def applyDetachInProgress (value : DetachInProgress) : DetachReplayState × Bool :=
  replay.moveWhen (fun request => inProgressEnvelope value = request) (.terminal (.detachInProgress value))

def applyTerminalizedDetachCell (value : TerminalizedDetachCell) : DetachReplayState × Bool :=
  replay.moveWhen (fun request => terminalizedEnvelope value = request) (.terminal (.terminalizedDetachCell value))

/-- Only a replay that is still active takes a refusal, and only of its own detach. -/
def settleRefusedAuthority (expected : DetachEnvelope) (value : ServerValue) : DetachReplayState × Bool :=
  match replay with
  | recorded request .parked =>
    if request = expected then (recorded request (.terminal (.authorityRefused value)), true)
    else (recorded request .parked, false)
  | recorded request .inFlight =>
    if request = expected then (recorded request (.terminal (.authorityRefused value)), true)
    else (recorded request .inFlight, false)
  | replay => (replay, false)

def active : DetachReplayState → Option (DetachEnvelope × Bool)
  | recorded request .parked => some (request, false)
  | recorded request .inFlight => some (request, true)
  | _ => none

end DetachReplayState

/-! ### Reconnect -/

inductive ReconnectFreshEvent
  | transportFate
  | onlineTransition
  | explicitCallerAction
deriving DecidableEq

inductive ReconnectMachineState
  | parked
  | permit (authorization : Nat) (event : ReconnectFreshEvent) (issued : Bool)
  | attempt (authorization : Nat) (event : ReconnectFreshEvent)
  | online
deriving DecidableEq

inductive LostAuthorityKind
  | issuedOperationCorrelation
  | detachTransportAttempt
  | reconnectPermit
  | reconnectAttempt
deriving DecidableEq

structure ReconnectAggregate where
  state : ReconnectMachineState
  nextAuthorization : Nat
  lost : Option LostAuthorityKind
deriving DecidableEq

def ReconnectAggregate.new : ReconnectAggregate := ⟨.parked, 0, none⟩

/-! ### The aggregate -/

structure ExpectedOperationState where
  request : ClientRequest
  issued : Bool
  authorization : Nat
  lost : Option LostAuthorityKind
deriving DecidableEq

inductive RestoredExpectedOperationAbandonmentReason
  | tokenlessAfterCrash
deriving DecidableEq

structure RestoredExpectedOperationAbandonment where
  request : ClientRequest
  reason : RestoredExpectedOperationAbandonmentReason
  wasIssued : Bool
deriving DecidableEq

structure ClientParticipantAggregate where
  binding : ClientBindingState
  expected : Option ExpectedOperationState
  nextOperationAuthorization : Nat
  detachReplay : DetachReplayState
  reconnect : ReconnectAggregate
  restoredAbandonment : Option RestoredExpectedOperationAbandonment
deriving DecidableEq

namespace ClientParticipantAggregate

def new : ClientParticipantAggregate := ⟨.unbound, none, 0, .empty, .new, none⟩

variable (aggregate : ClientParticipantAggregate)

def takeRestoredOperationAbandonment : ClientParticipantAggregate × Option RestoredExpectedOperationAbandonment :=
  ({ aggregate with restoredAbandonment := none }, aggregate.restoredAbandonment)

def lostOperationTestimony : Option LostAuthorityKind := aggregate.expected.bind (·.lost)

def operationLossPending : Bool := aggregate.lostOperationTestimony.isSome

end ClientParticipantAggregate

/-- The detach a slot waits for, and whether its request is out. -/
def ExpectedOperationState.detach (expected : ExpectedOperationState) : Option (DetachEnvelope × Bool) :=
  match expected.request with
  | .detach request => some (request, expected.issued)
  | _ => none

theorem ExpectedOperationState.detach_eq_some {expected : ExpectedOperationState}
    {request issued} : expected.detach = some (request, issued) ↔
      expected.request = .detach request ∧ expected.issued = issued := by
  unfold detach
  split
  · rename_i envelope hrequest
    simp [hrequest]
  · rename_i hother
    simp only [reduceCtorEq, false_iff, not_and]
    exact fun hrequest => (hother request hrequest).elim

/-! ### What the reducers do -/

namespace DetachReplayState

variable {replay : DetachReplayState} {names : DetachEnvelope → Bool} {status : DetachReplayStatus}

theorem moveWhen_fst_of_true (h : (replay.moveWhen names status).2 = true) :
    ∃ request old, replay = recorded request old ∧ names request = true ∧
      (replay.moveWhen names status).1 = recorded request status := by
  cases replay with
  | empty => simp [moveWhen] at h
  | recorded request old =>
    simp only [moveWhen] at h ⊢
    split at h
    · rename_i hnames
      exact ⟨request, old, rfl, hnames, by simp [hnames]⟩
    · simp at h

theorem moveWhen_fst_of_false (h : (replay.moveWhen names status).2 = false) :
    (replay.moveWhen names status).1 = replay := by
  cases replay with
  | empty => rfl
  | recorded request old =>
    simp only [moveWhen] at h ⊢
    split at h
    · simp at h
    · rename_i hnames
      simp [hnames]

theorem active_eq_some : replay.active = some (request, issued) ↔
      replay = recorded request (if issued then .inFlight else .parked) := by
  cases replay with
  | empty => simp [active]
  | recorded envelope status => cases status <;> cases issued <;> simp [active]

@[simp] theorem active_markInitialAttemptStarted :
    replay.markInitialAttemptStarted.active = replay.active.map fun current => (current.1, true) := by
  cases replay with
  | empty => rfl
  | recorded envelope status => cases status <;> rfl

theorem settleRefusedAuthority_fst (expected : DetachEnvelope) (value : ServerValue) :
    (replay.settleRefusedAuthority expected value).1 =
      if replay.active.map Prod.fst = some expected then
        recorded expected (.terminal (.authorityRefused value))
      else replay := by
  cases replay with
  | empty => rfl
  | recorded envelope status =>
    cases status <;> simp only [settleRefusedAuthority, active, Option.map_some, Option.map_none,
      Option.some.injEq, reduceCtorEq, if_false]
    all_goals
      split
      · rename_i h
        rw [h]
      · rfl

end DetachReplayState

end Liminal.Client
