import Liminal.Client.Barrier

/-!
# Replaying a detach

A detach keeps its token over lost answers and restarts: while its replay is parked the same request
may be sent again under its authorization. Every transition out of flight consumes the correlation
of the attempt; none touches the binding.
-/

namespace Liminal.Client

open Wire

structure DetachTransportAttempt where
  request : DetachEnvelope
  authorization : Nat
deriving DecidableEq

def DetachTransportAttempt.intoRequest (attempt : DetachTransportAttempt) :
    DetachEnvelope × ClientResponseCorrelation :=
  (attempt.request, ⟨attempt.authorization⟩)

inductive DetachReplayRefusalReason
  | invalidStatus
  | foreignInput
  | lostAuthorityPending

inductive DetachReplayDecision (T : Type)
  | applied (aggregate : ClientParticipantAggregate)
  | refused (aggregate : ClientParticipantAggregate) (input : T) (reason : DetachReplayRefusalReason)

inductive DetachTransportAttemptDecision
  | started (aggregate : ClientParticipantAggregate) (attempt : DetachTransportAttempt)
  | refused (aggregate : ClientParticipantAggregate) (reason : DetachReplayRefusalReason)

variable (aggregate : ClientParticipantAggregate)

def transportAttemptStarted : DetachTransportAttemptDecision := match aggregate.detachReplay with
  | .recorded request .parked =>
    match aggregate.expected with
    | some expected =>
      if expected.authorization ≠ 0 ∧ expected.request = .detach request then
        .started { aggregate with
            expected := some { expected with issued := true }
            detachReplay := .recorded request .inFlight }
          ⟨request, expected.authorization⟩
      else .refused aggregate .invalidStatus
    | none => .refused aggregate .invalidStatus
  | _ => .refused aggregate .invalidStatus

variable (correlation : ClientResponseCorrelation)

def detachAuthorityMatches : Bool :=
  match aggregate.expected, aggregate.detachReplay with
  | some expected, .recorded request .inFlight =>
    expected.issued ∧ expected.authorization = correlation.authorization ∧ expected.request = .detach request
  | _, _ => false

def transportFate : DetachReplayDecision ClientResponseCorrelation :=
  if aggregate.operationLossPending then .refused aggregate correlation .lostAuthorityPending
  else if detachAuthorityMatches aggregate correlation then
    .applied { aggregate with
        detachReplay := aggregate.detachReplay.park
        expected := aggregate.expected.map fun expected => { expected with issued := false } }
  else .refused aggregate correlation .invalidStatus

/-- The slot is emptied only if the reducer applied. -/
def retireDetach {T : Type} (aggregate : ClientParticipantAggregate)
    (moved : DetachReplayState × Bool) (input : T) : DetachReplayDecision T :=
  if moved.2 then .applied { aggregate with detachReplay := moved.1, expected := none }
  else .refused { aggregate with detachReplay := moved.1 } input .foreignInput

def applyAttach (attach : AttachBound) (correlation : ClientResponseCorrelation) :
    DetachReplayDecision (AttachBound × ClientResponseCorrelation) :=
  if aggregate.operationLossPending then
    .refused aggregate (attach, correlation) .lostAuthorityPending
  else if detachAuthorityMatches aggregate correlation then
    retireDetach aggregate (aggregate.detachReplay.applyAttach attach) (attach, correlation)
  else .refused aggregate (attach, correlation) .foreignInput

/-- Only the replay learns of the Leave; the binding does not become `left` here. -/
def applyLeaveDurable (leave : Wire.LeaveCommitted) (correlation : ClientResponseCorrelation) :
    DetachReplayDecision (Wire.LeaveCommitted × ClientResponseCorrelation) :=
  if aggregate.operationLossPending then
    .refused aggregate (leave, correlation) .lostAuthorityPending
  else if detachAuthorityMatches aggregate correlation then
    retireDetach aggregate (aggregate.detachReplay.applyLeave leave) (leave, correlation)
  else .refused aggregate (leave, correlation) .foreignInput

def DetachReplayState.applyOutcome (replay : DetachReplayState) : DetachReplayOutcome → DetachReplayState × Bool
  | .detachCommitted value => replay.applyDetachCommitted value
  | .detachInProgress value => replay.applyDetachInProgress value
  | .terminalizedDetachCell value => replay.applyTerminalizedDetachCell value

def applyDetachOutcome (outcome : DetachReplayOutcome) (correlation : ClientResponseCorrelation) :
    DetachReplayDecision (DetachReplayOutcome × ClientResponseCorrelation) :=
  if aggregate.operationLossPending then
    .refused aggregate (outcome, correlation) .lostAuthorityPending
  else if ¬detachAuthorityMatches aggregate correlation then
    .refused aggregate (outcome, correlation) .invalidStatus
  else
    retireDetach aggregate (aggregate.detachReplay.applyOutcome outcome) (outcome, correlation)

end Liminal.Client
