import Liminal.Client.Aggregate

/-!
# Reconnecting

A fresh event permits one attempt to reconnect; the permit is redeemed for the attempt, whose fate
parks the machine or puts it online. A permit not handed out is recovered after a restart; one that
was out leaves a testimony.
-/

namespace Liminal.Client

open Checked

structure ReconnectAttemptPermit where
  authorization : Nat
  event : ReconnectFreshEvent
deriving DecidableEq

structure ReconnectInProgressAttempt where
  authorization : Nat
  event : ReconnectFreshEvent
deriving DecidableEq

inductive ReconnectState
  | parked
  | permitOutstanding
  | attemptInProgress
  | online

def ReconnectMachineState.state : ReconnectMachineState → ReconnectState
  | parked => .parked
  | permit .. => .permitOutstanding
  | attempt .. => .attemptInProgress
  | online => .online

inductive ReconnectDelayResult
  | reconnectArmed (event : ReconnectFreshEvent)
  | reconnectNotArmed (state : ReconnectState) (requiredEvent : ReconnectFreshEvent)

inductive ReconnectPermitRefusalReason
  | authorizationOutstanding
  | authorizationExhausted

inductive ReconnectPermitDecision
  | permitted (aggregate : ClientParticipantAggregate) (permit : ReconnectAttemptPermit) (result : ReconnectDelayResult)
  | refused (aggregate : ClientParticipantAggregate) (event : ReconnectFreshEvent)
      (reason : ReconnectPermitRefusalReason) (result : ReconnectDelayResult)

variable (aggregate : ClientParticipantAggregate)

def ClientParticipantAggregate.withReconnect (reconnect : ReconnectAggregate) : ClientParticipantAggregate :=
  { aggregate with reconnect := reconnect }

def recordFreshEvent (event : ReconnectFreshEvent) : ReconnectPermitDecision :=
  let reconnect := aggregate.reconnect
  let notArmed := ReconnectDelayResult.reconnectNotArmed reconnect.state.state event
  if reconnect.state = .parked ∨ reconnect.state = .online then
    match add u64Max reconnect.nextAuthorization 1 with
    | none => .refused aggregate event .authorizationExhausted notArmed
    | some authorization => .permitted
        (aggregate.withReconnect ⟨.permit authorization event true, authorization, reconnect.lost⟩)
        ⟨authorization, event⟩ (.reconnectArmed event)
  else .refused aggregate event .authorizationOutstanding notArmed

inductive RecoveredReconnectPermitDecision
  | recovered (aggregate : ClientParticipantAggregate) (permit : ReconnectAttemptPermit)
  | notAvailable (aggregate : ClientParticipantAggregate) (state : ReconnectState)

def recoverReconnectPermit : RecoveredReconnectPermitDecision :=
  match aggregate.reconnect.state with
  | .permit authorization event false => .recovered (aggregate.withReconnect
      { aggregate.reconnect with state := .permit authorization event true }) ⟨authorization, event⟩
  | state => .notAvailable aggregate state.state

inductive LostReconnectAuthorityDecision
  | recorded (aggregate : ClientParticipantAggregate) (testimony : LostAuthorityKind)
  | refused (aggregate : ClientParticipantAggregate)

def resolveLostReconnectAuthority : LostReconnectAuthorityDecision :=
  match aggregate.reconnect.lost with
  | some testimony => .recorded
      (aggregate.withReconnect { aggregate.reconnect with state := .parked, lost := none }) testimony
  | none => .refused aggregate

inductive ReconnectAttemptRefusalReason
  | noPermit
  | stalePermit
  | lostAuthorityPending

inductive ReconnectAttemptDecision
  | started (aggregate : ClientParticipantAggregate) (attempt : ReconnectInProgressAttempt)
  | refused (aggregate : ClientParticipantAggregate) (permit : ReconnectAttemptPermit)
      (reason : ReconnectAttemptRefusalReason)

def redeemAttempt (permit : ReconnectAttemptPermit) : ReconnectAttemptDecision :=
  if aggregate.reconnect.lost.isSome then .refused aggregate permit .lostAuthorityPending
  else
    match aggregate.reconnect.state with
    | .permit authorization event _ =>
      if authorization = permit.authorization ∧ event = permit.event then
        .started (aggregate.withReconnect { aggregate.reconnect with state := .attempt authorization event })
          ⟨authorization, event⟩
      else .refused aggregate permit .stalePermit
    | _ => .refused aggregate permit .noPermit

inductive ReconnectAttemptFate
  | connected
  | failed

inductive ReconnectAttemptFateRefusalReason
  | noAttempt
  | staleAttempt
  | lostAuthorityPending

inductive ReconnectAttemptFateDecision
  | recorded (aggregate : ClientParticipantAggregate)
  | refused (aggregate : ClientParticipantAggregate) (attempt : ReconnectInProgressAttempt)
      (fate : ReconnectAttemptFate) (reason : ReconnectAttemptFateRefusalReason)

def ReconnectAttemptFate.state : ReconnectAttemptFate → ReconnectMachineState
  | connected => .online
  | failed => .parked

def recordAttemptFate (attempt : ReconnectInProgressAttempt) (fate : ReconnectAttemptFate) :
    ReconnectAttemptFateDecision :=
  if aggregate.reconnect.lost.isSome then .refused aggregate attempt fate .lostAuthorityPending
  else
    match aggregate.reconnect.state with
    | .attempt authorization event =>
      if authorization = attempt.authorization ∧ event = attempt.event then
        .recorded (aggregate.withReconnect { aggregate.reconnect with state := fate.state })
      else .refused aggregate attempt fate .staleAttempt
    | _ => .refused aggregate attempt fate .noAttempt

end Liminal.Client
