import Liminal.Client.Inbound
import Liminal.Client.Resume
import Liminal.Library.Machine

/-!
# The client process

A process holds the aggregate, or the barrier value it went into, and the one-use values handed out.
Each action calls one operation; a refusal puts back what it would have consumed. A restart keeps
only the record.
-/

namespace Liminal.Client

open Wire

/-- Where the aggregate is: with the caller, or inside the barrier of a recorded operation. -/
inductive ClientRoot
  | aggregate (aggregate : ClientParticipantAggregate)
  | pending (record : ClientPendingOperationRecord)
  | commit (commit : ClientOperationCommit)
deriving DecidableEq

inductive OneUse
  | operation (operation : ExpectedParticipantOperation)
  | detachAttempt (attempt : DetachTransportAttempt)
  | correlation (correlation : ClientResponseCorrelation)
  | permit (permit : ReconnectAttemptPermit)
  | reconnectAttempt (attempt : ReconnectInProgressAttempt)
deriving DecidableEq

structure ClientProcess where
  root : ClientRoot
  held : List OneUse

inductive ClientAction
  | record (request : ClientRequest)
  | commit
  | abort
  | release
  | send (operation : ExpectedParticipantOperation)
  | sendAttempt (attempt : DetachTransportAttempt)
  | recoverExpectedOperation
  | resolveLostOperation
  | expectedOperationFate (correlation : ClientResponseCorrelation)
  | transportAttemptStarted
  | transportFate (correlation : ClientResponseCorrelation)
  | applyAttach (attach : AttachBound) (correlation : ClientResponseCorrelation)
  | applyLeaveDurable (leave : Wire.LeaveCommitted) (correlation : ClientResponseCorrelation)
  | applyDetachOutcome (outcome : DetachReplayOutcome) (correlation : ClientResponseCorrelation)
  | inbound (value : ServerValue)
  | correlatedInbound (value : ServerValue) (correlation : ClientResponseCorrelation)
  | takeAbandonment
  | freshEvent (event : ReconnectFreshEvent)
  | recoverReconnectPermit
  | resolveLostReconnect
  | redeemAttempt (permit : ReconnectAttemptPermit)
  | attemptFate (attempt : ReconnectInProgressAttempt) (fate : ReconnectAttemptFate)
  | restore

/-- A value is consumed only by who holds it. -/
def spend (held : List OneUse) (value : OneUse) : Option (List OneUse) :=
  if value ∈ held then some (held.erase value) else none

/-! ### One operation -/

variable (aggregate : ClientParticipantAggregate)

variable (held : List OneUse)

def recordStep (request : ClientRequest) : ClientProcess :=
  match recordOperation aggregate request with
  | .pending record => ⟨.pending record, held⟩
  | .continuous aggregate operation => ⟨.aggregate aggregate, .operation operation :: held⟩
  | .refused aggregate _ _ => ⟨.aggregate aggregate, held⟩

def recoverStep : ClientProcess :=
  match recoverExpectedOperation aggregate with
  | .recovered aggregate operation => ⟨.aggregate aggregate, .operation operation :: held⟩
  | .notAvailable aggregate _ => ⟨.aggregate aggregate, held⟩

def resolveStep : ClientProcess :=
  match resolveLostOperationAuthority aggregate with
  | .recorded aggregate _ _ | .detachParked aggregate _ _ | .refused aggregate => ⟨.aggregate aggregate, held⟩

def expectedFateStep (correlation : ClientResponseCorrelation) : ClientProcess :=
  match recordExpectedOperationFate aggregate correlation with
  | .recorded aggregate _ => ⟨.aggregate aggregate, held⟩
  | .refused aggregate correlation _ => ⟨.aggregate aggregate, .correlation correlation :: held⟩

def attemptStartedStep : ClientProcess :=
  match transportAttemptStarted aggregate with
  | .started aggregate attempt => ⟨.aggregate aggregate, .detachAttempt attempt :: held⟩
  | .refused aggregate _ => ⟨.aggregate aggregate, held⟩

/-- A transition of the replay; the correlation comes back with a refusal. -/
def replayStep {T : Type} (correlationOf : T → ClientResponseCorrelation) : DetachReplayDecision T → ClientProcess
  | .applied aggregate => ⟨.aggregate aggregate, held⟩
  | .refused aggregate input _ =>
    ⟨.aggregate aggregate, .correlation (correlationOf input) :: held⟩

def inboundStep (value : ServerValue) : ClientProcess :=
  match decideInbound aggregate value with
  | .applied aggregate _ | .refused aggregate _ _ => ⟨.aggregate aggregate, held⟩

def correlatedInboundStep (value : ServerValue) (correlation : ClientResponseCorrelation) : ClientProcess :=
  match decideCorrelatedInbound aggregate value correlation with
  | .applied aggregate _ => ⟨.aggregate aggregate, held⟩
  | .refused aggregate _ correlation _ =>
    ⟨.aggregate aggregate, .correlation correlation :: held⟩

def freshEventStep (event : ReconnectFreshEvent) : ClientProcess :=
  match recordFreshEvent aggregate event with
  | .permitted aggregate permit _ => ⟨.aggregate aggregate, .permit permit :: held⟩
  | .refused aggregate _ _ _ => ⟨.aggregate aggregate, held⟩

def recoverPermitStep : ClientProcess :=
  match recoverReconnectPermit aggregate with
  | .recovered aggregate permit => ⟨.aggregate aggregate, .permit permit :: held⟩
  | .notAvailable aggregate _ => ⟨.aggregate aggregate, held⟩

def resolveReconnectStep : ClientProcess :=
  match resolveLostReconnectAuthority aggregate with
  | .recorded aggregate _ | .refused aggregate => ⟨.aggregate aggregate, held⟩

def redeemStep (permit : ReconnectAttemptPermit) : ClientProcess :=
  match redeemAttempt aggregate permit with
  | .started aggregate attempt => ⟨.aggregate aggregate, .reconnectAttempt attempt :: held⟩
  | .refused aggregate permit _ => ⟨.aggregate aggregate, .permit permit :: held⟩

def attemptFateStep (attempt : ReconnectInProgressAttempt) (fate : ReconnectAttemptFate) : ClientProcess :=
  match recordAttemptFate aggregate attempt fate with
  | .recorded aggregate => ⟨.aggregate aggregate, held⟩
  | .refused aggregate attempt _ _ => ⟨.aggregate aggregate, .reconnectAttempt attempt :: held⟩

/-- The record of the aggregate is read back; nothing that was held survives. -/
def restoreStep : Option ClientProcess :=
  aggregate.facts.restore.toOption.map fun restored => ⟨.aggregate restored, []⟩

/-! ### The machine -/

def aggregateNext (held : List OneUse) : ClientAction → Option ClientProcess
  | .record request => some (recordStep aggregate held request)
  | .recoverExpectedOperation => some (recoverStep aggregate held)
  | .resolveLostOperation => some (resolveStep aggregate held)
  | .expectedOperationFate correlation => do
    let held ← spend held (.correlation correlation)
    return expectedFateStep aggregate held correlation
  | .transportAttemptStarted => some (attemptStartedStep aggregate held)
  | .transportFate correlation => do
    let held ← spend held (.correlation correlation)
    return replayStep held id (transportFate aggregate correlation)
  | .applyAttach attach correlation => do
    let held ← spend held (.correlation correlation)
    return replayStep held Prod.snd (applyAttach aggregate attach correlation)
  | .applyLeaveDurable leave correlation => do
    let held ← spend held (.correlation correlation)
    return replayStep held Prod.snd (applyLeaveDurable aggregate leave correlation)
  | .applyDetachOutcome outcome correlation => do
    let held ← spend held (.correlation correlation)
    return replayStep held Prod.snd (applyDetachOutcome aggregate outcome correlation)
  | .inbound value => some (inboundStep aggregate held value)
  | .correlatedInbound value correlation => do
    let held ← spend held (.correlation correlation)
    return correlatedInboundStep aggregate held value correlation
  | .takeAbandonment => some ⟨.aggregate aggregate.takeRestoredOperationAbandonment.1, held⟩
  | .freshEvent event => some (freshEventStep aggregate held event)
  | .recoverReconnectPermit => some (recoverPermitStep aggregate held)
  | .resolveLostReconnect => some (resolveReconnectStep aggregate held)
  | .redeemAttempt permit => do
    let held ← spend held (.permit permit)
    return redeemStep aggregate held permit
  | .attemptFate attempt fate => do
    let held ← spend held (.reconnectAttempt attempt)
    return attemptFateStep aggregate held attempt fate
  | .restore => restoreStep aggregate
  | _ => none

variable (process : ClientProcess)

/-- Sending turns an operation or an attempt into the correlation of its answer; it needs no aggregate. -/
def sendNext : ClientAction → Option ClientProcess
  | .send operation => do
    let held ← spend process.held (.operation operation)
    return ⟨process.root, .correlation operation.intoRequest.2 :: held⟩
  | .sendAttempt attempt => do
    let held ← spend process.held (.detachAttempt attempt)
    return ⟨process.root, .correlation attempt.intoRequest.2 :: held⟩
  | _ => none

def rootNext (action : ClientAction) : Option ClientProcess := match process.root, action with
  | .aggregate aggregate, action => aggregateNext aggregate process.held action
  | .pending record, .commit => some ⟨.commit record.commit, process.held⟩
  | .pending record, .abort => some ⟨.aggregate record.abort.1, process.held⟩
  | .commit commit, .release =>
    some ⟨.aggregate commit.intoParts.1, .operation commit.intoParts.2 :: process.held⟩
  | .commit commit, .restore => restoreStep commit.aggregate
  | _, _ => none

def processNext (action : ClientAction) : Option ClientProcess :=
  (sendNext process action).or (rootNext process action)

/-- A new client, or one restored from a record in the form that every decoded record has. -/
def processStart : Prop := process.held = [] ∧ (process.root = .aggregate .new ∨
    ∃ facts restored, DetachReplayState.refusalCanonical facts.replay = true ∧
      (∀ abandonment ∈ facts.abandonment, abandonment.request.isObserverRecovery = true) ∧
      DecodedFacts.restore facts = .ok restored ∧ process.root = .aggregate restored)

def clientMachine : Machine ClientProcess ClientAction where
  start := processStart
  next := processNext

/-! ### Reading a process -/

def ClientRoot.current : ClientRoot → ClientParticipantAggregate
  | .aggregate value => value
  | .pending record => record.successor
  | .commit value => value.aggregate

end Liminal.Client
