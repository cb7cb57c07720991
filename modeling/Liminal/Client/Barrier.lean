import Liminal.Client.Aggregate

/-!
# Recording an operation

A request is recorded (and can be aborted), committed (and persisted), and then released, which
hands out the one authority to send it. After a restart an unreleased operation is recovered, and
one whose authority was lost is resolved through its testimony. Acknowledgements pass through
without touching the slot.
-/

namespace Liminal.Client

open Wire Checked

structure ExpectedParticipantOperation where
  request : ClientRequest
  authorization : Nat
deriving DecidableEq

structure ClientResponseCorrelation where
  authorization : Nat
deriving DecidableEq

def ExpectedParticipantOperation.intoRequest (operation : ExpectedParticipantOperation) :
    ClientRequest × ClientResponseCorrelation :=
  (operation.request, ⟨operation.authorization⟩)

inductive ClientOperationRecordRefusalReason
  | outstandingOperation
  | detachReplayOutstanding
  | detachReplayIncompatible
  | abandonmentPending
  | bindingMismatch
  | alreadyDead
  | authorizationExhausted
deriving DecidableEq

/-- A recorded operation that is not durable yet, with what an abort has to put back. -/
structure ClientPendingOperationRecord where
  successor : ClientParticipantAggregate
  operation : ExpectedParticipantOperation
  priorReplay : Option DetachReplayState
deriving DecidableEq

structure ClientOperationCommit where
  aggregate : ClientParticipantAggregate
  operation : ExpectedParticipantOperation
deriving DecidableEq

variable (record : ClientPendingOperationRecord)

def ClientPendingOperationRecord.commit : ClientOperationCommit :=
  ⟨record.successor, record.operation⟩

def ClientPendingOperationRecord.abort : ClientParticipantAggregate × ClientRequest :=
  ({ record.successor with
      expected := none
      nextOperationAuthorization := record.operation.authorization - 1
      detachReplay := record.priorReplay.getD record.successor.detachReplay }, record.operation.request)

def markStarted (request : ClientRequest) (replay : DetachReplayState) : DetachReplayState :=
  match request with
  | .detach _ => replay.markInitialAttemptStarted
  | _ => replay

def ClientOperationCommit.intoParts (commit : ClientOperationCommit) :
    ClientParticipantAggregate × ExpectedParticipantOperation :=
  ({ commit.aggregate with
      expected := commit.aggregate.expected.map fun expected => { expected with issued := true }
      detachReplay := markStarted commit.operation.request commit.aggregate.detachReplay }, commit.operation)

inductive RecoveredExpectedOperationDecision
  | recovered (aggregate : ClientParticipantAggregate) (operation : ExpectedParticipantOperation)
  | notAvailable (aggregate : ClientParticipantAggregate) (alreadyIssued : Bool)

variable (aggregate : ClientParticipantAggregate)

def recoverExpectedOperation : RecoveredExpectedOperationDecision := match aggregate.expected with
  | none => .notAvailable aggregate false
  | some expected =>
    if expected.issued then .notAvailable aggregate true
    else .recovered { aggregate with
        expected := some { expected with issued := true }
        detachReplay := markStarted expected.request aggregate.detachReplay }
      ⟨expected.request, expected.authorization⟩

inductive LostOperationAuthorityDecision
  | recorded (aggregate : ClientParticipantAggregate) (request : ClientRequest) (testimony : LostAuthorityKind)
  | detachParked (aggregate : ClientParticipantAggregate) (request : ClientRequest) (testimony : LostAuthorityKind)
  | refused (aggregate : ClientParticipantAggregate)

def DetachReplayState.park : DetachReplayState → DetachReplayState
  | .recorded request _ => .recorded request .parked
  | .empty => .empty

def resolveLostOperationAuthority : LostOperationAuthorityDecision := match aggregate.expected with
  | none => .refused aggregate
  | some expected =>
    match expected.lost with
    | none => .refused aggregate
    | some testimony =>
      match expected.request with
      | .detach request => .detachParked { aggregate with
            expected := some { expected with issued := false, lost := none }
            detachReplay := aggregate.detachReplay.park }
          (.detach request) testimony
      | request => .recorded { aggregate with expected := none } request testimony

inductive ExpectedOperationFateRefusalReason
  | noIssuedOperation
  | staleCorrelation
  | detachUsesReplayFate
  | lostAuthorityPending

inductive ExpectedOperationFateDecision
  | recorded (aggregate : ClientParticipantAggregate) (request : ClientRequest)
  | refused (aggregate : ClientParticipantAggregate) (correlation : ClientResponseCorrelation)
      (reason : ExpectedOperationFateRefusalReason)

def recordExpectedOperationFate (correlation : ClientResponseCorrelation) : ExpectedOperationFateDecision :=
  match aggregate.expected with
  | none => .refused aggregate correlation .noIssuedOperation
  | some expected =>
    if ¬expected.issued then .refused aggregate correlation .noIssuedOperation
    else if expected.lost.isSome then .refused aggregate correlation .lostAuthorityPending
    else if expected.authorization ≠ correlation.authorization then
      .refused aggregate correlation .staleCorrelation
    else
      match expected.request with
      | .detach _ => .refused aggregate correlation .detachUsesReplayFate
      | request => .recorded { aggregate with expected := none } request

inductive ClientOperationRecordDecision
  | pending (record : ClientPendingOperationRecord)
  | continuous (aggregate : ClientParticipantAggregate) (operation : ExpectedParticipantOperation)
  | refused (aggregate : ClientParticipantAggregate) (request : ClientRequest)
      (reason : ClientOperationRecordRefusalReason)
deriving DecidableEq

/-- The replay with the detach recorded in it, and the state an abort puts back. -/
def admitDetachReplay (replay : DetachReplayState) (request : ClientRequest) :
    Except ClientOperationRecordRefusalReason (DetachReplayState × Option DetachReplayState) :=
  match request with
  | .detach envelope =>
    match replay with
    | .empty => .ok (.recorded envelope .parked, some .empty)
    | .recorded retained status =>
      if retained = envelope then
        if status = .parked then .ok (.recorded retained status, some (.recorded retained status))
        else .error .detachReplayIncompatible
      else if (DetachReplayState.recorded retained status).canReplaceWith envelope then
        .ok (.recorded envelope .parked, some (.recorded retained status))
      else .error .detachReplayOutstanding
  | _ => .ok (replay, none)

def recordOperation (request : ClientRequest) : ClientOperationRecordDecision :=
  if ¬aggregate.binding.acceptsRequest request then
    .refused aggregate request (if aggregate.binding.isLeft then .alreadyDead else .bindingMismatch)
  else if request.isParticipantAck then .continuous aggregate ⟨request, 0⟩
  else if aggregate.expected.isSome then .refused aggregate request .outstandingOperation
  else if aggregate.restoredAbandonment.isSome ∧ request.isObserverRecovery then
    .refused aggregate request .abandonmentPending
  else
    match add u64Max aggregate.nextOperationAuthorization 1 with
    | none => .refused aggregate request .authorizationExhausted
    | some authorization =>
      match admitDetachReplay aggregate.detachReplay request with
      | .error reason => .refused aggregate request reason
      | .ok (replay, priorReplay) => .pending
          { successor := { aggregate with
              detachReplay := replay
              nextOperationAuthorization := authorization
              expected := some ⟨request, false, authorization, none⟩ }
            operation := ⟨request, authorization⟩
            priorReplay := priorReplay }

end Liminal.Client
