import Liminal.Client.Reconnect
import Liminal.Client.Replay
import Liminal.Library.Fallible

/-!
# Restoring a client from its facts

A client that restarts reads back and validates the facts of its last record. Then the restart is
written into the aggregate: issued operations and permits and running attempts have lost the
authority that was out, and a request without a token is given up. `Sound` is what the validation
checks together with what every decoded record has; it is the invariant of the client.
-/

namespace Liminal.Client

open Wire Fallible

structure DecodedFacts where
  binding : ClientBindingState
  nextOperationAuthorization : Nat
  expected : Option ExpectedOperationState
  replay : DetachReplayState
  reconnectState : ReconnectMachineState
  nextAuthorization : Nat
  reconnectLost : Option LostAuthorityKind
  abandonment : Option RestoredExpectedOperationAbandonment

def ClientParticipantAggregate.facts (aggregate : ClientParticipantAggregate) : DecodedFacts :=
  ⟨aggregate.binding, aggregate.nextOperationAuthorization, aggregate.expected,
    aggregate.detachReplay, aggregate.reconnect.state, aggregate.reconnect.nextAuthorization,
    aggregate.reconnect.lost, aggregate.restoredAbandonment⟩

inductive ClientResumeRestoreError
  | bindingGenerationMismatch
  | continuousAckOutstanding
  | replayTerminalMismatch
  | invalidOperationAuthorization
  | expectedBindingMismatch
  | activeReplayExpectedDetachMismatch
  | expectedDetachActiveReplayMismatch
  | invalidReconnectAuthorization
  | lostAuthorityTestimonyMismatch
  | pendingAbandonmentConflict

/-! ### Validation -/

def ClientBindingState.epochAgrees : ClientBindingState → Bool
  | bound _ _ generation _ bindingEpoch => generation = bindingEpoch.capabilityGeneration
  | _ => true

def terminalMatches (request : DetachEnvelope) : DetachReplayTerminal → Bool
  | .detachCommitted value => committedEnvelope value = request
  | .detachInProgress value => inProgressEnvelope value = request
  | .terminalizedDetachCell value => terminalizedEnvelope value = request
  -- a retained refusal is one the client would have correlated to this detach
  | .authorityRefused value => matchesRequest value (.detach request)

def DetachReplayState.terminalAgrees : DetachReplayState → Bool
  | recorded request (.terminal outcome) => terminalMatches request outcome
  | _ => true

def lostOperationKind : ClientRequest → LostAuthorityKind
  | .detach _ => .detachTransportAttempt
  | _ => .issuedOperationCorrelation

def ReconnectMachineState.authorization : ReconnectMachineState → Option Nat
  | permit authorization .. | attempt authorization _ => some authorization
  | _ => none

def ReconnectMachineState.lostKind : ReconnectMachineState → Option LostAuthorityKind
  | permit _ _ true => some .reconnectPermit
  | attempt .. => some .reconnectAttempt
  | _ => none

def validateReplayCoupling (expected : Option ExpectedOperationState) (replay : DetachReplayState) :
    Except ClientResumeRestoreError Unit :=
  match replay.active, expected.bind (·.detach) with
  | some active, some detach => require (active = detach) .activeReplayExpectedDetachMismatch
  | some _, none => .error .activeReplayExpectedDetachMismatch
  | none, some _ => .error .expectedDetachActiveReplayMismatch
  | none, none => .ok ()

variable (facts : DecodedFacts)

def validateTestimonyCoupling : Except ClientResumeRestoreError Unit := do
  require (∀ expected ∈ facts.expected, ∀ testimony ∈ expected.lost,
    expected.issued = true ∧ expected.request.isObserverRecovery = false ∧
      testimony = lostOperationKind expected.request) .lostAuthorityTestimonyMismatch
  require (∀ testimony ∈ facts.reconnectLost, facts.reconnectState.lostKind = some testimony)
    .lostAuthorityTestimonyMismatch
  require (facts.abandonment.isSome = true → ∀ expected ∈ facts.expected,
    expected.request.isObserverRecovery = false) .pendingAbandonmentConflict

def validateFacts : Except ClientResumeRestoreError Unit := do
  require (facts.binding.epochAgrees = true) .bindingGenerationMismatch
  require (∀ expected ∈ facts.expected, expected.request.isParticipantAck = false) .continuousAckOutstanding
  require (∀ expected ∈ facts.expected, 0 < expected.authorization ∧
    expected.authorization ≤ facts.nextOperationAuthorization) .invalidOperationAuthorization
  require (∀ expected ∈ facts.expected, facts.binding.acceptsRequest expected.request = true) .expectedBindingMismatch
  validateReplayCoupling facts.expected facts.replay
  require (facts.replay.terminalAgrees = true) .replayTerminalMismatch
  require (∀ authorization ∈ facts.reconnectState.authorization, 0 < authorization ∧
    authorization ≤ facts.nextAuthorization) .invalidReconnectAuthorization
  validateTestimonyCoupling facts

/-! ### Restoring -/

/-- The slot after a restart: a tokenless request is given up, an issued one has lost its authority. -/
def restoredExpected : Option ExpectedOperationState → Option ExpectedOperationState
  | some expected =>
    if expected.request.isObserverRecovery then none
    else if expected.issued then
      some { expected with lost := some (expected.lost.getD (lostOperationKind expected.request)) }
    else some expected
  | none => none

def restoredAbandonment : Option RestoredExpectedOperationAbandonment := match facts.expected with
  | some expected =>
    if expected.request.isObserverRecovery then
      some ⟨expected.request, .tokenlessAfterCrash, expected.issued⟩
    else facts.abandonment
  | none => facts.abandonment

def restoredReconnectLost : Option LostAuthorityKind :=
  facts.reconnectLost.or facts.reconnectState.lostKind

def DecodedFacts.rebuild : ClientParticipantAggregate :=
  { binding := facts.binding
    expected := restoredExpected facts.expected
    nextOperationAuthorization := facts.nextOperationAuthorization
    detachReplay := facts.replay
    reconnect := ⟨facts.reconnectState, facts.nextAuthorization, restoredReconnectLost facts⟩
    restoredAbandonment := restoredAbandonment facts }

def DecodedFacts.restore : Except ClientResumeRestoreError ClientParticipantAggregate := do
  validateFacts facts
  return facts.rebuild

/-! ### Soundness -/

/-- The values that have a terminal of their own and are never kept as a refusal. -/
def ownTerminal : ServerValue → Bool
  | .detachCommitted _ | .detachInProgress _ | .staleAuthority (.detach (.terminalizedDetachCell _)) => true
  | _ => false

def DetachReplayState.refusalCanonical : DetachReplayState → Bool
  | recorded _ (.terminal (.authorityRefused value)) => !ownTerminal value
  | _ => true

structure DecodedFacts.Sound (facts : DecodedFacts) : Prop where
  epoch : facts.binding.epochAgrees = true
  notAck : ∀ expected ∈ facts.expected, expected.request.isParticipantAck = false
  authorized : ∀ expected ∈ facts.expected, 0 < expected.authorization ∧
    expected.authorization ≤ facts.nextOperationAuthorization
  accepted : ∀ expected ∈ facts.expected, facts.binding.acceptsRequest expected.request = true
  coupled : facts.replay.active = facts.expected.bind (·.detach)
  terminal : facts.replay.terminalAgrees = true
  reconnectAuthorized : ∀ authorization ∈ facts.reconnectState.authorization,
    0 < authorization ∧ authorization ≤ facts.nextAuthorization
  testimony : ∀ expected ∈ facts.expected, ∀ testimony ∈ expected.lost,
    expected.issued = true ∧ expected.request.isObserverRecovery = false ∧
      testimony = lostOperationKind expected.request
  reconnectTestimony : ∀ testimony ∈ facts.reconnectLost, facts.reconnectState.lostKind = some testimony
  tokenless : facts.abandonment.isSome = true → ∀ expected ∈ facts.expected, expected.request.isObserverRecovery = false
  /-- A record keeps every value under its own tag, so that a state has one encoding. -/
  refusal : facts.replay.refusalCanonical = true
  abandoned : ∀ abandonment ∈ facts.abandonment, abandonment.request.isObserverRecovery = true

def ClientParticipantAggregate.Sound (aggregate : ClientParticipantAggregate) : Prop :=
  aggregate.facts.Sound

theorem validateReplayCoupling_eq_ok {u} : validateReplayCoupling expected replay = .ok u ↔
      replay.active = expected.bind (·.detach) := by
  unfold validateReplayCoupling
  cases replay.active <;> cases expected.bind (·.detach) <;> simp

/-- The validation checks exactly the first ten fields. -/
theorem DecodedFacts.Sound.validateFacts {facts : DecodedFacts} (h : facts.Sound) :
    Client.validateFacts facts = .ok () := by
  simp only [Client.validateFacts, validateTestimonyCoupling, ok_iff, validateReplayCoupling_eq_ok]
  exact ⟨h.epoch, h.notAck, h.authorized, h.accepted, h.coupled, h.terminal,
    h.reconnectAuthorized, h.testimony, h.reconnectTestimony, h.tokenless⟩

theorem DecodedFacts.sound_of_validateFacts {facts u}
    (h : Client.validateFacts facts = .ok u) (hrefusal : facts.replay.refusalCanonical = true)
    (habandoned : ∀ abandonment ∈ facts.abandonment, abandonment.request.isObserverRecovery = true) : facts.Sound := by
  simp only [Client.validateFacts, validateTestimonyCoupling, ok_iff, validateReplayCoupling_eq_ok] at h
  obtain ⟨epoch, notAck, authorized, accepted, coupled, terminal, reconnectAuthorized, testimony,
    reconnectTestimony, tokenless⟩ := h
  exact ⟨epoch, notAck, authorized, accepted, coupled, terminal, reconnectAuthorized, testimony,
    reconnectTestimony, tokenless, hrefusal, habandoned⟩

end Liminal.Client
