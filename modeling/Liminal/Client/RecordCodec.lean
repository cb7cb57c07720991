import Liminal.Client.Resume
import Liminal.Wire.Frame

/-!
# The resume record

The bytes a client persists: a magic, a version, a length, and the parts of the aggregate. Requests
and terminal answers are stored as whole frames; every choice is a byte, and an unassigned one is
refused at once.

A record is written only if the active detach replay and the awaited operation name the same detach;
whether the detach is out is not checked there.
-/

namespace Liminal.Client

open Wire Codec Fallible Get

inductive ClientResumeRecordSection
  | binding
  | expectedOperation
  | detachReplay
  | reconnect
  | abandonment

inductive ClientResumeRecordEncodeError
  | nestedCodec (recordSection : ClientResumeRecordSection) (source : CodecError)
  | lengthOverflow
  | decoupledDetachReplay

inductive ClientResumeRecordDecodeError
  | truncated (needed remaining : Nat)
  | invalidMagic (presented : Bytes)
  | unsupportedVersion (presented : Nat)
  | lengthMismatch (declared actual : Nat)
  | invalidTag (recordSection : ClientResumeRecordSection) (tag : Nat)
  | nestedCodec (recordSection : ClientResumeRecordSection) (source : Option CodecError)
  | invalidAbandonmentRequest (request : ClientDiscriminant)
  | trailingBytes (remaining : Nat)

namespace Record

abbrev RecordPut := Put ClientResumeRecordEncodeError
abbrev RecordGet := Get ClientResumeRecordDecodeError

/-! ### Fields -/

/-- `LPCR` -/
def magic : Bytes := [0x4C, 0x50, 0x43, 0x52]
def version : Nat := 1

-- a number outside its type has no encoding; the source cannot hold one
variable (value : Nat)

def putU8 : RecordPut := .unsigned .lengthOverflow 1 value
def putU16 : RecordPut := .unsigned .lengthOverflow 2 value
def putU64 : RecordPut := .unsigned .lengthOverflow 8 value
def putToken : RecordPut := .unsigned .lengthOverflow tokenLen value
def putSecret : RecordPut := .unsigned .lengthOverflow secretLen value

def takeU8 : RecordGet Nat := .unsigned .truncated 1
def takeU16 : RecordGet Nat := .unsigned .truncated 2
def takeU64 : RecordGet Nat := .unsigned .truncated 8
def takeToken : RecordGet Nat := .unsigned .truncated tokenLen
def takeSecret : RecordGet Nat := .unsigned .truncated secretLen

def putBool (value : Bool) : RecordPut := putU8 (if value then 1 else 0)

variable (recordSection : ClientResumeRecordSection)

def takeBool : RecordGet Bool := do
  match ← takeU8 with
  | 0 => return false
  | 1 => return true
  | tag => fail (.invalidTag recordSection tag)

def putGeneration (generation : Generation) : RecordPut :=
  if generation = 0 then .error .lengthOverflow else putU64 generation

def takeGeneration : RecordGet Generation := do
  let generation ← takeU64
  require (generation ≠ 0) (.nestedCodec recordSection none)
  return generation

def putEpoch (epoch : BindingEpoch) : RecordPut :=
  .seq [putU64 epoch.connectionIncarnation.serverIncarnation,
    putU64 epoch.connectionIncarnation.connectionOrdinal, putGeneration epoch.capabilityGeneration]

def takeEpoch : RecordGet BindingEpoch := do
  return ⟨⟨← takeU64, ← takeU64⟩, ← takeGeneration .binding⟩

def putBlob (bytes : Bytes) : RecordPut := .seq [putU64 bytes.length, .ok bytes]

def takeBlob : RecordGet Bytes := do
  let length ← takeU64
  take .truncated length

variable (frame : ParticipantFrame)

def encodeFrame (recordSection : ClientResumeRecordSection) : Except ClientResumeRecordEncodeError Bytes := do
  let length ← (encodedLen frame).mapError (.nestedCodec recordSection)
  let (written, bytes) ←
    (encode frame (List.replicate length 0)).mapError (.nestedCodec recordSection)
  return bytes.take written

def putFrame (recordSection : ClientResumeRecordSection) : Except ClientResumeRecordEncodeError Bytes := do
  let bytes ← encodeFrame frame recordSection
  putBlob bytes

def takeRequest : RecordGet ClientRequest := do
  let bytes ← takeBlob
  match decode bytes .server with
  | .ok (.clientRequest request) => return request
  | .ok _ => fail (.nestedCodec recordSection none)
  | .error source => fail (.nestedCodec recordSection (some source))

/-! ### Sections -/

def encodeBinding : ClientBindingState → RecordPut
  | .unbound => .seq [putU8 0]
  | .bound conversationId participantId generation attachSecret bindingEpoch =>
    .seq [putU8 1, putU64 conversationId, putU64 participantId, putGeneration generation,
      putSecret attachSecret, putEpoch bindingEpoch]
  | .detached conversationId participantId generation attachSecret =>
    .seq [putU8 2, putU64 conversationId, putU64 participantId, putGeneration generation, putSecret attachSecret]
  | .left conversationId participantId generation =>
    .seq [putU8 3, putU64 conversationId, putU64 participantId, putGeneration generation]

def decodeBinding : RecordGet ClientBindingState := do
  match ← takeU8 with
  | 0 => return .unbound
  | 1 => return .bound (← takeU64) (← takeU64) (← takeGeneration .binding) (← takeSecret) (← takeEpoch)
  | 2 => return .detached (← takeU64) (← takeU64) (← takeGeneration .binding) (← takeSecret)
  | 3 => return .left (← takeU64) (← takeU64) (← takeGeneration .binding)
  | tag => fail (.invalidTag .binding tag)

def encodeTestimony : Option LostAuthorityKind → RecordPut
  | none => putU8 0
  | some .issuedOperationCorrelation => putU8 1
  | some .detachTransportAttempt => putU8 2
  | some .reconnectPermit => putU8 3
  | some .reconnectAttempt => putU8 4

def decodeTestimony : RecordGet (Option LostAuthorityKind) := do
  match ← takeU8 with
  | 0 => return none
  | 1 => return some .issuedOperationCorrelation
  | 2 => return some .detachTransportAttempt
  | 3 => return some .reconnectPermit
  | 4 => return some .reconnectAttempt
  | tag => fail (.invalidTag recordSection tag)

def encodeExpected : Option ExpectedOperationState → RecordPut
  | none => .seq [putU8 0]
  | some expected => .seq [putU8 1, putBool expected.issued, putU64 expected.authorization,
      encodeTestimony expected.lost, putFrame (.clientRequest expected.request) .expectedOperation]

def decodeExpected : RecordGet (Option ExpectedOperationState) := do
  match ← takeU8 with
  | 0 => return none
  | 1 => do
    let issued ← takeBool .expectedOperation
    let authorization ← takeU64
    let lost ← decodeTestimony .expectedOperation
    return some ⟨← takeRequest .expectedOperation, issued, authorization, lost⟩
  | tag => fail (.invalidTag .expectedOperation tag)

def replayTag : DetachReplayStatus → Nat × Option ServerValue
  | .parked => (1, none)
  | .inFlight => (2, none)
  | .superseded => (3, none)
  | .leaveSuperseded => (4, none)
  | .terminal (.detachCommitted value) => (5, some (.detachCommitted value))
  | .terminal (.detachInProgress value) => (6, some (.detachInProgress value))
  | .terminal (.terminalizedDetachCell value) =>
    (7, some (.staleAuthority (.detach (.terminalizedDetachCell value))))
  | .terminal (.authorityRefused value) => (8, some value)

def putTerminal : Option ServerValue → RecordPut
  | some value => putFrame (.serverValue value) .detachReplay
  | none => .seq []

def encodeReplay : DetachReplayState → RecordPut
  | .empty => .seq [putU8 0]
  | .recorded request status => .seq [putU8 (replayTag status).1, putU64 request.conversationId,
      putU64 request.participantId, putGeneration request.capabilityGeneration,
      putToken request.detachAttemptToken, putTerminal (replayTag status).2]

/-- A value that has a tag of its own is refused under the tag of the other refusals. -/
def terminalOf (tag : Nat) (value : ServerValue) : Option DetachReplayTerminal :=
  match tag, value with
  | 5, .detachCommitted value => some (.detachCommitted value)
  | 6, .detachInProgress value => some (.detachInProgress value)
  | 7, .staleAuthority (.detach (.terminalizedDetachCell value)) =>
    some (.terminalizedDetachCell value)
  | 8, value => if ownTerminal value then none else some (.authorityRefused value)
  | _, _ => none

def decodeTerminal (tag : Nat) : RecordGet DetachReplayStatus := do
  let bytes ← takeBlob
  match decode bytes .client with
  | .ok (.serverValue value) => return .terminal (← orFail (.nestedCodec .detachReplay none) (terminalOf tag value))
  | .ok _ => fail (.nestedCodec .detachReplay none)
  | .error source => fail (.nestedCodec .detachReplay (some source))

def decodeReplayStatus : Nat → RecordGet DetachReplayStatus
  | 1 => return .parked
  | 2 => return .inFlight
  | 3 => return .superseded
  | 4 => return .leaveSuperseded
  | tag => decodeTerminal tag

def decodeReplay : RecordGet DetachReplayState := do
  let tag ← takeU8
  if tag = 0 then return .empty
  else do
    require (tag ≤ 8) (.invalidTag .detachReplay tag)
    return .recorded ⟨← takeU64, ← takeU64, ← takeGeneration .detachReplay, ← takeToken⟩ (← decodeReplayStatus tag)

def encodeEvent : ReconnectFreshEvent → RecordPut
  | .transportFate => putU8 0
  | .onlineTransition => putU8 1
  | .explicitCallerAction => putU8 2

def decodeEvent : RecordGet ReconnectFreshEvent := do
  match ← takeU8 with
  | 0 => return .transportFate
  | 1 => return .onlineTransition
  | 2 => return .explicitCallerAction
  | tag => fail (.invalidTag .reconnect tag)

def encodeReconnectState : ReconnectMachineState → RecordPut
  | .parked => .seq [putU8 0]
  | .permit authorization event issued =>
    .seq [putU8 1, putU64 authorization, encodeEvent event, putBool issued]
  | .attempt authorization event => .seq [putU8 2, putU64 authorization, encodeEvent event]
  | .online => .seq [putU8 3]

def decodeReconnectState : RecordGet ReconnectMachineState := do
  match ← takeU8 with
  | 0 => return .parked
  | 1 => return .permit (← takeU64) (← decodeEvent) (← takeBool .reconnect)
  | 2 => return .attempt (← takeU64) (← decodeEvent)
  | 3 => return .online
  | tag => fail (.invalidTag .reconnect tag)

def encodeReconnect (reconnect : ReconnectAggregate) : RecordPut :=
  .seq [putU64 reconnect.nextAuthorization, encodeReconnectState reconnect.state, encodeTestimony reconnect.lost]

def decodeReconnect : RecordGet ReconnectAggregate := do
  let nextAuthorization ← takeU64
  return ⟨← decodeReconnectState, nextAuthorization, ← decodeTestimony .reconnect⟩

def encodeAbandonment : Option RestoredExpectedOperationAbandonment → RecordPut
  | none => .seq [putU8 0]
  | some abandonment => .seq [putU8 1, putU8 0, putBool abandonment.wasIssued,
      putFrame (.clientRequest abandonment.request) .abandonment]

def decodeAbandonment : RecordGet (Option RestoredExpectedOperationAbandonment) := do
  match ← takeU8 with
  | 0 => return none
  | 1 => do
    let reason ← takeU8
    require (reason = 0) (.invalidTag .abandonment reason)
    let wasIssued ← takeBool .abandonment
    let request ← takeRequest .abandonment
    require (request.isObserverRecovery = true) (.invalidAbandonmentRequest request.discriminant)
    return some ⟨request, .tokenlessAfterCrash, wasIssued⟩
  | tag => fail (.invalidTag .abandonment tag)

/-! ### The record -/

variable (aggregate : ClientParticipantAggregate)

def encodeSections : RecordPut :=
  .seq [encodeBinding aggregate.binding, putU64 aggregate.nextOperationAuthorization,
    encodeExpected aggregate.expected, encodeReplay aggregate.detachReplay,
    encodeReconnect aggregate.reconnect, encodeAbandonment aggregate.restoredAbandonment]

def encodeAggregate : Except ClientResumeRecordEncodeError Bytes := do
  let payload ← encodeSections aggregate
  Put.seq [.ok magic, putU16 version, putU64 payload.length, .ok payload]

def takeSections : RecordGet DecodedFacts := do
  let binding ← decodeBinding
  let nextOperationAuthorization ← takeU64
  let expected ← decodeExpected
  let replay ← decodeReplay
  let reconnect ← decodeReconnect
  return ⟨binding, nextOperationAuthorization, expected, replay, reconnect.state, reconnect.nextAuthorization,
    reconnect.lost, ← decodeAbandonment⟩

def takeEnvelope : RecordGet Nat := do
  let presented ← take .truncated 4
  require (presented = magic) (.invalidMagic presented)
  let presentedVersion ← takeU16
  require (presentedVersion = version) (.unsupportedVersion presentedVersion)
  takeU64

def decodeFacts (input : Bytes) : Except ClientResumeRecordDecodeError DecodedFacts := do
  let (declared, payload) ← takeEnvelope ⟨input, false⟩
  require (declared = payload.rest.length) (.lengthMismatch declared payload.rest.length)
  let (facts, remaining) ← takeSections payload
  require (remaining.rest.length = 0) (.trailingBytes remaining.rest.length)
  return facts

end Record

/-! ### Operations -/

structure ClientResumeRecord where
  canonical : Bytes

def ClientResumeRecord.decodeCanonical (input : Bytes) : Except ClientResumeRecordDecodeError ClientResumeRecord := do
  let _facts ← Record.decodeFacts input
  return ⟨input⟩

/-- The source has one enumeration for both. -/
inductive ClientResumeRecordRestoreError
  | corruptRecord (error : ClientResumeRecordDecodeError)
  | invalid (error : ClientResumeRestoreError)

def ClientResumeRecord.restore (record : ClientResumeRecord) :
    Except ClientResumeRecordRestoreError ClientParticipantAggregate := do
  let facts ← (Record.decodeFacts record.canonical).mapError .corruptRecord
  facts.restore.mapError .invalid

/-- Only the request of the active replay is compared, not whether it is out. -/
def validateLiveReplayCoupling (expected : Option ExpectedOperationState)
    (replay : DetachReplayState) : Except ClientResumeRecordEncodeError Unit :=
  match replay.active.map Prod.fst, (expected.bind (·.detach)).map Prod.fst with
  | some request, some value => require (value = request) .decoupledDetachReplay
  | none, none => .ok ()
  | _, _ => .error .decoupledDetachReplay

def ClientParticipantAggregate.resumeRecord (aggregate : ClientParticipantAggregate) :
    Except ClientResumeRecordEncodeError ClientResumeRecord := do
  validateLiveReplayCoupling aggregate.expected aggregate.detachReplay
  return ⟨← Record.encodeAggregate aggregate⟩

def ClientOperationCommit.resumeRecord (commit : ClientOperationCommit) :
    Except ClientResumeRecordEncodeError ClientResumeRecord :=
  commit.aggregate.resumeRecord

end Liminal.Client
