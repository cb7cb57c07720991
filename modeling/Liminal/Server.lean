import Liminal.Conversation

/-!
# The server's conversation

What the server keeps for one conversation: slots and frontier, the enrollment tokens, the next
participant index and the mark of a sealed conversation. Requests go through the operations of a
conversation by itself. Connection fates, terminal drains and the Leave of a pended binding are the
server's own: they measure the fate along the way, and what they make of the slot is not what they
make of the frontier.

The token of a pended death stays in its slot here. The observer progress is an argument of each
operation; receipts, durable logs and connection limits are left out.
-/

namespace Liminal

open Checked Fallible
open Wire (EnrollmentToken)

structure ConversationAuthority where
  conversation : Conversation
  tokens : List (EnrollmentToken × ParticipantId)
  nextParticipant : ParticipantId
  closed : Bool

inductive ServerOperation
  | enroll (token : EnrollmentToken) (slot : AllocatedParticipantSlot) (originBindingEpoch : BindingEpoch)
      (transactionOrder : TransactionOrder) (deliverySeq : DeliverySeq) (attachedCharge : RetainedRecordCharge)
  | request (operation : Operation)
  | connectionFate (participant : ParticipantId) (cause : TerminalCause) (transactionOrder : TransactionOrder)
      (deliverySeq : DeliverySeq) (terminalCharge : RetainedRecordCharge)
  | drainTerminal (participant : ParticipantId) (terminalCharge : RetainedRecordCharge)
  | leavePending (request : LeaveRequest) (secretProof : AttachSecretProof)
      (parameters : PendingLeaveCommitParameters) (terminalCharge leftCharge : RetainedRecordCharge)
  | reissue (participant : ParticipantId) (expectedCurrentGeneration : Generation)

/-- The operations of a conversation that the server runs as they are. An explicit detach that is blocked is
refused, so none is ever pended. -/
def Operation.isRequest : Operation → Bool
  | .attachDetached .. | .attachSuperseding .. | .attachFenced .. | .detach .. | .admitRecord ..
  | .drainMarker .. | .ack .. | .ackNonzero .. | .ackMarker .. | .leave .. => true
  | _ => false

namespace ConversationAuthority

variable (a : ConversationAuthority)

/-- A sealed conversation has given its frontier up. -/
def frontier : Option LiveFrontierOwner :=
  if a.closed then none else some a.conversation.owner

/-- An exact token is a replay, and a sealed conversation refuses everybody. -/
def enroll (token : EnrollmentToken) (slot : AllocatedParticipantSlot)
    (originBindingEpoch : BindingEpoch) (transactionOrder : TransactionOrder)
    (deliverySeq : DeliverySeq) (attachedCharge : RetainedRecordCharge) : Option ConversationAuthority := do
  guard (a.closed = false ∧ slot.participantId = a.nextParticipant ∧ ∀ mapped ∈ a.tokens, mapped.1 ≠ token)
  let conversation ← a.conversation.enroll slot originBindingEpoch transactionOrder deliverySeq attachedCharge
  return { a with
    conversation
    tokens := a.tokens ++ [(token, slot.participantId)]
    nextParticipant := slot.participantId + 1 }

def request (operation : Operation) : Option ConversationAuthority := do
  guard (a.closed = false ∧ operation.isRequest = true)
  let conversation ← a.conversation.apply operation
  return { a with conversation }

/-! ### Connection fates -/

variable (owner : LiveFrontierOwner)

/-- A committed death is measured at once; a pended one only if its token is a recovered one, whose floor is
then projected too. -/
def measureSpecificFate (token : SealedBindingFateToken) (terminal : Option CommittedDiedTerminal)
    (hardObserverProgress : DeliverySeq) : Option (LiveFrontierOwner × Option DeliverySeq) :=
  match token.intent, terminal with
  | some .ordinary, some terminal => do
    let (owner, _) ← (owner.prepareBindingFate token (.ordinary terminal) hardObserverProgress).toOption
    return (owner, none)
  | some .ordinary, none => some (owner, none)
  | some (.recovered ..), some _ => do
    let (owner, _) ← (owner.prepareBindingFate token .recovered hardObserverProgress).toOption
    return (owner, none)
  | some (.recovered ..), none => do
    let (owner, fate) ← (owner.prepareBindingFate token .recoveredAndReserveFinalizer hardObserverProgress).toOption
    return (owner, some fate.observerProgressProjection)
  | none, _ => none

def measureCause (slot : ParticipantSlot) (cause : TerminalCause) (terminal : DiedCause → Option CommittedDiedTerminal)
    (hardObserverProgress : DeliverySeq) : Option (LiveFrontierOwner × Option DeliverySeq) :=
  match cause, slot.fateToken with
  | .died died, some token => measureSpecificFate owner token (terminal died) hardObserverProgress
  | _, _ => some (owner, none)

def openToken (cause : TerminalCause) (token : Option SealedBindingFateToken) : Option SealedBindingFateToken :=
  (Conversation.survivingToken cause token).filter fun token => token.intent = some .ordinary

variable (participant : ParticipantId)

/-- The connection of a bound participant is gone. The slot's binding ends; its member is left as it is. -/
def completeTarget (cause : TerminalCause) (transactionOrder : TransactionOrder) (deliverySeq : DeliverySeq)
    (terminalCharge : RetainedRecordCharge) : Option ConversationAuthority := do
  let owner ← a.frontier
  let slot ← a.conversation.slot? participant
  match slot.binding with
  | .bound active => do
    let progress := a.conversation.observerProgress
    let prepared ← (owner.prepareBindingTerminal active transactionOrder deliverySeq progress).toOption
    match prepared.admitTerminal terminalCharge with
    | .commit admitted => do
      let (owner, _) ← measureCause admitted slot cause (fun died => some
        ⟨.fromActive active transactionOrder, died, deliverySeq⟩) (max progress deliverySeq)
      let ended : ParticipantSlot := { slot with binding := .detached, fateToken := none }
      return { a with conversation := a.conversation.commit ended owner (some deliverySeq) }
    | .pending admitted _ => do
      let (owner, projection) ← measureCause admitted slot cause (fun _ => none) progress
      let pended : ParticipantSlot := { slot with
        binding := .pendingFinalization (active.pendTerminal cause transactionOrder)
        fateToken := openToken cause slot.fateToken }
      return { a with conversation := a.conversation.commit pended owner projection }
    | .refused _ => none
  | _ => none

/-! ### Finalization -/

/-- The ordinary fate of a pended death, measured before the transaction that finalizes its terminal. -/
def preparePendingDiedFinalizer (slot : ParticipantSlot) (pending : PendingFinalization) :
    Option (Option LiveFrontierOwner.PendingDiedOrdinaryFinalizer) :=
  match pending, slot.fateToken with
  | .died died, some token => do
    let deliverySeq ← add u64Max a.conversation.owner.frontiers.high 1
    let (_, finalizer) ← (a.conversation.owner.preparePendingDiedOrdinaryFinalizer token
      ⟨died.identity, died.cause, deliverySeq⟩ a.conversation.observerProgress).toOption
    return some finalizer
  | _, _ => some none

/-- The measured floor is installed last. It takes the frontier, which a sealed conversation has no longer. -/
def completePreparedOrdinaryFinalizer (finalizer : Option LiveFrontierOwner.PendingDiedOrdinaryFinalizer) :
    Option ConversationAuthority :=
  match finalizer with
  | none => some a
  | some finalizer => do
    let owner ← a.frontier
    let owner ← (owner.completePendingDiedOrdinaryFinalizer finalizer).toOption
    return { a with conversation := { a.conversation with owner } }

/-- The slot of a drained death is erased with its token. Whoever loses the last token loses the frontier. -/
def releaseDrainedBindingSlot : ConversationAuthority :=
  let tokens := a.tokens.filter fun mapped => mapped.2 ≠ participant
  { a with
    conversation := { a.conversation with
      slots := a.conversation.slots.filter fun slot => slot.participantId ≠ participant }
    tokens
    closed := a.closed || tokens.isEmpty }

/-- A drained terminal: a death releases the slot, a detach is committed in its place. -/
def settleDrainedBindingSlot (slot : ParticipantSlot) (pending : PendingFinalization) (owner : LiveFrontierOwner)
    (deliverySeq : DeliverySeq) : Option ConversationAuthority :=
  match pending with
  | .died _ =>
    some (releaseDrainedBindingSlot { a with
      conversation := a.conversation.commit slot owner (some deliverySeq) } slot.participantId)
  | .detached _ => do
    let settled ← Conversation.settleTerminal slot pending deliverySeq
    return { a with conversation := a.conversation.commit settled owner (some deliverySeq) }

def persistTerminalDrain (terminalCharge : RetainedRecordCharge) : Option ConversationAuthority := do
  let owner ← a.frontier
  let slot ← a.conversation.slot? participant
  match slot.binding with
  | .pendingFinalization pending => do
    let finalizer ← a.preparePendingDiedFinalizer slot pending
    let (owner, deliverySeq) ← (owner.drainPendingTerminal pending terminalCharge).toOption
    let settled ← a.settleDrainedBindingSlot slot pending owner deliverySeq
    settled.completePreparedOrdinaryFinalizer finalizer
  | _ => none

/-- The Leave of a pended binding. The token stays mapped: it is that of a retired identity now. -/
def leavePending (request : LeaveRequest) (secretProof : AttachSecretProof) (parameters : PendingLeaveCommitParameters)
    (terminalCharge leftCharge : RetainedRecordCharge) : Option ConversationAuthority := do
  guard (a.closed = false)
  let slot ← a.conversation.slot? request.participantId
  match slot.binding with
  | .pendingFinalization pending => do
    let finalizer ← a.preparePendingDiedFinalizer slot pending
    let conversation ← a.conversation.leavePending request secretProof parameters terminalCharge leftCharge
    { a with conversation }.completePreparedOrdinaryFinalizer finalizer
  | _ => none

/-! ### Credential re-issue -/

/-- A detached member gets a new credential, unless its committed detach can still be replayed. -/
def reissue (expectedCurrentGeneration : Generation) : Option ConversationAuthority := do
  guard (a.closed = false)
  let slot ← a.conversation.slot? participant
  match slot.binding, slot.detachCell with
  | .detached, .committed _ => none
  | .detached, _ => do
    guard (slot.member.generation = expectedCurrentGeneration)
    let generation ← add u64Max slot.member.generation 1
    let reissued : ParticipantSlot := { slot with member := { slot.member with generation } }
    return { a with conversation := a.conversation.commit reissued a.conversation.owner none }
  | _, _ => none

/-! ### The machine -/

def apply : ServerOperation → Option ConversationAuthority
  | .enroll token slot epoch order seq charge => a.enroll token slot epoch order seq charge
  | .request operation => a.request operation
  | .connectionFate participant cause order seq charge =>
    a.completeTarget participant cause order seq charge
  | .drainTerminal participant charge => a.persistTerminalDrain participant charge
  | .leavePending request proof parameters terminalCharge leftCharge =>
    a.leavePending request proof parameters terminalCharge leftCharge
  | .reissue participant generation => a.reissue participant generation

def IsGenesis : Prop :=
  a.conversation.IsGenesis ∧ ∃ token, a.tokens = [(token, 0)] ∧ a.nextParticipant = 1 ∧ a.closed = false

end ConversationAuthority

def serverMachine : Machine ConversationAuthority ServerOperation where
  start := ConversationAuthority.IsGenesis
  next := ConversationAuthority.apply

end Liminal
