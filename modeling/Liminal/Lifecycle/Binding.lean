import Liminal.Wire.Primitives

/-!
# Bindings and their terminals

A binding ties a participant to one connection. It ends once: by a clean detach, by being
superseded, or by a death. The end is committed with its position in the log, or pended when the log
has no room for it yet.
-/

namespace Liminal

structure ActiveBinding where
  participantId : ParticipantId
  conversationId : ConversationId
  bindingEpoch : BindingEpoch
deriving DecidableEq

inductive DetachedCause
  | cleanDeregister
  | superseded
  | serverShutdown
deriving DecidableEq

inductive DiedCause
  | connectionLost
  | processKilled
  | protocolError
  | uncleanServerRestart (priorServerIncarnation : Nat)
deriving DecidableEq

structure BindingTerminalIdentity where
  participantId : ParticipantId
  conversationId : ConversationId
  bindingEpoch : BindingEpoch
  admissionOrder : AdmissionOrder
deriving DecidableEq

def BindingTerminalIdentity.fromActive (binding : ActiveBinding) (transactionOrder : TransactionOrder) :
    BindingTerminalIdentity where
  participantId := binding.participantId
  conversationId := binding.conversationId
  bindingEpoch := binding.bindingEpoch
  admissionOrder := .bindingTerminal transactionOrder binding.participantId

structure CommittedDetachedTerminal where
  identity : BindingTerminalIdentity
  cause : DetachedCause
  deliverySeq : DeliverySeq
deriving DecidableEq

structure CommittedDiedTerminal where
  identity : BindingTerminalIdentity
  cause : DiedCause
  deliverySeq : DeliverySeq
deriving DecidableEq

inductive CommittedBindingTerminal
  | detached (terminal : CommittedDetachedTerminal)
  | died (terminal : CommittedDiedTerminal)
deriving DecidableEq

namespace CommittedBindingTerminal

def identity : CommittedBindingTerminal → BindingTerminalIdentity
  | .detached terminal | .died terminal => terminal.identity

def deliverySeq : CommittedBindingTerminal → DeliverySeq
  | .detached terminal | .died terminal => terminal.deliverySeq

def detachedCause : CommittedBindingTerminal → Option DetachedCause
  | .detached terminal => some terminal.cause
  | .died _ => none

end CommittedBindingTerminal

structure PendingDetachedFinalization where
  identity : BindingTerminalIdentity
  cause : DetachedCause
deriving DecidableEq

structure PendingDiedFinalization where
  identity : BindingTerminalIdentity
  cause : DiedCause
deriving DecidableEq

inductive PendingFinalization
  | detached (pending : PendingDetachedFinalization)
  | died (pending : PendingDiedFinalization)
deriving DecidableEq

namespace PendingFinalization

def identity : PendingFinalization → BindingTerminalIdentity
  | .detached pending | .died pending => pending.identity

def detachedCause : PendingFinalization → Option DetachedCause
  | .detached pending => some pending.cause
  | .died _ => none

def commit : PendingFinalization → DeliverySeq → CommittedBindingTerminal
  | .detached pending, deliverySeq => .detached ⟨pending.identity, pending.cause, deliverySeq⟩
  | .died pending, deliverySeq => .died ⟨pending.identity, pending.cause, deliverySeq⟩

@[simp] theorem commit_identity (pending : PendingFinalization) (deliverySeq : DeliverySeq) :
    (pending.commit deliverySeq).identity = pending.identity := by
  cases pending <;> rfl

end PendingFinalization

inductive BindingState
  | detached
  | bound (binding : ActiveBinding)
  | pendingFinalization (pending : PendingFinalization)
deriving DecidableEq

/-- Why a binding ends without its participant asking for it, or because the connection deregistered. -/
inductive TerminalCause
  | detached (cause : DetachedCause)
  | died (cause : DiedCause)

namespace ActiveBinding

variable (binding : ActiveBinding) (cause : TerminalCause) (transactionOrder : TransactionOrder)
  (deliverySeq : DeliverySeq)

def commitTerminal : CommittedBindingTerminal :=
  let identity := BindingTerminalIdentity.fromActive binding transactionOrder
  match cause with
  | .detached cause => .detached ⟨identity, cause, deliverySeq⟩
  | .died cause => .died ⟨identity, cause, deliverySeq⟩

def pendTerminal : PendingFinalization :=
  let identity := BindingTerminalIdentity.fromActive binding transactionOrder
  match cause with
  | .detached cause => .detached ⟨identity, cause⟩
  | .died cause => .died ⟨identity, cause⟩

def superseded : CommittedDetachedTerminal :=
  ⟨.fromActive binding transactionOrder, .superseded, deliverySeq⟩

@[simp] theorem commitTerminal_identity :
    (binding.commitTerminal cause transactionOrder deliverySeq).identity = .fromActive binding transactionOrder := by
  cases cause <;> rfl

@[simp] theorem pendTerminal_identity :
    (binding.pendTerminal cause transactionOrder).identity = .fromActive binding transactionOrder := by
  cases cause <;> rfl

end ActiveBinding

end Liminal
