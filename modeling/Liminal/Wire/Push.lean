import Liminal.Wire.Request
import Liminal.Lifecycle.Binding

/-!
# Pushed values

What the server sends without being asked: the progress of an observer, the next record of a
conversation, and the settling of a marker.
-/

namespace Liminal.Wire

/-- A record of another, what became of its binding, or lost history. -/
inductive ParticipantRecord
  | ordinaryRecord (senderParticipantId : ParticipantId) (payload : List UInt8)
  | attached (affectedParticipantId : ParticipantId) (bindingEpoch : BindingEpoch)
  | detached (affectedParticipantId : ParticipantId) (bindingEpoch : BindingEpoch) (cause : DetachedCause)
  | died (affectedParticipantId : ParticipantId) (bindingEpoch : BindingEpoch) (cause : DiedCause)
  | left (affectedParticipantId : ParticipantId) (endedBindingEpoch : Option BindingEpoch)
  | historyCompacted (affectedParticipantId : ParticipantId)
      (abandonedAfter abandonedThrough physicalFloorAtDecision : DeliverySeq)
deriving DecidableEq

structure ParticipantDelivery where
  conversationId : ConversationId
  deliverySeq : DeliverySeq
  record : ParticipantRecord
deriving DecidableEq

/-- What the server sends without being asked. -/
inductive ServerPush
  | observerProgressed (conversationId : ConversationId) (refusedEpoch : ObserverEpoch) (observerProgress : DeliverySeq)
  | participantDelivery (delivery : ParticipantDelivery)
  | markerSettled (conversationId : ConversationId) (refusedEpoch : SettlementEpoch)
deriving DecidableEq

inductive PushDiscriminant
  | observerProgressed
  | participantDelivery
  | markerSettled
deriving DecidableEq

inductive RecordKind
  | ordinaryRecord
  | attached
  | detached
  | died
  | left
  | historyCompacted
deriving DecidableEq

/-- One registry for both kinds of causes. -/
inductive CloseCauseTag
  | cleanDeregister
  | connectionLost
  | processKilled
  | protocolError
  | superseded
  | serverShutdown
  | uncleanServerRestart
deriving DecidableEq

def ServerPush.discriminant : ServerPush → PushDiscriminant
  | observerProgressed .. => .observerProgressed
  | participantDelivery _ => .participantDelivery
  | markerSettled .. => .markerSettled

def ParticipantRecord.recordKind : ParticipantRecord → RecordKind
  | ordinaryRecord .. => .ordinaryRecord
  | attached .. => .attached
  | detached .. => .detached
  | died .. => .died
  | left .. => .left
  | historyCompacted .. => .historyCompacted

def detachedCauseTag : DetachedCause → CloseCauseTag
  | .cleanDeregister => .cleanDeregister
  | .superseded => .superseded
  | .serverShutdown => .serverShutdown

def diedCauseTag : DiedCause → CloseCauseTag
  | .connectionLost => .connectionLost
  | .processKilled => .processKilled
  | .protocolError => .protocolError
  | .uncleanServerRestart _ => .uncleanServerRestart

end Liminal.Wire
