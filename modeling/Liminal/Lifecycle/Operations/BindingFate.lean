import Liminal.Lifecycle.Operations.LiveFrontier

/-!
# Measuring the fate of a binding

A dead binding frees its participant's cursor: the floor is measured over the other cursors and the
observer, held back by the lowest retained marker. A committed death installs it at once, a pended
one after its terminal has been drained.
-/

namespace Liminal

open Checked Fallible

inductive BindingFateTerminal
  | ordinary (terminal : CommittedDiedTerminal)
  | recovered
  | recoveredAndReserveFinalizer
deriving DecidableEq

inductive MeasuredBindingFate
  | ordinary (fate : OrdinaryBindingFate)
  | recovered (fate : RecoveredBindingFate)
deriving DecidableEq

def MeasuredBindingFate.resultingFloor : MeasuredBindingFate → DeliverySeq
  | .ordinary fate | .recovered fate => fate.resultingFloor

def MeasuredBindingFate.observerProgressProjection (fate : MeasuredBindingFate) : DeliverySeq :=
  fate.resultingFloor

inductive BindingFateMeasurementError
  | token
  | conversation
  | participant
  | binding
  | terminal
  | observerProgress
  | resultingFloor
  | ownerTransition (error : LiveFrontierError)
deriving DecidableEq

structure ValidatedBindingFateFloor where
  participantId : ParticipantId
  bindingEpoch : BindingEpoch
  resultingFloor : DeliverySeq

def fateTerminalMatches (intent : Option SealedBindingFateIntent) (terminal : BindingFateTerminal)
    (context : BindingFateMeasurementContext) : Bool :=
  match intent, terminal with
  | some .ordinary, .ordinary died =>
    decide (died.identity.conversationId = context.conversationId ∧
      died.identity.participantId = context.participantId ∧ died.identity.bindingEpoch = context.bindingEpoch)
  | some (.recovered ..), .recovered | some (.recovered ..), .recoveredAndReserveFinalizer => true
  | _, _ => false

namespace LiveFrontierOwner

variable (owner : LiveFrontierOwner)

variable (participant : ParticipantId)

def minimumRemainingCursor : Option DeliverySeq :=
  ((owner.frontiers.activeIdentities.participants.filter fun p =>
    p.participantIndex ≠ participant).map FrontierParticipant.cursor).min?

def measuredFloor (hardObserverProgress : DeliverySeq) : Nat :=
  markerClampedFloor (floorTransition owner.frontiers.retainedFloor
    (owner.minimumRemainingCursor participant) owner.frontiers.high hardObserverProgress
    owner.frontiers.retainedFloor).resultingFloor owner.lowestRetainedMarkerSeq

variable (token : SealedBindingFateToken) (terminal : BindingFateTerminal) (hardObserverProgress : DeliverySeq)

def validateBindingFateFloor : Except BindingFateMeasurementError ValidatedBindingFateFloor := do
  let context ← orError token.measurementContext .token
  require (context.conversationId = owner.frontiers.conversationId) .conversation
  let participant ← orError (owner.frontiers.activeIdentities.find? context.participantId) .participant
  require (participant.cursor = context.cursor ∧ (participant.binding = .bound context.bindingEpoch ∨
    participant.binding = .detached context.bindingEpoch)) .binding
  require (fateTerminalMatches token.intent terminal context = true) .terminal
  require (hardObserverProgress ≤ owner.frontiers.high) .observerProgress
  let resultingFloor := owner.measuredFloor context.participantId hardObserverProgress
  require (resultingFloor ≤ u64Max) .resultingFloor
  return ⟨context.participantId, context.bindingEpoch, resultingFloor⟩

/-- The measurement and the owner it leads to; a pended death validates both and drops the owner. -/
def validateBindingFateMeasurement :
    Except BindingFateMeasurementError (ValidatedBindingFateFloor × LiveFrontierOwner) := do
  let floor ← owner.validateBindingFateFloor token terminal hardObserverProgress
  let context ← orError token.measurementContext .token
  let installed ← (owner.applyBindingFateTransition floor.participantId floor.bindingEpoch
    context.cursor floor.resultingFloor (decide (terminal = .recoveredAndReserveFinalizer))).mapError .ownerTransition
  return (floor, installed)

def measuredFate (resultingFloor : DeliverySeq) : Option MeasuredBindingFate :=
  match terminal with
  | .ordinary died => (token.ordinaryBindingFate died resultingFloor).map .ordinary
  | .recovered | .recoveredAndReserveFinalizer =>
    (token.recoveredBindingFateMeasured resultingFloor).map .recovered

def prepareBindingFate : Except BindingFateMeasurementError (LiveFrontierOwner × MeasuredBindingFate) := do
  let (floor, installed) ← owner.validateBindingFateMeasurement token terminal hardObserverProgress
  let fate ← orError (measuredFate token terminal floor.resultingFloor) .terminal
  return (installed, fate)

/-- The floor of a pended death, measured now and installed when its terminal has been drained. -/
structure PendingDiedOrdinaryFinalizer where
  resultingFloor : DeliverySeq

/-- The owner stays as it is. -/
def preparePendingDiedOrdinaryFinalizer (terminal : CommittedDiedTerminal) (hardObserverProgress : DeliverySeq) :
    Except BindingFateMeasurementError (OrdinaryBindingFate × PendingDiedOrdinaryFinalizer) := do
  let (floor, _) ← owner.validateBindingFateMeasurement token (.ordinary terminal) hardObserverProgress
  let fate ← orError (token.ordinaryBindingFate terminal floor.resultingFloor) .terminal
  return (fate, ⟨floor.resultingFloor⟩)

def completePendingDiedOrdinaryFinalizer
    (finalizer : PendingDiedOrdinaryFinalizer) : Except LiveFrontierError LiveFrontierOwner :=
  owner.installFinalizedBindingFateFloor finalizer.resultingFloor

end LiveFrontierOwner

end Liminal
