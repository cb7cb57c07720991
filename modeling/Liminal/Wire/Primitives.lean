import Mathlib.Algebra.GroupWithZero.Nat
import Mathlib.Data.Nat.Basic

/-!
# Identifiers, positions and orders

The scalar vocabulary of the protocol. A counter of the source is an unsigned 64-bit integer; here
it is a natural number, and operations that could leave the range are checked where the source
checks them.
-/

namespace Liminal

abbrev ConversationId := Nat
abbrev ParticipantId := Nat
abbrev DeliverySeq := Nat
abbrev TransactionOrder := Nat
abbrev Generation := Nat

/-- The opaque tokens and request digests of the source are only compared. -/
abbrev DetachAttemptToken := Nat
abbrev RequestVerifier := Nat

structure ConnectionIncarnation where
  (serverIncarnation connectionOrdinal : Nat)
deriving DecidableEq

/-- The connection that owns a binding and the capability generation the binding captured. -/
structure BindingEpoch where
  connectionIncarnation : ConnectionIncarnation
  capabilityGeneration : Generation
deriving DecidableEq

inductive CandidatePhase
  | bindingTerminal
  | membershipExit
  | attachLifecycle
  | ordinaryRecord
  | compactionMarker
deriving DecidableEq

def CandidatePhase.rank : CandidatePhase → Nat
  | .bindingTerminal => 0
  | .membershipExit => 1
  | .attachLifecycle => 2
  | .ordinaryRecord => 3
  | .compactionMarker => 4

/-- Transaction major, then phase, then participant, compared lexicographically. -/
structure AdmissionOrder where
  transactionOrder : TransactionOrder
  candidatePhase : CandidatePhase
  participantIndex : ParticipantId
deriving DecidableEq

namespace AdmissionOrder

def bindingTerminal (transactionOrder : TransactionOrder) (participant : ParticipantId) : AdmissionOrder :=
  ⟨transactionOrder, .bindingTerminal, participant⟩

def Lt (a b : AdmissionOrder) : Prop := a.transactionOrder < b.transactionOrder ∨
    a.transactionOrder = b.transactionOrder ∧ (a.candidatePhase.rank < b.candidatePhase.rank ∨
        a.candidatePhase.rank = b.candidatePhase.rank ∧ a.participantIndex < b.participantIndex)

instance : LT AdmissionOrder := ⟨Lt⟩

instance (a b : AdmissionOrder) : Decidable (a < b) :=
  inferInstanceAs (Decidable (_ ∨ _ ∧ (_ ∨ _ ∧ _)))

theorem lt_of_transactionOrder_lt {a b : AdmissionOrder} (h : a.transactionOrder < b.transactionOrder) : a < b :=
  Or.inl h

theorem lt_of_rank_lt {a b : AdmissionOrder} (hmajor : a.transactionOrder = b.transactionOrder)
    (hphase : a.candidatePhase.rank < b.candidatePhase.rank) : a < b :=
  Or.inr ⟨hmajor, Or.inl hphase⟩

end AdmissionOrder

end Liminal
