import Liminal.Lifecycle.ClaimFrontier.Live

/-!
# Lanes that are laid out

Between operations both lanes have one shape: candidates right above the high watermark, then one
terminal for each binding, one exit for each member, and the product ranges. `LaidOut` says so. The
classes tile the reserve, their counts are the ledger's, and their owners are the active identities
and bindings.

A lane with a single member may list an exit range of length zero or leave it out; the two
enrollments of the source differ there.
-/

namespace Liminal

open Checked Fallible ImmutableSequenceCandidate List

/-! ### What a layout depends on -/

/-- Two lists of participants with the same indexes and the same bindings; only cursors differ. -/
structure SameClaimants (a b : ActiveIdentityRanks) : Prop where
  indexes : a.indexes = b.indexes
  terminalOwners : a.terminalOwners = b.terminalOwners

namespace SameClaimants

variable {a b : ActiveIdentityRanks}

section

variable (h : SameClaimants a b)

include h

theorem live : a.live = b.live := by
  have hlength := congrArg length h.indexes
  simpa [ActiveIdentityRanks.indexes] using hlength

theorem movableLayout (cursor : Nat) : movableLayout a cursor = movableLayout b cursor := by
  have hexits : ∀ c : ActiveIdentityRanks, ∀ start, layEach placeExit 1 start c.participants =
      layEach (fun start index => ⟨start, .membershipExit index⟩) 1 start c.indexes := fun c start =>
    layEach_comp (fun start index => MovableSequenceClaim.mk start (.membershipExit index)) _ 1 start _
  rw [Liminal.movableLayout, Liminal.movableLayout, hexits, hexits, h.indexes, h.terminalOwners]

theorem orderLayout (cursor : Nat) : orderLayout a cursor = orderLayout b cursor := by
  have hexits : ∀ c : ActiveIdentityRanks, ∀ start, layEach placeExitOrder 1 start c.participants =
      layEach (fun start index => ⟨start, .membershipExit index⟩) 1 start c.indexes := fun c start =>
    layEach_comp (fun start index => MovableOrderClaim.mk start (.membershipExit index)) _ 1 start _
  rw [Liminal.orderLayout, Liminal.orderLayout, hexits, hexits, h.indexes, h.terminalOwners]

theorem terminalProductLayout (owners : List BindingTerminalOwner)
    (cursor : Nat) : terminalProductLayout a owners cursor = terminalProductLayout b owners cursor := by
  rw [Liminal.terminalProductLayout, Liminal.terminalProductLayout, h.live, h.terminalOwners]

theorem exitProductLayout (owners : List BindingTerminalOwner)
    (cursor : Nat) : exitProductLayout a owners cursor = exitProductLayout b owners cursor := by
  have hexits : ∀ c : ActiveIdentityRanks, ∀ n start,
      layEach (placeExitProduct n) n start c.participants =
        layEach (fun start index => ⟨start, n, index⟩) n start c.indexes := fun c n start =>
    layEach_comp (fun start index => ExitProductRange.mk start n index) _ n start _
  rw [Liminal.exitProductLayout, Liminal.exitProductLayout, hexits, hexits, h.indexes, h.terminalOwners, h.live]

theorem allTerminalOwners (pendingOwner : BindingTerminalOwner) :
    allTerminalOwners a pendingOwner = allTerminalOwners b pendingOwner := by
  rw [Liminal.allTerminalOwners, Liminal.allTerminalOwners, h.terminalOwners]

end

end SameClaimants

theorem ActiveIdentityRanks.sameClaimants_replace (hfind : active.find? p'.participantIndex = some p)
    (hterm : p'.terminalOwner? = p.terminalOwner?) : SameClaimants (active.replace p') active where
  indexes := active.replace_indexes p'
  terminalOwners := by
    simp only [terminalOwners, replace, replaceParticipant, filterMap_map]
    apply filterMap_congr
    intro q hq
    simp only [Function.comp_apply]
    split
    · rename_i hindex
      have hq' := find?_eq_some.mpr ⟨hq, hindex⟩
      rw [hfind, Option.some.injEq] at hq'
      rw [hterm, hq']
    · rfl

/-! ### The shape -/

namespace ClaimFrontiers

/-- The terminals that own a product range: those of the bindings, and the pended one. -/
def productOwners (f : ClaimFrontiers) : List BindingTerminalOwner :=
  match f.sequence.immutableCandidates with
  | [.bindingTerminal _ _ owner] => allTerminalOwners f.activeIdentities owner
  | _ => f.activeIdentities.terminalOwners

def firstMovable (f : ClaimFrontiers) : Nat := f.high + 1 + f.sequence.immutableCandidates.length

variable (candidates : List ImmutableSequenceCandidate)

/-- The candidates of the order lane: one group with the keys of the sequence lane's candidates, in their order. -/
def CandidatesPaired (groups : List ImmutableOrderCandidateMajor) : Prop :=
  candidates = [] ∧ groups = [] ∨ candidates ≠ [] ∧ ∃ major,
    groups = [⟨major, candidates.map admissionOrder⟩] ∧
      ∀ candidate ∈ candidates, candidate.admissionOrder.transactionOrder = major

/-- One pended terminal, or markers only. -/
def CandidateShape : Prop :=
  (∃ deliverySeq order owner, candidates = [.bindingTerminal deliverySeq order owner]) ∨
    ∀ candidate ∈ candidates, candidate.isMarker = true

structure LaidOut (f : ClaimFrontiers) : Prop where
  sequenceRecovery : f.sequence.recovery = none
  orderRecovery : f.order.recovery = none
  replacement : f.sequence.products.liveTimesReplacementTerminal = none
  movable : f.sequence.movableClaims = movableLayout f.activeIdentities f.firstMovable
  terminalProducts : f.sequence.products.liveTimesTerminal =
    terminalProductLayout f.activeIdentities f.productOwners f.firstMovable
  exitProducts : f.sequence.products.otherLiveTimesExit =
      exitProductLayout f.activeIdentities f.productOwners f.firstMovable ∨
    f.activeIdentities.live ≤ 1 ∧ f.sequence.products.otherLiveTimesExit = []
  orderMovable : f.order.movableClaims = orderLayout f.activeIdentities f.nextOrder
  sequenceClaims : f.sequence.ledger.claims = ⟨f.activeIdentities.live, f.productOwners.length,
    f.sequence.immutableCandidates.countP isMarker, .none⟩
  activeBindingTerminals : f.order.ledger.claims.activeBindingTerminals = f.activeIdentities.terminalOwners.length
  membershipExits : f.order.ledger.claims.membershipExits = f.activeIdentities.live
  recoveryOperation : f.order.ledger.claims.recoveryOperation = false
  candidatePositions : f.sequence.immutableCandidates.map deliverySeq =
    range' (f.high + 1) f.sequence.immutableCandidates.length
  candidateShape : CandidateShape f.sequence.immutableCandidates
  candidatesPaired : CandidatesPaired f.sequence.immutableCandidates f.order.immutableCandidates

variable {f : ClaimFrontiers}

theorem productOwners_of_markers (h : ∀ candidate ∈ f.sequence.immutableCandidates, candidate.isMarker = true) :
    f.productOwners = f.activeIdentities.terminalOwners := by
  unfold productOwners
  split
  · rename_i hcands
    rw [hcands] at h
    have := h _ mem_cons_self
    cases this
  · rfl

theorem productOwners_of_nil (h : f.sequence.immutableCandidates = []) :
    f.productOwners = f.activeIdentities.terminalOwners :=
  productOwners_of_markers (by simp [h])

theorem CandidateShape.nil : CandidateShape [] := Or.inr (by simp)

theorem productOwners_length (h : CandidateShape f.sequence.immutableCandidates) :
    f.productOwners.length + f.sequence.immutableCandidates.countP isMarker =
      f.activeIdentities.terminalOwners.length + f.sequence.immutableCandidates.length := by
  rcases h with ⟨_, _, _, hcands⟩ | hmarkers
  · simp [productOwners, hcands, isMarker]
  · rw [productOwners_of_markers hmarkers, countP_eq_length.mpr hmarkers]

/-! ### What follows from the shape -/

namespace LaidOut

section

variable (h : f.LaidOut)

include h

theorem exitOwners : f.sequence.exitOwners = f.activeIdentities.indexes := by
  rw [SequenceClaimFrontier.exitOwners, h.movable, movableLayout_exits]

theorem terminalOwners : f.sequence.terminalOwners = f.activeIdentities.terminalOwners := by
  rw [SequenceClaimFrontier.terminalOwners, h.movable, movableLayout_terminals, h.sequenceRecovery]
  exact append_nil _

theorem orderExitOwners : f.order.exitOwners = f.activeIdentities.indexes := by
  rw [OrderClaimFrontier.exitOwners, h.orderMovable, orderLayout_exits]

theorem orderTerminalOwners : f.order.terminalOwners = f.activeIdentities.terminalOwners := by
  rw [OrderClaimFrontier.terminalOwners, h.orderMovable, orderLayout_terminals, h.orderRecovery]
  exact append_nil _

theorem tiles_movable : Tiles (f.sequence.movableClaims.map fun claim => .single claim.deliverySeq) f.firstMovable
      (f.activeIdentities.terminalOwners.length + f.activeIdentities.live) := by
  have hterms := tiles_layEach placeTerminal 1 f.firstMovable f.activeIdentities.terminalOwners
    (fun claim => .single claim.deliverySeq) fun _ _ => rfl
  have hexits := tiles_layEach placeExit 1
    (f.firstMovable + f.activeIdentities.terminalOwners.length) f.activeIdentities.participants
    (fun claim => .single claim.deliverySeq) fun _ _ => rfl
  rw [Nat.mul_one] at hterms hexits
  rw [h.movable, movableLayout, map_append]
  exact hterms.append hexits

theorem tiles_exitProducts (start : Nat) (hstart : start = f.firstMovable + f.activeIdentities.terminalOwners.length +
      f.activeIdentities.live + f.productOwners.length * f.activeIdentities.live) :
    Tiles (f.sequence.products.otherLiveTimesExit.map fun range => ⟨range.start, range.length⟩) start
      (f.activeIdentities.live * (f.activeIdentities.live - 1)) := by
  subst hstart
  rcases h.exitProducts with hexits | ⟨hlive, hexits⟩
  · rw [hexits]
    exact tiles_layEach _ _ _ _ _ fun _ _ => rfl
  · have hzero : f.activeIdentities.live * (f.activeIdentities.live - 1) = 0 := by
      rw [Nat.sub_eq_zero_of_le hlive, Nat.mul_zero]
    rw [hexits, hzero]
    exact Tiles.nil _

theorem tiles_products : Tiles f.sequence.products.segments
      (f.firstMovable + f.activeIdentities.terminalOwners.length + f.activeIdentities.live)
      (f.productOwners.length * f.activeIdentities.live + f.activeIdentities.live * (f.activeIdentities.live - 1)) := by
  rw [SequenceProductRanges.segments, h.replacement, Option.toList_none, map_nil, append_nil]
  refine Tiles.append ?_ (h.tiles_exitProducts _ rfl)
  rw [h.terminalProducts]
  exact tiles_layEach _ _ _ _ _ fun _ _ => rfl

theorem requiredReserve : f.sequence.ledger.requiredReserve = f.sequence.immutableCandidates.length +
      (f.activeIdentities.terminalOwners.length + f.activeIdentities.live) +
      (f.productOwners.length * f.activeIdentities.live + f.activeIdentities.live * (f.activeIdentities.live - 1)) := by
  have hcount := productOwners_length h.candidateShape
  rw [SequenceLedger.requiredReserve, h.sequenceClaims, SequenceClaims.requiredReserve_eq]
  simp only [RecoverySequenceReserve.claims, Nat.mul_zero, Nat.add_zero,
    Nat.mul_comm f.activeIdentities.live f.productOwners.length,
    Nat.mul_comm (f.activeIdentities.live - 1) f.activeIdentities.live]
  omega

theorem tiles_sequence : Tiles f.sequence.segments (f.high + 1) f.sequence.ledger.requiredReserve := by
  have hcands := Tiles.singles h.candidatePositions
  rw [SequenceClaimFrontier.segments, h.sequenceRecovery, Option.toList_none, flatMap_nil,
    append_nil, h.requiredReserve]
  refine (hcands.append h.tiles_movable).append ?_
  rw [← Nat.add_assoc, ← Nat.add_assoc]
  exact h.tiles_products

theorem orderTotal : f.order.ledger.claims.total =
    f.activeIdentities.terminalOwners.length + f.activeIdentities.live := by
  have hpaired := f.order.ledger.claims.paired
  rw [OrderClaims.total, h.activeBindingTerminals, h.membershipExits, ← hpaired, h.recoveryOperation]
  rfl

theorem tiles_order : Tiles f.order.segments f.nextOrder f.order.ledger.claims.total := by
  have hterms := tiles_layEach placeTerminalOrder 1 f.nextOrder f.activeIdentities.terminalOwners
    (fun claim => .single claim.transactionOrder) fun _ _ => rfl
  have hexits := tiles_layEach placeExitOrder 1
    (f.nextOrder + f.activeIdentities.terminalOwners.length) f.activeIdentities.participants
    (fun claim => .single claim.transactionOrder) fun _ _ => rfl
  rw [Nat.mul_one] at hterms hexits
  rw [OrderClaimFrontier.segments, h.orderRecovery, Option.toList_none, flatMap_nil,
    append_nil, h.orderMovable, orderLayout, map_append, h.orderTotal]
  exact hterms.append hexits

theorem nextOrder_le_of_mem_segments (hclaim : claim ∈ f.order.segments) : f.nextOrder ≤ claim.start := by
  have hcovers := h.tiles_order.isPartition.covers claim.start
  rw [OrderClaimFrontier.segments, h.orderRecovery, Option.toList_none, flatMap_nil, append_nil] at hclaim hcovers
  obtain ⟨reserved, -, rfl⟩ := mem_map.mp hclaim
  exact (hcovers.mp ⟨_, hclaim, mem_singleton_self _⟩).1

/-- The lane has given out as many positions of each class as the ledger counts. -/
theorem positionBudget : f.sequence.positionBudget = f.sequence.ledger.claims.budget f.high := by
  have hterms : f.activeIdentities.terminalOwners.length +
      f.sequence.immutableCandidates.countP (fun c => !c.isMarker) = f.productOwners.length := by
    have hcount := productOwners_length h.candidateShape
    have hsplit := f.sequence.immutableCandidates.length_eq_countP_add_countP isMarker
    simp only [Bool.not_eq_true, Bool.decide_eq_false] at hsplit
    omega
  have hterminalProducts : (f.sequence.products.liveTimesTerminal.map TerminalProductRange.length).sum =
      f.productOwners.length * f.activeIdentities.live := by
    have hlengths := map_layEach (placeTerminalProduct f.activeIdentities.live) f.activeIdentities.live
      (f.firstMovable + f.activeIdentities.terminalOwners.length + f.activeIdentities.live)
      f.productOwners TerminalProductRange.length (fun _ => f.activeIdentities.live) fun _ _ => rfl
    rw [h.terminalProducts, terminalProductLayout, hlengths]
    simp
  have hexitProducts : (f.sequence.products.otherLiveTimesExit.map ExitProductRange.length).sum =
      (f.activeIdentities.live - 1) * f.activeIdentities.live := by
    have hsum := (h.tiles_exitProducts _ rfl).length_sum
    rw [map_map] at hsum
    rw [Nat.mul_comm, ← hsum]
    rfl
  have hreplacement : f.activeIdentities.live * 0 = 0 := Nat.mul_zero _
  simp only [SequenceClaimFrontier.positionBudget, SequenceClaims.budget, h.exitOwners, h.terminalOwners,
    h.sequenceRecovery, h.replacement, hterms, hterminalProducts, hexitProducts, h.sequenceClaims,
    RecoverySequenceReserve.claims, ActiveIdentityRanks.indexes, length_map, Option.toList_none, length_nil, map_nil,
    sum_nil, hreplacement, Nat.mul_comm f.activeIdentities.live f.productOwners.length]

end

end LaidOut

/-! ### The partition -/

/-- The claims of both lanes partition the positions above the two high values, class by class and owner by
owner. -/
structure Partitioned (f : ClaimFrontiers) : Prop where
  sequence : IsPartition f.sequence.segments (f.high + 1) f.sequence.ledger.requiredReserve
  sequenceClasses : f.sequence.positionBudget = f.sequence.ledger.claims.budget f.high
  sequenceExits : f.sequence.exitOwners = f.activeIdentities.indexes
  sequenceTerminals : f.sequence.terminalOwners = f.activeIdentities.terminalOwners
  order : IsPartition f.order.segments f.nextOrder f.order.ledger.claims.total
  orderExits : f.order.exitOwners = f.activeIdentities.indexes ∧
    f.order.exitOwners.length = f.order.ledger.claims.membershipExits
  orderTerminals : f.order.terminalOwners = f.activeIdentities.terminalOwners ∧
    f.order.terminalOwners.length = f.order.ledger.claims.activeBindingTerminals
  orderRecovery : f.order.recovery.isSome = f.order.ledger.claims.recoveryOperation ∧
    f.order.recovery.isSome = f.order.ledger.claims.recoveryReplacementTerminal

theorem LaidOut.partitioned (h : f.LaidOut) : f.Partitioned where
  sequence := h.tiles_sequence.isPartition
  sequenceClasses := h.positionBudget
  sequenceExits := h.exitOwners
  sequenceTerminals := h.terminalOwners
  order := h.tiles_order.isPartition
  orderExits := by
    refine ⟨h.orderExitOwners, ?_⟩
    rw [h.orderExitOwners, h.membershipExits]
    exact length_map _
  orderTerminals := by
    refine ⟨h.orderTerminalOwners, ?_⟩
    rw [h.orderTerminalOwners, h.activeBindingTerminals]
  orderRecovery := by
    rw [← f.order.ledger.claims.paired, h.orderRecovery, h.recoveryOperation]
    exact ⟨rfl, rfl⟩

end ClaimFrontiers

end Liminal
