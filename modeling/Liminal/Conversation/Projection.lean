import Liminal.Conversation.Coupling
import Liminal.Lifecycle.Storage

/-!
# Do the members' cursors and the frontier's agree?

Every operation but one moves the two cursors of a participant together or not at all: the fate of a
committed death moves only the frontier's. `PairEffect` says so; the rest draws the consequences for
snapshot restore and Leave.
-/

namespace Liminal

open Checked Fallible LiveFrontierOwner ActiveIdentityRanks ClaimFrontiers ParticipantSlot List

def Operation.fated? : Operation → Option ParticipantId
  | .bindingFate participant _ _ => some participant
  | _ => none

namespace Conversation

variable {s s' : Conversation} {slot slot' : ParticipantSlot} {p : FrontierParticipant} {op : Operation}
  {owner' : LiveFrontierOwner} {projection : Option DeliverySeq}

/-- What an effect makes of the two cursors of one participant. -/
inductive PairEffect (s : Conversation) (op : Operation) (slot' : ParticipantSlot) (p' : FrontierParticipant) : Prop
  | level (cursors : p'.cursor = slot'.member.cursor)
  | kept {slot : ParticipantSlot} {p : FrontierParticipant}
      (pair : (slot, p) ∈ s.slots.zip s.owner.frontiers.activeIdentities.participants) (id : slot'.participantId =
      slot.participantId) (frontier : p'.cursor = p.cursor) (member : slot'.member.cursor = slot.member.cursor)
  | fated {slot : ParticipantSlot} {p : FrontierParticipant} {kind : FateKind} {observer : DeliverySeq}
      (pair : (slot, p) ∈ s.slots.zip s.owner.frontiers.activeIdentities.participants) (id : slot'.participantId =
      slot.participantId) (fate : op = .bindingFate slot.participantId kind observer) (frontier : p'.cursor =
      s.owner.frontiers.high) (member : slot'.member.cursor = slot.member.cursor)

/-- The pairs of a conversation before an operation that has not touched them. -/
def Unmoved (s : Conversation) (op : Operation) (slot : ParticipantSlot) (p : FrontierParticipant) : Prop :=
  slot.participantId = p.participantIndex ∧ PairEffect s op slot p

namespace Coupled

variable (h : s.Coupled)

include h

theorem find?_of_zip (hpair : (slot, p) ∈ s.slots.zip s.owner.frontiers.activeIdentities.participants) :
    s.owner.frontiers.activeIdentities.find? slot.participantId = some p := by
  obtain ⟨-, hall⟩ := forall₂_iff_zip.mp h.agrees
  exact find?_eq_some.mpr ⟨(of_mem_zip hpair).2, (hall hpair).index.symm⟩

theorem unmoved (op : Operation) : Forall₂ (Unmoved s op) s.slots s.owner.frontiers.activeIdentities.participants := by
  rw [forall₂_iff_zip]
  obtain ⟨hlength, hall⟩ := forall₂_iff_zip.mp h.agrees
  exact ⟨hlength, fun hpair => ⟨(hall hpair).index, .kept hpair rfl rfl rfl⟩⟩

theorem zip_of_find (hslot : slot ∈ s.slots) (hfind : s.owner.frontiers.activeIdentities.find? slot.participantId =
    some p) : (slot, p) ∈ s.slots.zip s.owner.frontiers.activeIdentities.participants := by
  obtain ⟨i, hi, rfl⟩ := mem_iff_getElem.mp hslot
  obtain ⟨hlength, hall⟩ := forall₂_iff_zip.mp h.agrees
  have hi' : i < s.owner.frontiers.activeIdentities.participants.length := hlength ▸ hi
  have hpair : (s.slots[i], s.owner.frontiers.activeIdentities.participants[i]) ∈
      s.slots.zip s.owner.frontiers.activeIdentities.participants := by
    rw [← getElem_zip (h := by simp [hi, hi'])]
    exact getElem_mem _
  have hsame := find?_eq_some.mpr ⟨getElem_mem hi', (hall hpair).index.symm⟩
  rw [hfind, Option.some.injEq] at hsame
  exact hsame ▸ hpair

theorem pairs_commit (hparts : owner'.frontiers.activeIdentities.participants =
      replaceParticipant s.owner.frontiers.activeIdentities.participants p')
    (hindex : slot'.participantId = p'.participantIndex) (hpair : PairEffect s op slot' p') :
    Forall₂ (Unmoved s op) (s.commit slot' owner' projection).slots
      (s.commit slot' owner' projection).owner.frontiers.activeIdentities.participants := by
  have hkey : ∀ slot p, Unmoved s op slot p → slot.participantId = p.participantIndex :=
    fun _ _ h => h.1
  have hreplaced := Keyed.forall₂_replace hkey slot'.participantId ⟨hindex, hpair⟩ (h.unmoved op)
  change Forall₂ (Unmoved s op) (replaceSlot s.slots slot') owner'.frontiers.activeIdentities.participants
  rw [hindex] at hreplaced
  rw [hparts, replaceSlot, hindex]
  exact hreplaced

theorem pairs_keep (hfound : s.slot? slot.participantId = some slot)
    (hparts : owner'.frontiers.activeIdentities = s.owner.frontiers.activeIdentities)
    (hid : slot'.participantId = slot.participantId) (hcursor : slot'.member.cursor = slot.member.cursor) :
    Forall₂ (Unmoved s op) (s.commit slot' owner' projection).slots
      (s.commit slot' owner' projection).owner.frontiers.activeIdentities.participants := by
  obtain ⟨p, hfind, hagrees⟩ := h.lookup hfound
  have hpair := h.zip_of_find (slot?_eq_some hfound).1 hfind
  refine h.pairs_commit ?_ (hid.trans hagrees.index) (.kept hpair hid rfl hcursor)
  rw [hparts, replaceParticipant_of_find? hfind]

end Coupled

/-- Every effect moves the cursors of a pair together, leaves both alone, or is the fate of a committed death. -/
theorem Effect.pairs (h : Effect s op s') (hcoupled : s.Coupled) :
    Forall₂ (Unmoved s op) s'.slots s'.owner.frontiers.activeIdentities.participants := by
  cases h with
  | enrolled _ happends =>
    rw [happends.frontiers.1]
    exact Keyed.forall₂_insertionSort (fun _ _ h => h.1)
      (rel_append (hcoupled.unmoved _) (.cons ⟨rfl, .level rfl⟩ .nil))
  | attached hfound _ _ happends _ =>
    exact hcoupled.pairs_commit happends.frontiers.1 rfl (.level rfl)
  | ended hfound hbound _ _ hkept happends =>
    refine hcoupled.pairs_commit happends.frontiers.1 rfl (.level ?_)
    rcases hkept with hmember | ⟨current, hcurrent, hcursor⟩
    · exact hmember
    · obtain ⟨p, hfind, hagrees⟩ := hcoupled.lookup hfound
      rw [hfind, Option.some.injEq] at hcurrent
      rw [hcursor, ← hcurrent]
      exact hagrees.boundCursor _ hbound
  | pended hfound hbound _ _ hpend =>
    obtain ⟨p, hfind, hagrees⟩ := hcoupled.lookup hfound
    have howned := hagrees.owned
    simp only [OwnsBinding, hbound] at howned
    obtain ⟨ledger, -, frontiers, hfronts, rfl⟩ := pendBindingTerminalCandidate_eq_ok.mp hpend
    obtain ⟨-, current, hcurrent, -, ranks, hranks, -, -, -, -, -, -, -, -, rfl⟩ :=
      applyPendingBindingTerminal_eq_ok.mp hfronts
    rw [howned.1, hfind, Option.some.injEq] at hcurrent
    subst hcurrent
    exact hcoupled.pairs_commit hranks howned.1.symm
      (.kept (hcoupled.zip_of_find (slot?_eq_some hfound).1 hfind) rfl rfl rfl)
  | drained hfound _ hdrain =>
    obtain ⟨-, -, -, -, accounting, -, frontiers, record, hfronts, rfl, -⟩ :=
      drainPendingTerminal_eq_ok.mp hdrain
    obtain ⟨-, -, ledger, -, -, -, -, -, -, -, rfl⟩ := drainFirstBindingTerminal_eq_ok.mp hfronts
    exact hcoupled.pairs_keep hfound rfl rfl rfl
  | recorded hproject =>
    obtain ⟨-, -, plan, markerState, search, rfl, -⟩ := projectOrdinaryRecord_eq_ok hproject
    exact hcoupled.unmoved _
  | markerDrained hdrain =>
    obtain ⟨frontiers, marker, state, accounting, hfronts, -, -, rfl⟩ :=
      drainNextMarker_eq_ok hdrain
    obtain ⟨_, _, _, -, -, -, -, -, -, rfl⟩ := drainNextMarkerCore_eq_ok hfronts
    exact hcoupled.unmoved _
  | acked hfound _ _ _ hack =>
    rcases hack with hack | hack
    · obtain ⟨current, accounting, hcurrent, -, -, -, rfl⟩ := applyAckFrontier_eq_ok hack
      exact hcoupled.pairs_commit rfl (find?_eq_some.mp hcurrent).2.symm (.level rfl)
    · obtain ⟨current, accounting, -, hcurrent, -, -, -, rfl⟩ := applyMarkerAckFrontier_eq_ok hack
      exact hcoupled.pairs_commit rfl (find?_eq_some.mp hcurrent).2.symm (.level rfl)
  | @left _ slot _ _ _ committed _ _ hident hleaving =>
    obtain ⟨sequence, order, hresult, -⟩ := hleaving.frontiers.result
    change Forall₂ (Unmoved s op) (s.slots.filter fun old => old.participantId ≠ committed.identity.participantId)
      committed.owner.frontiers.activeIdentities.participants
    rw [hresult, hident.1]
    refine rel_filter ?_ (hcoupled.unmoved op)
    intro old p hunmoved
    simp only [decide_eq_true_eq, hunmoved.1]
  | fated hfound hheld hprepare =>
    obtain ⟨p, hfind, hagrees⟩ := hcoupled.lookup hfound
    obtain ⟨_, epoch, -, -, -, -, hfloored⟩ :=
      prepareBindingFate_ordinary (hagrees.token _ hheld) hprepare
    refine hcoupled.pairs_commit (by rw [hfloored.frontiers]; rfl) rfl
      (.fated (hcoupled.zip_of_find (slot?_eq_some hfound).1 hfind) rfl rfl rfl rfl)
  | measured hfound _ _ _ => exact hcoupled.pairs_keep hfound rfl rfl rfl
  | completed hfound _ _ hcompl =>
    rcases installFinalizedBindingFateFloor_eq_ok hcompl with rfl | ⟨_, -, hfloored⟩
    · exact hcoupled.pairs_keep hfound rfl rfl rfl
    · exact hcoupled.pairs_keep hfound (by rw [hfloored.frontiers]; rfl) rfl rfl

/-! ### Members and frontier agree -/

/-- A fate moves no cursor if the frontier's is at the high watermark already. The terminal of a committed
death is above its cursor, so this leaves the deaths that were pended. -/
def FateAtHigh (s : Conversation) (op : Operation) : Prop :=
  ∀ participant ∈ op.fated?, ∀ p ∈ s.owner.frontiers.activeIdentities.find? participant,
    p.cursor = s.owner.frontiers.high

instance (s : Conversation) (op : Operation) : Decidable (FateAtHigh s op) :=
  inferInstanceAs (Decidable (∀ participant ∈ op.fated?, _))

def LevelCursors (s : Conversation) : Prop :=
  List.Forall₂ (fun slot p => p.cursor = slot.member.cursor) s.slots s.owner.frontiers.activeIdentities.participants

theorem Effect.levelCursors (h : Effect s op s') (hcoupled : s.Coupled) (hlevel : s.LevelCursors)
    (hfate : FateAtHigh s op) : s'.LevelCursors := by
  obtain ⟨-, hold⟩ := forall₂_iff_zip.mp hlevel
  refine (h.pairs hcoupled).imp fun slot' p' hpair => ?_
  cases hpair.2 with
  | level hcursors => exact hcursors
  | kept hmem _ hfront hmember => exact hfront.trans ((hold hmem).trans hmember.symm)
  | fated hmem _ hop hfront hmember =>
    subst hop
    have hhigh := hfate _ rfl _ (hcoupled.find?_of_zip hmem)
    exact hfront.trans (hhigh.symm.trans ((hold hmem).trans hmember.symm))

theorem levelCursors_of_reaches (h : conversationMachine.Reaches FateAtHigh s) : s.LevelCursors := by
  refine reaches_invariant (fun s _ _ _ hstarted => ?_) (fun s op s' _ hcoupled hlevel hfate heffect =>
    heffect.levelCursors hcoupled hlevel hfate) h
  rw [LevelCursors, hstarted.slots, hstarted.participants]
  exact .cons rfl .nil

theorem retired_conversation_of_reachable (h : conversationMachine.Reachable s) :
    ∀ identity ∈ s.retired, identity.conversationId = s.owner.frontiers.conversationId := by
  apply reaches_invariant _ _ h
  · intro s _ _ _ hstarted identity hmem
    rw [hstarted.retired] at hmem
    cases hmem
  · intro s op s' _ hcoupled hretired _ heffect identity hmem
    rw [heffect.ownerStep.keeps.conversation]
    cases heffect with
    | left _ hfound hident _ =>
      rcases mem_append.mp hmem with hold | hnew
      · exact hretired identity hold
      · obtain ⟨p, -, hagrees⟩ := hcoupled.lookup hfound
        rw [mem_singleton.mp hnew, hident.2]
        exact hagrees.conversation
    | _ => exact hretired identity hmem

theorem frontierProjection_eq_some (h : slot.frontierProjection = some p) :
    restoredFrontierBinding slot.member slot.binding = some p.binding := by
  unfold frontierProjection at h
  unfold restoredFrontierBinding
  cases hbinding : slot.binding with
  | bound active | pendingFinalization pending =>
    rw [hbinding, Option.some.injEq] at h
    rw [← h]
  | detached =>
    rw [hbinding, Option.map_eq_some_iff] at h
    obtain ⟨terminal, hterm, rfl⟩ := h
    rw [hterm]
    rfl

theorem Coupled.level_agrees (h : s.Coupled) (hlevel : s.LevelCursors) :
    Forall₂ (fun slot p => Agrees s.owner.frontiers.conversationId slot p ∧
      p.cursor = slot.member.cursor) s.slots s.owner.frontiers.activeIdentities.participants := by
  obtain ⟨hlength, hagrees⟩ := forall₂_iff_zip.mp h.agrees
  obtain ⟨-, hcursors⟩ := forall₂_iff_zip.mp hlevel
  exact forall₂_iff_zip.mpr ⟨hlength, fun hpair => ⟨hagrees hpair, hcursors hpair⟩⟩

theorem Coupled.validateLeaveIdentity_eq_ok (h : s.Coupled) (hslot : slot ∈ s.slots) :
    s.owner.frontiers.validateLeaveIdentity slot.member = .ok p ↔
      s.owner.frontiers.activeIdentities.find? slot.participantId = some p ∧ p.cursor = slot.member.cursor := by
  obtain ⟨_, -, hagrees⟩ := h.agrees_of_mem hslot
  simp only [validateLeaveIdentity, ok_iff]
  constructor
  · rintro ⟨-, _, hfind, hcursor, rfl⟩
    exact ⟨hfind, hcursor⟩
  · rintro ⟨hfind, hcursor⟩
    exact ⟨hagrees.conversation, p, hfind, hcursor, rfl⟩

/-- The participants as a snapshot stores them: every live member with its binding, then the tombstones. -/
def restoredParticipants (s : Conversation) : List RestoredParticipantLifecycle :=
  s.slots.map (fun slot => .live slot.member slot.binding) ++ s.retired.map .retired

/-- If every fate finds its participant at the high watermark, the frontier's participants are at all times
the projection of the live members; snapshot restore and Leave accept them. -/
theorem members_project (h : conversationMachine.Reaches FateAtHigh s) : s.slots.map frontierProjection =
        s.owner.frontiers.activeIdentities.participants.map some ∧
      validateParticipantFrontierProjection s.restoredParticipants s.owner.frontiers.conversationId
        s.owner.frontiers.activeIdentities.participants = .ok () ∧
      ∀ slot ∈ s.slots, ∃ p, s.owner.frontiers.validateLeaveIdentity slot.member = .ok p := by
  have hcoupled := coupled_of_reachable h.reachable
  have hpairs := hcoupled.level_agrees (levelCursors_of_reaches h)
  refine ⟨?_, ?_, fun slot hslot => ?_⟩
  · exact Keyed.map_eq_of_forall₂ (fun _ _ hpair => hpair.1.level hpair.2) hpairs
  · have hrestored := projectRestored_live (retired_conversation_of_reachable h.reachable)
      (hpairs.imp fun slot p hpair => ⟨hpair.1.conversation,
        frontierProjection_eq_some (hpair.1.level hpair.2), hpair.1.index, hpair.2.symm⟩)
    have hsorted := s.owner.frontiers.activeIdentities.ascending.imp Nat.le_of_lt
    simp only [validateParticipantFrontierProjection, ok_iff]
    exact ⟨_, hrestored, hsorted.insertionSort_eq⟩
  · obtain ⟨p, hp, hagrees, hcursor⟩ := Keyed.exists_of_forall₂ hpairs hslot
    exact ⟨p, (hcoupled.validateLeaveIdentity_eq_ok hslot).mpr ⟨find?_eq_some.mpr ⟨hp, hagrees.index.symm⟩, hcursor⟩⟩

/-- Participant one comes back and dies when the suffix is full. Its fate is measured before its terminal is
drained, and installed after. -/
def deferredDeath : List Operation := [ .enroll ⟨0, 1, 2, Nat.one_lt_two⟩ (unitEpoch 1 1) 1 2
  (unitCharge 2 ⟨1, .attachLifecycle, 1⟩), .detach ⟨0, 1, 1, 0⟩ 0 2 3 (unitCharge 3 ⟨2, .bindingTerminal, 1⟩),
  .attachDetached ⟨0, 1, 1, none⟩ .verified ⟨⟨1, 0, unitEpoch 2 2⟩, 3, 4⟩ ⟨none, unitCharge 4 ⟨3, .attachLifecycle, 1⟩⟩,
  .endBinding 1 (.died .connectionLost) 4 5 0 (unitCharge 5 ⟨4, .bindingTerminal, 1⟩), .measurePendingFate 1 0,
  .drainTerminal 1 (unitCharge 5 ⟨4, .bindingTerminal, 1⟩), .completeFate 1, .ack ⟨0, 0, 1, 3⟩ (unitEpoch 0 1)
  (.contiguous 5)]

theorem members_project_deferredDeath : ∃ s, unitRunWithin FateAtHigh ⟨100, 100⟩ 2 4 deferredDeath = some s ∧
    s.slots.map (fun slot => slot.member.cursor) = [3, 0] ∧ s.slots.map frontierProjection =
      s.owner.frontiers.activeIdentities.participants.map some ∧
    validateParticipantFrontierProjection s.restoredParticipants s.owner.frontiers.conversationId
      s.owner.frontiers.activeIdentities.participants = .ok () := by
  refine exists_of_any_imp (by decide) fun s hs _ => ?_
  obtain ⟨hprojection, hrestore, -⟩ := members_project (unitRunWithin_reaches hs)
  exact ⟨hprojection, hrestore⟩

/-- The one member has acknowledged nothing; its fate has put the frontier's cursor at the high watermark. -/
theorem members_project_fatedAlone : ∃ s, fatedAlone = some s ∧ conversationMachine.Reachable s ∧
    s.slots.map frontierProjection ≠ s.owner.frontiers.activeIdentities.participants.map some ∧
    validateParticipantFrontierProjection s.restoredParticipants s.owner.frontiers.conversationId
      s.owner.frontiers.activeIdentities.participants = .error .membershipInvariant ∧
    s.slots.map (fun slot => s.owner.frontiers.validateLeaveIdentity slot.member) = [.error .identity] :=
  exists_of_any_and (fun _ => unitRun_reachable) (by decide)

/-! ### Leave -/

/-- Without a candidate, a member can leave exactly when its cursor is the frontier's; the Leave then removes
its claims and nothing else. -/
theorem leave_available (h : conversationMachine.Reachable s) (hnil : s.owner.frontiers.sequence.immutableCandidates =
    []) (hslot : slot ∈ s.slots) (hfind : s.owner.frontiers.activeIdentities.find? slot.participantId = some p) :
    (∃ frontiers endedBindingEpoch leftTransactionOrder frontiers',
      s.owner.frontiers.prepareSettledLeaveAuthority slot.member slot.binding =
        .ok (.settled frontiers slot.member.conversationId slot.participantId endedBindingEpoch
          leftTransactionOrder) ∧ frontiers.finishLeaveClaims slot.participantId endedBindingEpoch none
        (s.owner.frontiers.high + 1) leftTransactionOrder = .ok frontiers' ∧
      s.owner.frontiers.RemovesClaims frontiers' slot.participantId) ↔ p.cursor = slot.member.cursor := by
  constructor
  · rintro ⟨_, _, _, _, hprepare, -, -⟩
    obtain ⟨current, _, _, _, hcurrent, hcursor, -⟩ := prepareSettledLeaveAuthority_eq_ok hprepare
    rw [hfind, Option.some.injEq] at hcurrent
    exact hcurrent ▸ hcursor
  · intro hcursor
    have hcoupled := coupled_of_reachable h
    obtain ⟨q, hq, hagrees⟩ := hcoupled.agrees_of_mem hslot
    rw [hfind, Option.some.injEq] at hq
    subst hq
    refine (sound_of_reachable h).laidOut.settledLeave hnil hagrees.conversation hfind hcursor ?_
    cases hbinding : slot.binding with
    | bound active =>
      have howned := hagrees.owned
      simp only [OwnsBinding, hbinding] at howned
      exact Or.inr ⟨active, rfl, hagrees.bound hbinding, howned⟩
    | pendingFinalization pending => exact absurd hbinding (hcoupled.not_pended hnil hslot)
    | detached =>
      obtain ⟨terminal, -, hdetached⟩ := hagrees.detached hbinding
      exact Or.inl ⟨_, rfl, hdetached⟩

/-- The member of the deferred death leaves after it. -/
theorem leave_available_deferredDeath : ∃ s, unitRun ⟨100, 100⟩ 2 4 deferredDeath = some s ∧
    ∃ slot ∈ s.slots, slot.participantId = 1 ∧ slot.binding = .detached ∧
      ∃ frontiers endedBindingEpoch leftTransactionOrder frontiers',
        s.owner.frontiers.prepareSettledLeaveAuthority slot.member slot.binding =
          .ok (.settled frontiers slot.member.conversationId slot.participantId endedBindingEpoch
            leftTransactionOrder) ∧ frontiers.finishLeaveClaims slot.participantId endedBindingEpoch none
          (s.owner.frontiers.high + 1) leftTransactionOrder = .ok frontiers' ∧
        s.owner.frontiers.RemovesClaims frontiers' slot.participantId := by
  obtain ⟨s, hs, hnil, slot, hslot, hid, hbinding, p, hfind, hcursor⟩ : ∃ s, unitRun ⟨100, 100⟩ 2 4 deferredDeath =
      some s ∧ s.owner.frontiers.sequence.immutableCandidates = [] ∧
      ∃ slot ∈ s.slots, slot.participantId = 1 ∧ slot.binding = .detached ∧
        ∃ p ∈ s.owner.frontiers.activeIdentities.find? slot.participantId,
          p.cursor = slot.member.cursor := exists_of_any (by decide)
  exact ⟨s, hs, slot, hslot, hid, hbinding, (leave_available (unitRun_reachable hs) hnil hslot hfind).mpr hcursor⟩

/-- After its binding fate the one member, detached and without any candidate in its way, cannot leave. -/
theorem leave_unavailable_fatedAlone : ∃ s, fatedAlone = some s ∧ conversationMachine.Reachable s ∧
    s.owner.frontiers.sequence.immutableCandidates = [] ∧ ∃ slot ∈ s.slots, slot.binding = .detached ∧
      s.owner.frontiers.prepareSettledLeaveAuthority slot.member slot.binding = .error .identity :=
  exists_of_any_and (fun _ => unitRun_reachable) (by decide)

end Conversation

end Liminal
