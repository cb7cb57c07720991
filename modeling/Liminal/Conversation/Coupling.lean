import Liminal.Conversation.Invariants

/-!
# Slots and participants

The members of a conversation and the participants of its frontier are kept by different code and
stay in step: the same participants in the same order with the same bindings. The cursors of bound
participants agree; after a death the frontier's may have gone ahead.
-/

namespace Liminal

open Checked Fallible ParticipantSlot LiveFrontierOwner ClaimFrontiers ActiveIdentityRanks Option
open List

def ParticipantSlot.OwnsBinding (slot : ParticipantSlot) : Prop := match slot.binding with
  | .detached => True
  | .bound active => active.participantId = slot.participantId ∧ active.conversationId = slot.member.conversationId
  | .pendingFinalization pending => pending.identity.participantId = slot.participantId ∧
    pending.identity.conversationId = slot.member.conversationId

/-- A slot beside its participant: what they share, and how far apart their cursors may be. -/
structure Agrees (conversationId : ConversationId) (slot : ParticipantSlot) (p : FrontierParticipant) : Prop where
  projection : slot.frontierProjection = some ⟨p.participantIndex, slot.member.cursor, p.binding⟩
  conversation : slot.member.conversationId = conversationId
  cursor : slot.member.cursor ≤ p.cursor
  boundCursor : ∀ active, slot.binding = .bound active → p.cursor = slot.member.cursor
  owned : slot.OwnsBinding
  token : ∀ token ∈ slot.fateToken, token.OrdinaryFor slot.participantId

/-- A pended terminal is the one candidate of the frontier. -/
def ParticipantSlot.PendedIn (candidates : List ImmutableSequenceCandidate) (slot : ParticipantSlot) : Prop :=
  ∀ pending, slot.binding = .pendingFinalization pending → ∃ deliverySeq, candidates =
    [.bindingTerminal deliverySeq pending.identity.admissionOrder ⟨slot.participantId, pending.identity.bindingEpoch⟩]

namespace Agrees

variable {conversationId : ConversationId} {slot : ParticipantSlot} {p : FrontierParticipant}
  (h : Agrees conversationId slot p)

include h

theorem index : slot.participantId = p.participantIndex := by
  have hproj := h.projection
  unfold frontierProjection at hproj
  cases hbinding : slot.binding with
  | bound active | pendingFinalization pending =>
    simp only [hbinding, some.injEq, FrontierParticipant.mk.injEq] at hproj
    exact hproj.1
  | detached =>
    simp only [hbinding, map_eq_some_iff, FrontierParticipant.mk.injEq] at hproj
    obtain ⟨terminal, -, hindex, -⟩ := hproj
    exact hindex

theorem bound (hbound : slot.binding = .bound active) : p.binding = .bound active.bindingEpoch := by
  have hproj := h.projection
  simp only [frontierProjection, hbound, some.injEq, FrontierParticipant.mk.injEq] at hproj
  exact hproj.2.2.symm

theorem pended (hpended : slot.binding = .pendingFinalization pending) :
    p.binding = .detached pending.identity.bindingEpoch := by
  have hproj := h.projection
  simp only [frontierProjection, hpended, some.injEq, FrontierParticipant.mk.injEq] at hproj
  exact hproj.2.2.symm

theorem detached (hdet : slot.binding = .detached) :
    ∃ terminal, slot.member.latestTerminal = some terminal ∧ p.binding = .detached terminal.identity.bindingEpoch := by
  have hproj := h.projection
  simp only [frontierProjection, hdet, map_eq_some_iff, FrontierParticipant.mk.injEq] at hproj
  obtain ⟨terminal, hterm, -, -, hbinding⟩ := hproj
  exact ⟨terminal, hterm, hbinding.symm⟩

theorem level (hcursor : p.cursor = slot.member.cursor) : slot.frontierProjection = some p := by
  rw [h.projection, ← hcursor]

end Agrees

namespace Conversation

/-- Slots and participants are in step, and a pended slot has its candidate. -/
structure Coupled (s : Conversation) : Prop where
  agrees : List.Forall₂ (Agrees s.owner.frontiers.conversationId) s.slots
    s.owner.frontiers.activeIdentities.participants
  pended : ∀ slot ∈ s.slots, slot.PendedIn s.owner.frontiers.sequence.immutableCandidates

variable {s s' : Conversation}

namespace Coupled

variable {participant : ParticipantId} {pending : PendingFinalization} {slot' : ParticipantSlot}
  {owner' : LiveFrontierOwner} {projection : Option DeliverySeq} {candidates : List ImmutableSequenceCandidate}
  {deliverySeq cursor : DeliverySeq} {row : RetainedCausalRecord} {detachCell : DetachCell} {active : ActiveBinding}
  {fateToken : Option SealedBindingFateToken} {slot : ParticipantSlot}

/-- A slot whose token or finalizer changes keeps its place, also where the frontier's cursor has moved on. -/
theorem agrees_moved {p p' : FrontierParticipant} (hagrees : Agrees s.owner.frontiers.conversationId slot p)
    (hmember : slot'.member = slot.member) (hbinding : slot'.binding = slot.binding)
    (htoken : ∀ token ∈ slot'.fateToken, slot.fateToken = some token) (hindex : p'.participantIndex =
    p.participantIndex) (hsame : p'.binding = p.binding) (hcursor : p.cursor ≤ p'.cursor) (hbound : ∀ active,
    slot.binding = .bound active → p'.cursor = p.cursor) : Agrees s.owner.frontiers.conversationId slot' p' where
  projection := by
    have hproj := hagrees.projection
    unfold frontierProjection at hproj ⊢
    rw [participantId, hmember, hbinding, hindex, hsame]
    exact hproj
  conversation := hmember ▸ hagrees.conversation
  cursor := hmember ▸ hagrees.cursor.trans hcursor
  boundCursor := by
    intro active hactive
    rw [hbinding] at hactive
    rw [hmember, hbound active hactive]
    exact hagrees.boundCursor active hactive
  owned := by
    have howned := hagrees.owned
    unfold OwnsBinding at howned ⊢
    rw [participantId, hmember, hbinding]
    exact howned
  token := by
    intro token hmem
    rw [participantId, hmember]
    exact hagrees.token token (htoken token hmem)

variable (h : s.Coupled)

include h

theorem ids : s.slots.map participantId = s.owner.frontiers.activeIdentities.indexes :=
  Keyed.map_eq_of_forall₂ (fun _ _ h => h.index) h.agrees

theorem agrees_of_mem (hslot : slot ∈ s.slots) :
    ∃ p, s.owner.frontiers.activeIdentities.find? slot.participantId = some p ∧
      Agrees s.owner.frontiers.conversationId slot p := by
  obtain ⟨p, hp, hagrees⟩ := Keyed.exists_of_forall₂ h.agrees hslot
  exact ⟨p, find?_eq_some.mpr ⟨hp, hagrees.index.symm⟩, hagrees⟩

theorem lookup (hslot : s.slot? participant = some slot) :
    ∃ p, s.owner.frontiers.activeIdentities.find? slot.participantId = some p ∧
      Agrees s.owner.frontiers.conversationId slot p :=
  h.agrees_of_mem (slot?_eq_some hslot).1

theorem not_pended (hnil : s.owner.frontiers.sequence.immutableCandidates = [])
    (hslot : slot ∈ s.slots) : slot.binding ≠ .pendingFinalization pending := by
  intro hpended
  obtain ⟨deliverySeq, hcands⟩ := h.pended slot hslot pending hpended
  rw [hnil] at hcands
  cases hcands

theorem pendedIn_of_nil (hnil : s.owner.frontiers.sequence.immutableCandidates = [])
    (slot : ParticipantSlot) (hslot : slot ∈ s.slots) : slot.PendedIn candidates :=
  fun _ hpended => absurd hpended (h.not_pended hnil hslot)

/-- A terminal that is drained or composed was the only one pended. -/
theorem pendedIn_of_terminal {order : AdmissionOrder} {owner : BindingTerminalOwner}
    (hcands : s.owner.frontiers.sequence.immutableCandidates =
      [.bindingTerminal deliverySeq order owner]) (slot : ParticipantSlot) (hslot : slot ∈ s.slots)
    (hother : slot.participantId ≠ owner.participantIndex) : slot.PendedIn candidates := by
  intro pending hpended
  obtain ⟨_, hpending⟩ := h.pended slot hslot pending hpended
  rw [hcands, cons.injEq, ImmutableSequenceCandidate.bindingTerminal.injEq] at hpending
  exact absurd (congrArg BindingTerminalOwner.participantIndex hpending.1.2.2).symm hother

theorem leave (hident : committed.identity.participantId = slot.participantId)
    (hleaving : s.owner.Leaving committed.owner slot.member terminal charges
      committed.observerProgressProjection leftTransactionOrder) : (s.retire committed).Coupled := by
  obtain ⟨sequence, order, hresult, -⟩ := hleaving.frontiers.result
  constructor
  · change Forall₂ (Agrees committed.owner.frontiers.conversationId)
      (s.slots.filter fun old => old.participantId ≠ committed.identity.participantId)
      committed.owner.frontiers.activeIdentities.participants
    rw [hresult, hident]
    refine rel_filter ?_ h.agrees
    intro old p hagrees
    simp only [decide_eq_true_eq, hagrees.index]
  · intro old hold
    obtain ⟨hmem, hother⟩ := mem_filter.mp hold
    rw [decide_eq_true_eq, hident] at hother
    have hmatch := hleaving.frontiers.candidates
    cases terminal with
    | none => exact h.pendedIn_of_nil (isEmpty_iff.mp hmatch) old hmem
    | some terminal =>
      obtain ⟨-, hcands⟩ := of_decide_eq_true hmatch
      exact h.pendedIn_of_terminal hcands old hmem hother

variable (hfound : s.slot? slot.participantId = some slot)
  (hconv : owner'.frontiers.conversationId = s.owner.frontiers.conversationId)

include hconv

theorem commit (hparts : owner'.frontiers.activeIdentities.participants =
      replaceParticipant s.owner.frontiers.activeIdentities.participants p')
    (hagrees : Agrees s.owner.frontiers.conversationId slot' p')
    (hnew : slot'.PendedIn owner'.frontiers.sequence.immutableCandidates)
    (hold : ∀ slot ∈ s.slots, slot.participantId ≠ slot'.participantId →
      slot.PendedIn owner'.frontiers.sequence.immutableCandidates) : (s.commit slot' owner' projection).Coupled where
  agrees := by
    have hkey : ∀ slot p, Agrees s.owner.frontiers.conversationId slot p →
        slot.participantId = p.participantIndex := fun _ _ h => h.index
    have hreplaced := Keyed.forall₂_replace hkey slot'.participantId hagrees h.agrees
    change Forall₂ (Agrees owner'.frontiers.conversationId) (replaceSlot s.slots slot')
      owner'.frontiers.activeIdentities.participants
    rw [hconv, hparts]
    rw [hagrees.index] at hreplaced
    rw [replaceSlot, hagrees.index]
    exact hreplaced
  pended := by
    intro slot hslot
    obtain ⟨old, hmem, rfl⟩ := mem_map.mp hslot
    split
    · exact hnew
    · rename_i hne
      exact hold old hmem hne

theorem commit_kept (hfind : s.owner.frontiers.activeIdentities.find? slot.participantId = some p)
    (hparts : owner'.frontiers.activeIdentities.participants = s.owner.frontiers.activeIdentities.participants)
    (hagrees : Agrees s.owner.frontiers.conversationId slot' p)
    (hnew : slot'.PendedIn owner'.frontiers.sequence.immutableCandidates)
    (hold : ∀ slot ∈ s.slots, slot.participantId ≠ slot'.participantId →
      slot.PendedIn owner'.frontiers.sequence.immutableCandidates) : (s.commit slot' owner' projection).Coupled :=
  h.commit hconv (hparts.trans (replaceParticipant_of_find? hfind).symm) hagrees hnew hold

theorem enroll (happends : s.owner.Appends (s.enrolledParticipants participant epoch) [row] owner') : Coupled { s with
      owner := owner'
      slots := (s.slots ++ [s.enrolledSlot participant epoch]).insertionSort
        fun a b => a.participantId ≤ b.participantId } := by
  obtain ⟨hparts, hnil, -⟩ := happends.frontiers
  have hkey : ∀ slot p, Agrees s.owner.frontiers.conversationId slot p →
      slot.participantId = p.participantIndex := fun _ _ h => h.index
  have hnew : Agrees s.owner.frontiers.conversationId (s.enrolledSlot participant epoch)
      ⟨participant, 0, .bound epoch⟩ := {
    projection := rfl
    conversation := rfl
    cursor := Nat.le_refl 0
    boundCursor := fun _ _ => rfl
    owned := ⟨rfl, rfl⟩
    token := fun _ htoken => nomatch htoken }
  constructor
  · rw [hconv, hparts]
    exact Keyed.forall₂_insertionSort hkey (rel_append h.agrees (.cons hnew .nil))
  · intro slot hslot
    have hmem := (mem_insertionSort _).mp hslot
    rcases mem_append.mp hmem with hold | hlast
    · exact h.pendedIn_of_nil hnil slot hold
    · rw [mem_singleton.mp hlast]
      exact fun _ hpended => nomatch hpended

include hfound

theorem attach {binding rows}
    (howned : binding.participantId = slot.participantId ∧ binding.conversationId = slot.member.conversationId)
    (happends : s.owner.Appends (s.owner.withParticipant
      ⟨slot.participantId, slot.member.cursor, .bound binding.bindingEpoch⟩) rows owner') : (s.commit { slot with
      member := { slot.member with
        generation := binding.bindingEpoch.capabilityGeneration, latestTerminal }
      binding := .bound binding
      detachCell
      fateToken := some ⟨some ⟨binding, slot.member.cursor⟩, none, slot.member.cursor⟩ } owner'
      projection).Coupled := by
  obtain ⟨hparts, hnil, -⟩ := happends.frontiers
  obtain ⟨p, -, hagrees⟩ := h.lookup hfound
  refine h.commit hconv hparts ?_ (fun _ hpended => nomatch hpended)
    fun old hold _ => h.pendedIn_of_nil hnil old hold
  exact {
    projection := rfl
    conversation := hagrees.conversation
    cursor := Nat.le_refl _
    boundCursor := fun _ _ => rfl
    owned := howned
    token := by
      rintro _ ⟨⟩
      exact ⟨rfl, _, rfl, howned.1⟩ }

theorem terminate (hbound : slot.binding = .bound active)
    (hepoch : terminal.identity.bindingEpoch = active.bindingEpoch)
    (htoken : ∀ token ∈ fateToken, slot.fateToken = some token) (hkept : cursor = slot.member.cursor ∨ ∃ current,
      s.owner.frontiers.activeIdentities.find? slot.participantId = some current ∧ cursor = current.cursor)
    (happends : s.owner.Appends (s.owner.withParticipant
      ⟨slot.participantId, cursor, .detached active.bindingEpoch⟩) [row] owner') : (s.commit { slot with
      member := { slot.member with latestTerminal := some terminal }
      binding := .detached
      detachCell
      fateToken } owner' projection).Coupled := by
  obtain ⟨hparts, hnil, -⟩ := happends.frontiers
  obtain ⟨p, hfind, hagrees⟩ := h.lookup hfound
  -- Both routes keep the cursor: the member's own, or the frontier's, which is the same while bound.
  obtain rfl : cursor = slot.member.cursor := by
    rcases hkept with hmember | ⟨current, hcurrent, hcursor⟩
    · exact hmember
    · rw [hfind, some.injEq] at hcurrent
      rw [hcursor, ← hcurrent]
      exact hagrees.boundCursor active hbound
  refine h.commit hconv hparts ?_ (fun _ hpended => nomatch hpended)
    fun old hold _ => h.pendedIn_of_nil hnil old hold
  exact {
    projection := by
      simp only [frontierProjection, map_some, hepoch]
    conversation := hagrees.conversation
    cursor := Nat.le_refl _
    boundCursor := fun _ hbound => nomatch hbound
    owned := trivial
    token := fun token hmem => hagrees.token token (htoken token hmem) }

theorem pend {order} (hbound : slot.binding = .bound active) (hident : pending.identity = .fromActive active order)
    (htoken : ∀ token ∈ fateToken, slot.fateToken = some token)
    (hpend : s.owner.pendBindingTerminalCandidate active (.bindingTerminal order active.participantId)
      deliverySeq = .ok owner') : (s.commit { slot with
      binding := .pendingFinalization pending
      detachCell
      fateToken } owner' projection).Coupled := by
  obtain ⟨p, hfind, hagrees⟩ := h.lookup hfound
  have howned := hagrees.owned
  simp only [OwnsBinding, hbound] at howned
  obtain ⟨hpart, hactive⟩ := howned
  obtain ⟨ledger, -, frontiers, hfronts, rfl⟩ := pendBindingTerminalCandidate_eq_ok.mp hpend
  obtain ⟨hfree, current, hcurrent, -, ranks, hranks, -, -, -, -, -, -, -, -, rfl⟩ :=
    applyPendingBindingTerminal_eq_ok.mp hfronts
  have hnil := (liveTransitionBlocked_eq_false.mp hfree).1
  rw [hpart, hfind, some.injEq] at hcurrent
  subst hcurrent
  refine h.commit hconv hranks ?_ ?_ fun old hold _ => h.pendedIn_of_nil hnil old hold
  · exact {
      projection := by
        simp only [frontierProjection, hident, BindingTerminalIdentity.fromActive, hpart]
      conversation := hagrees.conversation
      cursor := hagrees.cursor
      boundCursor := fun _ hbound => nomatch hbound
      owned := by
        simp only [OwnsBinding, hident, BindingTerminalIdentity.fromActive]
        exact ⟨hpart, hactive⟩
      token := fun token hmem => hagrees.token token (htoken token hmem) }
  · rintro _ ⟨⟩
    rw [hident, ← hpart]
    exact ⟨_, rfl⟩

theorem drain (hpended : slot.binding = .pendingFinalization pending)
    (hdrain : s.owner.drainPendingTerminal pending charge = .ok (owner', deliverySeq)) : (s.commit { slot with
      member := { slot.member with latestTerminal := some (pending.commit deliverySeq) }
      binding := .detached
      detachCell } owner' projection).Coupled := by
  obtain ⟨hslot, -, -⟩ := slot?_eq_some hfound
  obtain ⟨p, hfind, hagrees⟩ := h.lookup hfound
  obtain ⟨-, -, -, -, accounting, -, frontiers, record, hfronts, rfl, -⟩ :=
    drainPendingTerminal_eq_ok.mp hdrain
  obtain ⟨-, -, ledger, -, -, -, -, -, -, -, rfl⟩ := drainFirstBindingTerminal_eq_ok.mp hfronts
  obtain ⟨_, hcands⟩ := h.pended slot hslot pending hpended
  refine h.commit_kept hconv hfind rfl ?_ (fun _ hpended => nomatch hpended)
    fun old hold hother => h.pendedIn_of_terminal hcands old hold hother
  exact {
    projection := by
      simp only [frontierProjection, map_some,
        PendingFinalization.commit_identity, hagrees.pended hpended, ← hagrees.index]
    conversation := hagrees.conversation
    cursor := hagrees.cursor
    boundCursor := fun _ hbound => nomatch hbound
    owned := trivial
    token := hagrees.token }

/-- The member's half of a measured or completed fate; the frontier has kept its participants. -/
theorem keep (hmember : slot'.member = slot.member) (hbinding : slot'.binding = slot.binding)
    (htoken : ∀ token ∈ slot'.fateToken, slot.fateToken = some token) (hparts : owner'.frontiers.activeIdentities =
    s.owner.frontiers.activeIdentities) (hseq : owner'.frontiers.sequence = s.owner.frontiers.sequence) :
    (s.commit slot' owner' projection).Coupled := by
  obtain ⟨hslot, -, -⟩ := slot?_eq_some hfound
  obtain ⟨p, hfind, hagrees⟩ := h.lookup hfound
  refine h.commit_kept hconv hfind (by rw [hparts])
    (agrees_moved hagrees hmember hbinding htoken rfl rfl (Nat.le_refl _) fun _ _ => rfl) ?_ ?_
  · rw [hseq]
    intro pending hpended
    rw [hbinding] at hpended
    rw [participantId, hmember]
    exact h.pended slot hslot pending hpended
  · rw [hseq]
    exact fun old hold _ => h.pended old hold

omit hconv

theorem acknowledge (hbound : slot.binding = .bound active)
    (htoken : ∀ token ∈ fateToken, token.OrdinaryFor slot.participantId)
    (hcurrent : s.owner.frontiers.activeIdentities.find? slot.participantId = some current) :
    (s.commit { slot with member := { slot.member with cursor }, fateToken }
      (s.owner.withCursor current cursor accounting) projection).Coupled := by
  obtain ⟨p, hfind, hagrees⟩ := h.lookup hfound
  rw [hfind, some.injEq] at hcurrent
  subst hcurrent
  have howned := hagrees.owned
  simp only [OwnsBinding, hbound] at howned
  refine h.commit rfl rfl ?_ ?_ fun old hold _ => h.pended old hold
  · exact {
      projection := by
        simp only [frontierProjection, hbound, hagrees.bound hbound, hagrees.index]
      conversation := hagrees.conversation
      cursor := Nat.le_refl _
      boundCursor := fun _ _ => rfl
      owned := by
        simp only [OwnsBinding, hbound]
        exact howned
      token := htoken }
  · intro pending hpended
    rw [hbound] at hpended
    cases hpended

theorem fate {token fate} (hseated : s.owner.frontiers.Seated) (hheld : slot.fateToken = some token)
    (hprepare : s.owner.prepareBindingFate token terminal observer = .ok (owner', fate)) : (s.commit
    { slot with fateToken := none } owner' projection).Coupled := by
  obtain ⟨hslot, -, -⟩ := slot?_eq_some hfound
  obtain ⟨p, hfind, hagrees⟩ := h.lookup hfound
  obtain ⟨current, epoch, hcurrent, hdet, -, -, hfloored⟩ :=
    prepareBindingFate_ordinary (hagrees.token token hheld) hprepare
  rw [hfind, some.injEq] at hcurrent
  subst hcurrent
  have hseq : owner'.frontiers.sequence = s.owner.frontiers.sequence := by
    rw [hfloored.frontiers]
    rfl
  refine h.commit (by rw [hfloored.frontiers]; rfl) (by rw [hfloored.frontiers]; rfl) ?_ ?_ ?_
  · obtain ⟨hmem, -⟩ := find?_eq_some.mp hfind
    refine agrees_moved hagrees rfl rfl (fun _ htoken => nomatch htoken) hagrees.index
      hdet.symm (hseated.admissible p hmem).2 fun active hbound => ?_
    rw [hagrees.bound hbound] at hdet
    cases hdet
  · rw [hseq]
    exact h.pended slot hslot
  · rw [hseq]
    exact fun old hold _ => h.pended old hold

end Coupled

theorem Effect.coupled (h : Effect s op s') (hsound : s.owner.Sound) (hcoupled : s.Coupled) : s'.Coupled := by
  have hconv := h.ownerStep.keeps.conversation
  cases h with
  | enrolled _ happends => exact hcoupled.enroll hconv happends
  | attached hfound _ howned happends _ => exact hcoupled.attach hfound hconv howned happends
  | ended hfound hbound hepoch htoken hkept happends =>
    exact hcoupled.terminate hfound hconv hbound hepoch htoken hkept happends
  | pended hfound hbound hident htoken hpend =>
    exact hcoupled.pend hfound hconv hbound hident htoken hpend
  | drained hfound hpended hdrain => exact hcoupled.drain hfound hconv hpended hdrain
  | recorded hproject =>
    obtain ⟨hnil, -, plan, markerState, search, rfl, -⟩ := projectOrdinaryRecord_eq_ok hproject
    exact ⟨hcoupled.agrees, hcoupled.pendedIn_of_nil hnil⟩
  | markerDrained hdrain =>
    obtain ⟨frontiers, marker, state, accounting, hfronts, -, -, rfl⟩ :=
      drainNextMarker_eq_ok hdrain
    obtain ⟨rest, _, _, hcands, -, -, -, -, -, rfl⟩ := drainNextMarkerCore_eq_ok hfronts
    refine ⟨hcoupled.agrees, fun slot hslot pending hpended => ?_⟩
    obtain ⟨_, hpending⟩ := hcoupled.pended slot hslot pending hpended
    rw [hcands] at hpending
    cases hpending
  | @acked _ slot _ _ _ _ hfound hbound _ htoken hack =>
    obtain ⟨p, -, hagrees⟩ := hcoupled.lookup hfound
    have hprogressed := htoken slot.participantId hagrees.token
    rcases hack with hack | hack
    · obtain ⟨current, accounting, hcurrent, -, -, -, rfl⟩ := applyAckFrontier_eq_ok hack
      exact hcoupled.acknowledge hfound hbound hprogressed hcurrent
    · obtain ⟨current, accounting, -, hcurrent, -, -, -, rfl⟩ := applyMarkerAckFrontier_eq_ok hack
      exact hcoupled.acknowledge hfound hbound hprogressed hcurrent
  | left _ _ hident hleaving => exact hcoupled.leave hident.1 hleaving
  | fated hfound hheld hprepare => exact hcoupled.fate hfound hsound.seated hheld hprepare
  | measured hfound _ _ _ =>
    exact hcoupled.keep hfound rfl rfl rfl (fun _ htoken => nomatch htoken) rfl rfl
  | completed hfound _ _ hcompl =>
    rcases installFinalizedBindingFateFloor_eq_ok hcompl with rfl | ⟨_, -, hfloored⟩
    · exact hcoupled.keep hfound rfl rfl rfl (fun _ htoken => htoken) rfl rfl
    · exact hcoupled.keep hfound hconv rfl rfl (fun _ htoken => htoken)
        (by rw [hfloored.frontiers]; rfl) (by rw [hfloored.frontiers]; rfl)

theorem Started.coupled {closure epoch order} (h : s.Started closure epoch order) : s.Coupled where
  agrees := by
    rw [h.slots, h.participants]
    refine .cons ?_ .nil
    exact {
      projection := rfl
      conversation := rfl
      cursor := Nat.le_refl 0
      boundCursor := fun _ _ => rfl
      owned := ⟨rfl, rfl⟩
      token := fun _ htoken => nomatch htoken }
  pended := by
    rw [h.slots]
    intro slot hslot pending hpended
    rw [mem_singleton.mp hslot] at hpended
    cases hpended

/-- The invariant rule for conversations: a step starts in a sound conversation with its slots in step, and
has an effect. -/
theorem reaches_invariant {Inv : Conversation → Prop}
    (hstart : ∀ s closure epoch order, s.Started closure epoch order → Inv s)
    (hnext : ∀ s op s', s.owner.Sound → s.Coupled → Inv s → permitted s op → Effect s op s' → Inv s')
    (h : conversationMachine.Reaches permitted s) : Inv s := by
  suffices hkept : s.owner.Sound ∧ s.Coupled ∧ Inv s from hkept.2.2
  apply h.invariant
  · intro s hs
    obtain ⟨closure, epoch, order, hstarted⟩ := hs.started
    exact ⟨hstarted.sound, hstarted.coupled, hstart s closure epoch order hstarted⟩
  · rintro s op s' ⟨hsound, hcoupled, hinv⟩ hpermitted happly
    have heffect := (apply_effect hsound.laidOut happly).1
    exact ⟨sound_step hsound happly, heffect.coupled hsound hcoupled,
      hnext s op s' hsound hcoupled hinv hpermitted heffect⟩

theorem coupled_of_reachable (h : conversationMachine.Reachable s) : s.Coupled :=
  reaches_invariant (fun _ _ _ _ hstarted => hstarted.coupled)
    (fun _ _ _ hsound hcoupled _ _ heffect => heffect.coupled hsound hcoupled) h

end Conversation

end Liminal
