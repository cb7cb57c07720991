import Liminal.Conversation.Measurements
import Liminal.Server

/-!
# Slots and frontier of the server

A connection fate leaves the member's history alone, and the drain of a pended death erases the slot
while the participant stays in the frontier. Both are seen against a conversation with the same
frontier that keeps every slot and records every terminal; what the server has is a part of its
slots.
-/

namespace Liminal

open Checked Fallible LiveFrontierOwner ParticipantSlot List

def ParticipantSlot.withTerminal (slot : ParticipantSlot) (terminal : Option CommittedBindingTerminal) :
    ParticipantSlot :=
  { slot with member := { slot.member with latestTerminal := terminal } }

def ParticipantSlot.Bears (slot : ParticipantSlot) (binding : FrontierBinding) : Prop :=
  match slot.binding with
  | .bound active => binding = .bound active.bindingEpoch
  | .pendingFinalization pending => binding = .detached pending.identity.bindingEpoch
  | .detached => ∃ epoch, binding = .detached epoch

namespace Conversation

variable {s s' : Conversation} {ghosts : List ParticipantSlot} {op : Operation} {slot' slot : ParticipantSlot}

def haunt (s : Conversation) (ghosts : List ParticipantSlot) : Conversation := { s with slots := ghosts }

/-- Every slot is one of a coupled conversation; the others there are detached for good. -/
structure Shadowed (s : Conversation) (ghosts : List ParticipantSlot) : Prop where
  coupled : (s.haunt ghosts).Coupled
  kept : ∀ slot ∈ s.slots, ∃ terminal, slot.withTerminal terminal ∈ ghosts
  erased : ∀ ghost ∈ ghosts, ghost.binding = .detached ∨ ∃ slot ∈ s.slots, slot.participantId = ghost.participantId

namespace Shadowed

variable {owner' : LiveFrontierOwner}

section

variable (h : s.Shadowed ghosts)

include h

theorem lookup (hfound : s.slot? slot.participantId = some slot) :
    ∃ terminal, (s.haunt ghosts).slot? (slot.withTerminal terminal).participantId =
      some (slot.withTerminal terminal) := by
  obtain ⟨terminal, hmem⟩ := h.kept slot (slot?_eq_some hfound).1
  exact ⟨terminal, h.coupled.slot?_of_mem (s := s.haunt ghosts) hmem⟩

theorem commit (hfound : s.slot? slot.participantId = some slot) (hid : slot'.participantId =
    slot.participantId) (hcoupled : ((s.haunt ghosts).commit (slot'.withTerminal terminal) owner' projection).Coupled) :
    (s.commit slot' owner' projection).Shadowed (replaceSlot ghosts (slot'.withTerminal terminal)) where
  coupled := hcoupled
  kept := by
    intro current hcurrent
    obtain ⟨old, hold, rfl⟩ := mem_map.mp hcurrent
    obtain ⟨history, hghost⟩ := h.kept old hold
    split
    · rename_i hsame
      exact ⟨terminal, mem_map.mpr ⟨_, hghost, if_pos hsame⟩⟩
    · rename_i hother
      exact ⟨history, mem_map.mpr ⟨_, hghost, if_neg hother⟩⟩
  erased := by
    intro ghost hghost
    obtain ⟨old, hold, rfl⟩ := mem_map.mp hghost
    have hnew : slot' ∈ replaceSlot s.slots slot' :=
      mem_map.mpr ⟨slot, (slot?_eq_some hfound).1, if_pos hid.symm⟩
    split
    · exact Or.inr ⟨slot', hnew, rfl⟩
    · rename_i hother
      rcases h.erased old hold with hdet | ⟨current, hcurrent, hsame⟩
      · exact Or.inl hdet
      · have hne : current.participantId ≠ slot'.participantId := hsame ▸ hother
        exact Or.inr ⟨current, mem_map.mpr ⟨current, hcurrent, if_neg hne⟩, hsame⟩

theorem listed (hslot : slot ∈ s.slots) : ∃ p, s.owner.frontiers.activeIdentities.find? slot.participantId = some p ∧
      slot.Bears p.binding ∧ slot.member.cursor ≤ p.cursor ∧
      ∀ active, slot.binding = .bound active → p.cursor = slot.member.cursor := by
  obtain ⟨terminal, hghost⟩ := h.kept slot hslot
  obtain ⟨p, hfind, hagrees⟩ := h.coupled.agrees_of_mem hghost
  refine ⟨p, hfind, ?_, hagrees.cursor, hagrees.boundCursor⟩
  unfold Bears
  cases hbinding : slot.binding with
  | bound active => exact hagrees.bound hbinding
  | pendingFinalization pending => exact hagrees.pended hbinding
  | detached =>
    obtain ⟨terminal, -, hdet⟩ := hagrees.detached hbinding
    exact ⟨_, hdet⟩

theorem rest (hp : p ∈ s.owner.frontiers.activeIdentities.participants) :
    (∃ slot ∈ s.slots, slot.participantId = p.participantIndex) ∨ ∃ epoch, p.binding = .detached epoch := by
  obtain ⟨ghost, hghost, hagrees⟩ := Keyed.exists_of_forall₂ (Forall₂.flip h.coupled.agrees) hp
  rcases h.erased ghost hghost with hdet | ⟨slot, hslot, hid⟩
  · obtain ⟨terminal, -, hbinding⟩ := hagrees.detached hdet
    exact Or.inr ⟨_, hbinding⟩
  · exact Or.inl ⟨slot, hslot, hid.trans hagrees.index⟩

theorem filter {participant erased retired observerProgress}
    (hcoupled : Coupled ⟨s.config, owner', erased, retired, observerProgress⟩)
    (hkept : ∀ ghost ∈ ghosts, ghost.participantId ≠ participant → ghost ∈ erased)
    (hghosts : ∀ ghost ∈ erased, (ghost.participantId ≠ participant ∧ ghost ∈ ghosts) ∨ ghost.binding = .detached) :
    Shadowed ⟨s.config, owner', s.slots.filter fun slot => slot.participantId ≠ participant, retired,
      observerProgress⟩ erased where
  coupled := hcoupled
  kept := by
    intro slot hslot
    obtain ⟨hmem, hother⟩ := mem_filter.mp hslot
    obtain ⟨terminal, hghost⟩ := h.kept slot hmem
    exact ⟨terminal, hkept _ hghost (of_decide_eq_true hother)⟩
  erased := by
    intro ghost hghost
    rcases hghosts ghost hghost with ⟨hother, hmem⟩ | hdet
    · rcases h.erased ghost hmem with hdet | ⟨slot, hslot, hid⟩
      · exact Or.inl hdet
      · exact Or.inr ⟨slot, mem_filter.mpr ⟨hslot, decide_eq_true (hid ▸ hother)⟩, hid⟩
    · exact Or.inl hdet

theorem refloor {measuredFloor} (hinstall : s.owner.installFinalizedBindingFateFloor measuredFloor = .ok owner') :
    Shadowed { s with owner := owner' } ghosts := by
  rcases installFinalizedBindingFateFloor_eq_ok hinstall with rfl | ⟨floor, -, hfloored⟩
  · exact h
  · refine ⟨⟨?_, ?_⟩, h.kept, h.erased⟩
    · change Forall₂ (Agrees owner'.frontiers.conversationId) ghosts owner'.frontiers.activeIdentities.participants
      rw [hfloored.frontiers]
      exact h.coupled.agrees
    · change ∀ ghost ∈ ghosts, ghost.PendedIn owner'.frontiers.sequence.immutableCandidates
      rw [hfloored.frontiers]
      exact h.coupled.pended

end

end Shadowed

/-- What an operation does to the server's slots it would have done to the others' as well. -/
theorem Effect.shadowed (h : Effect s op s') (hsound : s.owner.Sound) (hshadow : s.Shadowed ghosts) :
    ∃ ghosts', s'.Shadowed ghosts' := by
  have hconv := h.ownerStep.keeps.conversation
  have hcoupled := hshadow.coupled
  have hcommit {slot slot' ghost owner' projection} (terminal : Option CommittedBindingTerminal) (heffect : Effect
      (s.haunt ghosts) op ((s.haunt ghosts).commit ghost owner' projection)) (hfound : s.slot? slot.participantId =
      some slot) (hid : slot'.participantId = slot.participantId) (hghost : ghost = slot'.withTerminal terminal) :
      ∃ ghosts', (s.commit slot' owner' projection).Shadowed ghosts' :=
    ⟨_, hshadow.commit hfound hid (hghost ▸ heffect.coupled hsound hcoupled)⟩
  cases h with
  | @enrolled participant epoch _ _ _ _ _ _ _ happends =>
    refine ⟨_, hcoupled.enroll hconv happends, fun slot hslot => ?_, fun ghost hghost => ?_⟩
    · rcases mem_append.mp ((mem_insertionSort _).mp hslot) with hold | hnew
      · obtain ⟨terminal, hghost⟩ := hshadow.kept slot hold
        exact ⟨terminal, (mem_insertionSort _).mpr (mem_append_left _ hghost)⟩
      · rw [mem_singleton.mp hnew]
        exact ⟨none, (mem_insertionSort _).mpr (mem_append_right _ (by simp; rfl))⟩
    · rcases mem_append.mp ((mem_insertionSort _).mp hghost) with hold | hnew
      · refine (hshadow.erased ghost hold).imp_right fun ⟨slot, hslot, hid⟩ => ⟨slot, ?_, hid⟩
        exact (mem_insertionSort _).mpr (mem_append_left _ hslot)
      · refine Or.inr ⟨s.enrolledSlot participant epoch, ?_, ?_⟩
        · exact (mem_insertionSort _).mpr (mem_append_right _ (by simp))
        · rw [mem_singleton.mp hnew]
          rfl
  | attached hfound hsettled howned happends hprojd =>
    obtain ⟨_, hghost⟩ := hshadow.lookup hfound
    exact hcommit none (.attached hghost hsettled howned happends hprojd) hfound rfl rfl
  | ended hfound hbound hepoch htoken hkept happends =>
    obtain ⟨_, hghost⟩ := hshadow.lookup hfound
    exact hcommit _ (.ended hghost hbound hepoch htoken hkept happends) hfound rfl rfl
  | pended hfound hbound hident htoken hpend =>
    obtain ⟨_, hghost⟩ := hshadow.lookup hfound
    exact hcommit _ (.pended hghost hbound hident htoken hpend) hfound rfl rfl
  | drained hfound hpended hdrain =>
    obtain ⟨_, hghost⟩ := hshadow.lookup hfound
    exact hcommit _ (.drained hghost hpended hdrain) hfound rfl rfl
  | recorded hproject =>
    have heffect := Effect.recorded (s := s.haunt ghosts) hproject
    exact ⟨ghosts, heffect.coupled hsound hcoupled, hshadow.kept, hshadow.erased⟩
  | markerDrained hdrain =>
    have heffect := Effect.markerDrained (s := s.haunt ghosts) hdrain
    exact ⟨ghosts, heffect.coupled hsound hcoupled, hshadow.kept, hshadow.erased⟩
  | acked hfound hbound hadvances htoken hack =>
    obtain ⟨_, hghost⟩ := hshadow.lookup hfound
    exact hcommit _ (.acked hghost hbound hadvances htoken hack) hfound rfl rfl
  | @left _ _ _ _ _ committed _ _ hident hleaving =>
    refine ⟨_, hshadow.filter (hcoupled.leave hident.1 hleaving) (fun ghost hghost hother => ?_)
      fun ghost hghost => ?_⟩
    · exact mem_filter.mpr ⟨hghost, decide_eq_true hother⟩
    · obtain ⟨hmem, hother⟩ := mem_filter.mp hghost
      exact Or.inl ⟨of_decide_eq_true hother, hmem⟩
  | @fated _ kind _ _ _ _ _ hfound hheld hprepare =>
    obtain ⟨_, hghost⟩ := hshadow.lookup hfound
    have heffect := @Effect.fated (s.haunt ghosts) _ kind _ _ _ _ _ hghost hheld hprepare
    exact hcommit _ heffect hfound rfl rfl
  | measured hfound hheld hpended hprepare =>
    obtain ⟨_, hghost⟩ := hshadow.lookup hfound
    have heffect := Effect.measured hghost hheld hpended hprepare
    exact hcommit _ heffect hfound rfl rfl
  | completed hfound hmeas hsettled hcompl =>
    obtain ⟨_, hghost⟩ := hshadow.lookup hfound
    exact hcommit _ (.completed hghost hmeas hsettled hcompl) hfound rfl rfl

theorem Effect.slots_from (h : Effect s op s')
    (hop : ∀ slot epoch order deliverySeq charge, op ≠ .enroll slot epoch order deliverySeq charge)
    (hslot' : slot' ∈ s'.slots) : ∃ slot ∈ s.slots, slot.participantId = slot'.participantId := by
  have hcommit {slot moved : ParticipantSlot} {owner : LiveFrontierOwner} {projection : Option DeliverySeq}
      (hmem : slot' ∈ (s.commit moved owner projection).slots) (hfound : s.slot? slot.participantId = some slot)
      (hid : moved.participantId = slot.participantId) : ∃ slot ∈ s.slots, slot.participantId =
      slot'.participantId := by
    rcases mem_replaceSlot hmem with rfl | hold
    · exact ⟨slot, (slot?_eq_some hfound).1, hid.symm⟩
    · exact ⟨slot', hold, rfl⟩
  cases h with
  | enrolled => exact absurd rfl (hop _ _ _ _ _)
  | attached hfound | ended hfound | pended hfound | drained hfound | acked hfound
  | fated hfound | measured hfound | completed hfound => exact hcommit hslot' hfound rfl
  | recorded | markerDrained => exact ⟨slot', hslot', rfl⟩
  | left => exact ⟨slot', mem_of_mem_filter hslot', rfl⟩

theorem Coupled.congr {c : Conversation} (h : s.Coupled) (howner : c.owner = s.owner)
    (hslots : c.slots = s.slots) : c.Coupled := by
  refine ⟨?_, ?_⟩
  · rw [howner, hslots]
    exact h.agrees
  · rw [howner, hslots]
    exact h.pended

theorem replaceSlot_replaceSlot {slots} (h : slot.participantId = slot'.participantId) :
    replaceSlot (replaceSlot slots slot) slot' = replaceSlot slots slot' := by
  rw [replaceSlot, replaceSlot, replaceSlot, map_map]
  refine map_congr_left fun current _ => ?_
  by_cases hcurrent : current.participantId = slot.participantId
  · simp [hcurrent, h]
  · simp [hcurrent]

theorem Coupled.fate_again {owner' projection token fate}
    (h : (s.commit slot' admitted projection).Coupled) (hseated : admitted.frontiers.Seated)
    (hfound : s.slot? slot'.participantId = some slot) (hid : slot'.participantId = slot.participantId)
    (hheld : slot'.fateToken = some token) (hprepare : admitted.prepareBindingFate token terminal observer = .ok
    (owner', fate)) : (s.commit { slot' with fateToken := none } owner' projection').Coupled := by
  have hfated := @Coupled.fate _ _ none _ h (slot?_commit hfound hid) _ _ _ _ hseated hheld hprepare
  have hslots : replaceSlot s.slots { slot' with fateToken := none } =
      replaceSlot (replaceSlot s.slots slot') { slot' with fateToken := none } := by
    rw [replaceSlot_replaceSlot]
    rfl
  exact hfated.congr rfl hslots

end Conversation

namespace ConversationAuthority

open Conversation

variable {a a' : ConversationAuthority} {ghosts : List ParticipantSlot} {owner owner' : LiveFrontierOwner}
  {participant : ParticipantId} {progress : DeliverySeq} {projection : Option DeliverySeq} {cause : TerminalCause}

/-! ### Connection fates -/

/-- An ordinary token is measured with its terminal, and waits for one if there is none. -/
theorem measureSpecificFate_ordinary (hfor : token.OrdinaryFor participant)
    (h : measureSpecificFate owner token terminal progress = some (owner', projection)) :
    projection = none ∧ (terminal = none ∧ owner' = owner ∨ ∃ died fate, terminal = some died ∧
      owner.prepareBindingFate token (.ordinary died) progress = .ok (owner', fate)) := by
  obtain ⟨hrecov, authority, hauth, -⟩ := hfor
  have hintent : token.intent = some .ordinary := by
    rw [SealedBindingFateToken.intent, hauth, hrecov]
  cases terminal with
  | none =>
    simp only [measureSpecificFate, hintent, Option.some.injEq, Prod.mk.injEq] at h
    exact ⟨h.2.symm, Or.inl ⟨rfl, h.1.symm⟩⟩
  | some died =>
    simp only [measureSpecificFate, hintent, some_iff, Prod.exists, Prod.mk.injEq] at h
    obtain ⟨_, fate, hprepare, rfl, rfl⟩ := h
    exact ⟨rfl, Or.inr ⟨died, fate, rfl, hprepare⟩⟩

theorem measureCause_ordinary (hfor : ∀ token ∈ slot.fateToken, token.OrdinaryFor slot.participantId)
    (h : measureCause owner slot cause terminal progress = some (owner', projection)) :
    projection = none ∧ (owner' = owner ∨ ∃ token died fate, slot.fateToken = some token ∧
      (∃ cause, terminal cause = some died) ∧
      owner.prepareBindingFate token (.ordinary died) progress = .ok (owner', fate)) := by
  unfold measureCause at h
  split at h
  · rename_i died token htoken
    obtain ⟨hproj, ⟨-, howner⟩ | ⟨terminal, fate, hterm, hprepare⟩⟩ :=
      measureSpecificFate_ordinary (hfor token htoken) h
    · exact ⟨hproj, Or.inl howner⟩
    · exact ⟨hproj, Or.inr ⟨token, terminal, fate, htoken, ⟨died, hterm⟩, hprepare⟩⟩
  · simp only [Option.some.injEq, Prod.mk.injEq] at h
    exact ⟨h.2.symm, Or.inl h.1.symm⟩

/-- What a connection fate does: the terminal is committed, and the fate of the binding measured if its slot
has a token; or the terminal is pended. -/
inductive Fated (a : ConversationAuthority) (slot : ParticipantSlot) (active : ActiveBinding)
    (deliverySeq : DeliverySeq) : ConversationAuthority → Prop
  | committed {cursor : DeliverySeq} {row : RetainedCausalRecord} {admitted owner : LiveFrontierOwner}
      (placed : row.deliverySeq = deliverySeq)
      (kept : ∃ current, a.conversation.owner.frontiers.activeIdentities.find? slot.participantId =
        some current ∧ cursor = current.cursor)
      (appends : a.conversation.owner.Appends (a.conversation.owner.withParticipant
        ⟨slot.participantId, cursor, .detached active.bindingEpoch⟩) [row] admitted)
      (measured : owner = admitted ∨ ∃ token died progress fate, slot.fateToken = some token ∧
        admitted.prepareBindingFate token (.ordinary died) progress = .ok (owner, fate)) :
      Fated a slot active deliverySeq { a with
        conversation := a.conversation.commit { slot with binding := .detached, fateToken := none } owner
          (some row.deliverySeq) }
  | pended {cause : TerminalCause} {order : TransactionOrder} {owner : LiveFrontierOwner}
      (pend : a.conversation.owner.pendBindingTerminalCandidate active
        (.bindingTerminal order active.participantId) deliverySeq = .ok owner) :
      Fated a slot active deliverySeq { a with
        conversation := a.conversation.commit { slot with
          binding := .pendingFinalization (active.pendTerminal cause order)
          fateToken := openToken cause slot.fateToken } owner none }

theorem openToken_eq_some : ∀ kept ∈ openToken cause token, token = some kept :=
  fun kept hkept => survivingToken_eq_some kept (Option.filter_eq_some_iff.mp hkept).1

theorem frontier_eq_some (h : a.frontier = some owner) : a.closed = false ∧ owner = a.conversation.owner := by
  unfold frontier at h
  split at h
  · cases h
  · rename_i hopen
    exact ⟨by simpa using hopen, (Option.some.inj h).symm⟩

theorem completeTarget_fated (hshadow : a.conversation.Shadowed ghosts)
    (h : a.completeTarget participant cause order deliverySeq charge = some a') :
    a.closed = false ∧ ∃ slot active, slot.participantId = participant ∧
      a.conversation.slot? slot.participantId = some slot ∧ slot.binding = .bound active ∧
      Fated a slot active deliverySeq a' := by
  simp only [completeTarget, bind_eq_some] at h
  obtain ⟨owner, howner, slot, hslot, h⟩ := h
  obtain ⟨hopen, rfl⟩ := frontier_eq_some howner
  obtain ⟨-, hid, hfound⟩ := slot?_eq_some hslot
  obtain ⟨terminal, hghost⟩ := hshadow.lookup hfound
  obtain ⟨p, -, hagrees⟩ := hshadow.coupled.lookup hghost
  split at h
  · rename_i active hbound
    have howned := hagrees.owned
    simp only [OwnsBinding, withTerminal, hbound] at howned
    simp only [some_iff, prepareBindingTerminal_eq_ok] at h
    obtain ⟨prepared, ⟨-, -, -, -, rfl⟩, h⟩ := h
    refine ⟨hopen, slot, active, hid, hfound, hbound, ?_⟩
    split at h
    · rename_i admitted hadmit
      simp only [some_iff, Prod.exists] at h
      obtain ⟨owner, projection, hmeasure, rfl⟩ := h
      obtain ⟨-, hmeas⟩ := measureCause_ordinary hagrees.token hmeasure
      obtain ⟨current, hcurrent, happends⟩ := commitBindingTerminalCandidate_appends (admitTerminal_eq_commit hadmit)
      have hactive : active.participantId = slot.participantId := howned.1
      rw [hactive] at hcurrent happends
      refine .committed rfl ⟨current, hcurrent, rfl⟩ happends ?_
      rcases hmeas with rfl | ⟨token, died, fate, htoken, -, hprepare⟩
      · exact Or.inl rfl
      · exact Or.inr ⟨token, died, _, fate, htoken, hprepare⟩
    · rename_i admitted blocked hadmit
      simp only [some_iff, Prod.exists] at h
      obtain ⟨owner, projection, hmeasure, rfl⟩ := h
      obtain ⟨rfl, hmeas⟩ := measureCause_ordinary hagrees.token hmeasure
      obtain rfl : owner = admitted := by
        rcases hmeas with howner | ⟨_, _, _, -, ⟨_, hnone⟩, -⟩
        · exact howner
        · cases hnone
      exact .pended (admitTerminal_eq_pending hadmit)
    · cases h
  · cases h

/-! ### The invariant -/

/-- What every operation of the server keeps. A slot has its token, so a conversation without tokens has no slot. -/
structure Kept (a : ConversationAuthority) : Prop where
  sound : a.conversation.owner.Sound
  shadowed : ∃ ghosts, a.conversation.Shadowed ghosts
  sealed : a.closed = a.tokens.isEmpty
  mapped : ∀ slot ∈ a.conversation.slots, ∃ token, (token, slot.participantId) ∈ a.tokens

namespace Kept

variable {order : TransactionOrder} {deliverySeq : DeliverySeq} {charge : RetainedRecordCharge}

theorem of_slots (h : a.Kept) (hsound : s'.owner.Sound) (hshadow : s'.Shadowed ghosts) (hslots : ∀ slot' ∈ s'.slots,
    ∃ slot ∈ a.conversation.slots, slot.participantId = slot'.participantId) : Kept { a with conversation := s' } where
  sound := hsound
  shadowed := ⟨ghosts, hshadow⟩
  sealed := h.sealed
  mapped := by
    intro slot' hslot'
    obtain ⟨slot, hslot, hid⟩ := hslots slot' hslot'
    exact hid ▸ h.mapped slot hslot

/-- An operation that enrolls nobody keeps the tokens right. -/
theorem effect (h : a.Kept) (heffect : Effect a.conversation op s') (hop : ∀ slot epoch order deliverySeq charge,
    op ≠ .enroll slot epoch order deliverySeq charge) : Kept { a with conversation := s' } := by
  obtain ⟨ghosts, hshadow⟩ := h.shadowed
  obtain ⟨ghosts', hshadow'⟩ := heffect.shadowed h.sound hshadow
  exact h.of_slots (heffect.ownerStep.sound h.sound) hshadow' fun _ hslot' => heffect.slots_from hop hslot'

theorem commit (h : a.Kept) (hsound : owner'.Sound)
    (hfound : a.conversation.slot? slot.participantId = some slot) (hid : slot'.participantId = slot.participantId)
    (hshadow : (a.conversation.commit slot' owner' projection).Shadowed ghosts) :
    Kept { a with conversation := a.conversation.commit slot' owner' projection } := by
  refine h.of_slots hsound hshadow fun current hcurrent => ?_
  rcases mem_replaceSlot hcurrent with rfl | hold
  · exact ⟨slot, (slot?_eq_some hfound).1, hid.symm⟩
  · exact ⟨current, hold, rfl⟩

theorem start (h : a.IsGenesis) : a.Kept := by
  obtain ⟨hgenesis, token, htokens, -, hopen⟩ := h
  obtain ⟨closure, epoch, order, hstarted⟩ := hgenesis.started
  refine ⟨hstarted.sound, ⟨a.conversation.slots, hstarted.coupled, ?_, ?_⟩, by rw [hopen, htokens]; rfl, ?_⟩
  · exact fun slot hslot => ⟨slot.member.latestTerminal, hslot⟩
  · exact fun slot hslot => Or.inr ⟨slot, hslot, rfl⟩
  · rw [hstarted.slots, htokens]
    rintro slot hslot
    rw [mem_singleton.mp hslot]
    exact ⟨token, mem_singleton.mpr rfl⟩

theorem completeTarget (h : a.Kept)
    (hcompl : a.completeTarget participant cause order deliverySeq charge = some a') : a'.Kept := by
  obtain ⟨ghosts, hshadow⟩ := h.shadowed
  obtain ⟨-, slot, active, -, hfound, hbound, hfated⟩ := completeTarget_fated hshadow hcompl
  obtain ⟨_, hghost⟩ := hshadow.lookup hfound
  cases hfated with
  | @committed cursor row admitted owner _ hkept happends hmeas =>
    have hadmitted : admitted.Sound := Step.sound (.appended happends) h.sound
    -- The conversation that keeps every slot records a terminal; which one does not matter here.
    have hended (fateToken : Option SealedBindingFateToken)
        (htoken : ∀ token ∈ fateToken, slot.fateToken = some token) :=
      (@Effect.ended (a.conversation.haunt ghosts) (.drainMarker charge) _ _ _
        (.died ⟨.fromActive active order, .connectionLost, deliverySeq⟩) slot.detachCell fateToken _ _
        hghost hbound rfl htoken (Or.inr hkept) happends).coupled h.sound hshadow.coupled
    rcases hmeas with rfl | ⟨token, died, progress, fate, htoken, hprepare⟩
    · have hcoupled := hended none fun _ htoken => nomatch htoken
      exact h.commit hadmitted hfound rfl (hshadow.commit hfound rfl hcoupled)
    · have hcoupled := hended slot.fateToken fun _ htoken => htoken
      obtain ⟨_, _, -, -, -, -, -, -, hfloored⟩ := prepareBindingFate_eq_ok hprepare
      exact h.commit (Step.sound (.floored hfloored) hadmitted) hfound rfl
        (hshadow.commit hfound rfl (hcoupled.fate_again hadmitted.seated hghost rfl htoken hprepare))
  | @pended cause order _ hpend =>
    have hpended := @Effect.pended (a.conversation.haunt ghosts) (.drainMarker charge) _ _
      (active.pendTerminal cause order) slot.detachCell (openToken cause slot.fateToken) _ _ _ hghost
      hbound (by simp) openToken_eq_some hpend
    exact h.commit (Step.sound (.pended hpend) h.sound) hfound rfl
      (hshadow.commit hfound rfl (hpended.coupled h.sound hshadow.coupled))

/-- The measured floor, if there is one, goes on top of a finalized terminal. -/
theorem completePreparedOrdinaryFinalizer (h : a.Kept) {finalizer : Option PendingDiedOrdinaryFinalizer}
    (hcompl : a.completePreparedOrdinaryFinalizer finalizer = some a') : a'.Kept := by
  unfold ConversationAuthority.completePreparedOrdinaryFinalizer at hcompl
  split at hcompl
  · cases hcompl
    exact h
  · simp only [some_iff] at hcompl
    obtain ⟨owner, howner, installed, hinstall, rfl⟩ := hcompl
    obtain ⟨-, rfl⟩ := frontier_eq_some howner
    obtain ⟨ghosts, hshadow⟩ := h.shadowed
    have hstep : a.conversation.owner.Step installed := by
      rcases installFinalizedBindingFateFloor_eq_ok hinstall with rfl | ⟨_, -, hfloored⟩
      · exact .unchanged
      · exact .floored hfloored
    exact h.of_slots (hstep.sound h.sound) (hshadow.refloor hinstall) fun slot hslot => ⟨slot, hslot, rfl⟩

theorem filter_replaceSlot {slots slot} :
    ((replaceSlot slots slot).filter fun current => current.participantId ≠ slot.participantId) =
      slots.filter fun current => current.participantId ≠ slot.participantId := by
  induction slots with
  | nil => rfl
  | cons first rest ih =>
    by_cases hfirst : first.participantId = slot.participantId
    · simpa [replaceSlot, hfirst] using ih
    · simpa [replaceSlot, hfirst] using ih

section

variable (h : a.Kept)
include h

theorem release (hopen : a.closed = false) (hfound : a.conversation.slot? slot.participantId = some slot)
    (hpended : slot.binding = .pendingFinalization pending)
    (hdrain : a.conversation.owner.drainPendingTerminal pending charge = .ok (owner, deliverySeq)) :
    (releaseDrainedBindingSlot { a with
      conversation := a.conversation.commit slot owner (some deliverySeq) } slot.participantId).Kept := by
  obtain ⟨ghosts, hshadow⟩ := h.shadowed
  obtain ⟨_, hghost⟩ := hshadow.lookup hfound
  have hdrained := @Effect.drained (a.conversation.haunt ghosts) (.drainMarker charge) _ _
    slot.detachCell _ _ _ hghost hpended hdrain
  have hcoupled := hdrained.coupled h.sound hshadow.coupled
  let ghost := ({ slot with binding := .detached } : ParticipantSlot).withTerminal (some (pending.commit deliverySeq))
  refine ⟨Step.sound (.drained hdrain) h.sound, ⟨replaceSlot ghosts ghost, ?_⟩, ?_, ?_⟩
  · change Shadowed ⟨a.conversation.config, owner, (replaceSlot a.conversation.slots slot).filter _, _, _⟩ _
    rw [filter_replaceSlot]
    refine hshadow.filter hcoupled (fun ghost hmem hother => ?_) fun ghost hmem => ?_
    · exact mem_map.mpr ⟨ghost, hmem, if_neg hother⟩
    · obtain ⟨old, hold, rfl⟩ := mem_map.mp hmem
      split
      · exact Or.inr rfl
      · rename_i hother
        exact Or.inl ⟨hother, hold⟩
  · change (a.closed || isEmpty _) = isEmpty _
    rw [hopen, Bool.false_or]
    rfl
  · intro current hcurrent
    obtain ⟨hmem, hother⟩ := mem_filter.mp hcurrent
    have hold : current ∈ a.conversation.slots := by
      rcases mem_replaceSlot hmem with rfl | hold
      · exact absurd rfl (of_decide_eq_true hother)
      · exact hold
    obtain ⟨token, htoken⟩ := h.mapped current hold
    exact ⟨token, mem_filter.mpr ⟨htoken, hother⟩⟩

theorem persistTerminalDrain (hdrain : a.persistTerminalDrain participant charge = some a') : a'.Kept := by
  simp only [ConversationAuthority.persistTerminalDrain, bind_eq_some] at hdrain
  obtain ⟨owner, howner, slot, hslot, hdrain⟩ := hdrain
  obtain ⟨hopen, rfl⟩ := frontier_eq_some howner
  obtain ⟨-, -, hfound⟩ := slot?_eq_some hslot
  split at hdrain
  · rename_i pending hpended
    simp only [some_iff, Prod.exists] at hdrain
    obtain ⟨finalizer, -, owner, deliverySeq, hdrained, settled, hsettled, hcompl⟩ := hdrain
    refine completePreparedOrdinaryFinalizer ?_ hcompl
    unfold settleDrainedBindingSlot at hsettled
    split at hsettled
    · cases hsettled
      exact h.release hopen hfound hpended hdrained
    · simp only [some_iff] at hsettled
      obtain ⟨slot', hslot', rfl⟩ := hsettled
      obtain ⟨detachCell, rfl⟩ := settleTerminal_eq_some hpended hslot'
      exact h.effect (@Effect.drained _ (.drainMarker charge) _ _ detachCell _ _ _ hfound hpended hdrained) (by simp)
  · cases hdrain

theorem leavePending {request proof}
    (hleave : a.leavePending request proof parameters terminalCharge leftCharge = some a') : a'.Kept := by
  simp only [ConversationAuthority.leavePending, some_iff] at hleave
  obtain ⟨-, slot, -, hleave⟩ := hleave
  split at hleave
  · simp only [bind_eq_some] at hleave
    obtain ⟨finalizer, -, left, hleft, hcompl⟩ := hleave
    refine completePreparedOrdinaryFinalizer ?_ hcompl
    exact h.effect (Effect.of_leavePending h.sound.laidOut hleft).1 (by simp)
  · cases hleave

theorem request (hrequest : a.request operation = some a') : a'.Kept := by
  simp only [ConversationAuthority.request, some_iff] at hrequest
  obtain ⟨⟨-, hrequest⟩, s', happly, rfl⟩ := hrequest
  refine h.effect (apply_effect h.sound.laidOut happly).1 ?_
  rintro _ _ _ _ _ rfl
  cases hrequest

theorem enroll (henroll : a.enroll token allocated epoch order deliverySeq charge = some a') : a'.Kept := by
  simp only [ConversationAuthority.enroll, some_iff] at henroll
  obtain ⟨⟨hopen, -⟩, s', henroll, rfl⟩ := henroll
  obtain ⟨ghosts, hshadow⟩ := h.shadowed
  have heffect := (Effect.of_enroll henroll).1
  obtain ⟨ghosts', hshadow'⟩ := heffect.shadowed h.sound hshadow
  refine ⟨heffect.ownerStep.sound h.sound, ⟨ghosts', hshadow'⟩, by simp [hopen], fun slot' hslot' => ?_⟩
  simp only [Conversation.enroll, some_iff, commitEnrollment_eq_ok] at henroll
  obtain ⟨-, enrollment, ⟨-, -, rfl⟩, owner, -, rfl⟩ := henroll
  rcases mem_append.mp ((mem_insertionSort _).mp hslot') with hold | hnew
  · obtain ⟨mapped, hmapped⟩ := h.mapped slot' hold
    exact ⟨mapped, mem_append_left _ hmapped⟩
  · rw [mem_singleton.mp hnew]
    exact ⟨token, mem_append_right _ (mem_singleton.mpr rfl)⟩

theorem reissue (hreissue : a.reissue participant expected = some a') : a'.Kept := by
  simp only [ConversationAuthority.reissue, some_iff] at hreissue
  obtain ⟨-, slot, hslot, hreissue⟩ := hreissue
  obtain ⟨-, -, hfound⟩ := slot?_eq_some hslot
  split at hreissue
  · cases hreissue
  · simp only [some_iff] at hreissue
    obtain ⟨-, generation, -, rfl⟩ := hreissue
    obtain ⟨ghosts, hshadow⟩ := h.shadowed
    have hcoupled := hshadow.coupled
    obtain ⟨terminal, hghost⟩ := hshadow.lookup hfound
    obtain ⟨p, hfind, hagrees⟩ := hcoupled.lookup hghost
    let reissued : ParticipantSlot := { slot with member := { slot.member with generation } }
    have hagrees' : Agrees a.conversation.owner.frontiers.conversationId (reissued.withTerminal terminal) p :=
      ⟨hagrees.projection, hagrees.conversation, hagrees.cursor, hagrees.boundCursor, hagrees.owned, hagrees.token⟩
    have hmoved : ((a.conversation.haunt ghosts).commit (reissued.withTerminal terminal)
        a.conversation.owner none).Coupled :=
      hcoupled.commit_kept rfl hfind rfl hagrees'
        (fun pending hpended => hcoupled.pended _ (slot?_eq_some hghost).1 pending hpended)
        fun old hold _ => hcoupled.pended old hold
    exact h.commit h.sound hfound rfl (hshadow.commit hfound rfl hmoved)
  · cases hreissue

end

theorem of_reachable (h : serverMachine.Reachable a) : a.Kept := by
  refine h.invariant (fun _ hstart => .start hstart) fun a op a' hkept hnext => ?_
  cases op with
  | enroll => exact hkept.enroll hnext
  | request => exact hkept.request hnext
  | connectionFate => exact hkept.completeTarget hnext
  | drainTerminal => exact hkept.persistTerminalDrain hnext
  | leavePending => exact hkept.leavePending hnext
  | reissue => exact hkept.reissue hnext

end Kept

/-! ### Slots and participants -/

/-- Whoever has a slot is active in the frontier with the same binding, and the frontier's cursor is never
behind; whoever has none is detached. Without a frontier there is no slot. -/
theorem slots_in_frontier (h : serverMachine.Reachable a) :
    (∀ slot ∈ a.conversation.slots, ∃ owner p, a.frontier = some owner ∧
      owner.frontiers.activeIdentities.find? slot.participantId = some p ∧ slot.Bears p.binding ∧ slot.member.cursor ≤
      p.cursor ∧ ∀ active, slot.binding = .bound active → p.cursor = slot.member.cursor) ∧
    (∀ owner, a.frontier = some owner → ∀ p ∈ owner.frontiers.activeIdentities.participants,
      (∃ slot ∈ a.conversation.slots, slot.participantId = p.participantIndex) ∨ ∃ epoch, p.binding = .detached epoch) ∧
    (a.frontier = none ↔ a.tokens = []) ∧ (a.frontier = none → a.conversation.slots = []) := by
  have hkept := Kept.of_reachable h
  obtain ⟨ghosts, hshadow⟩ := hkept.shadowed
  have hnone : a.frontier = none ↔ a.tokens = [] := by
    rw [frontier, hkept.sealed]
    simp
  have hempty : a.frontier = none → a.conversation.slots = [] := by
    intro hclosed
    refine eq_nil_iff_forall_not_mem.mpr fun slot hslot => ?_
    obtain ⟨token, htoken⟩ := hkept.mapped slot hslot
    rw [hnone.mp hclosed] at htoken
    cases htoken
  refine ⟨fun slot hslot => ?_, fun owner howner p hp => ?_, hnone, hempty⟩
  · obtain ⟨p, hfind, hlisted⟩ := hshadow.listed hslot
    cases hfrontier : a.frontier with
    | none =>
      rw [hempty hfrontier] at hslot
      cases hslot
    | some owner =>
      obtain ⟨-, rfl⟩ := frontier_eq_some hfrontier
      exact ⟨_, p, rfl, hfind, hlisted⟩
  · obtain ⟨-, rfl⟩ := frontier_eq_some howner
    exact hshadow.rest hp

/-- A run of the server from a first enrollment in which everything is charged one unit. -/
def unitServerRun (cap : ResourceVector) (identitySlots retainedRecordLimit : Nat)
    (operations : List ServerOperation) : Option ConversationAuthority :=
  (unitGenesis cap identitySlots retainedRecordLimit).bind fun conversation =>
    serverMachine.run ⟨conversation, [(0, 0)], 1, false⟩ operations

theorem unitServerRun_reachable {cap retainedRecordLimit}
    (h : unitServerRun cap identitySlots retainedRecordLimit operations = some a) :
    serverMachine.Reachable a := by
  obtain ⟨first, hfirst, hrun⟩ := Option.bind_eq_some_iff.mp h
  exact Machine.Reachable.run (.start ⟨unitGenesis_isGenesis hfirst, 0, rfl, rfl, rfl⟩) hrun

/-- The second member dies with no room for its terminal, and the terminal is drained. -/
def drainedDeath : List ServerOperation := [ .enroll 1 ⟨0, 1, 2, Nat.one_lt_two⟩ (unitEpoch 1 1) 1 2
  (unitCharge 2 ⟨1, .attachLifecycle, 1⟩), .connectionFate 1 (.died .connectionLost) 2 3
  (unitCharge 3 ⟨2, .bindingTerminal, 1⟩), .drainTerminal 1 (unitCharge 3 ⟨2, .bindingTerminal, 1⟩)]

theorem slots_in_frontier_drainedDeath : ∃ a, unitServerRun ⟨100, 100⟩ 2 2 drainedDeath = some a ∧
    a.conversation.slots ≠ [] ∧ ∀ slot ∈ a.conversation.slots, ∃ owner p, a.frontier = some owner ∧
      owner.frontiers.activeIdentities.find? slot.participantId = some p ∧ slot.Bears p.binding := by
  refine exists_of_any_imp (by decide) fun a ha _ slot hslot => ?_
  obtain ⟨owner, p, howner, hfind, hbears, -⟩ :=
    (slots_in_frontier (unitServerRun_reachable ha)).1 slot hslot
  exact ⟨owner, p, howner, hfind, hbears⟩

/-- The drained member is still active in the frontier and has no slot. The last member's Leave takes the last
slot and leaves the frontier. -/
theorem frontier_without_slots : (∃ a, unitServerRun ⟨100, 100⟩ 2 2 drainedDeath = some a ∧ serverMachine.Reachable a ∧
      a.conversation.slots.map participantId = [0] ∧ ∃ owner ∈ a.frontier,
        owner.frontiers.activeIdentities.participants.map (·.participantIndex) = [0, 1]) ∧
    ∃ a, unitServerRun ⟨100, 100⟩ 1 50
        [.request (.leave ⟨0, 0, 1⟩ .verified 2 (unitCharge 2 ⟨2, .membershipExit, 0⟩))] = some a ∧
      serverMachine.Reachable a ∧ a.conversation.slots = [] ∧ a.frontier ≠ none :=
  ⟨exists_of_any_and (fun _ => unitServerRun_reachable) (by decide),
    exists_of_any_and (fun _ => unitServerRun_reachable) (by decide)⟩

end ConversationAuthority

end Liminal
