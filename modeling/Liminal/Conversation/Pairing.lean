import Liminal.Conversation.Invariants
import Liminal.Lifecycle.Storage

/-!
# Member, binding and detach cell

The detach cell, the binding and the generation of the member are changed by separate functions. In
every slot they fit together as a snapshot restore demands, and a retry of the stored detach is
answered out of its cell.
-/

namespace Liminal

open Fallible ParticipantSlot LiveMember Option
open Conversation (bound_iff pended_iff)

variable {request : DetachRequest} {verifier : RequestVerifier} {observer seq : DeliverySeq}
  {presented : PresentedIdentity} {epoch : Option BindingEpoch} {slot : ParticipantSlot}

/-! ### What keeps the pairing -/

namespace ParticipantSlot

variable {slot' : ParticipantSlot} {active : ActiveBinding} {member : LiveMember} {proof : AttachSecretProof}
  {parameters : AttachCommitParameters} {mode : AttachMode} {order : TransactionOrder} {cause : TerminalCause}

/-- The member's last terminal is of a generation it has had; of an earlier one than a binding that has not
ended in the log. -/
structure Dated (member : LiveMember) (binding : BindingState) : Prop where
  had : ∀ terminal ∈ member.latestTerminal, terminal.identity.bindingEpoch.capabilityGeneration ≤ member.generation
  earlier : binding ≠ .detached → ∀ terminal ∈ member.latestTerminal,
    terminal.identity.bindingEpoch.capabilityGeneration < member.generation

/-- Member, binding and cell fit together, and the binding is the member's own. -/
structure Paired (slot : ParticipantSlot) : Prop where
  pair : validateLivePair slot.member slot.binding slot.detachCell = .ok ()
  bound : ∀ active, slot.binding = .bound active → slot.member.validateMemberAuthority active
  pended : ∀ pending, slot.binding = .pendingFinalization pending → validateMemberFinalization slot.member pending
  dated : Dated slot.member slot.binding

theorem Dated.committed (h : member.withCommittedTerminal terminal = .ok member') : Dated member' .detached := by
  have hgen := withCommittedTerminal_generation h
  obtain ⟨rfl, -⟩ := withCommittedTerminal_eq_ok h
  refine ⟨fun latest hlatest => ?_, fun hended => absurd rfl hended⟩
  cases hlatest
  exact hgen

theorem IsEnrolled.paired (h : slot.IsEnrolled) : slot.Paired := by
  obtain ⟨conversationId, allocated, epoch, order, seq, enrollment, henroll, rfl⟩ := h
  obtain ⟨-, hgen, rfl⟩ := commitEnrollment_eq_ok.mp henroll
  refine ⟨rfl, fun active hactive => ?_, nofun, ⟨nofun, fun _ => nofun⟩⟩
  cases hactive
  exact ⟨rfl, rfl, hgen.symm⟩

theorem Paired.not_pending (h : slot.Paired) (hbound : slot.binding = .bound active) (cell : PendingDetach) :
    slot.detachCell ≠ .pending cell := by
  intro hcell
  have hpair := h.pair
  rw [hcell, validateLivePair_pending, hbound] at hpair
  obtain ⟨-, pending, hpending, -⟩ := hpair
  cases hpending

theorem Paired.rebind (h : slot.Paired) (hended : slot.binding ≠ .detached) (hcell : ∀ cell,
    slot.detachCell ≠ .pending cell) (binding : BindingState) (terminal : Option CommittedBindingTerminal) :
    validateLivePair { slot.member with latestTerminal := terminal } binding slot.detachCell = .ok () := by
  have hpair := h.pair
  cases hkept : slot.detachCell with
  | empty => rfl
  | pending cell => exact absurd hkept (hcell cell)
  | committed cell =>
    rw [hkept, validateLivePair_committed] at hpair
    exact absurd hpair.2.2.1 hended
  | terminalized cell =>
    rw [hkept, validateLivePair_terminalized] at hpair
    exact validateLivePair_terminalized.mpr hpair

/-! ### Attach -/

/-- Whatever the attach makes of a fitting cell is older than the new generation. -/
theorem Paired.transitionDetachCell (h : slot.Paired) {cell : DetachCell}
    (hcell : Liminal.transitionDetachCell mode slot.member slot.detachCell = .ok cell) (hpart : member.participantId =
    slot.member.participantId) (hgen : member.generation = slot.member.generation + 1) (binding : BindingState) :
    validateLivePair member binding cell = .ok () := by
  have hpair := h.pair
  cases hold : slot.detachCell with
  | empty =>
    rw [hold] at hcell
    cases hcell
    rfl
  | pending old =>
    rw [hold, validateLivePair_pending] at hpair
    rw [hold] at hcell
    obtain ⟨⟨hid, hrequest⟩, -⟩ := hpair
    have hterminalized : cell = .terminalized old.terminalizeAfterAttach := by
      simp only [Liminal.transitionDetachCell] at hcell
      split at hcell
      · simp only [ok_iff] at hcell
        obtain ⟨_, -, hcell⟩ := hcell
        exact hcell.symm
      · cases hcell
    rw [hterminalized, validateLivePair_terminalized, hpart, hgen]
    exact ⟨hid, hrequest ▸ Nat.lt_succ_self _⟩
  | committed old =>
    rw [hold, validateLivePair_committed] at hpair
    rw [hold] at hcell
    simp only [Liminal.transitionDetachCell, ok_iff] at hcell
    obtain ⟨-, -, -, -, rfl⟩ := hcell
    obtain ⟨hid, hrequest, -, -⟩ := hpair
    rw [validateLivePair_terminalized, hpart, hgen]
    exact ⟨hid, hrequest ▸ Nat.lt_succ_self _⟩
  | terminalized old =>
    rw [hold, validateLivePair_terminalized] at hpair
    rw [hold] at hcell
    simp only [Liminal.transitionDetachCell, ok_iff] at hcell
    obtain ⟨-, rfl⟩ := hcell
    rw [validateLivePair_terminalized, hpart, hgen]
    exact ⟨hpair.1, Nat.lt_succ_of_lt hpair.2⟩

theorem Paired.attach (h : slot.Paired) {request}
    (hcommon : slot.member.verifyAttachCommon request proof parameters = .ok ())
    (hmode : ∀ terminal ∈ (attachParts mode slot.member.cursor).2.1,
      terminal.identity.bindingEpoch.capabilityGeneration ≤ slot.member.generation)
    (hattach : slot.attach parameters mode = some slot') : slot'.Paired := by
  simp only [ParticipantSlot.attach, some_iff] at hattach
  obtain ⟨committed, hcommit, rfl⟩ := hattach
  obtain ⟨hmember, hbinding, -⟩ := commitAttach_eq_ok hcommit
  simp only [verifyAttachCommon, ok_iff, Checked.add_eq_some] at hcommon
  obtain ⟨-, -, -, -, ⟨hconv, hpart⟩, _, ⟨-, rfl⟩, hgen⟩ := hcommon
  simp only [commitAttach, ok_iff] at hcommit
  obtain ⟨cell, hcell, _, -, hcommit⟩ := hcommit
  have hnext : committed.detachCell = cell := by rw [← hcommit]
  have hearlier : ∀ terminal ∈ committed.member.latestTerminal,
      terminal.identity.bindingEpoch.capabilityGeneration < committed.member.generation := by
    intro terminal hterm
    rw [hmember] at hterm ⊢
    have hle : terminal.identity.bindingEpoch.capabilityGeneration ≤ slot.member.generation := by
      rcases or_eq_some_iff.mp hterm with hnew | ⟨-, hold⟩
      · exact hmode terminal hnew
      · exact h.dated.had terminal hold
    exact (Nat.lt_succ_of_le hle).trans_eq hgen.symm
  refine ⟨?_, fun active hactive => ?_, fun _ hpended => (by cases hpended),
    ⟨fun terminal hterm => (hearlier terminal hterm).le, fun _ => hearlier⟩⟩
  · rw [hnext]
    exact h.transitionDetachCell hcell (by rw [hmember]) (by rw [hmember]; exact hgen) _
  · cases hactive
    rw [hmember, hbinding]
    exact ⟨hpart.symm, hconv.symm, rfl⟩

/-! ### Detach -/

theorem verifyDetachRequest_eq_ok (h : active.verifyDetachRequest request = .ok ()) :
    request.conversationId = active.conversationId ∧ request.participantId = active.participantId ∧
      request.capabilityGeneration = active.bindingEpoch.capabilityGeneration := by
  simpa only [ActiveBinding.verifyDetachRequest, ok_iff] using h

theorem detach_paired (h : slot.detach request verifier order seq = some slot') : slot'.Paired := by
  obtain ⟨_, -, h⟩ := bound_iff.mp h
  simp only [some_iff] at h
  obtain ⟨_, hrequest, transition, htrans, rfl⟩ := h
  obtain ⟨-, hid, hgen⟩ := verifyDetachRequest_eq_ok hrequest
  simp only [commitDetach, ok_iff] at htrans
  obtain ⟨_, -, hmember, updated, hupdated, rfl⟩ := htrans
  obtain ⟨hpart, hconv, hown⟩ := hmember
  have hrec := hupdated
  obtain ⟨rfl, -⟩ := withCommittedTerminal_eq_ok hupdated
  refine ⟨validateLivePair_committed.mpr ⟨?_, ?_, rfl, _, rfl, ?_⟩,
    fun _ hbound => (by cases hbound), fun _ hpended => (by cases hpended), .committed hrec⟩
  · exact hid.trans hpart.symm
  · exact hgen.trans hown.symm
  · exact ⟨hid.symm, hconv.symm, rfl, rfl, rfl⟩

theorem Paired.detachBlocked (h : slot.Paired)
    (hblocked : slot.detachBlocked request verifier order observer = some slot') : slot'.Paired := by
  obtain ⟨active, hbound, hblocked⟩ := bound_iff.mp hblocked
  simp only [some_iff] at hblocked
  obtain ⟨_, hrequest, transition, htrans, rfl⟩ := hblocked
  obtain ⟨-, hid, hgen⟩ := verifyDetachRequest_eq_ok hrequest
  simp only [startBlockedDetach, ok_iff] at htrans
  obtain ⟨_, -, hmember, rfl⟩ := htrans
  obtain ⟨hpart, hconv, hown⟩ := hmember
  refine ⟨validateLivePair_pending.mpr ⟨⟨?_, ?_⟩, _, rfl, ?_⟩, fun _ hactive => (by cases hactive),
    fun pending hpending => ?_, ⟨h.dated.had, fun _ => h.dated.earlier (by simp [hbound])⟩⟩
  · exact hid.trans hpart.symm
  · exact hgen.trans hown.symm
  · exact ⟨hconv.symm, hid.symm, rfl, rfl, rfl⟩
  · cases hpending
    exact ⟨hpart, hconv, hown⟩

/-- Completing the pending detach of a fitting slot makes its cell the committed one. -/
theorem Paired.completePendingDetach (h : slot.Paired) (hcell : slot.detachCell = .pending cell)
    (htrans : Liminal.completePendingDetach slot.member slot.binding cell seq = .ok transition) : Paired { slot with
      member := transition.member
      binding := .detached
      detachCell := .committed transition.cell } := by
  have hpair := h.pair
  rw [hcell, validateLivePair_pending] at hpair
  obtain ⟨⟨hid, hgen⟩, pending, hpended, hconv, hpart, hepoch, -, hcause⟩ := hpair
  rw [hpended] at htrans
  have hmember := completePendingDetach_eq_ok htrans
  simp only [Liminal.completePendingDetach, validatePendingPair, ok_iff] at htrans
  obtain ⟨_, ⟨-, rfl⟩, -, htrans⟩ := htrans
  cases pending with
  | died pending => cases htrans
  | detached pending =>
    simp only [ok_iff] at htrans
    obtain ⟨_, hupdated, rfl⟩ := htrans
    refine ⟨validateLivePair_committed.mpr ⟨?_, ?_, rfl, ?_⟩, fun _ hbound => (by cases hbound),
      fun _ hpended => (by cases hpended), .committed hupdated⟩
    · rw [hmember]
      exact hid
    · rw [hmember]
      exact hgen
    · rw [hmember]
      exact ⟨_, rfl, hpart, hconv, hepoch, rfl, hcause⟩

/-- A replay is required only of the pending cell itself, in the slot's own state. -/
theorem lookupDetach_pendingReplayRequired
    (h : lookupDetach (slot.lookupContext presented epoch request verifier observer) =
      .pendingReplayRequired replay) : ∃ cell, slot.detachCell = .pending cell ∧
      replay = ⟨slot.member.conversationId, slot.binding, cell, observer⟩ := by
  have hpresented : ∀ context, lookupPresented context ≠ .pendingReplayRequired replay := by
    intro context hlookup
    unfold lookupPresented lookupCurrentBinding staleDetach at hlookup
    repeat' split at hlookup
    all_goals cases hlookup
  unfold lookupDetach lookupContext at h
  split at h
  · cases h
  · rename_i member hresolved
    split at hresolved
    · cases hresolved
      cases hanswer : lookupExactDetachCell slot.member slot.detachCell slot.binding request verifier observer with
      | none =>
        rw [hanswer] at h
        exact absurd h (hpresented _)
      | some result =>
        rw [hanswer] at h
        cases h
        unfold lookupExactDetachCell staleDetach at hanswer
        repeat' split at hanswer
        all_goals cases hanswer
        rename_i hconv _ cell hcell _ _ _
        exact ⟨cell, hcell, by rw [not_not.mp hconv]⟩
    · cases hresolved
  · exact absurd h (hpresented _)

section

variable (h : slot.Paired)
include h

theorem Paired.replayDetach
    (hreplay : slot.replayDetach request verifier epoch observer decision = some slot') : slot'.Paired := by
  unfold ParticipantSlot.replayDetach at hreplay
  split at hreplay
  · rename_i replay hlookup
    obtain ⟨cell, hcell, rfl⟩ := lookupDetach_pendingReplayRequired hlookup
    simp only [some_iff] at hreplay
    obtain ⟨outcome, houtcome, hreplay⟩ := hreplay
    have hpair := h.pair
    rw [hcell, validateLivePair_pending] at hpair
    simp only [PendingReplayRequest.apply, ok_iff] at houtcome
    obtain ⟨_, -, -, -, houtcome⟩ := houtcome
    split at houtcome
    · simp only [ok_iff] at houtcome
      obtain ⟨-, rfl⟩ := houtcome
      cases hreplay
      exact ⟨validateLivePair_pending.mpr hpair, h.bound, h.pended, h.dated⟩
    · split at houtcome
      · cases houtcome
      · simp only [pure_eq_ok] at houtcome
        subst houtcome
        cases hreplay
        -- Only the epoch of the refusal is rewritten, which the pair does not mention.
        exact ⟨validateLivePair_pending.mpr hpair, h.bound, h.pended, h.dated⟩
      · simp only [ok_iff] at houtcome
        obtain ⟨transition, htrans, rfl⟩ := houtcome
        cases hreplay
        exact h.completePendingDetach hcell htrans
  · cases hreplay

/-! ### The end of a binding -/

theorem Paired.commitTerminal (hend : slot.commitTerminal cause order seq = some slot') : slot'.Paired := by
  obtain ⟨active, hbound, hend⟩ := bound_iff.mp hend
  simp only [some_iff] at hend
  obtain ⟨member, hmember, rfl⟩ := hend
  have hdated := Dated.committed hmember
  obtain ⟨rfl, -⟩ := withCommittedTerminal_eq_ok hmember
  exact ⟨h.rebind (by simp [hbound]) (h.not_pending hbound) _ _, fun _ hactive => (by cases hactive),
    fun _ hpended => (by cases hpended), hdated⟩

theorem Paired.pendTerminal (hend : slot.pendTerminal cause order = some slot') : slot'.Paired := by
  obtain ⟨active, hbound, hend⟩ := bound_iff.mp hend
  cases hend
  refine ⟨h.rebind (by simp [hbound]) (h.not_pending hbound) _ slot.member.latestTerminal, nofun,
    fun pending hpending => ?_,
    ⟨h.dated.had, fun _ => h.dated.earlier (by simp [hbound])⟩⟩
  cases hpending
  rw [validateMemberFinalization, ActiveBinding.pendTerminal_identity]
  exact h.bound active hbound

theorem Paired.drainTerminal (hdrain : slot.drainTerminal seq = some slot') : slot'.Paired := by
  obtain ⟨pending, hpended, hdrain⟩ := pended_iff.mp hdrain
  unfold Conversation.settleTerminal at hdrain
  split at hdrain
  · rename_i cell hcell
    simp only [some_iff] at hdrain
    obtain ⟨transition, htrans, rfl⟩ := hdrain
    exact h.completePendingDetach hcell htrans
  · rename_i hcell
    simp only [some_iff] at hdrain
    obtain ⟨member, hmember, rfl⟩ := hdrain
    have hdated := Dated.committed hmember
    obtain ⟨rfl, -⟩ := withCommittedTerminal_eq_ok hmember
    exact ⟨h.rebind (by simp [hpended]) hcell _ _, fun _ hbound => (by cases hbound),
      fun _ hpended => (by cases hpended), hdated⟩

/-! ### Acknowledgements -/

theorem Paired.moveSlot (hmove : Conversation.moveSlot slot update progress = some slot') : slot'.Paired := by
  simp only [Conversation.moveSlot, some_iff] at hmove
  obtain ⟨member, hmember, hmove⟩ := hmove
  obtain ⟨rfl, -, -⟩ := applyCursorUpdate_eq_ok hmember
  have hpair : validateLivePair { slot.member with cursor := update.resultingCursor } slot.binding
      slot.detachCell = .ok () := by
    rw [← h.pair]
    cases slot.detachCell <;> rfl
  split at hmove
  · cases hmove
    exact ⟨hpair, h.bound, h.pended, ⟨h.dated.had, h.dated.earlier⟩⟩
  · simp only [some_iff] at hmove
    obtain ⟨token, -, rfl⟩ := hmove
    exact ⟨hpair, h.bound, h.pended, ⟨h.dated.had, h.dated.earlier⟩⟩

end

/-! ### Runs -/

theorem map_live : result.map SlotState.live = some (.live slot') ↔ result = some slot' := by
  simp

theorem Paired.apply (h : slot.Paired) (hstep : slot.apply operation = some (.live slot')) : slot'.Paired := by
  cases operation with
  | attachDetached closureState request proof parameters =>
    obtain ⟨mode, hmode, hattach⟩ := bind_eq_some_iff.mp (map_live.mp hstep)
    simp only [verifyDetachedAttach, toOption_eq_some, ok_iff] at hmode
    obtain ⟨-, _, hcommon, -, -, rfl⟩ := hmode
    exact h.attach hcommon (fun terminal hterm => by cases hterm) hattach
  | attachSuperseding request proof order seq parameters =>
    obtain ⟨_, -, hstep⟩ := bound_iff.mp (map_live.mp hstep)
    obtain ⟨mode, hmode, hattach⟩ := bind_eq_some_iff.mp hstep
    simp only [verifySupersedingAttach, toOption_eq_some, ok_iff] at hmode
    obtain ⟨_, hcommon, hown, -, -, rfl⟩ := hmode
    refine h.attach hcommon (fun terminal hterm => ?_) hattach
    cases hterm
    exact hown.2.2.symm.le
  | attachFenced request proof recovery pendingSeq parameters =>
    obtain ⟨mode, hmode, hattach⟩ := bind_eq_some_iff.mp (map_live.mp hstep)
    simp only [verifyFencedAttach, toOption_eq_some, ok_iff] at hmode
    obtain ⟨_, hcommon, -, ⟨-, hprior, -⟩, pending, hpending, rfl⟩ := hmode
    refine h.attach hcommon (fun terminal hterm => ?_) hattach
    obtain ⟨⟨finalization, seq⟩, rfl, rfl⟩ := map_eq_some_iff.mp hterm
    -- a terminal composed into a fenced attach is of the epoch the attach recovers
    unfold fencedPending at hpending
    split at hpending
    · simp only [ok_iff, reduceCtorEq, and_false] at hpending
    · simp only [ok_iff, some.injEq, Prod.mk.injEq] at hpending
      obtain ⟨⟨-, -, hepoch⟩, rfl, -⟩ := hpending
      rw [PendingFinalization.commit_identity, hepoch]
      exact hprior.le
    all_goals cases hpending
  | detach request verifier order seq => exact detach_paired (map_live.mp hstep)
  | detachBlocked request verifier order observer => exact h.detachBlocked (map_live.mp hstep)
  | replayDetach request verifier epoch observer decision => exact h.replayDetach (map_live.mp hstep)
  | commitTerminal cause order seq => exact h.commitTerminal (map_live.mp hstep)
  | pendTerminal cause order => exact h.pendTerminal (map_live.mp hstep)
  | drainTerminal seq => exact h.drainTerminal (map_live.mp hstep)
  | ack request epoch availability | ackNonzero request epoch availability episode
  | ackMarker request epoch markerState =>
    obtain ⟨committed, -, hmove⟩ := bind_eq_some_iff.mp (map_live.mp hstep)
    exact h.moveSlot hmove
  | leave request proof authority seq | leavePending request proof authority parameters =>
    simp [ParticipantSlot.apply] at hstep
  | measureFate finalizer | installFate =>
    cases hstep
    exact ⟨h.pair, h.bound, h.pended, h.dated⟩

end ParticipantSlot

def SlotState.Paired : SlotState → Prop
  | .live slot => slot.Paired
  | .retired _ => True

theorem slotMachine_paired (h : slotMachine.Reachable state) : state.Paired := by
  refine h.invariant (fun state hstart => ?_) (fun state operation state' ih hnext => ?_)
  · obtain ⟨slot, henrolled, rfl⟩ := hstart
    exact henrolled.paired
  · cases state with
    | retired identity => cases hnext
    | live slot =>
      cases state' with
      | live slot' => exact Paired.apply ih hnext
      | retired identity => trivial

theorem Conversation.slots_paired (h : conversationMachine.Reachable s) : ∀ slot ∈ s.slots, slot.Paired :=
  fun slot hslot => slotMachine_paired (Conversation.slots_reachable h slot hslot)

/-! ### Retries -/

def ParticipantSlot.storedAnswer (slot : ParticipantSlot) (observerProgress : DeliverySeq) :
    Option DetachLookupResult :=
  let conversationId := slot.member.conversationId
  match slot.detachCell with
  | .empty => none
  | .pending cell => some (.pendingReplayRequired ⟨conversationId, slot.binding, cell, observerProgress⟩)
  | .committed cell => some (.detachCommitted (cell.outcome conversationId))
  | .terminalized cell => some (.staleAuthority (.terminalizedDetachCell (cell.outcome conversationId
      slot.member.generation (bindingView slot.member slot.binding))))

theorem ParticipantSlot.lookupExactDetachCell_stored (hconv : request.conversationId = slot.member.conversationId)
    (hstores : slot.detachCell.Stores request verifier) :
    lookupExactDetachCell slot.member slot.detachCell slot.binding request verifier observer =
      slot.storedAnswer observer := by
  simp only [lookupExactDetachCell, storedAnswer, hconv, ne_eq, not_true_eq_false, if_false]
  cases hcell : slot.detachCell with
  | empty => rfl
  | pending cell | committed cell | terminalized cell =>
    rw [hcell] at hstores
    have hexact : cell.verifyExact request verifier = .ok () :=
      verifyStoredRequest_eq_ok.mpr (some.inj hstores)
    simp only [hexact]

/-- A resolved token never leads to a fresh detach: within the slot's conversation the cell answers, and the
slot's binding is of no other. -/
theorem ParticipantSlot.Paired.not_authorized (h : slot.Paired)
    (htoken : slot.detachCell.token = some request.detachAttemptToken) (member : LiveMember)
    (active : ActiveBinding) : lookupDetach (slot.lookupContext presented epoch request verifier observer) ≠
      .authorized member active := by
  intro hlookup
  simp only [lookupDetach, lookupContext, htoken, if_true] at hlookup
  by_cases hconv : request.conversationId = slot.member.conversationId
  · obtain ⟨result, hresult, hnever⟩ := lookupExactDetachCell_isSome hconv
      (by rw [htoken]; rfl) slot.binding verifier observer
    rw [hresult] at hlookup
    exact hnever member active hlookup
  · have hnone : lookupExactDetachCell slot.member slot.detachCell slot.binding request verifier
        observer = none := if_pos hconv
    rw [hnone] at hlookup
    -- a fresh detach is only authorized through a binding in the request's own conversation
    change lookupPresented _ = _ at hlookup
    unfold lookupPresented lookupCurrentBinding at hlookup
    repeat' split at hlookup
    all_goals cases hlookup
    rename_i hbound hmatch
    exact hconv (hmatch.1.symm.trans (h.bound active hbound).2.1.symm)

theorem ParticipantSlot.lookupDetach_stored (hconv : request.conversationId = slot.member.conversationId)
    (hstores : slot.detachCell.Stores request verifier) :
    some (lookupDetach (slot.lookupContext presented epoch request verifier observer)) =
      slot.storedAnswer observer := by
  have htoken := hstores.token
  obtain ⟨result, hresult, -⟩ := lookupExactDetachCell_isSome hconv (by rw [htoken]; rfl) slot.binding verifier observer
  simp only [lookupDetach, lookupContext, htoken, if_true]
  rw [← lookupExactDetachCell_stored hconv hstores, hresult]
  rfl

/-- Member, binding and detach cell always pass the check of a restore. A retry of the stored request gets
the answer of the cell, and its token never authorizes a fresh detach. -/
theorem detach_cell_paired (h : slotMachine.Reachable (.live slot)) :
    validateLivePair slot.member slot.binding slot.detachCell = .ok () ∧
      ∀ presented epoch request verifier observer, slot.detachCell.token = some request.detachAttemptToken →
        (∀ member active, lookupDetach (slot.lookupContext presented epoch request verifier observer) ≠
            .authorized member active) ∧ (request.conversationId = slot.member.conversationId →
          slot.detachCell.Stores request verifier →
          some (lookupDetach (slot.lookupContext presented epoch request verifier observer)) =
            slot.storedAnswer observer) := by
  have hpaired : slot.Paired := slotMachine_paired h
  exact ⟨hpaired.pair, fun presented epoch request verifier observer htoken =>
    ⟨hpaired.not_authorized htoken, lookupDetach_stored⟩⟩

def enrolledSlot : ParticipantSlot :=
  ⟨.fromEnrollment 0 0, .bound ⟨0, 0, ⟨⟨0, 0⟩, 1⟩⟩, .empty, none, none⟩

theorem enrolledSlot_reachable : slotMachine.Reachable (.live enrolledSlot) :=
  .start ⟨enrolledSlot, ⟨0, ⟨0, 0, 4, by decide⟩, ⟨⟨0, 0⟩, 1⟩, 0, 1, _, rfl, rfl⟩, rfl⟩

/-- The detach is refused for want of room, retried while still blocked, and retried again. -/
theorem detach_cell_paired_blocked : ∃ slot, slotMachine.run (.live enrolledSlot)
      [.detachBlocked ⟨0, 0, 1, 7⟩ 9 1 0, .replayDetach ⟨0, 0, 1, 7⟩ 9 none 1 .stillBlocked] =
        some (.live slot) ∧ validateLivePair slot.member slot.binding slot.detachCell = .ok () ∧
    some (lookupDetach (slot.lookupContext (.live slot.member) none ⟨0, 0, 1, 7⟩ 9 2)) = slot.storedAnswer 2 := by
  obtain ⟨state, hrun, hlive⟩ : ∃ state, slotMachine.run (.live enrolledSlot)
      [.detachBlocked ⟨0, 0, 1, 7⟩ 9 1 0, .replayDetach ⟨0, 0, 1, 7⟩ 9 none 1 .stillBlocked] =
        some state ∧ ∃ slot ∈ state.slot?, slot.detachCell.token = some 7 ∧
          slot.member.conversationId = 0 ∧ slot.detachCell.Stores ⟨0, 0, 1, 7⟩ 9 :=
    exists_of_any (by decide)
  obtain ⟨slot, hslot, htoken, hconversation, hstores⟩ := hlive
  have hstate : state = .live slot := SlotState.slot?_eq_some hslot
  rw [hstate] at hrun
  obtain ⟨hpair, hretry⟩ := detach_cell_paired (enrolledSlot_reachable.run hrun)
  exact ⟨slot, hrun, hpair, (hretry (.live slot.member) none ⟨0, 0, 1, 7⟩ 9 2 htoken).2 hconversation.symm hstores⟩

end Liminal
