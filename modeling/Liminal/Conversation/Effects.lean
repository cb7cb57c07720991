import Liminal.Conversation.Slots
import Liminal.Lifecycle.Operations.Steps

/-!
# What the operations do to a conversation

Eighteen operations have twelve effects: which slot changes, how, and what happens to the owner.
Everything about whole runs is proved by cases on them. A fenced attach is refused without a
recovery block, which no live operation makes.
-/

namespace Liminal

open Checked Fallible LiveFrontierOwner LiveMember ActiveBinding

def Operation.leaver? : Operation → Option ParticipantId
  | .leave request _ _ _ | .leavePending request _ _ _ _ => some request.participantId
  | _ => none

namespace Conversation

section

variable (s : Conversation) (participant : ParticipantId) (epoch : BindingEpoch)

def enrolledSlot : ParticipantSlot :=
  ⟨.fromEnrollment participant s.owner.frontiers.conversationId,
    .bound ⟨participant, s.owner.frontiers.conversationId, epoch⟩, .empty, none, none⟩

def enrolledParticipants : List FrontierParticipant :=
  (s.owner.frontiers.activeIdentities.participants ++
    [FrontierParticipant.mk participant 0 (.bound epoch)]).insertionSort
      fun p q => p.participantIndex ≤ q.participantIndex

end

inductive Effect (s : Conversation) : Operation → Conversation → Prop
  | enrolled {participant epoch row owner slot order deliverySeq charge} (fresh : s.fresh participant = true)
      (appends : s.owner.Appends (s.enrolledParticipants participant epoch) [row] owner) :
      Effect s (.enroll slot epoch order deliverySeq charge) { s with
        owner
        slots := (s.slots ++ [s.enrolledSlot participant epoch]).insertionSort
          fun a b => a.participantId ≤ b.participantId }
  | attached {op} {slot : ParticipantSlot} {binding : ActiveBinding} {latestTerminal detachCell rows owner projection}
      (found : s.slot? slot.participantId = some slot) (settled : ∀ pending,
      slot.binding ≠ .pendingFinalization pending) (owned : binding.participantId = slot.participantId ∧
      binding.conversationId = slot.member.conversationId)
      (appends : s.owner.Appends (s.owner.withParticipant
        ⟨slot.participantId, slot.member.cursor, .bound binding.bindingEpoch⟩) rows owner)
      (projected : ∀ deliverySeq ∈ projection, deliverySeq ∈ rows.map RetainedCausalRecord.deliverySeq) :
      Effect s op (s.commit { slot with
        member := { slot.member with
          generation := binding.bindingEpoch.capabilityGeneration, latestTerminal }
        binding := .bound binding
        detachCell
        fateToken := some ⟨some ⟨binding, slot.member.cursor⟩, none, slot.member.cursor⟩ } owner projection)
  | ended {op} {slot : ParticipantSlot} {active : ActiveBinding} {cursor} {terminal : CommittedBindingTerminal}
      {detachCell} {fateToken : Option SealedBindingFateToken} {row owner} (found : s.slot? slot.participantId =
      some slot) (bound : slot.binding = .bound active) (epoch : terminal.identity.bindingEpoch = active.bindingEpoch)
      (token : ∀ token ∈ fateToken, slot.fateToken = some token)
      (kept : cursor = slot.member.cursor ∨ ∃ current,
        s.owner.frontiers.activeIdentities.find? slot.participantId = some current ∧ cursor = current.cursor)
      (appends : s.owner.Appends (s.owner.withParticipant
        ⟨slot.participantId, cursor, .detached active.bindingEpoch⟩) [row] owner) :
      Effect s op (s.commit { slot with
        member := { slot.member with latestTerminal := some terminal }
        binding := .detached
        detachCell
        fateToken } owner (some row.deliverySeq))
  | pended {op} {slot : ParticipantSlot} {active : ActiveBinding} {pending : PendingFinalization} {detachCell}
      {fateToken : Option SealedBindingFateToken} {order deliverySeq owner} (found : s.slot? slot.participantId =
      some slot) (bound : slot.binding = .bound active) (identity : pending.identity = .fromActive active order)
      (token : ∀ token ∈ fateToken, slot.fateToken = some token)
      (pend : s.owner.pendBindingTerminalCandidate active
        (.bindingTerminal order active.participantId) deliverySeq = .ok owner) :
      Effect s op (s.commit { slot with
        binding := .pendingFinalization pending
        detachCell
        fateToken } owner none)
  | drained {op} {slot : ParticipantSlot} {pending : PendingFinalization} {detachCell charge deliverySeq owner}
      (found : s.slot? slot.participantId = some slot) (pended : slot.binding = .pendingFinalization pending)
      (drain : s.owner.drainPendingTerminal pending charge = .ok (owner, deliverySeq)) : Effect s op (s.commit
      { slot with
        member := { slot.member with latestTerminal := some (pending.commit deliverySeq) }
        binding := .detached
        detachCell } owner (some deliverySeq))
  | recorded {request epoch charge observer projected}
      (project : s.owner.frontiers.projectOrdinaryRecord (s.owner.projectionInput request epoch charge
        observer s.config.limits) = .ok (.projected projected)) :
      Effect s (.admitRecord request epoch charge observer) { s with owner := s.owner.fromRecordAdmission projected }
  | markerDrained {charge owner} (drain : s.owner.drainNextMarker charge = .ok owner) :
      Effect s (.drainMarker charge) { s with owner }
  | acked {op} {slot : ParticipantSlot} {active : ActiveBinding} {cursor} {fateToken : Option SealedBindingFateToken}
      {owner} (found : s.slot? slot.participantId = some slot) (bound : slot.binding = .bound active)
      (advances : slot.member.cursor < cursor)
      (token : ∀ participant, (∀ token ∈ slot.fateToken, token.OrdinaryFor participant) →
        ∀ token ∈ fateToken, token.OrdinaryFor participant)
      (ack : s.owner.applyAckFrontier slot.participantId cursor = .ok owner ∨
        s.owner.applyMarkerAckFrontier slot.participantId cursor = .ok owner) :
      Effect s op (s.commit { slot with member := { slot.member with cursor }, fateToken } owner (some cursor))
  | left {op} {slot : ParticipantSlot} {terminal charges leftTransactionOrder} {committed : LiveLeaveCommit}
      (leaver : op.leaver? = some slot.participantId) (found : s.slot? slot.participantId = some slot)
      (identity : committed.identity.participantId = slot.participantId ∧
        committed.identity.conversationId = slot.member.conversationId)
      (leaving : s.owner.Leaving committed.owner slot.member terminal charges
        committed.observerProgressProjection leftTransactionOrder) :
      Effect s op (s.retire committed)
  | fated {slot : ParticipantSlot} {kind observer token terminal} {fate : MeasuredBindingFate}
      {owner} (found : s.slot? slot.participantId = some slot) (held : slot.fateToken = some token)
      (prepare : s.owner.prepareBindingFate token terminal observer = .ok (owner, fate)) :
      Effect s (.bindingFate slot.participantId kind observer)
        (s.commit { slot with fateToken := none } owner (some fate.observerProgressProjection))
  | measured {slot : ParticipantSlot} {observer token} {pending : PendingFinalization} {terminal fate}
      {finalizer : LiveFrontierOwner.PendingDiedOrdinaryFinalizer} (found : s.slot? slot.participantId = some slot)
      (held : slot.fateToken = some token) (pended : slot.binding = .pendingFinalization pending)
      (prepare : s.owner.preparePendingDiedOrdinaryFinalizer token terminal observer = .ok (fate, finalizer)) :
      Effect s (.measurePendingFate slot.participantId observer)
        (s.commit { slot with fateToken := none, finalizer := some finalizer } s.owner none)
  | completed {op} {slot : ParticipantSlot} {owner} {finalizer : LiveFrontierOwner.PendingDiedOrdinaryFinalizer}
      (found : s.slot? slot.participantId = some slot) (measured : slot.finalizer = some finalizer)
      (settled : ∀ pending, slot.binding ≠ .pendingFinalization pending)
      (complete : s.owner.installFinalizedBindingFateFloor finalizer.resultingFloor = .ok owner) : Effect s op (s.commit
      { slot with finalizer := none } owner (some finalizer.resultingFloor))

variable {participant : ParticipantId} {slot : ParticipantSlot} {op : Operation} {epoch : BindingEpoch}
  {order : TransactionOrder} {deliverySeq observer : DeliverySeq} {charge : RetainedRecordCharge}
  {parameters : AttachCommitParameters} {charges : LiveFrontierOwner.AttachFrontierCharges}
  {request : CredentialAttachRequest} {proof : AttachSecretProof} {verifier : RequestVerifier} {cause : TerminalCause}
  {availability : AckAvailability} {s s' : Conversation}

/-! ### Enrollment and attach -/

theorem Effect.of_enroll (h : s.enroll allocated epoch order deliverySeq charge = some s') : Effect s
    (.enroll allocated epoch order deliverySeq charge) s' ∧ SlotStep s s' := by
  simp only [enroll, some_iff] at h
  obtain ⟨⟨hfresh, -⟩, enrollment, henroll, owner, howner, rfl⟩ := h
  obtain ⟨-, -, rfl⟩ := commitEnrollment_eq_ok.mp henroll
  obtain ⟨row, -, happends⟩ := applyEnrollmentFrontier_appends howner
  refine ⟨.enrolled hfresh happends, fun slot' hslot' => ?_⟩
  rcases List.mem_append.mp ((List.mem_insertionSort _).mp hslot') with hold | hnew
  · exact Or.inl hold
  · rw [List.mem_singleton.mp hnew]
    exact Or.inr (Or.inl ⟨_, _, _, _, _, _, henroll, rfl⟩)

/-- An attach that needs no recovery block appends its record, and before it the terminal it projects. -/
theorem attach_appends {mode : AttachMode}
    (hlaid : s.owner.frontiers.LaidOut) (hmode : mode = .detached ∧ projection = none ∨
      ∃ active terminalSeq, projection = some terminalSeq ∧
        mode = .superseded (superseded active parameters.transactionOrder terminalSeq))
    (h : s.attach slot parameters mode charges projection = some s') : ∃ rows owner latestTerminal detachCell,
      s.owner.Appends (s.owner.withParticipant ⟨parameters.binding.participantId, slot.member.cursor,
        .bound parameters.binding.bindingEpoch⟩) rows owner ∧
      rows.map RetainedCausalRecord.deliverySeq = projection.toList ++ [parameters.deliverySeq] ∧
      s' = s.commit { slot with
        member := { slot.member with
          generation := parameters.binding.bindingEpoch.capabilityGeneration, latestTerminal }
        binding := .bound parameters.binding
        detachCell
        fateToken := some ⟨some ⟨parameters.binding, slot.member.cursor⟩, none, slot.member.cursor⟩ }
        owner projection := by
  simp only [attach, some_iff] at h
  obtain ⟨committed, hcommit, owner, howner, rfl⟩ := h
  obtain ⟨hmember, hbinding, hattached, htrans, htoken⟩ := commitAttach_eq_ok hcommit
  have hsuperseded : ∀ terminal, committed.transition = .superseded terminal →
      terminal.identity.admissionOrder < committed.attached.admissionOrder ∧
        terminal.identity.admissionOrder.transactionOrder =
          committed.attached.admissionOrder.transactionOrder := by
    intro terminal hterm
    rw [htrans] at hterm
    rcases hmode with ⟨rfl, -⟩ | ⟨active, terminalSeq, -, rfl⟩ <;> cases hterm
    rw [hattached]
    exact ⟨AdmissionOrder.lt_of_rank_lt rfl (show 0 < 2 by decide), rfl⟩
  obtain ⟨rows, happends, hrows⟩ :=
    applyAttachFrontier_appends hlaid.sequenceRecovery hsuperseded howner
  rw [hattached, hmember] at happends
  rw [htrans, hattached] at hrows
  rw [hmember, hbinding, htoken]
  rcases hmode with ⟨rfl, rfl⟩ | ⟨active, terminalSeq, rfl, rfl⟩
  · exact ⟨rows, owner, _, _, happends, (hrows.resolve_right (by simp [attachParts])).2, rfl⟩
  · obtain ⟨_, hterm, hplaces⟩ := hrows.resolve_left (by simp [attachParts])
    cases hterm
    exact ⟨rows, owner, _, _, happends, hplaces, rfl⟩

section

variable (hlaid : s.owner.frontiers.LaidOut)
include hlaid

theorem Effect.of_attachDetached
    (h : s.attachDetached request proof parameters charges = some s') : Effect s op s' ∧ SlotStep s s' := by
  simp only [attachDetached, some_iff] at h
  obtain ⟨slot, hslot, mode, hmode, hattach⟩ := h
  refine ⟨?_, .attach hslot (.attachDetached _ request proof parameters)
    (by rw [ParticipantSlot.apply, ParticipantSlot.attachVerified, hmode]; rfl) hattach⟩
  simp only [verifyDetachedAttach, verifyAttachCommon, ok_iff] at hmode
  obtain ⟨-, ⟨-, -, -, -, howned, -⟩, hdet, -, rfl⟩ := hmode
  obtain ⟨rows, owner, _, _, happends, -, rfl⟩ := attach_appends hlaid (Or.inl ⟨rfl, rfl⟩) hattach
  rw [howned.2] at happends
  exact .attached (slot?_eq_some hslot).2.2 (by simp [hdet]) howned.symm happends (by simp)

theorem Effect.of_attachSuperseding
    (h : s.attachSuperseding request proof terminalOrder terminalSeq parameters charges = some s') :
    Effect s op s' ∧ SlotStep s s' := by
  simp only [attachSuperseding, some_iff, bound_iff] at h
  obtain ⟨slot, hslot, active, hbound, mode, hmode, hattach⟩ := h
  refine ⟨?_, .attach hslot (.attachSuperseding request proof terminalOrder terminalSeq parameters)
    (by simp only [ParticipantSlot.apply, ParticipantSlot.attachSuperseding, hbound,
      ParticipantSlot.attachVerified, hmode]; rfl) hattach⟩
  simp only [verifySupersedingAttach, verifyAttachCommon, ok_iff] at hmode
  obtain ⟨⟨-, -, -, -, howned, -⟩, -, -, rfl, rfl⟩ := hmode
  obtain ⟨rows, owner, _, _, happends, hrows, rfl⟩ :=
    attach_appends hlaid (Or.inr ⟨active, terminalSeq, rfl, rfl⟩) hattach
  rw [howned.2] at happends
  exact .attached (slot?_eq_some hslot).2.2 (by simp [hbound]) howned.symm happends (by simp [hrows])

theorem attachFenced_eq_none : s.attachFenced request proof recovery pendingSeq parameters charges = none := by
  rw [Option.eq_none_iff_forall_ne_some]
  intro s' h
  simp only [attachFenced, verifyFencedAttach, attach, some_iff, ok_iff] at h
  obtain ⟨slot, -, mode, ⟨_, -, -, -, pending, -, rfl⟩, committed, hcommit, owner, howner, -⟩ := h
  obtain ⟨-, -, -, htrans, -⟩ := commitAttach_eq_ok hcommit
  obtain ⟨rows, -, hrows⟩ := applyAttachFrontier_appends hlaid.sequenceRecovery (by simp [htrans, attachParts]) howner
  simp [htrans, attachParts] at hrows

end

/-! ### The end of a binding -/

theorem Effect.of_detach {request}
    (h : s.detach request verifier order deliverySeq charge = some s') : Effect s op s' ∧ SlotStep s s' := by
  simp only [detach, some_iff, bound_iff] at h
  obtain ⟨slot, hslot, active, hbound, _, hrequest, transition, htrans, owner, howner, rfl⟩ := h
  refine ⟨?_, .commit hslot (.detach request verifier order deliverySeq)
    (by simp only [ParticipantSlot.apply, ParticipantSlot.detach, hbound, hrequest, htrans]; rfl)⟩
  obtain ⟨hterm, hmember, howned, -⟩ := commitDetach_eq_ok htrans
  obtain ⟨row, hplace, happends⟩ := applyDetachFrontier_appends howner
  have hid : transition.terminal.identity.participantId = slot.participantId := by
    rw [hterm]
    exact howned.symm
  have hepoch : transition.terminal.identity.bindingEpoch = active.bindingEpoch := by
    rw [hterm]
    rfl
  rw [hid, hepoch, hmember] at happends
  rw [hmember, ← hplace]
  exact .ended (slot?_eq_some hslot).2.2 hbound hepoch (by simp) (Or.inl rfl) happends

theorem Effect.of_detachBlocked {request} (h : s.detachBlocked request verifier order deliverySeq observer charge =
    some s') : Effect s op s' ∧ SlotStep s s' := by
  simp only [detachBlocked, some_iff, bound_iff, prepareBindingTerminal_eq_ok] at h
  obtain ⟨slot, hslot, active, hbound, _, hrequest, prepared, ⟨-, -, -, -, rfl⟩, h⟩ := h
  split at h
  · rename_i owner blocked hadmit
    simp only [some_iff] at h
    obtain ⟨transition, htrans, rfl⟩ := h
    refine ⟨?_, .commit hslot (.detachBlocked request verifier order blocked)
      (by simp only [ParticipantSlot.apply, ParticipantSlot.detachBlocked, hbound, hrequest, htrans]; rfl)⟩
    obtain ⟨hmember, hpending, -⟩ := startBlockedDetach_eq_ok htrans
    rw [hmember]
    exact .pended (slot?_eq_some hslot).2.2 hbound (by rw [hpending]; rfl) (by simp) (admitTerminal_eq_pending hadmit)
  · cases h

theorem survivingToken_eq_some : ∀ kept ∈ survivingToken cause token, token = some kept := by
  cases cause with
  | detached cause => simp [survivingToken]
  | died cause => exact fun _ hkept => hkept

theorem Effect.of_endBinding (h : s.endBinding participant cause order deliverySeq observer charge = some s') :
    Effect s op s' ∧ SlotStep s s' := by
  simp only [endBinding, some_iff, bound_iff, prepareBindingTerminal_eq_ok] at h
  obtain ⟨slot, hslot, active, hbound, prepared, ⟨-, -, -, -, rfl⟩, h⟩ := h
  obtain ⟨-, -, hfound⟩ := slot?_eq_some hslot
  split at h
  · rename_i owner hadmit
    simp only [some_iff] at h
    obtain ⟨member, hmember, rfl⟩ := h
    refine ⟨?_, .commit hslot (.commitTerminal cause order deliverySeq)
      (by simp only [ParticipantSlot.apply, ParticipantSlot.commitTerminal, hbound, hmember]; rfl)⟩
    obtain ⟨rfl, howned⟩ := withCommittedTerminal_eq_ok hmember
    rw [commitTerminal_identity] at howned
    obtain ⟨current, hcurrent, happends⟩ := commitBindingTerminalCandidate_appends (admitTerminal_eq_commit hadmit)
    have hid : active.participantId = slot.participantId := howned
    rw [hid] at hcurrent happends
    have hepoch : (active.commitTerminal cause order deliverySeq).identity.bindingEpoch =
        active.bindingEpoch := by
      rw [commitTerminal_identity]
      rfl
    exact .ended hfound hbound hepoch survivingToken_eq_some (Or.inr ⟨current, hcurrent, rfl⟩) happends
  · rename_i owner blocked hadmit
    cases h
    exact ⟨.pended hfound hbound (by simp) survivingToken_eq_some (admitTerminal_eq_pending hadmit),
      .commit hslot (.pendTerminal cause order)
        (by simp only [ParticipantSlot.apply, ParticipantSlot.pendTerminal, hbound]; rfl)⟩
  · cases h

theorem settleTerminal_eq_some (hpended : slot.binding = .pendingFinalization pending)
    (h : settleTerminal slot pending deliverySeq = some settled) : ∃ detachCell, settled = { slot with
      member := { slot.member with latestTerminal := some (pending.commit deliverySeq) }
      binding := .detached
      detachCell } := by
  unfold settleTerminal at h
  split at h
  · simp only [some_iff, hpended] at h
    obtain ⟨transition, htrans, rfl⟩ := h
    rw [completePendingDetach_eq_ok htrans]
    exact ⟨_, rfl⟩
  · simp only [some_iff] at h
    obtain ⟨member, hmember, rfl⟩ := h
    rw [(withCommittedTerminal_eq_ok hmember).1]
    exact ⟨_, rfl⟩

theorem Effect.of_drainTerminal (h : s.drainTerminal participant charge = some s') :
    Effect s op s' ∧ SlotStep s s' := by
  simp only [drainTerminal, some_iff, pended_iff, Prod.exists] at h
  obtain ⟨slot, hslot, pending, hpended, owner, deliverySeq, hdrain, settled, hsettled, rfl⟩ := h
  refine ⟨?_, .commit hslot (.drainTerminal deliverySeq)
    (by simp only [ParticipantSlot.apply, ParticipantSlot.drainTerminal, hpended, hsettled]; rfl)⟩
  obtain ⟨detachCell, rfl⟩ := settleTerminal_eq_some hpended hsettled
  exact .drained (slot?_eq_some hslot).2.2 hpended hdrain

/-! ### Records, markers and acknowledgements -/

theorem Effect.of_admitRecord {request charge} (h : s.admitRecord request epoch charge observer = some s') : Effect s
    (.admitRecord request epoch charge observer) s' ∧ SlotStep s s' := by
  simp only [admitRecord, some_iff] at h
  obtain ⟨slot, -, projected, hprojd, rfl⟩ := h
  exact ⟨.recorded (applyRecordAdmission_eq_ok hprojd), .of_slots_eq rfl⟩

theorem Effect.of_drainMarker (h : s.drainMarker charge = some s') :
    Effect s (.drainMarker charge) s' ∧ SlotStep s s' := by
  simp only [drainMarker, some_iff] at h
  obtain ⟨owner, hdrain, rfl⟩ := h
  exact ⟨.markerDrained hdrain, .of_slots_eq rfl⟩

theorem moveSlot_eq_some
    (hfrom : update.fromCursor = slot.member.cursor) (h : moveSlot slot update progress = some moved) :
    slot.member.cursor < update.resultingCursor ∧ ∃ fateToken, (∀ token ∈ fateToken, ∃ previous, slot.fateToken =
      some previous ∧ progress previous = some token) ∧ moved = { slot with
        member := { slot.member with cursor := update.resultingCursor }, fateToken } := by
  simp only [moveSlot, some_iff] at h
  obtain ⟨member, hmember, h⟩ := h
  obtain ⟨rfl, hlt, -⟩ := applyCursorUpdate_eq_ok hmember
  refine ⟨hfrom ▸ hlt, ?_⟩
  split at h
  · rename_i hnone
    simp only [pure_eq_some] at h
    subst h
    exact ⟨none, by simp, by rw [← hnone]⟩
  · rename_i previous hprevious
    simp only [some_iff] at h
    obtain ⟨token, htoken, rfl⟩ := h
    refine ⟨some token, fun kept hkept => ?_, rfl⟩
    cases hkept
    exact ⟨previous, hprevious, htoken⟩

theorem Effect.of_commitAck (hfound : s.slot? slot.participantId = some slot) (hbound : slot.binding = .bound active)
    (hfrom : committed.cursorUpdate.fromCursor = slot.member.cursor) (h : s.commitAck slot committed = some s') :
    Effect s op s' := by
  simp only [commitAck, some_iff] at h
  obtain ⟨moved, hmoved, owner, howner, rfl⟩ := h
  obtain ⟨hlt, fateToken, htoken, rfl⟩ := moveSlot_eq_some hfrom hmoved
  refine .acked hfound hbound hlt (fun participant hfor token hmem => ?_) (Or.inl howner)
  obtain ⟨previous, hprevious, hprogress⟩ := htoken token hmem
  exact (hfor previous hprevious).participantAckProgressed hprogress

theorem Effect.of_ack {request} (h : s.ack request epoch availability = some s') : Effect s op s' ∧ SlotStep s s' := by
  simp only [ack, some_iff] at h
  obtain ⟨slot, hslot, committed, hcommit, hack⟩ := h
  obtain ⟨⟨active, hbound⟩, hupdate⟩ := applyParticipantAck_eq_ok hcommit
  exact ⟨.of_commitAck (slot?_eq_some hslot).2.2 hbound (by rw [hupdate]; rfl) hack,
    .commitAck hslot (.ack request epoch availability)
      (by rw [ParticipantSlot.apply, ParticipantSlot.acknowledge, hcommit]; rfl) hack⟩

theorem Effect.of_ackNonzero {request}
    (h : s.ackNonzero request epoch availability observer = some s') : Effect s op s' ∧ SlotStep s s' := by
  simp only [ackNonzero, bind_eq_some] at h
  obtain ⟨slot, hslot, h⟩ := h
  split at h
  · cases h
  · simp only [some_iff] at h
    obtain ⟨episode, -, committed, hcommit, hack⟩ := h
    obtain ⟨⟨active, hbound⟩, hupdate⟩ := applyNonzeroParticipantAck_eq_ok hcommit
    exact ⟨.of_commitAck (slot?_eq_some hslot).2.2 hbound (by rw [hupdate]; rfl) hack,
      .commitAck hslot (.ackNonzero request epoch availability episode)
        (by rw [ParticipantSlot.apply, ParticipantSlot.acknowledge, hcommit]; rfl) hack⟩

theorem Effect.of_ackMarker {request}
    (h : s.ackMarker request epoch markerState = some s') : Effect s op s' ∧ SlotStep s s' := by
  simp only [ackMarker, some_iff] at h
  obtain ⟨slot, hslot, committed, hcommit, moved, hmoved, owner, howner, rfl⟩ := h
  refine ⟨?_, .commit hslot (.ackMarker request epoch markerState)
    (by simp only [ParticipantSlot.apply, ParticipantSlot.acknowledgeMarker, hcommit]
        exact congrArg (Option.map SlotState.live) hmoved)⟩
  obtain ⟨⟨active, hbound⟩, hfrom⟩ := applyMarkerAck_eq_ok hcommit
  obtain ⟨hlt, fateToken, htoken, rfl⟩ := moveSlot_eq_some hfrom hmoved
  refine .acked (slot?_eq_some hslot).2.2 hbound hlt (fun participant hfor token hmem => ?_) (Or.inr howner)
  obtain ⟨previous, hprevious, hprogress⟩ := htoken token hmem
  exact (hfor previous hprevious).markerAckProgressed hprogress

/-! ### Leave -/

theorem Effect.of_leave {request}
    (hlaid : s.owner.frontiers.LaidOut) (h : s.leave request proof leftDeliverySeq charge = some s') :
    Effect s (.leave request proof leftDeliverySeq charge) s' ∧ SlotStep s s' := by
  simp only [leave, some_iff] at h
  obtain ⟨slot, hslot, verified, -, committed, hcommit, rfl⟩ := h
  obtain ⟨-, hid, hfound⟩ := slot?_eq_some hslot
  obtain ⟨hident, hproj, order, hleaving⟩ := commitSettledLeaveFrontier_eq_ok hlaid hcommit
  rw [← hproj] at hleaving
  exact ⟨.left (congrArg some hid.symm) hfound hident hleaving, .retire⟩

theorem Effect.of_leavePending {request parameters} (hlaid : s.owner.frontiers.LaidOut)
    (h : s.leavePending request proof parameters terminalCharge leftCharge = some s') :
    Effect s (.leavePending request proof parameters terminalCharge leftCharge) s' ∧ SlotStep s s' := by
  simp only [leavePending, some_iff, pended_iff] at h
  obtain ⟨slot, hslot, pending, -, verified, -, committed, hcommit, rfl⟩ := h
  obtain ⟨-, hid, hfound⟩ := slot?_eq_some hslot
  obtain ⟨hident, hproj, order, hleaving⟩ := commitPendingLeaveFrontier_eq_ok hlaid hcommit
  rw [← hproj] at hleaving
  exact ⟨.left (congrArg some hid.symm) hfound hident hleaving, .retire⟩

/-! ### Binding fate -/

theorem Effect.of_bindingFate (h : s.bindingFate participant kind observer = some s') :
    Effect s (.bindingFate participant kind observer) s' ∧ SlotStep s s' := by
  simp only [bindingFate, some_iff, Prod.exists] at h
  obtain ⟨slot, hslot, token, hheld, terminal, -, owner, fate, hprepare, rfl⟩ := h
  obtain ⟨-, rfl, hfound⟩ := slot?_eq_some hslot
  exact ⟨.fated hfound hheld hprepare, .commit hslot (.measureFate none) rfl⟩

theorem Effect.of_measurePendingFate (h : s.measurePendingFate participant observer = some s') :
    Effect s (.measurePendingFate participant observer) s' ∧ SlotStep s s' := by
  simp only [measurePendingFate, bind_eq_some] at h
  obtain ⟨slot, hslot, token, hheld, h⟩ := h
  obtain ⟨-, rfl, hfound⟩ := slot?_eq_some hslot
  split at h
  · rename_i pending hpended
    simp only [some_iff, Prod.exists] at h
    obtain ⟨deliverySeq, -, fate, finalizer, hprepare, rfl⟩ := h
    exact ⟨.measured hfound hheld hpended hprepare, .commit hslot (.measureFate (some finalizer)) rfl⟩
  · cases h

theorem Effect.of_completeFate (h : s.completeFate participant = some s') : Effect s op s' ∧ SlotStep s s' := by
  simp only [completeFate, bind_eq_some] at h
  obtain ⟨slot, hslot, finalizer, hmeas, h⟩ := h
  obtain ⟨-, -, hfound⟩ := slot?_eq_some hslot
  split at h
  · cases h
  · rename_i hsettled
    simp only [some_iff] at h
    obtain ⟨owner, hcompl, rfl⟩ := h
    exact ⟨.completed hfound hmeas hsettled hcompl, .commit hslot .installFate rfl⟩

/-! ### All of them -/

theorem apply_effect (hlaid : s.owner.frontiers.LaidOut) (h : s.apply op = some s') :
    Effect s op s' ∧ SlotStep s s' := by
  cases op with
  | enroll => exact Effect.of_enroll h
  | attachDetached => exact Effect.of_attachDetached hlaid h
  | attachSuperseding => exact Effect.of_attachSuperseding hlaid h
  | attachFenced => exact absurd h (by rw [apply, attachFenced_eq_none hlaid]; simp)
  | detach => exact Effect.of_detach h
  | detachBlocked => exact Effect.of_detachBlocked h
  | endBinding => exact Effect.of_endBinding h
  | drainTerminal => exact Effect.of_drainTerminal h
  | admitRecord => exact Effect.of_admitRecord h
  | drainMarker => exact Effect.of_drainMarker h
  | ack => exact Effect.of_ack h
  | ackNonzero => exact Effect.of_ackNonzero h
  | ackMarker => exact Effect.of_ackMarker h
  | leave => exact Effect.of_leave hlaid h
  | leavePending => exact Effect.of_leavePending hlaid h
  | bindingFate => exact Effect.of_bindingFate h
  | measurePendingFate => exact Effect.of_measurePendingFate h
  | completeFate => exact Effect.of_completeFate h

theorem Effect.ownerStep (h : Effect s op s') : s.owner.Step s'.owner := by
  cases h with
  | enrolled _ happends | attached _ _ _ happends _ | ended _ _ _ _ _ happends =>
    exact .appended happends
  | pended _ _ _ _ hpend => exact .pended hpend
  | drained _ _ hdrain => exact .drained hdrain
  | recorded hproject => exact .recorded hproject
  | markerDrained hdrain => exact .markerDrained hdrain
  | acked _ _ _ _ hack =>
    rcases hack with hack | hack
    · obtain ⟨current, accounting, hfind, -, hhigh, -, howner⟩ := applyAckFrontier_eq_ok hack
      exact howner ▸ .acknowledged ((ActiveIdentityRanks.find?_eq_some.mp hfind).2.symm ▸ hfind) hhigh
    · obtain ⟨current, accounting, -, hfind, -, hhigh, -, howner⟩ :=
        applyMarkerAckFrontier_eq_ok hack
      exact howner ▸ .acknowledged ((ActiveIdentityRanks.find?_eq_some.mp hfind).2.symm ▸ hfind) hhigh
  | left _ _ _ hleaving => exact .left hleaving
  | fated _ _ hprepare =>
    obtain ⟨context, current, -, -, -, -, -, -, hfloored⟩ := prepareBindingFate_eq_ok hprepare
    exact .floored hfloored
  | measured => exact .unchanged
  | completed _ _ _ hcompl =>
    rcases installFinalizedBindingFateFloor_eq_ok hcompl with howner | ⟨_, -, hfloored⟩
    · exact howner ▸ .unchanged
    · exact .floored hfloored

end Conversation

end Liminal
