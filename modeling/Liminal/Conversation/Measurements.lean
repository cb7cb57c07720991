import Liminal.Conversation.Fates
import Liminal.Conversation.Pairing
import Liminal.Conversation.Projection

/-!
# Measuring a death

A death just committed or pended is measured with the token of its binding. Everything the
measurement checks is settled by then; what may be missing is a storage edge for a recovered token.
-/

namespace Liminal

open Checked Fallible SealedBindingFateToken LiveFrontierOwner ActiveIdentityRanks Option

/-- A recovered token hangs its fate on the storage edge its attach left behind, so there has to be one. -/
def SealedBindingFateToken.Measurable (token : SealedBindingFateToken) : Prop :=
  ∀ proof ∈ token.recovered, ∃ debt, (∃ edge, proof.nextState = .owed debt (.observerProjection edge)) ∨
    ∃ edge, proof.nextState = .owed debt (.physicalCompaction edge)

namespace LiveFrontierOwner

variable {owner : LiveFrontierOwner} {limits : OrdinaryProjectionLimits} {token : SealedBindingFateToken}
  {terminal : BindingFateTerminal} {context : BindingFateMeasurementContext} {observer : DeliverySeq}
  {current : FrontierParticipant} {participant : ParticipantId} {slot : ParticipantSlot}

/-- A token and a terminal that belong together give a fate, whatever the floor, exactly if the token is
measurable. -/
theorem measuredFate_isSome (hcontext : token.measurementContext = some context)
    (hmatches : fateTerminalMatches token.intent terminal context = true) (floor : DeliverySeq) :
    (∃ fate, measuredFate token terminal floor = some fate) ↔ token.Measurable := by
  obtain ⟨ordinary, recovered, cursor⟩ := token
  rcases ordinary with - | authority <;> rcases recovered with - | proof
  · cases hcontext
  · cases terminal with
    | ordinary died => cases hmatches
    | recovered | recoveredAndReserveFinalizer =>
      rcases hnext : proof.nextState with - | ⟨debt, edge | edge | edge | edge⟩ <;>
        simp [measuredFate, recoveredBindingFateMeasured, FencedAttachCommit.recoveredBindingFate, hnext,
          measurementContext, SealedBindingFateToken.Measurable]
  · simp only [measurementContext, ite_none_right_eq_some, some.injEq] at hcontext
    obtain ⟨-, rfl⟩ := hcontext
    cases terminal with
    | recovered | recoveredAndReserveFinalizer => cases hmatches
    | ordinary died =>
      simp only [fateTerminalMatches, intent, decide_eq_true_eq] at hmatches
      obtain ⟨hconv, hpart, hepoch⟩ := hmatches
      simp [measuredFate, ordinaryBindingFate,
        OrdinaryBindingAuthority.bindingFate, hconv, hpart, hepoch, SealedBindingFateToken.Measurable]
  · cases hcontext

theorem measuredFate_resultingFloor
    (h : measuredFate token terminal floor = some fate) : fate.resultingFloor = floor := by
  cases terminal with
  | ordinary died =>
    simp only [measuredFate, map_eq_some_iff, ordinaryBindingFate] at h
    obtain ⟨measured, hmeas, rfl⟩ := h
    split at hmeas
    · simp only [OrdinaryBindingAuthority.bindingFate, ite_none_right_eq_some, some.injEq] at hmeas
      obtain ⟨-, rfl⟩ := hmeas
      rfl
    · cases hmeas
  | recovered | recoveredAndReserveFinalizer =>
    simp only [measuredFate, map_eq_some_iff, recoveredBindingFateMeasured] at h
    obtain ⟨measured, hmeas, rfl⟩ := h
    split at hmeas
    · simp only [FencedAttachCommit.recoveredBindingFate, ite_none_right_eq_some] at hmeas
      obtain ⟨-, hmeas⟩ := hmeas
      split at hmeas <;> cases hmeas <;> rfl
    · cases hmeas

section

variable (hcounted : owner.Accounted limits)

include hcounted

section

variable (hsound : owner.Sound)
include hsound

/-- The measured floor does not move back, stays within what the observer and the other cursors allow, and
spares every retained marker. -/
theorem Accounted.measuredFloor_bounds (participant : ParticipantId) (observer : DeliverySeq) :
    owner.frontiers.retainedFloor ≤ owner.measuredFloor participant observer ∧
      owner.measuredFloor participant observer ≤ max owner.frontiers.retainedFloor
        (min observer ((owner.minimumRemainingCursor participant).getD owner.frontiers.high) + 1) ∧
      ∀ record ∈ owner.frontiers.markerRecords, owner.measuredFloor participant observer ≤ record.deliverySeq := by
  have hfloor : ∀ marker ∈ owner.lowestRetainedMarkerSeq, owner.frontiers.retainedFloor ≤ marker :=
    le_lowestRetainedMarkerSeq.mpr fun record hrecord =>
      hsound.floor_le_record (hcounted.held.retained record hrecord)
  have hbounds := markerClampedFloor_le (floorTransition owner.frontiers.retainedFloor
    (owner.minimumRemainingCursor participant) owner.frontiers.high observer
    owner.frontiers.retainedFloor).resultingFloor owner.lowestRetainedMarkerSeq
  have hresult := floorTransition_resultingFloor owner.frontiers.retainedFloor
    (owner.minimumRemainingCursor participant) owner.frontiers.high observer owner.frontiers.retainedFloor
  refine ⟨le_markerClampedFloor ?_ hfloor, hbounds.1.trans ?_, le_lowestRetainedMarkerSeq.mp hbounds.2⟩
  · rw [hresult]
    exact Nat.le_max_right _ _
  · omega

/-- Measured against an observer that is not ahead of the log, the floor is at most one past the log. -/
theorem Accounted.measuredFloor_le_next (hobs : observer ≤ owner.frontiers.high) :
    owner.measuredFloor participant observer ≤ owner.frontiers.high + 1 :=
  (hcounted.measuredFloor_bounds hsound participant observer).2.1.trans (Nat.max_le.mpr
    ⟨hsound.floor_le, Nat.succ_le_succ ((Nat.min_le_left _ _).trans hobs)⟩)

/-- A floor within its bounds can be installed together with the end of a dead participant. -/
theorem Accounted.applyBindingFateTransition_isOk {epoch : BindingEpoch} {floor : Nat}
    (hfind : owner.frontiers.activeIdentities.find? participant = some current) (hdead : current.binding =
    .detached epoch) (hfloor : owner.frontiers.checkFateFloor floor = .ok ()) (reserve : Bool) : ∃ owner',
    owner.applyBindingFateTransition participant epoch current.cursor floor reserve = .ok owner' := by
  obtain ⟨hmem, hindex⟩ := find?_eq_some.mp hfind
  obtain ⟨hseat, hcursor⟩ := hsound.seated.admissible current hmem
  have hspared := (ClaimFrontiers.checkFateFloor_eq_ok.mp hfloor).2.2
  obtain ⟨accounting, hacct⟩ := hcounted.accountingAfterFloor_isSome hsound hspared
  have hresting : (if reserve = true then current.cursor else owner.frontiers.high) ≤
      owner.frontiers.high := by
    split
    · exact hcursor
    · exact Nat.le_refl _
  simp only [applyBindingFateTransition, ClaimFrontiers.applyBindingFateTransition, ok_iff, tryNew_eq_ok]
  refine ⟨_, chargesKeyed_iff.mpr hsound.keyed, _, ⟨current, hfind, ⟨rfl, hdead⟩, (), hfloor,
    owner.frontiers.activeIdentities.replace _, ⟨rfl, ?_, ?_⟩, rfl⟩, accounting, hacct, rfl⟩
  · simp only [replace, replaceParticipant, List.length_map]
    exact hsound.seated.count
  · intro p hp
    rcases mem_replaceParticipant hp with rfl | ⟨hold, -⟩
    · exact ⟨hindex ▸ hseat, hresting⟩
    · exact hsound.seated.admissible p hold

/-- Where the participant is dead under the token's epoch and at the token's cursor, the measurement can fail
for want of a storage edge only. -/
theorem Accounted.prepareBindingFate_isOk (hcontext : token.measurementContext = some context)
    (hconv : context.conversationId = owner.frontiers.conversationId)
    (hfind : owner.frontiers.activeIdentities.find? context.participantId = some current) (hcursor : current.cursor =
    context.cursor) (hdead : current.binding = .detached context.bindingEpoch)
    (hmatches : fateTerminalMatches token.intent terminal context = true) (hobs : observer ≤ owner.frontiers.high) :
    (∃ owner' fate, owner.prepareBindingFate token terminal observer = .ok (owner', fate)) ↔ token.Measurable := by
  rw [← measuredFate_isSome hcontext hmatches (owner.measuredFloor context.participantId observer)]
  constructor
  · rintro ⟨owner', fate, hprepare⟩
    obtain ⟨_, _, hcontext', -, -, -, -, hfate, -⟩ := prepareBindingFate_eq_ok hprepare
    rw [hcontext, some.injEq] at hcontext'
    exact ⟨fate, hcontext' ▸ hfate⟩
  · rintro ⟨fate, hfate⟩
    obtain ⟨hback, -, hspared⟩ :=
      hcounted.measuredFloor_bounds hsound context.participantId observer
    have hend : owner.measuredFloor context.participantId observer ≤ owner.frontiers.high + 1 :=
      hcounted.measuredFloor_le_next hsound hobs
    obtain ⟨owner', howner'⟩ := hcounted.applyBindingFateTransition_isOk hsound hfind hdead
      (ClaimFrontiers.checkFateFloor_eq_ok.mpr ⟨hback, hend, hspared⟩)
      (decide (terminal = .recoveredAndReserveFinalizer))
    rw [hcursor] at howner'
    have hmem := (find?_eq_some.mp hfind).1
    refine ⟨owner', fate, ?_⟩
    simp only [prepareBindingFate, validateBindingFateMeasurement, validateBindingFateFloor, ok_iff,
      Prod.exists, Prod.mk.injEq]
    exact ⟨_, _, ⟨_, ⟨context, hcontext, hconv, current, hfind, ⟨hcursor, Or.inr hdead⟩,
      hmatches, hobs, hend.trans (hsound.laidOut.next_le hmem), rfl⟩, context, hcontext, owner',
      howner', rfl, rfl⟩, fate, hfate, rfl, rfl⟩

end

end

end LiveFrontierOwner

namespace Conversation

variable {s s' : Conversation} {op : Operation} {slot' : ParticipantSlot} {kind : FateKind} {epoch : BindingEpoch}

/-! ### Pended deaths -/

theorem Coupled.slot_unique (h : s.Coupled) (hslot : slot ∈ s.slots)
    (hslot' : slot' ∈ s.slots) (hid : slot.participantId = slot'.participantId) : slot = slot' := by
  refine List.inj_on_of_nodup_map (f := ParticipantSlot.participantId) ?_ hslot hslot' hid
  rw [h.ids]
  exact s.owner.frontiers.activeIdentities.indexes_nodup

theorem Coupled.slot?_of_mem (h : s.Coupled) (hslot : slot ∈ s.slots) : s.slot? slot.participantId = some slot := by
  obtain ⟨found, hfound⟩ : ∃ found, s.slot? slot.participantId = some found :=
    isSome_iff_exists.mp (List.find?_isSome.mpr ⟨slot, hslot, by simp⟩)
  obtain ⟨hmem, hid, -⟩ := slot?_eq_some hfound
  rw [hfound, h.slot_unique hmem hslot hid]

/-- A participant whose terminal is pended has its cursor where the member has it. -/
def PendedLevel (s : Conversation) : Prop :=
  ∀ slot ∈ s.slots, ∀ pending, slot.binding = .pendingFinalization pending →
    ∀ p ∈ s.owner.frontiers.activeIdentities.find? slot.participantId, p.cursor = slot.member.cursor

theorem Effect.pended_from (h : Effect s op s') (hslot' : slot' ∈ s'.slots)
    (hpended : slot'.binding = .pendingFinalization pending) :
    ∃ slot ∈ s.slots, slot.participantId = slot'.participantId ∧
      (slot.binding = slot'.binding ∨ ∃ active, slot.binding = .bound active) := by
  -- An old slot is itself; of the new ones only a pended one or one that kept its binding counts.
  have hkept : slot' ∈ s.slots → ∃ slot ∈ s.slots, slot.participantId = slot'.participantId ∧
      (slot.binding = slot'.binding ∨ ∃ active, slot.binding = .bound active) :=
    fun hmem => ⟨slot', hmem, rfl, Or.inl rfl⟩
  cases h with
  | enrolled =>
    have hmem := (List.mem_insertionSort _).mp hslot'
    rcases List.mem_append.mp hmem with hold | hlast
    · exact hkept hold
    · rw [List.mem_singleton.mp hlast] at hpended
      cases hpended
  | attached | ended | drained =>
    rcases mem_replaceSlot hslot' with rfl | hold
    · cases hpended
    · exact hkept hold
  | pended hfound hbound =>
    rcases mem_replaceSlot hslot' with rfl | hold
    · exact ⟨_, (slot?_eq_some hfound).1, rfl, Or.inr ⟨_, hbound⟩⟩
    · exact hkept hold
  | recorded | markerDrained => exact hkept hslot'
  | left => exact hkept (List.mem_of_mem_filter hslot')
  | acked hfound | fated hfound | measured hfound | completed hfound =>
    rcases mem_replaceSlot hslot' with rfl | hold
    · exact ⟨_, (slot?_eq_some hfound).1, rfl, Or.inl rfl⟩
    · exact hkept hold

/-- An ordinary fate goes with a death the member knows, of the epoch the token is for. -/
theorem measuredFate_terminal {context : BindingFateMeasurementContext} (hfor : token.OrdinaryFor slot.participantId)
    (hcontext : token.measurementContext = some context) (hterm : fateTerminal slot kind = some terminal)
    (h : measuredFate token terminal floor = some fate) :
    ∃ latest ∈ slot.member.latestTerminal, latest.identity.bindingEpoch = context.bindingEpoch := by
  obtain ⟨hrecov, authority, hordinary, -⟩ := hfor
  simp only [measurementContext, hordinary, hrecov, ite_none_right_eq_some, some.injEq] at hcontext
  obtain ⟨-, rfl⟩ := hcontext
  cases kind with
  | recovered | recoveredAndReserveFinalizer =>
    cases hterm
    simp [measuredFate, recoveredBindingFateMeasured, hordinary] at h
  | ordinary =>
    simp only [fateTerminal] at hterm
    split at hterm
    · rename_i died hlatest
      cases hterm
      simp only [measuredFate, ordinaryBindingFate, hrecov,
        hordinary, map_eq_some_iff, OrdinaryBindingAuthority.bindingFate, ite_none_right_eq_some] at h
      obtain ⟨_, ⟨⟨-, -, hepoch⟩, -⟩, -⟩ := h
      exact ⟨_, hlatest, hepoch⟩
    · cases hterm

/-- A fate goes through for a settled participant only: while its terminal is pended, the last death the
member knows is of an earlier binding. -/
theorem bindingFate_detached (h : conversationMachine.Reachable s) (hslot : s.slot? participant = some slot)
    (hfate : s.bindingFate participant kind observer = some s') : slot.binding = .detached := by
  simp only [bindingFate, some_iff, Prod.exists] at hfate
  obtain ⟨_, hslot', token, hheld, terminal, hterm, owner, fate, hprepare, -⟩ := hfate
  rw [hslot, some.injEq] at hslot'
  subst hslot'
  obtain ⟨hmem, -, -⟩ := slot?_eq_some hslot
  obtain ⟨p, hfind, hagrees⟩ := (coupled_of_reachable h).lookup hslot
  have hfor := hagrees.token token hheld
  obtain ⟨context, current, hcontext, hcurrent, -, hdead, -, hfate, -⟩ :=
    prepareBindingFate_eq_ok hprepare
  rw [hfor.measurementContext hcontext, hfind, some.injEq] at hcurrent
  subst hcurrent
  cases hbinding : slot.binding with
  | detached => rfl
  | bound active =>
    rw [hagrees.bound hbinding] at hdead
    cases hdead
  | pendingFinalization pending =>
    obtain ⟨latest, hlatest, hepoch⟩ := measuredFate_terminal hfor hcontext hterm hfate
    rw [hagrees.pended hbinding, FrontierBinding.detached.injEq] at hdead
    have hpaired := slots_paired h slot hmem
    have hearlier := hpaired.dated.earlier (by simp [hbinding]) latest hlatest
    rw [hepoch, ← hdead, (hpaired.pended pending hbinding).2.2] at hearlier
    exact absurd hearlier (lt_irrefl _)

theorem pendedLevel_of_reachable (h : conversationMachine.Reachable s) : s.PendedLevel := by
  induction h with
  | start hs =>
    obtain ⟨closure, epoch, order, hstarted⟩ := hs.started
    intro slot hslot pending hpended
    rw [hstarted.slots] at hslot
    rw [List.mem_singleton.mp hslot] at hpended
    cases hpended
  | @next s s' op hs _ hnext ih =>
    have hreached : conversationMachine.Reachable s := hs
    have hcoupled := coupled_of_reachable hreached
    have hcoupled' := coupled_of_reachable (hreached.next hnext)
    have heffect := (apply_effect (sound_of_reachable hreached).laidOut hnext).1
    intro slot' hslot' pending hpended p' hp'
    obtain ⟨slot, hslot, hid, hbefore⟩ := heffect.pended_from hslot' hpended
    obtain ⟨-, hpairs⟩ := List.forall₂_iff_zip.mp (heffect.pairs hcoupled)
    cases (hpairs (hcoupled'.zip_of_find hslot' hp')).2 with
    | level hcursors => exact hcursors
    | @kept old p hpair hold hfront hmember =>
      obtain rfl := hcoupled.slot_unique hslot (List.of_mem_zip hpair).1 (hid.trans hold)
      have hfind := hcoupled.find?_of_zip hpair
      rw [hfront, hmember]
      rcases hbefore with hsame | ⟨active, hbound⟩
      · exact ih slot hslot pending (hsame.trans hpended) p hfind
      · obtain ⟨q, hq, hagrees⟩ := hcoupled.agrees_of_mem hslot
        rw [hfind, some.injEq] at hq
        rw [hq]
        exact hagrees.boundCursor active hbound
    | @fated old p kind observer hpair hold hop _ _ =>
      subst hop
      obtain rfl := hcoupled.slot_unique hslot (List.of_mem_zip hpair).1 (hid.trans hold)
      have hdet := bindingFate_detached hreached (hcoupled.slot?_of_mem hslot) hnext
      rcases hbefore with hsame | ⟨active, hbound⟩
      · rw [hdet, hpended] at hsame
        cases hsame
      · rw [hdet] at hbound
        cases hbound

/-! ### A death that has just happened -/

/-- The operation commits or pends the death of this participant's binding: its connection is lost, or a death
that was pended is drained. -/
inductive JustDied (s : Conversation) (participant : ParticipantId) : BindingEpoch → Operation → Prop
  | ended {slot active cause order deliverySeq observer charge}
      (found : s.slot? participant = some slot) (bound : slot.binding = .bound active) :
      JustDied s participant active.bindingEpoch
        (.endBinding participant (.died cause) order deliverySeq observer charge)
  | drained {slot pending charge} (found : s.slot? participant = some slot) (pended : slot.binding =
      .pendingFinalization (.died pending)) : JustDied s participant pending.identity.bindingEpoch
      (.drainTerminal participant charge)

theorem slot?_commit {participant slot owner}
    (hslot : s.slot? participant = some slot) (hid : slot'.participantId = slot.participantId) :
    (s.commit slot' owner projection).slot? participant = some slot' := by
  obtain ⟨hmem, rfl, -⟩ := slot?_eq_some hslot
  have hnew : slot' ∈ replaceSlot s.slots slot' := List.mem_map.mpr ⟨slot, hmem, if_pos hid.symm⟩
  obtain ⟨found, hfound⟩ : ∃ found, (s.commit slot' owner projection).slot? slot.participantId = some found :=
    isSome_iff_exists.mp (List.find?_isSome.mpr ⟨slot', hnew, by simp [hid]⟩)
  obtain ⟨hfoundMem, hfoundId, -⟩ := slot?_eq_some hfound
  obtain ⟨old, -, rfl⟩ := List.mem_map.mp hfoundMem
  split at hfoundId
  · rename_i hreplaced
    rw [hfound, if_pos hreplaced]
  · rename_i hother
    exact absurd (hfoundId.trans hid.symm) hother

theorem JustDied.slot (h : s.JustDied participant epoch op) (hop : s.apply op = some s') :
    ∃ slot slot', s.slot? participant = some slot ∧ s'.slot? participant = some slot' ∧
      ((∃ active, slot.binding = .bound active) ∨ ∃ pending, slot.binding = .pendingFinalization pending) ∧
      slot'.frontierProjection = some ⟨participant, slot.member.cursor, .detached epoch⟩ ∧
      slot'.member.cursor = slot.member.cursor := by
  cases h with
  | @ended slot active cause order deliverySeq observer charge hfound hbound =>
    obtain ⟨-, rfl, -⟩ := slot?_eq_some hfound
    simp only [apply, endBinding, hfound, hbound, bind_eq_bind, bind_some, bind_eq_some_iff] at hop
    obtain ⟨prepared, -, hop⟩ := hop
    split at hop
    · simp only [bind_eq_some_iff, toOption_eq_some, pure_def, some.injEq] at hop
      obtain ⟨member, hmember, rfl⟩ := hop
      obtain ⟨rfl, -⟩ := LiveMember.withCommittedTerminal_eq_ok hmember
      refine ⟨slot, _, hfound, slot?_commit hfound rfl, Or.inl ⟨active, hbound⟩, ?_, rfl⟩
      rfl
    · simp only [pure_def, some.injEq] at hop
      subst hop
      refine ⟨slot, _, hfound, slot?_commit hfound rfl, Or.inl ⟨active, hbound⟩, ?_, rfl⟩
      rfl
    · cases hop
  | @drained slot pending charge hfound hpended =>
    obtain ⟨-, rfl, -⟩ := slot?_eq_some hfound
    simp only [apply, drainTerminal, hfound, hpended, bind_eq_bind, bind_some,
      bind_eq_some_iff, toOption_eq_some, Prod.exists, pure_def, some.injEq] at hop
    obtain ⟨owner, deliverySeq, -, settled, hsettled, rfl⟩ := hop
    obtain ⟨detachCell, rfl⟩ := settleTerminal_eq_some hpended hsettled
    exact ⟨slot, _, hfound, slot?_commit hfound rfl, Or.inr ⟨_, hpended⟩, rfl, rfl⟩

theorem JustDied.participant (h : conversationMachine.Reachable s) {participant}
    (hdied : s.JustDied participant epoch op) (hop : s.apply op = some s')
    (hslot' : s'.slot? participant = some slot') : s'.owner.frontiers.activeIdentities.find? participant =
      some ⟨participant, slot'.member.cursor, .detached epoch⟩ := by
  obtain ⟨slot, found, hslot, hfound, hbefore, hproj, hcursor⟩ := hdied.slot hop
  rw [hslot', some.injEq] at hfound
  subst hfound
  have hcoupled := coupled_of_reachable h
  have hcoupled' := coupled_of_reachable (h.next hop)
  have heffect := (apply_effect (sound_of_reachable h).laidOut hop).1
  obtain ⟨hmem, rfl, -⟩ := slot?_eq_some hslot
  obtain ⟨hmem', hid, -⟩ := slot?_eq_some hslot'
  obtain ⟨p', hfind', hagrees'⟩ := hcoupled'.lookup hslot'
  have hlevel : p'.cursor = slot'.member.cursor := by
    obtain ⟨-, hpairs⟩ := List.forall₂_iff_zip.mp (heffect.pairs hcoupled)
    cases (hpairs (hcoupled'.zip_of_find hmem' hfind')).2 with
    | level hcursors => exact hcursors
    | @kept old p hpair hold hfront _ =>
      obtain rfl := hcoupled.slot_unique hmem (List.of_mem_zip hpair).1 (hid.symm.trans hold)
      have hfind := hcoupled.find?_of_zip hpair
      rw [hfront, hcursor]
      rcases hbefore with ⟨active, hbound⟩ | ⟨pending, hpended⟩
      · obtain ⟨q, hq, hagrees⟩ := hcoupled.agrees_of_mem hmem
        rw [hfind, some.injEq] at hq
        rw [hq]
        exact hagrees.boundCursor active hbound
      · exact pendedLevel_of_reachable h slot hmem pending hpended p hfind
    | fated _ _ hfate _ _ =>
      subst hfate
      cases hdied
  rw [hid] at hfind'
  rw [hfind', ← hagrees'.level hlevel, hproj, hcursor]

/-- The fate of a fresh death can be measured exactly if the token has an edge to hang it on; the floor
goes no further than the observer and the other cursors allow, and spares every marker. -/
theorem just_died_measured (h : conversationMachine.Reachable s) (hdied : s.JustDied participant epoch op)
    (hop : s.apply op = some s') (hslot : s'.slot? participant = some slot)
    (htoken : token.measurementContext =
      some ⟨s'.owner.frontiers.conversationId, participant, epoch, slot.member.cursor⟩)
    (hterminal : fateTerminalMatches token.intent terminal
      ⟨s'.owner.frontiers.conversationId, participant, epoch, slot.member.cursor⟩ = true)
    (hobserver : observer ≤ s'.owner.frontiers.high) :
    ((∃ owner fate, s'.owner.prepareBindingFate token terminal observer = .ok (owner, fate)) ↔ token.Measurable) ∧
    ∀ owner fate, s'.owner.prepareBindingFate token terminal observer = .ok (owner, fate) →
      owner.frontiers.retainedFloor = fate.resultingFloor ∧ s'.owner.frontiers.retainedFloor ≤ fate.resultingFloor ∧
      fate.resultingFloor ≤ max s'.owner.frontiers.retainedFloor (min observer
        ((s'.owner.minimumRemainingCursor participant).getD s'.owner.frontiers.high) + 1) ∧
      ∀ record ∈ s'.owner.frontiers.markerRecords, fate.resultingFloor ≤ record.deliverySeq := by
  have hreached := h.next hop
  have hsound := sound_of_reachable hreached
  have haccounted := accounted_of_reachable hreached
  refine ⟨haccounted.prepareBindingFate_isOk hsound htoken rfl (hdied.participant h hop hslot) rfl rfl
    hterminal hobserver, fun owner fate hprepare => ?_⟩
  obtain ⟨context, _, hcontext, -, -, -, -, hfate, hfloored⟩ := prepareBindingFate_eq_ok hprepare
  rw [htoken, some.injEq] at hcontext
  subst hcontext
  rw [measuredFate_resultingFloor hfate]
  refine ⟨by rw [hfloored.frontiers]; rfl, haccounted.measuredFloor_bounds hsound participant observer⟩

def reattachedAtTwo : List Operation := reattached ++ [.ack ⟨0, 0, 2, 2⟩ (unitEpoch 1 2) (.contiguous 3)]

def reattachedDeath : Operation :=
  .endBinding 0 (.died .connectionLost) 3 4 0 (unitCharge 4 ⟨3, .bindingTerminal, 0⟩)

theorem just_died_measured_reattached : ∃ s s' owner fate,
    unitRun ⟨100, 100⟩ 1 50 reattachedAtTwo = some s ∧ s.apply reattachedDeath = some s' ∧
    s'.owner.prepareBindingFate ⟨some ⟨reattachedBinding, 2⟩, none, 2⟩
      (.ordinary ⟨⟨0, 0, unitEpoch 1 2, .bindingTerminal 3 0⟩, .connectionLost, 4⟩) 3 = .ok (owner, fate) ∧
    1 ≤ fate.resultingFloor ∧ fate.resultingFloor ≤ 4 := by
  obtain ⟨s, hs, slot, hslot, hbound, s', hs', hhigh, hfloor, hconversation, hother, slot', hslot', hcursor⟩ : ∃ s,
      unitRun ⟨100, 100⟩ 1 50 reattachedAtTwo = some s ∧ ∃ slot ∈ s.slot? 0,
        slot.binding = .bound reattachedBinding ∧ ∃ s' ∈ s.apply reattachedDeath,
          s'.owner.frontiers.high = 4 ∧ s'.owner.frontiers.retainedFloor = 1 ∧
          s'.owner.frontiers.conversationId = 0 ∧ s'.owner.minimumRemainingCursor 0 = none ∧
          ∃ slot' ∈ s'.slot? 0, slot'.member.cursor = 2 := exists_of_any (by decide)
  have htoken : measurementContext ⟨some ⟨reattachedBinding, 2⟩, none, 2⟩ =
      some ⟨s'.owner.frontiers.conversationId, 0, unitEpoch 1 2, slot'.member.cursor⟩ := by
    rw [hconversation, hcursor]
    rfl
  have hterminal : fateTerminalMatches (some .ordinary)
      (.ordinary ⟨⟨0, 0, unitEpoch 1 2, .bindingTerminal 3 0⟩, .connectionLost, 4⟩)
      ⟨s'.owner.frontiers.conversationId, 0, unitEpoch 1 2, slot'.member.cursor⟩ = true := by
    rw [hconversation, hcursor]
    rfl
  have hobserver : 3 ≤ s'.owner.frontiers.high := hhigh ▸ Nat.le_succ 3
  obtain ⟨hmeasured, hbounds⟩ := just_died_measured (unitRun_reachable hs) (.ended hslot hbound) hs'
    hslot' htoken hterminal hobserver
  obtain ⟨owner, fate, hprepare⟩ := hmeasured.mpr fun _ hproof => nomatch hproof
  obtain ⟨-, hback, hforth, -⟩ := hbounds owner fate hprepare
  rw [hfloor] at hback hforth
  rw [hother, hhigh] at hforth
  exact ⟨s, s', owner, fate, hs, hs', hprepare, hback, hforth⟩

/-- Had the second binding come from a fenced attach that cleared the debt, its token would be recovered, and
a recovered fate needs an edge. -/
theorem recovered_death_unmeasured :
    let died : CommittedBindingTerminal :=
      .died ⟨⟨0, 0, unitEpoch 0 1, .bindingTerminal 1 0⟩, .connectionLost, 2⟩
    let proof : FencedAttachCommit := ⟨0, 0, 2, unitEpoch 0 1, unitEpoch 1 2, .clear⟩
    ∃ s s' commit, unitRun ⟨100, 100⟩ 1 50 reattachedAtTwo = some s ∧ s.apply reattachedDeath = some s' ∧
      commitAttach ⟨0, 0, 1, 0, some died⟩ ⟨reattachedBinding, 2, 3⟩ (.fenced proof none) .empty = .ok commit ∧
      (∃ slot ∈ s'.slot? 0, commit.token.measurementContext =
        some ⟨s'.owner.frontiers.conversationId, 0, unitEpoch 1 2, slot.member.cursor⟩) ∧
      s'.owner.frontiers.high = 4 ∧
      s'.owner.prepareBindingFate commit.token .recovered 3 = .error .terminal := by
  intro died proof
  have hattach : commitAttach ⟨0, 0, 1, 0, some died⟩ ⟨reattachedBinding, 2, 3⟩ (.fenced proof none)
      .empty = .ok ⟨⟨0, 0, 2, 2, some died⟩, reattachedBinding, .empty,
        .fromBinding reattachedBinding 2 3, .fencedRecovery (unitEpoch 0 1) none .clear, ⟨none, some proof, 2⟩⟩ := rfl
  obtain ⟨s, hs, s', hs', hslot, hhigh, hrefused⟩ : ∃ s,
      unitRun ⟨100, 100⟩ 1 50 reattachedAtTwo = some s ∧ ∃ s' ∈ s.apply reattachedDeath,
        (∃ slot ∈ s'.slot? 0, measurementContext ⟨none, some proof, 2⟩ =
          some ⟨s'.owner.frontiers.conversationId, 0, unitEpoch 1 2, slot.member.cursor⟩) ∧
        s'.owner.frontiers.high = 4 ∧
        s'.owner.prepareBindingFate ⟨none, some proof, 2⟩ .recovered 3 = .error .terminal :=
    exists_of_any (by decide)
  exact ⟨s, s', _, hs, hs', hattach, hslot, hhigh, hrefused⟩

end Conversation

end Liminal
