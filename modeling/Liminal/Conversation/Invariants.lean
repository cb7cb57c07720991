import Liminal.Conversation.Effects
import Liminal.Lifecycle.Operations.Log

/-!
# What holds of the owner in every conversation

Four facts survive every operation: the lanes are laid out, every participant has an admissible
seat, the log is well-formed, and every retained row has its charge. From them follow the partition
of the claims, the exactness of the retained suffix and the order of the transactions.
-/

namespace Liminal

open Checked Fallible ClaimFrontiers RetainedCausalRecord

/-! ### The first enrollment -/

structure Conversation.Started (s : Conversation) (closure : InitialEnrollmentClosureInput)
    (epoch : BindingEpoch) (order : TransactionOrder) : Prop where
  laidOut : s.owner.frontiers.LaidOut
  participants : s.owner.frontiers.activeIdentities.participants = [⟨0, 0, .bound epoch⟩]
  identitySlotLimit : s.owner.frontiers.identitySlotLimit = closure.identitySlots ∧ closure.identitySlots ≠ 0
  high : s.owner.frontiers.high = 1
  nextOrder : s.owner.frontiers.nextOrder = order + 1
  retainedFloor : s.owner.frontiers.retainedFloor = 1
  retainedRecords : s.owner.frontiers.retainedRecords = [⟨1, ⟨order, .attachLifecycle, 0⟩, .attachLifecycle 0 epoch⟩]
  markerRecords : s.owner.frontiers.markerRecords = []
  candidates : s.owner.frontiers.sequence.immutableCandidates = []
  retainedCharges : s.owner.retainedCharges = [⟨1, ⟨order, .attachLifecycle, 0⟩, closure.attachedCharge⟩]
  markers : s.owner.closureAccounting.markerCapacityCredits = 0 ∧ s.owner.closureAccounting.markerAnchors = 0
  baseline : retainedBaseline closure.attachedCharge closure.identitySlots 0 closure.markerMax =
    some s.owner.closureAccounting.baseline
  entries : closure.attachedCharge.entries = 1
  cap : s.owner.closureAccounting.configuredCap.entries ≤ u64Max ∧
    s.owner.closureAccounting.configuredCap.bytes ≤ u64Max
  markerMax : s.config.limits.markerMax = closure.markerMax
  slots : s.slots = [s.enrolledSlot 0 epoch]
  retired : s.retired = []
  observerProgress : s.observerProgress = 0

theorem Conversation.IsGenesis.started {s : Conversation} (h : s.IsGenesis) :
    ∃ closure epoch order, s.Started closure epoch order := by
  obtain ⟨conversationId, closure, allocated, maxCharge, limit, h⟩ := h
  simp only [genesis, LiveFrontierOwner.fromInitialEnrollment, some_iff, ok_iff, Prod.exists] at h
  obtain ⟨hcap, operation, hop, owner, ⟨frontiers, accounting, hfronts, rfl⟩, rfl⟩ := h
  obtain ⟨hproj, hhigh, order, henroll⟩ := applyInitialEnrollment_eq_ok hop
  obtain ⟨-, hentries, -, hslots, hfloor, hbase, hconfigured⟩ :=
    projectInitialEnrollmentClosure_eq_ok hproj
  have hlaid := LaidOut.initial hfronts
  obtain ⟨hshape, hledgers, hclosure, rfl, rfl⟩ := fromInitialEnrollment_eq_ok hfronts
  obtain ⟨-, -, hcredits, hanchors, -, -, hresult⟩ := hclosure
  obtain ⟨enrollment, allocation, sequence, projection⟩ := operation
  obtain ⟨conversation, participant, identityLimit, below⟩ := allocated
  simp only at henroll hhigh hledgers hshape
  subst henroll
  obtain rfl : participant = 0 := hshape.1
  refine ⟨closure, projection.bindingEpoch, order, ?_⟩
  exact {
    laidOut := hlaid
    participants := rfl
    identitySlotLimit := ⟨hslots, hslots ▸ hshape.2.2.2.2.2.2.2.2.2⟩
    high := hhigh
    nextOrder := congrArg OrderHigh.next hledgers.2.1
    retainedFloor := hfloor
    retainedRecords := rfl
    markerRecords := rfl
    candidates := rfl
    retainedCharges := rfl
    markers := ⟨hcredits, hanchors⟩
    baseline := hbase.trans (congrArg some hresult.symm)
    entries := hentries
    cap := by
      rw [← hconfigured] at hcap
      exact hcap
    markerMax := rfl
    slots := rfl
    retired := rfl
    observerProgress := rfl }

/-! ### The invariant -/

structure LiveFrontierOwner.Sound (owner : LiveFrontierOwner) : Prop where
  laidOut : owner.frontiers.LaidOut
  seated : owner.frontiers.Seated
  logged : owner.frontiers.Logged
  keyed : List.Forall₂ chargeKeyed owner.frontiers.retainedRecords owner.retainedCharges

theorem LiveFrontierOwner.Step.sound {owner owner' : LiveFrontierOwner} (h : owner.Step owner')
    (hsound : owner.Sound) : owner'.Sound := by
  obtain ⟨new, hlog⟩ := h.logStep hsound.logged
  exact {
    laidOut := h.laidOut hsound.laidOut
    seated := h.keeps.seated hsound.seated
    logged := hlog.logged hsound.logged
    keyed := h.keyed hsound.logged hsound.keyed }

namespace Conversation

variable {s s' : Conversation} {cap : ResourceVector} {identitySlots retainedRecordLimit : Nat}
  {operations : List Operation}

theorem Started.sound {closure epoch order} (h : s.Started closure epoch order) : s.owner.Sound where
  laidOut := h.laidOut
  seated := {
    count := by
      rw [h.participants, h.identitySlotLimit.1]
      exact Nat.one_le_iff_ne_zero.mpr h.identitySlotLimit.2
    admissible := by
      rw [h.participants, h.identitySlotLimit.1]
      rintro _ (_ | ⟨_, ⟨⟩⟩)
      exact ⟨Nat.pos_of_ne_zero h.identitySlotLimit.2, Nat.zero_le _⟩ }
  logged := {
    wellFormed := {
      positions := by
        simp only [window, log, h.retainedRecords, h.candidates, h.retainedFloor]
        rfl
      increasing := by
        simp only [window, log, h.retainedRecords, h.candidates]
        exact List.pairwise_singleton _ _
      used := by
        simp only [window, log, h.retainedRecords, h.candidates, h.nextOrder]
        rintro _ (_ | ⟨_, ⟨⟩⟩)
        exact Nat.lt_succ_self order }
    stop := by
      simp only [window, log, firstMovable, WindowLog.stop, h.retainedRecords, h.candidates, h.retainedFloor, h.high]
      rfl }
  keyed := by
    rw [h.retainedRecords, h.retainedCharges]
    exact .cons ⟨rfl, rfl⟩ .nil

theorem sound_step {op : Operation} (hsound : s.owner.Sound) (h : s.apply op = some s') : s'.owner.Sound :=
  (apply_effect hsound.laidOut h).1.ownerStep.sound hsound

theorem sound_of_reachable (h : conversationMachine.Reachable s) : s.owner.Sound := by
  apply h.invariant _ fun s op s' hsound hnext => sound_step hsound hnext
  intro s hstart
  obtain ⟨closure, epoch, order, hstarted⟩ := hstart.started
  exact hstarted.sound

/-! ### The slots -/

theorem IsGenesis.slots_enrolled (h : s.IsGenesis) : ∀ slot ∈ s.slots, slot.IsEnrolled := by
  obtain ⟨conversationId, closure, allocated, charge, limit, h⟩ := h
  simp only [genesis, some_iff] at h
  obtain ⟨-, operation, hop, owner, -, rfl⟩ := h
  obtain ⟨epoch, order, seq, henroll⟩ := applyInitialEnrollment_enrollment hop
  intro slot hslot
  rw [List.mem_singleton.mp hslot]
  exact ⟨_, _, _, _, _, _, henroll, rfl⟩

def SlotsReachable (s : Conversation) : Prop := ∀ slot ∈ s.slots, slotMachine.Reachable (.live slot)

theorem slots_reachable (h : conversationMachine.Reachable s) : s.SlotsReachable := by
  induction h with
  | start hstart =>
    intro slot hslot
    exact .start ⟨slot, IsGenesis.slots_enrolled hstart slot hslot, rfl⟩
  | next hs _ hnext ih =>
    intro slot' hslot'
    rcases (apply_effect (sound_of_reachable hs).laidOut hnext).2 slot' hslot' with
      hold | henrolled | ⟨slot, hslot, step, hstep⟩
    · exact ih slot' hold
    · exact .start ⟨slot', henrolled, rfl⟩
    · exact (ih slot hslot).next hstep

/-! ### A small conversation -/

def unitCounters (cap : ResourceVector) (identitySlots : Nat) : ClosureCounters where
  state := .clear
  markerCapacityCredits := 0
  markerAnchors := 0
  edgeSequenceClaims := 0
  edgeOrderPositionClaims := 0
  edgeKRemaining := ⟨0, 0⟩
  baseline := ⟨identitySlots, identitySlots⟩
  configuredCap := cap
  episodeChurnUsed := 0
  episodeChurnLimit := 2

def unitEpoch (connection : Nat) (generation : Generation) : BindingEpoch :=
  ⟨⟨0, connection⟩, generation⟩

def unitCharge (deliverySeq : DeliverySeq) (order : AdmissionOrder) : RetainedRecordCharge :=
  ⟨deliverySeq, order, ⟨1, 1⟩⟩

/-- The first enrollment of a conversation in which everything is charged one unit. -/
def unitGenesis (cap : ResourceVector) (identitySlots retainedRecordLimit : Nat) : Option Conversation := do
  let accounting ← (ClosureAccounting.tryNew (unitCounters cap identitySlots)).toOption
  if below : 0 < identitySlots then
    genesis 0 {
      accounting
      identitySlots
      mandatoryBound := ⟨1, 1⟩
      recoveryClaim := ⟨1, 1⟩
      markerMax := ⟨1, 1⟩
      attachedCharge := ⟨1, 1⟩
      participantIndex := 0
      bindingEpoch := unitEpoch 0 1
      order := ⟨.empty, ⟨0, 0, false, false, rfl⟩, by decide⟩
      sequence := ⟨0, ⟨0, 0, 0, .none⟩, by decide⟩
      physicalFloor := 1
      observerProgress := 0 } ⟨0, 0, identitySlots, below⟩ ⟨1, 1⟩ retainedRecordLimit
  else none

theorem unitGenesis_isGenesis (h : unitGenesis cap identitySlots retainedRecordLimit = some s) : s.IsGenesis := by
  simp only [unitGenesis, bind_eq_some] at h
  obtain ⟨accounting, -, hgenesis⟩ := h
  split at hgenesis
  · exact ⟨_, _, _, _, _, hgenesis⟩
  · cases hgenesis

def unitRun (cap : ResourceVector) (identitySlots retainedRecordLimit : Nat)
    (operations : List Operation) : Option Conversation :=
  (unitGenesis cap identitySlots retainedRecordLimit).bind (conversationMachine.run · operations)

theorem unitRun_reachable (h : unitRun cap identitySlots retainedRecordLimit operations = some s) :
    conversationMachine.Reachable s := by
  obtain ⟨first, hfirst, hrun⟩ := Option.bind_eq_some_iff.mp h
  exact Machine.Reachable.run (.start (unitGenesis_isGenesis hfirst)) hrun

def unitRunWithin (permitted : Conversation → Operation → Prop)
    [∀ s op, Decidable (permitted s op)] (cap : ResourceVector)
    (identitySlots retainedRecordLimit : Nat) (operations : List Operation) : Option Conversation :=
  (unitGenesis cap identitySlots retainedRecordLimit).bind ((conversationMachine.restrict permitted).run · operations)

theorem unitRunWithin_reaches [∀ s op, Decidable (permitted s op)]
    (h : unitRunWithin permitted cap identitySlots retainedRecordLimit operations = some s) :
    conversationMachine.Reaches permitted s := by
  obtain ⟨first, hfirst, hrun⟩ := Option.bind_eq_some_iff.mp h
  exact (Machine.Reachable.run (.start (unitGenesis_isGenesis hfirst)) hrun).of_restrict

/-! ### The partition of the claims -/

/-- In every conversation that can be reached, the claims of both lanes partition the positions above the high
values. -/
theorem claims_partitioned (h : conversationMachine.Reachable s) : s.owner.frontiers.Partitioned :=
  (sound_of_reachable h).laidOut.partitioned

/-- Two participants, the second of which has died with no room for its terminal. -/
def pendedDeath : Option Conversation := unitRun ⟨100, 100⟩ 2 2 [
    .enroll ⟨0, 1, 2, Nat.one_lt_two⟩ (unitEpoch 1 1) 1 2 (unitCharge 2 ⟨1, .attachLifecycle, 1⟩),
    .endBinding 1 (.died .connectionLost) 2 3 0 (unitCharge 3 ⟨2, .bindingTerminal, 1⟩)]

theorem claims_partitioned_pendedDeath : ∃ s, pendedDeath = some s ∧
    s.owner.frontiers.sequence.immutableCandidates ≠ [] ∧ s.owner.frontiers.Partitioned :=
  exists_of_any_imp (by decide) fun _ hs _ => claims_partitioned (unitRun_reachable hs)

/-! ### The retained suffix -/

/-- The retained rows are at exactly the positions from the floor to the high watermark, and each has its charge. -/
theorem retained_suffix_exact (h : conversationMachine.Reachable s) :
    s.owner.frontiers.retainedRecords.map deliverySeq = List.range' s.owner.frontiers.retainedFloor
          (s.owner.frontiers.high + 1 - s.owner.frontiers.retainedFloor) ∧
      s.owner.frontiers.retainedFloor ≤ s.owner.frontiers.high + 1 ∧
      List.Forall₂ (fun record charge => record.deliverySeq = charge.deliverySeq ∧
        record.admissionOrder = charge.admissionOrder) s.owner.frontiers.retainedRecords s.owner.retainedCharges := by
  have hsound := sound_of_reachable h
  obtain ⟨hpositions, hextent⟩ := hsound.logged.retained
  refine ⟨?_, hextent ▸ Nat.le_add_right _ _, hsound.keyed⟩
  rw [hpositions, ← hextent, Nat.add_sub_cancel_left]

/-- Participant zero alone: it detaches, comes back, dies and its fate is measured. -/
def fatedAlone : Option Conversation :=
  unitRun ⟨100, 100⟩ 2 50 [ .detach ⟨0, 0, 1, 0⟩ 0 1 2 (unitCharge 2 ⟨1, .bindingTerminal, 0⟩),
    .attachDetached ⟨0, 0, 1, none⟩ .verified ⟨⟨0, 0, unitEpoch 1 2⟩, 2, 3⟩
      ⟨none, unitCharge 3 ⟨2, .attachLifecycle, 0⟩⟩,
    .endBinding 0 (.died .connectionLost) 3 4 2 (unitCharge 4 ⟨3, .bindingTerminal, 0⟩), .bindingFate 0 .ordinary 3]

theorem retained_suffix_exact_fatedAlone : ∃ s, fatedAlone = some s ∧ s.owner.frontiers.retainedFloor = 4 ∧
    s.owner.frontiers.high = 4 ∧ s.owner.frontiers.retainedRecords.map deliverySeq = [4] := by
  refine exists_of_any_imp₂ (by decide) fun s hs hfloor hhigh => ?_
  have hexact := (retained_suffix_exact (unitRun_reachable hs)).1
  rwa [hfloor, hhigh] at hexact

/-! ### Transaction majors -/

def issuedMajors (s s' : Conversation) : List TransactionOrder :=
  WindowLog.numbersFrom AdmissionOrder.transactionOrder s'.owner.frontiers.window s.owner.frontiers.window.stop

/-- The conversation with the history of all majors its transactions were given. -/
def majorsMachine : Machine (Conversation × List TransactionOrder) Operation :=
  conversationMachine.recording (fun s => WindowLog.numbersFrom AdmissionOrder.transactionOrder
    s.owner.frontiers.window 0) issuedMajors

/-- The history is one of distinct used majors, and it has those of the log. -/
structure MajorsRecorded (s : Conversation) (issued : List TransactionOrder) : Prop where
  sound : s.owner.Sound
  recorded : WindowLog.Recorded AdmissionOrder.transactionOrder s.owner.frontiers.window issued

theorem majorsRecorded_of_reachable (h : majorsMachine.Reachable (s, issued)) : MajorsRecorded s issued := by
  refine Machine.Reachable.historyInvariant (fun s hstart => ?_) (fun s issued op s' hinv hnext => ?_) h
  · have hsound := sound_of_reachable (.start hstart)
    exact ⟨hsound, hsound.logged.wellFormed.recorded⟩
  · obtain ⟨hsound, hrec⟩ := hinv
    obtain ⟨new, hlog⟩ := (apply_effect hsound.laidOut hnext).1.ownerStep.logStep hsound.logged
    exact ⟨sound_step hsound hnext, hlog.step.recorded hsound.logged.wellFormed hrec⟩

theorem nextOrder_pos_of_reachable (h : conversationMachine.Reachable s) : 0 < s.owner.frontiers.nextOrder := by
  suffices hkept : s.owner.Sound ∧ 0 < s.owner.frontiers.nextOrder from hkept.2
  apply h.invariant
  · intro s hstart
    obtain ⟨closure, epoch, order, hstarted⟩ := hstart.started
    exact ⟨hstarted.sound, by rw [hstarted.nextOrder]; exact Nat.succ_pos order⟩
  · rintro s op s' ⟨hsound, hpos⟩ hnext
    obtain ⟨new, hlog⟩ := (apply_effect hsound.laidOut hnext).1.ownerStep.logStep hsound.logged
    exact ⟨sound_step hsound hnext, Nat.lt_of_lt_of_le hpos hlog.step.next⟩

/-- Orders increase with positions, allocated majors stay below reserved ones, and no run gives two
transactions the same major. -/
theorem transactions_ordered (h : conversationMachine.Reachable s) :
    (∀ r₁ ∈ s.owner.frontiers.retainedRecords, ∀ r₂ ∈ s.owner.frontiers.retainedRecords,
      r₁.deliverySeq < r₂.deliverySeq → r₁.admissionOrder < r₂.admissionOrder) ∧
    (∃ high, s.owner.frontiers.order.ledger.high = .allocated high ∧
      (∀ record ∈ s.owner.frontiers.retainedRecords, record.admissionOrder.transactionOrder ≤ high) ∧
      ∀ claim ∈ s.owner.frontiers.order.segments, high < claim.start) ∧
    (∃ issued, majorsMachine.Reachable (s, issued)) ∧ ∀ issued, majorsMachine.Reachable (s, issued) → issued.Nodup ∧
      ∀ record ∈ s.owner.frontiers.retainedRecords, record.admissionOrder.transactionOrder ∈ issued := by
  have hsound := sound_of_reachable h
  have hmem : ∀ record ∈ s.owner.frontiers.retainedRecords,
      record.entry ∈ s.owner.frontiers.window.entries := fun record hrecord =>
    List.mem_append_left _ (List.mem_map_of_mem hrecord)
  refine ⟨fun r₁ h₁ r₂ h₂ hlt => ?_, ?_, h.recording, fun issued hissued => ?_⟩
  · exact hsound.logged.wellFormed.key_lt (hmem r₁ h₁) (hmem r₂ h₂) hlt
  · have hpos := nextOrder_pos_of_reachable h
    cases hhigh : s.owner.frontiers.order.ledger.high with
    | empty =>
      rw [ClaimFrontiers.nextOrder, hhigh] at hpos
      exact absurd hpos (Nat.lt_irrefl 0)
    | allocated high =>
      have hnext : s.owner.frontiers.nextOrder = high + 1 := congrArg OrderHigh.next hhigh
      refine ⟨high, rfl, fun record hrecord => ?_, fun claim hclaim => ?_⟩
      · have hused := hsound.logged.wellFormed.used record.admissionOrder (List.mem_map_of_mem (hmem record hrecord))
        exact Nat.lt_succ_iff.mp (hused.trans_eq hnext)
      · exact Nat.lt_of_lt_of_le (Nat.lt_succ_self high)
          (hnext.ge.trans (hsound.laidOut.nextOrder_le_of_mem_segments hclaim))
  · obtain ⟨-, hrecorded⟩ := majorsRecorded_of_reachable hissued
    exact ⟨hrecorded.nodup, fun record hrecord => hrecorded.complete record.entry (hmem record hrecord)⟩

theorem transactions_ordered_pendedDeath : ∃ s, pendedDeath = some s ∧
    s.owner.frontiers.retainedRecords.map deliverySeq = [1, 2] ∧
    (∀ r₁ ∈ s.owner.frontiers.retainedRecords, ∀ r₂ ∈ s.owner.frontiers.retainedRecords,
      r₁.deliverySeq < r₂.deliverySeq → r₁.admissionOrder < r₂.admissionOrder) ∧
    ∀ issued, majorsMachine.Reachable (s, issued) → issued.Nodup := by
  refine exists_of_any_imp (by decide) fun s hs _ => ?_
  obtain ⟨hordered, -, -, hissued⟩ := transactions_ordered (unitRun_reachable hs)
  exact ⟨hordered, fun issued h => (hissued issued h).1⟩

end Conversation

end Liminal
