import Liminal.Conversation.Measurements

/-!
# Hard observer progress

What the commits project is a position in the log, except that a fate projects its floor, one past
the last position no longer needed. The floor of a pended death is installed after its terminal has
taken the next position; that of a committed death has nothing in reserve.
-/

namespace Liminal

open Checked Fallible LiveFrontierOwner List

/-- The participant whose committed death an operation measures, and the observer it measures it against. -/
def Operation.fate? : Operation → Option (ParticipantId × DeliverySeq)
  | .bindingFate participant _ observer => some (participant, observer)
  | _ => none

namespace LiveFrontierOwner

variable {owner owner' : LiveFrontierOwner} {limits : OrdinaryProjectionLimits}

theorem minimumRemainingCursor_lt :
    (owner.minimumRemainingCursor participant).getD high < high ↔ ∃ p ∈ owner.frontiers.activeIdentities.participants,
        p.participantIndex ≠ participant ∧ p.cursor < high := by
  unfold minimumRemainingCursor
  cases hmin : ((owner.frontiers.activeIdentities.participants.filter fun p =>
      p.participantIndex ≠ participant).map FrontierParticipant.cursor).min? with
  | none =>
    have hnil := map_eq_nil_iff.mp (min?_eq_none_iff.mp hmin)
    simp only [Option.getD_none, lt_self_iff_false, false_iff, not_exists, not_and]
    intro p hp hother
    exact absurd (filter_eq_nil_iff.mp hnil p hp) (by simpa using hother)
  | some least =>
    obtain ⟨hmem, hleast⟩ := min?_eq_some_iff.mp hmin
    constructor
    · intro hlt
      obtain ⟨p, hp, rfl⟩ := mem_map.mp hmem
      obtain ⟨hp, hother⟩ := mem_filter.mp hp
      exact ⟨p, hp, of_decide_eq_true hother, hlt⟩
    · rintro ⟨p, hp, hother, hlt⟩
      have hcursor := hleast p.cursor (mem_map_of_mem (mem_filter.mpr ⟨hp, decide_eq_true hother⟩))
      exact hcursor.trans_lt hlt

/-- A marker is in the way of the floor, or somebody has not read everything and the floor is not past the log
already. -/
def FloorBelowHigh (owner : LiveFrontierOwner) (participant : ParticipantId) (observer : DeliverySeq) : Prop :=
  owner.frontiers.markerRecords ≠ [] ∨ owner.frontiers.retainedFloor ≤ owner.frontiers.high ∧
    (observer < owner.frontiers.high ∨ ∃ p ∈ owner.frontiers.activeIdentities.participants,
      p.participantIndex ≠ participant ∧ p.cursor < owner.frontiers.high)

instance (owner : LiveFrontierOwner) (participant : ParticipantId) (observer : DeliverySeq) :
    Decidable (owner.FloorBelowHigh participant observer) :=
  inferInstanceAs (Decidable (_ ∨ _))

theorem Accounted.measuredFloor_le_high_iff (hcounted : owner.Accounted limits) (hsound : owner.Sound) :
    owner.measuredFloor participant observer ≤ owner.frontiers.high ↔ owner.FloorBelowHigh participant observer := by
  unfold FloorBelowHigh
  cases hmarkers : owner.frontiers.markerRecords with
  | cons record rest =>
    have hrecord : record ∈ owner.frontiers.markerRecords := hmarkers ▸ mem_cons_self
    have hspared := (hcounted.measuredFloor_bounds hsound participant observer).2.2 record hrecord
    have hhigh := hsound.record_le_high (hcounted.held.retained record hrecord)
    exact iff_of_true (hspared.trans hhigh) (Or.inl (cons_ne_nil _ _))
  | nil =>
    have hnone : owner.lowestRetainedMarkerSeq = none := by
      rw [lowestRetainedMarkerSeq, hmarkers]
      rfl
    rw [← minimumRemainingCursor_lt, measuredFloor, hnone, markerClampedFloor, floorTransition_resultingFloor]
    have hmin : ∀ a b c : Nat, min a b + 1 ≤ c ↔ a < c ∨ b < c := by omega
    simp only [ne_eq, not_true_eq_false, false_or, Nat.max_le, hmin]
    constructor
    · rintro ⟨⟨hfloor, hbehind⟩, -⟩
      exact ⟨hfloor, hbehind.symm⟩
    · rintro ⟨hfloor, hbehind⟩
      exact ⟨⟨hfloor, hbehind.symm⟩, hfloor⟩

end LiveFrontierOwner

namespace ParticipantSlot

/-- Where a slot's measured floor may be: one past the log as long as its terminal is still to come. -/
def FloorBehind (slot : ParticipantSlot) (high : Nat) : Prop :=
  ∀ finalizer ∈ slot.finalizer, finalizer.resultingFloor ≤ high + 1 ∧
    ((∀ pending, slot.binding ≠ .pendingFinalization pending) → finalizer.resultingFloor ≤ high)

theorem FloorBehind.mono {slot : ParticipantSlot}
    (h : slot.FloorBehind high) (hle : high ≤ high') : slot.FloorBehind high' :=
  fun finalizer hfinalizer => ⟨(h finalizer hfinalizer).1.trans (Nat.succ_le_succ hle),
    fun hsettled => ((h finalizer hfinalizer).2 hsettled).trans hle⟩

theorem FloorBehind.settled {slot slot' : ParticipantSlot}
    (h : slot.FloorBehind high) (hsettled : ∀ pending, slot.binding ≠ .pendingFinalization pending)
    (hle : high ≤ high') (hsame : slot'.finalizer = slot.finalizer) : slot'.FloorBehind high' := by
  intro finalizer hfinalizer
  have hfloor := ((h finalizer (hsame ▸ hfinalizer)).2 hsettled).trans hle
  exact ⟨Nat.le_succ_of_le hfloor, fun _ => hfloor⟩

end ParticipantSlot

namespace Conversation

variable {s s' : Conversation}

def FateBelowHigh (s : Conversation) (op : Operation) : Prop :=
  ∀ measured ∈ op.fate?, s.owner.FloorBelowHigh measured.1 measured.2

instance (s : Conversation) (op : Operation) : Decidable (FateBelowHigh s op) :=
  inferInstanceAs (Decidable (∀ measured ∈ op.fate?, _))

/-- Nothing that has been projected, and no floor that is still to be projected, is past the log. -/
structure Behind (s : Conversation) : Prop where
  progress : s.observerProgress ≤ s.owner.frontiers.high
  floors : ∀ slot ∈ s.slots, slot.FloorBehind s.owner.frontiers.high

theorem Behind.commit (h : s.Behind) (hhigh : s.owner.frontiers.high ≤ owner'.frontiers.high)
    (hproj : ∀ deliverySeq ∈ projection, deliverySeq ≤ owner'.frontiers.high)
    (hslot : slot'.FloorBehind owner'.frontiers.high) : (s.commit slot' owner' projection).Behind where
  progress := by
    refine Nat.max_le.mpr ⟨h.progress.trans hhigh, ?_⟩
    cases projection with
    | none => exact Nat.zero_le _
    | some deliverySeq => exact hproj deliverySeq rfl
  floors := by
    intro slot hmem
    rcases mem_replaceSlot hmem with rfl | hold
    · exact hslot
    · exact (h.floors slot hold).mono hhigh

theorem Effect.behind {op : Operation} (h : Effect s op s') (hsound : s.owner.Sound) (hcoupled : s.Coupled)
    (hcounted : s.owner.Accounted s.config.limits) (hbehind : s.Behind) (hfate : FateBelowHigh s op) : s'.Behind := by
  have hhigh := h.ownerStep.keeps.high_le
  have hfloor : ∀ slot, s.slot? slot.participantId = some slot → slot.FloorBehind s.owner.frontiers.high :=
    fun slot hfound => hbehind.floors slot (slot?_eq_some hfound).1
  cases h with
  | enrolled _ happends =>
    refine ⟨hbehind.progress.trans hhigh, fun slot hslot => ?_⟩
    have hmem := (mem_insertionSort _).mp hslot
    rcases mem_append.mp hmem with hold | hlast
    · exact (hbehind.floors slot hold).mono hhigh
    · rw [mem_singleton.mp hlast]
      exact nofun
  | attached hfound hsettled _ happends hprojd =>
    exact hbehind.commit hhigh (fun deliverySeq hproj =>
      happends.below (hprojd deliverySeq hproj)) ((hfloor _ hfound).settled hsettled hhigh rfl)
  | ended hfound hbound _ _ _ happends =>
    refine hbehind.commit hhigh (fun deliverySeq hproj => ?_) ((hfloor _ hfound).settled (by simp [hbound]) hhigh rfl)
    cases hproj
    exact happends.below mem_cons_self
  | pended hfound hbound =>
    exact hbehind.commit hhigh nofun ((hfloor _ hfound).settled (by simp [hbound]) hhigh rfl)
  | drained hfound hpended hdrain =>
    obtain ⟨-, -, -, -, accounting, -, frontiers, record, hfronts, rfl, rfl⟩ :=
      drainPendingTerminal_eq_ok.mp hdrain
    obtain ⟨-, rfl, ledger, -, hnext, -, -, -, -, -, rfl⟩ :=
      ClaimFrontiers.drainFirstBindingTerminal_eq_ok.mp hfronts
    refine hbehind.commit hhigh (fun deliverySeq hproj => ?_) fun finalizer hfinalizer => ?_
    · cases hproj
      exact hnext.ge
    · have hroom := (hfloor _ hfound finalizer hfinalizer).1.trans hnext.ge
      exact ⟨Nat.le_succ_of_le hroom, fun _ => hroom⟩
  | recorded | markerDrained =>
    exact ⟨hbehind.progress.trans hhigh, fun slot hslot => (hbehind.floors slot hslot).mono hhigh⟩
  | acked hfound hbound _ _ hack =>
    refine hbehind.commit hhigh (fun deliverySeq hproj => ?_) ((hfloor _ hfound).settled (by simp [hbound]) hhigh rfl)
    cases hproj
    rcases hack with hack | hack
    · obtain ⟨current, accounting, -, -, hle, -, rfl⟩ := applyAckFrontier_eq_ok hack
      exact hle
    · obtain ⟨current, accounting, -, -, -, hle, -, rfl⟩ :=
        applyMarkerAckFrontier_eq_ok hack
      exact hle
  | left _ _ _ hleaving =>
    obtain ⟨sequence, order, hresult, hleft, -⟩ := hleaving.frontiers.result
    refine ⟨Nat.max_le.mpr ⟨hbehind.progress.trans hhigh, ?_⟩, fun slot hslot =>
      (hbehind.floors slot (mem_of_mem_filter hslot)).mono hhigh⟩
    rw [← hleft]
    exact (congrArg ClaimFrontiers.high hresult).ge
  | fated hfound hheld hprepare =>
    obtain ⟨p, hfind, hagrees⟩ := hcoupled.lookup hfound
    obtain ⟨_, epoch, -, -, -, hprojd, hfloored⟩ :=
      prepareBindingFate_ordinary (hagrees.token _ hheld) hprepare
    refine hbehind.commit hhigh (fun deliverySeq hproj => ?_) ((hfloor _ hfound).mono hhigh)
    cases hproj
    rw [hprojd]
    exact ((hcounted.measuredFloor_le_high_iff hsound).mpr (hfate _ rfl)).trans hhigh
  | measured hfound hheld hpended hprepare =>
    obtain ⟨p, hfind, hagrees⟩ := hcoupled.lookup hfound
    obtain ⟨hobs, hmeas⟩ := preparePendingDiedOrdinaryFinalizer_eq_ok (hagrees.token _ hheld) hprepare
    refine hbehind.commit hhigh nofun fun finalizer hfinalizer => ?_
    cases hfinalizer
    refine ⟨?_, fun hsettled => absurd hpended (hsettled _)⟩
    rw [hmeas]
    exact (hcounted.measuredFloor_le_next hsound hobs).trans (Nat.succ_le_succ hhigh)
  | completed hfound hmeas hsettled hcompl =>
    refine hbehind.commit hhigh (fun deliverySeq hproj => ?_) nofun
    cases hproj
    exact ((hfloor _ hfound _ hmeas).2 hsettled).trans hhigh

theorem behind_of_reaches (h : conversationMachine.Reaches FateBelowHigh s) : s.Behind := by
  induction h with
  | start hs =>
    obtain ⟨closure, epoch, order, hstarted⟩ := hs.started
    refine ⟨hstarted.observerProgress ▸ Nat.zero_le _, fun slot hslot => ?_⟩
    rw [hstarted.slots] at hslot
    rw [mem_singleton.mp hslot]
    exact nofun
  | next hs hfate hnext ih =>
    have hsound := sound_of_reachable hs.reachable
    exact (apply_effect hsound.laidOut hnext).1.behind hsound (coupled_of_reachable hs.reachable)
      (accounted_of_reachable hs.reachable) ih hfate

theorem bindingFate_progress (h : conversationMachine.Reachable s)
    (hfate : s.bindingFate participant kind observer = some s') :
    s'.owner.frontiers.high = s.owner.frontiers.high ∧
      s'.observerProgress = max s.observerProgress (s.owner.measuredFloor participant observer) := by
  simp only [bindingFate, some_iff, Prod.exists] at hfate
  obtain ⟨slot, hslot, token, hheld, terminal, -, owner, fate, hprepare, rfl⟩ := hfate
  obtain ⟨-, rfl, -⟩ := slot?_eq_some hslot
  obtain ⟨p, -, hagrees⟩ := (coupled_of_reachable h).lookup hslot
  obtain ⟨_, epoch, -, -, -, hprojd, hfloored⟩ :=
    prepareBindingFate_ordinary (hagrees.token _ hheld) hprepare
  exact ⟨(congrArg ClaimFrontiers.high hfloored.frontiers).trans rfl, congrArg (max s.observerProgress) hprojd⟩

/-- As long as every fate is measured below the high watermark, observer progress does not pass it; the first
fate that is not takes it past. -/
theorem observer_progress_behind (h : conversationMachine.Reaches FateBelowHigh s) :
    s.observerProgress ≤ s.owner.frontiers.high ∧ ∀ op s', s.apply op = some s' →
        (s'.observerProgress ≤ s'.owner.frontiers.high ↔ FateBelowHigh s op) := by
  refine ⟨(behind_of_reaches h).progress, fun op s' hnext => ⟨fun hprogress => ?_, fun hfate =>
    (behind_of_reaches (.next h hfate hnext)).progress⟩⟩
  have hreached := h.reachable
  intro measured hmeasured
  cases op with
  | bindingFate participant kind observer =>
    cases hmeasured
    obtain ⟨hhigh, hprojected⟩ := bindingFate_progress hreached hnext
    rw [hhigh, hprojected] at hprogress
    exact ((accounted_of_reachable hreached).measuredFloor_le_high_iff
      (sound_of_reachable hreached)).mp (Nat.max_le.mp hprogress).2
  | _ => cases hmeasured

/-- The second binding of the one member dies, and its fate is measured against this observer. -/
def reattachedFate (observer : DeliverySeq) : List Operation :=
  reattached ++ [reattachedDeath, .bindingFate 0 .ordinary observer]

theorem observer_progress_behind_reattachedFate : ∃ s, unitRunWithin FateBelowHigh ⟨100, 100⟩ 1 50 (reattachedFate 3) =
    some s ∧ s.owner.frontiers.high = 4 ∧ s.owner.frontiers.retainedFloor = 4 ∧ s.observerProgress ≤ 4 := by
  refine exists_of_any_imp₂ (by decide) fun s hs hhigh _ => ?_
  have hprogress := (observer_progress_behind (unitRunWithin_reaches hs)).1
  rwa [hhigh] at hprogress

/-- The member's terminal at position four has been observed when the fate is measured, and nobody else is
there to hold the floor back. -/
theorem observer_progress_passes_reattachedFate : ∃ s, unitRun ⟨100, 100⟩ 1 50 (reattachedFate 4) = some s ∧
    conversationMachine.Reachable s ∧ s.owner.frontiers.high = 4 ∧ s.observerProgress = 5 :=
  exists_of_any_and (fun _ => unitRun_reachable) (by decide)

end Conversation

end Liminal
