import Liminal.Client.Steps

/-!
# Every client state is sound

The facts a restore validates hold in every state a client reaches. The slot and the detach replay
move together. Each `ProcessStep` is one of three changes: the slot gets another status, it is
emptied, or the reconnect machine moves.
-/

namespace Liminal.Client

open Wire Fallible Checked DetachReplayState ClientParticipantAggregate ExpectedOperationState
open Option
open ClientBindingState

variable {status : DetachReplayStatus} {value : ServerValue} {request : DetachEnvelope} {process : ClientProcess}

structure DetachReplayState.Settled (replay : DetachReplayState) : Prop where
  active : replay.active = none
  terminal : replay.terminalAgrees = true
  refusal : replay.refusalCanonical = true

theorem DetachReplayState.moveWhen_settled {replay : DetachReplayState}
    (h : ∀ request, names request = true → (recorded request status).Settled) :
    (replay.moveWhen names status).1 = replay ∨ (replay.moveWhen names status).1.Settled := by
  cases hmoved : (replay.moveWhen names status).2 with
  | false => exact .inl (moveWhen_fst_of_false hmoved)
  | true =>
    obtain ⟨request, old, -, hnames, hnew⟩ := moveWhen_fst_of_true hmoved
    exact .inr (hnew ▸ h request hnames)

namespace ClientParticipantAggregate.Sound

variable {aggregate : ClientParticipantAggregate} {expected : ExpectedOperationState}
  {replay : DetachReplayState} {request : ClientRequest}

section

variable (h : aggregate.Sound)
include h

theorem coupled_slot (hslot : aggregate.expected = some expected) :
    aggregate.detachReplay.active = expected.detach := by
  have hcoupled : aggregate.detachReplay.active = aggregate.expected.bind (·.detach) := h.coupled
  rw [hcoupled, hslot]
  rfl

theorem parked_iff {request} (hslot : aggregate.expected = some expected)
    (hrequest : expected.request = .detach request) :
    aggregate.detachReplay = .recorded request .parked ↔ expected.issued = false := by
  have hactive := h.coupled_slot hslot
  rw [detach_eq_some.mpr ⟨hrequest, rfl⟩, active_eq_some] at hactive
  rw [hactive]
  cases expected.issued <;> simp

theorem settled (hdetach : aggregate.expected.bind (·.detach) = none) :
    aggregate.detachReplay.Settled where
  active := h.coupled.trans hdetach
  terminal := h.terminal
  refusal := h.refusal

/-- The slot keeps its operation and gets another status, its replay along with it. -/
theorem reslot (hslot : aggregate.expected = some expected) {issued : Bool}
    {lost : Option LostAuthorityKind} (hcoupled : replay.active =
      detach ⟨expected.request, issued, expected.authorization, lost⟩)
    (hterm : replay.terminalAgrees = true) (hrefusal : replay.refusalCanonical = true)
    (htestimony : ∀ testimony ∈ lost, issued = true ∧ expected.request.isObserverRecovery = false ∧
      testimony = lostOperationKind expected.request) : Sound { aggregate with
      expected := some ⟨expected.request, issued, expected.authorization, lost⟩
      detachReplay := replay } := { h with
  notAck := by
    rintro _ ⟨⟩
    exact h.notAck expected hslot
  authorized := by
    rintro _ ⟨⟩
    exact h.authorized expected hslot
  accepted := by
    rintro _ ⟨⟩
    exact h.accepted expected hslot
  coupled := hcoupled
  terminal := hterm
  testimony := by
    rintro _ ⟨⟩
    exact htestimony
  tokenless := by
    rintro habandoned _ ⟨⟩
    exact h.tokenless habandoned expected hslot
  refusal := hrefusal }

theorem retire {binding}
    (hepoch : binding.epochAgrees = true) (hreplay : replay.Settled) : Sound { aggregate with
      binding := binding, expected := none, detachReplay := replay } := { h with
  epoch := hepoch
  notAck := by rintro _ ⟨⟩
  authorized := by rintro _ ⟨⟩
  accepted := by rintro _ ⟨⟩
  coupled := hreplay.active
  terminal := hreplay.terminal
  testimony := by rintro _ ⟨⟩
  tokenless := by rintro _ _ ⟨⟩
  refusal := hreplay.refusal }

/-! ### Recording and issuing -/

theorem record {record}
    (hrecord : recordOperation aggregate request = .pending record) : record.successor.Sound := by
  obtain ⟨haccepts, hack, hslot, hnotoken, -, replay, prior, hreplay, rfl⟩ :=
    recordOperation_eq_pending hrecord
  have hsettled := h.settled (by rw [hslot]; rfl)
  -- the replay is untouched and over, or it is the new detach, parked
  have hcoupled : replay.active =
      detach ⟨request, false, aggregate.nextOperationAuthorization + 1, none⟩ ∧
        replay.terminalAgrees = true ∧ replay.refusalCanonical = true := by
    rcases admitDetachReplay_eq_ok hreplay with ⟨hother, rfl, -⟩ | ⟨envelope, rfl, rfl, -⟩
    · refine ⟨?_, hsettled.terminal, hsettled.refusal⟩
      rw [hsettled.active]
      cases request with
      | detach envelope => exact absurd rfl (hother envelope)
      | _ => rfl
    · exact ⟨rfl, rfl, rfl⟩
  exact { h with
    notAck := by
      rintro _ ⟨⟩
      exact hack
    authorized := by
      rintro _ ⟨⟩
      exact ⟨Nat.succ_pos _, le_refl _⟩
    accepted := by
      rintro _ ⟨⟩
      exact haccepts
    coupled := hcoupled.1
    terminal := hcoupled.2.1
    testimony := by rintro _ ⟨⟩ _ ⟨⟩
    tokenless := by
      rintro habandoned _ ⟨⟩
      exact hnotoken habandoned
    refusal := hcoupled.2.2 }

end

theorem markStarted_agrees (h : replay.terminalAgrees = true ∧ replay.refusalCanonical = true) :
    (markStarted request replay).terminalAgrees = true ∧ (markStarted request replay).refusalCanonical = true := by
  unfold markStarted
  split
  · unfold markInitialAttemptStarted
    split
    · exact ⟨rfl, rfl⟩
    · exact h
  · exact h

variable (h : aggregate.Sound) (hslot : aggregate.expected = some expected)
include h hslot

theorem issue : Sound { aggregate with
      expected := some { expected with issued := true }
      detachReplay := markStarted expected.request aggregate.detachReplay } := by
  obtain ⟨hterm, hrefusal⟩ := markStarted_agrees ⟨h.terminal, h.refusal⟩
  refine h.reslot hslot ?_ hterm hrefusal ?_
  · have hcoupled := h.coupled_slot hslot
    cases hrequest : expected.request with
    | detach request =>
      simp only [markStarted, active_markInitialAttemptStarted, hcoupled, detach, hrequest, map_some]
    | _ =>
      simp only [markStarted, hcoupled, detach, hrequest]
  · intro testimony hlost
    obtain ⟨-, hrest⟩ := h.testimony expected hslot testimony hlost
    exact ⟨rfl, hrest⟩

theorem park {request} (hrequest : expected.request = .detach request) : Sound { aggregate with
      expected := some ⟨.detach request, false, expected.authorization, none⟩
      detachReplay := .recorded request .parked } := by
  rw [← hrequest]
  refine h.reslot hslot ?_ rfl rfl (by rintro _ ⟨⟩)
  simp [active, detach, hrequest]

/-! ### Applying an answer -/

end ClientParticipantAggregate.Sound

/-- An answer touches the binding and the replay, and a replay it touches is over. -/
theorem applyCorrelatedValue_eq (aggregate : ClientParticipantAggregate) (value : ServerValue) :
    ∃ binding replay, applyCorrelatedValue aggregate value =
        { aggregate with binding := binding, detachReplay := replay } ∧
      (aggregate.binding.epochAgrees = true → binding.epochAgrees = true) ∧
      (replay = aggregate.detachReplay ∨ replay.Settled) := by
  have hattach : ∀ attach, (aggregate.detachReplay.applyAttach attach).1 = aggregate.detachReplay ∨
      (aggregate.detachReplay.applyAttach attach).1.Settled := fun attach =>
    moveWhen_settled fun _ _ => ⟨rfl, rfl, rfl⟩
  unfold applyCorrelatedValue
  split
  · exact ⟨_, _, rfl, fun _ => by simp [enrollBinding, epochAgrees, EnrollBound.capabilityGeneration], .inl rfl⟩
  · exact ⟨_, _, rfl, fun _ => by simp [enrollBinding, epochAgrees, EnrollBound.capabilityGeneration], .inl rfl⟩
  · exact ⟨_, _, rfl, fun _ => by simp [attachBinding, epochAgrees, AttachBound.capabilityGeneration], hattach _⟩
  · exact ⟨_, _, rfl, fun _ => by simp [attachBinding, epochAgrees, AttachBound.capabilityGeneration], hattach _⟩
  · exact ⟨_, _, rfl, fun _ => rfl, hattach _⟩
  · split
    · exact ⟨_, _, rfl, fun _ => rfl, moveWhen_settled fun request hnames => ⟨rfl, hnames, rfl⟩⟩
    · exact ⟨_, _, rfl, id, .inl rfl⟩
  · exact ⟨_, _, rfl, id, moveWhen_settled fun request hnames => ⟨rfl, hnames, rfl⟩⟩
  · exact ⟨_, _, rfl, id, moveWhen_settled fun request hnames => ⟨rfl, hnames, rfl⟩⟩
  · exact ⟨_, _, rfl, fun _ => rfl, moveWhen_settled fun _ _ => ⟨rfl, rfl, rfl⟩⟩
  · rename_i retired
    cases retired <;> exact ⟨_, _, rfl, fun _ => rfl, moveWhen_settled fun _ _ => ⟨rfl, rfl, rfl⟩⟩
  · exact ⟨_, _, rfl, id, .inl rfl⟩

theorem matchesRequest_detach (h : matchesRequest value (.detach request) = true)
    (hsettlement : settlementMatchesRequest value (.detach request) = none) :
    responseKey value 0 = .detach request := by
  simp only [matchesRequest, hsettlement, getD_none] at h
  exact of_decide_eq_true h

variable {aggregate : ClientParticipantAggregate}

/-- An answer that has a terminal of its own always reaches the replay of the detach it matches. -/
theorem applyCorrelatedValue_settled_of_ownTerminal (hown : ownTerminal value = true) (hmatches : matchesRequest value
    (.detach request) = true) (hreplay : aggregate.detachReplay = .recorded request status)
    (hsecret : aggregate.binding.retainedSecret.isSome = true) :
    (applyCorrelatedValue aggregate value).detachReplay.Settled := by
  unfold ownTerminal at hown
  split at hown
  · rename_i committed
    have hname : committedEnvelope committed = request := by
      simpa [responseKey, responseKeyOf] using matchesRequest_detach hmatches rfl
    obtain ⟨attachSecret, hattachSecret⟩ := isSome_iff_exists.mp hsecret
    simp only [applyCorrelatedValue, hattachSecret, hreplay,
      applyDetachCommitted, moveWhen, hname, decide_true, if_true]
    exact ⟨rfl, by simp [terminalAgrees, terminalMatches, hname], rfl⟩
  · rename_i inProgress
    have hname : inProgressEnvelope inProgress = request := by
      simpa [responseKey, responseKeyOf] using matchesRequest_detach hmatches rfl
    simp only [applyCorrelatedValue, hreplay, applyDetachInProgress, moveWhen, hname, decide_true, if_true]
    exact ⟨rfl, by simp [terminalAgrees, terminalMatches, hname], rfl⟩
  · rename_i cell
    have hname : terminalizedEnvelope cell = request := by
      simpa [responseKey, responseKeyOf, RequestKey.staleAuthority] using matchesRequest_detach hmatches rfl
    simp only [applyCorrelatedValue, hreplay, applyTerminalizedDetachCell, moveWhen, hname, decide_true, if_true]
    exact ⟨rfl, by simp [terminalAgrees, terminalMatches, hname], rfl⟩
  · cases hown

theorem settleRefusedAuthority_settled (aggregate : ClientParticipantAggregate) (hmatches : matchesRequest value
    (.detach request) = true) (hreplay : aggregate.detachReplay = .recorded request status)
    (hactive : aggregate.detachReplay.active.isSome = true) (hsecret : aggregate.binding.retainedSecret.isSome = true) :
    ((applyCorrelatedValue aggregate value).detachReplay.settleRefusedAuthority request value).1.Settled := by
  obtain ⟨binding, replay, heq, -, hmoved⟩ := applyCorrelatedValue_eq aggregate value
  rw [settleRefusedAuthority_fst]
  split
  · rename_i hstill
    cases hown : ownTerminal value with
    | true =>
      have hsettled := applyCorrelatedValue_settled_of_ownTerminal hown hmatches hreplay hsecret
      simp [hsettled.active] at hstill
    | false =>
      exact ⟨rfl, hmatches, by simp [refusalCanonical, hown]⟩
  · rename_i hover
    rw [heq] at hover ⊢
    rcases hmoved with rfl | hsettled
    · obtain ⟨⟨envelope, issued⟩, hsome⟩ := isSome_iff_exists.mp hactive
      have hrec := active_eq_some.mp hsome
      rw [hreplay] at hrec
      obtain ⟨rfl, -⟩ := recorded.inj hrec
      exact absurd (by simp [hsome]) hover
    · exact hsettled

theorem retireExpectedOperation_sound {expected} (h : aggregate.Sound) (hslot : aggregate.expected = some expected)
    (hmatches : matchesRequest value expected.request = true) : (retireExpectedOperation aggregate value).Sound := by
  obtain ⟨binding, replay, heq, hepoch, hmoved⟩ :=
    applyCorrelatedValue_eq { aggregate with expected := none } value
  have hcoupled := h.coupled_slot hslot
  unfold retireExpectedOperation
  rw [hslot]
  split
  · rename_i request issued authorization lost hexpected
    cases hexpected
    have hactive : aggregate.detachReplay.active = some (request, issued) := hcoupled
    obtain ⟨attachSecret, epoch, hbound⟩ :=
      acceptsRequest_detach (h.accepted _ hslot)
    have hbinding : aggregate.binding = _ := hbound
    have hsettled := settleRefusedAuthority_settled { aggregate with expected := none } hmatches
      (active_eq_some.mp hactive) (by rw [hactive]; rfl) (by rw [hbinding]; rfl)
    rw [heq] at hsettled ⊢
    exact h.retire (hepoch h.epoch) hsettled
  · rename_i hother
    have hdetach : expected.detach = none := by
      obtain ⟨request, issued, authorization, lost⟩ := expected
      cases request with
      | detach request => exact absurd rfl (hother request issued authorization lost)
      | _ => rfl
    rw [heq]
    refine h.retire (hepoch h.epoch) ?_
    rcases hmoved with rfl | hsettled
    · exact h.settled (by rw [hslot]; exact hdetach)
    · exact hsettled

/-! ### The reconnect machine -/

theorem lost_eq_none_of_lostKind (h : aggregate.Sound)
    (hstate : aggregate.reconnect.state.lostKind = none) : aggregate.reconnect.lost = none := by
  cases hlost : aggregate.reconnect.lost with
  | none => rfl
  | some testimony =>
    have hkind : aggregate.reconnect.state.lostKind = some testimony :=
      h.reconnectTestimony testimony hlost
    rw [hstate] at hkind
    cases hkind

theorem ClientParticipantAggregate.Sound.reconnect {reconnect} (h : aggregate.Sound)
    (hstep : ReconnectStep aggregate.reconnect reconnect) : (aggregate.withReconnect reconnect).Sound := by
  have hparts : (∀ authorization ∈ reconnect.state.authorization, 0 < authorization ∧ authorization ≤
      reconnect.nextAuthorization) ∧ ∀ testimony ∈ reconnect.lost, reconnect.state.lostKind = some testimony := by
    have hauthorized : ∀ authorization ∈ aggregate.reconnect.state.authorization, 0 < authorization ∧
      authorization ≤ aggregate.reconnect.nextAuthorization := h.reconnectAuthorized
    cases hstep with
    | fresh hstate =>
      have hlost := lost_eq_none_of_lostKind h (by rcases hstate with hs | hs <;> rw [hs] <;> rfl)
      refine ⟨?_, by simp [hlost]⟩
      rintro _ ⟨⟩
      exact ⟨Nat.succ_pos _, le_refl _⟩
    | recover hstate =>
      have hlost := lost_eq_none_of_lostKind h (by rw [hstate]; rfl)
      rw [hstate] at hauthorized
      exact ⟨hauthorized, by simp [hlost]⟩
    | resolve _ => exact ⟨by rintro _ ⟨⟩, by rintro _ ⟨⟩⟩
    | redeem hlost hstate =>
      rw [hstate] at hauthorized
      exact ⟨hauthorized, by simp [hlost]⟩
    | fate fate hlost hstate =>
      refine ⟨?_, by simp [hlost]⟩
      cases fate <;> rintro _ ⟨⟩
  exact { h with
    reconnectAuthorized := hparts.1
    reconnectTestimony := hparts.2 }

/-! ### Restarting -/

/-- A restored slot holds the recorded operation; an issued one with the testimony of its loss. -/
theorem mem_restoredExpected (h : restored ∈ restoredExpected slot) :
    ∃ expected ∈ slot, expected.request.isObserverRecovery = false ∧ restored = { expected with
        lost := if expected.issued then some (expected.lost.getD (lostOperationKind expected.request))
        else expected.lost } := by
  cases slot with
  | none => cases h
  | some expected =>
    obtain ⟨request, issued, authorization, lost⟩ := expected
    refine ⟨_, rfl, ?_⟩
    cases hnotoken : request.isObserverRecovery with
    | true => simp [restoredExpected, hnotoken] at h
    | false => cases issued <;> simpa [restoredExpected, hnotoken, eq_comm] using h

theorem detach_restoredExpected (slot : Option ExpectedOperationState) :
    (restoredExpected slot).bind (·.detach) = slot.bind (·.detach) := by
  cases slot with
  | none => rfl
  | some expected =>
    obtain ⟨request, issued, authorization, lost⟩ := expected
    cases request <;> cases issued <;> rfl

/-- A restart keeps every fact and adds only testimonies that agree with them. -/
theorem DecodedFacts.Sound.rebuild {facts : DecodedFacts} (h : facts.Sound) : facts.rebuild.Sound := { h with
  notAck := by
    intro restored hmem
    obtain ⟨expected, hslot, -, rfl⟩ := mem_restoredExpected hmem
    exact h.notAck expected hslot
  authorized := by
    intro restored hmem
    obtain ⟨expected, hslot, -, rfl⟩ := mem_restoredExpected hmem
    exact h.authorized expected hslot
  accepted := by
    intro restored hmem
    obtain ⟨expected, hslot, -, rfl⟩ := mem_restoredExpected hmem
    exact h.accepted expected hslot
  coupled := h.coupled.trans (detach_restoredExpected facts.expected).symm
  testimony := by
    intro restored hmem testimony hlost
    obtain ⟨expected, hslot, hnotoken, rfl⟩ := mem_restoredExpected hmem
    cases hissued : expected.issued with
    | false =>
      simp only [hissued, Bool.false_eq_true, if_false] at hlost
      have htestified := h.testimony expected hslot testimony hlost
      simp [hissued] at htestified
    | true =>
      refine ⟨rfl, hnotoken, ?_⟩
      simp only [hissued, if_true, mem_def, some.injEq] at hlost
      rw [← hlost]
      cases hold : expected.lost with
      | none => rfl
      | some old => exact (h.testimony expected hslot old hold).2.2
  reconnectTestimony := by
    intro testimony hlost
    have hor : facts.reconnectLost.or facts.reconnectState.lostKind = some testimony := hlost
    rcases or_eq_some_iff.mp hor with hold | ⟨-, hnew⟩
    · exact h.reconnectTestimony testimony hold
    · exact hnew
  tokenless := by
    intro _ restored hmem
    obtain ⟨expected, -, hnotoken, rfl⟩ := mem_restoredExpected hmem
    exact hnotoken
  abandoned := by
    intro abandonment hmem
    have hrestored : restoredAbandonment facts = some abandonment := hmem
    unfold restoredAbandonment at hrestored
    split at hrestored
    · split at hrestored
      · rename_i hnotoken
        obtain rfl := some.inj hrestored
        exact hnotoken
      · exact h.abandoned abandonment hrestored
    · exact h.abandoned abandonment hrestored }

/-! ### Every reachable state -/

/-- Soundness wherever the aggregate is: a pending record still has the sound aggregate it came from, and a
commit holds its own operation, not yet issued. -/
def ClientRoot.Sound : ClientRoot → Prop
  | .aggregate value => value.Sound
  | .pending record => ∃ prior request, ClientParticipantAggregate.Sound prior ∧
      recordOperation prior request = .pending record
  | .commit value => value.aggregate.Sound ∧ value.aggregate.expected =
      some ⟨value.operation.request, false, value.operation.authorization, none⟩

theorem ClientRoot.Sound.current {root : ClientRoot} (h : root.Sound) : root.current.Sound := by
  cases root with
  | aggregate value => exact h
  | pending record =>
    obtain ⟨prior, request, hprior, hrecord⟩ := h
    exact hprior.record hrecord
  | commit value => exact h.1

theorem ProcessStep.sound
    (hstep : ProcessStep process action process') (h : process.root.Sound) : process'.root.Sound := by
  cases hstep with
  | keep _ | stray => exact h
  | record hrecord => exact ⟨_, _, h, hrecord⟩
  | commit =>
    obtain ⟨prior, request, hprior, hrecord⟩ := h
    refine ⟨hprior.record hrecord, ?_⟩
    obtain ⟨-, -, -, -, -, replay, priorReplay, -, rfl⟩ := recordOperation_eq_pending hrecord
    rfl
  | abort =>
    obtain ⟨prior, request, hprior, hrecord⟩ := h
    rw [ClientPendingOperationRecord.abort_of_recordOperation hrecord]
    exact hprior
  | release =>
    have hissue := h.1.issue h.2
    simpa [ClientRoot.Sound, ClientOperationCommit.intoParts, h.2] using hissue
  | recover hslot hissued => exact Sound.issue h hslot
  | @started aggregate expected request _ hslot hrequest hreplay =>
    have hmark : markStarted expected.request aggregate.detachReplay = .recorded request .inFlight := by
      rw [hrequest, hreplay]
      rfl
    have hissue := Sound.issue h hslot
    rw [hmark] at hissue
    exact hissue
  | park hawaits hlost hrequest hheld => exact Sound.park h hawaits.slot hrequest
  | retireDetach hawaits hlost haction hactive hterm hrefusal hheld =>
    exact Sound.retire h h.epoch ⟨hactive, hterm, hrefusal⟩
  | fate hawaits hlost hrequest hheld =>
    exact Sound.retire h h.epoch (h.settled (by rw [hawaits.slot]; exact hrequest))
  | resolve hslot hlost hrequest =>
    exact Sound.retire h h.epoch (h.settled (by rw [hslot]; exact hrequest))
  | resolveDetach hslot hlost hrequest =>
    have hpark := Sound.park h hslot hrequest
    have hactive := Sound.coupled_slot h hslot
    rw [detach, hrequest] at hactive
    have hparked := congrArg DetachReplayState.park (active_eq_some.mp hactive)
    rw [DetachReplayState.park] at hparked
    rw [← hparked] at hpark
    exact hpark
  | answer hawaits hlost haccepts hmatches hheld =>
    exact retireExpectedOperation_sound h hawaits.slot hmatches
  | abandonment => exact { h with tokenless := by rintro ⟨⟩, abandoned := by rintro _ ⟨⟩ }
  | reconnect haction hstep hheld => exact Sound.reconnect h hstep
  | restore hdurable => exact DecodedFacts.Sound.rebuild h.current

theorem new_sound : new.Sound where
  epoch := rfl
  notAck := by rintro _ ⟨⟩
  authorized := by rintro _ ⟨⟩
  accepted := by rintro _ ⟨⟩
  coupled := rfl
  terminal := rfl
  reconnectAuthorized := by rintro _ ⟨⟩
  testimony := by rintro _ ⟨⟩
  reconnectTestimony := by rintro _ ⟨⟩
  tokenless := by rintro ⟨⟩
  refusal := rfl
  abandoned := by rintro _ ⟨⟩

theorem processStart_sound (h : processStart process) : process.root.Sound := by
  obtain ⟨-, hnew | ⟨facts, restored, hrefusal, habandoned, hrestore, hroot⟩⟩ := h
  · rw [hnew]
    exact new_sound
  · simp only [DecodedFacts.restore, ok_iff] at hrestore
    obtain ⟨u, hvalid, rfl⟩ := hrestore
    rw [hroot]
    exact (DecodedFacts.sound_of_validateFacts hvalid hrefusal habandoned).rebuild

theorem sound_of_reachable (h : clientMachine.Reachable process) : process.root.Sound := by
  apply h.invariant fun _ hstart => processStart_sound hstart
  exact fun _ _ _ hsound hnext => (processNext_step hnext).sound hsound

end Liminal.Client
