import Liminal.Conversation.Invariants
import Liminal.Lifecycle.CursorRestore
import Liminal.Lifecycle.ObligationDispatch

/-!
# A conversation and the episode of its debt

The server keeps the frontier of a conversation together with the episode of its debt. Every
operation completes a transition from the frontier it leaves behind; a projection that moves the
observer completes another. So the episode always reflects the frontier, and an acknowledgement
selected on it completes.
-/

namespace Liminal

open Fallible Conversation ObligationDebtDispatchTransition Option
open ObligationDebtDispatchState hiding frontier

structure CoupledConversation where
  conversation : Conversation
  dispatch : ObligationDebtDispatchState

namespace CoupledConversation

/-- The episode follows the observer when an operation has moved it. -/
def recordObserverProgress (conversation : Conversation) (dispatch : ObligationDebtDispatchState)
    (observerProgress : DeliverySeq) : Option CoupledConversation :=
  if conversation.observerProgress = observerProgress then some ⟨conversation, dispatch⟩
  else do
    let (frontier, transition) := dispatch.beginTransition
    let dispatch ← (transition.complete frontier conversation.observerProgress).toOption
    return ⟨conversation, dispatch⟩

variable (s : CoupledConversation)

/-- An acknowledgement in nonzero debt is selected on the episode the frontier is kept with. -/
def ackNonzero (request : ParticipantAck) (receivingBindingEpoch : BindingEpoch)
    (availability : AckAvailability) : Option CoupledConversation := do
  let slot ← s.conversation.slot? request.participantId
  let episode ← s.dispatch.episode
  let commit ← (decideNonzeroParticipantAck slot.member slot.binding receivingBindingEpoch request
    availability episode).toOption
  let conversation ← s.conversation.commitAck slot commit.toParticipantAckCommit
  let (_, transition) := s.dispatch.beginTransition
  let (dispatch, _) ← (transition.completeNonzeroAck conversation.owner commit slot.member
    s.conversation.observerProgress).1.toOption
  recordObserverProgress conversation dispatch s.conversation.observerProgress

def install (conversation : Conversation) : Option CoupledConversation := do
  let (_, transition) := s.dispatch.beginTransition
  let dispatch ← (transition.complete conversation.owner s.conversation.observerProgress).toOption
  recordObserverProgress conversation dispatch s.conversation.observerProgress

def apply : Operation → Option CoupledConversation
  | .ackNonzero request epoch availability _ => s.ackNonzero request epoch availability
  | operation => do s.install (← s.conversation.apply operation)

def IsGenesis : Prop := s.conversation.IsGenesis ∧
    fromFrontier s.conversation.owner s.conversation.observerProgress = .ok s.dispatch

end CoupledConversation

def coupledMachine : Machine CoupledConversation Operation where
  start := CoupledConversation.IsGenesis
  next := CoupledConversation.apply

namespace CoupledConversation

variable {s s' : CoupledConversation}

/-! ### The episode reflects the frontier -/

structure Sound (s : CoupledConversation) : Prop where
  frontier : s.dispatch.frontier = s.conversation.owner
  reflects : s.dispatch.Reflects s.conversation.observerProgress

theorem sound_of_recordObserverProgress {conversation dispatch observerProgress}
    (hfront : dispatch.frontier = conversation.owner) (hreflects : dispatch.Reflects observerProgress)
    (h : recordObserverProgress conversation dispatch observerProgress = some s) :
    s.conversation = conversation ∧ s.Sound := by
  unfold recordObserverProgress at h
  split at h
  · rename_i hsame
    cases h
    exact ⟨rfl, hfront, hsame ▸ hreflects⟩
  · simp only [some_iff, beginTransition] at h
    obtain ⟨later, hcompl, rfl⟩ := h
    obtain ⟨hlater, hlaterReflects⟩ := reflects_of_complete hcompl
    exact ⟨rfl, hlater.trans hfront, hlaterReflects⟩

theorem install_eq_some {conversation} (h : s.install conversation = some s') :
    s'.conversation = conversation ∧ s'.Sound := by
  simp only [install, beginTransition, some_iff] at h
  obtain ⟨dispatch, hcompl, h⟩ := h
  obtain ⟨hfront, hreflects⟩ := reflects_of_complete hcompl
  exact sound_of_recordObserverProgress hfront hreflects h

theorem ackNonzero_eq_some (h : s.ackNonzero request epoch availability = some s') :
    ∃ slot frontier episode commit, s.conversation.slot? request.participantId = some slot ∧
      s.dispatch = .owed frontier episode ∧
      decideNonzeroParticipantAck slot.member slot.binding epoch request availability episode = .ok commit ∧
      s.conversation.commitAck slot commit.toParticipantAckCommit = some s'.conversation ∧ s'.Sound := by
  simp only [ackNonzero, beginTransition, some_iff, Prod.exists] at h
  obtain ⟨slot, hslot, episode, hepisode, commit, hselected, conversation, hcommit, dispatch, outcome, hcompl, h⟩ := h
  obtain ⟨frontier, howed⟩ := episode_eq_some.mp hepisode
  obtain ⟨-, -, -, -, hmoves⟩ := decideNonzeroParticipantAck_eq_ok hselected
  -- Only an owed frontier gets as far as a completed acknowledgement.
  cases hstate : conversation.owner.closureAccounting.state with
  | clear =>
    rw [completeNonzeroAck, hstate] at hcompl
    cases hcompl
  | owed debt edge =>
    rw [hepisode] at hcompl
    obtain ⟨-, hresult⟩ := NonzeroParticipantAckCommit.completeNonzeroAck_of_applyTo
      s.conversation.observerProgress hstate hmoves.episode hmoves.applyTo
    obtain ⟨hagrees, hpair⟩ := (hresult _).mp hcompl
    obtain ⟨rfl, rfl⟩ := Prod.mk.inj hpair
    have hreflects : (owed conversation.owner commit.resultingEpisode).Reflects
        s.conversation.observerProgress := ⟨debt, edge, hstate, hagrees debt edge hstate⟩
    obtain ⟨rfl, hsound⟩ := sound_of_recordObserverProgress rfl hreflects h
    exact ⟨slot, frontier, episode, commit, hslot, howed, hselected, hcommit, hsound⟩

theorem sound_of_reachable (h : coupledMachine.Reachable s) : s.Sound := by
  refine h.invariant ?_ ?_
  · rintro s ⟨-, hdispatch⟩
    exact ⟨(reflects_of_fromFrontier hdispatch).1, (reflects_of_fromFrontier hdispatch).2⟩
  · intro s operation s' _ hnext
    change s.apply operation = some s' at hnext
    unfold apply at hnext
    split at hnext
    · obtain ⟨_, _, _, _, -, -, -, -, hsound⟩ := ackNonzero_eq_some hnext
      exact hsound
    · simp only [some_iff] at hnext
      obtain ⟨conversation, -, hinstall⟩ := hnext
      exact (install_eq_some hinstall).2

/-! ### Acknowledging -/

/-- An acknowledgement selected on the episode completes with the episode the frontier calls for. An error
leaves the member unchanged unless the resulting episode disagrees with the frontier. -/
theorem nonzero_ack_completes (h : coupledMachine.Reachable s) :
    (∀ frontier episode, s.dispatch = .owed frontier episode → ∀ member binding epoch request availability commit,
        decideNonzeroParticipantAck member binding epoch request availability episode = .ok commit →
      ∀ resulting, frontier.applyNonzeroParticipantAckFrontier request.participantId request.throughSeq =
          .ok resulting →
        (ObligationDebtDispatchTransition.mk (some episode)).completeNonzeroAck resulting commit member
            s.conversation.observerProgress = (.ok (.owed resulting commit.resultingEpisode, ⟨request⟩),
            { member with cursor := request.throughSeq }) ∧
        ∃ debt edge, resulting.closureAccounting.state = .owed debt edge ∧
          commit.resultingEpisode.reconcileClaimFrontiers resulting.frontiers debt
            s.conversation.observerProgress = .ok commit.resultingEpisode) ∧
    ∀ transition frontier (commit : NonzeroParticipantAckCommit) member observerProgress,
      (∀ error, (transition.completeNonzeroAck frontier commit member observerProgress).1 = .error error →
        (transition.completeNonzeroAck frontier commit member observerProgress).2 = member) ↔
      (commit.Moves member transition → commit.Agrees frontier observerProgress) := by
  refine ⟨?_, fun _ _ _ _ _ => NonzeroParticipantAckCommit.completeNonzeroAck_unchanged_iff⟩
  intro frontier episode howed member binding epoch request availability commit hselected resulting hfrontier
  have hreflects := (sound_of_reachable h).reflects
  rw [howed] at hreflects
  obtain ⟨debt, edge, hstate, hreflects⟩ := hreflects
  obtain ⟨hresulting, hagrees⟩ := agrees_of_selected hstate hreflects hselected hfrontier
  obtain ⟨houtcome, -, -, -, hmoves⟩ := decideNonzeroParticipantAck_eq_ok hselected
  refine ⟨?_, debt, edge, hresulting, NonzeroDebtCursorEpisode.reconcile_eq_self_iff.mpr (hagrees debt edge hresulting)⟩
  rw [hmoves.complete hresulting hagrees, houtcome]

def owedAlone : Option CoupledConversation := do
  let conversation ← unitRun ⟨4, 4⟩ 2 50 []
  let dispatch ← (fromFrontier conversation.owner conversation.observerProgress).toOption
  return ⟨conversation, dispatch⟩

theorem owedAlone_reachable (h : owedAlone = some s) : coupledMachine.Reachable s := by
  simp only [owedAlone, unitRun, some_iff, bind_eq_some_iff] at h
  obtain ⟨conversation, ⟨first, hgenesis, hrun⟩, dispatch, hdispatch, rfl⟩ := h
  obtain rfl : first = conversation := some.inj hrun
  exact .start ⟨unitGenesis_isGenesis hgenesis, hdispatch⟩

/-- The dispatch works on the conversation's own frontier. It has an episode exactly while that owes, and
reconciling the episode with the frontier changes nothing. -/
theorem dispatch_in_step (h : coupledMachine.Reachable s) : s.dispatch.frontier = s.conversation.owner ∧
    (s.dispatch.episode = none → s.conversation.owner.closureAccounting.state = .clear) ∧
    ∀ episode ∈ s.dispatch.episode, ∃ debt edge, s.conversation.owner.closureAccounting.state = .owed debt edge ∧
      episode.reconcileClaimFrontiers s.conversation.owner.frontiers debt s.conversation.observerProgress =
        .ok episode := by
  obtain ⟨hfrontier, hreflects⟩ := sound_of_reachable h
  refine ⟨hfrontier, ?_⟩
  rw [← hfrontier]
  obtain ⟨conversation, frontier | ⟨frontier, episode⟩⟩ := s
  · exact ⟨fun _ => hreflects, nofun⟩
  · obtain ⟨debt, edge, hstate, hepisode⟩ := hreflects
    refine ⟨nofun, ?_⟩
    rintro _ ⟨⟩
    exact ⟨debt, edge, hstate, NonzeroDebtCursorEpisode.reconcile_eq_self_iff.mpr hepisode⟩

theorem dispatch_in_step_owedAlone : ∃ s, owedAlone = some s ∧ s.dispatch.episode.isSome ∧
    s.dispatch.frontier = s.conversation.owner :=
  exists_of_any_imp (by decide) fun _ hs _ => (dispatch_in_step (owedAlone_reachable hs)).1

/-- The member's acknowledgement of the first record, selected on the episode, with the frontier it leads to. -/
def owedAck (s : CoupledConversation) :
    Option (ParticipantSlot × NonzeroDebtCursorEpisode × NonzeroParticipantAckCommit × LiveFrontierOwner) := do
  let slot ← s.conversation.slot? 0
  let episode ← s.dispatch.episode
  let commit ← (decideNonzeroParticipantAck slot.member slot.binding (unitEpoch 0 1)
    ⟨0, 0, 1, 1⟩ (.contiguous 1) episode).toOption
  let resulting ← (s.conversation.owner.applyNonzeroParticipantAckFrontier 0 1).toOption
  return (slot, episode, commit, resulting)

theorem nonzero_ack_completes_owedAlone : ∃ s slot episode commit resulting, owedAlone = some s ∧
    owedAck s = some (slot, episode, commit, resulting) ∧
    (ObligationDebtDispatchTransition.mk (some episode)).completeNonzeroAck resulting commit slot.member
        s.conversation.observerProgress =
      (.ok (.owed resulting commit.resultingEpisode, ⟨⟨0, 0, 1, 1⟩⟩), { slot.member with cursor := 1 }) := by
  obtain ⟨s, hs, hack⟩ : ∃ s, owedAlone = some s ∧ (owedAck s).isSome := exists_of_any (by decide)
  obtain ⟨⟨slot, episode, commit, resulting⟩, hack⟩ := isSome_iff_exists.mp hack
  have hparts := hack
  simp only [owedAck, some_iff, Prod.mk.injEq] at hparts
  obtain ⟨_, -, _, hepisode, _, hcommit, _, hresulting, rfl, rfl, rfl, rfl⟩ := hparts
  obtain ⟨frontier, howed⟩ := episode_eq_some.mp hepisode
  have hreachable := owedAlone_reachable hs
  have hfrontier := (sound_of_reachable hreachable).frontier
  rw [howed] at hfrontier
  obtain rfl : frontier = s.conversation.owner := hfrontier
  exact ⟨s, _, _, _, _, hs, hack, ((nonzero_ack_completes hreachable).1 _ _ howed _ _ _ _ _ _ hcommit _ hresulting).1⟩

/-- Completed with the observer one ahead of the episode, the acknowledgement fails after it has moved the
member. -/
theorem nonzero_ack_moves_member_on_error : ∃ s slot episode commit resulting, owedAlone = some s ∧
    owedAck s = some (slot, episode, commit, resulting) ∧
    (ObligationDebtDispatchTransition.mk (some episode)).completeNonzeroAck resulting commit slot.member 1 =
      (.error .nonzeroAckState, { slot.member with cursor := 1 }) ∧ slot.member.cursor = 0 := by
  obtain ⟨s, hs, hack⟩ : ∃ s, owedAlone = some s ∧ ∃ parts ∈ owedAck s,
      (ObligationDebtDispatchTransition.mk (some parts.2.1)).completeNonzeroAck parts.2.2.2 parts.2.2.1
          parts.1.member 1 = (.error .nonzeroAckState, { parts.1.member with cursor := 1 }) ∧
        parts.1.member.cursor = 0 := exists_of_any (by decide)
  obtain ⟨⟨slot, episode, commit, resulting⟩, hparts, herror, hcursor⟩ := hack
  exact ⟨s, slot, episode, commit, resulting, hs, hparts, herror, hcursor⟩

end CoupledConversation

/-! ### Storing the episode -/

namespace NonzeroDebtCursorEpisode

variable {episode : NonzeroDebtCursorEpisode}

/-- The bytes of a live episode hold its parts, and it is restored from them, or from anything else that could
be stored, exactly if it is restorable. -/
theorem live_episode_restorable_iff (h : liveMachine.Reachable episode) : (∀ bytes, episode.encode = .ok bytes →
      EncodedCursorEpisode.read ⟨bytes, false⟩ = .ok (episode.encoded, ⟨[], false⟩)) ∧
    (episode.encoded.toRestore.restore = .ok episode ↔ episode.Restorable) ∧
    ((∃ raw : CursorEpisodeRestore, raw.restore = .ok episode) ↔ episode.Restorable) := by
  have hkept := wellKept_of_reachable h
  refine ⟨fun bytes => read_encode, ⟨restorable_of_restore hkept, hkept.restore_encoded⟩, ?_⟩
  constructor
  · rintro ⟨raw, hraw⟩
    exact restorable_of_restore hkept hraw
  · exact fun hrestorable => ⟨_, hkept.restore_encoded hrestorable⟩

def ofConversation (s : Conversation) : Option NonzeroDebtCursorEpisode :=
  match s.owner.closureAccounting.state with
  | .clear => none
  | .owed debt _ => (fromClaimFrontiers s.owner.frontiers debt s.observerProgress).toOption

theorem ofConversation_reachable (hreach : conversationMachine.Reachable s)
    (h : ofConversation s = some episode) : liveMachine.Reachable episode := by
  unfold ofConversation at h
  split at h
  · cases h
  · exact .start ⟨_, _, _, (sound_of_reachable hreach).seated, toOption_eq_some.mp h⟩

def acknowledgedAlone : Option NonzeroDebtCursorEpisode := do
  let s ← unitRun ⟨4, 4⟩ 2 50 []
  let episode ← ofConversation s
  return episode.after ⟨0, unitEpoch 0 1, ⟨0, 0, 1, 1⟩, .contiguous 1⟩

theorem live_episode_restorable_iff_acknowledgedAlone : ∃ episode, acknowledgedAlone = some episode ∧
    episode.facts.get ⟨0, 1⟩ = some .consumed ∧ episode.encoded.toRestore.restore = .ok episode ∧
    episode.Restorable := by
  obtain ⟨episode, hepisode, hfact, hrestored⟩ : ∃ episode, acknowledgedAlone = some episode ∧ episode.facts.get ⟨0,
      1⟩ = some .consumed ∧ episode.encoded.toRestore.restore.toOption = some episode := exists_of_any (by decide)
  have hstart := hepisode
  simp only [acknowledgedAlone, some_iff] at hstart
  obtain ⟨s, hrun, first, hfirst, rfl⟩ := hstart
  have hreachable := (ofConversation_reachable (unitRun_reachable hrun) hfirst).next
    (a := .acknowledged ⟨0, unitEpoch 0 1, ⟨0, 0, 1, 1⟩, .contiguous 1⟩) rfl
  rw [toOption_eq_some] at hrestored
  exact ⟨_, hepisode, hfact, hrestored, (live_episode_restorable_iff hreachable).2.1.mp hrestored⟩

def detachedAlone : Option NonzeroDebtCursorEpisode := do
  let s ← unitRun ⟨4, 4⟩ 2 50 [.detach ⟨0, 0, 1, 0⟩ 0 1 2 (unitCharge 2 ⟨1, .bindingTerminal, 0⟩)]
  ofConversation s

/-- Its episode is stored, and nothing that could be stored gives it back. -/
theorem detached_episode_not_restorable : ∃ episode, detachedAlone = some episode ∧ liveMachine.Reachable episode ∧
    (∃ bytes, episode.encode = .ok bytes) ∧ ∀ raw : CursorEpisodeRestore, raw.restore ≠ .ok episode := by
  obtain ⟨episode, hepisode, hdetached, hencoded⟩ : ∃ episode, detachedAlone = some episode ∧
      (∃ p ∈ episode.participants, p.binding = .detached (unitEpoch 0 1)) ∧
      episode.encode.toOption.isSome := exists_of_any (by decide)
  have hstart := hepisode
  simp only [detachedAlone, some_iff] at hstart
  obtain ⟨s, hrun, hfirst⟩ := hstart
  have hreachable := ofConversation_reachable (unitRun_reachable hrun) hfirst
  obtain ⟨bytes, hbytes⟩ := isSome_iff_exists.mp hencoded
  refine ⟨episode, hepisode, hreachable, ⟨bytes, toOption_eq_some.mp hbytes⟩, fun raw hraw => ?_⟩
  obtain ⟨p, hp, hbinding⟩ := hdetached
  obtain ⟨epoch, hbound⟩ :=
    (restorable_of_restore (wellKept_of_reachable hreachable) hraw).bound p hp
  cases hbinding.symm.trans hbound

end NonzeroDebtCursorEpisode

end Liminal
