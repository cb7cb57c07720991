import Liminal.Lifecycle.CursorReconcile

/-!
# Debt and its episode

While a debt is owed, frontier and episode are kept together: completing a transition rebuilds the
episode from the frontier. An acknowledgement in nonzero debt brings its own episode; completing it
moves the member first and compares afterwards.
-/

namespace Liminal

open Fallible NonzeroDebtCursorEpisode

variable {binding : BindingState} {receivingBindingEpoch : BindingEpoch} {request : ParticipantAck}
  {availability : AckAvailability} {member : LiveMember} {commit : NonzeroParticipantAckCommit}

inductive ObligationDebtOwnerError
  | episode (error : CursorEpisodeBuildError)
  | nonzeroAck (error : NonzeroParticipantAckCommitError)
  | nonzeroAckState
deriving DecidableEq

inductive ObligationDebtDispatchState
  | clear (frontier : LiveFrontierOwner)
  | owed (frontier : LiveFrontierOwner) (episode : NonzeroDebtCursorEpisode)
deriving DecidableEq

structure ObligationDebtDispatchTransition where
  priorEpisode : Option NonzeroDebtCursorEpisode

namespace ObligationDebtDispatchState

def frontier : ObligationDebtDispatchState → LiveFrontierOwner
  | .clear frontier | .owed frontier _ => frontier

def episode : ObligationDebtDispatchState → Option NonzeroDebtCursorEpisode
  | .clear _ => none
  | .owed _ episode => some episode

theorem episode_eq_some {state : ObligationDebtDispatchState} :
    state.episode = some kept ↔ ∃ frontier, state = .owed frontier kept := by
  cases state with
  | clear frontier => simp [episode]
  | owed frontier episode => simp [ObligationDebtDispatchState.episode]

def fromFrontier (frontier : LiveFrontierOwner) (observerProgress : DeliverySeq) :
    Except ObligationDebtOwnerError ObligationDebtDispatchState :=
  match frontier.closureAccounting.state with
  | .clear => .ok (.clear frontier)
  | .owed debt _ => do
    let episode ← (fromClaimFrontiers frontier.frontiers debt observerProgress).mapError .episode
    return .owed frontier episode

def beginTransition (state : ObligationDebtDispatchState) : LiveFrontierOwner × ObligationDebtDispatchTransition :=
  (state.frontier, ⟨state.episode⟩)

end ObligationDebtDispatchState

namespace ObligationDebtDispatchTransition

open NonzeroDebtCursorEpisode in
section

variable (transition : ObligationDebtDispatchTransition) (frontier : LiveFrontierOwner)

def complete (observerProgress : DeliverySeq) : Except ObligationDebtOwnerError ObligationDebtDispatchState :=
  match frontier.closureAccounting.state with
  | .clear => .ok (.clear frontier)
  | .owed debt _ => do
    let episode ← (match transition.priorEpisode with
      | none => fromClaimFrontiers frontier.frontiers debt observerProgress
      | some episode => episode.reconcileClaimFrontiers frontier.frontiers debt observerProgress).mapError .episode
    return .owed frontier episode

/-- The result, and the member as it is afterwards. It has been moved by the time the episode is compared. -/
def completeNonzeroAck
    (commit : NonzeroParticipantAckCommit) (member : LiveMember) (observerProgress : DeliverySeq) :
    Except ObligationDebtOwnerError (ObligationDebtDispatchState × Wire.AckCommitted) × LiveMember :=
  match frontier.closureAccounting.state with
  | .clear => (.error .nonzeroAckState, member)
  | .owed debt _ =>
    match transition.priorEpisode with
    | none => (.error .nonzeroAckState, member)
    | some episode =>
      match commit.applyTo member episode with
      | .error error => (.error (.nonzeroAck error), member)
      | .ok (member, episode) =>
        (do
          require (episode.debt = debt) .nonzeroAckState
          let reconciled ← (episode.reconcileClaimFrontiers frontier.frontiers debt
            observerProgress).mapError ObligationDebtOwnerError.episode
          require (reconciled = episode) .nonzeroAckState
          return (.owed frontier episode, commit.outcome), member)

end

end ObligationDebtDispatchTransition

/-! ### Reflecting the frontier -/

def ObligationDebtDispatchState.Reflects (state : ObligationDebtDispatchState)
    (observerProgress : DeliverySeq) : Prop :=
  match state with
  | .clear frontier => frontier.closureAccounting.state = .clear
  | .owed frontier episode => ∃ debt edge, frontier.closureAccounting.state = .owed debt edge ∧
    episode.Reflects frontier.frontiers debt observerProgress

variable {frontier : LiveFrontierOwner} {observerProgress : DeliverySeq}
  {state : ObligationDebtDispatchState} {episode : NonzeroDebtCursorEpisode}

theorem ObligationDebtDispatchState.reflects_of_fromFrontier (h : fromFrontier frontier observerProgress = .ok state) :
    state.frontier = frontier ∧ state.Reflects observerProgress := by
  unfold fromFrontier at h
  split at h
  · rename_i hclear
    cases h
    exact ⟨rfl, hclear⟩
  · rename_i debt edge howed
    simp only [ok_iff] at h
    obtain ⟨episode, hepisode, rfl⟩ := h
    exact ⟨rfl, debt, edge, howed, (fromClaimFrontiers_eq_ok.mp hepisode).1⟩

/-- Whatever the transition began from, its completion reflects the frontier. -/
theorem ObligationDebtDispatchTransition.reflects_of_complete {transition : ObligationDebtDispatchTransition}
    (h : transition.complete frontier observerProgress = .ok state) :
    state.frontier = frontier ∧ state.Reflects observerProgress := by
  unfold complete at h
  split at h
  · rename_i hclear
    cases h
    exact ⟨rfl, hclear⟩
  · rename_i debt edge howed
    simp only [ok_iff] at h
    obtain ⟨episode, hepisode, rfl⟩ := h
    refine ⟨rfl, debt, edge, howed, ?_⟩
    split at hepisode
    · exact (fromClaimFrontiers_eq_ok.mp hepisode).1
    · exact reflects_of_reconcile hepisode

/-! ### Completing an acknowledgement -/

namespace NonzeroParticipantAckCommit

variable {transition : ObligationDebtDispatchTransition} {debt : ClosureDebt} {edge : StoredEdge}

/-- The commit was selected on the episode of the transition and is about to move the member. -/
structure Moves (commit : NonzeroParticipantAckCommit) (member : LiveMember)
    (transition : ObligationDebtDispatchTransition) : Prop extends commit.Addresses member where
  episode : transition.priorEpisode = some commit.beforeEpisode
  cursor : member.cursor = commit.fromCursor

def Agrees (commit : NonzeroParticipantAckCommit) (frontier : LiveFrontierOwner)
    (observerProgress : DeliverySeq) : Prop :=
  ∀ debt edge, frontier.closureAccounting.state = .owed debt edge →
    commit.resultingEpisode.Reflects frontier.frontiers debt observerProgress

/-- Once the commit has been applied the member is moved, and only the comparison with the frontier is left. -/
theorem completeNonzeroAck_of_applyTo (observerProgress : DeliverySeq) {moved : LiveMember}
    (howed : frontier.closureAccounting.state = .owed debt edge) (hprior : transition.priorEpisode = some episode)
    (happly : commit.applyTo member episode = .ok (moved, commit.resultingEpisode)) :
    (transition.completeNonzeroAck frontier commit member observerProgress).2 = moved ∧
      ∀ result, (transition.completeNonzeroAck frontier commit member observerProgress).1 = .ok result ↔
        commit.Agrees frontier observerProgress ∧
          result = (.owed frontier commit.resultingEpisode, commit.outcome) := by
  simp only [ObligationDebtDispatchTransition.completeNonzeroAck, howed, hprior, happly, ok_iff, true_and]
  intro result
  constructor
  · rintro ⟨-, reconciled, hreconciled, rfl, rfl⟩
    refine ⟨fun debt' edge' howed' => ?_, rfl⟩
    obtain ⟨rfl, -⟩ := ClosureState.owed.inj (howed.symm.trans howed')
    exact reflects_of_reconcile hreconciled
  · rintro ⟨hagrees, rfl⟩
    have hreflects := hagrees debt edge howed
    exact ⟨hreflects.debt, _, reconcile_eq_self_iff.mpr hreflects, rfl, rfl⟩

theorem Moves.applyTo (h : commit.Moves member transition) : commit.applyTo member commit.beforeEpisode =
      .ok ({ member with cursor := commit.outcome.request.throughSeq }, commit.resultingEpisode) :=
  applyTo_eq_ok.mpr ⟨h.toAddresses, rfl, rfl, Or.inl ⟨rfl, h.cursor⟩⟩

/-- A commit selected on the episode completes when it agrees with the frontier. -/
theorem Moves.complete (h : commit.Moves member transition) (howed : frontier.closureAccounting.state = .owed debt edge)
    (hagrees : commit.Agrees frontier observerProgress) :
    transition.completeNonzeroAck frontier commit member observerProgress =
      (.ok (.owed frontier commit.resultingEpisode, commit.outcome),
        { member with cursor := commit.outcome.request.throughSeq }) := by
  obtain ⟨hmember, hresult⟩ := completeNonzeroAck_of_applyTo observerProgress howed h.episode h.applyTo
  exact Prod.ext ((hresult _).mpr ⟨hagrees, rfl⟩) hmember

/-- An error leaves the member alone, unless the commit has moved it and then disagrees with the frontier. -/
theorem completeNonzeroAck_unchanged_iff :
    (∀ error, (transition.completeNonzeroAck frontier commit member observerProgress).1 = .error error →
      (transition.completeNonzeroAck frontier commit member observerProgress).2 = member) ↔
    (commit.Moves member transition → commit.Agrees frontier observerProgress) := by
  constructor
  · intro hunchanged hmoves debt edge howed
    obtain ⟨hmember, hresult⟩ := completeNonzeroAck_of_applyTo observerProgress howed hmoves.episode hmoves.applyTo
    cases hfirst : (transition.completeNonzeroAck frontier commit member observerProgress).1 with
    | ok result => exact ((hresult result).mp hfirst).1 debt edge howed
    | error error =>
      have hsame := congrArg LiveMember.cursor (hmember.symm.trans (hunchanged error hfirst))
      exact absurd (hmoves.cursor.symm.trans hsame.symm) (Nat.ne_of_lt hmoves.advances)
  · intro hagrees error herror
    unfold ObligationDebtDispatchTransition.completeNonzeroAck at herror ⊢
    split
    · rfl
    · rename_i debt edge howed
      split
      · rfl
      · rename_i episode hprior
        split
        · rfl
        · rename_i moved resulting happly
          obtain ⟨haddresses, rfl, rfl, hpair⟩ := applyTo_eq_ok.mp happly
          rcases hpair with ⟨rfl, hcursor⟩ | ⟨-, -, hcursor⟩
          · have hmoves : commit.Moves member transition := ⟨haddresses, hprior, hcursor⟩
            have hdone := hmoves.complete howed (hagrees hmoves)
            unfold ObligationDebtDispatchTransition.completeNonzeroAck at hdone
            rw [hdone] at herror
            cases herror
          · rw [← hcursor]

end NonzeroParticipantAckCommit

/-- A consistent episode knows the member under its binding, at its cursor. -/
theorem participant_of_validateAggregate (h : validateAggregate member activeBindingEpoch episode = .ok ()) :
    member.conversationId = episode.conversationId ∧ activeBindingEpoch.capabilityGeneration = member.generation ∧
      episode.find? member.participantId = some ⟨member.participantId, member.cursor, .bound activeBindingEpoch⟩ := by
  simp only [validateAggregate, participant, ok_iff, Prod.exists, bind_eq_some] at h
  obtain ⟨hsame, epoch, cursor, ⟨⟨index, cursor', bound⟩, hfound, hbound⟩, hcurrent, hcursor, rfl⟩ := h
  obtain rfl : index = member.participantId := by simpa using List.find?_some hfound
  cases bound with
  | detached order => cases hbound
  | bound epoch' =>
    cases hbound
    subst hcursor
    exact ⟨hsame, hcurrent, hfound⟩

/-- What a selected commit says of its member, its request and its two episodes. -/
theorem decideNonzeroParticipantAck_eq_ok
    (h : decideNonzeroParticipantAck member binding receivingBindingEpoch request availability episode =
      .ok commit) : commit.outcome = ⟨request⟩ ∧ commit.beforeEpisode = episode ∧
      commit.resultingEpisode = episode.advance request.participantId request.throughSeq ∧
      request.throughSeq ≤ episode.candidateHighWatermark ∧ commit.Moves member ⟨some episode⟩ := by
  simp only [decideNonzeroParticipantAck, lookupBindingRequired, ok_iff, Prod.exists] at h
  obtain ⟨active, ⟨⟨hconv, hpart⟩, hgen, -⟩, _, hvalid, outcome, resulting, hacknowledged, h⟩ := h
  rcases acknowledge_eq_ok hacknowledged with
    ⟨hrefused, -⟩ | ⟨p, hfind, hbelow, hhigh, rfl, rfl⟩
  · cases outcome with
    | committed => exact absurd rfl hrefused
    | noOp | gap cursor | regression cursor => cases h
  · simp only [pure_eq_ok] at h
    subst h
    rw [(participant_of_validateAggregate hvalid).2.2, Option.some.injEq] at hfind
    subst hfind
    refine ⟨rfl, rfl, congrArg (episode.advance · request.throughSeq) hpart, hhigh, ?_⟩
    exact {
      conversation := hconv
      participant := hpart
      generation := hgen.symm
      advances := hbelow
      episode := rfl
      cursor := rfl }

/-- A commit selected on the episode of the frontier agrees with the frontier that has moved the same cursor. -/
theorem agrees_of_selected {debt : ClosureDebt} {edge : StoredEdge}
    (howed : frontier.closureAccounting.state = .owed debt edge)
    (hreflects : episode.Reflects frontier.frontiers debt observerProgress)
    (hselected : decideNonzeroParticipantAck member binding receivingBindingEpoch request availability
      episode = .ok commit)
    (hfront : frontier.applyNonzeroParticipantAckFrontier request.participantId request.throughSeq = .ok resulting) :
    resulting.closureAccounting.state = .owed debt edge ∧ commit.Agrees resulting observerProgress := by
  obtain ⟨-, -, hresulting, -, -⟩ := decideNonzeroParticipantAck_eq_ok hselected
  obtain ⟨current, accounting, hfind, hcursor, hhigh, hacct, rfl⟩ :=
    LiveFrontierOwner.applyAckFrontier_eq_ok hfront
  -- Giving up anchors leaves the debt and its edge alone.
  have hstate : accounting.state = .owed debt edge := by
    rw [(LiveFrontierOwner.accountingAfterCrossed_eq_some hacct).2, ← howed]
  refine ⟨hstate, fun debt' edge' howed' => ?_⟩
  obtain ⟨rfl, -⟩ := ClosureState.owed.inj (hstate.symm.trans howed')
  rw [hresulting]
  exact hreflects.advance hfind hcursor hhigh

end Liminal
