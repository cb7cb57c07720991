import Liminal.Library.Service
import Liminal.Lifecycle.Lookup
import Liminal.Lifecycle.ObligationDispatch

/-!
# Acknowledgements in debt

A selected acknowledgement moves a member and an episode that are stored apart. Applying it again
after a crash finds both old or both moved, and refuses everything else. The selection answers like
the one without debt, as long as the episode knows of the record that is acknowledged.
-/

namespace Liminal

open Fallible NonzeroDebtCursorEpisode

variable {binding : BindingState} {receivingBindingEpoch : BindingEpoch} {request : ParticipantAck}
  {availability : AckAvailability} {member : LiveMember} {episode : NonzeroDebtCursorEpisode}
  {commit : NonzeroParticipantAckCommit}

namespace AckInDebt

/-! A participant just enrolled, and an episode built when three records were known. -/

def active : ActiveBinding := ⟨0, 0, ⟨⟨0, 0⟩, 1⟩⟩

def identity : PresentedIdentity := .live (.fromEnrollment 0 0)

def built : Except CursorEpisodeBuildError NonzeroDebtCursorEpisode :=
  new 0 ⟨⟨1, 0⟩, rfl⟩ 0 3 0 1 [⟨0, active.bindingEpoch, 0⟩]

def selected : Option NonzeroParticipantAckCommit := do
  (decideNonzeroParticipantAck (.fromEnrollment 0 0) (.bound active) active.bindingEpoch ⟨0, 0, 1, 2⟩ (.contiguous 3)
    (← built.toOption)).toOption

end AckInDebt

open AckInDebt

/-! ### Applied in place -/

namespace NonzeroParticipantAckCommit

/-- The checks of `applyTo` come before the first write; the member is written before the episode. -/
def applyInPlace (commit : NonzeroParticipantAckCommit) :
    Service (LiveMember × NonzeroDebtCursorEpisode) NonzeroParticipantAckCommitError Wire.AckCommitted := do
  let (member, episode) ← get
  let (moved, resulting) ← ofExcept (commit.applyTo member episode)
  set (moved, episode)
  set (moved, resulting)
  return commit.outcome

theorem exec_applyInPlace : commit.applyInPlace.exec (member, episode) = match commit.applyTo member episode with
      | .ok pair => (.ok commit.outcome, pair)
      | .error error => (.error error, member, episode) := by
  rw [applyInPlace, Service.exec_bind]
  show Service.exec (ofExcept (commit.applyTo member episode) >>= _) _ = _
  rw [Service.exec_bind]
  cases commit.applyTo member episode <;> rfl

section

variable (commit : NonzeroParticipantAckCommit) (pair : LiveMember × NonzeroDebtCursorEpisode)

/-- The member and the episode the commit was selected on. -/
def IsOld : Prop :=
  commit.Addresses pair.1 ∧ pair.1.cursor = commit.fromCursor ∧ pair.2 = commit.beforeEpisode

def IsResulting : Prop :=
  commit.Addresses pair.1 ∧ pair.1.cursor = commit.outcome.request.throughSeq ∧ pair.2 = commit.resultingEpisode

end

/-- The cursor of the participant tells the two episodes of a selected commit apart. -/
theorem resultingEpisode_ne_of_selected
    (h : decideNonzeroParticipantAck member binding receivingBindingEpoch request availability episode = .ok commit) :
    commit.resultingEpisode ≠ commit.beforeEpisode := by
  obtain ⟨houtcome, rfl, hresulting, -, hmoves⟩ := decideNonzeroParticipantAck_eq_ok h
  simp only [decideNonzeroParticipantAck, ok_iff] at h
  obtain ⟨active, -, _, hvalid, -⟩ := h
  obtain ⟨-, -, hfound⟩ := participant_of_validateAggregate hvalid
  have hparticipant := hmoves.participant
  have hadvances := hmoves.advances
  rw [houtcome] at hparticipant hadvances
  intro hsame
  have hmoved : (commit.beforeEpisode.advance request.participantId request.throughSeq).find?
      member.participantId = _ := advance_find? _ _ _
  rw [← hresulting, hsame, hfound, Option.map_some, if_pos hparticipant, Option.some.injEq] at hmoved
  have hcursor := congrArg FrontierParticipant.cursor hmoved
  rw [hmoves.cursor, max_eq_right hadvances.le] at hcursor
  exact hadvances.ne hcursor

theorem IsOld.exec (h : commit.IsOld pair) : commit.applyInPlace.exec pair =
    (.ok commit.outcome, { pair.1 with cursor := commit.outcome.request.throughSeq }, commit.resultingEpisode) := by
  obtain ⟨current, _⟩ := pair
  obtain ⟨haddresses, hcursor, rfl⟩ := h
  rw [exec_applyInPlace, applyTo_eq_ok.mpr ⟨haddresses, rfl, rfl, Or.inl ⟨rfl, hcursor⟩⟩]

theorem IsResulting.exec (hne : commit.resultingEpisode ≠ commit.beforeEpisode) (h : commit.IsResulting pair) :
    commit.applyInPlace.exec pair = (.ok commit.outcome, pair) := by
  obtain ⟨current, _⟩ := pair
  obtain ⟨haddresses, hcursor, rfl⟩ := h
  rw [exec_applyInPlace, applyTo_eq_ok.mpr ⟨haddresses, rfl, rfl, Or.inr ⟨hne, rfl, hcursor⟩⟩]
  simp only [← hcursor]

/-- Any other pair, one with a half already moved among them, is left as it is. -/
theorem exec_of_neither (hold : ¬commit.IsOld pair) (hresulting : ¬commit.IsResulting pair) :
    ∃ error, commit.applyInPlace.exec pair = (.error error, pair) := by
  obtain ⟨current, kept⟩ := pair
  rw [exec_applyInPlace]
  cases happly : commit.applyTo current kept with
  | error error => exact ⟨error, rfl⟩
  | ok pair =>
    obtain ⟨haddresses, -, -, ⟨hepisode, hcursor⟩ | ⟨-, hepisode, hcursor⟩⟩ := applyTo_eq_ok.mp happly
    · exact absurd ⟨haddresses, hcursor, hepisode⟩ hold
    · exact absurd ⟨haddresses, hcursor, hepisode⟩ hresulting

/-- After a crash a selected commit is applied again, whatever had been stored of it. -/
theorem applyInPlace_crash_idempotent
    (h : decideNonzeroParticipantAck member binding receivingBindingEpoch request availability episode = .ok commit) :
    (∀ pair, commit.IsOld pair → commit.applyInPlace.exec pair =
      (.ok commit.outcome, { pair.1 with cursor := commit.outcome.request.throughSeq }, commit.resultingEpisode)) ∧
    (∀ pair, commit.IsResulting pair → commit.applyInPlace.exec pair = (.ok commit.outcome, pair)) ∧
    (∀ pair, ¬commit.IsOld pair → ¬commit.IsResulting pair →
      ∃ error, commit.applyInPlace.exec pair = (.error error, pair)) ∧
    ∀ pair, commit.applyInPlace.exec (commit.applyInPlace.exec pair).2 = commit.applyInPlace.exec pair := by
  have hne := resultingEpisode_ne_of_selected h
  refine ⟨fun _ => IsOld.exec, fun _ => IsResulting.exec hne, fun _ => exec_of_neither, fun pair => ?_⟩
  by_cases hold : commit.IsOld pair
  · rw [hold.exec]
    exact IsResulting.exec hne ⟨{ hold.1 with }, rfl, rfl⟩
  · by_cases hresulting : commit.IsResulting pair
    · rw [hresulting.exec hne, hresulting.exec hne]
    · obtain ⟨error, herror⟩ := exec_of_neither hold hresulting
      rw [herror, herror]

theorem applyInPlace_crash_idempotent_built : ∃ commit, selected = some commit ∧
    ∀ pair, commit.applyInPlace.exec (commit.applyInPlace.exec pair).2 = commit.applyInPlace.exec pair := by
  obtain ⟨commit, hcommit⟩ := Option.isSome_iff_exists.mp (show selected.isSome from rfl)
  refine ⟨commit, hcommit, ?_⟩
  simp only [selected, some_iff] at hcommit
  obtain ⟨episode, -, hselected⟩ := hcommit
  exact (applyInPlace_crash_idempotent hselected).2.2.2

end NonzeroParticipantAckCommit

/-! ### With and without debt -/

/-- The class of an answer, or where a commit takes the cursor. -/
inductive ParticipantAckOutcome
  | retired
  | participantUnknown
  | staleAuthority
  | noBinding
  | ackRegression
  | ackNoOp
  | ackGap
  | committed (resultingCursor : DeliverySeq)
  | invariant
deriving DecidableEq

/-- A selector behind the lookup of the presented identity. -/
def PresentedIdentity.ackOutcome (identity : PresentedIdentity)
    (select : LiveMember → Except ParticipantAckRefusal ParticipantAckCommit) : ParticipantAckOutcome :=
  match identity with
  | .retired _ => .retired
  | .absent => .participantUnknown
  | .live member =>
    match select member with
    | .ok commit => .committed commit.cursorUpdate.resultingCursor
    | .error (.lookup .participantUnknown) => .participantUnknown
    | .error (.lookup (.staleAuthority _)) => .staleAuthority
    | .error (.lookup .noBinding) => .noBinding
    | .error (.ackRegression _) => .ackRegression
    | .error .ackNoOp => .ackNoOp
    | .error (.ackGap _) => .ackGap
    | .error (.obligationContext _) | .error (.invariant _) => .invariant

/-- Debt changes no outcome as long as the episode knows of the acknowledged obligation. -/
theorem debt_keeps_ack_outcome {identity : PresentedIdentity} {owed : RecipientAckObligations}
    (hconsistent : ∀ member active, identity = .live member → binding = .bound active →
      validateAggregate member active.bindingEpoch episode = .ok ())
    (hwithin : request.throughSeq ∈ owed.deliverySequences → request.throughSeq ≤ episode.candidateHighWatermark) :
    identity.ackOutcome
        (applyNonzeroParticipantAck · binding receivingBindingEpoch request (.obligations owed) episode) =
      identity.ackOutcome (applyParticipantAck · binding receivingBindingEpoch request (.obligations owed)) := by
  cases identity with
  | absent | retired tombstone => rfl
  | live member =>
    simp only [PresentedIdentity.ackOutcome, applyParticipantAck, applyNonzeroParticipantAck,
      decideNonzeroParticipantAck]
    cases hlookup : lookupBindingRequired member binding receivingBindingEpoch request.conversationId
        request.participantId request.capabilityGeneration with
    | error error => rfl
    | ok active =>
      have hvalid := hconsistent member active rfl (lookupBindingRequired_eq_ok hlookup)
      obtain ⟨hsame, hcurrent, hfound⟩ := participant_of_validateAggregate hvalid
      simp only [lookupBindingRequired, ok_iff] at hlookup
      obtain ⟨⟨hconversation, hparticipant⟩, hgeneration, -⟩ := hlookup
      rw [find?] at hfound
      -- What is left of both is the look at the obligations and the comparison of the positions.
      simp only [Except.mapError, bind, Except.bind, hvalid, acknowledge, hfound, orError, require,
        ← hconversation, ← hparticipant, hgeneration, hsame, hcurrent, if_true, AckAvailability.contains]
      cases hcontains : owed.containsEndpoint member.participantId member.cursor request.throughSeq with
      | error error => rfl
      | ok available =>
        simp only [RecipientAckObligations.containsEndpoint, ok_iff] at hcontains
        obtain ⟨-, -, rfl⟩ := hcontains
        rcases lt_trichotomy request.throughSeq member.cursor with hbelow | hequal | habove
        · simp [hbelow, hbelow.not_ge, pure, Except.pure]
        · simp [hequal, pure, Except.pure]
        · by_cases howed : request.throughSeq ∈ owed.deliverySequences
          · simp [howed, habove.le, habove.ne', habove.not_gt, (hwithin howed).not_gt, pure, Except.pure]
            rfl
          · simp [howed, habove.le, habove.ne', habove.not_gt, pure, Except.pure]

theorem debt_keeps_ack_outcome_built : ∃ (owed : RecipientAckObligations) (episode : NonzeroDebtCursorEpisode),
    built = .ok episode ∧ identity.ackOutcome (applyNonzeroParticipantAck · (.bound active) active.bindingEpoch
      ⟨0, 0, 1, 2⟩ (.obligations owed) episode) = .committed 2 :=
  ⟨⟨0, 0, [2], by decide, by decide⟩, _, rfl, (debt_keeps_ack_outcome (by rintro _ _ ⟨⟩ ⟨⟩; rfl) (by decide)).trans rfl⟩

/-- An endpoint that is owed but not known to the episode is committed without debt only. -/
theorem ack_outcome_differs_above_watermark : ∃ (owed : RecipientAckObligations) (episode : NonzeroDebtCursorEpisode),
    built = .ok episode ∧ validateAggregate (.fromEnrollment 0 0) active.bindingEpoch episode = .ok () ∧
      identity.ackOutcome (applyNonzeroParticipantAck · (.bound active) active.bindingEpoch ⟨0, 0, 1, 5⟩
        (.obligations owed) episode) = .ackGap ∧
      identity.ackOutcome (applyParticipantAck · (.bound active) active.bindingEpoch ⟨0, 0, 1, 5⟩
        (.obligations owed)) = .committed 5 :=
  ⟨⟨0, 0, [5], by decide, by decide⟩, _, rfl, rfl, rfl, rfl⟩

end Liminal
