import Liminal.Conversation.Invariants

/-!
# The fate token follows its member

An attach hands out the token its binding's death will be measured with. Every committed
acknowledgement then moves the member and the token, tied by their cursors only; a token that missed
a step would refuse every later one. A commit applied again, as after a crash, changes nothing
(marker) or is refused (cumulative).
-/

namespace Liminal

open Fallible Conversation SealedBindingFateToken LiveMember Option

variable {member member' : LiveMember} {binding : ActiveBinding} {request : AckRequest}
  {commit : AckCommit} {token : SealedBindingFateToken}

/-! ### Acknowledgements of one binding -/

inductive AckRequest
  | participant (request : ParticipantAck) (receivingBindingEpoch : BindingEpoch) (availability : AckAvailability)
  | nonzero (request : ParticipantAck) (receivingBindingEpoch : BindingEpoch)
      (availability : AckAvailability) (episode : NonzeroDebtCursorEpisode)
  | marker (request : MarkerAck) (receivingBindingEpoch : BindingEpoch) (markerState : MarkerProofState)

inductive AckCommit
  | participant (commit : ParticipantAckCommit)
  | marker (commit : MarkerAckCommit)

namespace AckCommit

def cursorUpdate : AckCommit → LiveMemberCursorUpdate
  | .participant commit | .marker commit => commit.cursorUpdate

def progressBindingFateToken : AckCommit → SealedBindingFateToken → Option SealedBindingFateToken
  | .participant commit | .marker commit => commit.progressBindingFateToken

/-- What the token makes of a commit it has already consumed. -/
def replayed : AckCommit → SealedBindingFateToken → Option SealedBindingFateToken
  | .participant _, _ => none
  | .marker _, token => some token

end AckCommit

def AckRequest.select (member : LiveMember) (binding : BindingState) : AckRequest → Option AckCommit
  | .participant request epoch availability =>
    (applyParticipantAck member binding epoch request availability).toOption.map .participant
  | .nonzero request epoch availability episode =>
    (applyNonzeroParticipantAck member binding epoch request availability episode).toOption.map .participant
  | .marker request epoch markerState =>
    (applyMarkerAck member binding epoch request markerState).toOption.map .marker

def acknowledge (binding : ActiveBinding) (member : LiveMember) (request : AckRequest) :
    Option (LiveMember × AckCommit) := do
  let commit ← request.select member (.bound binding)
  let member ← (member.applyCursorUpdate commit.cursorUpdate).toOption
  return (member, commit)

/-- A run of committed acknowledgements, live or selected again from the log. -/
def acknowledgeAll (binding : ActiveBinding) (member : LiveMember) :
    List AckRequest → Option (LiveMember × List AckCommit)
  | [] => some (member, [])
  | request :: rest => do
    let (member, commit) ← acknowledge binding member request
    let (member, commits) ← acknowledgeAll binding member rest
    return (member, commit :: commits)

def progressAll (token : SealedBindingFateToken) (commits : List AckCommit) : Option SealedBindingFateToken :=
  commits.foldlM (fun token commit => commit.progressBindingFateToken token) token

/-! ### One step -/

/-- A committed acknowledgement starts at the member's cursor and comes through its binding. -/
structure AckCommit.Through (commit : AckCommit) (binding : ActiveBinding) (member : LiveMember) : Prop where
  conversation : commit.cursorUpdate.conversationId = binding.conversationId
  participant : commit.cursorUpdate.participantId = binding.participantId
  fromCursor : commit.cursorUpdate.fromCursor = member.cursor
  epoch : match commit with
    | .participant commit => commit.bindingEpoch = binding.bindingEpoch
    | .marker commit => commit.proofBindingEpoch = binding.bindingEpoch

theorem lookupBindingRequired_bound {epoch conversationId participantId generation}
    (h : lookupBindingRequired member (.bound binding) epoch conversationId participantId generation = .ok active) :
    active = binding ∧ epoch = binding.bindingEpoch ∧ conversationId = binding.conversationId ∧
      participantId = binding.participantId := by
  simp only [lookupBindingRequired, ok_iff] at h
  obtain ⟨⟨hconv, hpart⟩, -, ⟨hsame, hid, -, hepoch⟩, rfl⟩ := h
  exact ⟨rfl, hepoch, hconv.symm.trans hsame.symm, hpart.symm.trans hid.symm⟩

theorem AckRequest.select_through (h : request.select member (.bound binding) = some commit) :
    commit.Through binding member := by
  cases request with
  | participant request epoch availability =>
    simp only [select, applyParticipantAck, map_eq_some_iff, toOption_eq_some, ok_iff] at h
    obtain ⟨_, ⟨active, hactive, _, -, -, -, -, rfl⟩, rfl⟩ := h
    obtain ⟨-, hepoch, hconv, hpart⟩ := lookupBindingRequired_bound hactive
    exact ⟨hconv, hpart, rfl, hepoch⟩
  | nonzero request epoch availability episode =>
    simp only [select, applyNonzeroParticipantAck, decideNonzeroParticipantAck, map_eq_some_iff, toOption_eq_some,
      ok_iff, Prod.exists] at h
    obtain ⟨_, ⟨_, ⟨active, hactive, _, -, outcome, _, -, houtcome⟩, rfl⟩, rfl⟩ := h
    obtain ⟨rfl, -, hconv, hpart⟩ := lookupBindingRequired_bound hactive
    cases outcome with
    | committed =>
      simp only [pure_eq_ok] at houtcome
      subst houtcome
      exact ⟨hconv, hpart, rfl, rfl⟩
    | noOp | gap cursor | regression cursor => cases houtcome
  | marker request epoch markerState =>
    simp only [select, applyMarkerAck, map_eq_some_iff, toOption_eq_some, ok_iff] at h
    obtain ⟨_, ⟨active, hactive, _, -, rfl⟩, rfl⟩ := h
    obtain ⟨rfl, -, hconv, hpart⟩ := lookupBindingRequired_bound hactive
    exact ⟨hconv, hpart, rfl, rfl⟩

namespace SealedBindingFateToken

variable {cursor throughSeq : DeliverySeq}

def InStep (token : SealedBindingFateToken) (binding : ActiveBinding) (cursor : DeliverySeq) : Prop :=
  token.measurementContext = some ⟨binding.conversationId, binding.participantId, binding.bindingEpoch, cursor⟩

theorem InStep.cursor_eq (h : token.InStep binding cursor) : token.cursor = cursor := by
  simp only [InStep, measurementContext] at h
  split at h
  · split at h
    · simp only [some.injEq, BindingFateMeasurementContext.mk.injEq] at h
      exact h.2.2.2
    · cases h
  · simp only [some.injEq, BindingFateMeasurementContext.mk.injEq] at h
    exact h.2.2.2
  · cases h

theorem InStep.participantAckProgressed (h : token.InStep binding cursor) (hlt : cursor < throughSeq) :
    ∃ token', token.participantAckProgressed binding.conversationId binding.participantId
      binding.bindingEpoch cursor throughSeq = some token' ∧ token'.InStep binding throughSeq := by
  have hcursor := h.cursor_eq
  have hnot : ¬(cursor ≠ token.cursor ∨ throughSeq ≤ cursor) := by
    rintro (hne | hle)
    · exact hne hcursor.symm
    · exact absurd hlt (Nat.not_lt.mpr hle)
  simp only [SealedBindingFateToken.participantAckProgressed, if_neg hnot]
  simp only [InStep, measurementContext] at h
  split at h
  · rename_i authority hordinary hrecov
    split at h
    · rename_i hthrough
      simp only [some.injEq, BindingFateMeasurementContext.mk.injEq] at h
      obtain ⟨hconv, hpart, hepoch, -⟩ := h
      have hmatch : binding.conversationId = authority.binding.conversationId ∧ binding.participantId =
          authority.binding.participantId ∧ binding.bindingEpoch = authority.binding.bindingEpoch ∧ cursor =
          authority.throughSeq ∧ cursor < throughSeq :=
        ⟨hconv.symm, hpart.symm, hepoch.symm, hcursor.symm.trans hthrough.symm, hlt⟩
      simp only [hrecov, OrdinaryBindingAuthority.participantAckProgressed, if_pos hmatch, map_some]
      simp [InStep, measurementContext, hconv, hpart, hepoch]
    · cases h
  · rename_i proof hordinary hrecov
    simp only [some.injEq, BindingFateMeasurementContext.mk.injEq] at h
    obtain ⟨hconv, hpart, hepoch, -⟩ := h
    simp only [hordinary, hrecov, hconv, hpart, hepoch, and_self, if_true]
    simp [InStep, measurementContext, hconv, hpart, hepoch]
  · cases h

end SealedBindingFateToken

/-- One committed acknowledgement moves the token to the member's new cursor, and moves it once. -/
theorem acknowledge_inStep (hstep : token.InStep binding member.cursor)
    (h : acknowledge binding member request = some (member', commit)) :
    ∃ token', commit.progressBindingFateToken token = some token' ∧ token'.InStep binding member'.cursor ∧
      commit.progressBindingFateToken token' = commit.replayed token' := by
  simp only [acknowledge, some_iff, Prod.mk.injEq] at h
  obtain ⟨selected, hselected, updated, hupdated, rfl, rfl⟩ := h
  obtain ⟨hconv, hpart, hfrom, hepoch⟩ := AckRequest.select_through hselected
  obtain ⟨rfl, hlt, -⟩ := applyCursorUpdate_eq_ok hupdated
  have hadvances : member.cursor < selected.cursorUpdate.resultingCursor := hfrom ▸ hlt
  obtain ⟨token', hprogress, hnext⟩ := hstep.participantAckProgressed hadvances
  have hmoved := hnext.cursor_eq
  refine ⟨token', ?_, hnext, ?_⟩
  · cases selected with
    | participant commit =>
      simp only [AckCommit.cursorUpdate] at hconv hpart hfrom hprogress
      simp only [AckCommit.progressBindingFateToken, ParticipantAckCommit.progressBindingFateToken,
        hconv, hpart, hfrom, show commit.bindingEpoch = _ from hepoch, hprogress]
    | marker commit =>
      simp only [AckCommit.cursorUpdate] at hconv hpart hfrom hprogress hadvances
      have hbehind : ¬(token.cursor = commit.cursorUpdate.resultingCursor ∧
          member.cursor < commit.cursorUpdate.resultingCursor) := by
        rintro ⟨hsame, hlt⟩
        rw [← hsame, hstep.cursor_eq] at hlt
        exact lt_irrefl _ hlt
      simp only [AckCommit.progressBindingFateToken, MarkerAckCommit.progressBindingFateToken,
        markerAckProgressed, hconv, hpart, hfrom,
        show commit.proofBindingEpoch = _ from hepoch, if_neg hbehind, hprogress]
  · cases selected with
    | participant commit =>
      simp only [AckCommit.cursorUpdate] at hfrom hadvances hmoved
      -- an acknowledgement below the token's cursor is refused, so it never counts twice
      refine if_pos (.inl ?_)
      rw [hfrom, hmoved]
      exact ne_of_lt hadvances
    | marker commit =>
      exact if_pos ⟨hmoved, hfrom ▸ hadvances⟩

/-! ### A run -/

theorem acknowledgeAll_inStep {commits : List AckCommit} (hstep : token.InStep binding member.cursor)
    (h : acknowledgeAll binding member requests = some (member', commits)) :
    ∃ token', progressAll token commits = some token' ∧ token'.InStep binding member'.cursor ∧
      ∀ last ∈ commits.getLast?, last.progressBindingFateToken token' = last.replayed token' := by
  -- The token after the first commit is in step with the member after it, whatever came before.
  induction requests generalizing member token commits with
  | nil =>
    cases h
    exact ⟨token, rfl, hstep, by simp⟩
  | cons request rest ih =>
    simp only [acknowledgeAll, some_iff, Prod.exists, Prod.mk.injEq] at h
    obtain ⟨middle, commit, hfirst, last, later, hrest, rfl, rfl⟩ := h
    obtain ⟨moved, hmoved, hinStep, hreplayed⟩ := acknowledge_inStep hstep hfirst
    obtain ⟨token', hall, hfinal, hlast⟩ := ih hinStep hrest
    refine ⟨token', ?_, hfinal, ?_⟩
    · rw [progressAll, List.foldlM_cons, hmoved]
      exact hall
    · cases later with
      | nil =>
        cases hall
        intro final hmem
        cases hmem
        exact hreplayed
      | cons second others => simpa using hlast

def AttachVerified (member : LiveMember) (parameters : AttachCommitParameters) (mode : AttachMode) : Prop :=
  (∃ bindingState closureState request secretProof,
    member.verifyDetachedAttach bindingState closureState request secretProof parameters = .ok mode) ∨
  (∃ activeBinding request secretProof terminalOrder terminalSeq,
    member.verifySupersedingAttach activeBinding request secretProof terminalOrder terminalSeq parameters = .ok mode) ∨
  ∃ bindingState request secretProof proof pendingTerminalDeliverySeq,
    member.verifyFencedAttach bindingState request secretProof proof pendingTerminalDeliverySeq parameters = .ok mode

def AttachMode.OfConversation (mode : AttachMode) (conversationId : ConversationId) : Prop :=
  match mode with
  | .fenced proof _ => proof.conversationId = conversationId
  | _ => True

theorem commitAttach_inStep {mode cell commit} (hverified : AttachVerified member parameters mode)
    (hproof : mode.OfConversation member.conversationId) (h : commitAttach member parameters mode cell = .ok commit) :
    commit.token.InStep commit.binding commit.member.cursor := by
  obtain ⟨hmember, hbinding, -, -, htoken⟩ := commitAttach_eq_ok h
  rw [hmember, hbinding, htoken]
  cases mode with
  | detached | superseded terminal => simp [InStep, measurementContext, attachParts]
  | fenced proof pending =>
    have hfenced : proof.participantId = parameters.binding.participantId ∧ proof.newBindingEpoch =
        parameters.binding.bindingEpoch ∧ member.conversationId = parameters.binding.conversationId := by
      rcases hverified with ⟨_, _, _, _, h⟩ | ⟨_, _, _, _, _, h⟩ | ⟨_, _, _, fenced, _, h⟩
      · simp only [verifyDetachedAttach, ok_iff, reduceCtorEq, and_false] at h
      · simp only [verifySupersedingAttach, ok_iff, reduceCtorEq, and_false] at h
      · simp only [verifyFencedAttach, verifyAttachCommon, ok_iff, AttachMode.fenced.injEq] at h
        obtain ⟨⟨-, -, -, -, ⟨hconv, hpart⟩, -⟩, -, ⟨hid, -, hepoch⟩, _, -, rfl, -⟩ := h
        exact ⟨hid.trans hpart.symm, hepoch, hconv.symm⟩
    obtain ⟨hid, hepoch, hconv⟩ := hfenced
    have hsame : proof.conversationId = parameters.binding.conversationId := Eq.trans hproof hconv
    simp [InStep, measurementContext, attachParts, hid, hepoch, hsame]

/-- After any acknowledgements under an attached binding the token measures it at the member's cursor; the
last of them, applied once more, is refused or changes nothing. -/
theorem fate_token_in_step {parameters : AttachCommitParameters} {mode : AttachMode} {cell : DetachCell}
    {commit : AttachCommit} {requests : List AckRequest} {commits : List AckCommit}
    (hverified : AttachVerified member parameters mode) (hproof : mode.OfConversation member.conversationId)
    (hattach : commitAttach member parameters mode cell = .ok commit)
    (hacks : acknowledgeAll commit.binding commit.member requests = some (member', commits)) :
    ∃ token, progressAll commit.token commits = some token ∧ token.cursor = member'.cursor ∧
      token.measurementContext = some ⟨commit.binding.conversationId, commit.binding.participantId,
        commit.binding.bindingEpoch, member'.cursor⟩ ∧
      ∀ last ∈ commits.getLast?, last.progressBindingFateToken token = last.replayed token := by
  obtain ⟨token, hall, hstep, hlast⟩ :=
    acknowledgeAll_inStep (commitAttach_inStep hverified hproof hattach) hacks
  exact ⟨token, hall, hstep.cursor_eq, hstep, hlast⟩

/-- A member that died in its first generation comes back in its second, at marker 3. -/
def diedOnce : LiveMember :=
  ⟨0, 0, 1, 0, some (.died ⟨⟨0, 0, ⟨⟨0, 0⟩, 1⟩, .bindingTerminal 1 0⟩, .connectionLost, 2⟩)⟩

def comingBack : AttachCommitParameters := ⟨⟨0, 0, ⟨⟨0, 1⟩, 2⟩⟩, 4, 4⟩

def recoveryProof (conversationId : ConversationId) : FencedAttachCommit :=
  ⟨conversationId, 0, 3, ⟨⟨0, 0⟩, 1⟩, ⟨⟨0, 1⟩, 2⟩, .clear⟩

/-- The conversation of the proof is not looked at. -/
theorem recoveryProof_verified (conversationId : ConversationId) :
    AttachVerified diedOnce comingBack (.fenced (recoveryProof conversationId) none) :=
  .inr (.inr ⟨.detached, ⟨0, 0, 1, some 3⟩, .verified, recoveryProof conversationId, none, rfl⟩)

/-- A cumulative acknowledgement through 5, and that of a marker at 6. -/
def acksComingBack : List AckRequest :=
  [.participant ⟨0, 0, 2, 5⟩ ⟨⟨0, 1⟩, 2⟩ (.contiguous 5),
    .marker ⟨0, 0, 2, 6⟩ ⟨⟨0, 1⟩, 2⟩ ⟨false, some 6, some (.marker 0 0 ⟨⟨0, 1⟩, 2⟩ 6 6)⟩]

theorem fate_token_in_step_recovered : ∃ commit member' commits,
    commitAttach diedOnce comingBack (.fenced (recoveryProof 0) none) .empty = .ok commit ∧
    acknowledgeAll commit.binding commit.member acksComingBack = some (member', commits) ∧ member'.cursor = 6 ∧
    ∃ token, progressAll commit.token commits = some token ∧ token.cursor = member'.cursor := by
  obtain ⟨commit, hattach⟩ : ∃ commit,
      commitAttach diedOnce comingBack (.fenced (recoveryProof 0) none) .empty = .ok commit := ⟨_, rfl⟩
  obtain ⟨result, hacks, hcursor⟩ : ∃ result,
      acknowledgeAll commit.binding commit.member acksComingBack = some result ∧ result.1.cursor = 6 := by
    cases hattach
    exact exists_of_any (by decide)
  obtain ⟨token, hall, htoken, -⟩ := fate_token_in_step (recoveryProof_verified 0) rfl hattach hacks
  exact ⟨commit, _, _, hattach, hacks, hcursor, token, hall, htoken⟩

/-- The binding of an enrollment has no token: its death is committed, and no fate is ever measured for it. A fenced
attach with another conversation's proof has a token that refuses the first acknowledgement. -/
theorem enrollment_fate_not_measurable : (∃ s, unitRun ⟨100, 100⟩ 1 50
      [.endBinding 0 (.died .connectionLost) 1 2 0 (unitCharge 2 ⟨1, .bindingTerminal, 0⟩)] =
        some s ∧ conversationMachine.Reachable s ∧
    (∃ slot ∈ s.slot? 0, slot.fateToken = none ∧ slot.member.latestTerminal =
      some (.died ⟨⟨0, 0, unitEpoch 0 1, .bindingTerminal 1 0⟩, .connectionLost, 2⟩)) ∧
    ∀ kind observer, s.bindingFate 0 kind observer = none) ∧
    AttachVerified diedOnce comingBack (.fenced (recoveryProof 7) none) ∧ ∃ commit result,
      commitAttach diedOnce comingBack (.fenced (recoveryProof 7) none) .empty = .ok commit ∧
      acknowledgeAll commit.binding commit.member acksComingBack = some result ∧
      progressAll commit.token result.2 = none := by
  constructor
  · refine (exists_of_any ?_).imp fun s hs => ⟨hs.1, unitRun_reachable hs.1, hs.2, fun kind observer => ?_⟩
    · decide
    · obtain ⟨-, slot, hfound, hnone, -⟩ := hs
      simp only [bindingFate, show s.slot? 0 = some slot from hfound, hnone, bind_eq_bind, bind_some, bind_none]
  · obtain ⟨commit, hattach⟩ : ∃ commit,
        commitAttach diedOnce comingBack (.fenced (recoveryProof 7) none) .empty = .ok commit := ⟨_, rfl⟩
    refine ⟨recoveryProof_verified 7, commit, ?_⟩
    obtain ⟨result, hacks, hrefused⟩ : ∃ result, acknowledgeAll commit.binding commit.member acksComingBack =
        some result ∧ progressAll commit.token result.2 = none := by
      cases hattach
      exact exists_of_any (by decide)
    exact ⟨result, hattach, hacks, hrefused⟩

end Liminal
