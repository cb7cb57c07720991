import Liminal.Client.Retry
import Liminal.Lifecycle.Selectors
import Liminal.Lifecycle.ObserverRecovery

/-!
# Answers of the server settle the request

The server's selectors and the client's correlation are written apart; here they meet. Whatever a
selector answers to the request in the slot, the live correlation applies it and empties the slot,
except an observer recovery: of its refusals the client recognises only the refusal of an epoch, in
a list of one entry.
-/

namespace Liminal.Client

open Wire Fallible RequestKey ObserverRecoveryDecision Option

variable {value : ServerValue} {request : ClientRequest} {binding : BindingState}
  {member : LiveMember} {secretProof : AttachSecretProof} {presentedIdentity : PresentedIdentity}
  {context : DetachLookupContext} {refusals : List ObserverRefusal}
  {correlation : ClientResponseCorrelation} {aggregate : ClientParticipantAggregate} {expected : ExpectedOperationState}

/-! ### What the server consults -/

inductive ServerContext
  | enrollment (phase : EnrollmentTokenPhase) (binding : BindingState)
  | credentialAttach (tokenPhase : CredentialAttachTokenPhase) (presentedIdentity : PresentedIdentity)
      (binding : BindingState) (secretProof : AttachSecretProof)
  | detach (tokenResolution : DetachTokenResolution) (presentedIdentity : PresentedIdentity)
      (cell : DetachCell) (binding : BindingState) (receivingBindingEpoch : Option BindingEpoch)
      (requestVerifier : RequestVerifier) (observerProgress : DeliverySeq)
  | leave (identity : LeavingIdentity) (binding : BindingState)
      (requestBindingEpoch : Option BindingEpoch) (secretProof : LeaveSecretProof)
  | bindingRequired (identity : PresentedIdentity) (binding : BindingState)
      (receivingBindingEpoch : Option BindingEpoch)
  | observerRecovery (maxEntries connectionConversationLimit : Nat) (trackedConversations : List ConversationId)
      (observerProgress : ConversationId → Option DeliverySeq)

def ServerContext.answer : ServerContext → ClientRequest → Option ServerValue
  | .enrollment phase binding, .enrollment request =>
    (lookupEnrollment phase binding request).response
  | .credentialAttach tokenPhase presentedIdentity binding secretProof, .credentialAttach request =>
    (lookupCredentialAttach tokenPhase presentedIdentity binding request secretProof).response
  | .detach tokenResolution presentedIdentity cell binding receivingBindingEpoch requestVerifier
      observerProgress, .detach request =>
    (lookupDetach ⟨tokenResolution, presentedIdentity, cell, binding, receivingBindingEpoch,
      request, requestVerifier, observerProgress⟩).response
  | .leave identity binding requestBindingEpoch secretProof, .leave request =>
    (lookupLeave identity binding requestBindingEpoch request secretProof).response
  | .bindingRequired identity binding receivingBindingEpoch, .participantAck request =>
    (Wire.lookupBindingRequired identity binding receivingBindingEpoch (.participantAck request)).response
  | .bindingRequired identity binding receivingBindingEpoch, .markerAck request =>
    (Wire.lookupBindingRequired identity binding receivingBindingEpoch (.markerAck request)).response
  | .bindingRequired identity binding receivingBindingEpoch, .recordAdmission request =>
    (Wire.lookupBindingRequired identity binding receivingBindingEpoch (.recordAdmission request)).response
  | .observerRecovery maxEntries connectionConversationLimit trackedConversations
      observerProgress, .observerRecovery request =>
    some (applyObserverRecovery request maxEntries connectionConversationLimit
      trackedConversations observerProgress).response
  | _, _ => none

/-- The indexes were asked for this request: a receipt was committed under its token, and the detach cell is
the one of its participant. -/
def ServerContext.Consistent : ServerContext → ClientRequest → Prop
  | .enrollment (.liveReceipt _ receipt) _, .enrollment request =>
    receipt.conversationId = request.conversationId ∧ receipt.token = request.enrollmentToken
  | .credentialAttach (.liveReceipt _ receipt) _ _ _, .credentialAttach request =>
    receipt.conversationId = request.conversationId ∧
      receipt.participantId = request.participantId ∧ receipt.token = request.attachAttemptToken
  | .detach _ _ (.pending cell) _ _ _ _, .detach request =>
    cell.participantId = request.participantId
  | .detach _ _ (.committed cell) _ _ _ _, .detach _ =>
    cell.committedBindingEpoch.capabilityGeneration = cell.requestGeneration
  | _, _ => True

/-- The list of an observer recovery passes all checks but that of its epochs, and the epochs are reached
unless there is only one. -/
def ServerContext.Settles : ServerContext → ClientRequest → Prop
  | .observerRecovery maxEntries connectionConversationLimit trackedConversations
      observerProgress, .observerRecovery request =>
    wireCount request.observerRefusals.length ≤ maxEntries ∧ (request.observerRefusals.map (·.conversationId)).Nodup ∧
      FitsConnection connectionConversationLimit trackedConversations.dedup request.observerRefusals ∧
      (EpochsReached observerProgress request.observerRefusals ∨ request.observerRefusals.length = 1)
  | _, _ => True

/-! ### Keys -/

theorem matchesRequest_of_key (hrequest : request.isObserverRecovery = false)
    (hsettlement : settlementMatchesRequest value request = none)
    (hkey : responseKey value 0 = fromRequest request 0) : matchesRequest value request = true := by
  unfold matchesRequest
  split
  · cases hrequest
  · rw [hsettlement, getD_none]
    exact decide_eq_true hkey

theorem matches_of_answer (h : some answer = some value)
    (hrequest : request.isObserverRecovery = false) (hsettlement : settlementMatchesRequest answer request = none)
    (hkey : responseKey answer 0 = fromRequest request 0) : matchesRequest value request = true := by
  obtain rfl := some.inj h
  exact matchesRequest_of_key hrequest hsettlement hkey

theorem enrollment_answer_matches {phase request} (hconsistent : (ServerContext.enrollment phase binding).Consistent
    (.enrollment request)) (h : (lookupEnrollment phase binding request).response = some value) : matchesRequest value
    (.enrollment request) = true := by
  cases phase with
  | unmapped => cases h
  | liveReceipt identity receipt =>
    obtain ⟨hconv, htoken⟩ := hconsistent
    cases identity with
    | retired tombstone =>
      exact matches_of_answer h rfl rfl rfl
    | live member =>
      have hkey : enrollBound receipt = .enrollment request := by
        rw [enrollBound, hconv, htoken]
      simp only [lookupEnrollment] at h
      split at h
      · exact matches_of_answer h rfl rfl hkey
      · exact matches_of_answer h rfl rfl hkey
  | provenance identity provenance | lifetimeMapping identity =>
    cases identity <;> exact matches_of_answer h rfl rfl rfl

theorem liveReceipt_answer_matches {request} (hconv : receipt.conversationId = request.conversationId)
    (hpart : receipt.participantId = request.participantId) (htoken : receipt.token = request.attachAttemptToken)
    (h : (lookupLiveAttachReceipt member binding request secretProof receipt).response =
      some value) : matchesRequest value (.credentialAttach request) = true := by
  unfold lookupLiveAttachReceipt at h
  split at h
  · exact matches_of_answer h rfl rfl rfl
  split at h
  · exact matches_of_answer h rfl rfl rfl
  rename_i hgen
  split at h
  · exact matches_of_answer h rfl rfl rfl
  rename_i hmarker
  -- a replayed receipt was committed for this token, generation and marker
  have hkey : attachBound receipt = .attach request.toAttachEnvelope := by
    rw [attachBound, hconv, hpart, htoken, ← not_not.mp hgen, ← not_not.mp hmarker]
  split at h
  · exact matches_of_answer h rfl rfl hkey
  · exact matches_of_answer h rfl rfl hkey

theorem presentedAttach_answer_matches {request}
    (h : (lookupPresentedAttach afterProvenance presentedIdentity request secretProof).response =
      some value) : matchesRequest value (.credentialAttach request) = true := by
  unfold lookupPresentedAttach at h
  repeat' split at h
  all_goals cases h
  all_goals exact matchesRequest_of_key rfl rfl rfl

theorem attach_answer_matches {request}
    (hconsistent : (ServerContext.credentialAttach tokenPhase presentedIdentity binding
      secretProof).Consistent (.credentialAttach request))
    (h : (lookupCredentialAttach tokenPhase presentedIdentity binding request
      secretProof).response = some value) : matchesRequest value (.credentialAttach request) = true := by
  cases tokenPhase with
  | noMatch | afterProvenance => exact presentedAttach_answer_matches h
  | liveReceipt identity receipt =>
    obtain ⟨hconv, hpart, htoken⟩ := hconsistent
    cases identity with
    | retired tombstone =>
      exact matches_of_answer h rfl rfl rfl
    | live member => exact liveReceipt_answer_matches hconv hpart htoken h
  | provenance identity provenance =>
    cases identity <;> exact matches_of_answer h rfl rfl rfl

/-- The cell answers only a request it stores, or with an echo. -/
theorem exactDetachCell_answer_matches {cell : DetachCell} {request : DetachRequest}
    (hcell : ∀ committed, cell = .committed committed →
      committed.committedBindingEpoch.capabilityGeneration = committed.requestGeneration)
    (hresult : lookupExactDetachCell member cell binding request requestVerifier
      observerProgress = some result) (h : result.response = some value) :
    matchesRequest value (.detach request) = true := by
  unfold lookupExactDetachCell at hresult
  repeat' split at hresult
  all_goals cases hresult
  all_goals cases h
  -- what is left are the stored outcomes, which were verified against the request
  all_goals try exact matchesRequest_of_key rfl rfl rfl
  · rename_i committed _ _ hverified
    refine matchesRequest_of_key rfl rfl ?_
    have hstored := verifyStoredRequest_eq_ok.mp hverified
    simp only [Prod.mk.injEq] at hstored
    simp [responseKey, responseKeyOf, committedEnvelope, CommittedDetach.outcome,
      DetachCommitted.capabilityGeneration, hcell committed rfl, hstored, fromRequest]
  · rename_i terminalized _ _ hverified
    refine matchesRequest_of_key rfl rfl ?_
    have hstored := verifyStoredRequest_eq_ok.mp hverified
    simp only [Prod.mk.injEq] at hstored
    simp [responseKey, responseKeyOf, staleAuthority, terminalizedEnvelope, TerminalizedDetach.outcome,
      hstored, fromRequest]

theorem presentedDetach_answer_matches (hcell : ∀ pending, context.cell = .pending pending →
      pending.participantId = context.request.participantId) (h : (lookupPresented context).response = some value) :
    matchesRequest value (.detach context.request) = true := by
  unfold lookupPresented lookupCurrentBinding at h
  repeat' split at h
  all_goals cases h
  all_goals try exact matchesRequest_of_key rfl rfl rfl
  rename_i pending _ hpending
  refine matchesRequest_of_key rfl rfl ?_
  simp [responseKey, responseKeyOf, inProgressEnvelope, PendingDetach.competingAttempt,
    hcell pending hpending, fromRequest]

theorem detach_answer_matches (hpending : ∀ pending, context.cell = .pending pending →
      pending.participantId = context.request.participantId)
    (hcommit : ∀ committed, context.cell = .committed committed →
      committed.committedBindingEpoch.capabilityGeneration = committed.requestGeneration)
    (h : (lookupDetach context).response = some value) : matchesRequest value (.detach context.request) = true := by
  unfold lookupDetach at h
  split at h
  · exact matches_of_answer h rfl rfl rfl
  · rename_i member hresolved
    cases hexact : lookupExactDetachCell member context.cell context.binding context.request
        context.requestVerifier context.observerProgress with
    | some result =>
      rw [hexact, getD_some] at h
      exact exactDetachCell_answer_matches hcommit hexact h
    | none =>
      rw [hexact, getD_none] at h
      exact presentedDetach_answer_matches hpending h
  · exact presentedDetach_answer_matches hpending h

theorem leave_answer_matches {request secretProof}
    (h : (lookupLeave identity binding requestBindingEpoch request secretProof).response =
      some value) : matchesRequest value (.leave request) = true := by
  cases identity with
  | absent =>
    exact matches_of_answer h rfl rfl rfl
  | live member =>
    simp only [lookupLeave] at h
    repeat' split at h
    all_goals cases h
    all_goals exact matchesRequest_of_key rfl rfl rfl
  | retired tombstone =>
    simp only [lookupLeave, lookupRetiredLeave] at h
    repeat' split at h
    all_goals cases h
    all_goals try exact matchesRequest_of_key rfl rfl rfl
    rename_i hident htoken _ hgen
    refine matchesRequest_of_key rfl rfl ?_
    obtain ⟨hconv, hpart⟩ := not_or.mp hident
    have hkey : leaveCommitted tombstone.leaveResult = .leave request.toLeaveEnvelope := by
      rw [leaveCommitted, tombstone.conversation, tombstone.participant, tombstone.token, ← not_not.mp hconv,
        ← not_not.mp hpart, ← not_not.mp htoken, ← not_not.mp hgen]
    exact hkey

theorem bindingRequired_answer_matches {request asked}
    (hasked : asked = match request with
      | .participantAck request => .participantAck request
      | .markerAck request => .markerAck request
      | .recordAdmission request => .recordAdmission request)
    (h : (Wire.lookupBindingRequired identity binding receivingBindingEpoch request).response =
      some value) : matchesRequest value asked = true := by
  subst hasked
  unfold Wire.lookupBindingRequired at h
  repeat' split at h
  all_goals cases h
  all_goals cases request <;> exact matchesRequest_of_key rfl rfl rfl

/-! ### Observer recovery -/

theorem statuses_match {validated : List (ObserverRefusal × DeliverySeq)} (h : validated.map Prod.fst = refusals) :
    observerResponseMatches (.observerRecoveryAccepted ⟨validated.map progressStatus⟩) ⟨refusals⟩ = true := by
  subst h
  simp only [observerResponseMatches, List.length_map, decide_eq_true_eq]
  refine ⟨trivial, ?_⟩
  induction validated with
  | nil => rfl
  | cons entry rest ih => simp [progressStatus] at ih ⊢; exact ih

/-- The refusal of an epoch is recognised only in a list of one entry. -/
theorem invalidEpoch_matches (h : ∃ refusal ∈ refusals,
      invalid = .conversationUnknown refusal.conversationId refusal.refusedEpoch ∨
        ∃ current, invalid = .epochAhead refusal.conversationId refusal.refusedEpoch current) :
    observerResponseMatches (.invalidObserverEpoch invalid) ⟨refusals⟩ = true ↔ refusals.length = 1 := by
  obtain ⟨refusal, hmem, hnames⟩ := h
  match refusals with
  | [] => cases hmem
  | [only] =>
    obtain rfl := List.mem_singleton.mp hmem
    rcases hnames with rfl | ⟨current, rfl⟩ <;> simp [observerResponseMatches]
  | _ :: _ :: _ => simp [observerResponseMatches]

theorem observer_answer_matches_iff (request : ObserverRecoveryHandshake) (maxEntries connectionConversationLimit : Nat)
    (trackedConversations : List ConversationId) (observerProgress : ConversationId → Option DeliverySeq) :
    observerResponseMatches (applyObserverRecovery request maxEntries connectionConversationLimit
        trackedConversations observerProgress).response request = true ↔
      (ServerContext.observerRecovery maxEntries connectionConversationLimit trackedConversations
        observerProgress).Settles (.observerRecovery request) := by
  obtain ⟨refusals⟩ := request
  simp only [applyObserverRecovery, ServerContext.Settles]
  by_cases hmany : maxEntries < wireCount refusals.length
  · rw [if_pos hmany]
    simp only [response, observerResponseMatches, Bool.false_eq_true, false_iff]
    omega
  rw [if_neg hmany]
  have hlength : wireCount refusals.length ≤ maxEntries := Nat.le_of_not_lt hmany
  cases hduplicate : duplicateConversation [] 0 refusals with
  | some invalid =>
    simp only [response, observerResponseMatches, Bool.false_eq_true, false_iff]
    rintro ⟨-, hnodup, -⟩
    rw [duplicateConversation_eq_none.mpr ⟨hnodup, by simp⟩] at hduplicate
    cases hduplicate
  | none =>
    obtain ⟨hnodup, -⟩ := duplicateConversation_eq_none.mp hduplicate
    cases hcapacity : overCapacity connectionConversationLimit trackedConversations.dedup refusals with
    | some conversationId =>
      simp only [response, observerResponseMatches, Bool.false_eq_true, false_iff]
      rintro ⟨-, -, hfits, -⟩
      rw [(overCapacity_eq_none hnodup).mpr hfits] at hcapacity
      cases hcapacity
    | none =>
      have hfits := (overCapacity_eq_none hnodup).mp hcapacity
      by_cases hreached : EpochsReached observerProgress refusals
      · obtain ⟨validated, hvalidated, hmap⟩ := validateEpochs_of_reached hreached
        rw [hvalidated]
        simp only [response, statuses_match hmap, true_iff]
        exact ⟨hlength, hnodup, hfits, .inl hreached⟩
      · obtain ⟨invalid, hinvalid, hnames⟩ := validateEpochs_of_not_reached hreached
        rw [hinvalid]
        simp only [response, invalidEpoch_matches hnames]
        exact ⟨fun hone => ⟨hlength, hnodup, hfits, .inr hone⟩, fun hall => hall.2.2.2.resolve_left hreached⟩

/-! ### The slot -/

/-- No selector answers an acknowledgement's success or a transport rejection. -/
theorem ServerContext.straysPastSlot_of_answer {context : ServerContext}
    (h : context.answer request = some value) : straysPastSlot value = false := by
  unfold ServerContext.answer at h
  split at h
  · cases hresult : lookupEnrollment _ _ _ <;> rw [hresult] at h <;> cases h <;> rfl
  · cases hresult : lookupCredentialAttach _ _ _ _ _ <;> rw [hresult] at h <;> cases h <;> rfl
  · cases hresult : lookupDetach _ <;> rw [hresult] at h <;> cases h <;> rfl
  · cases hresult : lookupLeave _ _ _ _ _ <;> rw [hresult] at h <;> cases h <;> rfl
  iterate 3
    · cases hresult : Wire.lookupBindingRequired _ _ _ _ <;> rw [hresult] at h <;> cases h <;> rfl
  · cases h
    simp only [applyObserverRecovery]
    repeat' split
    all_goals rfl
  · cases h

/-- With the live correlation, an answer is applied and empties the slot exactly if it matches. -/
theorem applied_iff_matches (hsound : aggregate.Sound) (hawaits : AwaitsAnswer aggregate expected correlation)
    (hlost : expected.lost = none) (hstray : straysPastSlot value = false) :
    (∃ successor, decideCorrelatedInbound aggregate value correlation = .applied successor value ∧
        successor.expected = none) ↔ matchesRequest value expected.request = true := by
  constructor
  · rintro ⟨successor, happlied, -⟩
    obtain ⟨-, expected', hawaits', -, -, hmatches⟩ :=
      decideCorrelatedInbound_eq_applied happlied hstray
    obtain rfl : expected' = expected :=
      some.inj (hawaits'.slot.symm.trans hawaits.slot)
    exact hmatches
  · intro hmatches
    have haccepts : aggregate.binding.acceptsRequest expected.request = true :=
      hsound.accepted expected hawaits.slot
    have hcurrent : currentAuthority aggregate correlation = true := by
      simp [currentAuthority, hawaits.slot, hawaits.issued, hawaits.number]
    obtain ⟨hack, hrejection⟩ : participantAckRequest value = none ∧ isTransportRejection value = false := by
      simpa [straysPastSlot] using hstray
    refine ⟨retireExpectedOperation aggregate value, ?_, (retireExpectedOperation_slot _ _).1⟩
    simp [decideCorrelatedInbound, decideInboundInner, hcurrent,
      ClientBindingState.isLeft_eq_false_of_acceptsRequest haccepts, hack, hrejection,
      hawaits.slot, hlost, haccepts, hmatches]

theorem answer_matches_iff {context : ServerContext} (hconsistent : context.Consistent request)
    (h : context.answer request = some value) : matchesRequest value request = true ↔ context.Settles request := by
  unfold ServerContext.answer at h
  split at h
  · exact iff_of_true (enrollment_answer_matches hconsistent h) trivial
  · exact iff_of_true (attach_answer_matches hconsistent h) trivial
  · refine iff_of_true (detach_answer_matches ?_ ?_ h) trivial
    · rintro pending rfl
      exact hconsistent
    · rintro committed rfl
      exact hconsistent
  · exact iff_of_true (leave_answer_matches h) trivial
  iterate 3
    · exact iff_of_true (bindingRequired_answer_matches rfl h) trivial
  · obtain rfl := some.inj h
    exact observer_answer_matches_iff _ _ _ _ _
  · cases h

/-! ### An answer nobody takes -/

def recoveryAsked : ClientRequest := .observerRecovery ⟨[⟨1, 4⟩, ⟨2, 7⟩]⟩

def unknowingServer : ServerContext := .observerRecovery 8 8 [] fun _ => none

def strangerServer : ServerContext := .detach .noExactMatch .absent .empty .detached none 0 0

/-- The server's refusal of the first epoch is refused by the client, and the slot keeps waiting. -/
theorem observer_refusal_never_settles : ∃ process, clientMachine.Reachable process ∧ process.root =
    .aggregate process.root.current ∧ process.root.current.expected = some ⟨recoveryAsked, true, 1, none⟩ ∧
    unknowingServer.answer recoveryAsked = some (.invalidObserverEpoch (.conversationUnknown 1 4)) ∧
    decideCorrelatedInbound process.root.current (.invalidObserverEpoch (.conversationUnknown 1 4)) ⟨1⟩ =
      .refused process.root.current (.invalidObserverEpoch (.conversationUnknown 1 4)) ⟨1⟩ .delayedResponse :=
  newProcess_reachable.exists_of_any (issue recoveryAsked 1) (by decide)

/-- A selector's answer to the request in the slot is applied and empties the slot, exactly if the request
is no observer recovery or its list passes (but for the epoch of a single entry). -/
theorem selector_answer_settles_iff {process : ClientProcess} {context : ServerContext}
    (hreachable : clientMachine.Reachable process) (hroot : process.root = .aggregate aggregate)
    (hawaits : AwaitsAnswer aggregate expected correlation) (hlost : expected.lost = none)
    (hconsistent : context.Consistent expected.request) (hanswer : context.answer expected.request = some value) :
    (∃ successor, decideCorrelatedInbound aggregate value correlation = .applied successor value ∧
        successor.expected = none) ↔ context.Settles expected.request := by
  have hsound := sound_of_reachable hreachable
  rw [hroot] at hsound
  rw [applied_iff_matches hsound hawaits hlost (ServerContext.straysPastSlot_of_answer hanswer)]
  exact answer_matches_iff hconsistent hanswer

/-- A detach of a participant the server does not know is settled. -/
theorem selector_answer_settles_iff_detach : ∃ process, clientMachine.Reachable process ∧
    ∃ successor, decideCorrelatedInbound process.root.current (.participantUnknown ⟨.detach ⟨1, 0, 1, 13⟩⟩) ⟨2⟩ =
      .applied successor (.participantUnknown ⟨.detach ⟨1, 0, 1, 13⟩⟩) ∧ successor.expected = none := by
  obtain ⟨process, hrun, hroot, hslot⟩ : ∃ process, clientMachine.run newProcess (enrolledAndIssued detachAsked) =
      some process ∧ process.root = .aggregate process.root.current ∧ process.root.current.expected = some ⟨detachAsked,
      true, 2, none⟩ :=
    exists_of_any (by decide)
  have hreachable := newProcess_reachable.run hrun
  refine ⟨process, hreachable, ?_⟩
  have hanswer : strangerServer.answer detachAsked = some (.participantUnknown ⟨.detach ⟨1, 0, 1, 13⟩⟩) := rfl
  have hconsistent : strangerServer.Consistent detachAsked := trivial
  have hsettles : strangerServer.Settles detachAsked := trivial
  exact (selector_answer_settles_iff hreachable hroot ⟨hslot, rfl, rfl⟩ rfl hconsistent hanswer).mpr hsettles

end Liminal.Client
