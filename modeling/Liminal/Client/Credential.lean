import Liminal.Client.Soundness

/-!
# The credential of a client

No adoption site compares an answer with the binding it replaces. That the identity stays and the
generation moves by one rests on a chain: the binding accepted the request in the slot, the answer
echoes that request, and a receipt grants the successor of the generation asked with.
`CredentialChange` lists what an answer can do.
-/

namespace Liminal.Client

open Wire Fallible ClientBindingState RequestKey ClientProcess

variable {request : ClientRequest} {process process' later : ClientProcess} {action : ClientAction}
  {actions : List ClientAction} {aggregate : ClientParticipantAggregate} {value : ServerValue}

def ClientProcess.binding (process : ClientProcess) : ClientBindingState :=
  process.root.current.binding

/-! ### The request behind an answer -/

/-- The identity a request names; an enrollment and an observer recovery name none. -/
def requestIdentity : ClientRequest → Option (ConversationId × ParticipantId)
  | .enrollment _ => none
  | .credentialAttach request | .detach request | .participantAck request | .leave request | .markerAck request
  | .recordAdmission request => some (request.conversationId, request.participantId)
  | .observerRecovery _ => none

theorem identity_of_acceptsRequest {binding : ClientBindingState} {identity}
    (haccepts : binding.acceptsRequest request = true) (hident : requestIdentity request = some identity) :
    binding.identity = none ∨ binding.identity = some identity := by
  cases binding <;> cases request <;>
    simp_all [acceptsRequest, isLeft, matchesCredential, matchesIdentity, ClientBindingState.identity, requestIdentity]

/-- Outside the two families without an envelope, an answer matches by its key. -/
theorem key_of_matchesRequest (h : matchesRequest value request = true)
    (hsettlement : settlementMatchesRequest value request = none) (hobs : ∀ handshake,
    observerResponseMatches value handshake = false) : responseKey value 0 = fromRequest request 0 := by
  unfold matchesRequest at h
  split at h
  · rename_i handshake
    rw [hobs handshake] at h
    cases h
  · rw [hsettlement, Option.getD_none] at h
    exact of_decide_eq_true h

namespace RequestKey

theorem fromRequest_eq_enrollment
    (h : enrollment envelope = fromRequest request 0) : request = .enrollment envelope := by
  cases request <;> simp_all [fromRequest]

theorem fromRequest_eq_attach (h : attach envelope = fromRequest request 0) :
    ∃ value, request = .credentialAttach value ∧ value.toAttachEnvelope = envelope := by
  cases request <;> simp_all [fromRequest]

theorem fromRequest_eq_detach (h : detach envelope = fromRequest request 0) : request = .detach envelope := by
  cases request <;> simp_all [fromRequest]

theorem fromRequest_eq_leave (h : leave envelope = fromRequest request 0) :
    ∃ value, request = .leave value ∧ value.toLeaveEnvelope = envelope := by
  cases request <;> simp_all [fromRequest]

theorem requestIdentity_of_participantReference (h : participantReference reference = fromRequest request 0) :
    requestIdentity request = some (referencedIdentity reference) := by
  cases reference <;> cases request <;>
    simp_all [participantReference, responseEnvelope, ParticipantReferenceEnvelope.toResponse, fromRequest,
      requestIdentity, referencedIdentity]

end RequestKey

/-! ### What an answer does to the binding -/

def attachReceipt : ServerValue → Option AttachBound
  | .attachBound receipt | .bound (.credentialAttach receipt) | .unboundReceipt (.credentialAttach receipt) =>
    some receipt
  | _ => none

def endsMembership : ServerValue → Bool
  | .leaveCommitted _ | .retired _ => true
  | _ => false

inductive CredentialChange (binding : ClientBindingState) (value : ServerValue) : ClientBindingState → Prop
  | kept : CredentialChange binding value binding
  | first {binding'} (hunbound : binding = .unbound)
      (hleft : binding'.isLeft = false) : CredentialChange binding value binding'
  | rotated {binding'} (receipt : AttachBound) (hreceipt : attachReceipt value = some receipt)
      (hident : binding'.identity = binding.identity) (hgeneration : binding.generation =
      some receipt.requestGeneration) (hgeneration' : binding'.generation = some receipt.capabilityGeneration)
      (hsecret : binding'.retainedSecret = some receipt.attachSecret) : CredentialChange binding value binding'
  | detached {binding'} (hident : binding'.identity = binding.identity) (hgeneration : binding'.generation =
      binding.generation) (hsecret : binding'.retainedSecret = binding.retainedSecret) :
      CredentialChange binding value binding'
  | ended {binding'} (hvalue : endsMembership value = true) (hident : binding.identity = none ∨ binding'.identity =
      binding.identity) (hleft : binding'.isLeft = true) : CredentialChange binding value binding'

/-- An accepted attach answered by its receipt is the first identity or the next generation of the same one. -/
theorem CredentialChange.of_attach {binding binding' : ClientBindingState}
    (receipt : AttachBound) (hreceipt : attachReceipt value = some receipt)
    (haccepts : binding.acceptsRequest request = true) (hkey : attachBound receipt = fromRequest request 0)
    (hident : binding'.identity = some (receipt.conversationId, receipt.participantId))
    (hgeneration : binding'.generation = some receipt.capabilityGeneration)
    (hsecret : binding'.retainedSecret = some receipt.attachSecret) : CredentialChange binding value binding' := by
  obtain ⟨attach, rfl, henvelope⟩ := fromRequest_eq_attach hkey
  have hconv : attach.conversationId = receipt.conversationId := by rw [henvelope]
  have hpart : attach.participantId = receipt.participantId := by rw [henvelope]
  have hrequested : attach.capabilityGeneration = receipt.requestGeneration := by rw [henvelope]
  rcases acceptsRequest_credentialAttach haccepts with
    hunbound | ⟨hid, hgen, -⟩
  · refine .first hunbound ?_
    cases binding' with
    | left => cases hsecret
    | _ => rfl
  · refine .rotated receipt hreceipt ?_ ?_ hgeneration hsecret
    · rw [hident, hid, hconv, hpart]
    · rw [hgen, hrequested]

variable (aggregate)

theorem applyCorrelatedValue_binding
    (haccepts : aggregate.binding.acceptsRequest request = true) (hmatches : matchesRequest value request = true) :
    CredentialChange aggregate.binding value (applyCorrelatedValue aggregate value).binding := by
  unfold applyCorrelatedValue
  split
  -- the two enrollment answers, then the three attach receipts
  iterate 2
    · have hkey := key_of_matchesRequest hmatches rfl fun _ => rfl
      obtain rfl := fromRequest_eq_enrollment hkey
      exact .first (eq_unbound_of_acceptsRequest_enrollment haccepts) rfl
  iterate 3
    · rename_i receipt
      exact .of_attach receipt rfl haccepts (key_of_matchesRequest hmatches rfl fun _ => rfl) rfl rfl rfl
  · have hkey := key_of_matchesRequest hmatches rfl fun _ => rfl
    obtain rfl := fromRequest_eq_detach hkey
    obtain ⟨attachSecret, epoch, hbound⟩ := acceptsRequest_detach haccepts
    rw [hbound]
    exact .detached rfl rfl rfl
  · exact .kept
  · exact .kept
  · have hkey := key_of_matchesRequest hmatches rfl fun _ => rfl
    obtain ⟨leave, rfl, henvelope⟩ := fromRequest_eq_leave hkey
    refine .ended rfl (.inr ?_) rfl
    rw [acceptsRequest_leave haccepts, henvelope]
    rfl
  · rename_i retired
    have hkey := key_of_matchesRequest hmatches rfl fun _ => rfl
    cases retired with
    | enrollment envelope participantId retiredGeneration =>
      obtain rfl := fromRequest_eq_enrollment hkey
      refine .ended rfl (.inl ?_) rfl
      rw [eq_unbound_of_acceptsRequest_enrollment haccepts]
      rfl
    | participant reference retiredGeneration =>
      have hreference : responseKey (.retired (.participant reference retiredGeneration)) 0 =
          participantReference reference := by cases reference <;> rfl
      have hident := requestIdentity_of_participantReference (hreference.symm.trans hkey)
      refine .ended rfl ?_ rfl
      rcases identity_of_acceptsRequest haccepts hident with hnone | hsome
      · exact .inl hnone
      · exact .inr hsome.symm
  · exact .kept

theorem retireExpectedOperation_binding
    (value : ServerValue) : (retireExpectedOperation aggregate value).binding =
      (applyCorrelatedValue { aggregate with expected := none } value).binding := by
  unfold retireExpectedOperation
  split <;> rfl

theorem retireExpectedOperation_slot (value : ServerValue) :
    (retireExpectedOperation aggregate value).expected = none ∧
      (retireExpectedOperation aggregate value).nextOperationAuthorization = aggregate.nextOperationAuthorization := by
  obtain ⟨binding, replay, heq, -, -⟩ :=
    applyCorrelatedValue_eq { aggregate with expected := none } value
  unfold retireExpectedOperation
  rw [heq]
  split <;> exact ⟨rfl, rfl⟩

variable {aggregate}

/-! ### What a step does to the binding -/

theorem ProcessStep.binding (hstep : ProcessStep process action process') :
    process'.binding = process.binding ∨ process.binding.isLeft = false ∧
      ∃ value correlation, action = .correlatedInbound value correlation ∧
        CredentialChange process.binding value process'.binding := by
  cases hstep with
  | record hrecord =>
    obtain ⟨-, -, -, -, -, replay, prior, -, rfl⟩ := recordOperation_eq_pending hrecord
    exact .inl rfl
  | @answer aggregate _ _ _ _ _ hawaits hlost haccepts hmatches hheld =>
    refine .inr ⟨isLeft_eq_false_of_acceptsRequest haccepts, _, _, rfl, ?_⟩
    simp only [binding, ClientRoot.current, retireExpectedOperation_binding]
    exact applyCorrelatedValue_binding { aggregate with expected := none } haccepts hmatches
  | _ => exact .inl rfl

namespace CredentialChange

variable {binding binding' : ClientBindingState}

theorem identity (h : CredentialChange binding value binding')
    {id} (hid : binding.identity = some id) : binding'.identity = some id := by
  cases h with
  | kept => exact hid
  | first hunbound =>
    rw [hunbound] at hid
    cases hid
  | rotated receipt hreceipt hident | detached hident => rw [hident, hid]
  | ended hvalue hident =>
    rcases hident with hnone | hsame
    · rw [hnone] at hid
      cases hid
    · rw [hsame, hid]

/-- A change of generation short of the end is the successor that the receipt presents. -/
theorem generation (h : CredentialChange binding value binding') (hleft : binding'.isLeft = false)
    {old : Generation} (hold : binding.generation = some old) :
    binding'.generation = some old ∨ ∃ receipt, attachReceipt value = some receipt ∧
      receipt.requestGeneration = old ∧ receipt.capabilityGeneration = old + 1 ∧
      binding'.generation = some (old + 1) ∧ binding'.retainedSecret = some receipt.attachSecret := by
  cases h with
  | kept => exact .inl hold
  | first hunbound =>
    rw [hunbound] at hold
    cases hold
  | rotated receipt hreceipt hident hgeneration hgeneration' hsecret =>
    have hrequested : receipt.requestGeneration = old :=
      Option.some.inj (hgeneration.symm.trans hold)
    have hgranted : receipt.capabilityGeneration = old + 1 := by
      rw [← hrequested]
      exact receipt.successor
    exact .inr ⟨receipt, hreceipt, hrequested, hgranted, by rw [hgeneration', hgranted], hsecret⟩
  | detached hident hgeneration => exact .inl (hgeneration.trans hold)
  | ended hvalue hident hended =>
    rw [hleft] at hended
    cases hended

end CredentialChange

/-! ### Runs -/

theorem binding_of_next (h : clientMachine.next process action = some process') :
    process'.binding = process.binding ∨ process.binding.isLeft = false ∧
      ∃ value correlation, action = .correlatedInbound value correlation ∧
        CredentialChange process.binding value process'.binding :=
  (processNext_step h).binding

section

variable (hrun : clientMachine.run process actions = some later)

include hrun

theorem identity_of_run {id} (hid : process.binding.identity = some id) : later.binding.identity = some id := by
  apply Machine.run_invariant _ hrun hid
  intro current action successor hcurrent hnext
  rcases binding_of_next hnext with hsame | ⟨-, value, correlation, -, hchange⟩
  · rw [hsame]
    exact hcurrent
  · exact hchange.identity hcurrent

theorem isLeft_of_run (hleft : process.binding.isLeft = true) : later.binding.isLeft = true := by
  apply Machine.run_invariant _ hrun hleft
  intro current action successor hcurrent hnext
  rcases binding_of_next hnext with hsame | ⟨halive, -⟩
  · rw [hsame]
    exact hcurrent
  · rw [hcurrent] at halive
    cases halive

theorem generation_of_run (hold : process.binding.generation = some old) :
    later.binding.isLeft = true ∨ ∃ new, later.binding.generation = some new ∧ old ≤ new := by
  apply Machine.run_invariant _ hrun (.inr ⟨old, hold, le_refl old⟩)
  intro current action successor hcurrent hnext
  rcases binding_of_next hnext with hsame | ⟨halive, value, correlation, -, hchange⟩
  · rw [hsame]
    exact hcurrent
  · cases hleft : successor.binding.isLeft with
    | true => exact .inl rfl
    | false =>
      rcases hcurrent with hended | ⟨new, hnew, hle⟩
      · rw [hended] at halive
        cases halive
      · rcases hchange.generation hleft hnew with hsame | ⟨receipt, -, -, -, hsuccessor, -⟩
        · exact .inr ⟨new, hsame, hle⟩
        · exact .inr ⟨new + 1, hsuccessor, Nat.le_succ_of_le hle⟩

end

/-! ### Left is final -/

structure RefusesEverything (aggregate : ClientParticipantAggregate) : Prop where
  record : ∀ request, recordOperation aggregate request = .refused aggregate request .alreadyDead
  inbound : ∀ value, decideInbound aggregate value = .refused aggregate value .alreadyDead
  correlatedInbound : ∀ value correlation, ∃ reason,
    decideCorrelatedInbound aggregate value correlation = .refused aggregate value correlation reason
  attach : ∀ attach correlation, ∃ reason, applyAttach aggregate attach correlation =
    .refused aggregate (attach, correlation) reason
  leave : ∀ leave correlation, ∃ reason, applyLeaveDurable aggregate leave correlation =
    .refused aggregate (leave, correlation) reason
  detachOutcome : ∀ outcome correlation, ∃ reason,
    applyDetachOutcome aggregate outcome correlation = .refused aggregate (outcome, correlation) reason

section

variable (h : aggregate.Sound) (hleft : aggregate.binding.isLeft = true)
include h hleft

theorem expected_eq_none_of_isLeft : aggregate.expected = none := by
  cases hslot : aggregate.expected with
  | none => rfl
  | some expected =>
    have haccepts : aggregate.binding.acceptsRequest expected.request = true :=
      h.accepted expected hslot
    rw [acceptsRequest_of_isLeft hleft] at haccepts
    cases haccepts

theorem refusesEverything_of_isLeft : RefusesEverything aggregate := by
  have hslot := expected_eq_none_of_isLeft h hleft
  have hloss : aggregate.operationLossPending = false := by
    simp [ClientParticipantAggregate.operationLossPending, ClientParticipantAggregate.lostOperationTestimony, hslot]
  have hdetach : ∀ correlation, detachAuthorityMatches aggregate correlation = false := by
    simp [detachAuthorityMatches, hslot]
  refine ⟨?_, ?_, ?_, ?_, ?_, ?_⟩
  · simp [recordOperation, acceptsRequest_of_isLeft hleft, hleft]
  · simp [decideInbound, decideInboundInner, hleft]
  · intro value correlation
    exact ⟨.delayedResponse, by simp [decideCorrelatedInbound, currentAuthority, hslot]⟩
  · intro attach correlation
    exact ⟨.foreignInput, by simp [applyAttach, hloss, hdetach]⟩
  · intro leave correlation
    exact ⟨.foreignInput, by simp [applyLeaveDurable, hloss, hdetach]⟩
  · intro outcome correlation
    exact ⟨.invalidStatus, by simp [applyDetachOutcome, hloss, hdetach]⟩

end

section

variable (h : decideCorrelatedInbound aggregate value correlation = .applied successor answer)
include h

theorem decideCorrelatedInbound_eq_applied
   
    (hstray : straysPastSlot value = false) : successor = retireExpectedOperation aggregate value ∧
      ∃ expected, AwaitsAnswer aggregate expected correlation ∧ expected.lost = none ∧
        aggregate.binding.acceptsRequest expected.request = true ∧ matchesRequest value expected.request = true := by
  unfold decideCorrelatedInbound at h
  split at h
  · cases h
  rename_i hcurrent
  obtain ⟨expected, hawaits⟩ := currentAuthority_eq_true (by simpa using hcurrent)
  rcases decideInboundInner_cases aggregate value true with
    ⟨reason, heq⟩ | ⟨hstrays, -⟩ | ⟨expected', -, hslot, hlost, haccepts, hmatches, heq⟩
  · rw [heq] at h
    cases h
  · rw [hstray] at hstrays
    cases hstrays
  · obtain rfl : expected' = expected := Option.some.inj (hslot.symm.trans hawaits.slot)
    rw [heq] at h
    obtain ⟨rfl, -⟩ := ClientCorrelatedInboundDecision.applied.inj h
    exact ⟨rfl, expected', hawaits, hlost, haccepts, hmatches⟩

theorem isLeft_of_endsMembership (hends : endsMembership value = true) : successor.binding.isLeft = true := by
  have hstray : straysPastSlot value = false := by
    cases value <;> first | rfl | cases hends
  have hbinding : ∀ aggregate, (applyCorrelatedValue aggregate value).binding.isLeft = true := by
    intro aggregate
    cases value with
    | leaveCommitted _ => rfl
    | retired retired => cases retired <;> rfl
    | _ => cases hends
  obtain ⟨rfl, -⟩ := decideCorrelatedInbound_eq_applied h hstray
  rw [retireExpectedOperation_binding]
  exact hbinding _

end

/-! ### A life

A client enrolls, attaches once more, and leaves. -/

def newProcess : ClientProcess := ⟨.aggregate .new, []⟩

variable (request : ClientRequest)

def issue (authorization : Nat) : List ClientAction :=
  [.record request, .commit, .release, .send ⟨request, authorization⟩]

def exchange (authorization : Nat) (value : ServerValue) : List ClientAction :=
  issue request authorization ++ [.correlatedInbound value ⟨authorization⟩]

def enrollmentAsked : ClientRequest := .enrollment ⟨1, 10⟩

def enrollmentGranted : EnrollBound where
  conversationId := 1
  token := 10
  participantId := 0
  attachSecret := 20
  originBindingEpoch := ⟨⟨1, 1⟩, 1⟩
  receiptExpiresAt := 100
  provenanceExpiresAt := 200
  first := rfl

def attachAsked : ClientRequest := .credentialAttach ⟨⟨⟨1, 0, 1, none⟩, 11⟩, 20⟩

def attachGranted : AttachBound where
  conversationId := 1
  token := 11
  participantId := 0
  requestGeneration := 1
  attachSecret := 21
  originBindingEpoch := ⟨⟨1, 2⟩, 2⟩
  persistedCursor := 0
  acceptedMarkerDeliverySeq := none
  receiptExpiresAt := 100
  provenanceExpiresAt := 200
  successor := rfl
  fenced := by rintro _ ⟨⟩

def leaveAsked : ClientRequest := .leave ⟨⟨⟨1, 0, 2⟩, 12⟩, 21⟩

def leaveGranted : Wire.LeaveCommitted where
  conversationId := 1
  leaveAttemptToken := 12
  participantId := 0
  retiredGeneration := 2
  endedBindingEpoch := none
  priorTerminalDeliverySeq := none
  leftDeliverySeq := 3
  ended := by rintro _ ⟨⟩
  prior := by rintro _ ⟨⟩

theorem newProcess_reachable : clientMachine.Reachable newProcess := .start ⟨rfl, .inl rfl⟩

/-- The identity never changes; the generation grows only to the successor a receipt presents. Who has left
refuses everything. -/
theorem credential_monotone_until_left (hreachable : clientMachine.Reachable process) :
    (∀ actions later, clientMachine.run process actions = some later →
      (∀ id, process.binding.identity = some id → later.binding.identity = some id) ∧
      (∀ old, process.binding.generation = some old → later.binding.isLeft = false →
        ∃ new, later.binding.generation = some new ∧ old ≤ new) ∧ (process.binding.isLeft = true →
        later.binding.isLeft = true ∧ RefusesEverything later.root.current)) ∧
    (∀ action later, clientMachine.next process action = some later →
      ∀ old, process.binding.generation = some old → later.binding.isLeft = false →
      later.binding.generation ≠ some old → ∃ value correlation receipt, action = .correlatedInbound value correlation ∧
        attachReceipt value = some receipt ∧ receipt.capabilityGeneration = old + 1 ∧ later.binding.generation = some
        (old + 1) ∧ later.binding.retainedSecret = some receipt.attachSecret) ∧ (∀ value correlation successor answer,
      decideCorrelatedInbound process.root.current value correlation = .applied successor answer →
      endsMembership value = true → successor.binding.isLeft = true) := by
  refine ⟨?_, ?_, ?_⟩
  · intro actions later hrun
    refine ⟨fun id => identity_of_run hrun, ?_, ?_⟩
    · intro old hold halive
      rcases generation_of_run hrun hold with hleft | hnew
      · rw [halive] at hleft
        cases hleft
      · exact hnew
    · intro hleft
      have hleft' := isLeft_of_run hrun hleft
      exact ⟨hleft', refusesEverything_of_isLeft (sound_of_reachable (hreachable.run hrun)).current hleft'⟩
  · intro action later hnext old hold halive hchanged
    rcases binding_of_next hnext with hsame | ⟨-, value, correlation, haction, hchange⟩
    · rw [hsame] at hchanged
      exact absurd hold hchanged
    · rcases hchange.generation halive hold with
        hsame | ⟨receipt, hreceipt, -, hgranted, hgeneration, hsecret⟩
      · exact absurd hsame hchanged
      · exact ⟨value, correlation, receipt, haction, hreceipt, hgranted, hgeneration, hsecret⟩
  · intro value correlation successor answer happlied hends
    exact isLeft_of_endsMembership happlied hends

/-- The enrolled client attaches, which rotates its credential, and leaves: then it refuses everything. -/
theorem credential_monotone_until_left_life : ∃ process attached later, clientMachine.Reachable process ∧
      clientMachine.run process (exchange attachAsked 2 (.attachBound attachGranted)) = some attached ∧
      clientMachine.run attached (exchange leaveAsked 3 (.leaveCommitted leaveGranted)) = some later ∧
      process.binding.generation = some 1 ∧ (∃ new, attached.binding.generation = some new ∧ 1 ≤ new) ∧
      attached.binding.retainedSecret = some 21 ∧ later.binding.identity = some (1, 0) ∧
      RefusesEverything later.root.current := by
  obtain ⟨process, hprocess, hgeneration, hidentity, hrest⟩ : ∃ process,
      clientMachine.run newProcess (exchange enrollmentAsked 1 (.enrollBound enrollmentGranted)) =
        some process ∧ process.binding.generation = some 1 ∧
      process.binding.identity = some (1, 0) ∧
      (clientMachine.run process (exchange attachAsked 2 (.attachBound attachGranted))).any
        (fun attached => decide (attached.binding.isLeft = false ∧ attached.binding.retainedSecret = some 21 ∧
          (clientMachine.run attached (exchange leaveAsked 3 (.leaveCommitted leaveGranted))).any
            (fun later => decide (later.binding.isLeft = true)) = true)) = true :=
    exists_of_any (by decide)
  obtain ⟨attached, hattached, halive, hsecret, hrest⟩ := exists_of_any hrest
  obtain ⟨later, hlater, hleft⟩ := exists_of_any hrest
  have hreachable := newProcess_reachable.run hprocess
  obtain ⟨hid, hgrown, -⟩ := (credential_monotone_until_left hreachable).1 _ attached hattached
  have hreachable' := hreachable.run hattached
  obtain ⟨hid', -, -⟩ := (credential_monotone_until_left hreachable').1 _ later hlater
  obtain ⟨-, -, hdead⟩ := (credential_monotone_until_left (hreachable'.run hlater)).1 [] later rfl
  exact ⟨process, attached, later, hreachable, hattached, hlater, hgeneration,
    hgrown 1 hgeneration halive, hsecret, hid' _ (hid _ hidentity), (hdead hleft).2⟩

end Liminal.Client
