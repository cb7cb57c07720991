import Liminal.Client.Settlement

/-!
# Asking again after a lost answer

The server committed an enrollment or an attach, and the answer was lost. The identical request is
answered out of the live receipt: as bound while the binding is still the receipt's, as an unbound
receipt once it died. An attach takes generation and secret over from either answer, an enrollment
from the first only: the unbound receipt empties the slot and is dropped.
-/

namespace Liminal.Wire.ReceiptReplay

def conversationId : ReceiptReplay → ConversationId
  | enrollment receipt | credentialAttach receipt => receipt.conversationId

def participantId : ReceiptReplay → ParticipantId
  | enrollment receipt | credentialAttach receipt => receipt.participantId

def originBindingEpoch : ReceiptReplay → BindingEpoch
  | enrollment receipt | credentialAttach receipt => receipt.originBindingEpoch

def capabilityGeneration (receipt : ReceiptReplay) : Generation :=
  receipt.originBindingEpoch.capabilityGeneration

def attachSecret : ReceiptReplay → AttachSecret
  | enrollment receipt | credentialAttach receipt => receipt.attachSecret

end Liminal.Wire.ReceiptReplay

namespace Liminal.Client

open Wire Fallible Checked ClientBindingState

/-! ### The receipt the server holds -/

/-- The receipt is what the server committed for the request, and the member is the one it names. -/
inductive Commits (member : LiveMember) : ReceiptReplay → ClientRequest → Prop
  | enrollment {receipt} (hconv : member.conversationId = receipt.conversationId)
      (hpart : member.participantId = receipt.participantId) :
      Commits member (.enrollment receipt) (.enrollment ⟨receipt.conversationId, receipt.token⟩)
  | credentialAttach {receipt} (hconv : member.conversationId = receipt.conversationId) (hpart : member.participantId =
      receipt.participantId) (presentedSecret : AttachSecret) :
      Commits member (.credentialAttach receipt) (.credentialAttach
        ⟨⟨⟨receipt.conversationId, receipt.participantId, receipt.requestGeneration,
          receipt.acceptedMarkerDeliverySeq⟩, receipt.token⟩, presentedSecret⟩)

/-- The lookup while the receipt is live. The secret of the identical request is the one the receipt was
committed under. -/
def receiptServer (member : LiveMember) (binding : BindingState) : ReceiptReplay → ServerContext
  | .enrollment receipt => .enrollment (.liveReceipt (.live member) receipt) binding
  | .credentialAttach receipt =>
    .credentialAttach (.liveReceipt (.live member) receipt) (.live member) binding .verified

def stillBound (binding : BindingState) (receipt : ReceiptReplay) : Bool :=
  receiptBindingIsCurrent binding receipt.conversationId receipt.participantId receipt.originBindingEpoch

def proveSecret (current presented : AttachSecret) : AttachSecretProof :=
  if presented = current then .verified else .mismatch

def freshAttach (receipt : ReceiptReplay) (token : AttachAttemptToken)
    (marker : Option DeliverySeq) : Wire.CredentialAttachRequest :=
  ⟨⟨⟨receipt.conversationId, receipt.participantId, receipt.capabilityGeneration, marker⟩, token⟩, receipt.attachSecret⟩

variable {member : LiveMember} {binding : BindingState} {receipt : ReceiptReplay}
  {request : ClientRequest} {aggregate : ClientParticipantAggregate}

section

variable (h : Commits member receipt request)

include h

theorem Commits.consistent : (receiptServer member binding receipt).Consistent request := by
  cases h with
  | enrollment => exact ⟨rfl, rfl⟩
  | credentialAttach => exact ⟨rfl, rfl, rfl⟩

theorem Commits.names : member.conversationId = receipt.conversationId ∧
      member.participantId = receipt.participantId := by
  cases h with
  | enrollment hconv hpart | credentialAttach hconv hpart => exact ⟨hconv, hpart⟩

theorem Commits.answer (binding : BindingState) : (receiptServer member binding receipt).answer request =
      some (if stillBound binding receipt then .bound receipt else .unboundReceipt receipt) := by
  cases h with
  | @enrollment receipt _ hpart =>
    have hcurrent : receiptBindingIsCurrent binding receipt.conversationId receipt.participantId
        receipt.originBindingEpoch = stillBound binding (.enrollment receipt) := rfl
    simp only [receiptServer, ServerContext.answer, lookupEnrollment, hpart, hcurrent]
    cases stillBound binding _ <;> rfl
  | @credentialAttach receipt =>
    have hcurrent : receiptBindingIsCurrent binding receipt.conversationId receipt.participantId
        receipt.originBindingEpoch = stillBound binding (.credentialAttach receipt) := rfl
    simp only [receiptServer, ServerContext.answer, lookupCredentialAttach,
      lookupLiveAttachReceipt, reduceCtorEq, if_false, ne_eq, not_true_eq_false, hcurrent]
    cases stillBound binding _ <;> rfl

theorem Commits.settles : (receiptServer member binding receipt).Settles request := by
  cases h <;> trivial

end

/-! ### What the client makes of it -/

def Adopts (binding : ClientBindingState) (receipt : ReceiptReplay) : Prop :=
  binding.identity = some (receipt.conversationId, receipt.participantId) ∧ binding.generation =
    some receipt.capabilityGeneration ∧ binding.retainedSecret = some receipt.attachSecret

theorem Adopts.acceptsRequest {binding} (h : Adopts binding receipt)
    (token : AttachAttemptToken) (marker : Option DeliverySeq) :
    binding.acceptsRequest (.credentialAttach (freshAttach receipt token marker)) = true := by
  obtain ⟨hident, hgen, hsecret⟩ := h
  cases binding <;> simp_all [identity, generation, retainedSecret, ClientBindingState.acceptsRequest, isLeft,
      matchesCredential, matchesIdentity, freshAttach]

/-- The receipt is taken over exactly if it answers an attach or the binding is still its own. -/
theorem adopts_iff (binding : BindingState)
    (hcommits : Commits member receipt request) (haccepts : aggregate.binding.acceptsRequest request = true) :
    Adopts (retireExpectedOperation aggregate
        (if stillBound binding receipt then .bound receipt else .unboundReceipt receipt)).binding
      receipt ↔ (∃ attach, request = .credentialAttach attach) ∨ stillBound binding receipt = true := by
  rw [retireExpectedOperation_binding]
  cases hcommits with
  | enrollment =>
    have hunbound := eq_unbound_of_acceptsRequest_enrollment haccepts
    cases stillBound binding _ with
    | true => exact iff_of_true ⟨rfl, rfl, rfl⟩ (.inr rfl)
    | false => simp [Adopts, hunbound, applyCorrelatedValue, identity]
  | credentialAttach =>
    refine iff_of_true ?_ (.inl ⟨_, rfl⟩)
    cases stillBound binding _ <;> exact ⟨rfl, rfl, rfl⟩

/-- The client holds the receipt's credential, and a fresh attach made from it is recorded and authorized. -/
structure Recovered (member : LiveMember) (currentSecret : AttachSecret) (receipt : ReceiptReplay)
    (aggregate : ClientParticipantAggregate) : Prop where
  identity : aggregate.binding.identity = some (receipt.conversationId, receipt.participantId)
  generation : aggregate.binding.generation = some receipt.capabilityGeneration
  secret : aggregate.binding.retainedSecret = some receipt.attachSecret
  attach : member.generation = receipt.capabilityGeneration → currentSecret = receipt.attachSecret →
    ∀ token marker binding,
      (∃ record, recordOperation aggregate (.credentialAttach (freshAttach receipt token marker)) = .pending record) ∧
      lookupCredentialAttach .noMatch (.live member) binding (freshAttach receipt token marker)
        (proveSecret currentSecret (freshAttach receipt token marker).attachSecret) = .authorizedFresh member

theorem recovered_iff (hcommits : Commits member receipt request) (hslot : aggregate.expected = none) :
    Recovered member currentSecret receipt aggregate ↔ Adopts aggregate.binding receipt ∧
      (member.generation = receipt.capabilityGeneration → currentSecret = receipt.attachSecret →
        aggregate.nextOperationAuthorization < u64Max) := by
  constructor
  · intro h
    refine ⟨⟨h.identity, h.generation, h.secret⟩, fun hgen hsecret => ?_⟩
    obtain ⟨⟨record, hrecord⟩, -⟩ := h.attach hgen hsecret 0 none .detached
    obtain ⟨-, -, -, -, hroom, -⟩ := recordOperation_eq_pending hrecord
    exact hroom
  · rintro ⟨hadopts, hroom⟩
    refine ⟨hadopts.1, hadopts.2.1, hadopts.2.2, ?_⟩
    rintro hgen rfl token marker binding
    refine ⟨recordOperation_of_free (hadopts.acceptsRequest token marker) rfl hslot (fun _ => rfl)
      (hroom hgen rfl) (fun _ => by simp), ?_⟩
    obtain ⟨hconv, hpart⟩ := hcommits.names
    simp [lookupCredentialAttach, lookupPresentedAttach, freshAttach, proveSecret, hconv, hpart, hgen]

/-! ### A dead binding -/

def enrolledMember : LiveMember := ⟨0, 1, 1, 0, none⟩

/-- The answer to the enrollment is lost, and the client sends it again. -/
def enrollmentAskedAgain : List ClientAction :=
  issue enrollmentAsked 1 ++ [.expectedOperationFate ⟨1⟩] ++ issue enrollmentAsked 2

/-- The binding died with its connection: the second answer empties the slot, and the client is as unbound as
before. -/
theorem unbound_enrollment_receipt_dropped : ∃ process successor, clientMachine.Reachable process ∧ process.root =
    .aggregate process.root.current ∧ process.root.current.expected = some ⟨enrollmentAsked, true, 2, none⟩ ∧
    Commits enrolledMember (.enrollment enrollmentGranted) enrollmentAsked ∧
    (receiptServer enrolledMember .detached (.enrollment enrollmentGranted)).answer
        enrollmentAsked = some (.unboundReceipt (.enrollment enrollmentGranted)) ∧
    decideCorrelatedInbound process.root.current (.unboundReceipt (.enrollment enrollmentGranted)) ⟨2⟩ =
      .applied successor (.unboundReceipt (.enrollment enrollmentGranted)) ∧ successor.binding = .unbound := by
  obtain ⟨process, hrun, hroot, hslot, happlied, hbinding⟩ : ∃ process,
      clientMachine.run newProcess enrollmentAskedAgain = some process ∧ process.root =
      .aggregate process.root.current ∧ process.root.current.expected = some ⟨enrollmentAsked, true, 2, none⟩ ∧
      decideCorrelatedInbound process.root.current (.unboundReceipt (.enrollment enrollmentGranted)) ⟨2⟩ =
        .applied (retireExpectedOperation process.root.current (.unboundReceipt (.enrollment enrollmentGranted)))
          (.unboundReceipt (.enrollment enrollmentGranted)) ∧
      (retireExpectedOperation process.root.current
        (.unboundReceipt (.enrollment enrollmentGranted))).binding = .unbound :=
    exists_of_any (by decide)
  exact ⟨process, _, newProcess_reachable.run hrun, hroot, hslot, .enrollment rfl rfl, rfl, happlied, hbinding⟩

/-- A client that asks again for what was committed recovers exactly if it asked for an attach or the
binding is still the receipt's own (and the counter has a number left). -/
theorem lost_answer_recovered_iff {process : ClientProcess} {expected : ExpectedOperationState}
    {correlation : ClientResponseCorrelation} {currentSecret : AttachSecret}
    (hreachable : clientMachine.Reachable process) (hroot : process.root = .aggregate aggregate)
    (hawaits : AwaitsAnswer aggregate expected correlation) (hlost : expected.lost = none)
    (hcommits : Commits member receipt expected.request) :
    (∃ value successor, (receiptServer member binding receipt).answer expected.request = some value ∧
        decideCorrelatedInbound aggregate value correlation = .applied successor value ∧
        Recovered member currentSecret receipt successor) ↔
      ((∃ attach, expected.request = .credentialAttach attach) ∨ stillBound binding receipt = true) ∧
      (member.generation = receipt.capabilityGeneration → currentSecret = receipt.attachSecret →
        aggregate.nextOperationAuthorization < u64Max) := by
  have hsound : aggregate.Sound := by
    have hroots := sound_of_reachable hreachable
    rw [hroot] at hroots
    exact hroots
  have hanswer := hcommits.answer binding
  set value : ServerValue :=
    if stillBound binding receipt then .bound receipt else .unboundReceipt receipt with hvalue
  have hstray := ServerContext.straysPastSlot_of_answer hanswer
  have hmatches : matchesRequest value expected.request = true :=
    (answer_matches_iff hcommits.consistent hanswer).mpr hcommits.settles
  obtain ⟨successor, happlied, hslot⟩ :=
    (applied_iff_matches hsound hawaits hlost hstray).mpr hmatches
  obtain ⟨hsuccessor, -⟩ := decideCorrelatedInbound_eq_applied happlied hstray
  have hroom : successor.nextOperationAuthorization = aggregate.nextOperationAuthorization := by
    rw [hsuccessor, (retireExpectedOperation_slot _ _).2]
  have hadopts := adopts_iff binding hcommits (hsound.accepted expected hawaits.slot)
  rw [← hvalue, ← hsuccessor] at hadopts
  rw [← hadopts, ← hroom, ← recovered_iff hcommits hslot]
  constructor
  · rintro ⟨value', successor', hanswer', happlied', hrecovered⟩
    obtain rfl := Option.some.inj (hanswer.symm.trans hanswer')
    rw [happlied] at happlied'
    obtain ⟨rfl, -⟩ := ClientCorrelatedInboundDecision.applied.inj happlied'
    exact hrecovered
  · exact fun hrecovered => ⟨value, successor, hanswer, happlied, hrecovered⟩

/-- An attach whose answer and binding are both lost: the client recovers from the unbound receipt. -/
theorem lost_answer_recovered_attach : ∃ process value successor,
    clientMachine.Reachable process ∧ process.root.current.binding = enrollBinding enrollmentGranted ∧
    (receiptServer ⟨0, 1, 2, 0, none⟩ .detached (.credentialAttach attachGranted)).answer attachAsked = some value ∧
    decideCorrelatedInbound process.root.current value ⟨3⟩ = .applied successor value ∧
    Recovered ⟨0, 1, 2, 0, none⟩ 21 (.credentialAttach attachGranted) successor := by
  obtain ⟨process, hrun, hroot, hslot, hbinding, hroom⟩ : ∃ process,
      clientMachine.run newProcess (enrolledAndIssued attachAsked ++
        [.expectedOperationFate ⟨2⟩] ++ issue attachAsked 3) = some process ∧
      process.root = .aggregate process.root.current ∧
      process.root.current.expected = some ⟨attachAsked, true, 3, none⟩ ∧
      process.root.current.binding = enrollBinding enrollmentGranted ∧
      process.root.current.nextOperationAuthorization < u64Max := exists_of_any (by decide)
  have hreachable := newProcess_reachable.run hrun
  have hcommits : Commits ⟨0, 1, 2, 0, none⟩ (.credentialAttach attachGranted) attachAsked :=
    .credentialAttach rfl rfl 20
  obtain ⟨value, successor, hanswer, happlied, hrecovered⟩ :=
    (lost_answer_recovered_iff hreachable hroot ⟨hslot, rfl, rfl⟩ rfl hcommits).mpr ⟨.inl ⟨_, rfl⟩, fun _ _ => hroom⟩
  exact ⟨process, value, successor, hreachable, hbinding, hanswer, happlied, hrecovered⟩

end Liminal.Client
