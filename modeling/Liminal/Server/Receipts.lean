import Liminal.Library.Journal
import Liminal.Library.Machine
import Liminal.Lifecycle.Selectors

/-!
# Attach receipts

A slot keeps the receipt of its last credential attach and, in a bounded window, a fingerprint of
each attach before it. An unknown token is `noMatch` only while the attach that left the presented
generation still has its own fingerprint.

The log holds the rows that moved the credential. A restart replays them, possibly under another
window. Binding, detach cell, terminal history and other refusals are left out; a row durable
although its append failed is a commit and a restart.
-/

namespace Liminal

open Wire List

structure AttachReceiptState where
  token : AttachAttemptToken
  receipt : AttachBound
  verifier : AttachSecret
  resultGeneration : Generation
  (receiptExpiresAt provenanceExpiresAt : Nat)

structure AttachProvenanceRecord where
  resultGeneration : Generation
  reason : ReceiptExpiryReason
  provenanceExpiresAt : Nat

inductive ProvenanceMember
  | enrollment (expiresAt : Nat)
  | attach (expiresAt : Nat) (token : AttachAttemptToken)
deriving DecidableEq

/-- Oldest deadline first, then enrollment before attach, then the token. -/
def ProvenanceMember.orderKey : ProvenanceMember → Nat × Nat × Nat
  | enrollment expiresAt => (expiresAt, 0, 0)
  | attach expiresAt token => (expiresAt, 1, token)

def ProvenanceMember.precedes (a b : ProvenanceMember) : Prop :=
  a.orderKey.1 < b.orderKey.1 ∨ a.orderKey.1 = b.orderKey.1 ∧
    (a.orderKey.2.1 < b.orderKey.2.1 ∨ a.orderKey.2.1 = b.orderKey.2.1 ∧ a.orderKey.2.2 ≤ b.orderKey.2.2)

instance : DecidableRel ProvenanceMember.precedes := fun _ _ => inferInstanceAs (Decidable (_ ∨ _))

structure StoredAttachAllocation where
  attachSecret : AttachSecret
  connectionIncarnation : ConnectionIncarnation
  (admittedNow receiptExpiresAt provenanceExpiresAt : Nat)
deriving DecidableEq

inductive CredentialRow
  | attached (request : Wire.CredentialAttachRequest) (allocation : StoredAttachAllocation)
  | credentialReissued (presentedGeneration : Generation) (attachSecret : AttachSecret)
deriving DecidableEq

def CredentialRow.presentedGeneration : CredentialRow → Nat
  | attached request _ => request.capabilityGeneration
  | credentialReissued presentedGeneration _ => presentedGeneration

structure ReceiptSlot where
  member : LiveMember
  attachSecret : AttachSecret
  attach : Option AttachReceiptState
  attachProvenance : List (AttachAttemptToken × AttachProvenanceRecord)
  (enrollmentReceiptExpiresAt enrollmentProvenanceExpiresAt : Nat)
  enrollmentReceiptEnded : Option ReceiptExpiryReason
  enrollmentProvenanceDisplaced : Bool

namespace ReceiptSlot

def enroll (conversationId : ConversationId) (participantId : ParticipantId)
    (attachSecret : AttachSecret) (receiptExpiresAt provenanceExpiresAt : Nat) : ReceiptSlot where
  member := ⟨participantId, conversationId, 1, 0, none⟩
  attachSecret := attachSecret
  attach := none
  attachProvenance := []
  enrollmentReceiptExpiresAt := receiptExpiresAt
  enrollmentProvenanceExpiresAt := provenanceExpiresAt
  enrollmentReceiptEnded := none
  enrollmentProvenanceDisplaced := false

/-! ### Classifying a token -/

variable (slot : ReceiptSlot)

variable (request : Wire.CredentialAttachRequest)

section

variable (now : Nat)

def unmatchedTokenPhase : CredentialAttachTokenPhase :=
  if slot.member.generation ≤ request.capabilityGeneration then .noMatch
  else if slot.attach.any (fun attach =>
      attach.resultGeneration = request.capabilityGeneration + 1 ∧ now < attach.provenanceExpiresAt) ∨
      slot.attachProvenance.any (fun record =>
        record.2.resultGeneration = request.capabilityGeneration + 1 ∧ now < record.2.provenanceExpiresAt) then .noMatch
  else .afterProvenance

def retainedTokenPhase : CredentialAttachTokenPhase :=
  match slot.attachProvenance.lookup request.attachAttemptToken with
  | some record =>
    if now < record.provenanceExpiresAt then
      .provenance (.live slot.member) ⟨record.resultGeneration, record.reason⟩
    else .afterProvenance
  | none => slot.unmatchedTokenPhase request now

/-- The phase, and the secret checked against the receipt's own while it is live. -/
def attachTokenPhase : CredentialAttachTokenPhase × AttachSecretProof :=
  let proof verifier := if verifier = request.attachSecret then .verified else .mismatch
  match slot.attach with
  | some attach =>
    if attach.token = request.attachAttemptToken then
      if now < attach.receiptExpiresAt then
        (.liveReceipt (.live slot.member) attach.receipt, proof attach.verifier)
      else if now < attach.provenanceExpiresAt then
        (.provenance (.live slot.member) ⟨attach.resultGeneration, .deadline⟩, proof slot.attachSecret)
      else (.afterProvenance, proof slot.attachSecret)
    else (slot.retainedTokenPhase request now, proof slot.attachSecret)
  | none => (slot.retainedTokenPhase request now, proof slot.attachSecret)

def attachReceiptLive : Bool :=
  slot.attach.any fun attach => now < attach.receiptExpiresAt

def enrollmentReceiptLive : Bool :=
  slot.enrollmentReceiptEnded.isNone && now < slot.enrollmentReceiptExpiresAt

/-! ### Moving the credential -/

def pruneExpiredProvenance : ReceiptSlot :=
  { slot with
    attachProvenance := slot.attachProvenance.filter fun record => now < record.2.provenanceExpiresAt }

end

def incomingProvenanceMember : Option ProvenanceMember := match slot.attach with
  | some previous => some (.attach previous.provenanceExpiresAt previous.token)
  | none =>
    if slot.enrollmentReceiptEnded.isNone then some (.enrollment slot.enrollmentProvenanceExpiresAt)
    else none

def planProvenanceDisplacement (incoming : ProvenanceMember) (window : Nat) : List ProvenanceMember :=
  let enrollment :=
    if slot.enrollmentReceiptEnded.isSome ∧ ¬slot.enrollmentProvenanceDisplaced then
      [ProvenanceMember.enrollment slot.enrollmentProvenanceExpiresAt] else []
  let members := slot.attachProvenance.map (fun record =>
    ProvenanceMember.attach record.2.provenanceExpiresAt record.1) ++ enrollment ++ [incoming]
  (members.insertionSort ProvenanceMember.precedes).take (members.length - window)

def endReason (now receiptExpiresAt : Nat) : ReceiptExpiryReason :=
  if now < receiptExpiresAt then .superseded else .deadline

/-- The previous receipt becomes a fingerprint, unless the window has no room even for that. -/
def retirePrevious (displaced : List ProvenanceMember) (now : Nat) :
    List (AttachAttemptToken × AttachProvenanceRecord) :=
  match slot.attach with
  | none => slot.attachProvenance
  | some previous =>
    if .attach previous.provenanceExpiresAt previous.token ∈ displaced then slot.attachProvenance
    else (previous.token, ⟨previous.resultGeneration, endReason now previous.receiptExpiresAt,
        previous.provenanceExpiresAt⟩) ::
      slot.attachProvenance.filter fun record => record.1 ≠ previous.token

def attachOutcome (request : Wire.CredentialAttachRequest) (allocation : StoredAttachAllocation) : AttachBound where
  conversationId := request.conversationId
  token := request.attachAttemptToken
  participantId := request.participantId
  requestGeneration := request.capabilityGeneration
  attachSecret := allocation.attachSecret
  originBindingEpoch := ⟨allocation.connectionIncarnation, request.capabilityGeneration + 1⟩
  persistedCursor := request.acceptMarkerDeliverySeq.getD slot.member.cursor
  acceptedMarkerDeliverySeq := request.acceptMarkerDeliverySeq
  receiptExpiresAt := allocation.receiptExpiresAt
  provenanceExpiresAt := allocation.provenanceExpiresAt
  successor := rfl
  fenced := by
    intro marker hmarker
    rw [Option.mem_def.mp hmarker, Option.getD_some]

def installAttachReceipt (window : Nat)
    (request : Wire.CredentialAttachRequest) (allocation : StoredAttachAllocation) : ReceiptSlot :=
  let displaced := match slot.incomingProvenanceMember with
    | some incoming => slot.planProvenanceDisplacement incoming window
    | none => []
  let outcome := slot.attachOutcome request allocation
  { slot with
    member := { slot.member with
      generation := request.capabilityGeneration + 1
      cursor := outcome.persistedCursor }
    attachSecret := allocation.attachSecret
    attach := some ⟨request.attachAttemptToken, outcome, request.attachSecret,
      request.capabilityGeneration + 1, allocation.receiptExpiresAt, allocation.provenanceExpiresAt⟩
    attachProvenance := (slot.retirePrevious displaced allocation.admittedNow).filter fun record =>
      displaced.all fun
        | .attach _ token => token ≠ record.1
        | .enrollment _ => true
    enrollmentReceiptEnded := slot.enrollmentReceiptEnded.or
      (some (endReason allocation.admittedNow slot.enrollmentReceiptExpiresAt))
    enrollmentProvenanceDisplaced := slot.enrollmentProvenanceDisplaced || displaced.any fun
      | .enrollment _ => true
      | .attach _ _ => false }

def apply (window : Nat) (slot : ReceiptSlot) (row : CredentialRow) : Option ReceiptSlot :=
  if row.presentedGeneration = slot.member.generation then
    match row with
    | .attached request allocation => some (slot.installAttachReceipt window request allocation)
    | .credentialReissued presentedGeneration attachSecret =>
      some { slot with
        member := { slot.member with generation := presentedGeneration + 1 }
        attachSecret := attachSecret }
  else none

end ReceiptSlot

/-! ### Histories of one participant -/

structure ReceiptHistory where
  window : Nat
  (enrolled slot : ReceiptSlot)
  log : List CredentialRow

inductive ReceiptAction
  | credentialAttach (request : Wire.CredentialAttachRequest) (allocation : StoredAttachAllocation)
      (binding : BindingState)
  | credentialReissue (expectedGeneration : Generation) (attachSecret : AttachSecret) (now : Nat)
  | pruneExpiredProvenance (now : Nat)
  | restart (window : Nat)

namespace ReceiptHistory

variable (history : ReceiptHistory)

def commit (slot : ReceiptSlot) (row : CredentialRow) : Option ReceiptHistory :=
  (slot.apply history.window row).map fun slot =>
    { history with slot := slot, log := history.log ++ [row] }

def next : ReceiptAction → Option ReceiptHistory
  | .credentialAttach request allocation binding =>
    let slot := history.slot.pruneExpiredProvenance allocation.admittedNow
    let (tokenPhase, secretProof) := slot.attachTokenPhase request allocation.admittedNow
    match lookupCredentialAttach tokenPhase (.live slot.member) binding request secretProof with
    | .authorizedFresh _ => history.commit slot (.attached request allocation)
    | _ => some { history with slot := slot }
  | .credentialReissue expectedGeneration attachSecret now =>
    if history.slot.attachReceiptLive now ∨ history.slot.enrollmentReceiptLive now ∨
        expectedGeneration ≠ history.slot.member.generation then some history
    else history.commit history.slot (.credentialReissued expectedGeneration attachSecret)
  | .pruneExpiredProvenance now =>
    some { history with slot := history.slot.pruneExpiredProvenance now }
  | .restart window =>
    (Journal.replay (ReceiptSlot.apply window) history.enrolled history.log).map fun slot =>
      { history with window := window, slot := slot }

end ReceiptHistory

/-- Everything that can happen to the credential of one participant after its enrollment. -/
def receiptMachine : Machine ReceiptHistory ReceiptAction where
  start history := history.slot = history.enrolled ∧ history.log = [] ∧
    ∃ conversationId participantId attachSecret receiptExpiresAt provenanceExpiresAt,
      history.enrolled = ReceiptSlot.enroll conversationId participantId attachSecret
        receiptExpiresAt provenanceExpiresAt
  next := ReceiptHistory.next

/-! ### Every fingerprint belongs to a commit -/

namespace ReceiptSlot

/-- The tokens the slot still knows, each with the generation its attach made. -/
def fingerprints (slot : ReceiptSlot) : List (AttachAttemptToken × Generation) :=
  slot.attach.toList.map (fun attach => (attach.token, attach.resultGeneration)) ++
    slot.attachProvenance.map fun record => (record.1, record.2.resultGeneration)

def Made (fingerprint : AttachAttemptToken × Generation) : CredentialRow → Prop
  | .attached request _ =>
    fingerprint = (request.attachAttemptToken, request.capabilityGeneration + 1)
  | .credentialReissued _ _ => False

variable {slot slot' : ReceiptSlot} {log : List CredentialRow} {window : Nat}
  {request committed : Wire.CredentialAttachRequest} {allocation : StoredAttachAllocation}

/-- The rows left their generations one after the other, and what the slot knows it knows from them. -/
structure Recorded (slot : ReceiptSlot) (log : List CredentialRow) : Prop where
  generation : slot.member.generation = 1 + log.length
  left : log.map CredentialRow.presentedGeneration = range' 1 log.length
  made : ∀ fingerprint ∈ slot.fingerprints, ∃ row ∈ log, Made fingerprint row

theorem Recorded.pruned (h : slot.Recorded log) (now : Nat) : (slot.pruneExpiredProvenance now).Recorded log where
  generation := h.generation
  left := h.left
  made := by
    intro fingerprint hprint
    apply h.made fingerprint
    rcases mem_append.mp hprint with hcurrent | hret
    · exact mem_append_left _ hcurrent
    · obtain ⟨record, hrecord, rfl⟩ := mem_map.mp hret
      exact mem_append_right _ (mem_map_of_mem (mem_of_mem_filter hrecord))

theorem fingerprints_retirePrevious (h : record ∈ slot.retirePrevious displaced now) :
    (record.1, record.2.resultGeneration) ∈ slot.fingerprints := by
  have hkept : ∀ kept ∈ slot.attachProvenance, (kept.1, kept.2.resultGeneration) ∈ slot.fingerprints :=
    fun kept hmem => mem_append_right _ (mem_map.mpr ⟨kept, hmem, rfl⟩)
  unfold retirePrevious at h
  cases hattach : slot.attach with
  | none =>
    rw [hattach] at h
    exact hkept record h
  | some previous =>
    simp only [hattach] at h
    split at h
    · exact hkept record h
    · rcases mem_cons.mp h with rfl | hold
      · simp [fingerprints, hattach]
      · exact hkept record (mem_of_mem_filter hold)

theorem fingerprints_apply (happly : slot.apply window row = some slot') (h : fingerprint ∈ slot'.fingerprints) :
    Made fingerprint row ∨ fingerprint ∈ slot.fingerprints := by
  obtain ⟨-, happly⟩ := Option.ite_none_right_eq_some.mp happly
  cases row with
  | attached request allocation =>
    cases happly
    rcases mem_append.mp h with hcurrent | hret
    · exact .inl (mem_singleton.mp hcurrent)
    · obtain ⟨record, hrecord, rfl⟩ := mem_map.mp hret
      exact .inr (fingerprints_retirePrevious (mem_of_mem_filter hrecord))
  | credentialReissued presentedGeneration attachSecret =>
    cases happly
    exact .inr h

theorem Recorded.apply (h : slot.Recorded log)
    (happly : slot.apply window row = some slot') : slot'.Recorded (log ++ [row]) := by
  obtain ⟨hpresented, hrow⟩ := Option.ite_none_right_eq_some.mp happly
  rw [h.generation] at hpresented
  refine ⟨?_, ?_, ?_⟩
  · have hgen : slot'.member.generation = row.presentedGeneration + 1 := by
      cases row <;> cases hrow <;> rfl
    rw [hgen, hpresented, length_append, length_singleton, Nat.add_assoc]
  · rw [map_append, h.left, length_append, length_singleton, range'_1_concat, map_singleton, hpresented]
  · intro fingerprint hprint
    rcases fingerprints_apply happly hprint with hmade | hold
    · exact ⟨row, by simp, hmade⟩
    · obtain ⟨old, hlog, hmade⟩ := h.made fingerprint hold
      exact ⟨old, mem_append_left _ hlog, hmade⟩

/-- A fingerprint of the generation a committed attach made stands under that attach's token. -/
theorem Recorded.token_eq (h : slot.Recorded log) (hcommitted : .attached committed allocation ∈ log)
    (hprint : (token, committed.capabilityGeneration + 1) ∈ slot.fingerprints) :
    token = committed.attachAttemptToken := by
  obtain ⟨row, hrow, hmade⟩ := h.made _ hprint
  have hnodup : (log.map CredentialRow.presentedGeneration).Nodup := by
    rw [h.left]
    exact nodup_range'
  cases row with
  | attached request allocation' =>
    obtain ⟨htoken, hgen⟩ := Prod.mk.inj hmade
    have hsame := inj_on_of_nodup_map hnodup hrow hcommitted (Nat.succ.inj hgen).symm
    rw [htoken, (CredentialRow.attached.inj hsame).1]
  | credentialReissued presentedGeneration attachSecret => exact hmade.elim

/-- A fingerprint in its window is a fingerprint, so none witnesses a generation that has none. -/
theorem unmatchedTokenPhase_ne_noMatch {now : Nat} (hleft : request.capabilityGeneration < slot.member.generation)
    (hnone : ∀ token, (token, request.capabilityGeneration + 1) ∉ slot.fingerprints) :
    slot.unmatchedTokenPhase request now ≠ .noMatch := by
  unfold unmatchedTokenPhase
  rw [if_neg (Nat.not_le.mpr hleft), if_neg]
  · simp
  · rintro (hany | hany)
    · cases hattach : slot.attach with
      | none =>
        rw [hattach] at hany
        cases hany
      | some attach =>
        rw [hattach] at hany
        have hresult := (of_decide_eq_true hany).1
        exact hnone attach.token (by simp [fingerprints, hattach, hresult])
    · obtain ⟨record, hrecord, hwitness⟩ := any_eq_true.mp hany
      have hresult := (of_decide_eq_true hwitness).1
      exact hnone record.1 (mem_append_right _ (mem_map.mpr ⟨record, hrecord, by rw [hresult]⟩))

theorem Recorded.not_noMatch (h : slot.Recorded log) (hcommitted : .attached committed allocation ∈ log)
    (htoken : request.attachAttemptToken = committed.attachAttemptToken) (hgen : request.capabilityGeneration =
    committed.capabilityGeneration) (now : Nat) : (slot.attachTokenPhase request now).1 ≠ .noMatch := by
  have hleft := mem_map_of_mem (f := CredentialRow.presentedGeneration) hcommitted
  rw [h.left, mem_range'_1, ← h.generation] at hleft
  have hret : (∀ attach ∈ slot.attach, attach.token ≠ request.attachAttemptToken) →
      slot.retainedTokenPhase request now ≠ .noMatch := by
    intro hcurrent
    unfold retainedTokenPhase
    split
    · split <;> simp
    next hlookup =>
      -- The only token that could stand there is the request's, and it was not found.
      apply unmatchedTokenPhase_ne_noMatch (hgen ▸ hleft.2)
      intro token hprint
      have hsame : token = request.attachAttemptToken := by
        rw [htoken]
        exact h.token_eq hcommitted (hgen ▸ hprint)
      rcases mem_append.mp hprint with hmem | hmem
      · obtain ⟨attach, hattach, heq⟩ := mem_map.mp hmem
        exact hcurrent attach (by simpa using hattach) ((Prod.mk.inj heq).1.trans hsame)
      · obtain ⟨record, hrecord, heq⟩ := mem_map.mp hmem
        have hne := lookup_eq_none_iff.mp hlookup record hrecord
        simp [(Prod.mk.inj heq).1.trans hsame] at hne
  unfold attachTokenPhase
  split
  next attach hattach =>
    split
    · split
      · simp
      · split <;> simp
    next hother => exact hret (by simpa [hattach] using hother)
  next hattach => exact hret (by simp [hattach])

end ReceiptSlot

def ReceiptHistory.Recorded (history : ReceiptHistory) : Prop :=
  history.slot.Recorded history.log ∧ history.enrolled.Recorded []

theorem receiptMachine_recorded (h : receiptMachine.Reachable history) :
    history.Recorded := by
  apply h.invariant
  · rintro history ⟨hslot, hlog, _, _, _, _, _, henrolled⟩
    have hrec : history.enrolled.Recorded [] := by
      rw [henrolled]
      exact ⟨rfl, rfl, by simp [ReceiptSlot.fingerprints, ReceiptSlot.enroll]⟩
    unfold ReceiptHistory.Recorded
    rw [hslot, hlog]
    exact ⟨hrec, hrec⟩
  · rintro history action history' ⟨hslot, henrolled⟩ hnext
    have hcommit : ∀ {slot row}, slot.Recorded history.log →
        history.commit slot row = some history' → history'.Recorded := by
      intro slot row hrec hcommit
      obtain ⟨slot', happly, rfl⟩ := Option.map_eq_some_iff.mp hcommit
      exact ⟨hrec.apply happly, henrolled⟩
    cases action with
    | credentialAttach request allocation binding =>
      simp only [receiptMachine, ReceiptHistory.next] at hnext
      split at hnext
      · exact hcommit (hslot.pruned allocation.admittedNow) hnext
      · cases hnext
        exact ⟨hslot.pruned allocation.admittedNow, henrolled⟩
    | credentialReissue expectedGeneration attachSecret now =>
      simp only [receiptMachine, ReceiptHistory.next] at hnext
      split at hnext
      · cases hnext
        exact ⟨hslot, henrolled⟩
      · exact hcommit hslot hnext
    | pruneExpiredProvenance now =>
      cases hnext
      exact ⟨hslot.pruned now, henrolled⟩
    | restart window =>
      obtain ⟨slot, hreplay, rfl⟩ := Option.map_eq_some_iff.mp hnext
      exact ⟨Journal.replay_invariant henrolled (fun _ _ _ _ hrec happly => hrec.apply happly) hreplay, henrolled⟩

/-- An attach request with the token and the generation of an attach that committed is never taken for one
that did not. -/
theorem committed_attach_not_noMatch {history : ReceiptHistory} (h : receiptMachine.Reachable history)
    {committed request : Wire.CredentialAttachRequest} {allocation : StoredAttachAllocation}
    (hcommitted : .attached committed allocation ∈ history.log) (htoken : request.attachAttemptToken =
    committed.attachAttemptToken) (hgeneration : request.capabilityGeneration = committed.capabilityGeneration)
    (now : Nat) : (history.slot.attachTokenPhase request now).1 ≠ .noMatch :=
  (receiptMachine_recorded h).1.not_noMatch hcommitted htoken hgeneration now

theorem committed_attach_not_noMatch_superseded : ∃ history,
    receiptMachine.Reachable history ∧ history.slot.member.generation = 3 ∧
      (history.slot.attachTokenPhase ⟨⟨⟨1, 0, 1, none⟩, 7⟩, 10⟩ 4).1 ≠ .noMatch := by
  obtain ⟨history, hrun, hgeneration, hcommitted⟩ := @Fallible.exists_of_any _
    (receiptMachine.run ⟨4, .enroll 1 0 10 5 9, .enroll 1 0 10 5 9, []⟩
      [.credentialAttach ⟨⟨⟨1, 0, 1, none⟩, 7⟩, 10⟩ ⟨11, ⟨1, 0⟩, 1, 3, 9⟩ .detached,
        .credentialAttach ⟨⟨⟨1, 0, 2, none⟩, 8⟩, 11⟩ ⟨12, ⟨1, 1⟩, 2, 4, 10⟩ .detached, .restart 2])
    (fun history => history.slot.member.generation = 3 ∧
      .attached ⟨⟨⟨1, 0, 1, none⟩, 7⟩, 10⟩ ⟨11, ⟨1, 0⟩, 1, 3, 9⟩ ∈ history.log) _ (by decide)
  have hreachable : receiptMachine.Reachable history :=
    Machine.Reachable.run (.start ⟨rfl, rfl, 1, 0, 10, 5, 9, rfl⟩) hrun
  exact ⟨history, hreachable, hgeneration, committed_attach_not_noMatch hreachable hcommitted rfl rfl 4⟩

end Liminal
