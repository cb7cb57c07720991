import Liminal.Wire.Canonical

/-!
# Answers have one encoding

The reader of an answer is selected by the discriminant and the request it names, and reads also the
redundant fields; what is not kept has been compared. A frame is accepted only in the bytes that are
written for it.
-/

namespace Liminal.Wire

open Codec Checked Fallible Put Format List

variable {discriminant : ServerDiscriminant} {origin : Option ClientDiscriminant}
  {receiver : ReceiverDirection} {frame : ParticipantFrame}

/-! ### Answers -/

/-- The suffix of an answer that has the discriminant and belongs to the request. -/
def suffixFor (discriminant : ServerDiscriminant) (origin : Option ClientDiscriminant) : ServerValue → WirePut :=
  Put.only .invalidValue (fun value => value.discriminant = discriminant ∧ value.originatingRequest = origin)
    encodeServerSuffix

theorem suffixFor_eq (hdisc : value.discriminant = discriminant)
    (horigin : value.originatingRequest = origin) : suffixFor discriminant origin value = encodeServerSuffix value :=
  if_pos ⟨hdisc, horigin⟩

/-- Whatever the request was, the answer is accepted only as it is written. -/
def Answers {α : Type} (discriminant : ServerDiscriminant) (take : ClientDiscriminant → WireGet α)
    (answer : α → ServerValue) : Prop :=
  ∀ origin, Writes (take origin) fun value => suffixFor discriminant (some origin) (answer value)

theorem receiptExpired_writes : Answers .receiptExpired takeReceiptExpired .receiptExpired := by
  intro origin
  refine .of_completes (.next₂ fun _ _ => .next fun _ => ?_)
  cases origin with
  | enrollmentRequest =>
    refine .next fun _ => .check (.next₂ fun _ _ => .next fun _ =>
      .pure fun hknown => ?_)
    obtain ⟨-, rfl⟩ := hknown
    exact suffixFor_eq rfl rfl
  | credentialAttachRequest =>
    exact .field requiredGenerationOption_writes fun _ => .next₂ fun _ _ =>
      .next₂ fun _ _ => .pure fun _ => suffixFor_eq rfl rfl
  | _ => exact .fail

theorem requireOne_writes (expected : Nat) : Writes (requireOne expected) fun _ => putU64 expected := by
  refine .of_completes (.next fun value => ?_)
  rw [← bind_pure (Get.invalidateUnless _)]
  refine .check (.pure fun hknown => ?_)
  rw [hknown.2]
  exact (seq_single _).symm

theorem wireScope_of_enrollmentReceiptScope (h : enrollmentReceiptScope wireScope = some scope) :
    scope.wireScope = wireScope := by
  cases wireScope <;> cases h <;> rfl

theorem receiptCapacity_writes : Answers .receiptCapacityExceeded takeReceiptCapacity .receiptCapacityExceeded := by
  intro origin
  cases origin with
  | enrollmentRequest =>
    refine .of_completes (.next₂ fun _ _ => .orFail fun scope hscope => .next₂ fun _ _ =>
      .field (requireOne_writes _) fun _ => .pure fun _ => ?_)
    rw [← wireScope_of_enrollmentReceiptScope hscope]
    exact suffixFor_eq rfl rfl
  | credentialAttachRequest =>
    exact .of_completes (.next₂ fun _ _ => .next₂ fun _ _ =>
      .field (requireOne_writes _) fun _ => .pure fun _ => suffixFor_eq rfl rfl)
  | _ => exact .fail

theorem observerBackpressure_writes :
    Answers .observerBackpressure takeObserverBackpressure .observerBackpressure := by
  intro origin
  cases origin with
  | enrollmentRequest | credentialAttachRequest | recordAdmission =>
    exact .of_completes (.next₂ fun _ _ => .pure fun _ => suffixFor_eq rfl rfl)
  | detachRequest | leaveRequest =>
    exact .of_completes (.next₂ fun _ _ => .next fun _ =>
      .pure fun _ => suffixFor_eq rfl rfl)
  | _ => exact .fail

/-! ### Authority -/

theorem detachStaleAuthority_writes :
    Writes takeDetachStaleAuthority fun value => putStaleAuthority (.detach value) := by
  refine .of_completes (.next fun tag => ?_)
  cases tag with
  | live => exact .next₂ fun _ _ => .pure fun _ => rfl
  | terminalizedDetachCell => exact .last fun _ _ => rfl

theorem leaveStaleAuthority_writes : Writes takeLeaveStaleAuthority fun value => putStaleAuthority (.leave value) := by
  refine .of_completes (.next₂ fun tag _ => ?_)
  cases tag with
  | live | committedLeaveTombstone => exact .last fun _ _ => rfl

theorem staleAuthority_writes : Answers .staleAuthority takeStaleAuthority .staleAuthority := by
  intro origin
  cases origin with
  | credentialAttachRequest | participantAck | markerAck | recordAdmission =>
    exact .of_completes (.next₂ fun _ _ => .pure fun _ => suffixFor_eq rfl rfl)
  | detachRequest => exact .map detachStaleAuthority_writes
  | leaveRequest => exact .map leaveStaleAuthority_writes
  | _ => exact .fail

/-! ### The suffix -/

theorem attemptTokenBodyConflict_writes :
    Answers .attemptTokenBodyConflict takeAttemptTokenBodyConflict .attemptTokenBodyConflict := by
  intro origin
  refine .of_completes (.next₂ fun _ operation => ?_)
  cases origin with
  | credentialAttachRequest =>
    refine .require fun hop => .next₂ fun _ _ => .next₂ fun _ _ =>
      .next fun _ => .pure fun _ => ?_
    subst hop
    exact suffixFor_eq rfl rfl
  | leaveRequest =>
    refine .require fun hop => .next₂ fun _ _ => .next₂ fun _ conflict => .check (.pure fun hknown => ?_)
    subst hop
    rw [hknown.2]
    exact suffixFor_eq rfl rfl
  | recordAdmission =>
    refine .require fun hop => .next₂ fun _ _ => .next fun _ => .pure fun _ => ?_
    subst hop
    exact suffixFor_eq rfl rfl
  | _ => exact .fail

theorem bindingOccupied_writes :
    Answers .connectionConversationBindingOccupied takeBindingOccupied .connectionConversationBindingOccupied := by
  intro origin
  cases origin with
  | enrollmentRequest | credentialAttachRequest =>
    refine .of_completes (.next₂ fun _ _ => .check (.pure fun hknown => ?_))
    rw [hknown.2]
    exact suffixFor_eq rfl rfl
  | _ => exact .fail

theorem orderExhausted_writes :
    Answers .conversationOrderExhausted takeOrderExhausted .conversationOrderExhausted := by
  intro origin
  refine .of_completes (.fieldIf (orderAllocating_selects.writes origin) fun request =>
    .next₂ fun counter _ => .next₂ fun _ _ => .next fun _ => .field (requireOne_writes _) fun _ =>
    .next₂ fun _ _ => .check (.pure fun hknown => ?_))
  obtain ⟨⟨-, rfl⟩, rfl⟩ := hknown
  cases request <;> exact suffixFor_eq rfl rfl

theorem retired_writes : Answers .retired takeRetired .retired := by
  intro origin
  cases origin with
  | enrollmentRequest =>
    exact .of_completes (.next₂ fun _ _ => .next fun _ =>
      .pure fun _ => suffixFor_eq rfl rfl)
  | _ =>
    exact .of_completes (.fieldIf (participantReference_selects.writes _) fun request => .next fun _ =>
      .pure fun hknown => suffixFor_eq rfl (congrArg some hknown.2))

theorem markerClosure_writes :
    Answers .markerClosureCapacityExceeded takeMarkerClosure .markerClosureCapacityExceeded := by
  intro origin
  refine .of_completes (.fieldIf (closureChecked_selects.writes origin) fun request => .next₂ fun scope _ =>
    .fieldIf (closureRefusalReason_selects.writes scope) fun reason => .pure fun hknown => ?_)
  obtain ⟨⟨-, rfl⟩, rfl⟩ := hknown
  cases request <;> exact suffixFor_eq rfl rfl

theorem detachCommitted_writes :
    Writes takeDetachCommitted fun value => encodeServerSuffix (.detachCommitted value) := by
  refine .of_completes (.next₂ fun _ _ => .next₂ fun _ _ => .next₂ fun _ _ => .check (.pure fun hknown => ?_))
  rw [hknown.2]
  rfl

theorem ackNoOp_writes : Answers .ackNoOp takeAckNoOp .ackNoOp := by
  intro origin
  cases origin with
  | participantAck | markerAck =>
    refine .of_completes (.next₂ fun _ _ => .check (.pure fun hknown => ?_))
    rw [hknown.2]
    exact suffixFor_eq rfl rfl
  | _ => exact .fail

theorem leaveCommitted_writes : Writes takeLeaveCommitted fun value => encodeServerSuffix (.leaveCommitted value) := by
  refine .of_completes (.next₂ fun _ _ => .next₂ fun _ _ => .next₂ fun _ _ => .next₂ fun _ _ => .require fun hgen => ?_)
  rw [← bind_pure (Get.orFail _ _)]
  refine .orFail fun value hvalue => .pure fun _ => ?_
  unfold LeaveCommitted.new at hvalue
  split_ifs at hvalue
  obtain rfl := Option.some.inj hvalue
  rw [hgen]
  rfl

theorem recoveryAccepted_writes :
    Writes takeRecoveryAccepted fun value => encodeServerSuffix (.observerRecoveryAccepted value) := by
  refine .of_completes (.next fun count => .still requireFixedList_still fun _ =>
    .fieldWith (writes.times count) (.times_length _ _) fun statuses hlength =>
    .pure fun _ => ?_)
  subst hlength
  rfl

theorem requireZeroRecoveryCount_writes : Writes requireZeroRecoveryCount fun _ => putU64 0 := by
  refine .of_completes (.next fun count => ?_)
  rw [← bind_pure (Get.require _ _)]
  refine .require fun hzero => .pure fun _ => ?_
  rw [hzero]
  exact (seq_single _).symm

theorem invalidObserverEpoch_completes : Completes takeInvalidObserverEpoch True [putU64 0] fun value =>
      encodeServerSuffix (.invalidObserverEpoch value) := by
  refine .next₂ fun reason _ => .next₂ fun _ current => ?_
  cases reason with
  | conversationUnknown =>
    refine .check (.pure fun hknown => ?_)
    rw [hknown.2]
    rfl
  | epochAhead =>
    refine .check (.pure fun hknown => ?_)
    obtain ⟨progress, rfl⟩ := Option.isSome_iff_exists.mp hknown.2
    rfl

theorem invalidObserverEpochList_completes : Completes takeInvalidObserverEpochList True [putU64 0] fun value =>
      encodeServerSuffix (.invalidObserverEpochList value) := by
  refine .next fun reason => ?_
  cases reason with
  | tooManyEntries => exact .next₂ fun _ _ => .pure fun _ => rfl
  | duplicateConversation => exact .next₂ fun _ _ => .next fun _ => .pure fun _ => rfl

theorem markerSettlement_writes :
    Answers .markerSettlementBackpressure takeMarkerSettlement .markerSettlementBackpressure := by
  intro origin
  refine .of_completes (.next₂ fun _ _ => ?_)
  cases origin with
  | credentialAttachRequest | detachRequest => exact .pure fun _ => suffixFor_eq rfl rfl
  | _ => exact .fail

theorem originSuffix_writes (origin : ClientDiscriminant) (discriminant : ServerDiscriminant) :
    Writes (decodeOriginSuffix origin discriminant) (suffixFor discriminant (some origin)) := by
  cases discriminant with
  | attemptTokenBodyConflict => exact .map (attemptTokenBodyConflict_writes origin)
  | connectionConversationCapacityExceeded =>
    refine .of_completes (.fieldIf (responseEnvelope_selects.writes origin) fun request =>
      .next fun _ => .pure fun hknown => ?_)
    exact suffixFor_eq rfl (congrArg some hknown.2)
  | connectionConversationBindingOccupied => exact .map (bindingOccupied_writes origin)
  | conversationOrderExhausted => exact .map (orderExhausted_writes origin)
  | participantUnknown =>
    refine .of_completes (.lastIf (participantReference_selects.writes origin) fun request hknown => ?_)
    rw [nil_append, seq_single]
    exact suffixFor_eq rfl (congrArg some hknown.2)
  | noBinding =>
    refine .of_completes (.lastIf (bindingRequired_selects.writes origin) fun request hknown => ?_)
    rw [nil_append, seq_single]
    exact suffixFor_eq rfl (congrArg some hknown.2)
  | staleAuthority => exact .map (staleAuthority_writes origin)
  | retired => exact .map (retired_writes origin)
  | markerClosureCapacityExceeded => exact .map (markerClosure_writes origin)
  | receiptExpired => exact .map (receiptExpired_writes origin)
  | receiptCapacityExceeded => exact .map (receiptCapacity_writes origin)
  | observerBackpressure => exact .map (observerBackpressure_writes origin)
  | conversationSequenceExhausted =>
    refine .of_completes (.fieldIf (sequenceAllocating_selects.writes origin) fun request =>
      .next fun _ => .pure fun hknown => ?_)
    obtain ⟨-, rfl⟩ := hknown
    cases request <;> exact suffixFor_eq rfl rfl
  | markerNotDelivered =>
    refine .of_completes (.fieldIf (markerProof_selects.writes origin) fun request =>
      .next₂ fun _ _ => .pure fun hknown => ?_)
    exact suffixFor_eq rfl (congrArg some hknown.2)
  | markerMismatch =>
    refine .of_completes (.fieldIf (markerProof_selects.writes origin) fun request => .next fun reason =>
      .fieldIf (markerMismatchBody_selects.writes reason) fun mismatch => .pure fun hknown => ?_)
    obtain ⟨⟨-, hrequest⟩, rfl⟩ := hknown
    exact suffixFor_eq rfl (congrArg some hrequest)
  | bound | unboundReceipt =>
    refine .of_completes (.lastIf (receiptReplay_selects.writes origin) fun replay hknown => ?_)
    rw [nil_append, seq_single]
    exact suffixFor_eq rfl (congrArg some hknown.2)
  | ackNoOp => exact .map (ackNoOp_writes origin)
  | markerSettlementBackpressure => exact .map (markerSettlement_writes origin)
  | _ => exact .fail

/-- Every answer is accepted only as it is written. -/
theorem serverSuffix_writes (h : ∀ request ∈ origin, originIsValid discriminant request = true)
    (hcarries : origin.isSome = carriesOrigin discriminant) :
    Writes (decodeServerSuffix discriminant origin) (suffixFor discriminant origin) := by
  cases origin with
  | none =>
    cases discriminant with
    | participantTransportRejected => exact .map writes
    | observerRecoveryAccepted => exact .map recoveryAccepted_writes
    | invalidObserverEpoch =>
      exact .of_completes (.field requireZeroRecoveryCount_writes fun _ =>
        .map invalidObserverEpoch_completes)
    | invalidObserverEpochList =>
      exact .of_completes (.field requireZeroRecoveryCount_writes fun _ =>
        .map invalidObserverEpochList_completes)
    | observerRecoveryConnectionCapacityExceeded =>
      exact .of_completes (.field requireZeroRecoveryCount_writes fun _ => .next₂ fun _ _ =>
        .pure fun _ => suffixFor_eq rfl rfl)
    | _ => cases hcarries
  | some request =>
    have hmem : request ∈ validOrigins discriminant := of_decide_eq_true (h request rfl)
    cases discriminant with
    | participantTransportRejected | observerRecoveryAccepted | invalidObserverEpoch
    | invalidObserverEpochList | observerRecoveryConnectionCapacityExceeded => cases hcarries
    | enrollBound | attachBound =>
      obtain rfl := mem_singleton.mp hmem
      exact .map writes
    | enrollmentKnown | recordTooLarge =>
      obtain rfl := mem_singleton.mp hmem
      exact .of_completes (.next₂ fun _ _ => .next₂ fun _ _ =>
        .pure fun _ => suffixFor_eq rfl rfl)
    | identityCapacityExceeded =>
      obtain rfl := mem_singleton.mp hmem
      exact .of_completes (.next₂ fun _ _ => .next₂ fun _ _ =>
        .field (requireOne_writes _) fun _ => .pure fun _ => suffixFor_eq rfl rfl)
    | staleOrUnknownReceipt =>
      obtain rfl := mem_singleton.mp hmem
      exact .of_completes (.next₂ fun _ _ => .next₂ fun _ _ =>
        .next₂ fun _ _ => .pure fun _ => suffixFor_eq rfl rfl)
    | detachCommitted =>
      obtain rfl := mem_singleton.mp hmem
      exact .map detachCommitted_writes
    | detachInProgress =>
      obtain rfl := mem_singleton.mp hmem
      exact .of_completes (.next₂ fun _ _ => .next₂ fun _ _ =>
        .next fun _ => .pure fun _ => suffixFor_eq rfl rfl)
    | ackCommitted | markerAckCommitted =>
      obtain rfl := mem_singleton.mp hmem
      refine .of_completes (.next₂ fun _ _ => .check (.pure fun hknown => ?_))
      rw [hknown.2]
      exact suffixFor_eq rfl rfl
    | ackGap | ackRegression =>
      obtain rfl := mem_singleton.mp hmem
      refine .of_completes (.next₂ fun _ _ => .next fun reason => .map ?_)
      rw [← bind_pure (Get.orFail _ _)]
      refine .orFail fun value hvalue => .pure fun _ => ?_
      simp only [AckGap.new, AckRegression.new] at hvalue
      split_ifs at hvalue
      obtain rfl := Option.some.inj hvalue
      exact suffixFor_eq rfl rfl
    | leaveCommitted =>
      obtain rfl := mem_singleton.mp hmem
      exact .map leaveCommitted_writes
    | recordCommitted =>
      obtain rfl := mem_singleton.mp hmem
      refine .of_completes (.next₂ fun _ _ => .check (.next fun _ =>
        .pure fun hknown => ?_))
      rw [hknown.2]
      exact suffixFor_eq rfl rfl
    | enrollmentSettlementBackpressure =>
      obtain rfl := mem_singleton.mp hmem
      exact .of_completes (.orFail fun _ _ => .next fun _ => .pure fun _ => suffixFor_eq rfl rfl)
    | _ =>
      show Writes (Get.orFail invalidField (some request) >>= fun origin =>
        decodeOriginSuffix origin _) _
      rw [Get.orFail, pure_bind]
      exact originSuffix_writes request _

/-! ### Frames -/

variable (discriminant)

def answerFor : ServerValue → WirePut :=
  Put.only .invalidValue (fun value => value.discriminant = discriminant) encodeServerValueBody

theorem origin_writes : Writes (takeOrigin discriminant) putTag :=
  .of_completes (.next fun _ => .require fun _ => .pure fun _ => (seq_single _).symm)

theorem origin_ensures : Get.Ensures (takeOrigin discriminant) fun origin => originIsValid discriminant origin = true :=
  .bind .any fun _ _ => .bind .require fun _ hvalid => .pure hvalid

theorem serverValueBody_writes : Writes (decodeServerValueBody discriminant) (answerFor discriminant) := by
  unfold decodeServerValueBody
  split
  · rename_i hcarries
    refine .of_completes (.fieldWith (origin_writes discriminant) (origin_ensures discriminant) fun origin hvalid => ?_)
    have hsuffix : Writes (decodeServerSuffix discriminant (some origin)) (suffixFor discriminant (some origin)) := by
      refine serverSuffix_writes (fun request hrequest => ?_) hcarries.symm
      obtain rfl := Option.some.inj hrequest
      exact hvalid
    rw [← bind_pure (decodeServerSuffix discriminant (some origin))]
    refine .fieldIf hsuffix fun value => .pure fun hknown => ?_
    obtain ⟨-, rfl, horigin⟩ := hknown
    rw [answerFor, only, if_pos rfl, encodeServerValueBody, if_pos hcarries, horigin]
    rfl
  · rename_i hcarries
    have hsuffix : Writes (decodeServerSuffix discriminant none) (suffixFor discriminant none) :=
      serverSuffix_writes nofun (Bool.eq_false_iff.mpr hcarries).symm
    rw [← bind_pure (decodeServerSuffix discriminant none)]
    refine .of_completes (.fieldIf hsuffix fun value => .pure fun hknown => ?_)
    obtain ⟨-, rfl, -⟩ := hknown
    rw [answerFor, only, if_pos rfl, encodeServerValueBody, if_neg hcarries]
    exact (seq_single _).symm

variable {discriminant}

/-- A body is accepted only as the body of its frame, by the side the frame is meant for. -/
theorem encodeBody_of_decodeFrameBody {discriminant : Nat} {body : Bytes}
    (h : decodeFrameBody receiver discriminant body = .ok frame) :
    frame.receiver = receiver ∧ frameDiscriminant frame = discriminant ∧ encodeBody frame = .ok body := by
  cases receiver with
  | server =>
    simp only [decodeFrameBody] at h
    split at h
    · rename_i tag htag
      obtain ⟨request, hrequest, rfl⟩ := map_eq_ok.mp h
      obtain ⟨rfl, hbody⟩ := only_eq_ok.mp (body_of_writes (clientRequest_writes tag) hrequest)
      exact ⟨rfl, Registry.wireValue_of_ofWire? htag, hbody⟩
    · cases h
  | client =>
    simp only [decodeFrameBody] at h
    split at h
    · rename_i tag htag
      obtain ⟨push, hpush, rfl⟩ := map_eq_ok.mp h
      obtain ⟨rfl, hbody⟩ := only_eq_ok.mp (body_of_writes (serverPush_writes tag) hpush)
      exact ⟨rfl, Registry.wireValue_of_ofWire? htag, hbody⟩
    · split at h
      · rename_i tag htag
        obtain ⟨value, hvalue, rfl⟩ := map_eq_ok.mp h
        obtain ⟨rfl, hbody⟩ := only_eq_ok.mp (body_of_writes (serverValueBody_writes tag) hvalue)
        exact ⟨rfl, Registry.wireValue_of_ofWire? htag, hbody⟩
      · cases h

theorem header_writes : Writes takeHeader fun header =>
    seq [putU8 header.frameType, putU8 header.flags, putU32 header.streamId, putU32 header.payloadLen] :=
  .of_completes (.next₂ fun _ _ => .next₂ fun _ _ => .pure fun _ => rfl)

theorem header_quiet : Quiet takeHeader :=
  .bind .unsigned fun _ => .bind .unsigned fun _ => .bind .unsigned fun _ => .bind .unsigned
    fun _ => .pure

theorem protocolVersion_quiet : Quiet takeProtocolVersion :=
  .bind .unsigned fun _ => .bind .unsigned fun _ => .pure

theorem putU8_head
    (h : seq (putU8 frameType :: puts) = .ok bytes) : ∃ byte ∈ (bytes ++ rest).head?, byte.toNat = frameType := by
  obtain ⟨start, others, hstart, -, rfl⟩ := seq_cons_eq_ok.mp h
  obtain ⟨hfits, rfl⟩ := unsigned_eq_ok.mp hstart
  refine ⟨UInt8.ofNat (frameType / 256 ^ 0), rfl, ?_⟩
  rw [Nat.pow_zero, Nat.div_one, UInt8.toNat_ofNat']
  exact Nat.mod_eq_of_lt hfits

theorem payloadLen_lt (h : putHeader payloadLen = .ok bytes) : payloadLen < 2 ^ 32 := by
  obtain ⟨-, tail, -, htail, -⟩ := seq_cons_eq_ok.mp h
  obtain ⟨-, tail', -, htail', -⟩ := seq_cons_eq_ok.mp htail
  obtain ⟨-, tail'', -, htail'', -⟩ := seq_cons_eq_ok.mp htail'
  obtain ⟨length, -, hlength, -, -⟩ := seq_cons_eq_ok.mp htail''
  exact (unsigned_eq_ok.mp hlength).1

theorem frameBytes_of_decode (h : decode input receiver = .ok frame) :
    frame.receiver = receiver ∧ ∃ body, encodeBody frame = .ok body ∧
      participantPrefixLen + body.length < 2 ^ 32 ∧ frameBytes frame body = .ok input := by
  simp only [decode, ok_iff, Prod.exists] at h
  obtain ⟨htype, -, header, payload, hheader, ⟨hflags, hstream, -⟩, hcompl, hexact, version,
    tail, hversion, rfl, discriminant, body, hdisc, hbody⟩ := h
  have hpayload := header_quiet _ _ _ hheader
  have htail := (protocolVersion_quiet _ _ _ hversion).trans hpayload
  have hrest := (Quiet.unsigned _ _ _ hdisc).trans htail
  obtain ⟨-, headerBytes, hputHeader, happend⟩ := header_writes _ _ _ hheader hpayload
  obtain ⟨-, versionBytes, hputVersion, happend'⟩ :=
    (writes : Writes takeProtocolVersion putProtocolVersion) _ _ _ hversion htail
  obtain ⟨-, discriminantBytes, hputDiscriminant, happend''⟩ :=
    (writes : Writes takeU16 putU16) _ _ _ hdisc hrest
  obtain ⟨hreceiver, rfl, hencode⟩ := encodeBody_of_decodeFrameBody hbody
  obtain ⟨frameType, flags, streamId, payloadLen⟩ := header
  obtain rfl : flags = 0 := hflags
  obtain rfl : streamId = 0 := hstream
  rw [happend', happend''] at happend
  obtain rfl : input = headerBytes ++ (versionBytes ++ (discriminantBytes ++ body.rest)) := happend
  obtain ⟨byte, hhead, hbyte⟩ := putU8_head hputHeader
  rw [hhead, Option.all_some, decide_eq_true_eq] at htype
  obtain rfl : frameType = participantFrameType := hbyte.symm.trans htype
  have hheaderLength := (putHeader_eq_ok hputHeader).2
  have hversionLength : versionBytes.length = 4 := by
    obtain rfl := Except.ok.inj hputVersion
    rfl
  have hdiscLength : discriminantBytes.length = 2 := by
    obtain ⟨-, rfl⟩ := unsigned_eq_ok.mp hputDiscriminant
    simp
  have hpayloadLen : payloadLen = participantPrefixLen + body.rest.length := by
    simp only [length_append, hheaderLength, hversionLength, hdiscLength] at hcompl hexact
    simp only [participantPrefixLen]
    omega
  subst hpayloadLen
  refine ⟨hreceiver, body.rest, hencode, payloadLen_lt hputHeader, ?_⟩
  exact seq_cons_eq_ok.mpr ⟨_, _, hputHeader, seq_cons_eq_ok.mpr ⟨_, _, hputVersion,
    seq_cons_eq_ok.mpr ⟨_, _, hputDiscriminant, seq_single _, rfl⟩, rfl⟩, rfl⟩

/-- Whatever is accepted by a side is a frame for that side, and writing the frame gives exactly the bytes
that were read. -/
theorem wire_canonical {input : Bytes}
    (h : decode input receiver = .ok frame) : frame.receiver = receiver ∧ encodedLen frame = .ok input.length ∧
      ∀ output : Bytes, input.length ≤ output.length →
        encode frame output = .ok (input.length, input ++ output.drop input.length) := by
  obtain ⟨hreceiver, body, hbody, hfits, hbytes⟩ := frameBytes_of_decode h
  obtain ⟨bytes, hbytes', hlength⟩ := exists_frameBytes frame hfits
  obtain rfl : input = bytes := Except.ok.inj (hbytes.symm.trans hbytes')
  refine ⟨hreceiver, encodedLen_eq_ok.mpr ⟨body, hbody, hfits, hlength⟩, fun output hroom => ?_⟩
  exact encode_eq_ok.mpr ⟨body, input, hbody, hfits, hbytes, rfl, hroom, rfl⟩

def markerSettledBytes : Bytes :=
  [0x1A, 0, 0, 0, 0, 0, 0, 0, 0, 22, 0, 1, 0, 0, 0x02, 0x02, 0, 0, 0, 0, 0, 0, 0, 7, 0, 0, 0, 0, 0, 0, 0, 3]

set_option maxRecDepth 2000 in
theorem wire_canonical_markerSettled : decode markerSettledBytes .client = .ok (.serverPush (.markerSettled 7 3)) ∧
    encode (.serverPush (.markerSettled 7 3)) (replicate 33 0) = .ok (32, markerSettledBytes ++ [0]) := by
  have hdecode : decode markerSettledBytes .client = .ok (.serverPush (.markerSettled 7 3)) := by
    apply toOption_eq_some.mp
    decide
  exact ⟨hdecode, (wire_canonical hdecode).2.2 (replicate 33 0) (by decide)⟩

/-- The bytes of frames in a row, of either direction, are cut into frames in one way only. -/
theorem frames_uniquely_decodable : InformationTheory.UniquelyDecodable
    {bytes : Bytes | ∃ receiver frame, decode bytes receiver = .ok frame} := by
  refine uniquelyDecodable_of_extent ?_ (fun bytes => (takeHeader ⟨bytes, false⟩).toOption.elim 0
    fun read => genericHeaderLen + read.1.payloadLen) ?_
  · rintro ⟨receiver, frame, h⟩
    simp only [decode, ok_iff] at h
    exact absurd h.2.1 (by decide)
  · rintro bytes ⟨receiver, frame, h⟩ rest
    simp only [decode, ok_iff, Prod.exists] at h
    obtain ⟨-, -, header, payload, hheader, -, hcompl, hexact, -⟩ := h
    -- What follows the frame does not change how its header is read.
    obtain ⟨-, headerBytes, hput, rfl⟩ := header_writes _ _ _ hheader (header_quiet _ _ _ hheader)
    have hreads : Reads takeHeader (seq [putU8 header.frameType, putU8 header.flags,
        putU32 header.streamId, putU32 header.payloadLen]) header :=
      .next (.next (.next (.next (.pure _))))
    rw [append_assoc, hreads headerBytes hput]
    exact Nat.le_antisymm hcompl hexact

end Liminal.Wire
