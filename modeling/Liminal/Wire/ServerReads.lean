import Liminal.Wire.ServerCodec

/-!
# Answers are read back

What was written for an answer is read back as that answer by the reader its discriminant and
request select. The reader's comparisons hold of redundant fields, and what a constructor of the
source checks is carried by the value.
-/

namespace Liminal.Wire

open Codec Checked Put Format EnrollBound

variable {conversationId : ConversationId} {participantId : ParticipantId} {attachSecret : AttachSecret}
  {originBindingEpoch : BindingEpoch} {receiptExpiresAt provenanceExpiresAt : Nat}

/-! ### Echoed requests -/

/-- A reader that a key selects reads back what has the key, and nothing else. -/
structure Selects {κ α : Type} [DecidableEq κ] (take : κ → WireGet α) (key : α → κ) (put : α → WirePut) : Prop where
  reads : ∀ value, Reads (take (key value)) (put value) value
  writes : ∀ selected, Writes (take selected) (only .invalidValue (fun value => key value = selected) put)

theorem responseEnvelope_selects : Selects takeResponseEnvelope (·.originatingRequest) putResponseEnvelope where
  reads request := by cases request <;> exact .mapped rfl
  writes origin := by cases origin <;> first | exact .fail | exact .map writes

theorem participantReference_selects : Selects takeParticipantReference (·.origin) putParticipantReference where
  reads request := by cases request <;> exact .mapped rfl
  writes origin := by cases origin <;> first | exact .fail | exact .map writes

theorem bindingRequired_selects : Selects takeBindingRequired (·.origin) putBindingRequired where
  reads request := by cases request <;> exact .mapped rfl
  writes origin := by cases origin <;> first | exact .fail | exact .map writes

theorem orderAllocating_selects : Selects takeOrderAllocating (·.origin) putOrderAllocating where
  reads request := by cases request <;> exact .mapped rfl
  writes origin := by cases origin <;> first | exact .fail | exact .map writes

theorem closureChecked_selects : Selects takeClosureChecked (·.origin) putClosureChecked where
  reads request := by cases request <;> exact .mapped rfl
  writes origin := by cases origin <;> first | exact .fail | exact .map writes

theorem sequenceAllocating_selects : Selects takeSequenceAllocating (·.origin) putSequenceAllocating where
  reads request := by cases request <;> exact .mapped rfl
  writes origin := by cases origin <;> first | exact .fail | exact .map writes

theorem markerProof_selects : Selects takeMarkerProof (·.origin) putMarkerProof where
  reads request := by
    cases request with
    | credentialAttach request => exact .next (.next (.next (.next (.next (.pure _)))))
    | markerAck request => exact .next (.next (.next (.next (.pure _))))
  writes origin := by
    cases origin with
    | credentialAttachRequest =>
      exact .of_completes (.next₂ fun _ _ => .next₂ fun _ _ => .next fun _ =>
        .pure fun _ => rfl)
    | markerAck =>
      exact .of_completes (.next₂ fun _ _ => .next₂ fun _ _ =>
        .pure fun _ => rfl)
    | _ => exact .fail

/-! ### Closure and budget -/

theorem repaymentEdgeBody_selects : Selects takeRepaymentEdgeBody (·.tag) putRepaymentEdgeBody where
  reads edge := by
    cases edge with
    | none => exact .pure _
    | observerProjection => exact .single (.mapped rfl)
    | physicalCompaction | detachedCursorRelease => exact .next (.next (.pure _))
    | markerDelivery | detachedCredentialRecovery | detachedMarkerRelease =>
      exact .next (.next (.next (.pure _)))
    | participantCursorProgress edge => exact .next (.next (.next (.next (.pure _))))
  writes tag := by
    cases tag with
    | none => exact .of_completes (.pure fun _ => rfl)
    | observerProjection => exact .of_completes (.last fun _ _ => rfl)
    | physicalCompaction | detachedCursorRelease =>
      exact .of_completes (.next₂ fun _ _ => .pure fun _ => rfl)
    | markerDelivery | detachedCredentialRecovery | detachedMarkerRelease =>
      exact .of_completes (.next₂ fun _ _ => .next fun _ => .pure fun _ => rfl)
    | participantCursorProgress =>
      exact .of_completes (.next₂ fun _ _ => .next₂ fun _ _ =>
        .pure fun _ => rfl)

instance : Format takeRepaymentEdge putRepaymentEdge where
  reads edge := .next (.single (repaymentEdgeBody_selects.reads edge))
  writes := by
    refine .of_completes (.next fun tag => ?_)
    rw [← bind_pure (takeRepaymentEdgeBody tag)]
    refine .fieldIf (repaymentEdgeBody_selects.writes tag) fun edge => .pure fun hknown => ?_
    obtain rfl := hknown.2
    rfl

instance : Format takeClosureSnapshot putClosureSnapshot where
  reads _ := .next (.next (.next (.next (.next (.next (.next (.next (.next (.next (.next (.next (.pure _))))))))))))
  writes := .of_completes (.next₂ fun _ _ => .next₂ fun _ _ =>
    .next₂ fun _ _ => .next₂ fun _ _ => .next₂ fun _ _ =>
    .next₂ fun _ _ => .pure fun _ => rfl)

theorem closureRefusalReason_selects : Selects takeClosureRefusalReason (·.scope) putClosureRefusalReason where
  reads reason := by
    cases reason with
    | capacity => exact .next (.next (.next (.pure _)))
    | _ => exact .pure _
  writes scope := by
    cases scope with
    | capacity =>
      exact .of_completes (.next₂ fun _ _ => .next fun _ => .pure fun _ => rfl)
    | recoveryFence | deliveredMarkerAwaitingAck | episodeChurnLimit =>
      exact .of_completes (.pure fun _ => rfl)

instance : Format takeSequenceBudget putSequenceBudget where
  reads _ := .next (.next (.next (.next (.next (.next (.next (.next (.next (.next (.pure _))))))))))
  writes := .of_completes (.next₂ fun _ _ => .next₂ fun _ _ =>
    .next₂ fun _ _ => .next₂ fun _ _ => .next₂ fun _ _ =>
    .pure fun _ => rfl)

theorem requireOne_reads (expected : Nat) : Reads (requireOne expected) (putU64 expected) () :=
  (reads expected).andThen (.marked rfl)

theorem orderExhausted_reads (value : ConversationOrderExhausted) : Reads (takeOrderExhausted value.request.origin)
      (encodeServerSuffix (.conversationOrderExhausted value)) value :=
  .cons (orderAllocating_selects.reads _) (.next (.next (.next (.next (.next (.cons (requireOne_reads _)
    (.next (.next (.check rfl (.pure _))))))))))

/-! ### Receipts -/

theorem EnrollBound.new_eq_some {token value}
    (h : new conversationId token participantId attachSecret originBindingEpoch
      receiptExpiresAt provenanceExpiresAt = some value) :
    ∃ first, value = ⟨conversationId, token, participantId, attachSecret, originBindingEpoch,
      receiptExpiresAt, provenanceExpiresAt, first⟩ := by
  unfold new at h
  split at h
  · rename_i first
    exact ⟨first, (Option.some.inj h).symm⟩
  · cases h

instance : Format takeEnrollBound putEnrollBound where
  reads value := by
    refine .next (.next (.next (.next (.check rfl (.next (.check value.first (.next (.next
      (.check value.first (.next (.check rfl (.next (.check rfl (.next (.next (.ofSome ?_))))))))))))))))
    simp only [value.first, if_true, new, dif_pos]
  writes := by
    refine .of_completes (.next₂ fun _ _ => .next₂ fun _ _ => .check
      (.next fun _ => .check (.next₂ fun _ epoch => .check (.next fun _ => .check
      (.next fun _ => .check (.next₂ fun _ _ => ?_))))))
    rw [← bind_pure (Get.orFail _ _)]
    refine .orFail fun value hvalue => .pure fun hknown => ?_
    obtain ⟨⟨⟨⟨⟨-, rfl⟩, rfl⟩, hepoch⟩, rfl⟩, rfl⟩ := hknown
    rw [if_pos hepoch] at hvalue
    obtain ⟨first, rfl⟩ := new_eq_some hvalue
    show seq [_, _, _, _, putGeneration epoch.capabilityGeneration, _, _, _, _, _, _] = _
    rw [hepoch]
    rfl

theorem receiptFromFields_eq (value : AttachBound) :
    receiptFromFields value.conversationId value.token value.participantId value.requestGeneration
      value.attachSecret value.originBindingEpoch value.persistedCursor
      value.acceptedMarkerDeliverySeq value.receiptExpiresAt value.provenanceExpiresAt = some value := by
  obtain ⟨conversationId, token, participantId, requestGeneration, attachSecret, epoch, cursor,
    marker, receiptExpiresAt, provenanceExpiresAt, successor, fenced⟩ := value
  cases marker with
  | none => simp [receiptFromFields, AttachBound.ordinary, successor]
  | some marker =>
    obtain rfl : cursor = marker := fenced marker rfl
    simp [receiptFromFields, AttachBound.fencedAt, successor]

theorem receiptFromFields_eq_some {token value}
    (h : receiptFromFields conversationId token participantId requestGeneration attachSecret
      originBindingEpoch persistedCursor acceptedMarkerDeliverySeq receiptExpiresAt provenanceExpiresAt = some value) :
    ∃ successor fenced, value = ⟨conversationId, token, participantId, requestGeneration,
      attachSecret, originBindingEpoch, persistedCursor, acceptedMarkerDeliverySeq,
      receiptExpiresAt, provenanceExpiresAt, successor, fenced⟩ := by
  cases acceptedMarkerDeliverySeq with
  | none =>
    simp only [receiptFromFields, AttachBound.ordinary] at h
    split_ifs at h with successor
    exact ⟨successor, by simp, (Option.some.inj h).symm⟩
  | some marker =>
    simp only [receiptFromFields, AttachBound.fencedAt] at h
    split_ifs at h with hcursor successor
    subst hcursor
    exact ⟨successor, fun _ hmarker => Option.some.inj hmarker, (Option.some.inj h).symm⟩

theorem requiredGeneration_reads (generation : Generation) :
    Reads requiredGenerationOption (putOption putGeneration (some generation)) generation :=
  (reads (some generation)).andThen (.pure generation)

theorem requiredGenerationOption_writes :
    Writes requiredGenerationOption fun generation => putOption putGeneration (some generation) := by
  refine .of_completes (.next fun presented => ?_)
  cases presented with
  | some generation => exact .pure fun _ => (seq_single _).symm
  | none => exact .marked (.pure nofun)

theorem attachReceipt_reads (value : AttachBound) :
    Reads (takeAttachReceipt value.conversationId value.token value.participantId)
      (.seq [putOption putGeneration (some value.requestGeneration),
        putGeneration value.capabilityGeneration, putSecret value.attachSecret,
        putBindingEpoch value.originBindingEpoch, putU64 value.persistedCursor,
        putOption putU64 value.acceptedMarkerDeliverySeq, putU128 value.receiptExpiresAt,
        putU128 value.provenanceExpiresAt]) value :=
  .cons (requiredGeneration_reads _) (.next (.next (.next (.next (.next (.next (.next
    (.orFail (receiptFromFields_eq value) (.require rfl (.pure _))))))))))

theorem attachReceipt_completes (conversationId : ConversationId) (token : AttachAttemptToken)
    (participantId : ParticipantId) :
    Completes (takeAttachReceipt conversationId token participantId) known
      [putU64 conversationId, putToken token, putU64 participantId] putAttachBound := by
  refine .field requiredGenerationOption_writes fun _ => .next₂ fun _ _ =>
    .next₂ fun _ _ => .next₂ fun _ _ => .next fun _ =>
    .orFail fun value hvalue => .require fun hgen => .pure fun _ => ?_
  obtain ⟨successor, fenced, rfl⟩ := receiptFromFields_eq_some hvalue
  subst hgen
  rfl

instance : Format takeAttachBound putAttachBound where
  reads value := .next (.next (.next (attachReceipt_reads value)))
  writes := .of_completes (.next₂ fun _ _ =>
    .next fun _ => attachReceipt_completes _ _ _)

theorem receiptReplay_selects : Selects takeReceiptReplay (·.origin) putReceiptReplay where
  reads value := by
    cases value with
    | enrollment receipt =>
      have hnew : new receipt.conversationId receipt.token receipt.participantId
          receipt.attachSecret receipt.originBindingEpoch receipt.receiptExpiresAt
          receipt.provenanceExpiresAt = some receipt := by
        simp only [new, receipt.first, dif_pos]
      exact .next (.next (.next (.next (.next (.next (.next (.next (.next (.next (.next (.orFail hnew
        (.require ⟨rfl, receipt.first, rfl, rfl⟩ (.pure _)))))))))))))
    | credentialAttach receipt => exact .next (.next (.next ((attachReceipt_reads receipt).map _)))
  writes origin := by
    refine .of_completes (.next₂ fun _ _ => .next fun _ => ?_)
    cases origin with
    | enrollmentRequest =>
      refine .next₂ fun _ _ => .next₂ fun _ epoch => .next₂ fun _ _ => .next₂ fun _ _ => .orFail fun value hvalue =>
        .require fun hfixed => .pure fun _ => ?_
      obtain ⟨rfl, rfl, rfl, rfl⟩ := hfixed
      obtain ⟨first, rfl⟩ := new_eq_some hvalue
      show seq [_, _, _, _, putGeneration epoch.capabilityGeneration, _, _, _, _, _, _] = _
      rw [first]
      rfl
    | credentialAttachRequest =>
      exact .map (attachReceipt_completes _ _ _)
    | _ => exact .fail

theorem enrollmentReceiptScope_wireScope (scope : EnrollmentReceiptCapacityScope) :
    enrollmentReceiptScope scope.wireScope = some scope := by
  cases scope <;> rfl

instance : Format takeBackpressureState putBackpressureState where
  reads state := by
    refine .next (.next (.ofSome ?_))
    rw [ObserverBackpressureState.replay, dif_pos state.current]
  writes := by
    refine .of_completes (.next₂ fun epoch progress => ?_)
    rw [← bind_pure (Get.orFail _ _)]
    refine .orFail fun state hstate => .pure fun _ => ?_
    unfold ObserverBackpressureState.replay at hstate
    split_ifs at hstate
    obtain rfl := Option.some.inj hstate
    rfl

/-! ### Authority -/

instance : Format takeBindingStateView putBindingStateView where
  reads view := by
    cases view with
    | bound => exact .next (.single (.mapped rfl))
    | detached => exact .next (.pure _)
  writes := by
    refine .of_completes (.next fun tag => ?_)
    cases tag with
    | bound => exact .last fun _ _ => rfl
    | detached => exact .pure fun _ => rfl

instance : Format takeTerminalizedDetachCell putTerminalizedDetachCell where
  reads _ := .next (.next (.next (.next (.next (.next (.next (.pure _)))))))
  writes := .of_completes (.next₂ fun _ _ => .next₂ fun _ _ =>
    .next₂ fun _ _ => .next fun _ => .pure fun _ => rfl)

theorem staleAuthority_reads (value : StaleAuthority) :
    Reads (takeStaleAuthority value.origin) (putStaleAuthority value) value := by
  cases value with
  | live request current =>
    cases request with
    | credentialAttach | participantAck | markerAck | recordAdmission =>
      exact .next (.next (.pure _))
  | detach stale =>
    refine .map _ ?_
    cases stale with
    | live => exact .next (.next (.next (.pure _)))
    | terminalizedDetachCell cell => exact .next (.single (.mapped rfl))
  | leave stale =>
    refine .map _ ?_
    cases stale with
    | live | committedLeaveTombstone => exact .next (.next (.single (.mapped rfl)))

/-! ### The suffix -/

instance : Format takeTransportRejection putTransportRejection where
  reads reason := by
    cases reason with
    | frameTooLarge | unsupportedVersion => exact .next (.next (.next (.pure _)))
    | decodeFailed => exact .next (.single (.mapped rfl))
    | authenticationFailed => exact .next (.pure _)
    | participantCapabilityRequired => exact .next (.next (.check rfl (.pure _)))
  writes := by
    refine .of_completes (.next fun tag => ?_)
    cases tag with
    | frameTooLarge | unsupportedVersion => exact .next₂ fun _ _ => .pure fun _ => rfl
    | decodeFailed => exact .last fun _ _ => rfl
    | authenticationFailed => exact .pure fun _ => rfl
    | participantCapabilityRequired =>
      refine .next fun capability => .check (.pure fun hknown => ?_)
      rw [hknown.2]
      rfl

theorem markerMismatchBody_selects : Selects takeMarkerMismatchBody (·.reason) putMarkerMismatchBody where
  reads body := by
    cases body with
    | belowCursor | expectedDifferentMarker => exact .single (.mapped rfl)
    | noMarkerExpected => exact .pure _
  writes reason := by
    cases reason with
    | belowCursor | expectedDifferentMarker => exact .of_completes (.last fun _ _ => rfl)
    | noMarkerExpected => exact .of_completes (.pure fun _ => rfl)

instance : Format takeObserverProgressStatus putObserverProgressStatus where
  reads _ := .next (.next (.next (.next (.next (.pure _)))))
  writes := .of_completes (.next₂ fun _ _ => .next₂ fun _ _ =>
    .next fun _ => .pure fun _ => rfl)

theorem leaveCommitted_reads (value : LeaveCommitted) :
    Reads takeLeaveCommitted (encodeServerSuffix (.leaveCommitted value)) value := by
  refine .next (.next (.next (.next (.next (.next (.next (.next (.require rfl (.ofSome ?_)))))))))
  rw [LeaveCommitted.new, dif_pos value.ended, dif_pos value.prior]

theorem putObserverProgressStatus_length (status : ObserverProgressStatus) (bytes : Bytes)
    (h : putObserverProgressStatus status = .ok bytes) : bytes.length = recoveryStatusLen := by
  obtain ⟨conversation, tail, hconv, htail, rfl⟩ := seq_cons_eq_ok.mp h
  obtain ⟨refused, tail', hrefused, htail', rfl⟩ := seq_cons_eq_ok.mp htail
  obtain ⟨current, flags, hcurrent, hflags, rfl⟩ := seq_cons_eq_ok.mp htail'
  obtain ⟨armed, flag, harmed, hflag, rfl⟩ := seq_cons_eq_ok.mp hflags
  obtain ⟨progressed, nothing, hprogressed, hnothing, rfl⟩ := seq_cons_eq_ok.mp hflag
  obtain rfl := Except.ok.inj hnothing
  obtain ⟨-, rfl⟩ := unsigned_eq_ok.mp hconv
  obtain ⟨-, rfl⟩ := unsigned_eq_ok.mp hrefused
  obtain ⟨-, rfl⟩ := unsigned_eq_ok.mp hcurrent
  obtain ⟨-, rfl⟩ := unsigned_eq_ok.mp harmed
  obtain ⟨-, rfl⟩ := unsigned_eq_ok.mp hprogressed
  simp [recoveryStatusLen]

theorem recoveryAccepted_reads (value : ObserverRecoveryAccepted) :
    Reads takeRecoveryAccepted (encodeServerSuffix (.observerRecoveryAccepted value)) value := by
  refine .next (requireFixedList_reads ?_ ?_)
  · intro bytes hput
    obtain ⟨start, rest, hstart, -, rfl⟩ := seq_cons_eq_ok.mp hput
    have hlength := seq_map_length putObserverProgressStatus_length _ hstart
    simp only [List.length_append]
    omega
  · exact .cons (.times reads _) (.pure _)

theorem requireZeroRecoveryCount_reads : Reads requireZeroRecoveryCount (putU64 0) () :=
  (reads 0).andThen (.required rfl)

/-- Every answer is read back as it was written. -/
theorem serverSuffix_reads (value : ServerValue) :
    Reads (decodeServerSuffix value.discriminant value.originatingRequest) (encodeServerSuffix value) value := by
  cases value with
  | participantTransportRejected value => exact .mapped rfl
  | attemptTokenBodyConflict value =>
    cases value with
    | credentialAttach =>
      exact .orFail rfl (.map _ (.next (.next (.require rfl (.next (.next (.next (.next (.next (.pure _))))))))))
    | leave =>
      exact .orFail rfl (.map _ (.next (.next (.require rfl (.next (.next (.next (.next (.check rfl (.pure _))))))))))
    | recordAdmission =>
      exact .orFail rfl (.map _ (.next (.next (.require rfl (.next (.next (.next (.pure _))))))))
  | connectionConversationCapacityExceeded value =>
    cases value with
    | semanticRequest => exact .orFail rfl (.cons (responseEnvelope_selects.reads _) (.next (.pure _)))
    | observerRecovery => exact .cons requireZeroRecoveryCount_reads (.next (.next (.pure _)))
  | connectionConversationBindingOccupied value =>
    cases value with
    | enrollment | credentialAttach =>
      exact .orFail rfl (.map _ (.next (.next (.check rfl (.pure _)))))
  | conversationOrderExhausted value => exact .orFail rfl ((orderExhausted_reads value).map _)
  | participantUnknown value => exact .orFail rfl ((participantReference_selects.reads value.request).map _)
  | noBinding value => exact .orFail rfl ((bindingRequired_selects.reads value.request).map _)
  | staleAuthority value => exact .orFail rfl ((staleAuthority_reads value).map _)
  | retired value =>
    cases value with
    | enrollment => exact .orFail rfl (.map _ (.next (.next (.next (.pure _)))))
    | participant request retired =>
      cases request <;> exact .orFail rfl (.map _ (.cons (participantReference_selects.reads _) (.next (.pure _))))
  | markerClosureCapacityExceeded value =>
    exact .orFail rfl (.map _ (.cons (closureChecked_selects.reads _) (.next (.next
      (.cons (closureRefusalReason_selects.reads _) (.pure _))))))
  | enrollBound value => exact .mapped rfl
  | enrollmentKnown | recordTooLarge => exact .next (.next (.next (.next (.pure _))))
  | receiptExpired value =>
    cases value with
    | enrollment =>
      exact .orFail rfl (.map _ (.next (.next (.next (.next (.check rfl (.next (.next (.next (.pure _))))))))))
    | credentialAttach =>
      exact .orFail rfl (.map _ (.next (.next (.next (.cons (requiredGeneration_reads _) (.next
        (.next (.next (.next (.pure _))))))))))
  | receiptCapacityExceeded value =>
    cases value with
    | enrollment =>
      exact .orFail rfl (.map _ (.next (.next (.orFail (enrollmentReceiptScope_wireScope _) (.next
        (.next (.cons (requireOne_reads _) (.pure _))))))))
    | credentialAttach =>
      exact .orFail rfl (.map _ (.next (.next (.next (.next (.cons (requireOne_reads _) (.pure _)))))))
  | identityCapacityExceeded =>
    exact .next (.next (.next (.next (.cons (requireOne_reads _) (.pure _)))))
  | observerBackpressure value =>
    cases value with
    | enrollment | credentialAttach | recordAdmission =>
      exact .orFail rfl (.map _ (.next (.next (.pure _))))
    | detach | leave => exact .orFail rfl (.map _ (.next (.next (.next (.pure _)))))
  | conversationSequenceExhausted value =>
    exact .orFail rfl (.cons (sequenceAllocating_selects.reads _) (.next (.pure _)))
  | attachBound value => exact .mapped rfl
  | staleOrUnknownReceipt => exact .next (.next (.next (.next (.next (.next (.pure _))))))
  | markerNotDelivered => exact .orFail rfl (.cons (markerProof_selects.reads _) (.next (.next (.pure _))))
  | markerMismatch =>
    exact .orFail rfl (.cons (markerProof_selects.reads _)
      (.next (.cons (markerMismatchBody_selects.reads _) (.pure _))))
  | bound value | unboundReceipt value => exact .orFail rfl ((receiptReplay_selects.reads value).map _)
  | detachCommitted =>
    exact .map _ (.next (.next (.next (.next (.next (.next (.check rfl (.pure _))))))))
  | detachInProgress => exact .next (.next (.next (.next (.next (.pure _)))))
  | ackCommitted | markerAckCommitted => exact .next (.next (.check rfl (.pure _)))
  | ackNoOp value =>
    cases value with
    | participantAck | markerAck =>
      exact .orFail rfl (.map _ (.next (.next (.check rfl (.pure _)))))
  | ackGap value =>
    refine .next (.next (.next (.map _ (.ofSome ?_))))
    rw [AckGap.new, dif_pos value.ahead]
  | ackRegression value =>
    refine .next (.next (.next (.map _ (.ofSome ?_))))
    rw [AckRegression.new, dif_pos value.behind]
  | leaveCommitted value => exact (leaveCommitted_reads value).map _
  | recordCommitted => exact .next (.next (.check rfl (.next (.pure _))))
  | observerRecoveryAccepted value => exact (recoveryAccepted_reads value).map _
  | invalidObserverEpoch value =>
    cases value <;>
      exact .cons requireZeroRecoveryCount_reads (.map _ (.next (.next (.next (.next (.check rfl (.pure _)))))))
  | invalidObserverEpochList value =>
    cases value with
    | tooManyEntries =>
      exact .cons requireZeroRecoveryCount_reads (.map _ (.next (.next (.next (.pure _)))))
    | duplicateConversation =>
      exact .cons requireZeroRecoveryCount_reads (.map _ (.next (.next (.next (.next (.pure _))))))
  | markerSettlementBackpressure value =>
    cases value <;> exact .orFail rfl (.map _ (.next (.next (.pure _))))
  | enrollmentSettlementBackpressure => exact .orFail rfl (.next (.pure _))

/-! ### Bodies -/

theorem carriesOrigin_iff (value : ServerValue) :
    carriesOrigin value.discriminant = value.originatingRequest.isSome := by
  cases value with
  | attemptTokenBodyConflict value | connectionConversationCapacityExceeded value
  | connectionConversationBindingOccupied value | retired value | receiptExpired value
  | receiptCapacityExceeded value | observerBackpressure value | ackNoOp value
  | markerSettlementBackpressure value => cases value <;> rfl
  | _ => rfl

theorem originIsValid_originatingRequest {value : ServerValue}
    (h : value.originatingRequest = some origin) : originIsValid value.discriminant origin = true := by
  cases value with
  | attemptTokenBodyConflict value | connectionConversationBindingOccupied value
  | receiptExpired value | receiptCapacityExceeded value | observerBackpressure value
  | bound value | unboundReceipt value | ackNoOp value | markerSettlementBackpressure value =>
    cases value <;> cases h <;> rfl
  | connectionConversationCapacityExceeded value =>
    cases value with
    | semanticRequest request => cases request <;> cases h <;> rfl
    | observerRecovery => cases h
  | conversationOrderExhausted value | participantUnknown value | noBinding value
  | markerClosureCapacityExceeded value | conversationSequenceExhausted value
  | markerNotDelivered value | markerMismatch value =>
    obtain ⟨request⟩ := value
    cases request <;> cases h <;> rfl
  | staleAuthority value =>
    cases value with
    | live request => cases request <;> cases h <;> rfl
    | detach | leave => cases h; rfl
  | retired value =>
    cases value with
    | enrollment => cases h; rfl
    | participant request => cases request <;> cases h <;> rfl
  | _ => cases h <;> rfl

theorem serverValueBody_reads (value : ServerValue) :
    Reads (decodeServerValueBody value.discriminant) (encodeServerValueBody value) value := by
  have hsuffix := serverSuffix_reads value
  unfold decodeServerValueBody encodeServerValueBody
  rw [carriesOrigin_iff]
  cases horigin : value.originatingRequest with
  | none =>
    rw [horigin] at hsuffix
    exact hsuffix
  | some origin =>
    rw [horigin] at hsuffix
    have htake : Reads (takeOrigin value.discriminant) (putTag origin) origin :=
      (reads origin).andThen (.require (originIsValid_originatingRequest horigin) (.pure origin))
    exact .cons htake (.single hsuffix)

end Liminal.Wire
