import Liminal.Wire.Fields

/-!
# Requests and pushes on the wire

The body of every request and push, and the envelopes that answers echo: a request's fields in the
same order without the secret or the payload. Each writer is followed by its reader; at the end
every reader reads back what its writer wrote.
-/

namespace Liminal.Wire

open Codec

/-! ### Envelopes -/

def putEnrollment (value : EnrollmentEnvelope) : WirePut :=
  .seq [putU64 value.conversationId, putToken value.enrollmentToken]

def putAttach (value : AttachEnvelope) : WirePut :=
  .seq [putU64 value.conversationId, putU64 value.participantId, putGeneration value.capabilityGeneration,
    putToken value.attachAttemptToken, putOption putU64 value.acceptMarkerDeliverySeq]

def putDetach (value : DetachEnvelope) : WirePut :=
  .seq [putU64 value.conversationId, putU64 value.participantId,
    putGeneration value.capabilityGeneration, putToken value.detachAttemptToken]

def putParticipantAck (value : ParticipantAckEnvelope) : WirePut :=
  .seq [putU64 value.conversationId, putU64 value.participantId,
    putGeneration value.capabilityGeneration, putU64 value.throughSeq]

def putLeave (value : LeaveEnvelope) : WirePut :=
  .seq [putU64 value.conversationId, putU64 value.participantId,
    putGeneration value.capabilityGeneration, putToken value.leaveAttemptToken]

def putMarkerAck (value : MarkerAckEnvelope) : WirePut :=
  .seq [putU64 value.conversationId, putU64 value.participantId,
    putGeneration value.capabilityGeneration, putU64 value.markerDeliverySeq]

def putRecordAdmission (value : RecordAdmissionEnvelope) : WirePut :=
  .seq [putU64 value.conversationId, putU64 value.participantId,
    putGeneration value.capabilityGeneration, putToken value.recordAdmissionAttemptToken]

def takeEnrollment : WireGet EnrollmentEnvelope := do
  return ⟨← takeU64, ← takeToken⟩

def takeAttach : WireGet AttachEnvelope := do
  let conversationId ← takeU64
  let participantId ← takeU64
  let capabilityGeneration ← takeGeneration
  let attachAttemptToken ← takeToken
  return ⟨⟨conversationId, participantId, capabilityGeneration, ← takeOption takeU64⟩, attachAttemptToken⟩

def takeDetach : WireGet DetachEnvelope := do
  return ⟨← takeU64, ← takeU64, ← takeGeneration, ← takeToken⟩

def takeParticipantAck : WireGet ParticipantAckEnvelope := do
  return ⟨← takeU64, ← takeU64, ← takeGeneration, ← takeU64⟩

def takeLeave : WireGet LeaveEnvelope := do
  return ⟨⟨← takeU64, ← takeU64, ← takeGeneration⟩, ← takeToken⟩

def takeMarkerAck : WireGet MarkerAckEnvelope := do
  return ⟨← takeU64, ← takeU64, ← takeGeneration, ← takeU64⟩

def takeRecordAdmission : WireGet RecordAdmissionEnvelope := do
  return ⟨⟨← takeU64, ← takeU64, ← takeGeneration⟩, ← takeToken⟩

/-! ### Requests -/

def putObserverRefusal (refusal : ObserverRefusal) : WirePut :=
  .seq [putU64 refusal.conversationId, putU64 refusal.refusedEpoch]

/-- The body only; the frame holds the discriminant. -/
def encodeClientRequest : ClientRequest → WirePut
  | .enrollment value => .seq [putU64 value.conversationId, putToken value.enrollmentToken]
  | .credentialAttach value => .seq [putU64 value.conversationId, putU64 value.participantId,
      putGeneration value.capabilityGeneration, putSecret value.attachSecret,
      putToken value.attachAttemptToken, putOption putU64 value.acceptMarkerDeliverySeq]
  | .detach value => .seq [putU64 value.conversationId, putU64 value.participantId,
      putGeneration value.capabilityGeneration, putToken value.detachAttemptToken]
  | .participantAck value => .seq [putU64 value.conversationId, putU64 value.participantId,
      putGeneration value.capabilityGeneration, putU64 value.throughSeq]
  | .leave value => .seq [putU64 value.conversationId, putU64 value.participantId,
      putGeneration value.capabilityGeneration, putSecret value.attachSecret, putToken value.leaveAttemptToken]
  | .markerAck value => .seq [putU64 value.conversationId, putU64 value.participantId,
      putGeneration value.capabilityGeneration, putU64 value.markerDeliverySeq]
  | .recordAdmission value => .seq [putU64 value.conversationId, putU64 value.participantId,
      putGeneration value.capabilityGeneration, putToken value.recordAdmissionAttemptToken, putBytes value.payload]
  | .observerRecovery value => .seq [putU64 value.observerRefusals.length,
      .seq (value.observerRefusals.map putObserverRefusal)]

def takeObserverRefusal : WireGet ObserverRefusal := do
  return ⟨← takeU64, ← takeU64⟩

/-- A count is believed only if that many entries can still follow. -/
def requireFixedList (count width : Nat) : WireGet Unit := do
  let remaining ← Get.remaining
  if remaining < count * width then Get.fail (.decode .missingRequiredField) else return

def decodeClientRequest : ClientDiscriminant → WireGet ClientRequest
  | .enrollmentRequest => return .enrollment ⟨← takeU64, ← takeToken⟩
  | .credentialAttachRequest => do
    let conversationId ← takeU64
    let participantId ← takeU64
    let capabilityGeneration ← takeGeneration
    let attachSecret ← takeSecret
    let attachAttemptToken ← takeToken
    return .credentialAttach ⟨⟨⟨conversationId, participantId, capabilityGeneration, ← takeOption takeU64⟩,
      attachAttemptToken⟩, attachSecret⟩
  | .detachRequest => return .detach ⟨← takeU64, ← takeU64, ← takeGeneration, ← takeToken⟩
  | .participantAck => return .participantAck ⟨← takeU64, ← takeU64, ← takeGeneration, ← takeU64⟩
  | .leaveRequest => do
    let conversationId ← takeU64
    let participantId ← takeU64
    let capabilityGeneration ← takeGeneration
    let attachSecret ← takeSecret
    return .leave ⟨⟨⟨conversationId, participantId, capabilityGeneration⟩, ← takeToken⟩, attachSecret⟩
  | .markerAck => return .markerAck ⟨← takeU64, ← takeU64, ← takeGeneration, ← takeU64⟩
  | .recordAdmission => return .recordAdmission ⟨⟨⟨← takeU64, ← takeU64, ← takeGeneration⟩, ← takeToken⟩, ← takeBytes⟩
  | .observerRecoveryHandshake => do
    let count ← takeU64
    requireFixedList count 16
    return .observerRecovery ⟨← Get.times takeObserverRefusal count⟩

/-! ### Pushes -/

def putDiedCause (cause : DiedCause) : WirePut := match cause with
  | .uncleanServerRestart priorServerIncarnation =>
    .seq [putTag (diedCauseTag cause), putU64 priorServerIncarnation]
  | _ => .seq [putTag (diedCauseTag cause)]

def putParticipantRecord : ParticipantRecord → WirePut
  | .ordinaryRecord senderParticipantId payload =>
    .seq [putU64 senderParticipantId, putBytes payload]
  | .attached affectedParticipantId bindingEpoch =>
    .seq [putU64 affectedParticipantId, putBindingEpoch bindingEpoch]
  | .detached affectedParticipantId bindingEpoch cause =>
    .seq [putU64 affectedParticipantId, putBindingEpoch bindingEpoch, putTag (detachedCauseTag cause)]
  | .died affectedParticipantId bindingEpoch cause =>
    .seq [putU64 affectedParticipantId, putBindingEpoch bindingEpoch, putDiedCause cause]
  | .left affectedParticipantId endedBindingEpoch =>
    .seq [putU64 affectedParticipantId, putOption putBindingEpoch endedBindingEpoch]
  | .historyCompacted affectedParticipantId abandonedAfter abandonedThrough physicalFloorAtDecision =>
    .seq [putU64 affectedParticipantId, putU64 abandonedAfter, putU64 abandonedThrough, putU64 physicalFloorAtDecision]

def encodeParticipantDelivery (value : ParticipantDelivery) : WirePut :=
  .seq [putU64 value.conversationId, putU64 value.deliverySeq, putTag value.record.recordKind,
    putParticipantRecord value.record]

def encodeServerPush : ServerPush → WirePut
  | .observerProgressed conversationId refusedEpoch observerProgress =>
    .seq [putU64 conversationId, putU64 refusedEpoch, putU64 observerProgress]
  | .participantDelivery value => encodeParticipantDelivery value
  | .markerSettled conversationId refusedEpoch => .seq [putU64 conversationId, putU64 refusedEpoch]

def takeDetachedCause : WireGet DetachedCause := do
  match ← takeTag (T := CloseCauseTag) with
  | .cleanDeregister => return .cleanDeregister
  | .superseded => return .superseded
  | .serverShutdown => return .serverShutdown
  | _ => Get.fail invalidField

def takeDiedCause : WireGet DiedCause := do
  match ← takeTag (T := CloseCauseTag) with
  | .connectionLost => return .connectionLost
  | .processKilled => return .processKilled
  | .protocolError => return .protocolError
  | .uncleanServerRestart => DiedCause.uncleanServerRestart <$> takeU64
  | _ => Get.fail invalidField

def decodeParticipantRecord : RecordKind → WireGet ParticipantRecord
  | .ordinaryRecord => return .ordinaryRecord (← takeU64) (← takeBytes)
  | .attached => return .attached (← takeU64) (← takeBindingEpoch)
  | .detached => return .detached (← takeU64) (← takeBindingEpoch) (← takeDetachedCause)
  | .died => return .died (← takeU64) (← takeBindingEpoch) (← takeDiedCause)
  | .left => return .left (← takeU64) (← takeOption takeBindingEpoch)
  | .historyCompacted => return .historyCompacted (← takeU64) (← takeU64) (← takeU64) (← takeU64)

def decodeServerPush : PushDiscriminant → WireGet ServerPush
  | .observerProgressed => return .observerProgressed (← takeU64) (← takeU64) (← takeU64)
  | .participantDelivery => do
    let conversationId ← takeU64
    let deliverySeq ← takeU64
    let kind ← takeTag
    return .participantDelivery ⟨conversationId, deliverySeq, ← decodeParticipantRecord kind⟩
  | .markerSettled => return .markerSettled (← takeU64) (← takeU64)

/-! ### Formats of envelopes -/

instance : Format takeEnrollment putEnrollment where
  reads _ := .next (.next (.pure _))
  writes := .of_completes (.next₂ fun _ _ => .pure fun _ => rfl)

instance : Format takeAttach putAttach where
  reads _ := .next (.next (.next (.next (.next (.pure _)))))
  writes := .of_completes (.next₂ fun _ _ => .next₂ fun _ _ =>
    .next fun _ => .pure fun _ => rfl)

instance : Format takeDetach putDetach where
  reads _ := .next (.next (.next (.next (.pure _))))
  writes := .of_completes (.next₂ fun _ _ => .next₂ fun _ _ =>
    .pure fun _ => rfl)

instance : Format takeParticipantAck putParticipantAck where
  reads _ := .next (.next (.next (.next (.pure _))))
  writes := .of_completes (.next₂ fun _ _ => .next₂ fun _ _ =>
    .pure fun _ => rfl)

instance : Format takeLeave putLeave where
  reads _ := .next (.next (.next (.next (.pure _))))
  writes := .of_completes (.next₂ fun _ _ => .next₂ fun _ _ =>
    .pure fun _ => rfl)

instance : Format takeMarkerAck putMarkerAck where
  reads _ := .next (.next (.next (.next (.pure _))))
  writes := .of_completes (.next₂ fun _ _ => .next₂ fun _ _ =>
    .pure fun _ => rfl)

instance : Format takeRecordAdmission putRecordAdmission where
  reads _ := .next (.next (.next (.next (.pure _))))
  writes := .of_completes (.next₂ fun _ _ => .next₂ fun _ _ =>
    .pure fun _ => rfl)

/-! ### Requests are read back -/

instance : Format takeObserverRefusal putObserverRefusal where
  reads _ := .next (.next (.pure _))
  writes := .of_completes (.next₂ fun _ _ => .pure fun _ => rfl)

theorem seq_map_length {put : α → WirePut} {width : Nat}
    (hwidth : ∀ value bytes, put value = .ok bytes → bytes.length = width) (values : List α)
    {bytes : Bytes} (h : Put.seq (values.map put) = .ok bytes) : bytes.length = values.length * width := by
  induction values generalizing bytes with
  | nil =>
    obtain rfl := Except.ok.inj h
    simp
  | cons value values ih =>
    obtain ⟨start, rest, hstart, hrest, rfl⟩ := Put.seq_cons_eq_ok.mp h
    rw [List.length_append, hwidth value start hstart, ih hrest, List.length_cons, Nat.succ_mul, Nat.add_comm]

theorem putObserverRefusal_length (refusal : ObserverRefusal) (bytes : Bytes)
    (h : putObserverRefusal refusal = .ok bytes) : bytes.length = 16 := by
  obtain ⟨first, rest, hfirst, hrest, rfl⟩ := Put.seq_cons_eq_ok.mp h
  obtain ⟨second, others, hsecond, hothers, rfl⟩ := Put.seq_cons_eq_ok.mp hrest
  obtain rfl := Except.ok.inj hothers
  obtain ⟨-, rfl⟩ := Put.unsigned_eq_ok.mp hfirst
  obtain ⟨-, rfl⟩ := Put.unsigned_eq_ok.mp hsecond
  simp

theorem requireFixedList_reads {put : WirePut} {count width : Nat} {value : α}
    (hlength : ∀ bytes, put = .ok bytes → count * width ≤ bytes.length)
    (hnext : Reads (next ()) put value) : Reads (requireFixedList count width >>= next) put value := by
  intro bytes hput rest
  have henough : ¬(bytes ++ rest).length < count * width := by
    have := hlength bytes hput
    simp only [List.length_append]
    omega
  have hrequire : requireFixedList count width ⟨bytes ++ rest, false⟩ = .ok ((), ⟨bytes ++ rest, false⟩) := by
    have hremaining : (Get.remaining : WireGet Nat) ⟨bytes ++ rest, false⟩ =
        .ok ((bytes ++ rest).length, ⟨bytes ++ rest, false⟩) := rfl
    rw [requireFixedList, Reads.bind_of_ok hremaining, if_neg henough]
    rfl
  rw [Reads.bind_of_ok hrequire]
  exact hnext bytes hput rest

/-- A request is read back as it was written. -/
theorem clientRequest_reads (value : ClientRequest) :
    Reads (decodeClientRequest value.discriminant) (encodeClientRequest value) value := by
  cases value with
  | enrollment value => exact .next (.next (.pure _))
  | credentialAttach value => exact .next (.next (.next (.next (.next (.next (.pure _))))))
  | detach value | participantAck value | markerAck value =>
    exact .next (.next (.next (.next (.pure _))))
  | leave value | recordAdmission value => exact .next (.next (.next (.next (.next (.pure _)))))
  | observerRecovery value =>
    refine .next (requireFixedList_reads ?_ ?_)
    · intro bytes hput
      obtain ⟨start, rest, hstart, -, rfl⟩ := Put.seq_cons_eq_ok.mp hput
      have hlength := seq_map_length putObserverRefusal_length _ hstart
      simp only [List.length_append]
      omega
    · exact .cons (.times Format.reads _) (.pure _)

/-! ### Pushes are read back -/

theorem detachedCause_reads (cause : DetachedCause) :
    Reads takeDetachedCause (putTag (detachedCauseTag cause)) cause := by
  refine (Format.reads (detachedCauseTag cause)).andThen ?_
  cases cause <;> exact .pure _

instance : Format takeDiedCause putDiedCause where
  reads cause := by
    cases cause with
    | uncleanServerRestart => exact .next (.single (.mapped rfl))
    | _ => exact .next (.pure _)
  writes := by
    refine .of_completes (.next fun tag => ?_)
    cases tag with
    | connectionLost | processKilled | protocolError => exact .pure fun _ => rfl
    | uncleanServerRestart => exact .last fun _ _ => rfl
    | _ => exact .fail

theorem participantRecord_reads (record : ParticipantRecord) :
    Reads (decodeParticipantRecord record.recordKind) (putParticipantRecord record) record := by
  cases record with
  | ordinaryRecord | attached | left => exact .next (.next (.pure _))
  | detached => exact .next (.next (.cons (detachedCause_reads _) (.pure _)))
  | died => exact .next (.next (.next (.pure _)))
  | historyCompacted => exact .next (.next (.next (.next (.pure _))))

/-- A push is read back as it was written. -/
theorem serverPush_reads (value : ServerPush) :
    Reads (decodeServerPush value.discriminant) (encodeServerPush value) value := by
  cases value with
  | observerProgressed => exact .next (.next (.next (.pure _)))
  | participantDelivery value =>
    exact .next (.next (.next (.cons (participantRecord_reads _) (.pure _))))
  | markerSettled => exact .next (.next (.pure _))

end Liminal.Wire
