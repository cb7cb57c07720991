import Liminal.Client.RecordCodec
import Liminal.Client.Soundness

/-!
# Records are read back

A sound aggregate is written to bytes that decode to its own facts and that the validation accepts.
What comes back is the aggregate after a crash, and stays so when it is written and read once more.
-/

namespace Liminal.Client

open Wire Codec Fallible DetachReplayState ExpectedOperationState

namespace Record

/-! ### Fields -/

section

variable (value : Nat)

theorem u8_reads : Reads takeU8 (putU8 value) value := unsigned_reads _ _ _ _
theorem u16_reads : Reads takeU16 (putU16 value) value := unsigned_reads _ _ _ _
theorem u64_reads : Reads takeU64 (putU64 value) value := unsigned_reads _ _ _ _
theorem token_reads : Reads takeToken (putToken value) value := unsigned_reads _ _ _ _
theorem secret_reads : Reads takeSecret (putSecret value) value :=
  unsigned_reads _ _ _ _

end

variable (recordSection : ClientResumeRecordSection)

theorem bool_reads (value : Bool) : Reads (takeBool recordSection) (putBool value) value := by
  cases value with
  | false => exact (u8_reads 0).andThen (.pure false)
  | true => exact (u8_reads 1).andThen (.pure true)

theorem generation_reads (generation : Generation) :
    Reads (takeGeneration recordSection) (putGeneration generation) generation := by
  unfold putGeneration
  split
  · intro bytes hput
    cases hput
  · rename_i hpos
    exact (u64_reads generation).andThen (.require hpos (.pure generation))

theorem epoch_reads (epoch : BindingEpoch) : Reads takeEpoch (putEpoch epoch) epoch :=
  .cons (u64_reads _) (.cons (u64_reads _) (.cons (generation_reads _ _) (.pure _)))

theorem blob_reads (bytes : Bytes) : Reads takeBlob (putBlob bytes) bytes := by
  refine .cons (u64_reads _) (.single fun written hput rest => ?_)
  obtain rfl := Except.ok.inj hput
  exact take_append

theorem decode_of_encodeFrame {frame recordSection bytes}
    (h : encodeFrame frame recordSection = .ok bytes) : decode bytes frame.receiver = .ok frame := by
  simp only [encodeFrame, ok_iff] at h
  obtain ⟨length, -, ⟨written, result⟩, hencode, rfl⟩ := h
  obtain ⟨body, bytes, hbody, -, hbytes, hwritten, -, rfl⟩ := encode_eq_ok.mp hencode
  rw [← hwritten, List.take_left]
  exact decode_frameBytes hbody hbytes

theorem request_reads (request : ClientRequest) (recordSection : ClientResumeRecordSection) :
    Reads (takeRequest recordSection) (putFrame (.clientRequest request) recordSection) request := by
  intro bytes hput rest
  simp only [putFrame, bind_eq_ok] at hput
  obtain ⟨frame, hframe, hblob⟩ := hput
  have hdecode := decode_of_encodeFrame hframe
  refine (blob_reads frame).andThen ?_ bytes hblob rest
  simp only [show decode frame .server = .ok (.clientRequest request) from hdecode]
  exact .pure request

/-! ### Sections -/

theorem binding_reads (binding : ClientBindingState) : Reads decodeBinding (encodeBinding binding) binding := by
  cases binding with
  | unbound => exact .cons (u8_reads 0) (.pure _)
  | bound =>
    exact .cons (u8_reads 1) (.cons (u64_reads _) (.cons (u64_reads _)
      (.cons (generation_reads _ _) (.cons (secret_reads _) (.cons (epoch_reads _) (.pure _))))))
  | detached =>
    exact .cons (u8_reads 2) (.cons (u64_reads _) (.cons (u64_reads _)
      (.cons (generation_reads _ _) (.cons (secret_reads _) (.pure _)))))
  | left =>
    exact .cons (u8_reads 3) (.cons (u64_reads _) (.cons (u64_reads _) (.cons (generation_reads _ _) (.pure _))))

theorem testimony_reads (testimony : Option LostAuthorityKind) :
    Reads (decodeTestimony recordSection) (encodeTestimony testimony) testimony := by
  cases testimony with
  | none => exact (u8_reads 0).andThen (.pure _)
  | some kind =>
    cases kind with
    | issuedOperationCorrelation => exact (u8_reads 1).andThen (.pure _)
    | detachTransportAttempt => exact (u8_reads 2).andThen (.pure _)
    | reconnectPermit => exact (u8_reads 3).andThen (.pure _)
    | reconnectAttempt => exact (u8_reads 4).andThen (.pure _)

theorem expected_reads (expected : Option ExpectedOperationState) :
    Reads decodeExpected (encodeExpected expected) expected := by
  cases expected with
  | none => exact .cons (u8_reads 0) (.pure _)
  | some expected =>
    exact .cons (u8_reads 1) (.cons (bool_reads _ _) (.cons (u64_reads _)
      (.cons (testimony_reads _ _) (.cons (request_reads _ _) (.pure _)))))

theorem terminal_reads (h : terminalOf tag value = some outcome) :
    Reads (decodeTerminal tag) (putTerminal (some value)) (.terminal outcome) := by
  intro bytes hput rest
  simp only [putTerminal, putFrame, bind_eq_ok] at hput
  obtain ⟨frame, hframe, hblob⟩ := hput
  have hdecode := decode_of_encodeFrame hframe
  refine (blob_reads frame).andThen ?_ bytes hblob rest
  simp only [show decode frame .client = .ok (.serverValue value) from hdecode]
  exact .orFail h (.pure _)

/-- A refusal is kept under its own tag only if no other tag stands for it. -/
theorem replayStatus_reads {request : DetachEnvelope}
    (h : (recorded request status).refusalCanonical = true) :
    Reads (decodeReplayStatus (replayTag status).1) (putTerminal (replayTag status).2) status := by
  cases status with
  | terminal outcome =>
    cases outcome with
    | detachCommitted | detachInProgress | terminalizedDetachCell => exact terminal_reads rfl
    | authorityRefused value =>
      have hother : ownTerminal value = false := by simpa [refusalCanonical] using h
      have hterm : terminalOf 8 value = some (.authorityRefused value) := by
        simp [terminalOf, hother]
      exact terminal_reads hterm
  | _ => exact .pure _

theorem replayTag_pos (status : DetachReplayStatus) : (replayTag status).1 ≠ 0 ∧ (replayTag status).1 ≤ 8 := by
  cases status with
  | terminal outcome => cases outcome <;> simp [replayTag]
  | _ => simp [replayTag]

theorem replay_reads (h : replay.refusalCanonical = true) :
    Reads decodeReplay (encodeReplay replay) replay := by
  cases replay with
  | empty => exact .cons (u8_reads 0) (.pure _)
  | recorded request status =>
    obtain ⟨hpos, hle⟩ := replayTag_pos status
    refine .cons (u8_reads _) ?_
    rw [if_neg hpos]
    exact .require hle (.cons (u64_reads _) (.cons (u64_reads _) (.cons (generation_reads _ _)
      (.cons (token_reads _) (.cons (replayStatus_reads h) (.pure _))))))

theorem event_reads (event : ReconnectFreshEvent) : Reads decodeEvent (encodeEvent event) event := by
  cases event with
  | transportFate => exact (u8_reads 0).andThen (.pure _)
  | onlineTransition => exact (u8_reads 1).andThen (.pure _)
  | explicitCallerAction => exact (u8_reads 2).andThen (.pure _)

theorem reconnectState_reads (state : ReconnectMachineState) :
    Reads decodeReconnectState (encodeReconnectState state) state := by
  cases state with
  | parked => exact .cons (u8_reads 0) (.pure _)
  | permit =>
    exact .cons (u8_reads 1) (.cons (u64_reads _) (.cons (event_reads _) (.cons (bool_reads _ _) (.pure _))))
  | attempt => exact .cons (u8_reads 2) (.cons (u64_reads _) (.cons (event_reads _) (.pure _)))
  | online => exact .cons (u8_reads 3) (.pure _)

theorem reconnect_reads (reconnect : ReconnectAggregate) :
    Reads decodeReconnect (encodeReconnect reconnect) reconnect :=
  .cons (u64_reads _) (.cons (reconnectState_reads _) (.cons (testimony_reads _ _) (.pure _)))

theorem abandonment_reads (h : ∀ value ∈ abandonment, value.request.isObserverRecovery = true) :
    Reads decodeAbandonment (encodeAbandonment abandonment) abandonment := by
  cases abandonment with
  | none => exact .cons (u8_reads 0) (.pure _)
  | some value =>
    exact .cons (u8_reads 1) (.cons (u8_reads 0) (.require rfl (.cons (bool_reads _ _)
      (.cons (request_reads _ _) (.require (h value rfl) (.pure _))))))

/-! ### The record -/

theorem decodeFacts_encodeAggregate (hrefusal : aggregate.detachReplay.refusalCanonical = true)
    (habandoned : ∀ value ∈ aggregate.restoredAbandonment, value.request.isObserverRecovery = true)
    (h : encodeAggregate aggregate = .ok bytes) : decodeFacts bytes = .ok aggregate.facts := by
  simp only [encodeAggregate, bind_eq_ok] at h
  obtain ⟨payload, hpayload, hbytes⟩ := h
  have hmagic : Reads (Get.take .truncated 4 : RecordGet Bytes) (.ok magic : RecordPut) magic := by
    intro start hstart rest
    obtain rfl := Except.ok.inj hstart
    exact take_append
  have henvelope : Reads takeEnvelope
      (.seq [.ok magic, putU16 version, putU64 payload.length] : RecordPut) payload.length :=
    .cons hmagic (.require rfl (.cons (u16_reads _) (.require rfl (.single (u64_reads _)))))
  obtain ⟨start, tail, hstart, htail, rfl⟩ := Put.seq_cons_eq_ok.mp hbytes
  obtain ⟨number, tail', hnumber, htail', rfl⟩ := Put.seq_cons_eq_ok.mp htail
  obtain ⟨length, tail'', hlength, htail'', rfl⟩ := Put.seq_cons_eq_ok.mp htail'
  obtain ⟨payload', nothing, hpayload', hnothing, rfl⟩ := Put.seq_cons_eq_ok.mp htail''
  obtain rfl := Except.ok.inj hnothing
  obtain rfl := Except.ok.inj hpayload'
  have hput : (.seq [.ok magic, putU16 version, putU64 payload.length] : RecordPut) =
      .ok (start ++ (number ++ (length ++ []))) :=
    Put.seq_cons_eq_ok.mpr ⟨_, _, hstart, Put.seq_cons_eq_ok.mpr ⟨_, _, hnumber,
      Put.seq_cons_eq_ok.mpr ⟨_, _, hlength, rfl, rfl⟩, rfl⟩, rfl⟩
  have htakeEnvelope := henvelope _ hput (payload ++ [])
  have hsections : Reads takeSections (encodeSections aggregate) aggregate.facts :=
    .cons (binding_reads _) (.cons (u64_reads _) (.cons (expected_reads _)
      (.cons (replay_reads hrefusal) (.cons (reconnect_reads _) (.cons (abandonment_reads habandoned) (.pure _))))))
  have htakeSections := hsections payload hpayload []
  simp only [List.append_assoc, List.nil_append] at htakeEnvelope
  simp only [decodeFacts, ok_iff]
  exact ⟨_, htakeEnvelope, by simp, _, htakeSections, rfl, rfl⟩

/-! ### The refusal of the write side -/

/-- Writing the sections fails only for a nested frame or a number that does not fit. -/
def Decoupled (error : ClientResumeRecordEncodeError) : Prop := error = .decoupledDetachReplay

@[simp] theorem number_avoids (width value : Nat) : Avoids Decoupled (Put.unsigned .lengthOverflow width value) :=
  Put.avoids_unsigned (fun h => nomatch h) width value

@[simp] theorem generation_avoids (generation : Generation) : Avoids Decoupled (putGeneration generation) := by
  unfold putGeneration
  split
  · exact avoids_error fun h => nomatch h
  · exact number_avoids _ _

@[simp] theorem frame_avoids (frame : ParticipantFrame) (recordSection : ClientResumeRecordSection) :
    Avoids Decoupled (putFrame frame recordSection) := by
  have hencode : Avoids Decoupled (encodeFrame frame recordSection) :=
    (avoids_mapError (fun _ h => nomatch h) _).bind fun _ _ =>
      (avoids_mapError (fun _ h => nomatch h) _).bind fun _ _ => avoids_ok _
  exact hencode.bind fun bytes _ => Put.avoids_seq (by simp [putU64, avoids_ok])

@[simp] theorem testimony_avoids (testimony : Option LostAuthorityKind) :
    Avoids Decoupled (encodeTestimony testimony) := by
  unfold encodeTestimony
  split <;> exact number_avoids _ _

theorem binding_avoids (binding : ClientBindingState) : Avoids Decoupled (encodeBinding binding) := by
  cases binding <;> simp [encodeBinding, putEpoch, putU8, putU64, putSecret]

theorem expected_avoids (expected : Option ExpectedOperationState) : Avoids Decoupled (encodeExpected expected) := by
  cases expected <;> simp [encodeExpected, putBool, putU8, putU64]

theorem replay_avoids (replay : DetachReplayState) : Avoids Decoupled (encodeReplay replay) := by
  have hterm : ∀ value, Avoids Decoupled (putTerminal value) := by
    intro value
    cases value <;> simp [putTerminal]
  cases replay <;> simp [encodeReplay, putU8, putU64, putToken, hterm]

theorem reconnect_avoids (reconnect : ReconnectAggregate) : Avoids Decoupled (encodeReconnect reconnect) := by
  have hevent : ∀ event, Avoids Decoupled (encodeEvent event) := by
    intro event
    cases event <;> simp [encodeEvent, putU8]
  have hstate : Avoids Decoupled (encodeReconnectState reconnect.state) := by
    cases reconnect.state <;> simp [encodeReconnectState, putBool, putU8, putU64, hevent]
  simp [encodeReconnect, putU64, hstate]

theorem abandonment_avoids (abandonment : Option RestoredExpectedOperationAbandonment) :
    Avoids Decoupled (encodeAbandonment abandonment) := by
  cases abandonment <;> simp [encodeAbandonment, putBool, putU8]

theorem encodeAggregate_avoids (aggregate : ClientParticipantAggregate) :
    Avoids Decoupled (encodeAggregate aggregate) := by
  have hsections : Avoids Decoupled (encodeSections aggregate) := by
    simp [encodeSections, putU64, binding_avoids, expected_avoids, replay_avoids, reconnect_avoids, abandonment_avoids]
  exact hsections.bind fun payload _ => Put.avoids_seq (by simp [putU16, putU64, avoids_ok])

end Record

/-! ### Sound aggregates -/

namespace ClientParticipantAggregate.Sound

variable {aggregate : ClientParticipantAggregate}

theorem validateLiveReplayCoupling (h : aggregate.Sound) :
    Client.validateLiveReplayCoupling aggregate.expected aggregate.detachReplay = .ok () := by
  have hcoupled : aggregate.detachReplay.active = aggregate.expected.bind (·.detach) := h.coupled
  unfold Client.validateLiveReplayCoupling
  rw [hcoupled]
  cases aggregate.expected.bind (·.detach) with
  | none => rfl
  | some detach => simp

theorem restore_of_resumeRecord (h : aggregate.Sound) {record}
    (hrecord : aggregate.resumeRecord = .ok record) : ClientResumeRecord.decodeCanonical record.canonical = .ok record ∧
      record.restore = .ok aggregate.facts.rebuild := by
  simp only [resumeRecord, ok_iff] at hrecord
  obtain ⟨-, -, canonical, hencode, rfl⟩ := hrecord
  have hfacts := Record.decodeFacts_encodeAggregate h.refusal h.abandoned hencode
  constructor
  · simp only [ClientResumeRecord.decodeCanonical, hfacts]
    rfl
  · have hvalid := DecodedFacts.Sound.validateFacts h
    simp only [ClientResumeRecord.restore, DecodedFacts.restore, ok_iff]
    exact ⟨_, hfacts, (), hvalid, rfl⟩

theorem active_iff (h : aggregate.Sound) (request : DetachEnvelope) :
    (∃ status, aggregate.detachReplay = .recorded request status ∧ (status = .parked ∨ status = .inFlight)) ↔
      ∃ expected ∈ aggregate.expected, expected.request = .detach request := by
  have hcoupled : aggregate.detachReplay.active = aggregate.expected.bind (·.detach) := h.coupled
  constructor
  · rintro ⟨status, hreplay, hstatus⟩
    have hactive : ∃ issued, aggregate.detachReplay.active = some (request, issued) := by
      rw [hreplay]
      rcases hstatus with rfl | rfl
      · exact ⟨false, rfl⟩
      · exact ⟨true, rfl⟩
    obtain ⟨issued, hactive⟩ := hactive
    rw [hcoupled, Option.bind_eq_some_iff] at hactive
    obtain ⟨expected, hslot, hdetach⟩ := hactive
    exact ⟨expected, hslot, (detach_eq_some.mp hdetach).1⟩
  · rintro ⟨expected, hslot, hrequest⟩
    have hactive := h.coupled_slot hslot
    rw [detach_eq_some.mpr ⟨hrequest, rfl⟩, active_eq_some] at hactive
    refine ⟨_, hactive, ?_⟩
    cases expected.issued
    · exact .inl rfl
    · exact .inr rfl

end ClientParticipantAggregate.Sound

end Liminal.Client
