import Liminal.Wire.ServerReads

/-!
# Frames

A participant frame is the generic ten-byte header, version, discriminant and body, written into
storage that must hold it whole. The reader looks at outer type, header, length and version, and
only then at the discriminant, which the receiver's direction gives its meaning.
-/

namespace Liminal.Wire

open Codec Fallible Put Registry List

variable {frame : ParticipantFrame} {body bytes : Bytes}

/-- Who reads the frame. -/
inductive ReceiverDirection
  | server
  | client

inductive ParticipantFrame
  | clientRequest (value : ClientRequest)
  | serverValue (value : ServerValue)
  | serverPush (value : ServerPush)
deriving DecidableEq

def participantFrameType : Nat := 0x1A
def genericHeaderLen : Nat := 10
def participantPrefixLen : Nat := 6

def ProtocolVersion.v1 : ProtocolVersion := ⟨1, 0⟩

/-! ### Writing -/

def frameDiscriminant : ParticipantFrame → Nat
  | .clientRequest value | .serverValue value | .serverPush value => wireValue value.discriminant

def encodeBody : ParticipantFrame → WirePut
  | .clientRequest value => encodeClientRequest value
  | .serverPush value => encodeServerPush value
  | .serverValue value => encodeServerValueBody value

def encodedLen (frame : ParticipantFrame) : Except CodecError Nat := do
  let body ← encodeBody frame
  let payload := participantPrefixLen + body.length
  require (payload < 2 ^ 32) .lengthOverflow
  return genericHeaderLen + payload

def putHeader (payloadLen : Nat) : WirePut :=
  .seq [putU8 participantFrameType, putU8 0, putU32 0, putU32 payloadLen]

/-- The number of bytes written, and the storage after they were written at its start. -/
def encode (frame : ParticipantFrame) (output : Bytes) : Except CodecError (Nat × Bytes) := do
  let required ← encodedLen frame
  require (required ≤ output.length) (.outputTooSmall required output.length)
  let bytes ← seq [putHeader (required - genericHeaderLen),
    putProtocolVersion .v1, putU16 (frameDiscriminant frame), encodeBody frame]
  return (required, bytes ++ output.drop bytes.length)

/-! ### Reading -/

structure FrameHeader where
  (frameType flags streamId payloadLen : Nat)

def takeHeader : WireGet FrameHeader := do
  return ⟨← takeU8, ← takeU8, ← takeU32, ← takeU32⟩

/-- A push is looked up before an answer. -/
def decodeFrameBody (receiver : ReceiverDirection) (discriminant : Nat) (body : Bytes) :
    Except CodecError ParticipantFrame :=
  match receiver with
  | .server =>
    match ofWire? discriminant with
    | some tag => (decodeBody (decodeClientRequest tag) body).map .clientRequest
    | none => .error (.decode .unknownDiscriminant)
  | .client =>
    match ofWire? discriminant with
    | some tag => (decodeBody (decodeServerPush tag) body).map .serverPush
    | none =>
      match ofWire? discriminant with
      | some tag => (decodeBody (decodeServerValueBody tag) body).map .serverValue
      | none => .error (.decode .unknownDiscriminant)

/-- Lengths are checked before the version, and the version before the body. -/
def decode (input : Bytes) (receiver : ReceiverDirection) : Except CodecError ParticipantFrame := do
  require (input.head?.all fun frameType => frameType.toNat = participantFrameType)
    (.notParticipantFrame (input.headD 0).toNat)
  require (genericHeaderLen ≤ input.length) (.decode .framing)
  let (header, payload) ← takeHeader ⟨input, false⟩
  require (header.flags = 0 ∧ header.streamId = 0 ∧ participantPrefixLen ≤ header.payloadLen) (.decode .framing)
  let complete := genericHeaderLen + header.payloadLen
  require (complete ≤ input.length) (.decode .missingRequiredField)
  require (input.length ≤ complete) (.decode .canonicalEncoding)
  let (version, tail) ← takeProtocolVersion payload
  require (version = .v1) (.unsupportedVersion version .v1)
  let (discriminant, body) ← takeU16 tail
  decodeFrameBody receiver discriminant body.rest

/-! ### Frames are read back -/

def ParticipantFrame.receiver : ParticipantFrame → ReceiverDirection
  | clientRequest _ => .server
  | serverValue _ | serverPush _ => .client

/-- No answer has the discriminant of a push. -/
theorem push_ofWire?_server (discriminant : ServerDiscriminant) :
    (ofWire? (wireValue discriminant) : Option PushDiscriminant) = none := by
  cases discriminant <;> decide

theorem decodeFrameBody_encodeBody (h : encodeBody frame = .ok body) :
    decodeFrameBody frame.receiver (frameDiscriminant frame) body = .ok frame := by
  cases frame with
  | clientRequest value =>
    simp only [decodeFrameBody, ParticipantFrame.receiver, frameDiscriminant, ofWire?_wireValue]
    rw [decodeBody_of_reads (clientRequest_reads value) h]
    rfl
  | serverValue value =>
    simp only [decodeFrameBody, ParticipantFrame.receiver, frameDiscriminant, push_ofWire?_server, ofWire?_wireValue]
    rw [decodeBody_of_reads (serverValueBody_reads value) h]
    rfl
  | serverPush value =>
    simp only [decodeFrameBody, ParticipantFrame.receiver, frameDiscriminant, ofWire?_wireValue]
    rw [decodeBody_of_reads (serverPush_reads value) h]
    rfl

theorem header_reads (payloadLen : Nat) :
    Reads takeHeader (putHeader payloadLen) ⟨participantFrameType, 0, 0, payloadLen⟩ :=
  .next (.next (.next (.next (.pure _))))

theorem putHeader_eq_ok (h : putHeader payloadLen = .ok bytes) :
    bytes.head? = some 0x1A ∧ bytes.length = genericHeaderLen := by
  obtain ⟨frameType, tail, hframeType, htail, rfl⟩ := seq_cons_eq_ok.mp h
  obtain ⟨flags, tail', hflags, htail', rfl⟩ := seq_cons_eq_ok.mp htail
  obtain ⟨stream, tail'', hstream, htail'', rfl⟩ := seq_cons_eq_ok.mp htail'
  obtain ⟨length, nothing, hlength, hnothing, rfl⟩ := seq_cons_eq_ok.mp htail''
  obtain rfl := Except.ok.inj hnothing
  obtain ⟨-, rfl⟩ := unsigned_eq_ok.mp hframeType
  obtain ⟨-, rfl⟩ := unsigned_eq_ok.mp hflags
  obtain ⟨-, rfl⟩ := unsigned_eq_ok.mp hstream
  obtain ⟨-, rfl⟩ := unsigned_eq_ok.mp hlength
  exact ⟨rfl, by simp [genericHeaderLen]⟩

def frameBytes (frame : ParticipantFrame) (body : Bytes) : WirePut :=
  .seq [putHeader (participantPrefixLen + body.length), putProtocolVersion .v1,
    putU16 (frameDiscriminant frame), .ok body]

theorem encodedLen_eq_ok : encodedLen frame = .ok required ↔ ∃ body, encodeBody frame = .ok body ∧
      participantPrefixLen + body.length < 2 ^ 32 ∧
      required = genericHeaderLen + (participantPrefixLen + body.length) := by
  simp only [encodedLen, ok_iff, @eq_comm _ required]

theorem frameDiscriminant_lt (frame : ParticipantFrame) : frameDiscriminant frame < 256 ^ 2 := by
  cases frame with
  | clientRequest value | serverValue value | serverPush value =>
    show wireValue value.discriminant < _
    cases value.discriminant <;> decide

/-- Every frame whose length is known has its bytes, and their number is that length. -/
theorem exists_frameBytes (frame : ParticipantFrame) (hfits : participantPrefixLen + body.length < 2 ^ 32) :
    ∃ bytes, frameBytes frame body = .ok bytes ∧
      bytes.length = genericHeaderLen + (participantPrefixLen + body.length) := by
  have hheader : putHeader (participantPrefixLen + body.length) =
      .ok (bigEndian 1 participantFrameType ++ (bigEndian 1 0 ++ (bigEndian 4 0 ++
        (bigEndian 4 (participantPrefixLen + body.length) ++ [])))) := by
    refine seq_cons_eq_ok.mpr ⟨_, _, unsigned_eq_ok.mpr ⟨by decide, rfl⟩, ?_, rfl⟩
    refine seq_cons_eq_ok.mpr ⟨_, _, unsigned_eq_ok.mpr ⟨by decide, rfl⟩, ?_, rfl⟩
    refine seq_cons_eq_ok.mpr ⟨_, _, unsigned_eq_ok.mpr ⟨by decide, rfl⟩, ?_, rfl⟩
    exact seq_cons_eq_ok.mpr ⟨_, _, unsigned_eq_ok.mpr ⟨hfits, rfl⟩, rfl, rfl⟩
  have hversion : putProtocolVersion .v1 = .ok (bigEndian 2 1 ++ (bigEndian 2 0 ++ [])) := rfl
  have hdisc : putU16 (frameDiscriminant frame) = .ok (bigEndian 2 (frameDiscriminant frame)) :=
    unsigned_eq_ok.mpr ⟨frameDiscriminant_lt frame, rfl⟩
  refine ⟨_, seq_cons_eq_ok.mpr ⟨_, _, hheader, seq_cons_eq_ok.mpr ⟨_, _, hversion,
    seq_cons_eq_ok.mpr ⟨_, _, hdisc, seq_cons_eq_ok.mpr ⟨body, _, rfl, rfl, rfl⟩, rfl⟩, rfl⟩, rfl⟩, ?_⟩
  simp only [length_append, bigEndian_length, length_nil, genericHeaderLen, participantPrefixLen]
  omega

theorem encode_eq_ok : encode frame output = .ok (written, result) ↔ ∃ body bytes, encodeBody frame = .ok body ∧
      participantPrefixLen + body.length < 2 ^ 32 ∧ frameBytes frame body = .ok bytes ∧
      bytes.length = written ∧ written ≤ output.length ∧ result = bytes ++ output.drop written := by
  simp only [encode, ok_iff, encodedLen_eq_ok, Prod.mk.injEq]
  constructor
  · rintro ⟨required, ⟨body, hbody, hfits, rfl⟩, hroom, bytes, hbytes, rfl, rfl⟩
    rw [hbody, Nat.add_sub_cancel_left] at hbytes
    obtain ⟨bytes', hbytes', hlength⟩ := exists_frameBytes frame hfits
    obtain rfl : bytes = bytes' := Except.ok.inj (hbytes.symm.trans hbytes')
    exact ⟨body, bytes, hbody, hfits, hbytes, hlength, hroom, by rw [hlength]⟩
  · rintro ⟨body, bytes, hbody, hfits, hbytes, rfl, hroom, rfl⟩
    obtain ⟨bytes', hbytes', hlength⟩ := exists_frameBytes frame hfits
    obtain rfl : bytes = bytes' := Except.ok.inj (hbytes.symm.trans hbytes')
    refine ⟨_, ⟨body, hbody, hfits, rfl⟩, hlength ▸ hroom, bytes, ?_, hlength.symm, rfl⟩
    rw [hbody, Nat.add_sub_cancel_left]
    exact hbytes

/-- The bytes of a frame are read back as the frame by the side it is meant for. -/
theorem decode_frameBytes (hbody : encodeBody frame = .ok body)
    (hbytes : frameBytes frame body = .ok bytes) : decode bytes frame.receiver = .ok frame := by
  obtain ⟨header, payload, hheader, hpayload, rfl⟩ := seq_cons_eq_ok.mp hbytes
  obtain ⟨version, tail, hversion, htail, rfl⟩ := seq_cons_eq_ok.mp hpayload
  obtain ⟨discriminant, rest, hdisc, hrest, rfl⟩ := seq_cons_eq_ok.mp htail
  obtain ⟨body', nothing, hbody', hnothing, rfl⟩ := seq_cons_eq_ok.mp hrest
  obtain rfl := Except.ok.inj hnothing
  obtain rfl := Except.ok.inj hbody'
  obtain ⟨hhead, hlength⟩ := putHeader_eq_ok hheader
  have hversionLength : version.length = 4 := by
    obtain rfl := Except.ok.inj hversion
    rfl
  have hdiscLength : discriminant.length = 2 := by
    obtain ⟨-, rfl⟩ := unsigned_eq_ok.mp hdisc
    simp
  have htakeHeader := header_reads (participantPrefixLen + body.length) header hheader
    (version ++ (discriminant ++ (body ++ [])))
  have htakeVersion := (Format.reads _ : Reads takeProtocolVersion (putProtocolVersion .v1) .v1)
    version hversion (discriminant ++ (body ++ []))
  have htakeDiscriminant := (Format.reads _ : Reads takeU16 (putU16 (frameDiscriminant frame)) _)
    discriminant hdisc (body ++ [])
  simp only [decode, ok_iff]
  refine ⟨?_, ?_, _, htakeHeader, ?_, ?_, ?_, _, htakeVersion, rfl, _, htakeDiscriminant, ?_⟩
  · rw [head?_append, hhead]
    rfl
  · simp only [length_append, hlength]
    omega
  · exact ⟨rfl, rfl, Nat.le_add_right _ _⟩
  · simp only [length_append, hlength, hversionLength, hdiscLength, length_nil, participantPrefixLen]
    omega
  · simp only [length_append, hlength, hversionLength, hdiscLength, length_nil, participantPrefixLen]
    omega
  · rw [append_nil]
    exact decodeFrameBody_encodeBody hbody

/-! ### Round trip -/

/-- Two writes of one direction that leave the same bytes wrote the same frame. -/
theorem encode_injective (h : encode frame output = .ok (written, result))
    (h' : encode other output' = .ok (written', result')) (hreceiver : frame.receiver = other.receiver)
    (hsame : result.take written = result'.take written') : frame = other := by
  obtain ⟨body, bytes, hbody, -, hbytes, rfl, -, rfl⟩ := encode_eq_ok.mp h
  obtain ⟨body', bytes', hbody', -, hbytes', rfl, -, rfl⟩ := encode_eq_ok.mp h'
  rw [take_left, take_left] at hsame
  have hdecode := decode_frameBytes hbody hbytes
  rw [hsame, hreceiver, decode_frameBytes hbody' hbytes'] at hdecode
  exact (Except.ok.inj hdecode).symm

/-- Encoding fills the start of any storage that holds the frame and leaves the rest; the bytes are read
back as the frame and no other frame of its direction is written with them. -/
theorem wire_round_trip {length : Nat} (h : encodedLen frame = .ok length) :
    (∃ bytes : Bytes, bytes.length = length ∧ decode bytes frame.receiver = .ok frame ∧
      ∀ output : Bytes, length ≤ output.length → encode frame output = .ok (length, bytes ++ output.drop length)) ∧
    ∀ other output output' written written' result result',
      encode frame output = .ok (written, result) → encode other output' = .ok (written', result') →
      frame.receiver = other.receiver → result.take written = result'.take written' → frame = other := by
  refine ⟨?_, fun other output output' written written' result result' => encode_injective⟩
  obtain ⟨body, hbody, hfits, rfl⟩ := encodedLen_eq_ok.mp h
  obtain ⟨bytes, hbytes, hlength⟩ := exists_frameBytes frame hfits
  refine ⟨bytes, hlength, decode_frameBytes hbody hbytes, fun output hroom => ?_⟩
  exact encode_eq_ok.mpr ⟨body, bytes, hbody, hfits, hbytes, hlength, hroom, rfl⟩

theorem wire_round_trip_participantAck : encodedLen (.clientRequest (.participantAck ⟨7, 1, 2, 3⟩)) = .ok 48 ∧
    ∃ bytes : Bytes, bytes.length = 48 ∧
      decode bytes .server = .ok (.clientRequest (.participantAck ⟨7, 1, 2, 3⟩)) := by
  have hlength : encodedLen (.clientRequest (.participantAck ⟨7, 1, 2, 3⟩)) = .ok 48 := by
    apply toOption_eq_some.mp
    decide
  obtain ⟨bytes, hbytes, hdecode, -⟩ := (wire_round_trip hlength).1
  exact ⟨hlength, bytes, hbytes, hdecode⟩

end Liminal.Wire
