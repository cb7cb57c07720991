import Liminal.Library.Canonical
import Liminal.Wire.Tags

/-!
# Fields on the wire

Numbers are big-endian; an option is a byte before the value. A zero generation is read as one and
marked, so that a body of the wrong length is refused as such; an unassigned tag is refused at once,
since the bytes after it cannot be read without it. A field is read back as it was written, and
accepted only as it is written. Writing a number out of its type's bounds is the error of a value
that cannot be typed.
-/

namespace Liminal.Wire

open Codec

inductive CodecError
  | notParticipantFrame (frameType : Nat)
  | decode (decodeClass : DecodeClass)
  | unsupportedVersion (presented supported : ProtocolVersion)
  | outputTooSmall (required available : Nat)
  | lengthOverflow
  | invalidValue
  | invalidFrameLimit (maxFrameBytes : Nat)

abbrev WirePut := Put CodecError
abbrev WireGet := Get CodecError

/-- The bytes end too early. -/
def missingField (_needed _remaining : Nat) : CodecError := .decode .missingRequiredField

def invalidField : CodecError := .decode .invalidField

/-! ### Numbers and bytes -/

variable (value : Nat)

def putU8 : WirePut := .unsigned .invalidValue 1 value
def putU16 : WirePut := .unsigned .invalidValue 2 value
def putU32 : WirePut := .unsigned .invalidValue 4 value
def putU64 : WirePut := .unsigned .invalidValue 8 value
def putU128 : WirePut := .unsigned .invalidValue 16 value

def takeU8 : WireGet Nat := .unsigned missingField 1
def takeU16 : WireGet Nat := .unsigned missingField 2
def takeU32 : WireGet Nat := .unsigned missingField 4
def takeU64 : WireGet Nat := .unsigned missingField 8
def takeU128 : WireGet Nat := .unsigned missingField 16

def tokenLen : Nat := 16
def secretLen : Nat := 32

def putToken (token : Nat) : WirePut := .unsigned .invalidValue tokenLen token
def putSecret (secret : Nat) : WirePut := .unsigned .invalidValue secretLen secret

def takeToken : WireGet Nat := .unsigned missingField tokenLen
def takeSecret : WireGet Nat := .unsigned missingField secretLen

def putBytes (payload : Bytes) : WirePut :=
  if payload.length < 2 ^ 32 then .seq [putU32 payload.length, .ok payload] else .error .lengthOverflow

def takeBytes : WireGet Bytes := do
  let length ← takeU32
  Get.take missingField length

/-! ### Choices -/

def putBool (value : Bool) : WirePut := putU8 (if value then 1 else 0)

def takeBool : WireGet Bool := do
  match ← takeU8 with
  | 0 => return false
  | 1 => return true
  | _ => Get.fail invalidField

def putOption {α : Type} (put : α → WirePut) : Option α → WirePut
  | some value => .seq [putU8 1, put value]
  | none => .seq [putU8 0]

def takeOption {α : Type} (get : WireGet α) : WireGet (Option α) := do
  match ← takeU8 with
  | 0 => return none
  | 1 => some <$> get
  | _ => Get.fail invalidField

def putTag {T : Type} [DecidableEq T] [Registry T] (tag : T) : WirePut :=
  putU16 (Registry.wireValue tag)

/-- An unassigned tag is refused at once. -/
def takeTag {T : Type} [DecidableEq T] [Registry T] : WireGet T := do
  let value ← takeU16
  Get.orFail invalidField (Registry.ofWire? value)

/-! ### Generations and epochs -/

def putGeneration (generation : Generation) : WirePut :=
  if generation = 0 then .error .invalidValue else putU64 generation

/-- Zero is read as one and marked. -/
def takeGeneration : WireGet Generation := do
  let raw ← takeU64
  Get.invalidateUnless (raw ≠ 0)
  return if raw = 0 then 1 else raw

def putBindingEpoch (epoch : BindingEpoch) : WirePut :=
  .seq [putU64 epoch.connectionIncarnation.serverIncarnation,
    putU64 epoch.connectionIncarnation.connectionOrdinal, putGeneration epoch.capabilityGeneration]

def takeBindingEpoch : WireGet BindingEpoch := do
  return ⟨⟨← takeU64, ← takeU64⟩, ← takeGeneration⟩

def putProtocolVersion (version : ProtocolVersion) : WirePut :=
  .seq [putU16 version.major, putU16 version.minor]

def takeProtocolVersion : WireGet ProtocolVersion := do
  return ⟨← takeU16, ← takeU16⟩

def putResourceVector (value : ResourceVector) : WirePut :=
  .seq [putU64 value.entries, putU64 value.bytes]

def takeResourceVector : WireGet ResourceVector := do
  return ⟨← takeU64, ← takeU64⟩

def putWideResourceVector (value : WideResourceVector) : WirePut :=
  .seq [putU128 value.entries, putU128 value.bytes]

def takeWideResourceVector : WireGet WideResourceVector := do
  return ⟨← takeU128, ← takeU128⟩

/-! ### The end of a body -/

/-- All bytes are used up, and only then no field may have been outside its domain. -/
def finish : WireGet Unit := fun cursor =>
  if cursor.rest ≠ [] then .error (.decode .canonicalEncoding)
  else if cursor.invalid then .error invalidField
  else .ok ((), cursor)

/-- The reader has to use up the body. -/
def decodeBody {α : Type} (get : WireGet α) (body : Bytes) : Except CodecError α := ((do
    let value ← get
    finish
    return value : WireGet α) ⟨body, false⟩).map Prod.fst

/-! ### Formats -/

instance : Format takeU8 putU8 := .unsigned _ _ _
instance : Format takeU16 putU16 := .unsigned _ _ _
instance : Format takeU32 putU32 := .unsigned _ _ _
instance : Format takeU64 putU64 := .unsigned _ _ _
instance : Format takeU128 putU128 := .unsigned _ _ _
instance : Format takeToken putToken := .unsigned _ _ _
instance : Format takeSecret putSecret := .unsigned _ _ _

instance : Format takeBytes putBytes where
  reads payload := by
    unfold putBytes
    split
    · refine .next (.single fun bytes hput rest => ?_)
      obtain rfl := Except.ok.inj hput
      exact take_append
    · intro bytes hput
      cases hput
  writes := by
    refine .of_completes (.fieldWith Format.writes (.unsigned_lt _ _) fun length (hlength : length < 2 ^ 32) => ?_)
    rw [← bind_pure (Get.take missingField length)]
    refine .fieldWith (take_writes _ _) (.take_length _ length) fun payload hpayload => .pure ?_
    intro _
    rw [← hpayload] at hlength
    rw [putBytes, if_pos hlength, hpayload]
    rfl

instance : Format takeBool putBool where
  reads value := by
    cases value with
    | false => exact (Format.reads 0).andThen (.pure false)
    | true => exact (Format.reads 1).andThen (.pure true)
  writes := by
    refine .of_completes (.next fun raw => ?_)
    match raw with
    | 0 | 1 => exact .pure fun _ => (Put.seq_single _).symm
    | _ + 2 => exact .fail

instance {α : Type} {get : WireGet α} {put : α → WirePut} [Format get put] :
    Format (takeOption get) (putOption put) where
  reads option := by
    cases option with
    | none => exact .next (.pure none)
    | some value => exact .next (.single (.mapped rfl))
  writes := by
    refine .of_completes (.next fun raw => ?_)
    match raw with
    | 0 => exact .pure fun _ => rfl
    | 1 => exact .last fun _ _ => rfl
    | _ + 2 => exact .fail

instance {T : Type} [DecidableEq T] [Registry T] : Format (takeTag (T := T)) putTag where
  reads tag := by
    refine (Format.reads (Registry.wireValue tag)).andThen ?_
    rw [Registry.ofWire?_wireValue]
    exact .pure tag
  writes := by
    refine .of_completes (.next fun value => ?_)
    rw [← bind_pure (Get.orFail invalidField (Registry.ofWire? value))]
    refine .orFail fun tag htag => .pure fun _ => ?_
    rw [putTag, Registry.wireValue_of_ofWire? htag]
    exact (Put.seq_single _).symm

instance : Format takeGeneration putGeneration where
  reads generation := by
    unfold putGeneration
    split
    · intro bytes hput
      cases hput
    · rename_i hpos
      refine (Format.reads generation).andThen (.check hpos ?_)
      rw [if_neg hpos]
      exact .pure generation
  writes := by
    refine .of_completes (.next fun raw => .check (.pure fun hknown => ?_))
    rw [if_neg hknown.2, putGeneration, if_neg hknown.2]
    exact (Put.seq_single _).symm

instance : Format takeBindingEpoch putBindingEpoch where
  reads _ := .next (.next (.next (.pure _)))
  writes := .of_completes (.next₂ fun _ _ => .next fun _ => .pure fun _ => rfl)

instance : Format takeProtocolVersion putProtocolVersion where
  reads _ := .next (.next (.pure _))
  writes := .of_completes (.next₂ fun _ _ => .pure fun _ => rfl)

instance : Format takeResourceVector putResourceVector where
  reads _ := .next (.next (.pure _))
  writes := .of_completes (.next₂ fun _ _ => .pure fun _ => rfl)

instance : Format takeWideResourceVector putWideResourceVector where
  reads _ := .next (.next (.pure _))
  writes := .of_completes (.next₂ fun _ _ => .pure fun _ => rfl)

/-- A body is decoded to what it was written for. -/
theorem decodeBody_of_reads {α get} {put : WirePut} {value : α}
    (h : Reads get put value) {body : Bytes} (hput : put = .ok body) : decodeBody get body = .ok value := by
  have hget := h body hput []
  rw [List.append_nil] at hget
  rw [decodeBody, Reads.bind_of_ok hget]
  rfl

/-- A decoded body is what is written for its value. -/
theorem body_of_writes {α get} {put : α → WirePut} (h : Writes get put)
    {body : Bytes} {value : α} (hdecode : decodeBody get body = .ok value) : put value = .ok body := by
  obtain ⟨⟨value', rest⟩, hread, rfl⟩ := Fallible.map_eq_ok.mp hdecode
  obtain ⟨value'', between, hget, hfinish⟩ := Get.bind_eq_ok.mp hread
  obtain ⟨_, final, hend, hpure⟩ := Get.bind_eq_ok.mp hfinish
  obtain ⟨rfl, rfl⟩ := Prod.mk.inj (Except.ok.inj hpure)
  unfold finish at hend
  split_ifs at hend with hrest hinvalid
  obtain ⟨-, bytes, hput, happend⟩ := h _ _ _ hget (Bool.eq_false_iff.mpr hinvalid)
  rw [not_not.mp hrest, List.append_nil] at happend
  obtain rfl : body = bytes := happend
  exact hput

end Liminal.Wire
