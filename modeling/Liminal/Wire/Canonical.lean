import Liminal.Wire.Frame

/-!
# Bodies have one encoding

Every reader accepts only what its writer writes. Where a field is redundant the reader's comparison
says what its bytes were, and where a reader goes on with a placeholder it has marked the body.
`suffixFor` has no bytes for a value that does not belong to the discriminant and request its reader
was selected by.
-/

namespace Liminal.Wire

open Codec Checked

/-! ### Requests and pushes -/

theorem requireFixedList_still (cursor : Cursor) (value : Unit) (rest : Cursor)
    (h : requireFixedList count width cursor = .ok (value, rest)) : rest = cursor := by
  obtain ⟨remaining, between, hremaining, hrest⟩ := Get.bind_eq_ok.mp h
  obtain ⟨-, rfl⟩ := Prod.mk.inj (Except.ok.inj hremaining)
  split_ifs at hrest
  · cases hrest
  · exact (Prod.mk.inj (Except.ok.inj hrest)).2.symm

/-- A request has no bytes under another discriminant. -/
def requestFor (tag : ClientDiscriminant) : ClientRequest → WirePut :=
  Put.only .invalidValue (fun request => request.discriminant = tag) encodeClientRequest

/-- A request is accepted only as it is written. -/
theorem clientRequest_writes (tag : ClientDiscriminant) : Writes (decodeClientRequest tag) (requestFor tag) := by
  cases tag with
  | enrollmentRequest => exact .of_completes (.next₂ fun _ _ => .pure fun _ => rfl)
  | credentialAttachRequest =>
    exact .of_completes (.next₂ fun _ _ => .next₂ fun _ _ => .next₂ fun _ _ => .pure fun _ => rfl)
  | detachRequest | participantAck | markerAck =>
    exact .of_completes (.next₂ fun _ _ => .next₂ fun _ _ =>
      .pure fun _ => rfl)
  | leaveRequest | recordAdmission =>
    exact .of_completes (.next₂ fun _ _ => .next₂ fun _ _ => .next fun _ =>
      .pure fun _ => rfl)
  | observerRecoveryHandshake =>
    refine .of_completes (.next fun count => .still requireFixedList_still fun _ =>
      .fieldWith (Format.writes.times count) (.times_length _ _) fun refusals hlength =>
      .pure fun _ => ?_)
    subst hlength
    rfl

theorem detachedCause_writes : Writes takeDetachedCause fun cause => putTag (detachedCauseTag cause) := by
  refine .of_completes (.next fun tag => ?_)
  cases tag with
  | cleanDeregister | superseded | serverShutdown => exact .pure fun _ => (Put.seq_single _).symm
  | _ => exact .fail

def recordFor (kind : RecordKind) : ParticipantRecord → WirePut :=
  Put.only .invalidValue (fun record => record.recordKind = kind) putParticipantRecord

theorem participantRecord_writes (kind : RecordKind) : Writes (decodeParticipantRecord kind) (recordFor kind) := by
  cases kind with
  | ordinaryRecord | attached | left =>
    exact .of_completes (.next₂ fun _ _ => .pure fun _ => rfl)
  | detached =>
    exact .of_completes (.next₂ fun _ _ => .field detachedCause_writes fun _ =>
      .pure fun _ => rfl)
  | died => exact .of_completes (.next₂ fun _ _ => .next fun _ => .pure fun _ => rfl)
  | historyCompacted =>
    exact .of_completes (.next₂ fun _ _ => .next₂ fun _ _ =>
      .pure fun _ => rfl)

def pushFor (tag : PushDiscriminant) : ServerPush → WirePut :=
  Put.only .invalidValue (fun push => push.discriminant = tag) encodeServerPush

/-- A push is accepted only as it is written. -/
theorem serverPush_writes (tag : PushDiscriminant) : Writes (decodeServerPush tag) (pushFor tag) := by
  cases tag with
  | observerProgressed =>
    exact .of_completes (.next₂ fun _ _ => .next fun _ => .pure fun _ => rfl)
  | participantDelivery =>
    refine .of_completes (.next₂ fun _ _ => .next fun kind =>
      .fieldIf (participantRecord_writes kind) fun record => .pure fun hknown => ?_)
    obtain rfl := hknown.2
    rfl
  | markerSettled => exact .of_completes (.next₂ fun _ _ => .pure fun _ => rfl)

end Liminal.Wire
