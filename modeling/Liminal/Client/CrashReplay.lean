import Liminal.Client.Retry
import Liminal.Client.RoundTrip

/-!
# Crash and replay

A client may stop after any operation and start again from its last record. In every state it
reaches, detach replay and awaited operation agree, so the record is written and read back; the
client comes back as it was, with a testimony for every authority that was out, and a second crash
changes nothing.
-/

namespace Liminal.Client

open Wire Codec Fallible ClientParticipantAggregate Option

/-- In every state of every run the replay and the slot agree, so a record is never refused for it, and what
was recorded is restored. -/
theorem detach_replay_coupled (h : clientMachine.Reachable process) :
    (∀ request, (∃ status, process.root.current.detachReplay = .recorded request status ∧
        (status = .parked ∨ status = .inFlight)) ↔
        ∃ expected ∈ process.root.current.expected, expected.request = .detach request) ∧
    (∀ expected request, process.root.current.expected = some expected → expected.request = .detach request →
      (process.root.current.detachReplay = .recorded request .parked ↔ expected.issued = false)) ∧
    process.root.current.resumeRecord ≠ .error .decoupledDetachReplay ∧
    ∀ record, process.root.current.resumeRecord = .ok record → ∃ restored, record.restore = .ok restored := by
  have hsound := (sound_of_reachable h).current
  refine ⟨hsound.active_iff, fun expected request => hsound.parked_iff, ?_, ?_⟩
  · intro hrefused
    have havoids : Avoids Record.Decoupled process.root.current.resumeRecord := by
      unfold resumeRecord
      rw [hsound.validateLiveReplayCoupling]
      exact (Record.encodeAggregate_avoids _).bind fun _ _ => avoids_ok _
    exact havoids _ hrefused rfl
  · intro record hrecord
    exact ⟨_, (hsound.restore_of_resumeRecord hrecord).2⟩

/-- A detach of an enrolled client is out: its replay is in flight, and the record of it is never refused as
decoupled. -/
theorem detach_replay_coupled_in_flight : ∃ process, clientMachine.Reachable process ∧ process.root.current.expected =
      some ⟨detachAsked, true, 2, none⟩ ∧ process.root.current.detachReplay ≠ .recorded ⟨1, 0, 1, 13⟩ .parked ∧
      process.root.current.resumeRecord ≠ .error .decoupledDetachReplay := by
  refine (newProcess_reachable.exists_of_any (enrolledAndIssued detachAsked) ?_).imp fun process hp =>
    ⟨hp.1, hp.2, ?_⟩
  · decide
  · obtain ⟨-, hparked, hcoupled, -⟩ := detach_replay_coupled hp.1
    refine ⟨fun hreplay => ?_, hcoupled⟩
    exact Bool.noConfusion ((hparked _ ⟨1, 0, 1, 13⟩ hp.2 rfl).mp hreplay)

/-! ### Encodable aggregates -/

def IsU64 (value : Nat) : Prop := value < 256 ^ 8

instance (value : Nat) : Decidable (IsU64 value) := inferInstanceAs (Decidable (value < 256 ^ 8))

def IsGeneration (generation : Generation) : Prop := generation ≠ 0 ∧ IsU64 generation

def ClientBindingState.Typed : ClientBindingState → Prop
  | unbound => True
  | bound conversationId participantId generation attachSecret bindingEpoch =>
    IsU64 conversationId ∧ IsU64 participantId ∧ IsGeneration generation ∧ attachSecret < 256 ^ secretLen ∧
      IsU64 bindingEpoch.connectionIncarnation.serverIncarnation ∧
      IsU64 bindingEpoch.connectionIncarnation.connectionOrdinal ∧ IsGeneration bindingEpoch.capabilityGeneration
  | detached conversationId participantId generation attachSecret =>
    IsU64 conversationId ∧ IsU64 participantId ∧ IsGeneration generation ∧ attachSecret < 256 ^ secretLen
  | left conversationId participantId generation =>
    IsU64 conversationId ∧ IsU64 participantId ∧ IsGeneration generation

def DetachReplayState.Typed : DetachReplayState → Prop
  | empty => True
  | recorded request _ => IsU64 request.conversationId ∧ IsU64 request.participantId ∧
      IsGeneration request.capabilityGeneration ∧ request.detachAttemptToken < 256 ^ tokenLen

def ReconnectMachineState.Typed (state : ReconnectMachineState) : Prop :=
  ∀ authorization ∈ state.authorization, IsU64 authorization

def DetachReplayState.terminalValue : DetachReplayState → Option ServerValue
  | empty => none
  | recorded _ status => (Record.replayTag status).2

namespace ClientParticipantAggregate

structure Typed (aggregate : ClientParticipantAggregate) : Prop where
  binding : aggregate.binding.Typed
  counter : IsU64 aggregate.nextOperationAuthorization
  authorization : ∀ expected ∈ aggregate.expected, IsU64 expected.authorization
  replay : aggregate.detachReplay.Typed
  reconnectCounter : IsU64 aggregate.reconnect.nextAuthorization
  reconnect : aggregate.reconnect.state.Typed

/-- The frames inside a record: the awaited request, the retained answer, the abandoned request. -/
def nestedFrames (aggregate : ClientParticipantAggregate) : List ParticipantFrame :=
  (aggregate.expected.map fun expected => .clientRequest expected.request).toList ++
    (aggregate.detachReplay.terminalValue.map .serverValue).toList ++
    (aggregate.restoredAbandonment.map fun value => .clientRequest value.request).toList

structure Encodable (aggregate : ClientParticipantAggregate) : Prop where
  typed : aggregate.Typed
  nested : ∀ frame ∈ aggregate.nestedFrames, ∃ length, encodedLen frame = .ok length

end ClientParticipantAggregate

namespace Record

open Put

theorem Fits.number {puts : List RecordPut} (h : value < 256 ^ width)
    (hrest : Fits (seq puts) bound) : Fits (seq (unsigned .lengthOverflow width value :: puts)) (width + bound) :=
  Fits.cons (.unsigned h) hrest

theorem generation_fits (h : IsGeneration generation) : Fits (putGeneration generation) 8 := by
  rw [putGeneration, if_neg h.1]
  exact .unsigned h.2

theorem bool_fits (value : Bool) : Fits (putBool value) 1 := by
  have hbyte : (if value then 1 else 0) < 256 ^ 1 := by cases value <;> decide
  exact .unsigned hbyte

theorem testimony_fits (testimony : Option LostAuthorityKind) : Fits (encodeTestimony testimony) 1 := by
  unfold encodeTestimony
  split <;> exact .unsigned (by decide)

theorem event_fits (event : ReconnectFreshEvent) : Fits (encodeEvent event) 1 := by
  unfold encodeEvent
  split <;> exact .unsigned (by decide)

def frameRoom : Nat := 8 + (genericHeaderLen + 2 ^ 32)

theorem frame_fits {length : Nat} (recordSection : ClientResumeRecordSection) (h : encodedLen frame = .ok length) : Fits
    (putFrame frame recordSection) frameRoom := by
  obtain ⟨body, hbody, hfits, hrequired⟩ := encodedLen_eq_ok.mp h
  obtain ⟨bytes, hbytes, hlength⟩ := exists_frameBytes frame hfits
  have hencode : encode frame (List.replicate length 0) =
      .ok (length, bytes ++ (List.replicate length (0 : UInt8)).drop length) :=
    encode_eq_ok.mpr ⟨body, bytes, hbody, hfits, hbytes, hlength.trans hrequired.symm,
      by rw [List.length_replicate], rfl⟩
  have hframe : encodeFrame frame recordSection = .ok bytes := by
    simp only [encodeFrame, ok_iff]
    refine ⟨length, h, _, hencode, ?_⟩
    rw [hrequired, ← hlength, List.take_left]
  have hbound : bytes.length ≤ genericHeaderLen + 2 ^ 32 := by
    omega
  have hblob : Fits (putBlob bytes) (8 + (bytes.length + 0)) := by
    refine Fits.number ?_ (Fits.cons ⟨bytes, rfl, Nat.le_refl _⟩ Fits.nil)
    calc bytes.length ≤ genericHeaderLen + 2 ^ 32 := hbound
      _ < 256 ^ 8 := by decide
  rw [putFrame, hframe]
  exact hblob.mono (Nat.add_le_add_left hbound 8)

theorem binding_fits {binding : ClientBindingState} (h : binding.Typed) : Fits (encodeBinding binding) 81 := by
  cases binding with
  | unbound => exact (Fits.number (by decide) .nil).mono (by decide)
  | bound =>
    obtain ⟨hconv, hpart, hgen, hsecret, hserver, hordinal, hepoch⟩ := h
    have hepoch : Fits (putEpoch _) (8 + (8 + (8 + 0))) :=
      Fits.number hserver (Fits.number hordinal (.cons (generation_fits hepoch) .nil))
    exact Fits.number (by decide) (Fits.number hconv (Fits.number hpart
      (.cons (generation_fits hgen) (Fits.number hsecret (.cons hepoch .nil)))))
  | detached =>
    obtain ⟨hconv, hpart, hgen, hsecret⟩ := h
    exact (Fits.number (by decide) (Fits.number hconv (Fits.number hpart
      (.cons (generation_fits hgen) (Fits.number hsecret .nil))))).mono (by decide)
  | left =>
    obtain ⟨hconv, hpart, hgen⟩ := h
    exact (Fits.number (by decide) (Fits.number hconv (Fits.number hpart
      (.cons (generation_fits hgen) .nil)))).mono (by decide)

theorem expected_fits {expected : Option ExpectedOperationState}
    (htyped : ∀ value ∈ expected, IsU64 value.authorization) (hframe : ∀ value ∈ expected, ∃ length,
      encodedLen (.clientRequest value.request) = .ok length) : Fits (encodeExpected expected) (11 + frameRoom) := by
  cases expected with
  | none => exact (Fits.number (by decide) .nil).mono (by decide)
  | some expected =>
    obtain ⟨length, hlength⟩ := hframe expected rfl
    exact (Fits.number (by decide) (.cons (bool_fits _) (Fits.number (htyped expected rfl)
      (.cons (testimony_fits _) (.cons (frame_fits _ hlength) .nil))))).mono (by decide)

theorem replay_fits (htyped : replay.Typed) (hframe : ∀ value ∈ replay.terminalValue,
    ∃ length, encodedLen (.serverValue value) = .ok length) : Fits (encodeReplay replay) (41 + frameRoom) := by
  cases replay with
  | empty => exact (Fits.number (by decide) .nil).mono (by decide)
  | recorded request status =>
    obtain ⟨hconv, hpart, hgen, htoken⟩ := htyped
    have hterm : Fits (putTerminal (replayTag status).2) frameRoom := by
      cases hvalue : (replayTag status).2 with
      | none => exact Fits.nil.mono (by decide)
      | some value =>
        obtain ⟨length, hlength⟩ := hframe value hvalue
        exact frame_fits _ hlength
    have htag : (replayTag status).1 < 256 ^ 1 :=
      Nat.lt_of_le_of_lt (replayTag_pos status).2 (by decide)
    exact (Fits.number htag (Fits.number hconv (Fits.number hpart
      (.cons (generation_fits hgen) (Fits.number htoken (.cons hterm .nil)))))).mono (by decide)

theorem reconnectState_fits (h : state.Typed) :
    Fits (encodeReconnectState state) 11 := by
  cases state with
  | parked | online => exact (Fits.number (by decide) .nil).mono (by decide)
  | permit authorization =>
    exact (Fits.number (by decide) (Fits.number (h authorization rfl) (.cons (event_fits _)
      (.cons (bool_fits _) .nil)))).mono (by decide)
  | attempt authorization =>
    exact (Fits.number (by decide) (Fits.number (h authorization rfl) (.cons (event_fits _) .nil))).mono (by decide)

theorem abandonment_fits
    (hframe : ∀ value ∈ abandonment, ∃ length, encodedLen (.clientRequest value.request) = .ok length) :
    Fits (encodeAbandonment abandonment) (3 + frameRoom) := by
  cases abandonment with
  | none => exact (Fits.number (by decide) .nil).mono (by decide)
  | some abandonment =>
    obtain ⟨length, hlength⟩ := hframe abandonment rfl
    exact (Fits.number (by decide) (Fits.number (by decide) (.cons (bool_fits _)
      (.cons (frame_fits _ hlength) .nil)))).mono (by decide)

theorem exists_encodeAggregate {aggregate : ClientParticipantAggregate}
    (h : aggregate.Encodable) : ∃ bytes, encodeAggregate aggregate = .ok bytes := by
  have hexpected := expected_fits h.typed.authorization fun value hvalue =>
    h.nested (.clientRequest value.request) (by simp [nestedFrames, mem_def.mp hvalue])
  have hreplay := replay_fits h.typed.replay fun value hvalue =>
    h.nested (.serverValue value) (by simp [nestedFrames, mem_def.mp hvalue])
  have habandonment : Fits (encodeAbandonment aggregate.restoredAbandonment) (3 + frameRoom) :=
    abandonment_fits fun value hvalue => h.nested (.clientRequest value.request) (by
      simp [nestedFrames, mem_def.mp hvalue])
  have hreconnect : Fits (encodeReconnect aggregate.reconnect) (8 + (11 + (1 + 0))) :=
    Fits.number h.typed.reconnectCounter (.cons (reconnectState_fits h.typed.reconnect) (.cons (testimony_fits _) .nil))
  obtain ⟨payload, hpayload, hlength⟩ : Fits (encodeSections aggregate) _ :=
    Fits.cons (binding_fits h.typed.binding) (Fits.number h.typed.counter (.cons hexpected
      (.cons hreplay (.cons hreconnect (.cons habandonment .nil)))))
  have hroom : payload.length < 256 ^ 8 := Nat.lt_of_le_of_lt hlength (by decide)
  obtain ⟨bytes, hbytes, -⟩ : Fits (seq [.ok magic, putU16 version, putU64 payload.length, .ok payload]) _ :=
    Fits.cons ⟨magic, rfl, Nat.le_refl _⟩ (Fits.number (by decide) (Fits.number hroom
      (.cons ⟨payload, rfl, Nat.le_refl _⟩ .nil)))
  refine ⟨bytes, ?_⟩
  rw [encodeAggregate, hpayload]
  exact hbytes

end Record

/-! ### What a crash changes -/

/-- The restored aggregate is the original, except that an authority that was out has left its testimony and a
tokenless operation has become the abandonment. -/
structure CrashRestored (original restored : ClientParticipantAggregate) : Prop where
  binding : restored.binding = original.binding
  counter : restored.nextOperationAuthorization = original.nextOperationAuthorization
  replay : restored.detachReplay = original.detachReplay
  reconnectState : restored.reconnect.state = original.reconnect.state
  reconnectCounter : restored.reconnect.nextAuthorization = original.reconnect.nextAuthorization
  /-- An issued permit and a running attempt are lost, nothing else of the reconnect is. -/
  reconnectLost : restored.reconnect.lost = original.reconnect.state.lostKind
  reconnectKept : original.reconnect.state.lostKind = none → restored.reconnect = original.reconnect
  empty : original.expected = none →
    restored.expected = none ∧ restored.restoredAbandonment = original.restoredAbandonment
  unissued : ∀ expected, original.expected = some expected →
    expected.request.isObserverRecovery = false → expected.issued = false →
    restored.expected = some expected ∧ restored.restoredAbandonment = original.restoredAbandonment
  issued : ∀ expected, original.expected = some expected →
    expected.request.isObserverRecovery = false → expected.issued = true →
    restored.expected = some { expected with lost := some (lostOperationKind expected.request) } ∧
      restored.restoredAbandonment = original.restoredAbandonment
  tokenless : ∀ expected, original.expected = some expected → expected.request.isObserverRecovery = true →
    restored.expected = none ∧ original.restoredAbandonment = none ∧ restored.restoredAbandonment =
        some ⟨expected.request, .tokenlessAfterCrash, expected.issued⟩

namespace ClientParticipantAggregate.Sound

variable {aggregate : ClientParticipantAggregate} {process : ClientProcess}

theorem restoredReconnectLost_eq (h : aggregate.Sound) :
    restoredReconnectLost aggregate.facts = aggregate.reconnect.state.lostKind := by
  have htestimony : ∀ testimony ∈ aggregate.reconnect.lost,
      aggregate.reconnect.state.lostKind = some testimony := h.reconnectTestimony
  show aggregate.reconnect.lost.or aggregate.reconnect.state.lostKind = _
  cases hlost : aggregate.reconnect.lost with
  | none => rfl
  | some testimony => exact (htestimony testimony hlost).symm

theorem crashRestored (h : aggregate.Sound) : CrashRestored aggregate aggregate.facts.rebuild where
  binding := rfl
  counter := rfl
  replay := rfl
  reconnectState := rfl
  reconnectCounter := rfl
  reconnectLost := h.restoredReconnectLost_eq
  reconnectKept := by
    intro hnothing
    have hlost : aggregate.reconnect.lost = none := by
      have heq := h.restoredReconnectLost_eq
      rw [hnothing] at heq
      exact (or_eq_none_iff.mp heq).1
    have hrestored : restoredReconnectLost aggregate.facts = aggregate.reconnect.lost :=
      h.restoredReconnectLost_eq.trans (hnothing.trans hlost.symm)
    show ReconnectAggregate.mk _ _ (restoredReconnectLost aggregate.facts) = _
    rw [hrestored]
    rfl
  empty := by
    intro hslot
    have hfacts : aggregate.facts.expected = none := hslot
    simp only [DecodedFacts.rebuild, restoredExpected, Client.restoredAbandonment, hfacts, true_and]
    rfl
  unissued := by
    intro expected hslot htoken hissued
    have hfacts : aggregate.facts.expected = some expected := hslot
    simp only [DecodedFacts.rebuild, restoredExpected, Client.restoredAbandonment, hfacts, htoken, hissued]
    exact ⟨rfl, rfl⟩
  issued := by
    intro expected hslot htoken hissued
    have hfacts : aggregate.facts.expected = some expected := hslot
    have hkind : expected.lost.getD (lostOperationKind expected.request) = lostOperationKind expected.request := by
      cases hlost : expected.lost with
      | none => rfl
      | some testimony => exact (h.testimony expected hslot testimony hlost).2.2
    simp only [DecodedFacts.rebuild, restoredExpected, Client.restoredAbandonment, hfacts, htoken, hissued, hkind]
    exact ⟨rfl, rfl⟩
  tokenless := by
    intro expected hslot hnotoken
    have hfacts : aggregate.facts.expected = some expected := hslot
    have hnone : aggregate.restoredAbandonment = none := by
      rw [← not_isSome_iff_eq_none]
      intro hpending
      have hother := h.tokenless hpending expected hslot
      rw [hnotoken] at hother
      cases hother
    simp only [DecodedFacts.rebuild, restoredExpected, Client.restoredAbandonment, hfacts, hnotoken]
    exact ⟨rfl, hnone, rfl⟩

end ClientParticipantAggregate.Sound

theorem restoredExpected_idem (expected : Option ExpectedOperationState) :
    restoredExpected (restoredExpected expected) = restoredExpected expected := by
  cases expected with
  | none => rfl
  | some expected =>
    cases htoken : expected.request.isObserverRecovery with
    | true => simp only [restoredExpected, htoken, if_true]
    | false =>
      cases hissued : expected.issued <;> simp [restoredExpected, htoken, hissued]

theorem rebuild_idem (facts : DecodedFacts) : facts.rebuild.facts.rebuild = facts.rebuild := by
  have hexpected : restoredExpected facts.rebuild.facts.expected = restoredExpected facts.expected :=
    restoredExpected_idem facts.expected
  have habandonment : restoredAbandonment facts.rebuild.facts = restoredAbandonment facts := by
    have hkept : facts.rebuild.facts.expected = restoredExpected facts.expected := rfl
    rw [restoredAbandonment, hkept]
    cases hslot : restoredExpected facts.expected with
    | none => rfl
    | some restored =>
      obtain ⟨expected, -, htoken, rfl⟩ := mem_restoredExpected hslot
      simp only [htoken]
      rfl
  have hlost : restoredReconnectLost facts.rebuild.facts = restoredReconnectLost facts := by
    show (restoredReconnectLost facts).or facts.reconnectState.lostKind = _
    unfold restoredReconnectLost
    cases facts.reconnectLost <;> simp
  show mk facts.binding (restoredExpected facts.rebuild.facts.expected) facts.nextOperationAuthorization facts.replay
    ⟨facts.reconnectState, facts.nextAuthorization, restoredReconnectLost facts.rebuild.facts⟩
    (restoredAbandonment facts.rebuild.facts) = _
  rw [hexpected, habandonment, hlost]
  rfl

/-- The restored aggregate holds the same numbers, and its frames are among the original's. -/
theorem ClientParticipantAggregate.Encodable.rebuild {aggregate : ClientParticipantAggregate}
    (h : aggregate.Encodable) : aggregate.facts.rebuild.Encodable where
  typed := { h.typed with
    authorization := by
      intro restored hmem
      obtain ⟨expected, hslot, -, rfl⟩ := mem_restoredExpected hmem
      exact h.typed.authorization expected hslot }
  nested := by
    intro frame hframe
    refine h.nested frame ?_
    simp only [nestedFrames, List.mem_append, mem_toList, map_eq_some_iff] at hframe ⊢
    rcases hframe with (⟨restored, hmem, rfl⟩ | hterm) | ⟨abandonment, habandonment, rfl⟩
    · obtain ⟨expected, hslot, -, rfl⟩ := mem_restoredExpected hmem
      exact .inl (.inl ⟨expected, hslot, rfl⟩)
    · exact .inl (.inr hterm)
    · -- the abandoned request was pending before, or it is the tokenless one of the slot
      have hrestored : Client.restoredAbandonment aggregate.facts = some abandonment := habandonment
      unfold Client.restoredAbandonment at hrestored
      split at hrestored
      · rename_i expected hslot
        split at hrestored
        · obtain rfl := some.inj hrestored
          exact .inl (.inl ⟨expected, hslot, rfl⟩)
        · exact .inr ⟨abandonment, hrestored, rfl⟩
      · exact .inr ⟨abandonment, hrestored, rfl⟩

theorem ClientParticipantAggregate.Sound.exists_resumeRecord {aggregate : ClientParticipantAggregate}
    (h : aggregate.Sound) (hencodable : aggregate.Encodable) : ∃ record, aggregate.resumeRecord = .ok record := by
  obtain ⟨bytes, hbytes⟩ := Record.exists_encodeAggregate hencodable
  refine ⟨⟨bytes⟩, ?_⟩
  simp only [resumeRecord, ok_iff]
  exact ⟨(), h.validateLiveReplayCoupling, bytes, hbytes, rfl⟩

/-- Every encodable state is recorded, its record restores what a crash leaves of it, and doing so once more
changes nothing. -/
theorem resume_round_trip (h : clientMachine.Reachable process)
    (hencodable : process.root.current.Encodable) : ∃ record restored, process.root.current.resumeRecord = .ok record ∧
      ClientResumeRecord.decodeCanonical record.canonical = .ok record ∧
      record.restore = .ok restored ∧ CrashRestored process.root.current restored ∧
      ∃ again, restored.resumeRecord = .ok again ∧
        ClientResumeRecord.decodeCanonical again.canonical = .ok again ∧ again.restore = .ok restored := by
  have hsound := (sound_of_reachable h).current
  obtain ⟨record, hrecord⟩ := hsound.exists_resumeRecord hencodable
  obtain ⟨hdecode, hrestore⟩ := hsound.restore_of_resumeRecord hrecord
  have hrestored : process.root.current.facts.rebuild.Sound := DecodedFacts.Sound.rebuild hsound
  obtain ⟨again, hagain⟩ := hrestored.exists_resumeRecord hencodable.rebuild
  obtain ⟨hdecode', hrestore'⟩ := hrestored.restore_of_resumeRecord hagain
  rw [rebuild_idem] at hrestore'
  exact ⟨record, _, hrecord, hdecode, hrestore, hsound.crashRestored, again, hagain, hdecode', hrestore'⟩

/-- With its detach out, the enrolled client crashes, and comes back with the attempt as lost. -/
theorem resume_round_trip_detach : ∃ process record restored, clientMachine.Reachable process ∧
      process.root.current.Encodable ∧ process.root.current.resumeRecord = .ok record ∧ record.restore = .ok restored ∧
      restored.expected = some ⟨detachAsked, true, 2, some .detachTransportAttempt⟩ := by
  obtain ⟨process, hrun, hslot, hbinding, hcounter, hreplay, hreconnect, habandonment⟩ : ∃ process,
      clientMachine.run newProcess (enrolledAndIssued detachAsked) = some process ∧ process.root.current.expected = some
      ⟨detachAsked, true, 2, none⟩ ∧ process.root.current.binding = .bound 1 0 1 20 ⟨⟨1, 1⟩, 1⟩ ∧
      process.root.current.nextOperationAuthorization = 2 ∧ process.root.current.detachReplay = .recorded ⟨1, 0, 1,
      13⟩ .inFlight ∧ process.root.current.reconnect = .new ∧ process.root.current.restoredAbandonment =
      none := exists_of_any (by decide)
  have hreachable := newProcess_reachable.run hrun
  have htyped : process.root.current.Typed :=
    { binding := by
        rw [hbinding]
        simp only [ClientBindingState.Typed, IsGeneration, IsU64, secretLen]
        decide
      counter := by
        rw [hcounter]
        decide
      authorization := by
        rw [hslot]
        decide
      replay := by
        rw [hreplay]
        simp only [DetachReplayState.Typed, IsGeneration, IsU64, tokenLen]
        decide
      reconnectCounter := by
        rw [hreconnect]
        decide
      reconnect := by
        rw [hreconnect]
        rintro _ ⟨⟩ }
  have hnested : ∀ frame ∈ process.root.current.nestedFrames, ∃ length, encodedLen frame = .ok length := by
    have hframes : process.root.current.nestedFrames = [.clientRequest detachAsked] := by
      simp only [nestedFrames, hslot, hreplay, habandonment]
      rfl
    rw [hframes]
    intro frame hframe
    obtain rfl := List.mem_singleton.mp hframe
    exact ⟨56, rfl⟩
  obtain ⟨record, restored, hrecord, -, hrestore, hcrash, -⟩ :=
    resume_round_trip hreachable ⟨htyped, hnested⟩
  exact ⟨process, record, restored, hreachable, ⟨htyped, hnested⟩, hrecord, hrestore, (hcrash.issued _ hslot rfl rfl).1⟩

end Liminal.Client
