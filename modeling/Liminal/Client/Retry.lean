import Liminal.Client.Credential

/-!
# Retrying a backpressured request

Some answers say only that nothing was committed. They empty the slot and leave the binding alone,
so the same request can be recorded at once. A detach cannot: its replay is settled as refused, and
takes the same envelope never again and another detach only under a newer generation.
-/

namespace Liminal.Client

open Wire Fallible Checked

variable {value : ServerValue} {aggregate : ClientParticipantAggregate}

def asksForRetry : ServerValue → Bool
  | .observerBackpressure _ | .markerSettlementBackpressure _ | .enrollmentSettlementBackpressure _
  | .connectionConversationCapacityExceeded _ => true
  | _ => false

/-- Such an answer changes nothing but the slot and the replay of an expected detach. -/
theorem applyCorrelatedValue_of_asksForRetry (h : asksForRetry value = true)
    (aggregate : ClientParticipantAggregate) : applyCorrelatedValue aggregate value = aggregate := by
  cases value <;> first | rfl | cases h

theorem straysPastSlot_of_asksForRetry (h : asksForRetry value = true) : straysPastSlot value = false := by
  cases value <;> first | rfl | cases h

theorem recordOperation_of_free (haccepts : aggregate.binding.acceptsRequest request = true)
    (hack : request.isParticipantAck = false) (hslot : aggregate.expected = none)
    (habandoned : aggregate.restoredAbandonment.isSome = true → request.isObserverRecovery = false)
    (hroom : aggregate.nextOperationAuthorization < u64Max) (hdetach : ∀ envelope, request ≠ .detach envelope) :
    ∃ record, recordOperation aggregate request = .pending record := by
  have hadd : add u64Max aggregate.nextOperationAuthorization 1 =
      some (aggregate.nextOperationAuthorization + 1) := add_eq_some.mpr ⟨hroom, rfl⟩
  have hadmit : admitDetachReplay aggregate.detachReplay request = .ok (aggregate.detachReplay, none) := by
    cases request with
    | detach envelope => exact absurd rfl (hdetach envelope)
    | _ => rfl
  have hfree : ¬(aggregate.restoredAbandonment.isSome = true ∧ request.isObserverRecovery = true) := by
    rintro ⟨hsome, hobs⟩
    rw [habandoned hsome] at hobs
    cases hobs
  simp only [recordOperation, haccepts, hack, hslot, hadd, hadmit, not_true_eq_false, if_false,
    Bool.false_eq_true, Option.isSome_none, if_neg hfree]
  exact ⟨_, rfl⟩

theorem retireExpectedOperation_of_asksForRetry (hslot : aggregate.expected = some expected)
    (hretry : asksForRetry value = true) (hdetach : ∀ envelope, expected.request ≠ .detach envelope) :
    retireExpectedOperation aggregate value = { aggregate with expected := none } := by
  unfold retireExpectedOperation
  rw [applyCorrelatedValue_of_asksForRetry hretry, hslot]
  obtain ⟨request, issued, authorization, lost⟩ := expected
  cases request with
  | detach envelope => exact absurd rfl (hdetach envelope)
  | _ => rfl

/-! ### A backpressured detach and a backpressured attach -/

def detachAsked : ClientRequest := .detach ⟨1, 0, 1, 13⟩

def detachBackpressured : ServerValue := .markerSettlementBackpressure (.detach 1 4)

def attachBackpressured : ServerValue :=
  .observerBackpressure (.credentialAttach ⟨⟨1, 0, 1, none⟩, 11⟩ ⟨4, 4, rfl⟩)

def enrolledAndIssued (request : ClientRequest) : List ClientAction :=
  exchange enrollmentAsked 1 (.enrollBound enrollmentGranted) ++ issue request 2

/-- A detach that met a marker to be settled first cannot be recorded again. -/
theorem backpressured_detach_refused : ∃ process successor, clientMachine.Reachable process ∧
    process.root = .aggregate process.root.current ∧ process.root.current.expected = some ⟨detachAsked, true, 2, none⟩ ∧
    asksForRetry detachBackpressured = true ∧ decideCorrelatedInbound process.root.current detachBackpressured ⟨2⟩ =
      .applied successor detachBackpressured ∧ recordOperation successor detachAsked =
      .refused successor detachAsked .detachReplayIncompatible := by
  refine (newProcess_reachable.exists_of_any (enrolledAndIssued detachAsked) ?_).imp fun process hfacts =>
    ⟨retireExpectedOperation process.root.current detachBackpressured, hfacts⟩
  decide

/-- After an applied answer that asks for a retry, the identical request is recorded exactly if it is not a
detach (and the counter has a number left). -/
theorem recordOperation_after_backpressure {process : ClientProcess} {successor : ClientParticipantAggregate}
    {expected : ExpectedOperationState} {answer : ServerValue} {correlation : ClientResponseCorrelation}
    (hreachable : clientMachine.Reachable process) (hroot : process.root = .aggregate aggregate)
    (hslot : aggregate.expected = some expected) (hretry : asksForRetry value = true)
    (happlied : decideCorrelatedInbound aggregate value correlation = .applied successor answer) :
    (∃ record, recordOperation successor expected.request = .pending record) ↔
      (∀ envelope, expected.request ≠ .detach envelope) ∧ aggregate.nextOperationAuthorization < u64Max := by
  have hsound : aggregate.Sound := by
    have hroots := sound_of_reachable hreachable
    rw [hroot] at hroots
    exact hroots
  obtain ⟨rfl, expected', hawaits, -, haccepts, hmatches⟩ :=
    decideCorrelatedInbound_eq_applied happlied (straysPastSlot_of_asksForRetry hretry)
  obtain rfl : expected' = expected := Option.some.inj (hawaits.slot.symm.trans hslot)
  constructor
  · rintro ⟨record, hrecord⟩
    have hother : ∀ envelope, expected'.request ≠ .detach envelope := by
      intro envelope hrequest
      -- the replay of the expected detach was in flight, and is a refusal now
      have hactive := hsound.coupled_slot hslot
      rw [ExpectedOperationState.detach, hrequest] at hactive
      have hreplay : (retireExpectedOperation aggregate value).detachReplay =
          .recorded envelope (.terminal (.authorityRefused value)) := by
        unfold retireExpectedOperation
        rw [applyCorrelatedValue_of_asksForRetry hretry, hslot]
        obtain ⟨request, issued, authorization, lost⟩ := expected'
        cases hrequest
        simp only [DetachReplayState.settleRefusedAuthority_fst, hactive, Option.map_some, if_true]
      rw [hrequest] at hrecord
      obtain ⟨-, -, -, -, -, replay, prior, hadmit, -⟩ := recordOperation_eq_pending hrecord
      simp [hreplay, admitDetachReplay] at hadmit
    refine ⟨hother, ?_⟩
    obtain ⟨-, -, -, -, hroom, -⟩ := recordOperation_eq_pending hrecord
    rw [retireExpectedOperation_of_asksForRetry hslot hretry hother] at hroom
    exact hroom
  · rintro ⟨hother, hroom⟩
    rw [retireExpectedOperation_of_asksForRetry hslot hretry hother]
    exact recordOperation_of_free haccepts (hsound.notAck _ hslot) rfl
      (fun habandoned => hsound.tokenless habandoned _ hslot) hroom hother

/-- The attach that met backpressure is recorded again. -/
theorem recordOperation_after_backpressure_attach : ∃ process successor, clientMachine.Reachable process ∧
    decideCorrelatedInbound process.root.current attachBackpressured ⟨2⟩ = .applied successor attachBackpressured ∧
    ∃ record, recordOperation successor attachAsked = .pending record := by
  obtain ⟨process, hrun, hroot, hslot, happlied, hroom⟩ : ∃ process, clientMachine.run newProcess
      (enrolledAndIssued attachAsked) = some process ∧ process.root = .aggregate process.root.current ∧
      process.root.current.expected = some ⟨attachAsked, true, 2, none⟩ ∧
      decideCorrelatedInbound process.root.current attachBackpressured ⟨2⟩ =
        .applied (retireExpectedOperation process.root.current attachBackpressured) attachBackpressured ∧
      process.root.current.nextOperationAuthorization < u64Max := exists_of_any (by decide)
  have hreachable := newProcess_reachable.run hrun
  refine ⟨process, _, hreachable, happlied, ?_⟩
  exact (recordOperation_after_backpressure hreachable hroot hslot rfl happlied).mpr
    ⟨fun _ => by simp [attachAsked], hroom⟩

end Liminal.Client
