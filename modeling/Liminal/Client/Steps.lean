import Liminal.Client
import Mathlib.Data.List.Perm.Basic

/-!
# What a client step does

Every action of the client machine, reduced to what it can do to the slot, the replay, the binding
and the values in hand. Two hands of one-use values agree if their authorizations do: an operation,
an attempt and a correlation with a nonzero number are the authority over the slot, a continuous
acknowledgement carries zero.
-/

namespace Liminal.Client

open Wire Fallible Checked DetachReplayState ClientOperationRecordDecision Option

section

variable {request : ClientRequest} {record : ClientPendingOperationRecord} {process : ClientProcess}

/-! ### Authorities -/

/-- The slot authorization a number stands for: zero is a continuous acknowledgement. -/
def slotNumber (authorization : Nat) : Option Nat :=
  if authorization = 0 then none else some authorization

def OneUse.slotAuthorization : OneUse → Option Nat
  | operation value | detachAttempt value | correlation value => slotNumber value.authorization
  | permit _ | reconnectAttempt _ => none

def authorities (held : List OneUse) : List Nat := held.filterMap OneUse.slotAuthorization

theorem authorities_cons (value : OneUse) (held : List OneUse) :
    authorities (value :: held) = value.slotAuthorization.toList ++ authorities held := by
  cases h : value.slotAuthorization <;> simp [authorities, h]

theorem slotNumber_of_pos (h : 0 < authorization) : slotNumber authorization = some authorization := by
  simp [slotNumber, Nat.ne_of_gt h]

theorem spend_authorities (h : spend held value = some held') :
    (authorities (value :: held')).Perm (authorities held) := by
  unfold spend at h
  split at h
  · rename_i hmem
    cases h
    exact ((List.perm_cons_erase hmem).symm).filterMap _
  · cases h

/-! ### Recording -/

theorem admitDetachReplay_eq_ok (h : admitDetachReplay replay request = .ok (replay', prior)) :
    ((∀ envelope, request ≠ .detach envelope) ∧ replay' = replay ∧ prior = none) ∨
      ∃ envelope, request = .detach envelope ∧ replay' = .recorded envelope .parked ∧ prior = some replay := by
  unfold admitDetachReplay at h
  split at h
  · rename_i envelope
    refine .inr ⟨envelope, rfl, ?_⟩
    split at h
    · simp_all
    · split at h
      · rename_i hsame
        split at h
        · rename_i hparked
          simp only [Except.ok.injEq, Prod.mk.injEq] at h
          rw [← h.1, ← h.2, hsame, hparked]
          exact ⟨rfl, rfl⟩
        · cases h
      · split at h
        · simp_all
        · cases h
  · rename_i hother
    simp only [Except.ok.injEq, Prod.mk.injEq] at h
    exact .inl ⟨fun envelope he => hother envelope he, h.1.symm, h.2.symm⟩

variable {aggregate : ClientParticipantAggregate}

/-- Everything a recorded operation has passed, and what it leaves in the aggregate. -/
theorem recordOperation_eq_pending (h : recordOperation aggregate request = .pending record) :
    aggregate.binding.acceptsRequest request = true ∧ request.isParticipantAck = false ∧ aggregate.expected = none ∧
      (aggregate.restoredAbandonment.isSome = true → request.isObserverRecovery = false) ∧
      aggregate.nextOperationAuthorization + 1 ≤ u64Max ∧
      ∃ replay prior, admitDetachReplay aggregate.detachReplay request = .ok (replay, prior) ∧
        record = ⟨{ aggregate with
            detachReplay := replay
            nextOperationAuthorization := aggregate.nextOperationAuthorization + 1
            expected := some ⟨request, false, aggregate.nextOperationAuthorization + 1, none⟩ },
          ⟨request, aggregate.nextOperationAuthorization + 1⟩, prior⟩ := by
  unfold recordOperation at h
  split at h
  · cases h
  rename_i haccepts
  split at h
  · cases h
  rename_i hack
  split at h
  · cases h
  rename_i hslot
  split at h
  · cases h
  rename_i habandoned
  split at h
  · cases h
  rename_i authorization hauthorization
  split at h
  · cases h
  rename_i replay prior hreplay
  obtain ⟨hmax, rfl⟩ := add_eq_some.mp hauthorization
  refine ⟨by simpa using haccepts, by simpa using hack, by simpa using hslot, ?_, hmax, replay,
    prior, hreplay, (pending.inj h).symm⟩
  intro hsome
  simpa [hsome] using habandoned

theorem recordOperation_eq_continuous (h : recordOperation aggregate request = .continuous aggregate' operation) :
    aggregate' = aggregate ∧ operation = ⟨request, 0⟩ := by
  unfold recordOperation at h
  repeat' split at h
  all_goals cases h
  exact ⟨rfl, rfl⟩

theorem recordOperation_eq_refused (h : recordOperation aggregate request = .refused aggregate' request' reason) :
    aggregate' = aggregate ∧ request' = request := by
  unfold recordOperation at h
  repeat' split at h
  all_goals cases h
  all_goals exact ⟨rfl, rfl⟩

theorem ClientPendingOperationRecord.abort_of_recordOperation
    (h : recordOperation aggregate request = .pending record) : record.abort = (aggregate, request) := by
  obtain ⟨-, -, hslot, -, -, replay, prior, hreplay, rfl⟩ := recordOperation_eq_pending h
  have hback : prior.getD replay = aggregate.detachReplay := by
    rcases admitDetachReplay_eq_ok hreplay with ⟨-, rfl, rfl⟩ | ⟨_, -, -, rfl⟩ <;> rfl
  simp only [ClientPendingOperationRecord.abort, hback, Nat.add_sub_cancel]
  rw [← hslot]

end

/-! ### The steps -/

inductive ReconnectStep (reconnect : ReconnectAggregate) : ReconnectAggregate → Prop
  | fresh {event} : reconnect.state = .parked ∨ reconnect.state = .online →
      ReconnectStep reconnect ⟨.permit (reconnect.nextAuthorization + 1) event true,
        reconnect.nextAuthorization + 1, reconnect.lost⟩
  | recover {authorization event} : reconnect.state = .permit authorization event false → ReconnectStep reconnect
      { reconnect with state := .permit authorization event true }
  | resolve {testimony} : reconnect.lost = some testimony →
      ReconnectStep reconnect { reconnect with state := .parked, lost := none }
  | redeem {authorization event issued} : reconnect.lost = none → reconnect.state = .permit authorization event issued →
      ReconnectStep reconnect { reconnect with state := .attempt authorization event }
  | fate {authorization event} (fate : ReconnectAttemptFate) : reconnect.lost = none → reconnect.state =
      .attempt authorization event → ReconnectStep reconnect { reconnect with state := fate.state }

/-- The correlation under which an action presents an outcome of the expected operation. -/
def ClientAction.outcome : ClientAction → Option ClientResponseCorrelation
  | applyAttach _ correlation | applyLeaveDurable _ correlation | applyDetachOutcome _ correlation
  | correlatedInbound _ correlation => some correlation
  | _ => none

def ClientAction.fate : ClientAction → Option ClientResponseCorrelation
  | expectedOperationFate correlation | transportFate correlation => some correlation
  | _ => none

def straysPastSlot (value : ServerValue) : Bool :=
  (participantAckRequest value).isSome || isTransportRejection value

structure AwaitsAnswer (aggregate : ClientParticipantAggregate)
    (expected : ExpectedOperationState) (correlation : ClientResponseCorrelation) : Prop where
  slot : aggregate.expected = some expected
  issued : expected.issued = true
  number : expected.authorization = correlation.authorization

inductive ProcessStep : ClientProcess → ClientAction → ClientProcess → Prop
  | keep {root held rest} {action : ClientAction} (hheld : (authorities rest).Perm (authorities held)) :
      ProcessStep ⟨root, held⟩ action ⟨root, rest⟩
  | stray {aggregate expected value correlation held rest} (hawaits : AwaitsAnswer aggregate expected correlation)
      (hstray : straysPastSlot value = true) (hheld : spend held (.correlation correlation) = some rest) : ProcessStep
      ⟨.aggregate aggregate, held⟩ (.correlatedInbound value correlation) ⟨.aggregate aggregate, rest⟩
  | record {aggregate request record held} (hrecord : recordOperation aggregate request = .pending record) :
      ProcessStep ⟨.aggregate aggregate, held⟩ (.record request) ⟨.pending record, held⟩
  | commit {record held} : ProcessStep ⟨.pending record, held⟩ .commit ⟨.commit record.commit, held⟩
  | abort {record held} : ProcessStep ⟨.pending record, held⟩ .abort ⟨.aggregate record.abort.1, held⟩
  | release {commit held} : ProcessStep ⟨.commit commit, held⟩ .release
      ⟨.aggregate commit.intoParts.1, .operation commit.operation :: held⟩
  | recover {aggregate expected held} (hslot : aggregate.expected = some expected) (hissued : expected.issued = false) :
      ProcessStep ⟨.aggregate aggregate, held⟩ .recoverExpectedOperation ⟨.aggregate { aggregate with
            expected := some { expected with issued := true }
            detachReplay := markStarted expected.request aggregate.detachReplay },
          .operation ⟨expected.request, expected.authorization⟩ :: held⟩
  | started {aggregate expected request held} (hslot : aggregate.expected = some expected)
      (hrequest : expected.request = .detach request) (hreplay : aggregate.detachReplay = .recorded request .parked) :
      ProcessStep ⟨.aggregate aggregate, held⟩ .transportAttemptStarted ⟨.aggregate { aggregate with
            expected := some { expected with issued := true }
            detachReplay := .recorded request .inFlight },
          .detachAttempt ⟨request, expected.authorization⟩ :: held⟩
  | park {aggregate expected request correlation held rest} (hawaits : AwaitsAnswer aggregate expected correlation)
      (hlost : expected.lost = none) (hrequest : expected.request = .detach request) (hheld : spend held
      (.correlation correlation) = some rest) : ProcessStep ⟨.aggregate aggregate, held⟩ (.transportFate correlation)
      ⟨.aggregate { aggregate with
            expected := some ⟨.detach request, false, expected.authorization, none⟩
            detachReplay := .recorded request .parked }, rest⟩
  | retireDetach {action : ClientAction} {aggregate expected replay correlation held rest}
      (hawaits : AwaitsAnswer aggregate expected correlation) (hlost : expected.lost = none) (haction : action.outcome =
      some correlation) (hactive : replay.active = none) (hterm : replay.terminalAgrees = true)
      (hrefusal : replay.refusalCanonical = true) (hheld : spend held (.correlation correlation) = some rest) :
      ProcessStep ⟨.aggregate aggregate, held⟩ action
        ⟨.aggregate { aggregate with detachReplay := replay, expected := none }, rest⟩
  | fate {aggregate expected correlation held rest} (hawaits : AwaitsAnswer aggregate expected correlation)
      (hlost : expected.lost = none) (hrequest : expected.detach = none) (hheld : spend held
      (.correlation correlation) = some rest) :
      ProcessStep ⟨.aggregate aggregate, held⟩ (.expectedOperationFate correlation)
        ⟨.aggregate { aggregate with expected := none }, rest⟩
  | resolve {aggregate expected held} (hslot : aggregate.expected = some expected)
      (hlost : expected.lost.isSome = true) (hrequest : expected.detach = none) :
      ProcessStep ⟨.aggregate aggregate, held⟩ .resolveLostOperation
        ⟨.aggregate { aggregate with expected := none }, held⟩
  | resolveDetach {aggregate expected request held} (hslot : aggregate.expected = some expected)
      (hlost : expected.lost.isSome = true) (hrequest : expected.request = .detach request) :
      ProcessStep ⟨.aggregate aggregate, held⟩ .resolveLostOperation ⟨.aggregate { aggregate with
            expected := some ⟨.detach request, false, expected.authorization, none⟩
            detachReplay := aggregate.detachReplay.park }, held⟩
  | answer {aggregate expected value correlation held rest} (hawaits : AwaitsAnswer aggregate expected correlation)
      (hlost : expected.lost = none) (haccepts : aggregate.binding.acceptsRequest expected.request = true)
      (hmatches : matchesRequest value expected.request = true) (hheld : spend held (.correlation correlation) =
      some rest) :
      ProcessStep ⟨.aggregate aggregate, held⟩ (.correlatedInbound value correlation)
        ⟨.aggregate (retireExpectedOperation aggregate value), rest⟩
  | abandonment {aggregate held} : ProcessStep ⟨.aggregate aggregate, held⟩ .takeAbandonment
        ⟨.aggregate { aggregate with restoredAbandonment := none }, held⟩
  | reconnect {action : ClientAction} {aggregate reconnect held rest} (haction : action.outcome = none ∧ action.fate =
      none) (hstep : ReconnectStep aggregate.reconnect reconnect) (hheld : (authorities rest).Perm (authorities held)) :
      ProcessStep ⟨.aggregate aggregate, held⟩ action ⟨.aggregate (aggregate.withReconnect reconnect), rest⟩
  | restore {root held} (hdurable : ∀ record, root ≠ .pending record) :
      ProcessStep ⟨root, held⟩ .restore ⟨.aggregate root.current.facts.rebuild, []⟩

/-! ### Every action is one of them -/

section Classification

variable {aggregate : ClientParticipantAggregate} {held rest : List OneUse} {action : ClientAction}
  {value : OneUse} {correlation : ClientResponseCorrelation} {root : ClientRoot} {process' : ClientProcess}

theorem ProcessStep.exchange (hheld : spend held value = some rest) (hsame : value'.slotAuthorization =
    value.slotAuthorization) : ProcessStep ⟨root, held⟩ action ⟨root, value' :: rest⟩ := by
  refine .keep ?_
  rw [authorities_cons, hsame, ← authorities_cons]
  exact spend_authorities hheld

theorem detachAuthorityMatches_eq_true (h : detachAuthorityMatches aggregate correlation = true) :
    ∃ expected request, AwaitsAnswer aggregate expected correlation ∧
      expected.request = .detach request ∧ aggregate.detachReplay = .recorded request .inFlight := by
  unfold detachAuthorityMatches at h
  split at h
  · rename_i expected request hslot hreplay
    obtain ⟨hissued, hnumber, hrequest⟩ := of_decide_eq_true h
    exact ⟨expected, request, ⟨hslot, hissued, hnumber⟩, hrequest, hreplay⟩
  · cases h

theorem lost_eq_none_of_operationLossPending (hslot : aggregate.expected = some expected)
    (h : ¬aggregate.operationLossPending = true) : expected.lost = none := by
  simpa [ClientParticipantAggregate.operationLossPending,
    ClientParticipantAggregate.lostOperationTestimony, hslot] using h

/-- Refused with nothing changed, applied past the slot, or applied to the expected operation. -/
theorem decideInboundInner_cases (aggregate : ClientParticipantAggregate) (value : ServerValue)
    (hasResponseAuthority : Bool) : (∃ reason, decideInboundInner aggregate value hasResponseAuthority =
        .refused aggregate value reason) ∨ straysPastSlot value = true ∧
        decideInboundInner aggregate value hasResponseAuthority = .applied aggregate value ∨
      ∃ expected, hasResponseAuthority = true ∧ aggregate.expected = some expected ∧
        expected.lost = none ∧ aggregate.binding.acceptsRequest expected.request = true ∧
        matchesRequest value expected.request = true ∧ decideInboundInner aggregate value hasResponseAuthority =
          .applied (retireExpectedOperation aggregate value) value := by
  unfold decideInboundInner
  split
  · exact .inl ⟨_, rfl⟩
  split
  · rename_i request hack
    split
    · exact .inr (.inl ⟨by simp [straysPastSlot, hack], rfl⟩)
    · exact .inl ⟨_, rfl⟩
  split
  · rename_i hrejection
    exact .inr (.inl ⟨by simp [straysPastSlot, hrejection], rfl⟩)
  split
  · exact .inl ⟨_, rfl⟩
  rename_i expected hslot
  split
  · exact .inl ⟨_, rfl⟩
  rename_i hlost
  split
  · exact .inl ⟨_, rfl⟩
  rename_i hauth
  split
  · exact .inl ⟨_, rfl⟩
  rename_i haccepts
  split
  · exact .inl ⟨_, rfl⟩
  rename_i hmatches
  exact .inr (.inr ⟨expected, by simpa using hauth, hslot, by simpa using hlost,
    by simpa using haccepts, by simpa using hmatches, rfl⟩)

theorem currentAuthority_eq_true (h : currentAuthority aggregate correlation = true) :
    ∃ expected, AwaitsAnswer aggregate expected correlation := by
  unfold currentAuthority at h
  cases hslot : aggregate.expected with
  | none => simp [hslot] at h
  | some expected =>
    rw [hslot] at h
    obtain ⟨hissued, hnumber⟩ := of_decide_eq_true h
    exact ⟨expected, hslot, hissued, hnumber⟩

theorem spend_authorities_of_none (hvalue : value.slotAuthorization = none)
    (hheld : spend held value = some rest) : (authorities rest).Perm (authorities held) := by
  simpa [authorities_cons, hvalue] using spend_authorities hheld

theorem restoreStep_step (hdurable : ∀ record, root ≠ .pending record)
    (h : restoreStep root.current = some process') : ProcessStep ⟨root, held⟩ .restore process' := by
  obtain ⟨restored, hrestore, rfl⟩ := map_eq_some_iff.mp h
  simp only [DecodedFacts.restore, some_iff, ok_iff] at hrestore
  obtain ⟨-, -, rfl⟩ := hrestore
  exact .restore hdurable

theorem ProcessStep.of_spend {step : List OneUse → ClientProcess} (h : (do
      let rest ← spend held value return step rest) = some process')
    (hstep : ∀ rest, spend held value = some rest → ProcessStep process action (step rest)) :
    ProcessStep process action process' := by
  obtain ⟨rest, hheld, heq⟩ := bind_eq_some_iff.mp h
  exact some.inj heq ▸ hstep rest hheld

section Aggregate

theorem recordStep_step (request : ClientRequest) :
    ProcessStep ⟨.aggregate aggregate, held⟩ (.record request) (recordStep aggregate held request) := by
  unfold recordStep
  split
  · rename_i hrecord
    exact .record hrecord
  · rename_i hcontinuous
    obtain ⟨rfl, rfl⟩ := recordOperation_eq_continuous hcontinuous
    exact .keep (.refl _)
  · rename_i hrefused
    rw [(recordOperation_eq_refused hrefused).1]
    exact .keep (.refl _)

theorem recoverStep_step :
    ProcessStep ⟨.aggregate aggregate, held⟩ .recoverExpectedOperation (recoverStep aggregate held) := by
  unfold recoverStep recoverExpectedOperation
  cases hslot : aggregate.expected with
  | none => exact .keep (.refl _)
  | some expected =>
    cases hissued : expected.issued with
    | true => simpa [hissued] using .keep (.refl _)
    | false => simpa [hissued] using .recover hslot hissued

theorem resolveStep_step :
    ProcessStep ⟨.aggregate aggregate, held⟩ .resolveLostOperation (resolveStep aggregate held) := by
  unfold resolveStep resolveLostOperationAuthority
  cases hslot : aggregate.expected with
  | none => exact .keep (.refl _)
  | some expected =>
    cases hlost : expected.lost with
    | none => simpa [hlost] using .keep (.refl _)
    | some testimony =>
      have hsome : expected.lost.isSome = true := by simp [hlost]
      simp only [hlost]
      cases hrequest : expected.request with
      | detach request => exact .resolveDetach hslot hsome hrequest
      | _ => exact .resolve hslot hsome (by simp [ExpectedOperationState.detach, hrequest])

theorem attemptStartedStep_step :
    ProcessStep ⟨.aggregate aggregate, held⟩ .transportAttemptStarted (attemptStartedStep aggregate held) := by
  unfold attemptStartedStep transportAttemptStarted
  split
  · rename_i heq
    repeat' split at heq
    all_goals cases heq
    rename_i hreplay _ _ hslot hcheck
    exact .started hslot hcheck.2 hreplay
  · rename_i heq
    have hsame : ‹ClientParticipantAggregate› = aggregate := by
      repeat' split at heq
      all_goals first
        | exact (DetachTransportAttemptDecision.refused.inj heq).1.symm
        | cases heq
    rw [hsame]
    exact .keep (.refl _)

section Correlated

variable (hheld : spend held (.correlation correlation) = some rest)

include hheld

theorem expectedFateStep_step : ProcessStep ⟨.aggregate aggregate, held⟩ (.expectedOperationFate correlation)
      (expectedFateStep aggregate rest correlation) := by
  unfold expectedFateStep recordExpectedOperationFate
  cases hslot : aggregate.expected with
  | none => exact .exchange hheld rfl
  | some expected =>
    by_cases hissued : expected.issued = true
    · by_cases hlost : expected.lost = none
      · by_cases hnumber : expected.authorization = correlation.authorization
        · simp only [hissued, hlost, hnumber, not_true_eq_false, if_false, isSome_none, Bool.false_eq_true, ne_eq]
          cases hrequest : expected.request with
          | detach request => exact .exchange hheld rfl
          | _ => exact .fate ⟨hslot, hissued, hnumber⟩ hlost (by simp [ExpectedOperationState.detach, hrequest]) hheld
        · simpa [hissued, hlost, hnumber] using .exchange hheld rfl
      · obtain ⟨testimony, hsome⟩ := ne_none_iff_exists'.mp hlost
        simpa [hissued, hsome] using .exchange hheld rfl
    · simpa [hissued] using .exchange hheld rfl

theorem transportFate_step : ProcessStep ⟨.aggregate aggregate, held⟩ (.transportFate correlation)
      (replayStep rest id (transportFate aggregate correlation)) := by
  unfold transportFate
  split
  · exact .exchange hheld rfl
  rename_i hloss
  split
  · rename_i hauth
    obtain ⟨expected, request, hawaits, hrequest, hreplay⟩ := detachAuthorityMatches_eq_true hauth
    have hlost := lost_eq_none_of_operationLossPending hawaits.slot hloss
    simpa [replayStep, hreplay, hawaits.slot, hrequest, hlost, park] using ProcessStep.park hawaits hlost hrequest hheld
  · exact .exchange hheld rfl

/-- A Leave, an attach or an answer retires the expected detach it names. -/
theorem retireDetach_step {input : T} (haction : action.outcome = some correlation)
    (hactive : ∀ request, (recorded request status).active = none)
    (hterm : ∀ request, names request = true → (recorded request status).terminalAgrees = true)
    (hrefusal : ∀ request, (recorded request status).refusalCanonical = true) :
    ProcessStep ⟨.aggregate aggregate, held⟩ action (replayStep rest Prod.snd
      (if aggregate.operationLossPending then .refused aggregate (input, correlation) lost
      else if detachAuthorityMatches aggregate correlation then
        retireDetach aggregate (aggregate.detachReplay.moveWhen names status) (input, correlation)
      else .refused aggregate (input, correlation) foreign)) := by
  split
  · exact .exchange hheld rfl
  rename_i hloss
  split
  · rename_i hauth
    unfold retireDetach
    split
    · rename_i hmoved
      obtain ⟨request, old, -, hnames, hnew⟩ := moveWhen_fst_of_true hmoved
      obtain ⟨expected, _, hawaits, -, -⟩ := detachAuthorityMatches_eq_true hauth
      refine .retireDetach hawaits (lost_eq_none_of_operationLossPending hawaits.slot hloss) haction ?_ ?_ ?_ hheld
      all_goals rw [hnew]
      · exact hactive request
      · exact hterm request hnames
      · exact hrefusal request
    · rename_i hkept
      rw [moveWhen_fst_of_false (by simpa using hkept)]
      exact .exchange hheld rfl
  · exact .exchange hheld rfl

theorem applyDetachOutcome_step :
    ProcessStep ⟨.aggregate aggregate, held⟩ (.applyDetachOutcome outcome correlation)
      (replayStep rest Prod.snd (applyDetachOutcome aggregate outcome correlation)) := by
  simp only [applyDetachOutcome, ite_not]
  -- each of the three reducers names the detach by the very envelope its terminal must match
  cases outcome
  all_goals exact retireDetach_step hheld rfl (fun _ => rfl) (fun _ hnames => hnames) fun _ => rfl

theorem correlatedInboundStep_step {value} :
    ProcessStep ⟨.aggregate aggregate, held⟩ (.correlatedInbound value correlation)
      (correlatedInboundStep aggregate rest value correlation) := by
  unfold correlatedInboundStep decideCorrelatedInbound
  by_cases hcurrent : currentAuthority aggregate correlation = true
  · obtain ⟨expected, hawaits⟩ := currentAuthority_eq_true hcurrent
    simp only [hcurrent, not_true_eq_false, if_false]
    rcases decideInboundInner_cases aggregate value true with
      ⟨reason, heq⟩ | ⟨hstray, heq⟩ | ⟨expected', -, hslot, hlost, haccepts, hmatches, heq⟩
    · rw [heq]
      exact .exchange hheld rfl
    · rw [heq]
      exact .stray hawaits hstray hheld
    · obtain rfl : expected' = expected := some.inj (hslot.symm.trans hawaits.slot)
      rw [heq]
      exact .answer hawaits hlost haccepts hmatches hheld
  · simp only [hcurrent]
    exact .exchange hheld rfl

end Correlated

theorem inboundStep_step {value} :
    ProcessStep ⟨.aggregate aggregate, held⟩ (.inbound value) (inboundStep aggregate held value) := by
  unfold inboundStep decideInbound
  rcases decideInboundInner_cases aggregate value false with
    ⟨reason, heq⟩ | ⟨-, heq⟩ | ⟨_, hauth, -⟩
  · rw [heq]
    exact .keep (.refl _)
  · rw [heq]
    exact .keep (.refl _)
  · cases hauth

/-- Reconnecting touches only the reconnect machine, and none of its values is over the slot. -/
theorem reconnect_step (haction : action.outcome = none ∧ action.fate = none)
    (hstep : ReconnectStep aggregate.reconnect reconnect) (hvalue : value.slotAuthorization = none)
    (hheld : (authorities rest).Perm (authorities held)) : ProcessStep ⟨.aggregate aggregate, held⟩ action
      ⟨.aggregate (aggregate.withReconnect reconnect), value :: rest⟩ := by
  refine .reconnect haction hstep ?_
  simpa [authorities_cons, hvalue] using hheld

theorem freshEventStep_step :
    ProcessStep ⟨.aggregate aggregate, held⟩ (.freshEvent event) (freshEventStep aggregate held event) := by
  unfold freshEventStep recordFreshEvent
  by_cases hstate : aggregate.reconnect.state = .parked ∨ aggregate.reconnect.state = .online
  · simp only [hstate, if_true]
    cases hadd : add u64Max aggregate.reconnect.nextAuthorization 1 with
    | none => exact .keep (.refl _)
    | some authorization =>
      obtain ⟨-, rfl⟩ := add_eq_some.mp hadd
      exact reconnect_step ⟨rfl, rfl⟩ (.fresh hstate) rfl (.refl _)
  · simp only [hstate, if_false]
    exact .keep (.refl _)

theorem recoverPermitStep_step :
    ProcessStep ⟨.aggregate aggregate, held⟩ .recoverReconnectPermit (recoverPermitStep aggregate held) := by
  unfold recoverPermitStep recoverReconnectPermit
  cases hstate : aggregate.reconnect.state with
  | permit authorization event issued =>
    cases issued with
    | true => exact .keep (.refl _)
    | false => exact reconnect_step ⟨rfl, rfl⟩ (.recover hstate) rfl (.refl _)
  | _ => exact .keep (.refl _)

theorem resolveReconnectStep_step :
    ProcessStep ⟨.aggregate aggregate, held⟩ .resolveLostReconnect (resolveReconnectStep aggregate held) := by
  unfold resolveReconnectStep resolveLostReconnectAuthority
  cases hlost : aggregate.reconnect.lost with
  | none => exact .keep (.refl _)
  | some testimony => exact .reconnect ⟨rfl, rfl⟩ (.resolve hlost) (.refl _)

theorem redeemStep_step (hheld : spend held (.permit permit) = some rest) :
    ProcessStep ⟨.aggregate aggregate, held⟩ (.redeemAttempt permit) (redeemStep aggregate rest permit) := by
  unfold redeemStep redeemAttempt
  cases hlost : aggregate.reconnect.lost with
  | some testimony => exact .exchange hheld rfl
  | none =>
    cases hstate : aggregate.reconnect.state with
    | permit authorization event issued =>
      by_cases hsame : authorization = permit.authorization ∧ event = permit.event
      · simp only [hsame, and_self, if_true]
        have hstep := ReconnectStep.redeem hlost hstate
        rw [hsame.1, hsame.2] at hstep
        exact reconnect_step ⟨rfl, rfl⟩ hstep rfl (spend_authorities_of_none rfl hheld)
      · simp only [hsame, if_false]
        exact .exchange hheld rfl
    | _ => exact .exchange hheld rfl

theorem attemptFateStep_step (hheld : spend held (.reconnectAttempt attempt) = some rest) :
    ProcessStep ⟨.aggregate aggregate, held⟩ (.attemptFate attempt fate)
      (attemptFateStep aggregate rest attempt fate) := by
  unfold attemptFateStep recordAttemptFate
  cases hlost : aggregate.reconnect.lost with
  | some testimony => exact .exchange hheld rfl
  | none =>
    cases hstate : aggregate.reconnect.state with
    | attempt authorization event =>
      by_cases hsame : authorization = attempt.authorization ∧ event = attempt.event
      · simp only [hsame, and_self, if_true]
        exact .reconnect ⟨rfl, rfl⟩ (.fate fate hlost hstate) (spend_authorities_of_none rfl hheld)
      · simp only [hsame, if_false]
        exact .exchange hheld rfl
    | _ => exact .exchange hheld rfl

theorem aggregateNext_step (h : aggregateNext aggregate held action = some process') :
    ProcessStep ⟨.aggregate aggregate, held⟩ action process' := by
  cases action with
  | record request => cases h; exact recordStep_step request
  | recoverExpectedOperation => cases h; exact recoverStep_step
  | resolveLostOperation => cases h; exact resolveStep_step
  | expectedOperationFate => exact .of_spend h fun _ => expectedFateStep_step
  | transportAttemptStarted => cases h; exact attemptStartedStep_step
  | transportFate => exact .of_spend h fun _ => transportFate_step
  | applyAttach | applyLeaveDurable =>
    refine .of_spend h fun rest hheld => ?_
    exact retireDetach_step hheld rfl (fun _ => rfl) (fun _ _ => rfl) fun _ => rfl
  | applyDetachOutcome => exact .of_spend h fun _ hheld => applyDetachOutcome_step hheld
  | inbound value => cases h; exact inboundStep_step
  | correlatedInbound => exact .of_spend h fun _ hheld => correlatedInboundStep_step hheld
  | takeAbandonment => cases h; exact .abandonment
  | freshEvent event => cases h; exact freshEventStep_step
  | recoverReconnectPermit => cases h; exact recoverPermitStep_step
  | resolveLostReconnect => cases h; exact resolveReconnectStep_step
  | redeemAttempt => exact .of_spend h fun _ => redeemStep_step
  | attemptFate => exact .of_spend h fun _ => attemptFateStep_step
  | restore => exact restoreStep_step (by rintro _ ⟨⟩) h
  | commit | abort | release | send _ | sendAttempt _ => cases h

end Aggregate

/-- The authority moves from the operation or the attempt to the correlation. -/
theorem sendNext_step (h : sendNext ⟨root, held⟩ action = some process') :
    ProcessStep ⟨root, held⟩ action process' := by
  cases action with
  | send | sendAttempt => exact .of_spend h fun rest hheld => .exchange hheld rfl
  | _ => cases h

theorem rootNext_step (h : rootNext ⟨root, held⟩ action = some process') :
    ProcessStep ⟨root, held⟩ action process' := by
  dsimp only [rootNext] at h
  split at h
  · exact aggregateNext_step h
  · cases h
    exact .commit
  · cases h
    exact .abort
  · cases h
    exact .release
  · exact restoreStep_step (by rintro _ ⟨⟩) h
  · cases h

end Classification

/-- Everything an action of the client can do. -/
theorem processNext_step {process' : ClientProcess} {action : ClientAction}
    (h : processNext process action = some process') : ProcessStep process action process' := by
  rcases or_eq_some_iff.mp h with hsend | ⟨-, hroot⟩
  · exact sendNext_step hsend
  · exact rootNext_step hroot

/-! ### Refusals -/

theorem retireDetach_eq_refused {input : T}
    (h : retireDetach aggregate (aggregate.detachReplay.moveWhen names status) input = .refused back given why) :
    back = aggregate ∧ given = input := by
  unfold retireDetach at h
  split at h
  · cases h
  · rename_i hkept
    cases h
    rw [moveWhen_fst_of_false (by simpa using hkept)]
    exact ⟨rfl, rfl⟩

/-- A call that refuses hands back the aggregate and the value it was given. -/
structure RefusesUnchanged (aggregate : ClientParticipantAggregate) : Prop where
  record : ∀ request back given why, recordOperation aggregate request = .refused back given why →
    back = aggregate ∧ given = request
  recover : ∀ back issued, recoverExpectedOperation aggregate = .notAvailable back issued → back = aggregate
  resolve : ∀ back, resolveLostOperationAuthority aggregate = .refused back → back = aggregate
  fate : ∀ correlation back given why, recordExpectedOperationFate aggregate correlation = .refused back given why →
    back = aggregate ∧ given = correlation
  started : ∀ back why, transportAttemptStarted aggregate = .refused back why → back = aggregate
  transport : ∀ correlation back given why, transportFate aggregate correlation = .refused back given why →
    back = aggregate ∧ given = correlation
  attach : ∀ attach correlation back given why, applyAttach aggregate attach correlation = .refused back given why →
    back = aggregate ∧ given = (attach, correlation)
  leave : ∀ leave correlation back given why, applyLeaveDurable aggregate leave correlation = .refused back given why →
    back = aggregate ∧ given = (leave, correlation)
  outcome : ∀ outcome correlation back given why,
    applyDetachOutcome aggregate outcome correlation = .refused back given why →
    back = aggregate ∧ given = (outcome, correlation)
  fresh : ∀ event back given why result, recordFreshEvent aggregate event = .refused back given why result →
    back = aggregate ∧ given = event
  recoverPermit : ∀ back state, recoverReconnectPermit aggregate = .notAvailable back state → back = aggregate
  resolveReconnect : ∀ back, resolveLostReconnectAuthority aggregate = .refused back → back = aggregate
  redeem : ∀ permit back given why, redeemAttempt aggregate permit = .refused back given why →
    back = aggregate ∧ given = permit
  attempt : ∀ attempt fate back given kept why,
    recordAttemptFate aggregate attempt fate = .refused back given kept why →
    back = aggregate ∧ given = attempt ∧ kept = fate

theorem refusesUnchanged (aggregate : ClientParticipantAggregate) : RefusesUnchanged aggregate ∧
    ∀ request record, recordOperation aggregate request = .pending record → record.abort = (aggregate, request) := by
  refine ⟨?_, fun _ _ => ClientPendingOperationRecord.abort_of_recordOperation⟩
  constructor
  case record => exact fun _ _ _ _ => recordOperation_eq_refused
  case outcome =>
    intro outcome correlation back given why h
    unfold applyDetachOutcome at h
    split at h
    · cases h; exact ⟨rfl, rfl⟩
    split at h
    · cases h; exact ⟨rfl, rfl⟩
    cases outcome <;> exact retireDetach_eq_refused h
  -- the reducers refuse after the replay was handed to them
  case attach | leave =>
    intro input correlation back given why h
    simp only [applyAttach, applyLeaveDurable] at h
    split at h
    · cases h; exact ⟨rfl, rfl⟩
    split at h
    · exact retireDetach_eq_refused h
    · cases h; exact ⟨rfl, rfl⟩
  all_goals
    intros
    rename_i h
    simp only [recoverExpectedOperation, resolveLostOperationAuthority, recordExpectedOperationFate,
      transportAttemptStarted, transportFate, recordFreshEvent, recoverReconnectPermit,
      resolveLostReconnectAuthority, redeemAttempt, recordAttemptFate] at h
    repeat' split at h
    all_goals cases h
    all_goals simp

end Liminal.Client
