import Liminal.Client.Soundness

/-!
# Reconnect authority

The reconnect operations of a client and its restarts, with the numbers of the permits handed out
and of those redeemed. What is held is what the aggregate says is outstanding.
-/

namespace Liminal.Client

open Checked Option Fallible ClientParticipantAggregate ReconnectAggregate

structure ReconnectHistory where
  aggregate : ClientParticipantAggregate
  held : List OneUse
  (issued redeemed : List Nat)

namespace ReconnectHistory

variable (s : ReconnectHistory)

def issue (aggregate : ClientParticipantAggregate) (permit : ReconnectAttemptPermit) : ReconnectHistory :=
  ⟨aggregate, .permit permit :: s.held, s.issued ++ [permit.authorization], s.redeemed⟩

def next : ClientAction → Option ReconnectHistory
  | .freshEvent event => match recordFreshEvent s.aggregate event with
    | .permitted aggregate permit _ => some (s.issue aggregate permit)
    | .refused aggregate .. => some { s with aggregate }
  | .recoverReconnectPermit => match recoverReconnectPermit s.aggregate with
    | .recovered aggregate permit => some (s.issue aggregate permit)
    | .notAvailable aggregate _ => some { s with aggregate }
  | .resolveLostReconnect => match resolveLostReconnectAuthority s.aggregate with
    | .recorded aggregate _ | .refused aggregate => some { s with aggregate }
  | .redeemAttempt permit => (spend s.held (.permit permit)).map fun held =>
    match redeemAttempt s.aggregate permit with
    | .started aggregate attempt =>
      ⟨aggregate, .reconnectAttempt attempt :: held, s.issued, s.redeemed ++ [attempt.authorization]⟩
    | .refused aggregate permit _ => { s with aggregate, held := .permit permit :: held }
  | .attemptFate attempt fate => (spend s.held (.reconnectAttempt attempt)).map fun held =>
    match recordAttemptFate s.aggregate attempt fate with
    | .recorded aggregate => { s with aggregate, held }
    | .refused aggregate attempt _ _ => { s with aggregate, held := .reconnectAttempt attempt :: held }
  | .restore => s.aggregate.facts.restore.toOption.map fun aggregate => { s with aggregate, held := [] }
  | _ => none

def machine : Machine ReconnectHistory ClientAction where
  start s := processStart ⟨.aggregate s.aggregate, s.held⟩ ∧ s.issued = [] ∧ s.redeemed = []
  next := next

end ReconnectHistory

def ReconnectAggregate.outstanding (reconnect : ReconnectAggregate) : List OneUse :=
  match reconnect.lost, reconnect.state with
  | none, .permit authorization event true => [.permit ⟨authorization, event⟩]
  | none, .attempt authorization event => [.reconnectAttempt ⟨authorization, event⟩]
  | _, _ => []

/-- Numbers are issued in order; a permit that may still be redeemed has the last one. -/
structure ReconnectAggregate.Exclusive (reconnect : ReconnectAggregate) (issued redeemed : List Nat) : Prop where
  increasing : issued.Pairwise (· < ·)
  bounded : ∀ number ∈ issued, number ≤ reconnect.nextAuthorization
  unissued : ∀ authorization event, reconnect.state = .permit authorization event false →
    ∀ number ∈ issued, number < authorization
  known : ∀ authorization event, reconnect.lost = none →
    reconnect.state = .permit authorization event true → authorization ∈ issued
  once : redeemed.Pairwise (· < ·)
  earlier : ∀ number ∈ redeemed, number ∈ issued
  unredeemed : ∀ authorization event, reconnect.state = .permit authorization event true →
    ∀ number ∈ redeemed, number < authorization

structure ReconnectHistory.Exclusive (s : ReconnectHistory) : Prop where
  sound : s.aggregate.Sound
  held : s.held = s.aggregate.reconnect.outstanding
  numbers : s.aggregate.reconnect.Exclusive s.issued s.redeemed

variable {reconnect : ReconnectAggregate} {issued redeemed : List Nat}

theorem spend_permit (h : spend reconnect.outstanding (.permit permit) = some held) :
    held = [] ∧ reconnect.lost = none ∧ reconnect.state = .permit permit.authorization permit.event true := by
  unfold spend outstanding at h
  grind

theorem spend_reconnectAttempt (h : spend reconnect.outstanding (.reconnectAttempt attempt) = some held) :
    held = [] ∧ reconnect.lost = none ∧ reconnect.state = .attempt attempt.authorization attempt.event := by
  unfold spend outstanding at h
  grind

namespace ReconnectAggregate.Exclusive

variable (h : reconnect.Exclusive issued redeemed)

include h

theorem issue (event : ReconnectFreshEvent) {next lost} (hnew : ∀ old ∈ issued, old < number)
    (hnext : number ≤ next) : Exclusive ⟨.permit number event true, next, lost⟩ (issued ++ [number]) redeemed := by
  obtain ⟨hincreasing, hbounded, -, -, honce, hearlier, -⟩ := h
  constructor <;> grind

theorem redeem {event lost} (hlost : reconnect.lost = none)
    (hstate : reconnect.state = .permit number event true) :
    Exclusive ⟨.attempt number event, reconnect.nextAuthorization, lost⟩ issued (redeemed ++ [number]) := by
  obtain ⟨hincreasing, hbounded, -, hknown, honce, hearlier, hunredeemed⟩ := h
  constructor <;> grind

/-- Any state but a permit keeps the numbers. -/
theorem settle {state lost} (hstate : ∀ number event issued, state ≠ .permit number event issued) :
    Exclusive ⟨state, reconnect.nextAuthorization, lost⟩ issued redeemed := by
  obtain ⟨hincreasing, hbounded, -, -, honce, hearlier, -⟩ := h
  constructor <;> grind

/-- A restart testifies for what was out. -/
theorem restart : Exclusive ⟨reconnect.state, reconnect.nextAuthorization,
    reconnect.lost.or reconnect.state.lostKind⟩ issued redeemed := by
  obtain ⟨hincreasing, hbounded, hunissued, hknown, honce, hearlier, hunredeemed⟩ := h
  constructor <;> grind

end ReconnectAggregate.Exclusive

theorem outstanding_restart : outstanding ⟨reconnect.state, reconnect.nextAuthorization,
    reconnect.lost.or reconnect.state.lostKind⟩ = [] := by
  unfold outstanding ReconnectMachineState.lostKind
  grind

theorem recoverReconnectPermit_eq_recovered
    (h : recoverReconnectPermit aggregate = .recovered aggregate' permit) : ∃ number event,
      aggregate.reconnect.state = .permit number event false ∧ permit = ⟨number, event⟩ ∧
      aggregate' = aggregate.withReconnect { aggregate.reconnect with state := .permit number event true } := by
  unfold recoverReconnectPermit at h
  grind

theorem recoverReconnectPermit_eq_notAvailable {state}
    (h : recoverReconnectPermit aggregate = .notAvailable aggregate' state) : aggregate' = aggregate := by
  unfold recoverReconnectPermit at h
  grind

namespace ReconnectHistory

variable {s s' : ReconnectHistory} {action : ClientAction}

theorem Exclusive.next (h : s.Exclusive) (hnext : s.next action = some s') : s'.Exclusive := by
  obtain ⟨hsound, hheld, hnumbers⟩ := h
  cases action with
  | freshEvent event =>
    simp only [next, recordFreshEvent] at hnext
    by_cases hstate : s.aggregate.reconnect.state = .parked ∨ s.aggregate.reconnect.state = .online
    · have hlost := lost_eq_none_of_lostKind hsound (by rcases hstate with hs | hs <;> rw [hs] <;> rfl)
      cases hadd : add u64Max s.aggregate.reconnect.nextAuthorization 1 with
      | none =>
        simp only [hstate, hadd, if_true] at hnext
        cases hnext
        exact ⟨hsound, hheld, hnumbers⟩
      | some number =>
        obtain ⟨-, rfl⟩ := add_eq_some.mp hadd
        simp only [hstate, hadd, if_true] at hnext
        cases hnext
        refine ⟨hsound.reconnect (.fresh hstate), ?_, hnumbers.issue event ?_ le_rfl⟩
        · rcases hstate with hs | hs <;>
            simp [issue, hheld, outstanding, hs, hlost, withReconnect]
        · exact fun old hold => Nat.lt_succ_of_le (hnumbers.bounded old hold)
    · simp only [hstate, if_false] at hnext
      cases hnext
      exact ⟨hsound, hheld, hnumbers⟩
  | recoverReconnectPermit =>
    cases hrecover : recoverReconnectPermit s.aggregate with
    | recovered aggregate permit =>
      obtain ⟨number, event, hstate, rfl, rfl⟩ := recoverReconnectPermit_eq_recovered hrecover
      simp only [next, hrecover] at hnext
      cases hnext
      have hlost := lost_eq_none_of_lostKind hsound (by rw [hstate]; rfl)
      have hnumber := hsound.reconnectAuthorized number (by simp [facts, hstate, ReconnectMachineState.authorization])
      refine ⟨hsound.reconnect (.recover hstate), ?_, hnumbers.issue event (hnumbers.unissued _ _ hstate) hnumber.2⟩
      simp [issue, hheld, outstanding, hstate, hlost, withReconnect]
    | notAvailable aggregate state =>
      simp only [next, hrecover] at hnext
      cases hnext
      rw [recoverReconnectPermit_eq_notAvailable hrecover]
      exact ⟨hsound, hheld, hnumbers⟩
  | resolveLostReconnect =>
    cases hlost : s.aggregate.reconnect.lost with
    | none =>
      simp only [next, resolveLostReconnectAuthority, hlost] at hnext
      cases hnext
      exact ⟨hsound, hheld, hnumbers⟩
    | some testimony =>
      simp only [next, resolveLostReconnectAuthority, hlost] at hnext
      cases hnext
      refine ⟨hsound.reconnect (.resolve hlost), ?_, hnumbers.settle (by simp)⟩
      simp [hheld, outstanding, hlost, withReconnect]
  | redeemAttempt permit =>
    obtain ⟨held, hspend, rfl⟩ := map_eq_some_iff.mp hnext
    obtain ⟨rfl, hlost, hstate⟩ := spend_permit (hheld ▸ hspend)
    simp only [redeemAttempt, hlost, hstate, isSome_none, Bool.false_eq_true, if_false, and_self, if_true]
    have hstep := ReconnectStep.redeem hlost hstate
    rw [hlost] at hstep
    exact ⟨hsound.reconnect hstep, by simp [outstanding, withReconnect], hnumbers.redeem hlost hstate⟩
  | attemptFate attempt fate =>
    obtain ⟨held, hspend, rfl⟩ := map_eq_some_iff.mp hnext
    obtain ⟨rfl, hlost, hstate⟩ := spend_reconnectAttempt (hheld ▸ hspend)
    simp only [recordAttemptFate, hlost, hstate, isSome_none, Bool.false_eq_true, if_false, and_self, if_true]
    have hstep := ReconnectStep.fate fate hlost hstate
    rw [hlost] at hstep
    refine ⟨hsound.reconnect hstep, ?_, hnumbers.settle ?_⟩
    all_goals cases fate <;> simp [outstanding, withReconnect, ReconnectAttemptFate.state]
  | restore =>
    simp only [next, map_eq_some_iff, toOption_eq_some, DecodedFacts.restore, ok_iff] at hnext
    obtain ⟨aggregate', ⟨_, -, rfl⟩, rfl⟩ := hnext
    exact ⟨DecodedFacts.Sound.rebuild hsound, outstanding_restart.symm, hnumbers.restart⟩
  | _ => cases hnext

theorem Exclusive.start (h : machine.start s) : s.Exclusive := by
  obtain ⟨hstart, hissued, hredeemed⟩ := h
  have hsound := processStart_sound hstart
  have hnothing : s.held = [] ∧ s.aggregate.reconnect.outstanding = [] := by
    obtain ⟨hheld, hnew | ⟨facts, restored, -, -, hrestore, hroot⟩⟩ := hstart
    · rw [ClientRoot.aggregate.inj hnew]
      exact ⟨hheld, rfl⟩
    · simp only [DecodedFacts.restore, ok_iff] at hrestore
      obtain ⟨_, -, rfl⟩ := hrestore
      rw [ClientRoot.aggregate.inj hroot]
      exact ⟨hheld, @outstanding_restart ⟨facts.reconnectState, facts.nextAuthorization, facts.reconnectLost⟩⟩
  obtain ⟨hheld, hout⟩ := hnothing
  refine ⟨hsound, hheld.trans hout.symm, ?_⟩
  rw [hissued, hredeemed]
  refine ⟨.nil, by simp, by simp, fun authorization event hlost hstate => ?_, .nil, by simp, by simp⟩
  simp [outstanding, hlost, hstate] at hout

/-- At most one permit or attempt is out; the numbers handed out increase, and each is redeemed at most once. -/
theorem reconnect_authority_exclusive (h : machine.Reachable s) :
    s.held.length ≤ 1 ∧ s.issued.Pairwise (· < ·) ∧ s.redeemed.Nodup ∧ ∀ number ∈ s.redeemed, number ∈ s.issued := by
  obtain ⟨-, hheld, hnumbers⟩ : s.Exclusive := h.invariant (fun _ => Exclusive.start) fun _ _ _ => Exclusive.next
  refine ⟨?_, hnumbers.increasing, hnumbers.once.imp Nat.ne_of_lt, hnumbers.earlier⟩
  rw [hheld, outstanding]
  split <;> simp

theorem reconnect_authority_exclusive_restored : ∃ s, machine.Reachable s ∧ s.issued = [1, 2] ∧ s.redeemed = [1] ∧
    s.held.length ≤ 1 := by
  have hreach := Machine.Reachable.run (m := machine) (s := ⟨.new, [], [], []⟩) (.start ⟨⟨rfl, .inl rfl⟩, rfl, rfl⟩)
    (show machine.run _ [.freshEvent .onlineTransition, .redeemAttempt ⟨1, .onlineTransition⟩, .restore,
      .resolveLostReconnect, .freshEvent .onlineTransition] = some _ from rfl)
  exact ⟨_, hreach, rfl, rfl, (reconnect_authority_exclusive hreach).1⟩

end ReconnectHistory

end Liminal.Client
