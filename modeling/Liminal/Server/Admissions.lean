import Liminal.Library.Machine
import Liminal.Wire.Request
import Mathlib.Data.List.Induction
import Mathlib.Data.List.Nodup

/-!
# Record attempts

Every committed admission is kept in a table under its token, participant and payload fingerprint,
rebuilt from the log when an owner is loaded. The same attempt gets the answer it had; a token of
the same participant is refused for another payload. What other participants did under the token is
only logged.

Authorization and the selector's decision are arguments, a pair for every pass; a mandatory drain
ends a pass. Of other operations only a row is kept.
-/

namespace Liminal

open List

open Wire (RecordAdmissionAttemptToken)

abbrev AttemptKey := RecordAdmissionAttemptToken × ParticipantId

def Wire.RecordAdmission.attempt (request : Wire.RecordAdmission) : AttemptKey :=
  (request.recordAdmissionAttemptToken, request.participantId)

inductive StoredOperation
  | recordAdmission (request : Wire.RecordAdmission) (deliverySeq : DeliverySeq)
  | other

/-- How an append ends. A failure may come after the row is durable. -/
inductive DurableAppend
  | appended
  | failed
  | failedDurable
deriving DecidableEq

def DurableAppend.rows (append : DurableAppend) (row : StoredOperation) : List StoredOperation :=
  if append = .failed then [] else [row]

inductive RecordAdmissionDecision
  | respond
  | drainFirst (append : DurableAppend)
  | fault
  | commit (deliverySeq : DeliverySeq) (append : DurableAppend)

structure AdmissionPass where
  authorized : Bool
  decision : RecordAdmissionDecision

inductive AdmissionAnswer
  | refused
  | attemptTokenBodyConflict
  | recordCommitted (deliverySeq : DeliverySeq)
  | internal

abbrev CommittedAdmissions (Digest : Type) := List ((AttemptKey × Digest) × DeliverySeq)

structure AdmissionLog (Digest : Type) where
  rows : List StoredOperation
  owner : Option (CommittedAdmissions Digest)

inductive AdmissionAction
  | present (request : Wire.RecordAdmission) (passes : List AdmissionPass)
  | operate (append : DurableAppend)
  | discardOwner

section

variable {Digest : Type} [DecidableEq Digest] (fingerprint : List UInt8 → Digest)

def committedAdmissionKey (request : Wire.RecordAdmission) : AttemptKey × Digest :=
  (request.attempt, fingerprint request.payload)

def replayRow (table : CommittedAdmissions Digest) : StoredOperation → CommittedAdmissions Digest
  | .recordAdmission request deliverySeq =>
    (committedAdmissionKey fingerprint request, deliverySeq) :: table
  | .other => table

def committedAdmissions (rows : List StoredOperation) : CommittedAdmissions Digest :=
  rows.foldl (replayRow fingerprint) []

/-- The exact key, and then the presenter's range of the token. -/
def answerCommittedRecordAdmission (table : CommittedAdmissions Digest)
    (request : Wire.RecordAdmission) : Option AdmissionAnswer :=
  match table.find? fun entry => entry.1 = committedAdmissionKey fingerprint request with
  | some entry => some (.recordCommitted entry.2)
  | none =>
    if ∃ entry ∈ table, entry.1.1 = request.attempt then some .attemptTokenBodyConflict else none

/-- The passes of one admission. Every failure discards the owner, and so does running out of passes: the
server has stopped. -/
def applyRecordAdmission (request : Wire.RecordAdmission) :
    List AdmissionPass → List StoredOperation → CommittedAdmissions Digest → AdmissionAnswer × AdmissionLog Digest
  | [], rows, _ => (.internal, ⟨rows, none⟩)
  | pass :: rest, rows, table =>
    if pass.authorized = false then (.refused, ⟨rows, some table⟩)
    else
      match answerCommittedRecordAdmission fingerprint table request with
      | some answer => (answer, ⟨rows, some table⟩)
      | none =>
        match pass.decision with
        | .respond => (.refused, ⟨rows, some table⟩)
        | .fault => (.internal, ⟨rows, none⟩)
        | .drainFirst append =>
          if append = .appended then applyRecordAdmission request rest (rows ++ [.other]) table
          else (.internal, ⟨rows ++ append.rows .other, none⟩)
        | .commit deliverySeq append =>
          let row := StoredOperation.recordAdmission request deliverySeq
          if append = .appended then
            (.recordCommitted deliverySeq, ⟨rows ++ [row], some (replayRow fingerprint table row)⟩)
          else (.internal, ⟨rows ++ append.rows row, none⟩)

namespace AdmissionLog

variable (s : AdmissionLog Digest)

/-- The owner's table. An owner that is not there is replayed first. -/
def table : CommittedAdmissions Digest := s.owner.getD (committedAdmissions fingerprint s.rows)

def present (request : Wire.RecordAdmission) (passes : List AdmissionPass) : AdmissionAnswer × AdmissionLog Digest :=
  applyRecordAdmission fingerprint request passes s.rows (s.table fingerprint)

def next : AdmissionAction → Option (AdmissionLog Digest)
  | .present request passes => some (s.present fingerprint request passes).2
  | .operate append =>
    some ⟨s.rows ++ append.rows .other, if append = .appended then s.owner else none⟩
  | .discardOwner => some { s with owner := none }

end AdmissionLog

def admissionMachine : Machine (AdmissionLog Digest) AdmissionAction where
  start s := s = ⟨[], none⟩
  next := AdmissionLog.next fingerprint

end

/-! ### What a table answers -/

def StoredOperation.commit? : StoredOperation → Option (Wire.RecordAdmission × DeliverySeq)
  | recordAdmission request deliverySeq => some (request, deliverySeq)
  | other => none

variable (rows : List StoredOperation)

def commits : List (Wire.RecordAdmission × DeliverySeq) :=
  rows.filterMap StoredOperation.commit?

def Once : Prop := ((commits rows).map fun c => c.1.attempt).Nodup

variable {Digest : Type} [DecidableEq Digest] {fingerprint : List UInt8 → Digest} {rows : List StoredOperation}
  {request : Wire.RecordAdmission} {passes : List AdmissionPass} {s s' t : AdmissionLog Digest}

omit [DecidableEq Digest] in
theorem committedAdmissions_concat (row : StoredOperation) : committedAdmissions fingerprint (rows ++ [row]) =
      replayRow fingerprint (committedAdmissions fingerprint rows) row := by
  simp [committedAdmissions]

omit [DecidableEq Digest] in
theorem mem_committedAdmissions : entry ∈ committedAdmissions fingerprint rows ↔
      ∃ c ∈ commits rows, (committedAdmissionKey fingerprint c.1, c.2) = entry := by
  induction rows using reverseRecOn with
  | nil => simp [committedAdmissions, commits]
  | append_singleton rows row ih =>
    rw [committedAdmissions_concat]
    cases row <;> simp_all [replayRow, commits, StoredOperation.commit?, or_comm, eq_comm]

theorem commit_of_find? (h : (committedAdmissions fingerprint rows).find?
      (fun entry => entry.1 = committedAdmissionKey fingerprint request) = some entry) :
    ∃ c ∈ commits rows, c.1.attempt = request.attempt ∧
      fingerprint c.1.payload = fingerprint request.payload ∧ c.2 = entry.2 := by
  obtain ⟨c, hc, rfl⟩ := mem_committedAdmissions.mp (mem_of_find?_eq_some h)
  have hkey := find?_some h
  simp only [committedAdmissionKey, decide_eq_true_eq, Prod.mk.injEq] at hkey
  exact ⟨c, hc, hkey.1, hkey.2, rfl⟩

theorem answer_eq_none_iff : answerCommittedRecordAdmission fingerprint
      (committedAdmissions fingerprint rows) request = none ↔ ∀ c ∈ commits rows, c.1.attempt ≠ request.attempt := by
  unfold answerCommittedRecordAdmission
  split
  · rename_i entry hfound
    obtain ⟨c, hc, hattempt, -⟩ := commit_of_find? hfound
    simp only [reduceCtorEq, false_iff]
    exact fun hfresh => hfresh c hc hattempt
  · simp only [mem_committedAdmissions, ite_eq_right_iff, reduceCtorEq, imp_false, not_exists, not_and]
    constructor
    · exact fun hnone c hc => hnone _ ⟨c, hc, rfl⟩
    · rintro hfresh _ ⟨c, hc, rfl⟩
      exact hfresh c hc

theorem answer_of_mem (hprint : Function.Injective fingerprint) (honce : Once rows)
    (hc : c ∈ commits rows) (hattempt : request.attempt = c.1.attempt) :
    answerCommittedRecordAdmission fingerprint (committedAdmissions fingerprint rows) request =
      some (if request.payload = c.1.payload then .recordCommitted c.2
        else .attemptTokenBodyConflict) := by
  have hmem : (committedAdmissionKey fingerprint c.1, c.2) ∈ committedAdmissions fingerprint rows :=
    mem_committedAdmissions.mpr ⟨c, hc, rfl⟩
  unfold answerCommittedRecordAdmission
  split
  · rename_i entry hfound
    obtain ⟨other, hother, hsame, hpayload, hseq⟩ := commit_of_find? hfound
    -- an attempt has one row, so the row under the presented key is that of the attempt
    obtain rfl : other = c := inj_on_of_nodup_map honce hother hc (hsame.trans hattempt)
    rw [if_pos (hprint hpayload).symm, hseq]
  · rename_i hnone
    have hpayload : request.payload ≠ c.1.payload := by
      intro hpayload
      refine absurd (decide_eq_true ?_) (find?_eq_none.mp hnone _ hmem)
      rw [committedAdmissionKey, committedAdmissionKey, hattempt, hpayload]
    rw [if_neg hpayload, if_pos ⟨_, hmem, hattempt.symm⟩]

/-! ### Runs -/

/-- A loaded table is the one its log gives, and no attempt has committed twice. -/
structure AdmissionLog.InStep (fingerprint : List UInt8 → Digest) (s : AdmissionLog Digest) : Prop where
  owner : ∀ table ∈ s.owner, table = committedAdmissions fingerprint s.rows
  once : Once s.rows

omit [DecidableEq Digest] in
theorem AdmissionLog.InStep.table_eq (h : s.InStep fingerprint) :
    s.table fingerprint = committedAdmissions fingerprint s.rows := by
  unfold table
  cases howner : s.owner with
  | none => rfl
  | some table => exact h.owner table howner

theorem commits_append_other (append : DurableAppend) : commits (rows ++ append.rows .other) = commits rows := by
  cases append <;> simp [commits, DurableAppend.rows, filterMap_cons, StoredOperation.commit?]

theorem Once.append_other (h : Once rows) (append : DurableAppend) : Once (rows ++ append.rows .other) := by
  rwa [Once, commits_append_other]

theorem Once.append_recordAdmission (h : Once rows)
    (hfresh : ∀ c ∈ commits rows, c.1.attempt ≠ request.attempt) (append : DurableAppend)
    (deliverySeq : DeliverySeq) : Once (rows ++ append.rows (.recordAdmission request deliverySeq)) := by
  have hnew : Once (rows ++ [.recordAdmission request deliverySeq]) := by
    rw [Once, commits, filterMap_append, map_append]
    refine h.append (nodup_singleton _) (disjoint_singleton.mpr ?_)
    intro hmem
    obtain ⟨c, hc, hattempt⟩ := mem_map.mp hmem
    exact hfresh c hc hattempt
  cases append
  · exact hnew
  · simpa [DurableAppend.rows] using h
  · exact hnew

theorem applyRecordAdmission_inStep (honce : Once rows) : (applyRecordAdmission fingerprint request passes rows
      (committedAdmissions fingerprint rows)).2.InStep fingerprint := by
  induction passes generalizing rows with
  | nil => exact ⟨nofun, honce⟩
  | cons pass rest ih =>
    have hkept : (⟨rows, some (committedAdmissions fingerprint rows)⟩ : AdmissionLog Digest).InStep fingerprint :=
      ⟨fun _ htable => (Option.some.inj htable).symm, honce⟩
    unfold applyRecordAdmission
    split
    · exact hkept
    · split
      · exact hkept
      · rename_i hnone
        have hfresh := answer_eq_none_iff.mp hnone
        split
        · exact hkept
        · exact ⟨nofun, honce⟩
        · split
          · have hrest := ih (honce.append_other .appended)
            rwa [DurableAppend.rows, if_neg nofun, committedAdmissions_concat] at hrest
          · exact ⟨nofun, honce.append_other _⟩
        · dsimp only
          split
          · refine ⟨fun _ htable => ?_, honce.append_recordAdmission hfresh .appended _⟩
            rw [committedAdmissions_concat]
            exact (Option.some.inj htable).symm
          · exact ⟨nofun, honce.append_recordAdmission hfresh _ _⟩

theorem inStep_of_reachable (h : (admissionMachine fingerprint).Reachable s) : s.InStep fingerprint := by
  refine h.invariant ?_ ?_
  · rintro s rfl
    exact ⟨nofun, nodup_nil⟩
  · intro s action s' hs hnext
    cases action with
    | present request passes =>
      cases hnext
      rw [AdmissionLog.present, hs.table_eq]
      exact applyRecordAdmission_inStep hs.once
    | operate append =>
      cases hnext
      refine ⟨fun table htable => ?_, hs.once.append_other append⟩
      cases append with
      | appended =>
        rw [DurableAppend.rows, if_neg nofun, committedAdmissions_concat]
        exact hs.owner table htable
      | failed | failedDurable => cases htable
    | discardOwner =>
      cases hnext
      exact ⟨nofun, hs.once⟩

/-- A presentation that a table answers leaves the log alone, and is given that answer if it is authorized. -/
theorem present_of_answer (h : answerCommittedRecordAdmission fingerprint
      (s.table fingerprint) request = some answer) : (s.present fingerprint request passes).2.rows = s.rows ∧
      (passes.head?.any AdmissionPass.authorized = true → (s.present fingerprint request passes).1 = answer) := by
  cases passes with
  | nil => exact ⟨rfl, nofun⟩
  | cons pass rest =>
    unfold AdmissionLog.present applyRecordAdmission
    cases hauthorized : pass.authorized <;> simp [h, hauthorized]

/-- No attempt commits twice. A further presentation leaves the log alone and gets the answer of the
commit for its payload, a conflict for any other; the presenter's own commits decide. -/
theorem record_commits_once (hfingerprint : Function.Injective fingerprint)
    (h : (admissionMachine fingerprint).Reachable s) : ((commits s.rows).map fun c => c.1.attempt).Nodup ∧
    (∀ c ∈ commits s.rows, ∀ (request : Wire.RecordAdmission) (passes : List AdmissionPass),
      request.attempt = c.1.attempt → (s.present fingerprint request passes).2.rows = s.rows ∧
          (passes.head?.any AdmissionPass.authorized = true → (s.present fingerprint request passes).1 =
              if request.payload = c.1.payload then .recordCommitted c.2
              else .attemptTokenBodyConflict)) ∧ ∀ (t : AdmissionLog Digest) (request : Wire.RecordAdmission),
      (admissionMachine fingerprint).Reachable t →
      (∀ c, c.1.participantId = request.participantId → (c ∈ commits s.rows ↔ c ∈ commits t.rows)) →
        answerCommittedRecordAdmission fingerprint (s.table fingerprint) request =
          answerCommittedRecordAdmission fingerprint (t.table fingerprint) request := by
  have hs := inStep_of_reachable h
  refine ⟨hs.once, fun c hc request passes hattempt => ?_, fun t request ht hown => ?_⟩
  · exact present_of_answer (hs.table_eq ▸ answer_of_mem hfingerprint hs.once hc hattempt)
  · have hstep := inStep_of_reachable ht
    rw [hs.table_eq, hstep.table_eq]
    by_cases hex : ∃ c ∈ commits s.rows, c.1.attempt = request.attempt
    · obtain ⟨c, hc, hattempt⟩ := hex
      have hc' := (hown c (congrArg Prod.snd hattempt)).mp hc
      rw [answer_of_mem hfingerprint hs.once hc hattempt.symm, answer_of_mem hfingerprint hstep.once hc' hattempt.symm]
    · rw [answer_eq_none_iff.mpr fun c hc hattempt => hex ⟨c, hc, hattempt⟩, answer_eq_none_iff.mpr fun c hc hattempt =>
          hex ⟨c, (hown c (congrArg Prod.snd hattempt)).mpr hc, hattempt⟩]

def attemptSeven (byte : UInt8) : Wire.RecordAdmission := ⟨⟨⟨0, 0, 1⟩, 7⟩, [byte]⟩

/-- The answer to the first attempt is lost: its row is durable, but the server reports a failure. -/
theorem record_commits_once_lostAnswer : ∃ s : AdmissionLog (List UInt8), (admissionMachine id).Reachable s ∧
    (s.present id (attemptSeven 1) [⟨true, .commit 4 .appended⟩]).1 = .recordCommitted 3 ∧
    (s.present id (attemptSeven 2) [⟨true, .fault⟩]).1 = .attemptTokenBodyConflict := by
  have hempty : (admissionMachine id).Reachable (⟨[], none⟩ : AdmissionLog (List UInt8)) :=
    .start rfl
  obtain ⟨s, hs, hc⟩ : ∃ s, (admissionMachine id).Reachable s ∧ (attemptSeven 1, 3) ∈ commits s.rows :=
    hempty.exists_of_any [.present (attemptSeven 1) [⟨true, .commit 3 .failedDurable⟩]] (by decide)
  have hanswer := (record_commits_once Function.injective_id hs).2.1 _ hc
  exact ⟨s, hs, (hanswer (attemptSeven 1) _ rfl).2 rfl, (hanswer (attemptSeven 2) _ rfl).2 rfl⟩

end Liminal
