import Liminal.Wire.Response
import Mathlib.Data.List.Dedup

/-!
# Observer recovery

A client that was refused at some observer epochs presents them all at once. The list is checked as
a whole: its length, repeated conversations, room on the connection, then each epoch against its
conversation's progress. Only a list that passes everything is armed.
-/

namespace Liminal

open Wire Checked List

variable {refusals : List ObserverRefusal} {observerProgress : ConversationId → Option DeliverySeq}

def wireCount (value : Nat) : Nat := min value u64Max

/-- The first entry whose conversation has occurred before, with the place of that occurrence. -/
def duplicateConversation (seen : List (ConversationId × Nat)) (index : Nat) :
    List ObserverRefusal → Option InvalidObserverEpochList
  | [] => none
  | refusal :: rest =>
    match seen.lookup refusal.conversationId with
    | some firstIndex =>
      some (.duplicateConversation refusal.conversationId firstIndex (wireCount index))
    | none => duplicateConversation ((refusal.conversationId, wireCount index) :: seen) (index + 1) rest

/-- The first conversation the connection has no room for; `tracked` is the set built up so far. -/
def overCapacity (connectionConversationLimit : Nat) (tracked : List ConversationId) :
    List ObserverRefusal → Option ConversationId
  | [] => none
  | refusal :: rest =>
    if refusal.conversationId ∈ tracked then
      overCapacity connectionConversationLimit tracked rest
    else if connectionConversationLimit ≤ wireCount tracked.length then
      some refusal.conversationId
    else overCapacity connectionConversationLimit (refusal.conversationId :: tracked) rest

/-- Each refusal with the current progress of its conversation, or the first epoch that is not one. -/
def validateEpochs (observerProgress : ConversationId → Option DeliverySeq) :
    List ObserverRefusal → Except InvalidObserverEpoch (List (ObserverRefusal × DeliverySeq))
  | [] => .ok []
  | refusal :: rest =>
    match observerProgress refusal.conversationId with
    | none => .error (.conversationUnknown refusal.conversationId refusal.refusedEpoch)
    | some current =>
      if current < refusal.refusedEpoch then
        .error (.epochAhead refusal.conversationId refusal.refusedEpoch current)
      else do
        let validated ← validateEpochs observerProgress rest
        return (refusal, current) :: validated

def progressStatus (entry : ObserverRefusal × DeliverySeq) : ObserverProgressStatus :=
  let armed := decide (entry.1.refusedEpoch = entry.2)
  ⟨entry.1.conversationId, entry.1.refusedEpoch, entry.2, armed, !armed⟩

structure ObserverRecoveryArm where
  conversationId : ConversationId
  refusedEpoch : ObserverEpoch

structure ObserverRecoveryCommit where
  arms : List ObserverRecoveryArm
  outcome : ObserverRecoveryAccepted

inductive ObserverRecoveryDecision
  | respond (value : ServerValue)
  | commit (commit : ObserverRecoveryCommit)

def applyObserverRecovery (request : ObserverRecoveryHandshake) (maxEntries : Nat)
    (connectionConversationLimit : Nat) (trackedConversations : List ConversationId)
    (observerProgress : ConversationId → Option DeliverySeq) : ObserverRecoveryDecision :=
  let presentedEntries := wireCount request.observerRefusals.length
  if maxEntries < presentedEntries then
    .respond (.invalidObserverEpochList (.tooManyEntries presentedEntries maxEntries))
  else
    match duplicateConversation [] 0 request.observerRefusals with
    | some invalid => .respond (.invalidObserverEpochList invalid)
    | none =>
      match overCapacity connectionConversationLimit trackedConversations.dedup request.observerRefusals with
      | some conversationId => .respond (.connectionConversationCapacityExceeded
          (.observerRecovery conversationId connectionConversationLimit))
      | none =>
        match validateEpochs observerProgress request.observerRefusals with
        | .error invalid => .respond (.invalidObserverEpoch invalid)
        | .ok validated => .commit
            { arms := (validated.filter fun entry => entry.1.refusedEpoch = entry.2).map
                fun entry => ⟨entry.1.conversationId, entry.1.refusedEpoch⟩
              outcome := ⟨validated.map progressStatus⟩ }

def ObserverRecoveryDecision.response : ObserverRecoveryDecision → ServerValue
  | respond value => value
  | commit value => .observerRecoveryAccepted value.outcome

/-! ### What passes -/

def FitsConnection (connectionConversationLimit : Nat) (tracked : List ConversationId)
    (refusals : List ObserverRefusal) : Prop :=
  ∀ count < (refusals.filter fun refusal => refusal.conversationId ∉ tracked).length,
    wireCount (tracked.length + count) < connectionConversationLimit

def EpochsReached (observerProgress : ConversationId → Option DeliverySeq) (refusals : List ObserverRefusal) : Prop :=
  ∀ refusal ∈ refusals, ∃ current, observerProgress refusal.conversationId = some current ∧
    refusal.refusedEpoch ≤ current

theorem duplicateConversation_eq_none : ∀ {seen : List (ConversationId × Nat)} {index : Nat},
      duplicateConversation seen index refusals = none ↔ (refusals.map (·.conversationId)).Nodup ∧
          ∀ refusal ∈ refusals, refusal.conversationId ∉ seen.map Prod.fst := by
  induction refusals with
  | nil => simp [duplicateConversation]
  | cons refusal rest ih =>
    intro seen index
    unfold duplicateConversation
    cases hseen : seen.lookup refusal.conversationId with
    | some firstIndex =>
      have hmem : refusal.conversationId ∈ seen.map Prod.fst := by
        obtain ⟨before, after, hsplit, -⟩ := lookup_eq_some_iff.mp hseen
        simp [hsplit]
      simp only [reduceCtorEq, false_iff, not_and]
      intro _ hfresh
      exact hfresh refusal mem_cons_self hmem
    | none =>
      have hfresh : refusal.conversationId ∉ seen.map Prod.fst := by
        intro hmem
        obtain ⟨entry, hentry, heq⟩ := mem_map.mp hmem
        simpa [heq] using lookup_eq_none_iff.mp hseen entry hentry
      simp only [ih, map_cons, nodup_cons, mem_cons, mem_map, not_or, forall_eq_or_imp]
      constructor
      · rintro ⟨hnodup, hrest⟩
        refine ⟨⟨?_, hnodup⟩, by simpa using hfresh, fun other hother => (hrest other hother).2⟩
        rintro ⟨other, hother, heq⟩
        exact (hrest other hother).1 heq
      · rintro ⟨⟨hnew, hnodup⟩, -, hrest⟩
        exact ⟨hnodup, fun other hother => ⟨fun heq => hnew ⟨other, hother, heq⟩, hrest other hother⟩⟩

theorem overCapacity_eq_none : ∀ {tracked : List ConversationId}, (refusals.map (·.conversationId)).Nodup →
      (overCapacity connectionConversationLimit tracked refusals = none ↔
        FitsConnection connectionConversationLimit tracked refusals) := by
  induction refusals with
  | nil => simp [overCapacity, FitsConnection]
  | cons refusal rest ih =>
    intro tracked hnodup
    obtain ⟨hnew, hnodup⟩ := nodup_cons.mp hnodup
    unfold overCapacity
    by_cases hmem : refusal.conversationId ∈ tracked
    · rw [if_pos hmem, ih hnodup, FitsConnection, FitsConnection]
      simp [hmem]
    · -- the others are new exactly when they were: no conversation occurs twice
      have hsame : (rest.filter fun other => other.conversationId ∉ refusal.conversationId :: tracked) =
          rest.filter fun other => other.conversationId ∉ tracked := by
        refine filter_congr fun other hother => ?_
        have hne : other.conversationId ≠ refusal.conversationId := fun heq =>
          hnew (mem_map.mpr ⟨other, hother, heq⟩)
        simp [hne]
      rw [if_neg hmem]
      have hcons : (filter (fun other => decide (other.conversationId ∉ tracked)) (refusal :: rest)).length =
          (rest.filter fun other => other.conversationId ∉ tracked).length + 1 := by
        simp [hmem]
      have hfits : FitsConnection connectionConversationLimit tracked (refusal :: rest) ↔
          wireCount tracked.length < connectionConversationLimit ∧
            FitsConnection connectionConversationLimit (refusal.conversationId :: tracked) rest := by
        rw [FitsConnection, FitsConnection, hsame, hcons]
        constructor
        · intro h
          refine ⟨h 0 (Nat.succ_pos _), fun count hcount => ?_⟩
          have hnext := h (count + 1) (Nat.succ_lt_succ hcount)
          rwa [length_cons, Nat.add_right_comm, Nat.add_assoc]
        · rintro ⟨hfirst, hrest⟩ count hcount
          cases count with
          | zero => exact hfirst
          | succ count =>
            have hnext := hrest count (Nat.lt_of_succ_lt_succ hcount)
            rwa [length_cons, Nat.add_right_comm, Nat.add_assoc] at hnext
      rw [hfits]
      split
      · simp only [reduceCtorEq, false_iff, not_and]
        omega
      · rename_i hroom
        rw [ih hnodup]
        exact ⟨fun h => ⟨Nat.lt_of_not_le hroom, h⟩, And.right⟩

theorem validateEpochs_of_reached (h : EpochsReached observerProgress refusals) :
    ∃ validated, validateEpochs observerProgress refusals = .ok validated ∧ validated.map Prod.fst = refusals := by
  induction refusals with
  | nil => exact ⟨[], rfl, rfl⟩
  | cons refusal rest ih =>
    obtain ⟨current, hcurrent, hle⟩ := h refusal mem_cons_self
    obtain ⟨validated, hvalidated, hmap⟩ := ih fun other hother =>
      h other (mem_cons_of_mem _ hother)
    refine ⟨(refusal, current) :: validated, ?_, by simp [hmap]⟩
    simp only [validateEpochs, hcurrent, if_neg (Nat.not_lt.mpr hle), hvalidated]
    rfl

theorem validateEpochs_of_not_reached (h : ¬EpochsReached observerProgress refusals) :
    ∃ invalid, validateEpochs observerProgress refusals = .error invalid ∧ ∃ refusal ∈ refusals,
        invalid = .conversationUnknown refusal.conversationId refusal.refusedEpoch ∨
          ∃ current, invalid = .epochAhead refusal.conversationId refusal.refusedEpoch current := by
  induction refusals with
  | nil => exact absurd (by simp [EpochsReached]) h
  | cons refusal rest ih =>
    unfold validateEpochs
    cases hcurrent : observerProgress refusal.conversationId with
    | none => exact ⟨_, rfl, refusal, mem_cons_self, .inl rfl⟩
    | some current =>
      by_cases hahead : current < refusal.refusedEpoch
      · simp only [hahead, if_true]
        exact ⟨_, rfl, refusal, mem_cons_self, .inr ⟨current, rfl⟩⟩
      · have hrest : ¬EpochsReached observerProgress rest := by
          intro hreached
          refine h fun other hother => ?_
          rcases mem_cons.mp hother with rfl | hother
          · exact ⟨current, hcurrent, Nat.le_of_not_lt hahead⟩
          · exact hreached other hother
        obtain ⟨invalid, hinvalid, other, hother, hnames⟩ := ih hrest
        simp only [hahead, if_false, hinvalid]
        exact ⟨invalid, rfl, other, mem_cons_of_mem _ hother, hnames⟩

end Liminal
