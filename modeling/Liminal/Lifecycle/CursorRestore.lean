import Liminal.Library.Codec
import Liminal.Lifecycle.CursorReconcile
import Liminal.Lifecycle.Storage

/-!
# Storing an episode

An episode is stored as its scalars, its participants with a tag whether each is bound, and its
facts. Restoring checks all of it, but takes participants as bound ones only. Given `WellKept`,
three conditions decide whether anything stored restores it.
-/

namespace Liminal

open Codec Fallible CursorProgressFacts BoundParticipantCursor List
open Codec.Put (seq)

/-! ### Bytes -/

inductive CursorFactEncodeError
  | tooManyParticipants
  | tooManyFacts
  | lengthOverflow

structure EncodedCursorEpisode where
  conversationId : ConversationId
  debt : WideResourceVector
  (observerProgress candidateHighWatermark : DeliverySeq)
  (currentFloor capFloor : Nat)
  participants : List FrontierParticipant
  facts : List (CursorProgressKey × CursorProgressFact)

namespace EncodedCursorEpisode

-- a number outside its type has no encoding; the source cannot hold one
def put (width value : Nat) : Put CursorFactEncodeError := .unsigned .lengthOverflow width value

def putParticipant (p : FrontierParticipant) : Put CursorFactEncodeError := seq [
  put 1 (match p.binding with | .bound _ => 0 | .detached _ => 1), put 8 p.participantIndex,
  put 8 p.binding.epoch.connectionIncarnation.serverIncarnation,
  put 8 p.binding.epoch.connectionIncarnation.connectionOrdinal, put 8 p.binding.epoch.capabilityGeneration,
  put 8 p.cursor]

def putFact (entry : CursorProgressKey × CursorProgressFact) : Put CursorFactEncodeError := seq [
  put 8 entry.1.participantIndex, put 8 entry.1.boundary, put 1 (match entry.2 with | .pending => 0 | .consumed => 1)]

def bytes (parts : EncodedCursorEpisode) : Put CursorFactEncodeError := seq [ put 8 parts.conversationId,
  put 16 parts.debt.entries, put 16 parts.debt.bytes, put 8 parts.observerProgress, put 8 parts.candidateHighWatermark,
  put 16 parts.currentFloor, put 16 parts.capFloor, put 4 parts.participants.length, seq
  (parts.participants.map putParticipant), put 4 parts.facts.length, seq (parts.facts.map putFact)]

/-- The bytes do not fit what is stored. -/
abbrev Take := Get Unit

def take (width : Nat) : Take Nat := .unsigned (fun _ _ => ()) width

def takeParticipant : Take FrontierParticipant := do
  let tag ← take 1
  let participantIndex ← take 8
  let serverIncarnation ← take 8
  let connectionOrdinal ← take 8
  let generation ← take 8
  let cursor ← take 8
  let epoch : BindingEpoch := ⟨⟨serverIncarnation, connectionOrdinal⟩, generation⟩
  match tag with
  | 0 => return ⟨participantIndex, cursor, .bound epoch⟩
  | _ => return ⟨participantIndex, cursor, .detached epoch⟩

def takeFact : Take (CursorProgressKey × CursorProgressFact) := do
  let participantIndex ← take 8
  let boundary ← take 8
  match ← take 1 with
  | 0 => return (⟨participantIndex, boundary⟩, .pending)
  | _ => return (⟨participantIndex, boundary⟩, .consumed)

/-- What the bytes hold, field by field in the order of writing. The source never reads them; this is what
they mean. -/
def read : Take EncodedCursorEpisode := do
  let conversationId ← take 8
  let entries ← take 16
  let bytes ← take 16
  let observerProgress ← take 8
  let candidateHighWatermark ← take 8
  let currentFloor ← take 16
  let capFloor ← take 16
  let participantCount ← take 4
  let participants ← takeParticipant.times participantCount
  let factCount ← take 4
  return ⟨conversationId, ⟨entries, bytes⟩, observerProgress, candidateHighWatermark, currentFloor, capFloor,
    participants, ← takeFact.times factCount⟩

theorem take_reads (width value : Nat) : Reads (take width) (put width value) value :=
  unsigned_reads _ _ width value

theorem takeParticipant_reads (p : FrontierParticipant) : Reads takeParticipant (putParticipant p) p := by
  obtain ⟨index, cursor, binding⟩ := p
  refine .cons (take_reads _ _) (.cons (take_reads _ _) (.cons (take_reads _ _) (.cons (take_reads _ _)
    (.cons (take_reads _ _) (.cons (take_reads _ _) ?_)))))
  cases binding with
  | bound epoch | detached epoch => exact .pure _

theorem takeFact_reads (entry : CursorProgressKey × CursorProgressFact) : Reads takeFact (putFact entry) entry := by
  obtain ⟨key, fact⟩ := entry
  refine .cons (take_reads _ _) (.cons (take_reads _ _) (.cons (take_reads _ _) ?_))
  cases fact with
  | pending | consumed => exact .pure _

theorem read_reads (parts : EncodedCursorEpisode) : Reads read parts.bytes parts :=
  .cons (take_reads _ _) (.cons (take_reads _ _) (.cons (take_reads _ _) (.cons (take_reads _ _)
    (.cons (take_reads _ _) (.cons (take_reads _ _) (.cons (take_reads _ _) (.cons (take_reads _ _)
      (.cons (.times takeParticipant_reads _) (.cons (take_reads _ _)
        (.cons (.times takeFact_reads _) (.pure _)))))))))))

end EncodedCursorEpisode

structure CursorEpisodeRestore where
  conversationId : ConversationId
  debt : WideResourceVector
  (observerProgress candidateHighWatermark : DeliverySeq)
  (currentFloor capFloor : Nat)
  participants : List BoundParticipantCursor
  facts : List (CursorProgressKey × CursorProgressFact)

def CursorEpisodeRestore.restore (raw : CursorEpisodeRestore) :
    Except StorageRestoreError NonzeroDebtCursorEpisode := do
  let debt ← orError (ClosureDebt.new raw.debt) .closureDebt
  orError (NonzeroDebtCursorEpisode.restore raw.conversationId debt raw.observerProgress
    raw.candidateHighWatermark raw.currentFloor raw.capFloor raw.participants raw.facts) .cursorEpisode

/-- The stored parts as `restore` takes them. It has no place for the tag. -/
def EncodedCursorEpisode.toRestore (parts : EncodedCursorEpisode) : CursorEpisodeRestore where
  conversationId := parts.conversationId
  debt := parts.debt
  observerProgress := parts.observerProgress
  candidateHighWatermark := parts.candidateHighWatermark
  currentFloor := parts.currentFloor
  capFloor := parts.capFloor
  participants := parts.participants.map fun p => ⟨p.participantIndex, p.binding.epoch, p.cursor⟩
  facts := parts.facts

namespace NonzeroDebtCursorEpisode

variable {episode : NonzeroDebtCursorEpisode} {high : DeliverySeq} {participants : List BoundParticipantCursor}

def encoded (episode : NonzeroDebtCursorEpisode) : EncodedCursorEpisode where
  conversationId := episode.conversationId
  debt := episode.debt.value
  observerProgress := episode.observerProgress
  candidateHighWatermark := episode.candidateHighWatermark
  currentFloor := episode.floor.resultingFloor
  capFloor := episode.capFloor
  participants := episode.participants
  facts := episode.facts.facts

/-- With both counts below `2 ^ 32` the source's length arithmetic cannot overflow. -/
def encode (episode : NonzeroDebtCursorEpisode) : Except CursorFactEncodeError Bytes := do
  require (episode.participants.length < 2 ^ 32) .tooManyParticipants
  require (episode.facts.facts.length < 2 ^ 32) .tooManyFacts
  episode.encoded.bytes

theorem read_encode (h : episode.encode = .ok bytes) :
    EncodedCursorEpisode.read ⟨bytes, false⟩ = .ok (episode.encoded, ⟨[], false⟩) := by
  simp only [encode, ok_iff] at h
  have hread := EncodedCursorEpisode.read_reads episode.encoded bytes h.2.2 []
  rwa [append_nil] at hread

/-! ### What every episode keeps -/

structure WellKept (episode : NonzeroDebtCursorEpisode) : Prop where
  ascending : AscendingIndexes episode.participants
  cursors : ∀ p ∈ episode.participants, p.cursor ≤ episode.candidateHighWatermark
  observer : episode.observerProgress ≤ episode.candidateHighWatermark
  floor : episode.floor =
    ⟨(minimumMemberCursor episode.participants).getD episode.candidateHighWatermark,
      preferredFloor episode.participants episode.candidateHighWatermark episode.observerProgress, episode.capFloor⟩
  preferred : preferredFloor episode.participants episode.candidateHighWatermark
    episode.observerProgress ≤ episode.capFloor
  capFloor : episode.capFloor ≤ episode.candidateHighWatermark + 1
  facts : Settled episode.participants episode.candidateHighWatermark episode.facts

theorem preferredFloor_le (participants : List FrontierParticipant) (high observerProgress : Nat) :
    preferredFloor participants high observerProgress ≤ observerProgress + 1 :=
  Nat.succ_le_succ (Nat.min_le_right _ _)

theorem Reflects.wellKept {debt observerProgress} (h : episode.Reflects frontiers debt observerProgress)
    (hseated : frontiers.Seated) : episode.WellKept where
  ascending := h.participants ▸ frontiers.activeIdentities.ascending
  cursors := by
    rw [h.participants, h.high]
    exact fun p hp => (hseated.admissible p hp).2
  observer := by
    rw [h.observer, h.high]
    exact h.observerLe
  floor := by
    rw [h.floor, h.participants, h.high, h.observer]
  preferred := by
    rw [h.capFloor, h.participants, h.high, h.observer]
    exact Nat.le_max_right _ _
  capFloor := by
    rw [h.capFloor, h.high]
    exact Nat.max_le.mpr ⟨h.floorLe, (preferredFloor_le _ _ _).trans (Nat.succ_le_succ h.observerLe)⟩
  facts := h.facts

theorem WellKept.advance (h : episode.WellKept) (hfind : episode.find? participantIndex = some p)
    (hhigh : throughSeq ≤ episode.candidateHighWatermark) : (episode.advance participantIndex throughSeq).WellKept := by
  obtain ⟨hcap, hfloor⟩ := advance_floor (by rw [h.floor]) participantIndex throughSeq
  exact {
    ascending := by
      refine pairwise_map.mp ?_
      rw [show (episode.advance participantIndex throughSeq).participants.map _ = _ from
        moved_indexes episode.participants participantIndex throughSeq]
      exact pairwise_map.mpr h.ascending
    cursors := by
      intro q hq
      obtain ⟨old, hold, -, -, hcursor⟩ := mem_moved hq
      change _ ≤ episode.candidateHighWatermark
      rw [hcursor]
      split
      · exact Nat.max_le.mpr ⟨h.cursors old hold, hhigh⟩
      · exact h.cursors old hold
    observer := h.observer
    floor := hfloor
    preferred := by
      rw [hcap]
      exact Nat.le_max_right _ _
    capFloor := by
      rw [hcap]
      exact Nat.max_le.mpr ⟨h.capFloor, (preferredFloor_le _ _ _).trans (Nat.succ_le_succ h.observer)⟩
    facts := h.facts.advance hfind hhigh }

inductive EpisodeEvent
  | acknowledged (call : AckCall)
  | reconciled (frontiers : ClaimFrontiers) (seated : frontiers.Seated) (debt : ClosureDebt)
      (observerProgress : DeliverySeq)

/-- Episodes of any frontiers, rebuilt from any others and acknowledged against in any order. -/
def liveMachine : Machine NonzeroDebtCursorEpisode EpisodeEvent where
  start episode := ∃ frontiers debt observerProgress, frontiers.Seated ∧
    fromClaimFrontiers frontiers debt observerProgress = .ok episode
  next episode
    | .acknowledged call => some (episode.after call)
    | .reconciled frontiers _ debt observerProgress =>
      (episode.reconcileClaimFrontiers frontiers debt observerProgress).toOption

theorem wellKept_of_reachable (h : liveMachine.Reachable episode) : episode.WellKept := by
  refine h.invariant ?_ ?_
  · rintro episode ⟨frontiers, debt, observerProgress, hseated, hbuilt⟩
    exact (fromClaimFrontiers_eq_ok.mp hbuilt).1.wellKept hseated
  · intro episode event later hkept hnext
    cases event with
    | acknowledged call =>
      cases hnext
      rcases after_cases episode call with hsame | ⟨p, hfind, hhigh, hadvanced⟩
      · rw [hsame]
        exact hkept
      · rw [hadvanced]
        exact hkept.advance hfind hhigh
    | reconciled frontiers hseated debt observerProgress =>
      exact (reflects_of_reconcile (toOption_eq_some.mp hnext)).wellKept hseated

/-! ### Restoring -/

/-- What storage can give back: bound participants, a floor the observer allows, and no fact consumed ahead of
its cursor. -/
structure Restorable (episode : NonzeroDebtCursorEpisode) : Prop where
  bound : ∀ p ∈ episode.participants, ∃ epoch, p.binding = .bound epoch
  floor : episode.capFloor ≤ episode.observerProgress + 1
  facts : ∀ entry ∈ episode.facts.facts, entry.2 = .consumed →
    ∀ p ∈ episode.participants, p.participantIndex = entry.1.participantIndex → entry.1.boundary ≤ p.cursor

theorem indexParticipants_eq_ok (hascending : AscendingIndexes (indexed ++ participants.map tagged))
    (hcursors : ∀ p ∈ participants, p.cursor ≤ high) : indexParticipants high indexed participants =
      .ok (indexed ++ participants.map tagged) := by
  induction participants generalizing indexed with
  | nil => simp [indexParticipants]
  | cons p rest ih =>
    obtain ⟨hcursor, hrest⟩ := forall_mem_cons.mp hcursors
    have hbelow : ∀ q ∈ indexed, q.participantIndex < p.participantId := fun q hq =>
      (pairwise_append.mp hascending).2.2 q hq p.tagged mem_cons_self
    have hlast : indexed.orderedInsert (fun a b => a.participantIndex ≤ b.participantIndex) p.tagged =
        indexed ++ [p.tagged] :=
      Keyed.orderedInsert_eq_append fun q hq => Nat.not_le.mpr (hbelow q hq)
    rw [map_cons, append_cons] at hascending ⊢
    simp only [indexParticipants, ok_iff]
    refine ⟨hcursor, fun q hq => Nat.ne_of_lt (hbelow q hq), ?_⟩
    rw [hlast]
    exact ih hascending hrest

/-- Restoring facts touches nothing else, and lets no fact through that is consumed ahead of its cursor. -/
theorem restoreFacts_eq_some {start : NonzeroDebtCursorEpisode}
    (hstart : ∀ entry ∈ start.facts.facts, entry.2 = .consumed →
      ∃ p, start.find? entry.1.participantIndex = some p ∧ entry.1.boundary ≤ p.cursor)
    (h : start.restoreFacts entries = some episode) :
    episode.participants = start.participants ∧ episode.capFloor = start.capFloor ∧
      episode.observerProgress = start.observerProgress ∧ ∀ entry ∈ episode.facts.facts, entry.2 = .consumed →
        ∃ p, start.find? entry.1.participantIndex = some p ∧ entry.1.boundary ≤ p.cursor := by
  induction entries generalizing start with
  | nil =>
    cases h
    exact ⟨rfl, rfl, rfl, hstart⟩
  | cons entry rest ih =>
    obtain ⟨key, fact⟩ := entry
    simp only [restoreFacts, some_iff] at h
    obtain ⟨p, hfind, ⟨-, hconsumed, -⟩, h⟩ := h
    cases hinsert : start.facts.insert key fact with
    | mk old facts =>
      rw [hinsert] at h
      cases old with
      | some old => cases h
      | none =>
        refine @ih { start with facts } (fun entry hentry hfact => ?_) h
        have hmem : entry ∈ (start.facts.insert key fact).2.facts := by
          rw [hinsert]
          exact hentry
        rcases mem_insert hmem with rfl | hold
        · exact ⟨p, hfind, hconsumed hfact⟩
        · exact hstart entry hold hfact

theorem restoreFacts_of_settled (hascending : AscendingIndexes episode.participants)
    (hfacts : Settled episode.participants episode.candidateHighWatermark ⟨kept ++ entries⟩)
    (hconsumed : ∀ entry ∈ entries, entry.2 = .consumed → ∀ p ∈ episode.participants,
      p.participantIndex = entry.1.participantIndex → entry.1.boundary ≤ p.cursor) :
    restoreFacts { episode with facts := ⟨kept⟩ } entries = some { episode with facts := ⟨kept ++ entries⟩ } := by
  induction entries generalizing kept with
  | nil => rw [append_nil, restoreFacts]
  | cons entry rest ih =>
    obtain ⟨key, fact⟩ := entry
    obtain ⟨hfirst, hrest⟩ := forall_mem_cons.mp hconsumed
    obtain ⟨⟨p, hmem, hindex⟩, hboundary, hcovered⟩ :=
      hfacts.settles (key, fact) (mem_append_right _ mem_cons_self)
    have hlast : ∀ other ∈ kept, rank other < rank (key, fact) :=
      fun other hother => (pairwise_append.mp hfacts.ascending).2.2 other hother (key, fact) mem_cons_self
    have hinsert : insert ⟨kept⟩ key fact = (none, ⟨kept ++ [(key, fact)]⟩) :=
      insert_eq_append hlast
    have hfind := find?_eq_of_mem hascending hmem
    rw [hindex] at hfind
    rw [append_cons] at hfacts ⊢
    simp only [restoreFacts, some_iff]
    refine ⟨p, hfind, ⟨hboundary, fun hfact => hfirst hfact p hmem hindex, fun hfact => ?_⟩, ?_⟩
    · refine Nat.not_le.mp fun hle => ?_
      cases hfact.symm.trans (hcovered p hmem hindex hle)
    · rw [hinsert]
      exact ih hfacts hrest

theorem closureDebt_new (debt : ClosureDebt) : ClosureDebt.new debt.value = some debt := by
  rw [ClosureDebt.new, dif_pos debt.nonzero]

variable (h : episode.WellKept)
include h

theorem WellKept.new_eq_ok (hrestorable : episode.Restorable) :
    new episode.conversationId episode.debt episode.observerProgress episode.candidateHighWatermark
        episode.floor.resultingFloor episode.capFloor episode.encoded.toRestore.participants =
      .ok { episode with facts := .new } := by
  have hparts : episode.encoded.toRestore.participants.map tagged = episode.participants := by
    simp only [EncodedCursorEpisode.toRestore, encoded, map_map]
    refine (map_congr_left fun p hp => ?_).trans (map_id _)
    obtain ⟨epoch, hbound⟩ := hrestorable.bound p hp
    simp only [Function.comp_apply, tagged, id_eq]
    rw [FrontierParticipant.ext_iff]
    exact ⟨rfl, rfl, by rw [hbound]; rfl⟩
  have hcursors : ∀ p ∈ episode.encoded.toRestore.participants, p.cursor ≤ episode.candidateHighWatermark := by
    intro p hp
    obtain ⟨q, hq, rfl⟩ := mem_map.mp hp
    exact h.cursors q hq
  have hindexed : indexParticipants episode.candidateHighWatermark []
      episode.encoded.toRestore.participants = .ok episode.participants := by
    rw [indexParticipants_eq_ok (by rw [nil_append, hparts]; exact h.ascending) hcursors, nil_append, hparts]
  have hresult : episode.floor.resultingFloor = episode.capFloor := congrArg _ h.floor
  simp only [new, ok_iff, floorTransition_eq, hresult]
  refine ⟨h.observer, h.capFloor, _, hindexed, Nat.max_le.mpr ⟨Nat.le_refl _, h.preferred⟩, hrestorable.floor, ?_⟩
  rw [Nat.max_eq_left h.preferred, max_self, ← h.floor]

theorem WellKept.restore_encoded (hrestorable : episode.Restorable) :
    episode.encoded.toRestore.restore = .ok episode := by
  simp only [CursorEpisodeRestore.restore, ok_iff]
  refine ⟨episode.debt, closureDebt_new episode.debt, ?_⟩
  simp only [restore, some_iff]
  exact ⟨_, h.new_eq_ok hrestorable, rfl, restoreFacts_of_settled h.ascending h.facts hrestorable.facts⟩

theorem restorable_of_restore {raw : CursorEpisodeRestore}
    (hrestore : raw.restore = .ok episode) : episode.Restorable := by
  simp only [CursorEpisodeRestore.restore, restore, ok_iff, some_iff, new] at hrestore
  obtain ⟨debt, -, start, ⟨-, -, indexed, hindexed, -, hobs, rfl⟩, -, hfacts⟩ := hrestore
  obtain ⟨hparts, hcap, hprogress, hconsumed⟩ :=
    restoreFacts_eq_some (fun _ hmem => by cases hmem) hfacts
  refine ⟨?_, ?_, fun entry hentry hfact p hp hindex => ?_⟩
  · rw [hparts]
    exact forall_indexParticipants (fun p _ => ⟨p.activeBindingEpoch, rfl⟩) (forall_mem_nil _) hindexed
  · rw [hcap, hprogress]
    exact hobs
  · obtain ⟨q, hfind, hle⟩ := hconsumed entry hentry hfact
    have hfound := find?_eq_of_mem h.ascending hp
    rw [hindex, find?, hparts] at hfound
    rw [find?, hfound, Option.some.injEq] at hfind
    exact hfind ▸ hle

end NonzeroDebtCursorEpisode

end Liminal
