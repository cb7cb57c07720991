import Liminal.Lifecycle.CursorEpisode

/-!
# An episode and its frontiers

Every operation that leaves a debt rebuilds the episode from the frontiers and carries the facts
over. `Reflects` is what it then has in common with them, and exactly what rebuilding leaves alone;
an acknowledgement keeps it when the frontiers move the same cursor.
-/

namespace Liminal

open Fallible CursorProgressFacts List

/-! ### Facts in the order of their keys -/

namespace CursorProgressFacts

variable {facts : CursorProgressFacts} {key : CursorProgressKey} {fact : CursorProgressFact} {entry : Entry}
  {participantIndex : ParticipantId} {through : DeliverySeq}

abbrev Entry := CursorProgressKey × CursorProgressFact

def rank (entry : Entry) : Nat ×ₗ Nat := toLex (entry.1.participantIndex, entry.1.boundary)

theorem keyLe_iff (a b : Entry) : keyLe a b = true ↔ rank a ≤ rank b := by
  simp [keyLe, rank, Prod.Lex.toLex_le_toLex]

theorem rank_inj : rank a = rank b ↔ a.1 = b.1 := by
  rw [rank, rank, toLex_inj, Prod.mk.injEq]
  constructor
  · cases ha : a.1
    simp_all
  · intro h
    rw [h]
    exact ⟨rfl, rfl⟩

def Ascending (facts : CursorProgressFacts) : Prop :=
  facts.facts.Pairwise fun a b => rank a < rank b

theorem get_eq_none : facts.get key = none ↔ ∀ entry ∈ facts.facts, entry.1 ≠ key := by
  simp [get]

theorem insert_ascending (h : facts.Ascending) (key : CursorProgressKey) (fact : CursorProgressFact) :
    (facts.insert key fact).2.Ascending := by
  unfold insert
  cases hget : facts.get key with
  | none =>
    refine Keyed.pairwise_orderedInsert keyLe_iff h fun entry hentry => ?_
    exact fun heq => get_eq_none.mp hget entry hentry (rank_inj.mp heq)
  | some old =>
    have hrank : ∀ entry : Entry, rank (if entry.1 = key then (key, fact) else entry) = rank entry := by
      intro entry
      split
      · rename_i heq
        exact rank_inj.mpr heq.symm
      · rfl
    refine pairwise_map.mpr (h.imp fun hlt => ?_)
    rw [hrank, hrank]
    exact hlt

theorem mem_insert (h : entry ∈ (facts.insert key fact).2.facts) : entry = (key, fact) ∨ entry ∈ facts.facts := by
  unfold insert at h
  cases hget : facts.get key with
  | none =>
    rw [hget] at h
    exact (mem_orderedInsert _).mp h
  | some old =>
    rw [hget] at h
    obtain ⟨other, hother, rfl⟩ := mem_map.mp h
    split
    · exact Or.inl rfl
    · exact Or.inr hother

theorem insert_eq_append (h : ∀ entry ∈ facts.facts, rank entry < rank (key, fact)) :
    facts.insert key fact = (none, ⟨facts.facts ++ [(key, fact)]⟩) := by
  have hget : facts.get key = none :=
    get_eq_none.mpr fun entry hentry heq => (h entry hentry).ne (rank_inj.mpr heq)
  have hafter : ∀ entry ∈ facts.facts, ¬keyLe (key, fact) entry = true := fun entry hentry hle =>
    not_le.mpr (h entry hentry) ((keyLe_iff _ _).mp hle)
  unfold insert
  rw [hget]
  exact congrArg (fun entries => (none, mk entries)) (Keyed.orderedInsert_eq_append hafter)

theorem record_eq (key : CursorProgressKey) :
    (facts.record key).2 = if (facts.get key).isSome then facts else (facts.insert key .pending).2 := by
  unfold record insert
  cases facts.get key with
  | none | some old => rfl

theorem record_ascending (h : facts.Ascending) (key : CursorProgressKey) : (facts.record key).2.Ascending := by
  rw [record_eq]
  split
  · exact h
  · exact insert_ascending h key .pending

theorem mem_record (h : entry ∈ (facts.record key).2.facts) : entry.1 = key ∨ entry ∈ facts.facts := by
  rw [record_eq] at h
  split at h
  · exact Or.inr h
  · exact (mem_insert h).imp_left (congrArg Prod.fst)

theorem consumeThrough_ascending (h : facts.Ascending) (participantIndex : ParticipantId)
    (through : DeliverySeq) : (facts.consumeThrough participantIndex through).2.Ascending := by
  refine pairwise_map.mpr (h.imp fun {a b} hlt => ?_)
  have hrank : ∀ entry : Entry, rank (if covered participantIndex through entry
      then (entry.1, CursorProgressFact.consumed) else entry) = rank entry := by
    intro entry
    split <;> rfl
  rw [hrank, hrank]
  exact hlt

theorem mem_consumeThrough (h : entry ∈ (facts.consumeThrough participantIndex through).2.facts) :
    ∃ old ∈ facts.facts, entry.1 = old.1 ∧ (entry.2 = .consumed ∨ entry.2 = old.2) ∧
      (old.1.participantIndex = participantIndex → old.1.boundary ≤ through → entry.2 = .consumed) := by
  obtain ⟨old, hold, rfl⟩ := mem_map.mp h
  refine ⟨old, hold, ?_⟩
  split
  · exact ⟨rfl, Or.inl rfl, fun _ _ => rfl⟩
  · rename_i hcovered
    refine ⟨rfl, Or.inr rfl, fun hindex hboundary => ?_⟩
    cases hfact : old.2 with
    | consumed => rfl
    | pending => exact absurd (by simp [covered, hindex, hboundary, hfact]) hcovered

theorem consumeThrough_eq_self (h : ∀ entry ∈ facts.facts, entry.1.participantIndex = participantIndex →
      entry.1.boundary ≤ through → entry.2 = .consumed) :
    (facts.consumeThrough participantIndex through).2 = facts := by
  have hnone : ∀ entry ∈ facts.facts, covered participantIndex through entry = false := by
    intro entry hentry
    simp only [covered, Bool.and_eq_false_iff, beq_eq_false_iff_ne, decide_eq_false_iff_not]
    grind
  refine mk.injEq _ _ |>.mpr ((map_congr_left fun entry hentry => ?_).trans (map_id _))
  rw [hnone entry hentry]
  rfl

end CursorProgressFacts

/-! ### Settled facts -/

namespace NonzeroDebtCursorEpisode

open CursorProgressFacts (Entry)

variable {episode next : NonzeroDebtCursorEpisode} {p : FrontierParticipant} {participants : List FrontierParticipant}
  {high throughSeq : DeliverySeq} {participantIndex : ParticipantId}

/-- A fact of a participant that is there, not above the watermark, and consumed once the cursor covers it. -/
structure Settles (participants : List FrontierParticipant) (high : DeliverySeq) (entry : Entry) : Prop where
  present : ∃ p ∈ participants, p.participantIndex = entry.1.participantIndex
  boundary : entry.1.boundary ≤ high
  consumed : ∀ p ∈ participants, p.participantIndex = entry.1.participantIndex →
    entry.1.boundary ≤ p.cursor → entry.2 = .consumed

structure Settled (participants : List FrontierParticipant) (high : DeliverySeq)
    (facts : CursorProgressFacts) : Prop where
  ascending : facts.Ascending
  settles : ∀ entry ∈ facts.facts, Settles participants high entry

theorem find?_eq_of_mem (hascending : AscendingIndexes episode.participants)
    (hmem : p ∈ episode.participants) : episode.find? p.participantIndex = some p :=
  find?_of_ascending hascending hmem

theorem mem_of_find?_eq_some (h : episode.find? index = some p) :
    p ∈ episode.participants ∧ p.participantIndex = index :=
  ⟨List.mem_of_find?_eq_some h, by simpa using find?_some h⟩

variable {facts : CursorProgressFacts}

theorem Settled.keepFact (hascending : AscendingIndexes next.participants)
    (h : Settled next.participants next.candidateHighWatermark facts) (entry : Entry) :
    Settled next.participants next.candidateHighWatermark (next.keepFact facts entry) := by
  unfold NonzeroDebtCursorEpisode.keepFact
  cases hfind : next.participants.find? fun p => p.participantIndex == entry.1.participantIndex with
  | none => exact h
  | some p =>
    obtain ⟨hmem, hindex⟩ := mem_of_find?_eq_some hfind
    simp only
    split
    · rename_i hboundary
      refine ⟨insert_ascending h.ascending _ _, fun kept hkept => ?_⟩
      rcases mem_insert hkept with rfl | hold
      · refine ⟨⟨p, hmem, hindex⟩, hboundary, fun q hq hqindex hle => ?_⟩
        have hfound := find?_eq_of_mem hascending hq
        rw [hqindex, ← hindex, find?_eq_of_mem hascending hmem, Option.some.injEq] at hfound
        rw [hfound, if_pos hle]
      · exact h.settles kept hold
    · exact h

theorem Settled.consumeThrough (h : Settled participants high facts) (participantIndex : ParticipantId)
    (through : DeliverySeq) : Settled participants high (facts.consumeThrough participantIndex through).2 := by
  refine ⟨consumeThrough_ascending h.ascending _ _, fun entry hentry => ?_⟩
  obtain ⟨old, hold, hkey, hfact, -⟩ := mem_consumeThrough hentry
  obtain ⟨hpresent, hboundary, hconsumed⟩ := h.settles old hold
  refine ⟨hkey ▸ hpresent, hkey ▸ hboundary, fun p hp hindex hle => ?_⟩
  rw [hkey] at hindex hle
  exact hfact.elim id fun hsame => hsame.trans (hconsumed p hp hindex hle)

theorem Settled.foldl_keepFact (kept : List Entry) (h : Settled next.participants next.candidateHighWatermark
    ⟨kept ++ entries⟩) : entries.foldl next.keepFact ⟨kept⟩ = ⟨kept ++ entries⟩ := by
  induction entries generalizing kept with
  | nil => rw [append_nil, foldl_nil]
  | cons entry rest ih =>
    obtain ⟨hpresent, hboundary, hconsumed⟩ :=
      h.settles entry (mem_append_right _ mem_cons_self)
    have hkeep : next.keepFact ⟨kept⟩ entry = ⟨kept ++ [entry]⟩ := by
      unfold NonzeroDebtCursorEpisode.keepFact
      cases hfind : next.participants.find? fun p => p.participantIndex == entry.1.participantIndex with
      | none =>
        obtain ⟨p, hp, hindex⟩ := hpresent
        exact absurd hindex (by simpa using find?_eq_none.mp hfind p hp)
      | some p =>
        obtain ⟨hmem, hindex⟩ := mem_of_find?_eq_some hfind
        -- The cursor covers no fact that is still pending, so the kept fact is the old one.
        have hfact : (if entry.1.boundary ≤ p.cursor then .consumed else entry.2) = entry.2 := by
          split
          · rename_i hle
            exact (hconsumed p hmem hindex hle).symm
          · rfl
        have hlast : ∀ other ∈ kept, rank other < rank entry :=
          fun other hother => (pairwise_append.mp h.ascending).2.2 other hother entry mem_cons_self
        have hinsert : insert ⟨kept⟩ entry.1 entry.2 = (none, ⟨kept ++ [entry]⟩) :=
          insert_eq_append hlast
        simp only
        rw [if_pos hboundary, hfact, hinsert]
    rw [append_cons] at h
    rw [foldl_cons, hkeep, ih _ h, ← append_cons]

theorem Settled.foldl_consumeThrough {some} (h : Settled participants high facts) (hsub : some ⊆ participants) :
    some.foldl (fun facts p => (facts.consumeThrough p.participantIndex p.cursor).2) facts = facts := by
  induction some with
  | nil => rfl
  | cons p rest ih =>
    obtain ⟨hp, hrest⟩ := cons_subset.mp hsub
    rw [foldl_cons, consumeThrough_eq_self, ih hrest]
    exact fun entry hentry hindex hle => (h.settles entry hentry).consumed p hp hindex.symm hle

/-! ### Reflecting the frontiers -/

def preferredFloor (participants : List FrontierParticipant) (high observerProgress : DeliverySeq) : Nat :=
  min ((minimumMemberCursor participants).getD high) observerProgress + 1

theorem floorTransition_eq (currentFloor : Nat) (participants : List FrontierParticipant)
    (high observerProgress capFloor : Nat) :
    floorTransition currentFloor (minimumMemberCursor participants) high observerProgress capFloor =
      ⟨(minimumMemberCursor participants).getD high, preferredFloor participants high observerProgress,
        max (max currentFloor (preferredFloor participants high observerProgress)) capFloor⟩ := by
  simp only [floorTransition, preferredFloor, FloorComputation.mk.injEq, true_and]
  constructor <;> split_ifs <;> omega

structure Reflects (episode : NonzeroDebtCursorEpisode) (frontiers : ClaimFrontiers) (debt : ClosureDebt)
    (observerProgress : DeliverySeq) : Prop where
  conversation : episode.conversationId = frontiers.conversationId
  debt : episode.debt = debt
  observer : episode.observerProgress = observerProgress
  high : episode.candidateHighWatermark = frontiers.high
  participants : episode.participants = frontiers.activeIdentities.participants
  capFloor : episode.capFloor = max frontiers.retainedFloor
    (preferredFloor frontiers.activeIdentities.participants frontiers.high observerProgress)
  floor : episode.floor =
    ⟨(minimumMemberCursor frontiers.activeIdentities.participants).getD frontiers.high,
      preferredFloor frontiers.activeIdentities.participants frontiers.high observerProgress, episode.capFloor⟩
  observerLe : observerProgress ≤ frontiers.high
  floorLe : frontiers.retainedFloor ≤ frontiers.high + 1
  facts : Settled episode.participants episode.candidateHighWatermark episode.facts

variable {frontiers : ClaimFrontiers} {debt : ClosureDebt} {observerProgress : DeliverySeq}

theorem fromClaimFrontiers_eq_ok : fromClaimFrontiers frontiers debt observerProgress = .ok next ↔
      next.Reflects frontiers debt observerProgress ∧ next.facts = .new := by
  simp only [fromClaimFrontiers, ok_iff, floorTransition_eq]
  constructor
  · rintro ⟨hobs, hfloor, rfl⟩
    refine ⟨⟨rfl, rfl, rfl, rfl, rfl, rfl, ?_, hobs, hfloor, Pairwise.nil, fun _ hmem => (by cases hmem)⟩, rfl⟩
    simp only [max_self]
  · rintro ⟨h, hfacts⟩
    refine ⟨h.observerLe, h.floorLe, ?_⟩
    have hfloor := h.floor
    rw [h.capFloor] at hfloor
    cases next
    simp only [mk.injEq, max_self]
    exact ⟨h.conversation.symm, h.debt.symm, h.observer.symm, h.high.symm, h.capFloor.symm, hfloor.symm,
      h.participants.symm, hfacts.symm⟩

theorem reflects_of_reconcile (h : episode.reconcileClaimFrontiers frontiers debt observerProgress = .ok next) :
    next.Reflects frontiers debt observerProgress := by
  simp only [reconcileClaimFrontiers, ok_iff, fromClaimFrontiers_eq_ok] at h
  obtain ⟨start, ⟨hstart, hnew⟩, rfl⟩ := h
  have hascending : AscendingIndexes start.participants :=
    hstart.participants ▸ frontiers.activeIdentities.ascending
  have hkept : Settled start.participants start.candidateHighWatermark
      (episode.facts.facts.foldl start.keepFact .new) :=
    foldlRecOn _ _ (hnew ▸ hstart.facts) fun _ hfacts entry _ => hfacts.keepFact hascending entry
  exact { hstart with
    facts := foldlRecOn _ _ hkept fun _ hfacts p _ => hfacts.consumeThrough _ _ }

/-- Rebuilding leaves exactly those episodes alone that reflect the frontiers. -/
theorem reconcile_eq_self_iff : episode.reconcileClaimFrontiers frontiers debt observerProgress = .ok episode ↔
      episode.Reflects frontiers debt observerProgress := by
  refine ⟨reflects_of_reconcile, fun h => ?_⟩
  have hstart : fromClaimFrontiers frontiers debt observerProgress = .ok { episode with facts := .new } :=
    fromClaimFrontiers_eq_ok.mpr ⟨{ h with facts := ⟨Pairwise.nil, nofun⟩ }, rfl⟩
  have hkept : episode.facts.facts.foldl
      (NonzeroDebtCursorEpisode.keepFact { episode with facts := .new }) .new = episode.facts :=
    Settled.foldl_keepFact [] h.facts
  simp only [reconcileClaimFrontiers, ok_iff]
  refine ⟨_, hstart, ?_⟩
  rw [hkept, h.facts.foldl_consumeThrough (Subset.refl _)]

/-! ### Acknowledging -/

def moved (participants : List FrontierParticipant) (participantIndex : ParticipantId)
    (throughSeq : DeliverySeq) : List FrontierParticipant :=
  participants.map fun p =>
    if p.participantIndex = participantIndex then { p with cursor := max p.cursor throughSeq } else p

theorem mem_moved (h : p ∈ moved participants participantIndex throughSeq) :
    ∃ old ∈ participants, old.participantIndex = p.participantIndex ∧ old.binding = p.binding ∧
      p.cursor = if old.participantIndex = participantIndex then max old.cursor throughSeq
        else old.cursor := by
  obtain ⟨old, hold, rfl⟩ := mem_map.mp h
  refine ⟨old, hold, ?_⟩
  split <;> exact ⟨rfl, rfl, rfl⟩

variable (participants)

section

variable (participantIndex : ParticipantId) (throughSeq : DeliverySeq)

theorem moved_indexes :
    (moved participants participantIndex throughSeq).map FrontierParticipant.participantIndex =
      participants.map FrontierParticipant.participantIndex := by
  rw [moved, map_map]
  refine map_congr_left fun p _ => ?_
  simp only [Function.comp_apply]
  split <;> rfl

theorem minimumMemberCursor_le_moved (high : Nat) :
    (minimumMemberCursor participants).getD high ≤
      (minimumMemberCursor (moved participants participantIndex throughSeq)).getD high := by
  cases participants with
  | nil => exact Nat.le_refl _
  | cons first rest =>
    obtain ⟨least, hleast⟩ : ∃ least,
        minimumMemberCursor (moved (first :: rest) participantIndex throughSeq) = some least :=
      Option.isSome_iff_exists.mp (by simp [minimumMemberCursor, moved])
    obtain ⟨before, hbefore⟩ : ∃ before, minimumMemberCursor (first :: rest) = some before :=
      Option.isSome_iff_exists.mp (by simp [minimumMemberCursor])
    rw [hleast, hbefore, Option.getD_some, Option.getD_some]
    obtain ⟨p, hp, rfl⟩ := mem_map.mp (min?_mem hleast)
    obtain ⟨old, hold, -, -, hcursor⟩ := mem_moved hp
    have hle := (min?_eq_some_iff.mp hbefore).2 old.cursor (mem_map_of_mem hold)
    rw [hcursor]
    split
    · exact hle.trans (Nat.le_max_left _ _)
    · exact hle

end

theorem Settled.advance (h : Settled episode.participants episode.candidateHighWatermark episode.facts)
    (hfind : episode.find? participantIndex = some p) (hhigh : throughSeq ≤ episode.candidateHighWatermark) :
    Settled (moved episode.participants participantIndex throughSeq) episode.candidateHighWatermark
      (episode.advance participantIndex throughSeq).facts := by
  obtain ⟨hmem, hindex⟩ := mem_of_find?_eq_some hfind
  refine ⟨consumeThrough_ascending (record_ascending h.ascending _) _ _, fun entry hentry => ?_⟩
  obtain ⟨old, hold, hkey, hfact, hcovered⟩ := mem_consumeThrough hentry
  have hpresent : ∀ index, (∃ q ∈ episode.participants, q.participantIndex = index) →
      ∃ q ∈ moved episode.participants participantIndex throughSeq, q.participantIndex = index := by
    rintro index ⟨q, hq, rfl⟩
    have hq' := mem_map_of_mem (f := FrontierParticipant.participantIndex) hq
    rw [← moved_indexes episode.participants participantIndex throughSeq] at hq'
    exact mem_map.mp hq'
  rcases mem_record hold with hnew | hold
  · rw [hnew] at hkey hcovered
    exact ⟨hpresent _ ⟨p, hmem, hkey ▸ hindex⟩, hkey ▸ hhigh, fun _ _ _ _ => hcovered rfl (Nat.le_refl _)⟩
  · obtain ⟨holdPresent, hboundary, hconsumed⟩ := h.settles old hold
    refine ⟨hkey ▸ hpresent _ holdPresent, hkey ▸ hboundary, fun q hq hqindex hle => ?_⟩
    obtain ⟨before, hmember, hbeforeIndex, -, hcursor⟩ := mem_moved hq
    rw [hkey] at hqindex hle
    rw [hcursor] at hle
    -- A fact the moved cursor covers anew is consumed with it; one it covered before was consumed then.
    by_cases hself : before.participantIndex = participantIndex ∧ old.1.boundary ≤ throughSeq
    · exact hcovered ((hbeforeIndex.trans hqindex).symm.trans hself.1) hself.2
    · have hbefore : old.1.boundary ≤ before.cursor := by
        split at hle
        · rename_i hindex
          have hlt := Nat.not_le.mp fun hle => hself ⟨hindex, hle⟩
          exact Nat.le_of_not_lt fun hcursor => Nat.not_lt.mpr hle (Nat.max_lt.mpr ⟨hcursor, hlt⟩)
        · exact hle
      have hwas := hconsumed before hmember (hbeforeIndex.trans hqindex) hbefore
      exact hfact.elim id fun hsame => hsame.trans hwas

/-- An acknowledgement raises the floor to the one preferred with the moved cursor. -/
theorem advance_floor (h : episode.floor.resultingFloor = episode.capFloor) (participantIndex : ParticipantId)
    (throughSeq : DeliverySeq) :
    (episode.advance participantIndex throughSeq).capFloor = max episode.capFloor
      (preferredFloor (moved episode.participants participantIndex throughSeq) episode.candidateHighWatermark
        episode.observerProgress) ∧
    (episode.advance participantIndex throughSeq).floor =
      ⟨(minimumMemberCursor (moved episode.participants participantIndex throughSeq)).getD
        episode.candidateHighWatermark,
        preferredFloor (moved episode.participants participantIndex throughSeq) episode.candidateHighWatermark
          episode.observerProgress, (episode.advance participantIndex throughSeq).capFloor⟩ := by
  have hfloor : (episode.advance participantIndex throughSeq).floor = _ :=
    floorTransition_eq _ (moved episode.participants participantIndex throughSeq) _ _ _
  have hcap : (episode.advance participantIndex throughSeq).capFloor = _ :=
    congrArg FloorComputation.resultingFloor hfloor
  refine ⟨hcap.trans ?_, by rw [hcap, hfloor]⟩
  rw [h]
  exact Nat.max_eq_left (Nat.le_max_left _ _)

/-- The episode after an acknowledgement reflects the frontiers with the same cursor moved. -/
theorem Reflects.advance (h : episode.Reflects frontiers debt observerProgress)
    (hfind : frontiers.activeIdentities.find? participantIndex = some current) (hcursor : current.cursor ≤ throughSeq)
    (hhigh : throughSeq ≤ frontiers.high) : (episode.advance participantIndex throughSeq).Reflects { frontiers with
        activeIdentities := frontiers.activeIdentities.replace
          ⟨current.participantIndex, throughSeq, current.binding⟩ } debt observerProgress := by
  obtain ⟨hmem, rfl⟩ := ActiveIdentityRanks.find?_eq_some.mp hfind
  have hparts : moved episode.participants current.participantIndex throughSeq =
      replaceParticipant frontiers.activeIdentities.participants
        ⟨current.participantIndex, throughSeq, current.binding⟩ := by
    rw [h.participants]
    refine map_congr_left fun p hp => ?_
    split
    · rename_i hindex
      have hsame := ActiveIdentityRanks.find?_eq_some.mpr ⟨hp, hindex⟩
      rw [hfind, Option.some.injEq] at hsame
      rw [hsame, Nat.max_eq_right (hsame ▸ hcursor)]
    · rfl
  have hpreferred : preferredFloor episode.participants frontiers.high observerProgress ≤ preferredFloor
      (moved episode.participants current.participantIndex throughSeq) frontiers.high observerProgress :=
    Nat.succ_le_succ (Nat.le_min.mpr ⟨(Nat.min_le_left _ _).trans
      (minimumMemberCursor_le_moved _ _ throughSeq frontiers.high), Nat.min_le_right _ _⟩)
  obtain ⟨hcap, hfloor⟩ := advance_floor (by rw [h.floor]) current.participantIndex throughSeq
  rw [h.high, h.observer] at hcap hfloor
  rw [hparts] at hfloor
  refine ⟨h.conversation, h.debt, h.observer, h.high, hparts, ?_, hfloor, h.observerLe, h.floorLe, ?_⟩
  · rw [hcap, h.capFloor, ← h.participants, Nat.max_assoc, Nat.max_eq_right hpreferred, hparts]
    rfl
  · have hfound : episode.find? current.participantIndex = some current := by
      rw [find?, h.participants]
      exact hfind
    exact h.facts.advance hfound (h.high ▸ hhigh)

end NonzeroDebtCursorEpisode

end Liminal
