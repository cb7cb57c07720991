import Liminal.Lifecycle.Operations.Steps
import Liminal.Library.Machine

/-!
# The laws of a cursor episode

An episode is built once and acknowledged against by any participant in any order. `Lawful` holds of
it throughout; `Advances` is what any number of acknowledgements may change.
-/

namespace Liminal

open Fallible Option

/-! ### Facts -/

namespace CursorProgressFacts

variable {facts : CursorProgressFacts}

theorem find?_orderedInsert {entries : List (CursorProgressKey × CursorProgressFact)} (habsent : entries.find?
    (fun entry => entry.1 = key) = none) :
    (entries.orderedInsert (fun a b => keyLe a b = true) (key, fact)).find? (fun entry => entry.1 = other) =
      if other = key then some (key, fact) else entries.find? fun entry => entry.1 = other := by
  rw [List.orderedInsert_eq_take_drop, List.find?_append, List.find?_cons]
  split_ifs with h
  · subst h
    have hnone : (entries.takeWhile fun b => decide ¬keyLe (other, fact) b = true).find?
        (fun entry => entry.1 = other) = none :=
      List.find?_eq_none.mpr fun entry hentry =>
        List.find?_eq_none.mp habsent entry (List.takeWhile_subset _ hentry)
    rw [hnone, decide_eq_true rfl, none_or]
  · rw [decide_eq_false (Ne.symm h), ← List.find?_append, List.takeWhile_append_dropWhile]

theorem get_record (key other : CursorProgressKey) : (facts.record key).2.get other =
    if other = key then some ((facts.get key).getD .pending) else facts.get other := by
  unfold record
  cases hget : facts.get key with
  | some fact =>
    simp only [isSome_some, if_true, getD_some]
    split_ifs with h
    · rw [h, hget]
    · rfl
  | none =>
    rw [if_neg nofun, get, find?_orderedInsert (map_eq_none_iff.mp hget)]
    split_ifs with h <;> rfl

theorem get_consumeThrough (participantIndex : ParticipantId) (through : DeliverySeq)
    (key : CursorProgressKey) : (facts.consumeThrough participantIndex through).2.get key =
      (facts.get key).map fun fact =>
        if key.participantIndex = participantIndex ∧ key.boundary ≤ through then .consumed else fact := by
  have hkey : ∀ entry : CursorProgressKey × CursorProgressFact,
      (if covered participantIndex through entry then (entry.1, CursorProgressFact.consumed)
        else entry).1 = entry.1 := by
    intro entry
    split <;> rfl
  unfold consumeThrough get
  rw [List.find?_map]
  simp only [Function.comp_def, hkey, map_map]
  cases hfind : facts.facts.find? fun entry => entry.1 = key with
  | none => rfl
  | some entry =>
    obtain ⟨found, fact⟩ := entry
    obtain rfl : found = key := by simpa using List.find?_some hfind
    cases fact with
    | pending =>
      simp only [map_some, covered, Bool.and_eq_true, beq_iff_eq, decide_eq_true_eq, and_true]
      split_ifs <;> rfl
    | consumed => simp [covered]

end CursorProgressFacts

namespace NonzeroDebtCursorEpisode

variable {episode later : NonzeroDebtCursorEpisode}

/-! ### Acknowledging again and again -/

structure AckCall where
  participantIndex : ParticipantId
  receivingBindingEpoch : BindingEpoch
  request : ParticipantAck
  availability : AckAvailability

section

variable (episode : NonzeroDebtCursorEpisode) (call : AckCall)

def answer : Except CumulativeAckAuthorizationError (CumulativeAckOutcome × NonzeroDebtCursorEpisode) :=
  episode.acknowledge call.participantIndex call.receivingBindingEpoch call.request call.availability

def after : NonzeroDebtCursorEpisode :=
  match episode.answer call with
  | .ok (_, next) => next
  | .error _ => episode

end

/-- The two ways an episode comes about. Frontiers seat their participants; that the floor is not past the
observer is up to the caller. -/
inductive Built : NonzeroDebtCursorEpisode → Prop
  | new {conversationId debt observerProgress candidateHighWatermark currentFloor capFloor participants episode}
      (built : NonzeroDebtCursorEpisode.new conversationId debt observerProgress candidateHighWatermark
        currentFloor capFloor participants = .ok episode) : Built episode
  | fromClaimFrontiers {frontiers debt observerProgress episode}
      (seated : frontiers.Seated) (floor : frontiers.retainedFloor ≤ observerProgress + 1)
      (built : NonzeroDebtCursorEpisode.fromClaimFrontiers frontiers debt observerProgress =
        .ok episode) : Built episode

def episodeMachine : Machine NonzeroDebtCursorEpisode AckCall where
  start := Built
  next episode call := some (episode.after call)

def find? (episode : NonzeroDebtCursorEpisode) (participantIndex : ParticipantId) : Option FrontierParticipant :=
  episode.participants.find? fun p => p.participantIndex == participantIndex

structure Lawful (episode : NonzeroDebtCursorEpisode) : Prop where
  cursors : ∀ p ∈ episode.participants, p.cursor ≤ episode.candidateHighWatermark
  floor : episode.floor.resultingFloor ≤ episode.capFloor
  capFloor : episode.capFloor ≤ episode.observerProgress + 1
  facts : ∀ key fact, episode.facts.get key = some fact →
    ∃ p, episode.find? key.participantIndex = some p ∧ (fact = .consumed ↔ key.boundary ≤ p.cursor)

structure Advances (acknowledging : ParticipantId → Prop) (episode later : NonzeroDebtCursorEpisode) : Prop where
  floor : episode.floor.resultingFloor ≤ later.floor.resultingFloor
  observer : later.observerProgress = episode.observerProgress
  high : later.candidateHighWatermark = episode.candidateHighWatermark
  cursors : ∀ index p, episode.find? index = some p →
    ∃ q, later.find? index = some q ∧ p.cursor ≤ q.cursor ∧ q.binding = p.binding
  others : ∀ index, ¬acknowledging index → later.find? index = episode.find? index ∧
    ∀ boundary, later.facts.get ⟨index, boundary⟩ = episode.facts.get ⟨index, boundary⟩

/-! ### One acknowledgement -/

theorem acknowledge_eq_ok (h : episode.acknowledge participantIndex receivingBindingEpoch request availability =
      .ok (outcome, later)) : (outcome ≠ .committed ∧ later = episode) ∨
      ∃ p, episode.find? participantIndex = some p ∧ p.cursor < request.throughSeq ∧
        request.throughSeq ≤ episode.candidateHighWatermark ∧ outcome = .committed ∧
        later = episode.advance participantIndex request.throughSeq := by
  simp only [acknowledge, ok_iff] at h
  obtain ⟨p, hfind, -, -, h⟩ := h
  split at h
  · cases h
  · simp only [ok_iff] at h
    obtain ⟨-, -, available, -, h⟩ := h
    split_ifs at h with hbelow hequal hgap <;> obtain ⟨rfl, rfl⟩ := Prod.mk.inj (pure_eq_ok.mp h)
    · exact Or.inl ⟨by simp, rfl⟩
    · exact Or.inl ⟨by simp, rfl⟩
    · exact Or.inl ⟨by simp, rfl⟩
    · obtain ⟨hhigh, -⟩ := not_or.mp hgap
      exact Or.inr ⟨p, hfind, Nat.lt_of_le_of_ne (Nat.not_lt.mp hbelow) (Ne.symm hequal), Nat.not_lt.mp hhigh, rfl, rfl⟩

theorem advance_find? (participantIndex index : ParticipantId) (throughSeq : DeliverySeq) :
    (episode.advance participantIndex throughSeq).find? index = (episode.find? index).map fun p =>
      if index = participantIndex then { p with cursor := max p.cursor throughSeq } else p := by
  have hindex : ∀ p : FrontierParticipant, (if p.participantIndex = participantIndex then
      { p with cursor := max p.cursor throughSeq } else p).participantIndex = p.participantIndex := by
    intro p
    split <;> rfl
  unfold find? advance
  rw [List.find?_map]
  simp only [Function.comp_def, hindex]
  cases hfind : episode.participants.find? fun p => p.participantIndex == index with
  | none => rfl
  | some p =>
    obtain rfl : p.participantIndex = index := by simpa using List.find?_some hfind
    rfl

section

variable (participantIndex : ParticipantId) (throughSeq : DeliverySeq)

theorem advance_facts (key : CursorProgressKey) : (episode.advance participantIndex throughSeq).facts.get key =
      if key = ⟨participantIndex, throughSeq⟩ then some .consumed
      else (episode.facts.get key).map fun fact =>
        if key.participantIndex = participantIndex ∧ key.boundary ≤ throughSeq then .consumed
        else fact := by
  unfold advance
  rw [CursorProgressFacts.get_consumeThrough, CursorProgressFacts.get_record]
  by_cases h : key = ⟨participantIndex, throughSeq⟩
  · rw [if_pos h, if_pos h, map_some, h, if_pos ⟨rfl, Nat.le_refl _⟩]
  · rw [if_neg h, if_neg h]

theorem advance_advances :
    Advances (· = participantIndex) episode (episode.advance participantIndex throughSeq) where
  floor := by
    change _ ≤ (floorTransition _ _ _ _ _).resultingFloor
    rw [floorTransition_resultingFloor]
    exact (Nat.le_max_left _ _).trans (Nat.le_max_left _ _)
  observer := rfl
  high := rfl
  cursors := by
    intro index p hfind
    rw [advance_find?, hfind, map_some]
    refine ⟨_, rfl, ?_⟩
    split_ifs
    · exact ⟨Nat.le_max_left _ _, rfl⟩
    · exact ⟨Nat.le_refl _, rfl⟩
  others := by
    intro index hother
    refine ⟨?_, fun boundary => ?_⟩
    · rw [advance_find?]
      simp only [if_neg hother, map_id']
    · rw [advance_facts, if_neg fun heq => hother (congrArg CursorProgressKey.participantIndex heq)]
      simp only [hother, false_and, if_false, map_id']

end

theorem Lawful.advance (h : episode.Lawful) (hfind : episode.find? participantIndex = some p)
    (hhigh : throughSeq ≤ episode.candidateHighWatermark) : (episode.advance participantIndex throughSeq).Lawful where
  cursors := by
    intro q hq
    obtain ⟨old, hold, rfl⟩ := List.mem_map.mp hq
    have hcursor := h.cursors old hold
    change _ ≤ episode.candidateHighWatermark
    split_ifs
    · exact Nat.max_le.mpr ⟨hcursor, hhigh⟩
    · exact hcursor
  floor := Nat.le_refl _
  capFloor := by
    change (floorTransition _ _ _ _ _).resultingFloor ≤ episode.observerProgress + 1
    rw [floorTransition_resultingFloor]
    exact Nat.max_le.mpr ⟨Nat.max_le.mpr ⟨h.floor.trans h.capFloor,
      Nat.succ_le_succ (Nat.min_le_right _ _)⟩, h.capFloor⟩
  facts := by
    intro key fact hfact
    rw [advance_facts] at hfact
    rw [advance_find?]
    by_cases hkey : key = ⟨participantIndex, throughSeq⟩
    · rw [if_pos hkey, some.injEq] at hfact
      rw [hkey, hfind, map_some, if_pos rfl]
      exact ⟨_, rfl, iff_of_true hfact.symm (Nat.le_max_right _ _)⟩
    · rw [if_neg hkey] at hfact
      obtain ⟨old, hold, rfl⟩ := map_eq_some_iff.mp hfact
      obtain ⟨q, hq, hiff⟩ := h.facts key old hold
      rw [hq, map_some]
      refine ⟨_, rfl, ?_⟩
      by_cases hself : key.participantIndex = participantIndex
      · by_cases hcovered : key.boundary ≤ throughSeq
        · rw [if_pos ⟨hself, hcovered⟩, if_pos hself]
          exact iff_of_true rfl (hcovered.trans (Nat.le_max_right _ _))
        · rw [if_neg fun h => hcovered h.2, if_pos hself, hiff]
          exact ⟨fun hle => hle.trans (Nat.le_max_left _ _), fun hle =>
            Nat.le_of_not_lt fun hlt => Nat.not_lt.mpr hle (Nat.max_lt.mpr ⟨hlt, Nat.not_le.mp hcovered⟩)⟩
      · rw [if_neg fun h => hself h.1, if_neg hself]
        exact hiff

/-! ### The start -/

theorem floorTransition_max (currentFloor : Nat) (minimum : Option Nat) (high observerProgress capFloor : Nat) :
    (floorTransition currentFloor minimum high observerProgress capFloor).resultingFloor = max (max currentFloor
        (floorTransition currentFloor minimum high observerProgress capFloor).preferredFloor) capFloor := by
  simp only [floorTransition]
  split_ifs <;> omega

theorem forall_indexParticipants {P : FrontierParticipant → Prop} {high participants}
    (hnew : ∀ p : BoundParticipantCursor, p.cursor ≤ high → P p.tagged) (hindexed : ∀ p ∈ indexed, P p)
    (h : indexParticipants high indexed participants = .ok result) : ∀ p ∈ result, P p := by
  induction participants generalizing indexed with
  | nil =>
    cases h
    exact hindexed
  | cons p rest ih =>
    simp only [indexParticipants, ok_iff] at h
    obtain ⟨hcursor, -, h⟩ := h
    refine ih (fun q hq => ?_) h
    rcases (List.mem_orderedInsert _).mp hq with rfl | hold
    · exact hnew p hcursor
    · exact hindexed q hold

theorem Built.lawful (h : Built episode) : episode.Lawful := by
  cases h with
  | new hbuilt =>
    simp only [NonzeroDebtCursorEpisode.new, ok_iff] at hbuilt
    obtain ⟨-, -, indexed, hindexed, hbase, hobs, rfl⟩ := hbuilt
    refine ⟨forall_indexParticipants (fun _ hle => hle) (List.forall_mem_nil _) hindexed, ?_, hobs,
      fun _ _ hget => (by cases hget)⟩
    change (floorTransition _ _ _ _ _).resultingFloor ≤ _
    rw [floorTransition_max]
    exact Nat.max_le.mpr ⟨hbase, Nat.le_refl _⟩
  | fromClaimFrontiers hseated hfloor hbuilt =>
    simp only [NonzeroDebtCursorEpisode.fromClaimFrontiers, ok_iff] at hbuilt
    obtain ⟨-, -, rfl⟩ := hbuilt
    refine ⟨fun p hp => (hseated.admissible p hp).2, ?_, Nat.max_le.mpr ⟨hfloor, ?_⟩,
      fun _ _ hget => (by cases hget)⟩
    · rw [floorTransition_max]
      exact Nat.max_le.mpr ⟨Nat.le_refl _, Nat.le_refl _⟩
    · simp only [floorTransition]
      split_ifs <;> omega

/-! ### Whole runs -/

theorem Advances.refl (acknowledging : ParticipantId → Prop) (episode : NonzeroDebtCursorEpisode) :
    Advances acknowledging episode episode :=
  ⟨Nat.le_refl _, rfl, rfl, fun _ p hfind => ⟨p, hfind, Nat.le_refl _, rfl⟩, fun _ _ => ⟨rfl, fun _ => rfl⟩⟩

theorem Advances.mono {some more} (hmore : ∀ index, some index → more index)
    (h : Advances some episode later) : Advances more episode later :=
  { h with others := fun index hother => h.others index fun hsome => hother (hmore index hsome) }

theorem Advances.trans (h : Advances acknowledging episode later)
    (h' : Advances acknowledging later last) : Advances acknowledging episode last where
  floor := h.floor.trans h'.floor
  observer := h'.observer.trans h.observer
  high := h'.high.trans h.high
  cursors := by
    intro index p hp
    obtain ⟨q, hq, hcursor, hbinding⟩ := h.cursors index p hp
    obtain ⟨r, hr, hcursor', hbinding'⟩ := h'.cursors index q hq
    exact ⟨r, hr, hcursor.trans hcursor', hbinding'.trans hbinding⟩
  others := by
    intro index hother
    obtain ⟨hfind, hfacts⟩ := h.others index hother
    obtain ⟨hfind', hfacts'⟩ := h'.others index hother
    exact ⟨hfind'.trans hfind, fun boundary => (hfacts' boundary).trans (hfacts boundary)⟩

section

variable (episode : NonzeroDebtCursorEpisode) (call : AckCall)

theorem after_cases : episode.after call = episode ∨
      ∃ p, episode.find? call.participantIndex = some p ∧ call.request.throughSeq ≤ episode.candidateHighWatermark ∧
        episode.after call = episode.advance call.participantIndex call.request.throughSeq := by
  unfold after
  split
  · rename_i outcome next hanswer
    rcases acknowledge_eq_ok hanswer with ⟨-, hsame⟩ | ⟨p, hfind, -, hhigh, -, hnext⟩
    · exact Or.inl hsame
    · exact Or.inr ⟨p, hfind, hhigh, hnext⟩
  · exact Or.inl rfl

theorem after_advances : Advances (· = call.participantIndex) episode (episode.after call) := by
  rcases after_cases episode call with hsame | ⟨p, -, -, hnext⟩
  · rw [hsame]
    exact .refl _ episode
  · rw [hnext]
    exact advance_advances _ _

end

theorem Lawful.after (h : episode.Lawful) (call : AckCall) : (episode.after call).Lawful := by
  rcases after_cases episode call with hsame | ⟨p, hfind, hhigh, hnext⟩
  · rw [hsame]
    exact h
  · rw [hnext]
    exact h.advance hfind hhigh

theorem lawful_of_reachable (h : episodeMachine.Reachable episode) : episode.Lawful := by
  apply h.invariant fun _ hbuilt => Built.lawful hbuilt
  intro episode call later hlawful hnext
  cases hnext
  exact hlawful.after call

section

variable (episode : NonzeroDebtCursorEpisode) (calls : List AckCall)

def afterAll : NonzeroDebtCursorEpisode :=
  calls.foldl after episode

theorem afterAll_advances :
    Advances (· ∈ calls.map AckCall.participantIndex) episode (episode.afterAll calls) := by
  induction calls generalizing episode with
  | nil => exact .refl _ episode
  | cons call rest ih =>
    refine Advances.trans ((after_advances episode call).mono ?_)
      ((ih (episode.after call)).mono fun index hmem => List.mem_cons_of_mem _ hmem)
    rintro index rfl
    exact List.mem_cons_self

end

/-- Acknowledgements keep the laws of an episode. One that commits moves its cursor and the floor forward and
touches nobody else. -/
theorem cursor_episode_laws (h : episodeMachine.Reachable episode) : episode.Lawful ∧
      (∀ call, (∀ next, episode.answer call ≠ .ok (.committed, next)) → episode.after call = episode) ∧
      ∀ calls, episodeMachine.Reachable (episode.afterAll calls) ∧
        Advances (· ∈ calls.map AckCall.participantIndex) episode (episode.afterAll calls) := by
  refine ⟨lawful_of_reachable h, fun call hrefused => ?_, fun calls => ⟨?_, afterAll_advances _ _⟩⟩
  · unfold after
    split
    · rename_i outcome next hanswer
      rcases acknowledge_eq_ok hanswer with ⟨-, hsame⟩ | ⟨p, -, -, -, rfl, -⟩
      · exact hsame
      · exact absurd hanswer (hrefused next)
    · rfl
  · induction calls generalizing episode with
    | nil => exact h
    | cons call rest ih => exact ih (h.next rfl)

/-- Two participants, at zero and two; the observer is at three and the log ends at five. -/
def twoBehind : Except CursorEpisodeBuildError NonzeroDebtCursorEpisode :=
  new 0 ⟨⟨1, 0⟩, by decide⟩ 3 5 1 1 [⟨0, ⟨⟨0, 0⟩, 1⟩, 0⟩, ⟨1, ⟨⟨0, 1⟩, 1⟩, 2⟩]

def rereading : List AckCall := [ ⟨0, ⟨⟨0, 0⟩, 1⟩, ⟨0, 0, 1, 4⟩, .contiguous 5⟩,
  ⟨0, ⟨⟨0, 0⟩, 1⟩, ⟨0, 0, 1, 4⟩, .contiguous 5⟩, ⟨0, ⟨⟨0, 0⟩, 1⟩, ⟨0, 0, 1, 2⟩, .contiguous 5⟩]

theorem cursor_episode_laws_rereading : ∃ episode, twoBehind = .ok episode ∧ (episode.afterAll rereading).Lawful ∧
    (episode.afterAll rereading).floor.resultingFloor = 3 ∧ (episode.afterAll rereading).facts.get ⟨0, 4⟩ =
    some .consumed ∧ (episode.afterAll rereading).find? 1 = episode.find? 1 := by
  obtain ⟨episode, hbuilt, hfloor, hfact⟩ : ∃ episode, twoBehind.toOption = some episode ∧
      (episode.afterAll rereading).floor.resultingFloor = 3 ∧
      (episode.afterAll rereading).facts.get ⟨0, 4⟩ = some .consumed := exists_of_any (by decide)
  have hnew := toOption_eq_some.mp hbuilt
  have hstart : episodeMachine.Reachable episode := .start (.new hnew)
  obtain ⟨hreached, hadvanced⟩ := (cursor_episode_laws hstart).2.2 rereading
  exact ⟨episode, hnew, (cursor_episode_laws hreached).1, hfloor, hfact, (hadvanced.others 1 (by decide)).1⟩

end NonzeroDebtCursorEpisode

end Liminal
