import Mathlib.Data.List.Nodup
import Mathlib.Data.List.Perm.Subperm

/-!
# Dispatch over a consumer group

A dispatch selects a consumer of the current snapshot, sends the message into a conversation linked
to it and waits for the link to fire. Each attempt finds its own snapshot, routing function and
crashes, so the group may change in any way in between. The conversation of an attempt is started by
`spawn`, without channels to its participants.
-/

namespace Liminal

open List

variable {C : Type} [DecidableEq C]

inductive DispatchError (C : Type)
  | noConsumerAvailable
  | unknownConsumerSelected (consumer : C)
  | evaluation (error : String)
  | conversation (error : String)

inductive AttemptResult
  | delivered
  | crashed

/-- What one attempt finds. -/
structure DispatchRound (C : Type) where
  consumers : List C
  execute : List C → Except String (Option C)
  observeAttempt : C → Except String AttemptResult

inductive DispatchOutcome (C : Type)
  | delivered (deliveredTo : C) (reroutedFrom : List C)
  | failed (error : DispatchError C)
  | running

def selectConsumer (round : DispatchRound C) (excluded : List C) : Except (DispatchError C) C :=
  let available := round.consumers.filter (· ∉ excluded)
  if available = [] then .error .noConsumerAvailable
  else
    match round.execute available with
    | .error error => .error (.evaluation error)
    | .ok none => .error .noConsumerAvailable
    | .ok (some selected) =>
      if selected ∈ available then .ok selected else .error (.unknownConsumerSelected selected)

/-- The participant inboxes into which a sent message is put. -/
def forwardedTo (participantChannels : List C) : List C := participantChannels.head?.toList

/-- The outcome after as many attempts as there are rounds, the consumers tried and the inboxes the message was put
into. -/
structure DispatchRecord (C : Type) where
  outcome : DispatchOutcome C
  (attempts placed : List C)

def dispatch : List (DispatchRound C) → List C → DispatchRecord C
  | [], _ => ⟨.running, [], []⟩
  | round :: rounds, excluded =>
    match selectConsumer round excluded with
    | .error error => ⟨.failed error, [], []⟩
    | .ok selected =>
      let rest : DispatchRecord C := match round.observeAttempt selected with
        | .error error => ⟨.failed (.conversation error), [], []⟩
        | .ok .delivered => ⟨.delivered selected excluded, [], []⟩
        | .ok .crashed => dispatch rounds (excluded ++ [selected])
      { rest with attempts := selected :: rest.attempts, placed := forwardedTo [] ++ rest.placed }

variable {round : DispatchRound C} {rounds : List (DispatchRound C)} {excluded : List C} {selected : C}

theorem mem_of_selectConsumer (h : selectConsumer round excluded = .ok selected) :
    selected ∈ round.consumers ∧ selected ∉ excluded := by
  unfold selectConsumer at h
  grind

theorem nodup_of_selectConsumer (hexcluded : excluded.Nodup) (h : selectConsumer round excluded = .ok selected) :
    (excluded ++ [selected]).Nodup := by
  have hnew := (mem_of_selectConsumer h).2
  refine nodup_append.mpr ⟨hexcluded, nodup_singleton _, fun tried htried other hother hsame => hnew ?_⟩
  rwa [← mem_singleton.mp hother, ← hsame]

theorem dispatch_placed (rounds : List (DispatchRound C)) (excluded : List C) :
    (dispatch rounds excluded).placed = [] := by
  induction rounds generalizing excluded with
  | nil => rfl
  | cons round rounds ih =>
    unfold dispatch
    split
    · rfl
    · split
      · rfl
      · rfl
      · exact ih _

/-- What is excluded and what is then tried are pairwise distinct, and of those only the last can be reported. -/
theorem dispatch_attempts (rounds : List (DispatchRound C)) (hexcluded : excluded.Nodup) :
    (excluded ++ (dispatch rounds excluded).attempts).Nodup ∧ ∀ consumer tried,
      (dispatch rounds excluded).outcome = .delivered consumer tried →
        excluded ++ (dispatch rounds excluded).attempts = tried ++ [consumer] := by
  induction rounds generalizing excluded with
  | nil => exact ⟨by simpa [dispatch] using hexcluded, fun _ _ h => by cases h⟩
  | cons round rounds ih =>
    unfold dispatch
    split
    · exact ⟨by simpa using hexcluded, fun _ _ h => by cases h⟩
    · rename_i selected hselect
      have hnodup := nodup_of_selectConsumer hexcluded hselect
      split
      · exact ⟨hnodup, fun _ _ h => by cases h⟩
      · exact ⟨hnodup, fun _ _ h => by cases h; rfl⟩
      · simpa using ih hnodup

/-- Every attempt that does not end the dispatch excludes one more consumer. -/
theorem dispatch_ends {pool : List C} (hexcluded : excluded.Nodup)
    (hpool : ∀ round ∈ rounds, round.consumers ⊆ pool) (htried : excluded ⊆ pool)
    (hmore : pool.length < excluded.length + rounds.length) : (dispatch rounds excluded).outcome ≠ .running := by
  induction rounds generalizing excluded with
  | nil => exact absurd (subperm_of_subset hexcluded htried).length_le (Nat.not_le.mpr hmore)
  | cons round rounds ih =>
    obtain ⟨hfirst, hrest⟩ := forall_mem_cons.mp hpool
    unfold dispatch
    split
    · simp
    · rename_i selected hselect
      split
      · simp
      · simp
      · refine ih (nodup_of_selectConsumer hexcluded hselect) hrest (append_subset.mpr ⟨htried, ?_⟩) ?_
        · simpa using hfirst (mem_of_selectConsumer hselect).1
        · simp only [length_append, length_cons, length_nil] at hmore ⊢
          omega

/-- A dispatch puts the message into no inbox, also when it reports a delivery. It tries no consumer
twice, and over a bounded set of consumers it ends. -/
theorem dispatch_delivers_never (rounds : List (DispatchRound C)) :
    (∀ consumer tried, (dispatch rounds []).outcome = .delivered consumer tried →
      (dispatch rounds []).placed.count consumer ≠ 1 ∧ (dispatch rounds []).attempts = tried ++ [consumer]) ∧
    (dispatch rounds []).attempts.Nodup ∧
    ∀ pool, (∀ round ∈ rounds, round.consumers ⊆ pool) → pool.length < rounds.length →
      (dispatch rounds []).outcome ≠ .running := by
  obtain ⟨hnodup, hlast⟩ := dispatch_attempts rounds nodup_nil
  refine ⟨fun consumer tried h => ⟨by simp [dispatch_placed], hlast consumer tried h⟩, hnodup,
    fun pool hpool hmore => dispatch_ends nodup_nil hpool (nil_subset _) (by simpa using hmore)⟩

/-- The first consumer crashes, the second lives on, and the message is in no inbox. -/
theorem dispatch_delivers_nothing :
    dispatch [⟨[6, 7], fun available => .ok available.head?, fun _ => .ok .crashed⟩,
        ⟨[6, 7], fun available => .ok available.head?, fun _ => .ok .delivered⟩] [] =
      ⟨.delivered 7 [6], [6, 7], []⟩ :=
  rfl

end Liminal
