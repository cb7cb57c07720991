import Liminal.Library.Checked
import Liminal.Library.Fallible
import Liminal.Library.Machine
import Liminal.Wire.Primitives

/-!
# Connection incarnations

A server start takes the next server incarnation; a connection takes the next ordinal that no
reference names. The header keeps the last ordinal looked at, and a bit that closes the incarnation.
-/

namespace Liminal

open Checked Fallible List

structure ConnectionIncarnationAllocatorRestore where
  serverIncarnation : Nat
  lastExaminedConnectionOrdinal : Option Nat
  connectionOrdinalExhausted : Bool

structure ConnectionIncarnationAllocator extends ConnectionIncarnationAllocatorRestore where
  valid : (lastExaminedConnectionOrdinal == some u64Max) = connectionOrdinalExhausted

namespace ConnectionIncarnationAllocator

/-- The error repeats the two fields that disagree. -/
def tryRestore (restored : ConnectionIncarnationAllocatorRestore) :
    Except (Option Nat × Bool) ConnectionIncarnationAllocator :=
  if h : (restored.lastExaminedConnectionOrdinal == some u64Max) = restored.connectionOrdinalExhausted
  then .ok ⟨restored, h⟩
  else .error (restored.lastExaminedConnectionOrdinal, restored.connectionOrdinalExhausted)

/-- Nothing when the server counter is at its end; the header stays then. -/
def prepareServerIncarnationStartup (persisted : ConnectionIncarnationAllocator) :
    Option ConnectionIncarnationAllocator :=
  (add u64Max persisted.serverIncarnation 1).map fun serverIncarnation =>
    ⟨⟨serverIncarnation, none, false⟩, rfl⟩

inductive AllocationDecision
  | allocated (connectionIncarnation : ConnectionIncarnation) (skippedCollisions : Nat)
      (resulting : ConnectionIncarnationAllocator)
  | markExhausted (skippedCollisions : Nat) (resulting : ConnectionIncarnationAllocator)
  | alreadyExhausted (unchanged : ConnectionIncarnationAllocator)

variable (serverIncarnation : Nat) (references : List ConnectionIncarnation)

/-- The loop of the source, for the first ordinal that does not collide; `remaining` is the number of ordinals
above the candidate. -/
def firstFree : (remaining candidateOrdinal skippedCollisions : Nat) → Option Nat × Nat
  | remaining, candidateOrdinal, skippedCollisions =>
    if ⟨serverIncarnation, candidateOrdinal⟩ ∉ references then (some candidateOrdinal, skippedCollisions)
    else match remaining with
      | 0 => (none, skippedCollisions + 1)
      | remaining + 1 => firstFree remaining (candidateOrdinal + 1) (skippedCollisions + 1)

def examined (ordinal : Nat) : ConnectionIncarnationAllocator :=
  ⟨⟨serverIncarnation, some ordinal, ordinal == u64Max⟩, rfl⟩

def allocateConnectionIncarnation (allocator : ConnectionIncarnationAllocator) : AllocationDecision :=
  if allocator.connectionOrdinalExhausted then .alreadyExhausted allocator
  else
    match allocator.lastExaminedConnectionOrdinal.elim (some 0) fun last => add u64Max last 1 with
    | none => .alreadyExhausted allocator
    | some candidateOrdinal =>
      match firstFree allocator.serverIncarnation references (u64Max - candidateOrdinal) candidateOrdinal 0 with
      | (some ordinal, skippedCollisions) => .allocated ⟨allocator.serverIncarnation, ordinal⟩
          skippedCollisions (examined allocator.serverIncarnation ordinal)
      | (none, skippedCollisions) => .markExhausted skippedCollisions (examined allocator.serverIncarnation u64Max)

theorem firstFree_spec (skippedCollisions : Nat) (h : candidateOrdinal + remaining = u64Max) :
    match (firstFree serverIncarnation references remaining candidateOrdinal skippedCollisions).1 with
    | some ordinal => candidateOrdinal ≤ ordinal ∧ ⟨serverIncarnation, ordinal⟩ ∉ references
    | none => ∀ ordinal, candidateOrdinal ≤ ordinal → ordinal ≤ u64Max → ⟨serverIncarnation, ordinal⟩ ∈ references := by
  induction remaining generalizing candidateOrdinal skippedCollisions with
  | zero =>
    unfold firstFree
    grind
  | succ remaining ih =>
    unfold firstFree
    grind

variable (allocator : ConnectionIncarnationAllocator)

def nextOrdinal : Nat :=
  allocator.lastExaminedConnectionOrdinal.elim 0 (· + 1)

def Ended : Prop :=
  allocator.connectionOrdinalExhausted = true ∨ u64Max < allocator.nextOrdinal

/-- What a call answers: the first free ordinal after the last one, or that there is none. -/
theorem allocateConnectionIncarnation_spec (allocator : ConnectionIncarnationAllocator) :
    match allocateConnectionIncarnation references allocator with
    | .allocated connectionIncarnation _ resulting => connectionIncarnation ∉ references ∧
      ∃ ordinal ≥ allocator.nextOrdinal, connectionIncarnation = ⟨allocator.serverIncarnation, ordinal⟩ ∧
        resulting = examined allocator.serverIncarnation ordinal
    | .markExhausted _ resulting => ¬allocator.Ended ∧ resulting = examined allocator.serverIncarnation u64Max ∧
      ∀ ordinal ≥ allocator.nextOrdinal, ordinal ≤ u64Max → ⟨allocator.serverIncarnation, ordinal⟩ ∈ references
    | .alreadyExhausted unchanged => unchanged = allocator ∧ allocator.Ended := by
  have hnext : (allocator.lastExaminedConnectionOrdinal.elim (some 0) fun last => add u64Max last 1) =
      if allocator.nextOrdinal ≤ u64Max then some allocator.nextOrdinal else none := by
    rw [nextOrdinal]
    cases allocator.lastExaminedConnectionOrdinal <;> rfl
  rw [allocateConnectionIncarnation, hnext]
  split_ifs with hexhausted hle
  · exact ⟨rfl, .inl hexhausted⟩
  · have hfirst := firstFree_spec allocator.serverIncarnation references 0 (Nat.add_sub_cancel' hle)
    dsimp only
    generalize firstFree allocator.serverIncarnation references _ _ 0 = found at hfirst ⊢
    obtain ⟨_ | ordinal, skipped⟩ := found
    · exact ⟨not_or.mpr ⟨hexhausted, Nat.not_lt.mpr hle⟩, rfl, hfirst⟩
    · exact ⟨hfirst.2, ordinal, hfirst.1, rfl, rfl⟩
  · exact ⟨rfl, .inr (Nat.lt_of_not_le hle)⟩

end ConnectionIncarnationAllocator

/-! ### Runs -/

open ConnectionIncarnationAllocator

def ConnectionIncarnation.Before (a b : ConnectionIncarnation) : Prop :=
  a.serverIncarnation < b.serverIncarnation ∨
    a.serverIncarnation = b.serverIncarnation ∧ a.connectionOrdinal < b.connectionOrdinal

theorem ConnectionIncarnation.Before.mono
    (h : Before a ⟨server, ordinal⟩) (hle : ordinal ≤ later) : Before a ⟨server, later⟩ :=
  h.imp_right fun hsame => ⟨hsame.1, Nat.lt_of_lt_of_le hsame.2 hle⟩

/-- A server over its restarts: the committed header, everything allocated, and the reference sets its calls
brought since the last start. -/
structure IncarnationHistory where
  allocator : ConnectionIncarnationAllocator
  allocated : List ConnectionIncarnation
  supplied : List (List ConnectionIncarnation)

inductive IncarnationAction
  | restart
  | allocate (references : List ConnectionIncarnation)

namespace IncarnationHistory

variable {s s' : IncarnationHistory} (references : List ConnectionIncarnation)

def next (s : IncarnationHistory) : IncarnationAction → Option IncarnationHistory
  | .restart => do
    let persisted ← (tryRestore s.allocator.toConnectionIncarnationAllocatorRestore).toOption
    let allocator ← persisted.prepareServerIncarnationStartup
    return { s with allocator, supplied := [] }
  | .allocate references =>
    match allocateConnectionIncarnation references s.allocator with
    | .allocated connectionIncarnation _ resulting =>
      some ⟨resulting, s.allocated ++ [connectionIncarnation], references :: s.supplied⟩
    | .markExhausted _ allocator | .alreadyExhausted allocator =>
      some { s with allocator, supplied := references :: s.supplied }

/-- Any header may be found at the start; the ordinal it names last counts as allocated. -/
def machine : Machine IncarnationHistory IncarnationAction where
  start s := s.supplied = [] ∧ s.allocated = (s.allocator.lastExaminedConnectionOrdinal.map
    (ConnectionIncarnation.mk s.allocator.serverIncarnation)).toList
  next := next

/-- One of these reference sets names every ordinal above the allocated ones. -/
def Closed (s : IncarnationHistory) (supplied : List (List ConnectionIncarnation)) : Prop :=
  ∃ references ∈ supplied, ∀ ordinal ≤ u64Max,
    (∀ earlier ∈ s.allocated, earlier.Before ⟨s.allocator.serverIncarnation, ordinal⟩) →
      ⟨s.allocator.serverIncarnation, ordinal⟩ ∈ references

def Held (s : IncarnationHistory) : Prop :=
  ∀ last ∈ s.allocator.lastExaminedConnectionOrdinal, ⟨s.allocator.serverIncarnation, last⟩ ∈ s.allocated

theorem Held.next_le (h : s.Held) (habove : ∀ earlier ∈ s.allocated, earlier.Before
    ⟨s.allocator.serverIncarnation, ordinal⟩) : s.allocator.nextOrdinal ≤ ordinal := by
  rw [nextOrdinal]
  cases hlast : s.allocator.lastExaminedConnectionOrdinal with
  | none => exact Nat.zero_le _
  | some last => exact ((habove _ (h last hlast)).resolve_left (Nat.lt_irrefl _)).2

theorem Held.closed (h : s.Held) (hend : s.allocator.Ended) : s.Closed [references] := by
  refine ⟨references, mem_singleton_self _, fun ordinal hmax habove => ?_⟩
  have hnext := h.next_le habove
  have hvalid := s.allocator.valid
  rcases hend with hexhausted | hpast
  · rw [hexhausted, beq_iff_eq] at hvalid
    rw [nextOrdinal, hvalid] at hnext
    exact absurd hnext (Nat.not_le.mpr (Nat.lt_succ_of_le hmax))
  · exact absurd (Nat.le_trans hnext hmax) (Nat.not_le.mpr hpast)

structure Orderly (s : IncarnationHistory) : Prop where
  increasing : s.allocated.Pairwise ConnectionIncarnation.Before
  within : ∀ earlier ∈ s.allocated, earlier.Before ⟨s.allocator.serverIncarnation, s.allocator.nextOrdinal⟩
  held : s.Held ∨ s.allocator.Ended ∧ s.Closed s.supplied

theorem Orderly.closed (h : s.Orderly) (hend : s.allocator.Ended) : s.Closed (references :: s.supplied) := by
  rcases h.held with hheld | ⟨-, other, hother, hall⟩
  · obtain ⟨other, hother, hall⟩ := hheld.closed references hend
    exact ⟨other, by simp [mem_singleton.mp hother], hall⟩
  · exact ⟨other, mem_cons_of_mem _ hother, hall⟩

theorem Orderly.start (h : machine.start s) : s.Orderly := by
  obtain ⟨-, hallocated⟩ := h
  refine ⟨?_, ?_, .inl fun last hlast => ?_⟩
  · rw [hallocated]
    cases s.allocator.lastExaminedConnectionOrdinal <;> simp
  · rw [hallocated, nextOrdinal]
    cases s.allocator.lastExaminedConnectionOrdinal <;> simp [ConnectionIncarnation.Before]
  · rw [hallocated, hlast]
    exact mem_singleton_self _

theorem Orderly.next (h : s.Orderly) (hnext : s.next action = some s') : s'.Orderly := by
  cases action with
  | restart =>
    simp only [IncarnationHistory.next, tryRestore, dif_pos s.allocator.valid, some_iff,
      prepareServerIncarnationStartup, Option.map_eq_some_iff, add_eq_some] at hnext
    obtain ⟨_, hpersisted, _, ⟨_, ⟨-, rfl⟩, rfl⟩, rfl⟩ := hnext
    obtain rfl := Except.ok.inj hpersisted
    refine ⟨h.increasing, fun earlier hearlier => .inl ?_, .inl (by rintro _ ⟨⟩)⟩
    exact Nat.lt_succ_of_le ((h.within earlier hearlier).elim Nat.le_of_lt fun hsame => Nat.le_of_eq hsame.1)
  | allocate references =>
    have hspec := allocateConnectionIncarnation_spec references s.allocator
    simp only [IncarnationHistory.next] at hnext
    generalize allocateConnectionIncarnation references s.allocator = decision at hspec hnext
    cases decision with
    | allocated connectionIncarnation skipped resulting =>
      obtain ⟨-, ordinal, hle, rfl, rfl⟩ := hspec
      obtain rfl := Option.some.inj hnext
      have hbefore : ∀ earlier ∈ s.allocated, earlier.Before ⟨s.allocator.serverIncarnation, ordinal⟩ :=
        fun earlier hearlier => (h.within earlier hearlier).mono hle
      refine ⟨pairwise_append.mpr ⟨h.increasing, pairwise_singleton _ _, by simpa using hbefore⟩,
        fun earlier hearlier => ?_, .inl fun last hlast => ?_⟩
      · rcases mem_append.mp hearlier with hold | hnew
        · exact (hbefore earlier hold).mono (Nat.le_succ _)
        · obtain rfl := mem_singleton.mp hnew
          exact .inr ⟨rfl, Nat.lt_succ_self _⟩
      · obtain rfl := Option.some.inj hlast
        exact mem_append_right _ (mem_singleton_self _)
    | markExhausted skipped resulting =>
      obtain ⟨hopen, rfl, hall⟩ := hspec
      obtain rfl := Option.some.inj hnext
      have hheld := h.held.resolve_right fun hended => hopen hended.1
      refine ⟨h.increasing, fun earlier hearlier => ?_, .inr ⟨.inl rfl, references, mem_cons_self, ?_⟩⟩
      · exact (h.within earlier hearlier).mono (Nat.le_succ_of_le (Nat.not_lt.mp fun hlt => hopen (.inr hlt)))
      · exact fun ordinal hmax habove => hall ordinal (hheld.next_le habove) hmax
    | alreadyExhausted unchanged =>
      obtain ⟨rfl, hend⟩ := hspec
      obtain rfl := Option.some.inj hnext
      exact ⟨h.increasing, h.within, .inr ⟨hend, h.closed references hend⟩⟩

/-- Pairs are allocated in lexicographic order, never one that is referenced, and refused only if nothing was
found free above the last one. -/
theorem incarnations_never_repeat (h : machine.Reachable s) :
    s.allocated.Pairwise ConnectionIncarnation.Before ∧
      match allocateConnectionIncarnation references s.allocator with
      | .allocated connectionIncarnation _ _ => connectionIncarnation ∉ references ∧
        ∀ earlier ∈ s.allocated, earlier.Before connectionIncarnation
      | _ => s.Closed (references :: s.supplied) := by
  have hinv : s.Orderly := h.invariant (fun _ => Orderly.start) fun _ _ _ => Orderly.next
  have hspec := allocateConnectionIncarnation_spec references s.allocator
  refine ⟨hinv.increasing, ?_⟩
  generalize allocateConnectionIncarnation references s.allocator = decision at hspec ⊢
  cases decision with
  | allocated connectionIncarnation skipped resulting =>
    obtain ⟨hfree, ordinal, hle, rfl, -⟩ := hspec
    exact ⟨hfree, fun earlier hearlier => (hinv.within earlier hearlier).mono hle⟩
  | markExhausted skipped resulting =>
    obtain ⟨hopen, -, hall⟩ := hspec
    have hheld := hinv.held.resolve_right fun hended => hopen hended.1
    exact ⟨references, mem_cons_self, fun ordinal hmax habove => hall ordinal (hheld.next_le habove) hmax⟩
  | alreadyExhausted unchanged => exact hinv.closed references hspec.2

/-- The last ordinal was in use when a call came to it. -/
def closedEarly : IncarnationHistory :=
  ⟨examined 0 u64Max, [⟨0, u64Max - 1⟩], [[⟨0, u64Max⟩]]⟩

theorem closedEarly_reachable : machine.Reachable closedEarly :=
  Machine.Reachable.run (m := machine) (.start ⟨rfl, rfl⟩) (show machine.run ⟨examined 0 (u64Max - 1), _, _⟩
    [.allocate [⟨0, u64Max⟩]] = some closedEarly from rfl)

theorem incarnations_never_repeat_closedEarly : closedEarly.Closed [[], [⟨0, u64Max⟩]] :=
  (incarnations_never_repeat [] closedEarly_reachable).2

/-- No reference is left, and the last ordinal was never allocated; the call is refused. -/
theorem refused_beside_free_ordinal : ∃ s, machine.Reachable s ∧
    allocateConnectionIncarnation [] s.allocator = .alreadyExhausted s.allocator ∧
    ∀ earlier ∈ s.allocated, earlier.Before ⟨s.allocator.serverIncarnation, u64Max⟩ := by
  refine ⟨closedEarly, closedEarly_reachable, rfl, ?_⟩
  rintro _ (_ | ⟨_, ⟨⟩⟩)
  exact .inr ⟨rfl, by decide⟩

end IncarnationHistory

end Liminal
