import Mathlib.Logic.Basic

/-!
# Machines with a partial step function

A machine has start states and a step function that may refuse an action. `Reaches permitted` are
the states of runs all of whose steps are permitted. The induction over runs is done once, in
`Reaches.invariant`.
-/

/-- Start states, and what one action does. A refused action leads nowhere. -/
structure Machine (σ α : Type) where
  start : σ → Prop
  next : σ → α → Option σ

namespace Machine

variable {σ α : Type} (m : Machine σ α)

/-- The states of runs from a start state in which every step is `permitted`. -/
inductive Reaches (permitted : σ → α → Prop) : σ → Prop
  | start {s : σ} : m.start s → Reaches permitted s
  | next {s s' : σ} {a : α} : Reaches permitted s → permitted s a → m.next s a = some s' → Reaches permitted s'

def Reachable : σ → Prop := m.Reaches fun _ _ => True

variable {m} {permitted : σ → α → Prop}

/-- What holds at the start and is kept by every permitted step holds in every state of every permitted run. -/
theorem Reaches.invariant {Inv : σ → Prop} (hstart : ∀ s, m.start s → Inv s) (hnext : ∀ s a s', Inv s → permitted s a →
    m.next s a = some s' → Inv s') {s : σ} (h : m.Reaches permitted s) : Inv s := by
  induction h with
  | start hs => exact hstart _ hs
  | next _ hp hn ih => exact hnext _ _ _ ih hp hn

theorem Reaches.mono {weaker : σ → α → Prop} (hle : ∀ s a, permitted s a → weaker s a)
    {s : σ} (h : m.Reaches permitted s) : m.Reaches weaker s := by
  induction h with
  | start hs => exact .start hs
  | next _ hp hn ih => exact .next ih (hle _ _ hp) hn

theorem Reaches.reachable {s : σ} (h : m.Reaches permitted s) : m.Reachable s :=
  h.mono fun _ _ _ => trivial

theorem Reachable.next {s s' : σ} {a : α} (h : m.Reachable s) (hn : m.next s a = some s') : m.Reachable s' :=
  Reaches.next h trivial hn

theorem Reachable.invariant {Inv : σ → Prop} (hstart : ∀ s, m.start s → Inv s)
    (hnext : ∀ s a s', Inv s → m.next s a = some s' → Inv s') {s : σ} (h : m.Reachable s) : Inv s :=
  Reaches.invariant hstart (fun s a s' hi _ hn => hnext s a s' hi hn) h

def run (m : Machine σ α) (s : σ) : List α → Option σ
  | [] => some s
  | a :: rest => (m.next s a).bind fun s' => m.run s' rest

theorem run_invariant {Inv : σ → Prop} (hnext : ∀ s a s', Inv s → m.next s a = some s' → Inv s') {actions : List α}
    {s s' : σ} (hrun : m.run s actions = some s') (h : Inv s) : Inv s' := by
  induction actions generalizing s with
  | nil =>
    cases hrun
    exact h
  | cons a rest ih =>
    obtain ⟨mid, hmid, hrest⟩ := Option.bind_eq_some_iff.mp hrun
    exact ih hrest (hnext s a mid h hmid)

theorem Reachable.run {s s' : σ} {actions : List α} (h : m.Reachable s)
    (hrun : m.run s actions = some s') : m.Reachable s' :=
  run_invariant (fun _ _ _ hreach hn => hreach.next hn) hrun h

/-- A run whose last state passes a test reaches a state that has what was tested. -/
theorem Reachable.exists_of_any {s : σ} {p : σ → Prop} [DecidablePred p] (h : m.Reachable s) (actions : List α)
    (hany : (m.run s actions).any (fun s' => decide (p s')) = true) : ∃ s', m.Reachable s' ∧ p s' := by
  cases hrun : m.run s actions with
  | none =>
    rw [hrun] at hany
    cases hany
  | some s' =>
    rw [hrun] at hany
    exact ⟨s', h.run hrun, of_decide_eq_true hany⟩

def restrict (m : Machine σ α) (permitted : σ → α → Prop) [∀ s a, Decidable (permitted s a)] : Machine σ α where
  start := m.start
  next s a := if permitted s a then m.next s a else none

theorem Reachable.of_restrict [∀ s a, Decidable (permitted s a)] {s : σ}
    (h : (m.restrict permitted).Reachable s) : m.Reaches permitted s := by
  induction h with
  | start hs => exact .start hs
  | next _ _ hn ih =>
    obtain ⟨hpermitted, hnext⟩ := Option.ite_none_right_eq_some.mp hn
    exact .next ih hpermitted hnext

/-! ### Histories -/

variable {β : Type}

/-- The machine with a history that no step reads: what a start state shows, and what each step adds to it. -/
def recording (m : Machine σ α) (initially : σ → List β) (observe : σ → σ → List β) : Machine (σ × List β) α where
  start recorded := m.start recorded.1 ∧ recorded.2 = initially recorded.1
  next recorded a := (m.next recorded.1 a).map fun s' => (s', recorded.2 ++ observe recorded.1 s')

variable {initially : σ → List β} {observe : σ → σ → List β}

theorem Reachable.recording {s : σ} (h : m.Reachable s) :
    ∃ history, (m.recording initially observe).Reachable (s, history) := by
  induction h with
  | @start s hs => exact ⟨initially s, .start ⟨hs, rfl⟩⟩
  | next _ _ hn ih =>
    obtain ⟨history, hhistory⟩ := ih
    exact ⟨_, hhistory.next (Option.map_eq_some_iff.mpr ⟨_, hn, rfl⟩)⟩

theorem Reachable.historyInvariant {Inv : σ → List β → Prop} (hstart : ∀ s, m.start s → Inv s (initially s))
    (hnext : ∀ s history a s', Inv s history → m.next s a = some s' → Inv s' (history ++ observe s s'))
    {s : σ} {history : List β} (h : (m.recording initially observe).Reachable (s, history)) : Inv s history := by
  have hfirst : ∀ recorded, (m.recording initially observe).start recorded → Inv recorded.1 recorded.2 := by
    rintro recorded ⟨hs, hhistory⟩
    rw [hhistory]
    exact hstart recorded.1 hs
  have hstep : ∀ recorded a recorded', Inv recorded.1 recorded.2 →
      (m.recording initially observe).next recorded a = some recorded' → Inv recorded'.1 recorded'.2 := by
    intro recorded a recorded' hi hn
    obtain ⟨s', hs', rfl⟩ := Option.map_eq_some_iff.mp hn
    exact hnext recorded.1 recorded.2 a s' hi hs'
  exact h.invariant hfirst hstep

end Machine
