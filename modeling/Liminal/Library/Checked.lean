import Mathlib.Algebra.GroupWithZero.Nat
import Mathlib.Data.Nat.Basic

/-!
# Checked arithmetic on bounded counters

A fixed-width counter is a natural number with the largest value of its type. Each operation answers
nothing instead of leaving the range. Proofs meet them only through the `_eq_some` lemmas.
-/

namespace Checked

def u64Max : Nat := 2 ^ 64 - 1

def u128Max : Nat := 2 ^ 128 - 1

def add (limit a b : Nat) : Option Nat :=
  if a + b ≤ limit then some (a + b) else none

def sub (a b : Nat) : Option Nat :=
  if b ≤ a then some (a - b) else none

@[simp] theorem add_eq_some {limit a b c : Nat} : add limit a b = some c ↔ a + b ≤ limit ∧ a + b = c := by
  unfold add
  split <;> simp <;> omega

@[simp] theorem add_eq_none {limit a b : Nat} : add limit a b = none ↔ limit < a + b := by
  unfold add
  split <;> simp <;> omega

@[simp] theorem sub_eq_some {a b c : Nat} : sub a b = some c ↔ b ≤ a ∧ a - b = c := by
  unfold sub
  split <;> simp <;> omega

theorem add_of_le {limit a b : Nat} (h : a + b ≤ limit) : add limit a b = some (a + b) := by
  simp [h]

end Checked
