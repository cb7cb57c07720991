import Mathlib.Algebra.BigOperators.Group.Finset.Piecewise
import Mathlib.Data.Fintype.Basic

/-!
# Totals

The total of a measure over finitely many entries, when one entry is replaced.
-/

theorem Finset.sum_replace {ι β : Type} [Fintype ι] [DecidableEq ι] (measure : β → Nat) (entries : ι → β)
    (i : ι) (entry : β) : ∑ j, measure (Function.update entries i entry j) + measure (entries i) =
      ∑ j, measure (entries j) + measure entry := by
  have hnew := Finset.sum_update_of_mem (Finset.mem_univ i) (measure ∘ entries) (measure entry)
  have hold := Finset.sum_eq_add_sum_sdiff_singleton_of_mem (Finset.mem_univ i) (measure ∘ entries)
  rw [← Function.comp_update] at hnew
  simp only [Function.comp_apply] at hnew hold
  omega
