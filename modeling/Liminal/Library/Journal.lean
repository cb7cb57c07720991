import Liminal.Library.Fallible
import Mathlib.Data.List.Induction

/-!
# Journals

A journal is the list of rows that were made durable, oldest first. A state is rebuilt from a
genesis by applying the rows in order, and a row that does not apply ends the replay.
-/

namespace Journal

variable {σ ρ : Type} {apply : σ → ρ → Option σ}

def replay (apply : σ → ρ → Option σ) (genesis : σ) (rows : List ρ) : Option σ :=
  rows.foldlM apply genesis

theorem replay_concat (genesis : σ) (rows : List ρ) (row : ρ) :
    replay apply genesis (rows ++ [row]) = (replay apply genesis rows).bind (apply · row) := by
  unfold replay
  rw [List.foldlM_append]
  cases List.foldlM apply genesis rows with
  | none => rfl
  | some s => simp

/-- What relates a genesis to no rows and is kept by every row that applies relates a replay to its rows. -/
theorem replay_invariant {Inv : σ → List ρ → Prop} {genesis : σ} (hgenesis : Inv genesis [])
    (hrow : ∀ s rows row s', Inv s rows → apply s row = some s' → Inv s' (rows ++ [row]))
    {rows : List ρ} {s : σ} (h : replay apply genesis rows = some s) : Inv s rows := by
  induction rows using List.reverseRecOn generalizing s with
  | nil =>
    cases h
    exact hgenesis
  | append_singleton rows row ih =>
    rw [replay_concat] at h
    obtain ⟨before, hbefore, happly⟩ := Option.bind_eq_some_iff.mp h
    exact hrow before rows row s (ih hbefore) happly

end Journal
