import Mathlib.Data.List.Sort
import Mathlib.Data.List.TakeWhile

/-!
# Lists ordered by a key

Facts about lists whose elements carry a key: erasing the one element of a key, sorting what is
sorted already, and joining two sorted runs.
-/

namespace Keyed

open List

variable {α β κ : Type} {key : α → κ} {items : List α} {a : α}

/-- With distinct keys, erasing the first element of a key is keeping all others. -/
theorem eraseP_eq_filter [DecidableEq κ] (h : (items.map key).Nodup)
    (k : κ) : items.eraseP (fun a => key a == k) = items.filter fun a => !(key a == k) := by
  induction items with
  | nil => rfl
  | cons a rest ih =>
    rw [map_cons, nodup_cons] at h
    by_cases hkey : key a = k
    · have hrest : ∀ b ∈ rest, (!(key b == k)) = true := by
        intro b hb
        have hne : key b ≠ k := fun heq => h.1 (by rw [hkey, ← heq]; exact mem_map_of_mem hb)
        simpa using hne
      rw [eraseP_cons_of_pos (by simpa using hkey), filter_cons_of_neg (by simpa using hkey), filter_eq_self.mpr hrest]
    · rw [eraseP_cons_of_neg (by simpa using hkey), filter_cons_of_pos (by simpa using hkey), ih h.2]

theorem filter_key_eq_singleton [DecidableEq κ] (h : (items.map key).Nodup) (ha : a ∈ items) :
    items.filter (fun b => decide (key b = key a)) = [a] := by
  induction items with
  | nil => cases ha
  | cons b rest ih =>
    rw [map_cons, nodup_cons] at h
    rcases mem_cons.mp ha with rfl | hrest
    · have hnone : rest.filter (fun b => decide (key b = key a)) = [] := by
        rw [filter_eq_nil_iff]
        intro c hc hkey
        exact h.1 (mem_map.mpr ⟨c, hc, of_decide_eq_true hkey⟩)
      rw [filter_cons_of_pos (by simp), hnone]
    · have hne : key b ≠ key a := fun heq => h.1 (heq ▸ mem_map_of_mem hrest)
      rw [filter_cons_of_neg (by simpa using hne), ih h.2 hrest]

theorem filter_eq_find?_toList {p : α → Bool} (h : items.countP p ≤ 1) : items.filter p = (items.find? p).toList := by
  rw [← head?_filter]
  rw [countP_eq_length_filter] at h
  match items.filter p, h with
  | [], _ | [_], _ => rfl

theorem length_filter_ne [DecidableEq α] (items : List α) (a : α) :
    (items.filter (· ≠ a)).length + items.count a = items.length := by
  rw [items.length_eq_countP_add_countP (· == a), ← countP_eq_length_filter, Nat.add_comm, count]
  simp

/-- With distinct keys, as many elements have a key among `keys` as there are keys, if all of them occur. -/
theorem countP_key_mem [DecidableEq κ] {keys : List κ} (hitems : (items.map key).Nodup) (hkeys : keys.Nodup)
    (hoccur : keys ⊆ items.map key) : items.countP (fun a => decide (key a ∈ keys)) = keys.length := by
  have hcount : items.countP (fun a => decide (key a ∈ keys)) =
      ((items.map key).filter fun k => decide (k ∈ keys)).length := by
    rw [← countP_eq_length_filter, countP_map]
    rfl
  rw [hcount]
  refine ((perm_ext_iff_of_nodup (hitems.filter _) hkeys).mpr fun k => ?_).length_eq
  rw [mem_filter, decide_eq_true_eq]
  exact ⟨And.right, fun hk => ⟨hoccur hk, hk⟩⟩

/-- In a list sorted by key, the elements below a bound are an initial segment. -/
theorem takeWhile_lt_eq_filter {key : α → Nat} (h : (items.map key).Pairwise (· ≤ ·)) (bound : Nat) :
    items.takeWhile (fun a => decide (key a < bound)) = items.filter fun a => decide (key a < bound) := by
  induction items with
  | nil => rfl
  | cons a rest ih =>
    rw [map_cons, pairwise_cons] at h
    by_cases hkey : key a < bound
    · rw [takeWhile_cons_of_pos (by simpa using hkey), filter_cons_of_pos (by simpa using hkey), ih h.2]
    · rw [takeWhile_cons_of_neg (by simpa using hkey), filter_cons_of_neg (by simpa using hkey),
        eq_comm, filter_eq_nil_iff]
      intro b hb hbelow
      have hle := h.1 (key b) (mem_map_of_mem hb)
      exact hkey (Nat.lt_of_le_of_lt hle (of_decide_eq_true hbelow))

theorem pairwise_append_of_le {left right : List Nat} (middle : Nat)
    (hleft : left.Pairwise (· ≤ ·)) (hright : right.Pairwise (· ≤ ·))
    (hbelow : ∀ a ∈ left, a ≤ middle) (habove : ∀ b ∈ right, middle ≤ b) : (left ++ right).Pairwise (· ≤ ·) :=
  pairwise_append.mpr ⟨hleft, hright, fun a ha b hb => (hbelow a ha).trans (habove b hb)⟩

theorem orderedInsert_eq_append {r : α → α → Prop} [DecidableRel r]
    (h : ∀ b ∈ items, ¬r a b) : items.orderedInsert r a = items ++ [a] := by
  have hpass : ∀ b ∈ items, decide (¬r a b) = true := fun b hb => decide_eq_true (h b hb)
  rw [orderedInsert_eq_take_drop, takeWhile_eq_self_iff.mpr hpass, dropWhile_eq_nil_iff.mpr hpass]

theorem pairwise_orderedInsert [LinearOrder κ] {r : α → α → Prop} [DecidableRel r] (hr : ∀ a b, r a b ↔ key a ≤ key b)
    (h : items.Pairwise fun b c => key b < key c) (hfresh : ∀ b ∈ items, key b ≠ key a) :
    (items.orderedInsert r a).Pairwise fun b c => key b < key c := by
  induction items with
  | nil => exact pairwise_singleton _ a
  | cons b rest ih =>
    obtain ⟨hbelow, hrest⟩ := pairwise_cons.mp h
    obtain ⟨hne, hfresh⟩ := forall_mem_cons.mp hfresh
    rw [orderedInsert_cons]
    split
    · rename_i hle
      have hlt : key a < key b := lt_of_le_of_ne ((hr a b).mp hle) hne.symm
      exact pairwise_cons.mpr ⟨forall_mem_cons.mpr ⟨hlt, fun c hc => hlt.trans (hbelow c hc)⟩, h⟩
    · rename_i hle
      refine pairwise_cons.mpr ⟨fun c hc => ?_, ih hrest hfresh⟩
      rcases (mem_orderedInsert r).mp hc with rfl | hold
      · exact not_le.mp fun hcb => hle ((hr c b).mpr hcb)
      · exact hbelow c hold

section

variable {key : α → Nat} (h : (items.map key).Pairwise (· ≤ ·))
include h

theorem insertionSort_eq_self : items.insertionSort (fun a b => key a ≤ key b) = items :=
  (pairwise_map.mp h).insertionSort_eq

theorem filter_insertionSort_append (extra : α) (keep : α → Bool) (hextra : keep extra = false) :
    ((items ++ [extra]).insertionSort fun a b => key a ≤ key b).filter keep = items.filter keep := by
  have hsorted : items.Pairwise fun a b => key a ≤ key b := pairwise_map.mp h
  have hsub := (sublist_insertionSort hsorted (sublist_append_left items [extra])).filter keep
  have hlength : (items.filter keep).length =
      (((items ++ [extra]).insertionSort fun a b => key a ≤ key b).filter keep).length := by
    rw [((perm_insertionSort _ (items ++ [extra])).filter keep).length_eq]
    simp [filter_append, hextra]
  exact (hsub.eq_of_length hlength).symm

end

/-! ### Two lists in step -/

section Forall₂

variable {R : α → β → Prop} {left : List α} {right : List β}

theorem exists_of_forall₂ (h : Forall₂ R left right) (ha : a ∈ left) : ∃ b ∈ right, R a b := by
  induction h with
  | nil => cases ha
  | @cons a' b' _ _ hab _ ih =>
    rcases mem_cons.mp ha with rfl | ha
    · exact ⟨b', mem_cons_self, hab⟩
    · obtain ⟨b, hb, hR⟩ := ih ha
      exact ⟨b, mem_cons_of_mem b' hb, hR⟩

theorem map_eq_of_forall₂ {key' : β → κ} (hkey : ∀ a b, R a b → key a = key' b)
    (h : Forall₂ R left right) : left.map key = right.map key' := by
  induction h with
  | nil => rfl
  | cons hab _ ih => rw [map_cons, map_cons, hkey _ _ hab, ih]

section

variable {key : α → Nat} {key' : β → Nat} (hkey : ∀ a b, R a b → key a = key' b)
include hkey

theorem forall₂_orderedInsert {x : α} {y : β} (hxy : R x y) (h : Forall₂ R left right) :
    Forall₂ R (left.orderedInsert (fun a b => key a ≤ key b) x)
      (right.orderedInsert (fun a b => key' a ≤ key' b) y) := by
  induction h with
  | nil => exact .cons hxy .nil
  | @cons a b _ _ hab hrest ih =>
    rw [orderedInsert, orderedInsert, hkey x y hxy, hkey a b hab]
    split
    · exact .cons hxy (.cons hab hrest)
    · exact .cons hab ih

theorem forall₂_insertionSort (h : Forall₂ R left right) : Forall₂ R (left.insertionSort fun a b => key a ≤ key b)
      (right.insertionSort fun a b => key' a ≤ key' b) := by
  induction h with
  | nil => exact .nil
  | cons hab _ ih => exact forall₂_orderedInsert hkey hab ih

end

theorem forall₂_replace [DecidableEq κ] {key' : β → κ}
    (hkey : ∀ a b, R a b → key a = key' b) (k : κ) {x : α} {y : β} (hxy : R x y)
    (h : Forall₂ R left right) : Forall₂ R (left.map fun a => if key a = k then x else a)
      (right.map fun b => if key' b = k then y else b) := by
  induction h with
  | nil => exact .nil
  | @cons a b _ _ hab _ ih =>
    rw [map_cons, map_cons, hkey a b hab]
    split
    · exact .cons hxy ih
    · exact .cons hab ih

end Forall₂

end Keyed
