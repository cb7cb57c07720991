import Mathlib.Data.List.Dedup
import Mathlib.Data.List.Range

/-!
# A log seen through a window

A log gives every entry the next position and a key, and forgets what lies below a floor. Keys
belong to transactions, which come in order. A step appends entries of one transaction and may raise
the floor; positions stay contiguous, keys increase, and no transaction number comes back.
-/

/-- The visible part of a log: the entries from the floor on, and the first transaction number not used yet. -/
structure WindowLog (κ : Type) where
  floor : Nat
  entries : List (Nat × κ)
  next : Nat

namespace WindowLog

open List Prod

variable {κ : Type} [LT κ] {major : κ → Nat}

def stop (w : WindowLog κ) : Nat := w.floor + w.entries.length

def OneTransaction (major : κ → Nat) (number : Nat) (keys : List κ) : Prop :=
  keys.Pairwise (· < ·) ∧ ∀ key ∈ keys, major key = number

theorem OneTransaction.single (key : κ) : OneTransaction major (major key) [key] :=
  ⟨pairwise_singleton _ _, by simp⟩

/-- Contiguous positions from the floor on, increasing keys, used transactions only. -/
structure WellFormed (major : κ → Nat) (w : WindowLog κ) : Prop where
  positions : w.entries.map fst = range' w.floor w.entries.length
  increasing : (w.entries.map snd).Pairwise (· < ·)
  used : ∀ key ∈ w.entries.map snd, major key < w.next

/-- One step: `new` entries of one transaction at the end, and a floor that may have risen. -/
structure Step (major : κ → Nat) (w w' : WindowLog κ) (new : List (Nat × κ)) : Prop where
  entries : w'.entries = (w.entries ++ new).filter fun entry => w'.floor ≤ entry.1
  positions : new.map fst = range' w.stop new.length
  transaction : ∃ number, w.next ≤ number ∧ OneTransaction major number (new.map snd) ∧ (new ≠ [] → number < w'.next)
  next : w.next ≤ w'.next
  floor : w.floor ≤ w'.floor
  floorBound : w'.floor ≤ w.stop + new.length

theorem filter_le_range' {start count floor : Nat} (hlow : start ≤ floor) (hhigh : floor ≤ start + count) :
    (range' start count).filter (floor ≤ ·) = range' floor (start + count - floor) := by
  obtain ⟨drop, rfl⟩ := Nat.exists_eq_add_of_le hlow
  obtain ⟨rest, hrest⟩ := Nat.exists_eq_add_of_le hhigh
  obtain rfl : count = drop + rest := by omega
  rw [← range'_append_1, filter_append, filter_eq_nil_iff.mpr, nil_append, filter_eq_self.mpr]
  · congr 1
    omega
  · simp only [mem_range'_1, decide_eq_true_eq]
    exact fun _ h => h.1
  · simp only [mem_range'_1, decide_eq_true_eq]
    omega

variable {w w' : WindowLog κ} {new : List (Nat × κ)}

theorem WellFormed.append_positions (hw : w.WellFormed major) (hnew : new.map fst = range' w.stop new.length) :
    (w.entries ++ new).map fst = range' w.floor (w.entries.length + new.length) := by
  rw [map_append, hw.positions, hnew, stop, range'_append_1]

theorem Step.kept (h : Step major w w' new) (hw : w.WellFormed major) :
    w'.entries.map fst = range' w'.floor (w.stop + new.length - w'.floor) := by
  have hspan : w.stop + new.length = w.floor + (w.entries.length + new.length) := Nat.add_assoc _ _ _
  have hmap := filter_map (f := fst) (l := w.entries ++ new) (p := fun position => decide (w'.floor ≤ position))
  rw [h.entries, hspan, ← filter_le_range' h.floor (hspan ▸ h.floorBound), ← hw.append_positions h.positions, hmap]
  rfl

/-- The end of the log moves by what was appended, whatever the floor does. -/
theorem Step.stop_eq (h : Step major w w' new) (hw : w.WellFormed major) : w'.stop = w.stop + new.length := by
  have hlength : w'.entries.length = w.stop + new.length - w'.floor := by
    rw [← length_map (f := fst), h.kept hw, length_range']
  have hbound := h.floorBound
  rw [stop, hlength]
  omega

theorem Step.wellFormed (hmajor : ∀ a b : κ, major a < major b → a < b) (h : Step major w w' new)
    (hw : w.WellFormed major) : w'.WellFormed major := by
  obtain ⟨number, hnext, ⟨hnew, hnumber⟩, hused⟩ := h.transaction
  -- Everything new carries a number that nothing old can have.
  have hordered : ((w.entries ++ new).map snd).Pairwise (· < ·) := by
    rw [map_append, pairwise_append]
    refine ⟨hw.increasing, hnew, fun old hold key hkey => hmajor old key ?_⟩
    rw [hnumber key hkey]
    exact Nat.lt_of_lt_of_le (hw.used old hold) hnext
  have hbelow : ∀ key ∈ (w.entries ++ new).map snd, major key < w'.next := by
    intro key hkey
    rw [map_append, mem_append] at hkey
    rcases hkey with hold | hfresh
    · exact Nat.lt_of_lt_of_le (hw.used key hold) h.next
    · have hne : new ≠ [] := by
        rintro rfl
        cases hfresh
      rw [hnumber key hfresh]
      exact hused hne
  have hsub : (w'.entries.map snd).Sublist ((w.entries ++ new).map snd) := by
    rw [h.entries]
    exact filter_sublist.map _
  have hlength : w'.entries.length = w.stop + new.length - w'.floor := by
    rw [← length_map (f := fst), h.kept hw, length_range']
  exact {
    positions := by rw [h.kept hw, hlength]
    increasing := hordered.sublist hsub
    used := fun key hkey => hbelow key (hsub.subset hkey) }

theorem Step.append (hw : w.WellFormed major) (hentries : w'.entries = w.entries ++ new)
    (hfloor : w'.floor = w.floor) (hplaces : new.map fst = range' w.stop new.length)
    (htransaction : ∃ number, w.next ≤ number ∧ OneTransaction major number (new.map snd) ∧
      (new ≠ [] → number < w'.next)) (hnext : w.next ≤ w'.next) : Step major w w' new where
  entries := by
    have hall : ∀ position ∈ (w.entries ++ new).map fst, w.floor ≤ position := by
      intro position hplace
      rw [hw.append_positions hplaces, mem_range'_1] at hplace
      exact hplace.1
    rw [hentries, hfloor, filter_eq_self.mpr]
    intro entry hentry
    exact decide_eq_true (hall entry.1 (mem_map_of_mem hentry))
  positions := hplaces
  transaction := htransaction
  next := hnext
  floor := hfloor.ge
  floorBound := by
    rw [hfloor, stop]
    omega

theorem Step.refl (hw : w.WellFormed major) : Step major w w [] :=
  .append hw (append_nil _).symm rfl rfl
    ⟨w.next, Nat.le_refl _, ⟨Pairwise.nil, by simp⟩, fun h => absurd rfl h⟩ (Nat.le_refl _)

theorem WellFormed.key_lt (hw : w.WellFormed major) {a b : Nat × κ} (ha : a ∈ w.entries)
    (hb : b ∈ w.entries) (hlt : a.1 < b.1) : a.2 < b.2 := by
  have hplaces : w.entries.Pairwise fun a b => a.1 < b.1 := by
    rw [← pairwise_map (f := fst), hw.positions]
    exact pairwise_lt_range'
  have hkeys : w.entries.Pairwise fun a b => a.2 < b.2 := pairwise_map.mp hw.increasing
  -- Of two entries one comes first, and only that one can have the smaller position.
  have hforward : w.entries.Pairwise fun a b => a.1 < b.1 → a.2 < b.2 := by
    refine Pairwise.imp ?_ hkeys
    intro a b hkey _
    exact hkey
  have hbackward : w.entries.Pairwise (flip fun a b => a.1 < b.1 → a.2 < b.2) := by
    refine Pairwise.imp ?_ hplaces
    intro a b hplace hback
    exact absurd hback (Nat.lt_asymm hplace)
  exact Pairwise.forall_of_forall_of_flip (fun _ _ h => absurd h (Nat.lt_irrefl _)) hforward hbackward ha hb hlt

/-! ### Transaction numbers -/

/-- The numbers of the transactions behind the entries from a position on, each once. -/
def numbersFrom (major : κ → Nat) (w : WindowLog κ) (position : Nat) : List Nat :=
  ((w.entries.filter fun entry => position ≤ entry.1).map fun entry => major entry.2).dedup

/-- A history of transaction numbers: none twice, all of them used, and every visible entry's among them. -/
structure Recorded (major : κ → Nat) (w : WindowLog κ) (issued : List Nat) : Prop where
  nodup : issued.Nodup
  used : ∀ number ∈ issued, number < w.next
  complete : ∀ entry ∈ w.entries, major entry.2 ∈ issued

omit [LT κ] in
theorem mem_numbersFrom {position number : Nat} : number ∈ numbersFrom major w position ↔
      ∃ entry ∈ w.entries, position ≤ entry.1 ∧ major entry.2 = number := by
  simp only [numbersFrom, mem_dedup, mem_map, mem_filter, decide_eq_true_eq, and_assoc]

theorem WellFormed.recorded (hw : w.WellFormed major) : Recorded major w (numbersFrom major w 0) where
  nodup := nodup_dedup _
  used := by
    intro number hnumber
    obtain ⟨entry, hentry, -, rfl⟩ := mem_numbersFrom.mp hnumber
    exact hw.used entry.2 (mem_map_of_mem hentry)
  complete := fun entry hentry => mem_numbersFrom.mpr ⟨entry, hentry, Nat.zero_le _, rfl⟩

/-- The entries behind the old end are new, so their number was not used before the step and is after it. -/
theorem Step.numbersFrom_stop (h : Step major w w' new) (hw : w.WellFormed major) {number : Nat}
    (hnumber : number ∈ numbersFrom major w' w.stop) : w.next ≤ number ∧ number < w'.next := by
  obtain ⟨issued, hnext, ⟨-, hkeys⟩, hused⟩ := h.transaction
  obtain ⟨entry, hmem, hstop, rfl⟩ := mem_numbersFrom.mp hnumber
  rw [h.entries, mem_filter, mem_append] at hmem
  rcases hmem.1 with hold | hfresh
  · have hplace : entry.1 ∈ w.entries.map fst := mem_map_of_mem hold
    rw [hw.positions, mem_range'_1] at hplace
    exact absurd hstop (Nat.not_le.mpr hplace.2)
  · rw [hkeys entry.2 (mem_map_of_mem hfresh)]
    exact ⟨hnext, hused (ne_nil_of_mem hfresh)⟩

/-- A step adds the number of its own transaction to the history, which has not had it before. -/
theorem Step.recorded {issued : List Nat} (h : Step major w w' new) (hw : w.WellFormed major)
    (hrec : Recorded major w issued) : Recorded major w' (issued ++ numbersFrom major w' w.stop) where
  nodup := by
    refine nodup_append'.mpr ⟨hrec.nodup, nodup_dedup _, fun number hold hfresh => ?_⟩
    exact absurd (hrec.used number hold) (Nat.not_lt.mpr (h.numbersFrom_stop hw hfresh).1)
  used := by
    intro number hnumber
    rcases mem_append.mp hnumber with hold | hfresh
    · exact Nat.lt_of_lt_of_le (hrec.used number hold) h.next
    · exact (h.numbersFrom_stop hw hfresh).2
  complete := by
    intro entry hentry
    rw [mem_append]
    by_cases hstop : w.stop ≤ entry.1
    · exact Or.inr (mem_numbersFrom.mpr ⟨entry, hentry, hstop, rfl⟩)
    · rw [h.entries, mem_filter, mem_append] at hentry
      rcases hentry.1 with hold | hfresh
      · exact Or.inl (hrec.complete entry hold)
      · have hplace : entry.1 ∈ new.map fst := mem_map_of_mem hfresh
        rw [h.positions, mem_range'_1] at hplace
        exact absurd hplace.1 hstop

end WindowLog
