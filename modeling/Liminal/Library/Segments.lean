import Liminal.Library.Checked
import Mathlib.Data.List.Range
import Mathlib.Data.List.Nodup
import Mathlib.Algebra.BigOperators.Group.List.Basic

/-!
# Segments that tile an interval

A segment is a run of consecutive positions. `Tiles segments start count`: the positions of the
segments are a permutation of `start .. start + count - 1`. As a permutation it composes: appending,
shifting, reordering and consuming the first position each have a one-line rule.
-/

structure Segment where
  (start length : Nat)

namespace Segment

def positions (s : Segment) : List Nat := List.range' s.start s.length

def single (position : Nat) : Segment := ⟨position, 1⟩

def Disjoint (s t : Segment) : Prop := ∀ p, p ∈ s.positions → p ∉ t.positions

end Segment

def segmentPositions (segments : List Segment) : List Nat := segments.flatMap Segment.positions

@[simp] theorem segmentPositions_nil : segmentPositions [] = [] := rfl

@[simp] theorem segmentPositions_cons (s : Segment) (segments : List Segment) :
    segmentPositions (s :: segments) = s.positions ++ segmentPositions segments := rfl

@[simp] theorem segmentPositions_append (left right : List Segment) :
    segmentPositions (left ++ right) = segmentPositions left ++ segmentPositions right :=
  List.flatMap_append

theorem mem_segmentPositions {segments : List Segment} {p : Nat} :
    p ∈ segmentPositions segments ↔ ∃ s ∈ segments, p ∈ s.positions :=
  List.mem_flatMap

/-- The segments cover `start .. start + count - 1`, each position once. -/
def Tiles (segments : List Segment) (start count : Nat) : Prop :=
  (segmentPositions segments).Perm (List.range' start count)

namespace Tiles

variable {segments left right : List Segment} {start count more : Nat}

theorem nil (start : Nat) : Tiles [] start 0 := by
  simp [Tiles]

theorem one (s : Segment) : Tiles [s] s.start s.length := by
  simp [Tiles, Segment.positions]

theorem append (hl : Tiles left start count) (hr : Tiles right (start + count) more) :
    Tiles (left ++ right) start (count + more) := by
  unfold Tiles
  rw [segmentPositions_append, ← List.range'_append_1]
  exact List.Perm.append hl hr

theorem length_sum (h : Tiles segments start count) : (segments.map Segment.length).sum = count := by
  have hlen : (segmentPositions segments).length = (segments.map Segment.length).sum := by
    simp [segmentPositions, List.length_flatMap, Segment.positions]
  have hcount := h.length_eq
  rw [hlen, List.length_range'] at hcount
  exact hcount

end Tiles

theorem Tiles.singles {α : Type} {items : List α} {position : α → Nat} {start : Nat}
    (h : items.map position = List.range' start items.length) :
    Tiles (items.map fun item => Segment.single (position item)) start items.length := by
  have hplaces : segmentPositions (items.map fun item => Segment.single (position item)) =
      items.map position := by
    rw [segmentPositions, List.flatMap_map, List.map_eq_flatMap]
    rfl
  unfold Tiles
  rw [hplaces, h]

/-- Pairwise disjoint segments whose union is exactly `start .. start + count - 1`. -/
structure IsPartition (segments : List Segment) (start count : Nat) : Prop where
  disjoint : segments.Pairwise Segment.Disjoint
  covers : ∀ p, (∃ s ∈ segments, p ∈ s.positions) ↔ start ≤ p ∧ p < start + count

theorem Tiles.isPartition {segments : List Segment} {start count : Nat}
    (h : Tiles segments start count) : IsPartition segments start count where
  disjoint := by
    have hnodup : (segmentPositions segments).Nodup := h.nodup_iff.mpr (List.nodup_range')
    have hpair := (List.nodup_flatMap.mp hnodup).2
    exact hpair.imp fun hdisjoint p hs ht => hdisjoint hs ht
  covers p := by
    rw [← mem_segmentPositions, h.mem_iff, List.mem_range'_1]

/-! ### Handing out runs of equal length

A cursor gives each item of a list `length` positions, and `place` builds what the item becomes at
its start. `takeEach` refuses as soon as the cursor itself leaves the range.
-/

section LayEach

open List

variable {α β γ : Type} {place : Nat → α → β} {length cursor : Nat} {items : List α} {start : β → Nat}

def layEach (place : Nat → α → β) (length : Nat) : Nat → List α → List β
  | _, [] => []
  | cursor, a :: rest => place cursor a :: layEach place length (cursor + length) rest

def takeEach (limit : Nat) (place : Nat → α → β) (length : Nat) : Nat → List α → Option (List β × Nat)
  | cursor, [] => some ([], cursor)
  | cursor, a :: rest =>
    if cursor + length ≤ limit then
      (takeEach limit place length (cursor + length) rest).map fun (placed, last) =>
        (place cursor a :: placed, last)
    else none

theorem takeEach_eq_some {limit last : Nat} {placed : List β} (hcursor : cursor ≤ limit) :
    takeEach limit place length cursor items = some (placed, last) ↔
      cursor + items.length * length ≤ limit ∧ placed = layEach place length cursor items ∧
        last = cursor + items.length * length := by
  induction items generalizing cursor placed last with
  | nil =>
    simp only [takeEach, layEach, Option.some.injEq, Prod.mk.injEq, length_nil, Nat.zero_mul, Nat.add_zero]
    exact ⟨fun h => ⟨hcursor, h.1.symm, h.2.symm⟩, fun h => ⟨h.2.1.symm, h.2.2.symm⟩⟩
  | cons a rest ih =>
    have hsum : cursor + (rest.length + 1) * length = cursor + length + rest.length * length := by
      rw [Nat.succ_mul]
      omega
    simp only [takeEach, layEach, length_cons, hsum]
    split
    · rename_i hstep
      simp only [Option.map_eq_some_iff, Prod.exists, Prod.mk.injEq, ih hstep]
      constructor
      · rintro ⟨tail, _, ⟨hle, rfl, rfl⟩, rfl, rfl⟩
        exact ⟨hle, rfl, rfl⟩
      · rintro ⟨hle, rfl, rfl⟩
        exact ⟨_, _, ⟨hle, rfl, rfl⟩, rfl, rfl⟩
    · simp only [reduceCtorEq, false_iff]
      omega

theorem takeEach_of_le {limit : Nat} (h : cursor + items.length * length ≤ limit) :
    takeEach limit place length cursor items =
      some (layEach place length cursor items, cursor + items.length * length) :=
  (takeEach_eq_some (by omega)).mpr ⟨h, rfl, rfl⟩

variable (place length cursor items)

@[simp] theorem layEach_length : (layEach place length cursor items).length = items.length := by
  induction items generalizing cursor with
  | nil => rfl
  | cons a rest ih => simp [layEach, ih]

theorem layEach_append (left right : List α) :
    layEach place length cursor (left ++ right) = layEach place length cursor left ++
        layEach place length (cursor + left.length * length) right := by
  induction left generalizing cursor with
  | nil => simp [layEach]
  | cons a rest ih =>
    rw [cons_append, layEach, layEach, ih, cons_append, length_cons, Nat.succ_mul,
      Nat.add_assoc cursor length, Nat.add_comm length]

theorem map_layEach (f : β → γ) (g : α → γ) (hf : ∀ start a, f (place start a) = g a) :
    (layEach place length cursor items).map f = items.map g := by
  induction items generalizing cursor with
  | nil => rfl
  | cons a rest ih => simp [layEach, hf, ih]

theorem filterMap_layEach (f : β → Option γ) (g : α → Option γ) (hf : ∀ start a, f (place start a) = g a) :
    (layEach place length cursor items).filterMap f = items.filterMap g := by
  induction items generalizing cursor with
  | nil => rfl
  | cons a rest ih => simp [layEach, filterMap_cons, hf, ih]

theorem layEach_comp (place : Nat → γ → β) (read : α → γ) (length cursor : Nat) (items : List α) :
    layEach (fun start a => place start (read a)) length cursor items =
      layEach place length cursor (items.map read) := by
  induction items generalizing cursor with
  | nil => rfl
  | cons a rest ih => rw [layEach, map_cons, layEach, ih]

/-- Moving everything that was placed up by `delta` is placing it `delta` higher. -/
theorem map_shift_layEach (place : Nat → α → β) (length cursor delta : Nat) (items : List α)
    (shift : β → β) (hshift : ∀ start a, shift (place start a) = place (start + delta) a) :
    (layEach place length cursor items).map shift = layEach place length (cursor + delta) items := by
  induction items generalizing cursor with
  | nil => rfl
  | cons a rest ih =>
    simp only [layEach, map_cons, hshift, ih]
    rw [Nat.add_right_comm]

theorem tiles_layEach (segment : β → Segment) (hsegment : ∀ start a, segment (place start a) = ⟨start, length⟩) :
    Tiles ((layEach place length cursor items).map segment) cursor (items.length * length) := by
  induction items generalizing cursor with
  | nil =>
    rw [length_nil, Nat.zero_mul]
    exact Tiles.nil cursor
  | cons a rest ih =>
    have hcount : (rest.length + 1) * length = length + rest.length * length := by
      rw [Nat.succ_mul, Nat.add_comm]
    simp only [layEach, map_cons, hsegment, length_cons, hcount]
    exact (Tiles.one ⟨cursor, length⟩).append (ih (cursor + length))

/-- Placing again what survives of a layout is laying out the surviving items. -/
theorem layEach_filter_layEach (place : Nat → α → β) (replace : Nat → β → γ) (place' : Nat → α → γ)
    (length length' cursor cursor' : Nat) (items : List α) (keep : β → Bool) (keep' : α → Bool)
    (hkeep : ∀ start, ∀ a ∈ items, keep (place start a) = keep' a)
    (hreplace : ∀ start' start a, replace start' (place start a) = place' start' a) :
    layEach replace length' cursor' ((layEach place length cursor items).filter keep) =
      layEach place' length' cursor' (items.filter keep') := by
  induction items generalizing cursor cursor' with
  | nil => rfl
  | cons a rest ih =>
    have hhead : keep (place cursor a) = keep' a := hkeep cursor a mem_cons_self
    have htail := fun c c' => ih c c' fun start b hb => hkeep start b (mem_cons_of_mem a hb)
    rw [layEach, filter_cons, filter_cons, hhead]
    cases keep' a with
    | true => simp only [↓reduceIte, layEach, hreplace, htail]
    | false =>
      exact htail _ _

theorem filter_layEach_length (keep : β → Bool) (keep' : α → Bool)
    (hkeep : ∀ start, ∀ a ∈ items, keep (place start a) = keep' a) :
    ((layEach place length cursor items).filter keep).length = (items.filter keep').length := by
  have h := layEach_filter_layEach place (fun _ _ => ()) (fun _ _ => ()) length 0 cursor 0 items keep
    keep' hkeep fun _ _ _ => rfl
  simpa using congrArg List.length h

variable {place length cursor items}

theorem start_of_mem_layEach (hstart : ∀ s a, start (place s a) = s) {b : β}
    (h : b ∈ layEach place length cursor items) : cursor ≤ start b ∧ start b ≤ cursor + items.length * length := by
  induction items generalizing cursor with
  | nil => cases h
  | cons a rest ih =>
    rw [length_cons, Nat.succ_mul]
    rcases mem_cons.mp h with rfl | h
    · rw [hstart]
      omega
    · have := ih h
      omega

theorem map_start_layEach (hstart : ∀ s a, start (place s a) = s) :
    (layEach place 1 cursor items).map start = range' cursor items.length := by
  induction items generalizing cursor with
  | nil => rfl
  | cons a rest ih => rw [layEach, map_cons, hstart, ih, length_cons, range'_succ]

theorem mem_layEach {b : β} (h : b ∈ layEach place length cursor items) : ∃ start, ∃ a ∈ items, b = place start a := by
  induction items generalizing cursor with
  | nil => cases h
  | cons a rest ih =>
    rcases mem_cons.mp h with rfl | h
    · exact ⟨cursor, a, mem_cons_self, rfl⟩
    · obtain ⟨start, item, hitem, rfl⟩ := ih h
      exact ⟨start, item, mem_cons_of_mem a hitem, rfl⟩

theorem pairwise_layEach (hstart : ∀ s a, start (place s a) = s) :
    (layEach place length cursor items).Pairwise fun b c => start b ≤ start c := by
  induction items generalizing cursor with
  | nil => exact Pairwise.nil
  | cons a rest ih =>
    refine Pairwise.cons (fun b hb => ?_) ih
    have hbound := start_of_mem_layEach hstart hb
    rw [hstart]
    omega

end LayEach

/-! ### Handing out runs of different lengths

The same cursor over items that say how many positions they need. In the checked form the cursor is
gone once it would leave the range; that refuses only what comes after.
-/

section LayBy

open Checked List

variable {α β γ : Type} {limit a b : Nat}

def layBy (length : α → Nat) (place : Nat → α → β) : Nat → List α → List β
  | _, [] => []
  | cursor, a :: rest => place cursor a :: layBy length place (cursor + length a) rest

def takeBy (limit : Nat) (length : α → Nat) (place : Nat → α → β) : Option Nat → List α → Option (List β)
  | _, [] => some []
  | none, _ :: _ => none
  | some cursor, a :: rest =>
    if 1 ≤ cursor + length a ∧ cursor + length a - 1 ≤ limit then
      (takeBy limit length place (add limit cursor (length a)) rest).map (place cursor a :: ·)
    else none

variable {length : α → Nat} {place : Nat → α → β}

theorem takeBy_eq_some {items : List α} {placed : List β} (h : takeBy limit length place (add limit a b) items =
    some placed) : placed = layBy length place (a + b) items := by
  induction items generalizing a b placed with
  | nil =>
    simp only [takeBy, Option.some.injEq] at h
    exact h.symm
  | cons item rest ih =>
    by_cases hfits : a + b ≤ limit
    · rw [add_of_le hfits, takeBy] at h
      split at h
      · obtain ⟨tail, htail, rfl⟩ := Option.map_eq_some_iff.mp h
        rw [ih htail, layBy]
      · cases h
    · rw [add_eq_none.mpr (Nat.lt_of_not_le hfits), takeBy] at h
      cases h

theorem takeBy_of_le {items : List α}
    (hpositive : ∀ item ∈ items, 1 ≤ length item) (h : a + b + (items.map length).sum ≤ limit + 1) :
    takeBy limit length place (add limit a b) items = some (layBy length place (a + b) items) := by
  induction items generalizing a b with
  | nil => rfl
  | cons item rest ih =>
    have hitem := hpositive item mem_cons_self
    rw [map_cons, sum_cons] at h
    rw [add_of_le (by omega), takeBy, if_pos (by omega),
      ih (fun x hx => hpositive x (mem_cons_of_mem item hx)) (by omega)]
    rfl

theorem layBy_append (length : α → Nat) (place : Nat → α → β) (cursor : Nat) (left right : List α) :
    layBy length place cursor (left ++ right) = layBy length place cursor left ++
        layBy length place (cursor + (left.map length).sum) right := by
  induction left generalizing cursor with
  | nil => simp [layBy]
  | cons a rest ih =>
    rw [cons_append, layBy, layBy, ih, cons_append, map_cons, sum_cons, Nat.add_assoc]

theorem layBy_map (length : α → Nat) (place : Nat → α → β) (cursor : Nat) (wrap : γ → α) (n : Nat)
    (hlength : ∀ x, length (wrap x) = n) (items : List γ) : layBy length place cursor (items.map wrap) =
      layEach (fun start x => place start (wrap x)) n cursor items := by
  induction items generalizing cursor with
  | nil => rfl
  | cons x rest ih => rw [map_cons, layBy, layEach, hlength, ih]

theorem map_length_layBy {length' : β → Nat} (hlength : ∀ start a, length' (place start a) = length a) (cursor : Nat)
    (items : List α) : (layBy length place cursor items).map length' = items.map length := by
  induction items generalizing cursor with
  | nil => rfl
  | cons a rest ih => rw [layBy, map_cons, map_cons, hlength, ih]

theorem sum_map_const (length : α → Nat) (wrap : γ → α) (n : Nat) (hlength : ∀ x, length (wrap x) = n)
    (items : List γ) : ((items.map wrap).map length).sum = items.length * n := by
  simp [map_map, Function.comp_def, hlength]

theorem layEach_map (place : Nat → α → β) (wrap : β → γ) (n cursor : Nat) (items : List α) :
    layEach (fun start a => wrap (place start a)) n cursor items = (layEach place n cursor items).map wrap := by
  induction items generalizing cursor with
  | nil => rfl
  | cons a rest ih => rw [layEach, layEach, map_cons, ih]

end LayBy
