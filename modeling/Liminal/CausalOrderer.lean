import Mathlib.Data.List.Basic

/-!
# The causal orderer

An envelope waits until its parent is emitted, or until it has waited for the timeout and no
buffered envelope is its parent. The buffer is one list with the parent each envelope waits for, in
the order of submission; the source groups it by parent in a hash map.
-/

namespace Liminal.Causal

open List

structure Envelope where
  messageId : Nat
  directParent : Option Nat

structure OrderedEnvelope where
  envelope : Envelope
  orphaned : Bool

structure BufferedEnvelope where
  parent : Nat
  envelope : Envelope
  bufferedAt : Nat

def BufferedEnvelope.isExpired (item : BufferedEnvelope) (now orphanTimeout : Nat) : Bool :=
  orphanTimeout ≤ now - item.bufferedAt

structure CausalOrderer where
  emitted : List Nat
  buffered : List BufferedEnvelope
  orphanTimeout : Nat

def bufferedMessageIds (buffered : List BufferedEnvelope) : List Nat := buffered.map (·.envelope.messageId)

namespace CausalOrderer

def new (orphanTimeout : Nat) : CausalOrderer := ⟨[], [], orphanTimeout⟩

variable (o : CausalOrderer)

def children (id : Nat) : List OrderedEnvelope :=
  (o.buffered.filter (·.parent = id)).map fun item => ⟨item.envelope, false⟩

def emit (id : Nat) : CausalOrderer :=
  { o with emitted := id :: o.emitted, buffered := o.buffered.filter fun item => ¬item.parent = id }

theorem length_emit_add (id : Nat) : (o.emit id).buffered.length + (o.children id).length = o.buffered.length := by
  simpa [emit, children, Nat.add_comm] using
    (length_eq_length_filter_add (l := o.buffered) fun item => decide (item.parent = id)).symm

/-- The children that an emission takes out of the buffer come before the rest, as in the recursion of the
source. -/
def emitReady (o : CausalOrderer) : List OrderedEnvelope → CausalOrderer × List OrderedEnvelope
  | [] => (o, [])
  | ready :: rest =>
    let id := ready.envelope.messageId
    let after := emitReady (o.emit id) (o.children id ++ rest)
    (after.1, ready :: after.2)
  termination_by rest => o.buffered.length + rest.length
  decreasing_by
    rw [← length_emit_add o ready.envelope.messageId, length_append, length_cons]
    omega

def submit (envelope : Envelope) (now : Nat) : CausalOrderer × List OrderedEnvelope :=
  match envelope.directParent with
  | some parent =>
    if parent ∈ o.emitted then o.emitReady [⟨envelope, false⟩]
    else ({ o with buffered := o.buffered ++ [⟨parent, envelope, now⟩] }, [])
  | none => o.emitReady [⟨envelope, false⟩]

def isOrphan (now : Nat) (item : BufferedEnvelope) : Bool :=
  item.isExpired now o.orphanTimeout && item.parent ∉ bufferedMessageIds o.buffered

def drainOrphans (now : Nat) : CausalOrderer × List OrderedEnvelope :=
  let expired := o.buffered.filter (o.isOrphan now)
  let pending := o.buffered.filter fun item => !o.isOrphan now item
  emitReady { o with buffered := pending } (expired.map fun item => ⟨item.envelope, true⟩)

/-- One call of `drainOrphans` at each of the times. -/
def drains (times : List Nat) : CausalOrderer :=
  times.foldl (fun o now => (o.drainOrphans now).1) o

end CausalOrderer

/-- A chain of buffered envelopes leads from the message to one that is not in the buffer. -/
inductive Escapes (buffered : List BufferedEnvelope) : Nat → Prop
  | missing {id} (habsent : id ∉ bufferedMessageIds buffered) : Escapes buffered id
  | through {item} (hmem : item ∈ buffered) (hparent : Escapes buffered item.parent) :
      Escapes buffered item.envelope.messageId

/-- What a drain has left of a buffer: whatever is gone waited for a message that escapes, and has no children
left once it is emitted. -/
structure Released (buffered remaining : List BufferedEnvelope) (pending : List OrderedEnvelope) : Prop where
  kept : remaining ⊆ buffered
  emitting : ∀ ready ∈ pending, Escapes buffered ready.envelope.messageId
  escaped : ∀ item ∈ buffered, item ∉ remaining → Escapes buffered item.parent
  childless : ∀ item ∈ buffered, item ∉ remaining → ∀ child ∈ remaining,
    child.parent = item.envelope.messageId → ∃ ready ∈ pending, ready.envelope = item.envelope

namespace Released

variable {buffered remaining : List BufferedEnvelope} (h : Released buffered remaining [])

include h

theorem escapes_of_remaining {id} (hid : Escapes remaining id) : Escapes buffered id := by
  induction hid with
  | @missing id habsent =>
    by_cases hmem : id ∈ bufferedMessageIds buffered
    · obtain ⟨item, hitem, rfl⟩ := mem_map.mp hmem
      exact .through hitem (h.escaped item hitem fun hkept => habsent (mem_map_of_mem hkept))
    · exact .missing hmem
  | through hmem _ ih => exact .through (h.kept hmem) ih

/-- Whoever still waits for a message that escapes sees it escape from what remains. -/
theorem escapes_remaining {id} (hid : Escapes buffered id) :
    ∀ child ∈ remaining, child.parent = id → Escapes remaining id := by
  induction hid with
  | missing habsent =>
    exact fun _ _ _ => .missing fun hmem => habsent (map_subset _ h.kept hmem)
  | @through item hmem _ ih =>
    intro child hchild hparent
    by_cases hkept : item ∈ remaining
    · exact .through hkept (ih item hkept rfl)
    · obtain ⟨_, hnone, -⟩ := h.childless item hmem hkept child hchild hparent
      cases hnone

theorem all_escape_iff : (∀ item ∈ remaining, Escapes remaining item.parent) ↔
    ∀ item ∈ buffered, Escapes buffered item.parent := by
  constructor
  · intro hall item hmem
    by_cases hkept : item ∈ remaining
    · exact h.escapes_of_remaining (hall item hkept)
    · exact h.escaped item hmem hkept
  · exact fun hall item hmem => h.escapes_remaining (hall item (h.kept hmem)) item hmem rfl

end Released

theorem exists_orphan {buffered : List BufferedEnvelope} {id} (h : Escapes buffered id) :
    ∀ item ∈ buffered, item.parent = id → ∃ orphan ∈ buffered, orphan.parent ∉ bufferedMessageIds buffered := by
  induction h with
  | missing habsent => exact fun item hmem hparent => ⟨item, hmem, hparent ▸ habsent⟩
  | @through item hmem _ ih => exact fun _ _ _ => ih item hmem rfl

namespace CausalOrderer

variable {o : CausalOrderer}

theorem mem_emit {id item} : item ∈ (o.emit id).buffered ↔ item ∈ o.buffered ∧ item.parent ≠ id := by simp [emit]

theorem mem_children {id ready} : ready ∈ o.children id ↔
    ∃ item ∈ o.buffered, item.parent = id ∧ ⟨item.envelope, false⟩ = ready := by simp [children, and_assoc]

theorem emitReady_released {all} (h : Released all o.buffered pending) :
    Released all (o.emitReady pending).1.buffered [] := by
  fun_induction emitReady o pending with
  | case1 o => exact h
  | case2 o ready rest id after ih =>
    obtain ⟨hkept, hemitting, hescaped, hchildless⟩ := h
    refine ih ⟨?_, ?_, ?_, ?_⟩
    · grind [mem_emit]
    · grind [mem_children, Escapes.through]
    · grind [mem_emit]
    · intro item hmem hgone child hchild hparent
      by_cases hwaits : item ∈ o.buffered
      · have htaken : item.parent = id := by grind [mem_emit]
        exact ⟨_, mem_append_left _ (mem_children.mpr ⟨item, hwaits, htaken, rfl⟩), rfl⟩
      · grind [mem_emit]

theorem emitReady_sublist (pending : List OrderedEnvelope) : (o.emitReady pending).1.buffered.Sublist o.buffered ∧
    (o.emitReady pending).1.orphanTimeout = o.orphanTimeout := by
  fun_induction emitReady o pending with
  | case1 o => exact ⟨.refl _, rfl⟩
  | case2 o ready rest id after ih => exact ⟨ih.1.trans filter_sublist, ih.2⟩

theorem drainOrphans_released (now : Nat) : Released o.buffered (o.drainOrphans now).1.buffered [] := by
  apply emitReady_released
  refine ⟨filter_sublist.subset, ?_, ?_, ?_⟩
  · grind [isOrphan, Escapes.missing, Escapes.through]
  · grind [isOrphan, Escapes.missing]
  · intro item hmem hgone _ _ _
    have horphan : o.isOrphan now item = true := by simpa [hmem] using hgone
    exact ⟨_, mem_map_of_mem (mem_filter.mpr ⟨hmem, horphan⟩), rfl⟩

theorem escape_of_drains (h : (o.drains times).buffered = []) :
    ∀ item ∈ o.buffered, Escapes o.buffered item.parent := by
  induction times generalizing o with
  | nil => simp [show o.buffered = [] from h]
  | cons now times ih => exact (drainOrphans_released now).all_escape_iff.mp (ih h)

/-- Once everything in the buffer has expired, as many drains as it has envelopes empty it exactly if none is
on, or behind, a cycle of parents. -/
theorem drains_empty_iff (o : CausalOrderer) (times : List Nat) (hlong : o.buffered.length ≤ times.length)
    (hexpired : ∀ now ∈ times, ∀ item ∈ o.buffered, item.isExpired now o.orphanTimeout = true) :
    (o.drains times).buffered = [] ↔ ∀ item ∈ o.buffered, Escapes o.buffered item.parent := by
  refine ⟨escape_of_drains, fun h => ?_⟩
  induction times generalizing o with
  | nil => exact length_eq_zero_iff.mp (Nat.le_zero.mp hlong)
  | cons now times ih =>
    obtain ⟨hnow, hlater⟩ := forall_mem_cons.mp hexpired
    have hreleased := drainOrphans_released (o := o) now
    obtain ⟨hsub, htimeout⟩ :
        (o.drainOrphans now).1.buffered.Sublist (o.buffered.filter fun item => !o.isOrphan now item) ∧
        (o.drainOrphans now).1.orphanTimeout = o.orphanTimeout := emitReady_sublist _
    refine ih (o.drainOrphans now).1 ?_ (fun later hmem item hkept => ?_) (hreleased.all_escape_iff.mpr h)
    · -- otherwise nothing has left, but an orphan has
      by_contra hlonger
      have hsame : (o.drainOrphans now).1.buffered = o.buffered :=
        (hsub.trans filter_sublist).eq_of_length_le (by rw [length_cons] at hlong; omega)
      obtain ⟨item, hitem⟩ := exists_mem_of_length_pos (Nat.zero_lt_of_lt (Nat.lt_of_not_le hlonger))
      rw [hsame] at hitem hsub
      obtain ⟨orphan, hmem, habsent⟩ := exists_orphan (h item hitem) item hitem rfl
      have hstays := (mem_filter.mp (hsub.subset hmem)).2
      simp [isOrphan, hnow orphan hmem, habsent] at hstays
    · rw [htimeout]
      exact hlater later hmem item (hreleased.kept hkept)

theorem drains_empty_iff_chain :
    ((((new 10).submit ⟨1, some 0⟩ 5).1.submit ⟨2, some 1⟩ 5).1.drains [15, 15]).buffered = [] := by
  have hfirst : Escapes [⟨0, ⟨1, some 0⟩, 5⟩, ⟨1, ⟨2, some 1⟩, 5⟩] 0 := .missing (by decide)
  refine (drains_empty_iff _ _ (by decide) (by decide)).mpr fun item hmem => ?_
  obtain rfl | rfl := mem_pair.mp hmem
  · exact hfirst
  · exact .through (.head _) hfirst

/-- Two envelopes that are each other's parents stay, however often the buffer is drained. -/
theorem parents_of_each_other_stay : ¬ ∃ times,
    ((((new 0).submit ⟨1, some 2⟩ 0).1.submit ⟨2, some 1⟩ 0).1.drains times).buffered = [] := by
  rintro ⟨times, h⟩
  have hsame : ∀ now, (mk [] [⟨2, ⟨1, some 2⟩, 0⟩, ⟨1, ⟨2, some 1⟩, 0⟩] 0).drainOrphans now =
      (⟨[], [⟨2, ⟨1, some 2⟩, 0⟩, ⟨1, ⟨2, some 1⟩, 0⟩], 0⟩, []) := by
    simp [drainOrphans, isOrphan, bufferedMessageIds, emitReady]
  induction times with
  | nil => exact cons_ne_nil _ _ h
  | cons now times ih => exact ih (by simpa [drains, submit, new, hsame] using h)

end CausalOrderer

end Liminal.Causal
