import Liminal.Library.Checked
import Liminal.Library.Machine
import Liminal.Library.Totals
import Mathlib.Algebra.Order.BigOperators.Group.List
import Mathlib.Algebra.Order.Group.Nat

/-!
# Subscriptions of a connection

Publishers admit envelopes to the inbox of each subscription, and the delivery pump pops them, slice
by slice, into the outbound sink. All inboxes of a connection are charged to one byte budget, an
atomic counter outside the inboxes' locks.
-/

namespace Liminal

open Checked List Option

/-! ### The byte budget -/

/-- The bytes charged for the queued entries, and by the admission that holds the lock. -/
structure ChargedInbox where
  queue : List Nat
  admitting : Option Nat
  closed : Bool

def ChargedInbox.charged (inbox : ChargedInbox) : Nat := inbox.queue.sum + inbox.admitting.getD 0

def ChargedInbox.Sealed (inbox : ChargedInbox) : Prop :=
  inbox.closed → inbox.queue = [] ∧ inbox.admitting = none

/-- Pops and closes give back outside the lock what they took from a queue. -/
structure ConnectionInboxBudget (n : Nat) where
  (cap used : Nat)
  inboxes : Fin n → ChargedInbox
  releasing : List Nat

inductive BudgetAction (n : Nat)
  | tryCharge (inbox : Fin n) (bytes : Nat)
  | pushBack (inbox : Fin n)
  | popFront (inbox : Fin n)
  | close (inbox : Fin n)
  | release (index : Nat)

namespace ConnectionInboxBudget

variable {n : Nat}

/-- An admission that is refused, for the budget or the depth of its inbox, charges nothing. -/
def next (s : ConnectionInboxBudget n) : BudgetAction n → Option (ConnectionInboxBudget n)
  | .tryCharge i bytes =>
    if (s.inboxes i).admitting = none ∧ (s.inboxes i).closed = false ∧ s.used + bytes ≤ s.cap then some { s with
      used := s.used + bytes
      inboxes := Function.update s.inboxes i { s.inboxes i with admitting := some bytes } }
    else none
  | .pushBack i => (s.inboxes i).admitting.map fun bytes => { s with
      inboxes := Function.update s.inboxes i
        { s.inboxes i with queue := (s.inboxes i).queue ++ [bytes], admitting := none } }
  | .popFront i =>
    match (s.inboxes i).admitting, (s.inboxes i).queue with
    | none, bytes :: queue => some { s with
      inboxes := Function.update s.inboxes i { s.inboxes i with queue }
      releasing := s.releasing ++ [bytes] }
    | _, _ => none
  | .close i =>
    if (s.inboxes i).admitting = none ∧ (s.inboxes i).closed = false then some { s with
      inboxes := Function.update s.inboxes i ⟨[], none, true⟩
      releasing := s.releasing ++ [(s.inboxes i).queue.sum] }
    else none
  | .release index => s.releasing[index]?.map fun bytes =>
    { s with used := s.used - bytes, releasing := s.releasing.eraseIdx index }

end ConnectionInboxBudget

def budgetMachine (n : Nat) : Machine (ConnectionInboxBudget n) (BudgetAction n) where
  start s := ∃ cap, s = ⟨cap, 0, fun _ => ⟨[], none, false⟩, []⟩
  next := ConnectionInboxBudget.next

namespace ConnectionInboxBudget

variable {n : Nat} {s s' : ConnectionInboxBudget n}

structure Exact (s : ConnectionInboxBudget n) : Prop where
  within : s.used ≤ s.cap
  total : s.used = ∑ i, (s.inboxes i).charged + s.releasing.sum
  closed : ∀ i, (s.inboxes i).Sealed

theorem Exact.replace (h : s.Exact) {i inbox used releasing} (hused : used ≤ s.cap) (hclosed : inbox.Sealed)
    (htotal : used + (s.inboxes i).charged + s.releasing.sum = s.used + inbox.charged + releasing.sum) : Exact
    { s with used, releasing, inboxes := Function.update s.inboxes i inbox } := by
  have hsum := Finset.sum_replace ChargedInbox.charged s.inboxes i inbox
  have hold := h.total
  exact ⟨hused, by simp only; omega,
    (Function.forall_update_iff s.inboxes fun _ => ChargedInbox.Sealed).mpr ⟨hclosed, fun j _ => h.closed j⟩⟩

theorem Exact.next (h : s.Exact) (hnext : s.next action = some s') : s'.Exact := by
  have hwithin := h.within
  cases action with
  | tryCharge i bytes =>
    obtain ⟨⟨hfree, hopen, hroom⟩, ⟨⟩⟩ := ite_none_right_eq_some.mp hnext
    refine h.replace hroom (fun hclosed => by cases hopen.symm.trans hclosed) ?_
    simp only [ChargedInbox.charged, hfree, getD_none, getD_some]
    omega
  | pushBack i =>
    obtain ⟨bytes, hbytes, rfl⟩ := map_eq_some_iff.mp hnext
    refine h.replace hwithin (fun hclosed => ?_) ?_
    · cases (h.closed i hclosed).2.symm.trans hbytes
    · simp [ChargedInbox.charged, hbytes]
  | popFront i =>
    simp only [ConnectionInboxBudget.next] at hnext
    split at hnext
    · rename_i bytes queue hfree hqueue
      cases hnext
      refine h.replace hwithin (fun hclosed => ?_) ?_
      · cases hqueue.symm.trans (h.closed i hclosed).1
      · simp only [ChargedInbox.charged, hfree, hqueue, sum_cons, sum_append, sum_nil]
        omega
    · cases hnext
  | close i =>
    obtain ⟨⟨hfree, -⟩, ⟨⟩⟩ := ite_none_right_eq_some.mp hnext
    refine h.replace hwithin (fun _ => ⟨rfl, rfl⟩) ?_
    simp only [ChargedInbox.charged, hfree, sum_append, sum_cons, sum_nil, getD_none]
    omega
  | release index =>
    obtain ⟨bytes, hbytes, rfl⟩ := map_eq_some_iff.mp hnext
    obtain ⟨hindex, rfl⟩ := List.getElem?_eq_some_iff.mp hbytes
    have hsum := List.CommMonoid.add_sum_eraseIdx hindex
    have htotal := h.total
    exact ⟨by simp only; omega, by simp only; omega, h.closed⟩

/-- Every charged byte belongs to an entry, to an admission that has not queued it yet, or to a pop or close
that has not released it yet. -/
theorem used_eq_charges (h : (budgetMachine n).Reachable s) : s.used ≤ s.cap ∧ s.used = ∑ i,
    (s.inboxes i).charged + s.releasing.sum ∧ (∀ bytes ∈ s.releasing, bytes ≤ s.used) ∧ ∀ i, (s.inboxes i).Sealed := by
  have hexact : s.Exact := by
    refine h.invariant ?_ fun _ _ _ hs hnext => hs.next hnext
    rintro s ⟨cap, rfl⟩
    exact ⟨Nat.zero_le _, by simp [ChargedInbox.charged], fun _ hclosed => (by cases hclosed)⟩
  refine ⟨hexact.within, hexact.total, fun bytes hbytes => ?_, hexact.closed⟩
  obtain ⟨index, hindex, rfl⟩ := getElem_of_mem hbytes
  have hsum := CommMonoid.add_sum_eraseIdx hindex
  have htotal := hexact.total
  omega

theorem used_eq_charges_popped : ∃ s : ConnectionInboxBudget 2, (s.releasing = [3] ∧ (s.inboxes 1).charged = 2) ∧
    s.used ≤ s.cap ∧ s.used = ∑ i, (s.inboxes i).charged + s.releasing.sum := by
  obtain ⟨s, hreachable, hcharges⟩ := Machine.Reachable.exists_of_any (m := budgetMachine 2)
    (p := fun s => s.releasing = [3] ∧ (s.inboxes 1).charged = 2) (.start ⟨5, rfl⟩)
    [.tryCharge 0 3, .tryCharge 1 2, .pushBack 0, .popFront 0] (by decide)
  exact ⟨s, hcharges, (used_eq_charges hreachable).1, (used_eq_charges hreachable).2.1⟩

/-- The bytes of an admission are charged before its entry is queued. -/
theorem used_ne_queued_and_releasing : ∃ s : ConnectionInboxBudget 1, (budgetMachine 1).Reachable s ∧
    s.used ≠ ∑ i, (s.inboxes i).queue.sum + s.releasing.sum :=
  Machine.Reachable.exists_of_any (.start ⟨5, rfl⟩) [.tryCharge 0 3] (by decide)

end ConnectionInboxBudget

/-! ### One subscription's stream -/

/-- A subscription until it is shed or closed, with what its inbox has admitted. While `serving`, a slice has
found it not overflowed. -/
structure SubscriptionStream (α : Type) where
  queue : List α
  (overflowed serving : Bool)
  sequence : Nat
  held : Option (Nat × α)
  delivered : List (Nat × α)
  admitted : List α
  dropped : Option Nat

inductive StreamAction (α : Type)
  | admission (envelope : α) (charged : Bool)
  | visit
  | deliver (room : Bool)
  | leave

namespace SubscriptionStream

variable {α : Type} (s : SubscriptionStream α)

/-- The frame held back from an earlier slice, or a new one for the next envelope. -/
def prepare : Option (SubscriptionStream α) := match s.held, s.queue with
  | some _, _ => some s
  | none, [] => none
  | none, envelope :: queue =>
    let sequence := min (s.sequence + 1) u64Max
    some { s with queue, sequence, held := some (sequence, envelope) }

def next (depthCap : Nat) : StreamAction α → Option (SubscriptionStream α)
  | .admission envelope charged => some (
    if s.queue.length < depthCap ∧ charged then
      { s with queue := s.queue ++ [envelope], admitted := s.admitted ++ [envelope] }
    else { s with overflowed := true, dropped := s.dropped.or (some s.admitted.length) })
  | .visit => if s.overflowed then none else some { s with serving := true }
  | .deliver room => if s.serving then s.prepare.map fun s =>
      if room then { s with delivered := s.delivered ++ s.held.toList, held := none }
      else { s with serving := false }
    else none
  | .leave => some { s with serving := false }

def framed : List (Nat × α) := s.delivered ++ s.held.toList

/-- Nothing comes to an overflowed inbox while a slice is serving it, and the numbers last. -/
def Timely : StreamAction α → Prop
  | .admission _ _ => s.admitted.length < u64Max ∧ (s.overflowed → s.serving = false)
  | _ => True

end SubscriptionStream

def streamMachine (α : Type) (depthCap : Nat) : Machine (SubscriptionStream α) (StreamAction α) where
  start s := s = ⟨[], false, false, 0, none, [], [], none⟩
  next s := s.next depthCap

namespace SubscriptionStream

variable {α : Type} {s s' : SubscriptionStream α} {depthCap : Nat} {action : StreamAction α}

structure InOrder (s : SubscriptionStream α) : Prop where
  frames : s.framed.map Prod.snd ++ s.queue = s.admitted
  numbered : s.framed.map Prod.fst = range' 1 s.sequence
  few : s.admitted.length ≤ u64Max
  dropped : ∀ count ∈ s.dropped, s.overflowed ∧ s.framed.length ≤ count ∧ (s.serving → s.admitted.length = count)

theorem InOrder.prepare (h : s.InOrder) (hserving : s.serving) (hprepare : s.prepare = some s') : s'.InOrder := by
  unfold SubscriptionStream.prepare at hprepare
  split at hprepare
  · cases hprepare
    exact h
  · cases hprepare
  · rename_i envelope queue hheld hqueue
    cases hprepare
    obtain ⟨hframes, hnumbered, hfew, hdropped⟩ := h
    simp only [framed, hheld, toList_none, append_nil, hqueue] at hframes hnumbered hdropped
    have hseq := congrArg length hnumbered
    have hadmitted := congrArg length hframes
    simp only [length_map, length_range', length_append, length_cons] at hseq hadmitted
    have hnumber : min (s.sequence + 1) u64Max = s.sequence + 1 := by omega
    refine ⟨?_, ?_, hfew, fun count hcount => ?_⟩
    · simp [framed, ← hframes]
    · simp [framed, hnumbered, hnumber, range'_1_concat, Nat.add_comm]
    · obtain ⟨hoverflowed, -, hcount'⟩ := hdropped count hcount
      refine ⟨hoverflowed, ?_, hcount'⟩
      have hserved := hcount' hserving
      simp only [framed, toList_some, length_append, length_singleton]
      omega

theorem InOrder.settle {delivered held} {serving : Bool} (h : s.InOrder) (hframed : delivered ++ held.toList = s.framed)
    (hserving : serving → s.serving) : InOrder { s with delivered, held, serving } := by
  have hsame : framed { s with delivered, held, serving } = s.framed := hframed
  refine ⟨hsame ▸ h.frames, hsame ▸ h.numbered, h.few, fun count hcount => ?_⟩
  obtain ⟨hoverflowed, hle, hcount'⟩ := h.dropped count hcount
  exact ⟨hoverflowed, hsame ▸ hle, fun hserves => hcount' (hserving hserves)⟩

theorem InOrder.next (h : s.InOrder) (htimely : s.Timely action) (hnext : s.next depthCap action = some s') :
    s'.InOrder := by
  cases action with
  | admission envelope charged =>
    obtain ⟨hfew, hidle⟩ := htimely
    cases hnext
    split
    · refine ⟨?_, h.numbered, ?_, fun count hcount => ?_⟩
      · simp only [← h.frames, append_assoc]
        rfl
      · rw [length_append]
        exact hfew
      · obtain ⟨hoverflowed, hle, -⟩ := h.dropped count hcount
        exact ⟨hoverflowed, hle, fun hserving => by cases (hidle hoverflowed).symm.trans hserving⟩
    · refine ⟨h.frames, h.numbered, h.few, fun count hcount => ⟨rfl, ?_⟩⟩
      cases hdropped : s.dropped with
      | some first =>
        simp only [hdropped, some_or, mem_some] at hcount
        exact hcount ▸ (h.dropped first hdropped).2
      | none =>
        simp only [hdropped, none_or, mem_some] at hcount
        have hlength := congrArg length h.frames
        simp only [length_append, length_map] at hlength
        exact ⟨by rw [← hcount]; exact Nat.le.intro hlength, fun _ => hcount⟩
  | visit =>
    obtain ⟨hcalm, ⟨⟩⟩ := ite_none_left_eq_some.mp hnext
    exact ⟨h.frames, h.numbered, h.few, fun count hcount => absurd (h.dropped count hcount).1 hcalm⟩
  | deliver room =>
    obtain ⟨hserving, hframe⟩ := ite_none_right_eq_some.mp hnext
    obtain ⟨middle, hprepare, rfl⟩ := map_eq_some_iff.mp hframe
    split
    · exact (h.prepare hserving hprepare).settle (append_nil _) id
    · exact (h.prepare hserving hprepare).settle rfl fun hserving => by cases hserving
  | leave =>
    cases hnext
    exact h.settle rfl fun hserving => by cases hserving

/-- In timely runs the frames carry what was admitted, in order and numbered from one, and nothing that was
admitted after a drop. -/
theorem stream_gap_free (h : (streamMachine α depthCap).Reaches Timely s) :
    s.framed.map Prod.snd ++ s.queue = s.admitted ∧ s.framed.map Prod.fst = range' 1 s.framed.length ∧
      ∀ count ∈ s.dropped, s.framed.length ≤ count := by
  have horder : s.InOrder := by
    refine h.invariant ?_ fun _ _ _ hs htimely hnext => hs.next htimely hnext
    rintro s rfl
    exact ⟨rfl, rfl, Nat.zero_le _, by simp⟩
  have hlength := congrArg length horder.numbered
  rw [length_map, length_range'] at hlength
  exact ⟨horder.frames, hlength ▸ horder.numbered, fun count hcount => (horder.dropped count hcount).2.1⟩

theorem stream_gap_free_one : ∃ s : SubscriptionStream Nat, s.delivered = [(1, 7)] ∧ s.dropped = some 1 ∧
    ∀ count ∈ s.dropped, s.framed.length ≤ count :=
  ⟨_, rfl, rfl, (stream_gap_free (.next (a := .deliver true) (.next (a := .admission 8 true) (.next (a := .visit)
    (.next (a := .admission 7 true) (.start rfl) ⟨by decide, fun _ => rfl⟩ rfl) trivial rfl)
    ⟨by decide, fun h => by cases h⟩ rfl) trivial rfl : (streamMachine Nat 1).Reaches Timely _)).2.2⟩

/-- The second envelope is dropped; the slice that goes on serving makes room for the third and delivers it. -/
theorem delivered_after_drop : ∃ s : SubscriptionStream Nat, (streamMachine Nat 1).Reachable s ∧
    s.dropped = some 1 ∧ s.delivered = [(1, 7), (2, 9)] :=
  Machine.Reachable.exists_of_any (.start rfl) 
    [.admission 7 true, .visit, .admission 8 true, .deliver true, .admission 9 true, .deliver true] (by decide)

end SubscriptionStream

/-! ### Slices -/

/-- A subscription as a slice finds it, with the sizes of its pending frames, a held one first. -/
structure PendingSubscription where
  id : Nat
  overflowed : Bool
  pending : List Nat

/-- The frames and bytes that are left of a slice, and whether a frame had to be held back. -/
structure DeliverySlice where
  (remaining room : Nat)
  full : Bool

def DeliverySlice.serve (slice : DeliverySlice) : List Nat → DeliverySlice × Nat
  | [] => (slice, 0)
  | needed :: rest =>
    if slice.remaining = 0 then (slice, 0)
    else if slice.room < needed then ({ slice with full := true }, 0)
    else
      let served := DeliverySlice.serve ⟨slice.remaining - 1, slice.room - needed, slice.full⟩ rest
      (served.1, served.2 + 1)

/-- What is left of a slice, and how many frames the subscription got. A frame larger than the sink ends
the connection and is not considered. -/
def DeliverySlice.service (shedLen : Nat) (slice : DeliverySlice) (subscription : PendingSubscription) :
    DeliverySlice × Option Nat :=
  if slice.remaining = 0 ∨ slice.full then (slice, some 0)
  else if subscription.overflowed then
    -- the notice of a subscription that is shed counts no frame
    if slice.room < shedLen then (slice, some 0) else ({ slice with room := slice.room - shedLen }, none)
  else (slice.serve subscription.pending).map id some

/-- What each subscription gets of a slice, in the table's order. -/
def serviceSubscriptions (shedLen : Nat) (slice : DeliverySlice) :
    List PendingSubscription → List (PendingSubscription × Option Nat)
  | [] => []
  | subscription :: rest => (subscription, (slice.service shedLen subscription).2) ::
      serviceSubscriptions shedLen (slice.service shedLen subscription).1 rest

/-- The free bytes of the sink at a slice, and the frames that come and the inboxes that overflow before the
next. -/
structure SliceInput where
  room : Nat
  arrivals : Nat → List Nat
  overflows : Nat → Bool

/-- A subscription that was shed is gone. -/
def SliceInput.settle (input : SliceInput) : List (PendingSubscription × Option Nat) → List PendingSubscription :=
  filterMap fun (subscription, count) => count.map fun count => { subscription with
    overflowed := subscription.overflowed || input.overflows subscription.id
    pending := subscription.pending.drop count ++ input.arrivals subscription.id }

/-- Whether a subscription gets a frame in one of several slices. -/
def servedWithin (shedLen budget id : Nat) : List SliceInput → List PendingSubscription → Bool
  | [], _ => false
  | input :: inputs, table =>
    let served := serviceSubscriptions shedLen ⟨budget, input.room, false⟩ table
    (served.any fun (subscription, count) => subscription.id = id ∧ 0 < count.getD 0) ||
      servedWithin shedLen budget id inputs (input.settle served)

/-- What is left of a slice after some frames and notices. -/
structure Spends (largest notices : Nat) (slice left : DeliverySlice) (frames : Nat) : Prop where
  remaining : left.remaining + frames = slice.remaining
  room : left.room ≤ slice.room
  bytes : slice.room ≤ left.room + frames * largest + notices
  full : left.full → slice.full ∨ left.room < largest

variable {largest shedLen : Nat} {slice left : DeliverySlice}

theorem Spends.refl (notices : Nat) : Spends largest notices slice slice 0 :=
  ⟨rfl, Nat.le_refl _, by omega, .inl⟩

theorem Spends.trans (h : Spends largest notices slice left frames)
    (h' : Spends largest notices' left final frames') :
    Spends largest (notices + notices') slice final (frames + frames') where
  remaining := by have := h.remaining; have := h'.remaining; omega
  room := h'.room.trans h.room
  bytes := by
    have hfirst := h.bytes
    have hsecond := h'.bytes
    rw [Nat.add_mul]
    omega
  full hfull := (h'.full hfull).elim (fun hleft => (h.full hleft).imp_right h'.room.trans_lt) .inr

variable (slice)

theorem serve_spends {pending : List Nat} (hlargest : ∀ frame ∈ pending, frame ≤ largest) :
    Spends largest 0 slice (slice.serve pending).1 (slice.serve pending).2 ∧
      (slice.serve pending).2 ≤ pending.length := by
  induction pending generalizing slice with
  | nil => exact ⟨.refl 0, Nat.le_refl _⟩
  | cons needed rest ih =>
    obtain ⟨hneeded, hrest⟩ := forall_mem_cons.mp hlargest
    unfold DeliverySlice.serve
    split
    · exact ⟨.refl 0, Nat.zero_le _⟩
    · split
      · exact ⟨⟨rfl, Nat.le_refl _, by simp, fun _ => .inr (by simp only; omega)⟩, Nat.zero_le _⟩
      · obtain ⟨hspends, hcount⟩ := ih ⟨slice.remaining - 1, slice.room - needed, slice.full⟩ hrest
        have hfirst : Spends largest 0 slice ⟨slice.remaining - 1, slice.room - needed, slice.full⟩ 1 :=
          ⟨by simp only; omega, by simp, by simp only; omega, .inl⟩
        have hboth := hfirst.trans hspends
        rw [Nat.add_comm 1] at hboth
        exact ⟨hboth, Nat.succ_le_succ hcount⟩

variable (shedLen)

theorem service_spends {subscription : PendingSubscription}
    (hlargest : ∀ frame ∈ subscription.pending, frame ≤ largest) :
    Spends largest shedLen slice (slice.service shedLen subscription).1
        ((slice.service shedLen subscription).2.getD 0) ∧
      (slice.service shedLen subscription).2.getD 0 ≤ subscription.pending.length := by
  unfold DeliverySlice.service
  split
  · exact ⟨.refl _, Nat.zero_le _⟩
  · split
    · split
      · exact ⟨.refl _, Nat.zero_le _⟩
      · exact ⟨⟨rfl, Nat.sub_le _ _, by simp only; omega, .inl⟩, Nat.zero_le _⟩
    · obtain ⟨hspends, hcount⟩ := serve_spends slice hlargest
      exact ⟨Nat.zero_add shedLen ▸ hspends.trans (.refl _), hcount⟩

def DeliverySlice.after (shedLen : Nat) (slice : DeliverySlice) (before : List PendingSubscription) : DeliverySlice :=
  before.foldl (fun slice subscription => (slice.service shedLen subscription).1) slice

def framesServed (served : List (PendingSubscription × Option Nat)) : Nat := (served.map (·.2.getD 0)).sum

def pendingFrames (table : List PendingSubscription) : Nat := (table.map (·.pending.length)).sum

def SliceInput.arriving (input : SliceInput) (ids : List Nat) : Nat := (ids.map (input.arrivals · |>.length)).sum

theorem SliceInput.arriving_le (input : SliceInput) (h : ids.Sublist ids') : input.arriving ids ≤ input.arriving ids' :=
  (h.map _).sum_le_sum fun _ _ => Nat.zero_le _

variable {input : SliceInput} {before after : List PendingSubscription}

theorem serviceSubscriptions_append : serviceSubscriptions shedLen slice (before ++ after) =
    serviceSubscriptions shedLen slice before ++ serviceSubscriptions shedLen (slice.after shedLen before) after := by
  induction before generalizing slice with
  | nil => rfl
  | cons first before ih => exact congrArg (_ :: ·) (ih _)

section

variable (hbefore : ∀ subscription ∈ before, ∀ frame ∈ subscription.pending, frame ≤ largest)

include hbefore

theorem after_spends : Spends largest (before.length * shedLen) slice (slice.after shedLen before)
    (framesServed (serviceSubscriptions shedLen slice before)) := by
  induction before generalizing slice with
  | nil => exact .refl _
  | cons first before ih =>
    obtain ⟨hfirst, hrest⟩ := forall_mem_cons.mp hbefore
    rw [length_cons, Nat.add_mul, Nat.one_mul, Nat.add_comm]
    exact (service_spends shedLen slice hfirst).1.trans (ih _ hrest)

variable (input) in
theorem settle_pending : pendingFrames (input.settle (serviceSubscriptions shedLen slice before)) +
    framesServed (serviceSubscriptions shedLen slice before) ≤
      pendingFrames before + input.arriving (before.map (·.id)) := by
  induction before generalizing slice with
  | nil => simp [serviceSubscriptions, SliceInput.settle, pendingFrames, framesServed]
  | cons first before ih =>
    obtain ⟨hfirst, hrest⟩ := forall_mem_cons.mp hbefore
    have hcount := (service_spends shedLen slice hfirst).2
    have hlater := ih (slice.service shedLen first).1 hrest
    cases hserved : (slice.service shedLen first).2 <;>
      simp_all [serviceSubscriptions, SliceInput.settle, pendingFrames, framesServed, SliceInput.arriving] <;> omega

theorem settle_largest (harrivals : ∀ id, ∀ frame ∈ input.arrivals id, frame ≤ largest) :
    ∀ subscription ∈ input.settle (serviceSubscriptions shedLen slice before),
      ∀ frame ∈ subscription.pending, frame ≤ largest := by
  induction before generalizing slice with
  | nil => simp [serviceSubscriptions, SliceInput.settle]
  | cons first before ih =>
    obtain ⟨hfirst, hrest⟩ := forall_mem_cons.mp hbefore
    have hlater := ih (slice.service shedLen first).1 hrest
    cases hserved : (slice.service shedLen first).2 with
    | none => simpa [serviceSubscriptions, SliceInput.settle, hserved] using hlater
    | some count =>
      simp only [serviceSubscriptions, SliceInput.settle, hserved, filterMap_cons, Option.map_some]
      refine forall_mem_cons.mpr ⟨fun frame hframe => ?_, hlater⟩
      exact (mem_append.mp hframe).elim (fun hold => hfirst frame (mem_of_mem_drop hold)) (harrivals _ frame)

end

variable (input before) in
theorem settle_ids : ((input.settle (serviceSubscriptions shedLen slice before)).map (·.id)).Sublist
    (before.map (·.id)) := by
  induction before generalizing slice with
  | nil => exact .refl _
  | cons first before ih =>
    cases hserved : (slice.service shedLen first).2 <;>
      simp only [serviceSubscriptions, SliceInput.settle, hserved, filterMap_cons, Option.map_none, Option.map_some,
        map_cons]
    · exact (ih _).cons _
    · exact (ih _).cons_cons _

theorem service_kept (id : Nat) (pending : List Nat) :
    ∃ count, (slice.service shedLen ⟨id, false, pending⟩).2 = some count := by
  unfold DeliverySlice.service
  split <;> exact ⟨_, rfl⟩

variable {shedLen slice}

/-- The sink has room for a share of the largest frames and for the notices, and the subscription is not shed. -/
structure SliceInput.Drained (input : SliceInput) (share largest notices id : Nat) : Prop where
  room : share * largest + notices ≤ input.room
  frames : ∀ other, ∀ frame ∈ input.arrivals other, frame ≤ largest
  kept : input.overflows id = false

/-- A subscription that is passed over has left a share of the slice to those before it. -/
theorem share_le_frames {budget share notices frames needed id : Nat} {rest : List Nat} (hshare : share ≤ budget)
    (hneeded : needed ≤ largest) (hroom : share * largest + notices ≤ input.room)
    (hspends : Spends largest notices ⟨budget, input.room, false⟩ left frames)
    (hpassed : (left.service shedLen ⟨id, false, needed :: rest⟩).2.getD 0 = 0) : share ≤ frames := by
  have hremaining := hspends.remaining
  have hbytes := hspends.bytes
  simp only at hremaining hbytes
  by_cases hnone : left.remaining = 0
  · omega
  have hleft : left.room < largest := by
    by_cases hfull : left.full
    · exact (hspends.full hfull).resolve_left (by simp)
    · by_contra hfits
      simp [DeliverySlice.service, DeliverySlice.serve, hnone, hfull, show ¬left.room < needed by omega] at hpassed
  have hless : share * largest < (frames + 1) * largest := by
    rw [Nat.add_mul]
    omega
  exact Nat.le_of_lt_succ (Nat.lt_of_mul_lt_mul_right hless)

/-- If the sink is drained before every slice and the subscriptions before it have fewer frames, pending
and arriving, than their shares, a subscription is served in one of them. -/
theorem served_within {share budget needed id : Nat} {rest : List Nat} {inputs : List SliceInput}
    (hshare : share ≤ budget) (hneeded : needed ≤ largest)
    (hbefore : ∀ subscription ∈ before, ∀ frame ∈ subscription.pending, frame ≤ largest)
    (hdrained : ∀ input ∈ inputs, input.Drained share largest (before.length * shedLen) id)
    (htotal : pendingFrames before + (inputs.map (·.arriving (before.map (·.id)))).sum < inputs.length * share) :
    servedWithin shedLen budget id inputs (before ++ ⟨id, false, needed :: rest⟩ :: after) := by
  induction inputs generalizing before rest after with
  | nil => simp at htotal
  | cons input inputs ih =>
    obtain ⟨hinput, hinputs⟩ := forall_mem_cons.mp hdrained
    have hspends := after_spends shedLen ⟨budget, input.room, false⟩ hbefore
    simp only [servedWithin, serviceSubscriptions_append, Bool.or_eq_true, any_append, any_cons, serviceSubscriptions]
    by_cases hpassed : ((DeliverySlice.after shedLen ⟨budget, input.room, false⟩ before).service shedLen
        ⟨id, false, needed :: rest⟩).2.getD 0 = 0
    · right
      have hframes := share_le_frames hshare hneeded hinput.room hspends hpassed
      obtain ⟨count, hcount⟩ := service_kept shedLen
        (DeliverySlice.after shedLen ⟨budget, input.room, false⟩ before) id (needed :: rest)
      obtain rfl : count = 0 := by simpa [hcount] using hpassed
      have hids := settle_ids shedLen ⟨budget, input.room, false⟩ input before
      have hlength := hids.length_le
      simp only [length_map] at hlength
      simp only [SliceInput.settle, filterMap_append, filterMap_cons, hcount, Option.map_some, drop_zero, hinput.kept,
        Bool.or_false, cons_append]
      refine ih (settle_largest _ _ hbefore hinput.frames) (fun later hlater => ?_) ?_
      · exact { hinputs later hlater with
          room := (Nat.add_le_add_left (Nat.mul_le_mul_right _ hlength) _).trans (hinputs later hlater).room }
      · have hsettled := settle_pending shedLen ⟨budget, input.room, false⟩ input hbefore
        have hfewer : (inputs.map (·.arriving ((input.settle
            (serviceSubscriptions shedLen ⟨budget, input.room, false⟩ before)).map (·.id)))).sum ≤
            (inputs.map (·.arriving (before.map (·.id)))).sum :=
          sum_le_sum fun later _ => later.arriving_le hids
        simp only [map_cons, sum_cons, length_cons, Nat.add_mul] at htotal
        simp only [SliceInput.settle] at hsettled hfewer ⊢
        omega
    · left
      simp [Nat.pos_of_ne_zero hpassed]

theorem served_within_second : servedWithin 100 2 2
    [⟨1000, fun _ => [5], fun _ => false⟩, ⟨1000, fun _ => [5], fun _ => false⟩, ⟨1000, fun _ => [], fun _ => false⟩]
    [⟨1, false, [5, 5, 5]⟩, ⟨2, false, [6, 7]⟩] :=
  @served_within 10 100 [⟨1, false, [5, 5, 5]⟩] [] 2 2 6 2 [7] _ (Nat.le_refl _) (by decide) (by decide)
    (by simp; exact ⟨⟨by decide, by simp, rfl⟩, by decide, by simp, rfl⟩) (by decide)

/-- A first subscription that is sent a slice's worth before every slice keeps the second one waiting, over any
number of them. -/
theorem second_subscription_starves : ∃ input : SliceInput, input.room = 4194304 ∧ ∀ slices,
    servedWithin 100 32 2 (replicate slices input) [⟨1, false, replicate 32 1⟩, ⟨2, false, [1]⟩] = false := by
  refine ⟨⟨4194304, fun id => if id = 1 then replicate 32 1 else [], fun _ => false⟩, rfl, fun slices => ?_⟩
  induction slices with
  | zero => rfl
  | succ slices ih => exact ih

end Liminal
