import Liminal.Library.Fallible
import Liminal.Library.Machine
import Liminal.Library.Totals
import Mathlib.Algebra.Order.BigOperators.Group.Finset

/-!
# The server's identity limit

One ledger counts the enrolled identities of all conversations. An enrollment reserves its identity
before its row is appended; a failure gives it back, and loading a conversation replaces its count
by what its log holds. Operations of one conversation exclude each other, those of different ones do
not. Receipts, which the same ledger counts, are left out.
-/

namespace Liminal

/-- One conversation: its count in the ledger, the identities of its log, whether its owner is loaded, and
whether an enrollment has a reservation. -/
structure CapacityEntry where
  (identity durable : Nat)
  (loaded reserved : Bool)

structure ServerCapacity (n : Nat) where
  (limit identityTotal : Nat)
  conversations : Fin n → CapacityEntry

/-- How the append of a reserved enrollment ends. A failure may come after the row is durable. -/
inductive EnrollmentAppend
  | committed
  | failed
  | failedDurable

inductive CapacityAction (n : Nat)
  | load (conversation : Fin n)
  | admitEnrollment (conversation : Fin n)
  | finishEnrollment (conversation : Fin n) (outcome : EnrollmentAppend)
  | discardOwner (conversation : Fin n)
  | restart (landed unloadable : Fin n → Bool)

namespace ServerCapacity

variable {n : Nat} (s : ServerCapacity n)

variable (conversation : Fin n)

/-- The replaced entry, with the ledger's total moved by the difference of the counts. -/
def replace (entry : CapacityEntry) : ServerCapacity n :=
  { s with
    identityTotal := s.identityTotal - (s.conversations conversation).identity + entry.identity
    conversations := Function.update s.conversations conversation entry }

def foldConversation (durable : Nat) : ServerCapacity n :=
  s.replace conversation ⟨durable, durable, true, false⟩

/-- The reservation is given back and the owner discarded. -/
def rollback (durable : Nat) : ServerCapacity n :=
  s.replace conversation ⟨(s.conversations conversation).identity - 1, durable, false, false⟩

/-- Every conversation is loaded before the server serves again, except those it cannot load. -/
def restarted (landed unloadable : Fin n → Bool) : ServerCapacity n :=
  let loaded conversation : CapacityEntry :=
    let entry := s.conversations conversation
    let durable := entry.durable + (entry.reserved && landed conversation).toNat
    if unloadable conversation then ⟨0, durable, false, false⟩ else ⟨durable, durable, true, false⟩
  ⟨s.limit, ∑ conversation, (loaded conversation).identity, loaded⟩

def next : CapacityAction n → Option (ServerCapacity n)
  | .load conversation =>
    let entry := s.conversations conversation
    if entry.loaded then none else some (s.foldConversation conversation entry.durable)
  | .admitEnrollment conversation =>
    let entry := s.conversations conversation
    if entry.loaded ∧ ¬entry.reserved then
      if s.identityTotal < s.limit then
        some (s.replace conversation ⟨entry.identity + 1, entry.durable, true, true⟩)
      else some s
    else none
  | .finishEnrollment conversation outcome =>
    let entry := s.conversations conversation
    if entry.reserved then
      match outcome with
      | .committed => some (s.foldConversation conversation (entry.durable + 1))
      | .failed => some (s.rollback conversation entry.durable)
      | .failedDurable => some (s.rollback conversation (entry.durable + 1))
    else none
  | .discardOwner conversation =>
    let entry := s.conversations conversation
    if entry.reserved then none
    else some (s.replace conversation { entry with loaded := false })
  | .restart landed unloadable => some (s.restarted landed unloadable)

def durableTotal : Nat := ∑ conversation, (s.conversations conversation).durable

end ServerCapacity

def capacityMachine (n : Nat) : Machine (ServerCapacity n) (CapacityAction n) where
  start s := s.identityTotal = 0 ∧ ∀ conversation, s.conversations conversation = ⟨0, 0, false, false⟩
  next := ServerCapacity.next

/-- No append fails after its row is durable, and a restart can load every conversation. -/
def CapacityAction.Clean {n : Nat} : CapacityAction n → Prop
  | .finishEnrollment _ outcome => outcome ≠ .failedDurable
  | .restart _ unloadable => ∀ conversation, unloadable conversation = false
  | _ => True

namespace ServerCapacity

variable {n : Nat} {s s' : ServerCapacity n}

/-- The counts add up to the total, which the limit bounds; a count is what is durable and what is reserved. -/
structure Counted (s : ServerCapacity n) : Prop where
  total : s.identityTotal = ∑ conversation, (s.conversations conversation).identity
  within : s.identityTotal ≤ s.limit
  exact : ∀ conversation, (s.conversations conversation).identity =
    (s.conversations conversation).durable + (s.conversations conversation).reserved.toNat

theorem Counted.replace (h : s.Counted) (conversation : Fin n)
    (hexact : entry.identity = entry.durable + entry.reserved.toNat)
    (hroom : entry.identity ≤ (s.conversations conversation).identity ∨
      s.identityTotal < s.limit ∧ entry.identity = (s.conversations conversation).identity + 1) :
    (s.replace conversation entry).Counted := by
  have hsum := Finset.sum_replace CapacityEntry.identity s.conversations conversation entry
  have hle := Finset.single_le_sum (f := fun c => (s.conversations c).identity) (fun _ _ => Nat.zero_le _)
    (Finset.mem_univ conversation)
  have htotal := h.total
  have hwithin := h.within
  refine ⟨?_, ?_, fun c => ?_⟩
  · show s.identityTotal - _ + _ = ∑ c, (Function.update s.conversations conversation entry c).identity
    omega
  · show s.identityTotal - _ + _ ≤ s.limit
    omega
  · by_cases hc : c = conversation
    · subst hc
      simpa [ServerCapacity.replace] using hexact
    · simpa [ServerCapacity.replace, Function.update_of_ne hc] using h.exact c

theorem Counted.restarted (h : s.Counted)
    (hclean : ∀ conversation, unloadable conversation = false) : (s.restarted landed unloadable).Counted := by
  have hle : ∀ c, ((s.restarted landed unloadable).conversations c).identity ≤ (s.conversations c).identity := by
    intro c
    have hexact := h.exact c
    cases hreserved : (s.conversations c).reserved <;> cases hlanded : landed c <;>
      simp [ServerCapacity.restarted, hclean c, hreserved, hlanded] at hexact ⊢ <;> omega
  refine ⟨rfl, le_trans ?_ h.within, fun c => by simp [ServerCapacity.restarted, hclean c]⟩
  rw [h.total]
  exact Finset.sum_le_sum (s := Finset.univ) fun c _ => hle c

theorem Counted.next (h : s.Counted) (hclean : action.Clean) (hnext : s.next action = some s') : s'.Counted := by
  cases action with
  | load conversation =>
    have hexact := h.exact conversation
    simp only [ServerCapacity.next] at hnext
    split at hnext
    · cases hnext
    · cases hnext
      exact h.replace conversation rfl (.inl (hexact ▸ Nat.le_add_right _ _))
  | admitEnrollment conversation =>
    have hexact := h.exact conversation
    simp only [ServerCapacity.next] at hnext
    split at hnext
    next hidle =>
      split at hnext
      · cases hnext
        refine h.replace conversation ?_ (.inr ⟨by assumption, rfl⟩)
        simpa [hidle.2] using hexact
      · cases hnext
        exact h
    · cases hnext
  | finishEnrollment conversation outcome =>
    have hexact := h.exact conversation
    simp only [ServerCapacity.next] at hnext
    split at hnext
    next hreserved =>
      rw [hreserved, Bool.toNat_true] at hexact
      cases outcome with
      | committed =>
        cases hnext
        exact h.replace conversation rfl (.inl hexact.ge)
      | failed =>
        cases hnext
        exact h.replace conversation (Nat.sub_eq_of_eq_add hexact) (.inl (Nat.sub_le _ _))
      | failedDurable => exact absurd rfl hclean
    · cases hnext
  | discardOwner conversation =>
    simp only [ServerCapacity.next] at hnext
    split at hnext
    · cases hnext
    · cases hnext
      exact h.replace conversation (h.exact conversation) (.inl le_rfl)
  | restart landed unloadable =>
    cases hnext
    exact h.restarted hclean

/-- While appends fail cleanly and everything loads, the durable identities stay within the limit, and at rest
the total is what is durable. -/
theorem identity_limit_holds (h : (capacityMachine n).Reaches (fun _ action => action.Clean) s) :
    s.durableTotal ≤ s.limit ∧ s.identityTotal = ∑ conversation, (s.conversations conversation).identity ∧
      ((∀ conversation, (s.conversations conversation).loaded = true ∧
          (s.conversations conversation).reserved = false) → s.identityTotal = s.durableTotal) := by
  have hcounted : s.Counted := by
    refine h.invariant ?_ fun _ _ _ hcounted hclean hnext => hcounted.next hclean hnext
    rintro s ⟨htotal, hempty⟩
    exact ⟨by simp [htotal, hempty], by omega, by simp [hempty]⟩
  refine ⟨le_trans ?_ hcounted.within, hcounted.total, fun hrest => ?_⟩
  · rw [hcounted.total]
    exact Finset.sum_le_sum fun c _ => by rw [hcounted.exact c]; exact Nat.le_add_right _ _
  · rw [hcounted.total]
    exact Finset.sum_congr rfl fun c _ => by rw [hcounted.exact c, (hrest c).2]; rfl

def twoConversations : ServerCapacity 2 := ⟨1, 0, fun _ => ⟨0, 0, false, false⟩⟩

theorem identity_limit_holds_enrolled : ∃ s : ServerCapacity 2,
    (capacityMachine 2).Reaches (fun _ action => action.Clean) s ∧ s.durableTotal = 1 ∧ s.durableTotal ≤ s.limit := by
  have hreached : ∃ s, (capacityMachine 2).Reaches (fun _ action => action.Clean) s ∧ s.durableTotal = 1 :=
    ⟨_, .next (a := CapacityAction.finishEnrollment (0 : Fin 2) .committed)
      (.next (a := CapacityAction.admitEnrollment (0 : Fin 2))
        (.next (s := twoConversations) (a := CapacityAction.load (0 : Fin 2))
          (.start ⟨rfl, fun _ => rfl⟩) trivial rfl) trivial rfl) nofun rfl, by decide⟩
  obtain ⟨s, hs, hone⟩ := hreached
  exact ⟨s, hs, hone, (identity_limit_holds hs).1⟩

/-- The append of the first enrollment fails after its row is durable; the second is admitted in its place. -/
theorem identity_limit_exceeded : ∃ s, (capacityMachine 2).run twoConversations
      [.load 0, .load 1, .admitEnrollment 0, .finishEnrollment 0 .failedDurable,
        .admitEnrollment 1, .finishEnrollment 1 .committed] = some s ∧
    (capacityMachine 2).Reachable s ∧ s.limit < s.durableTotal :=
  Fallible.exists_of_any_and (fun _ => Machine.Reachable.run (.start ⟨rfl, fun _ => rfl⟩)) (by decide)

end ServerCapacity

end Liminal
