import Mathlib.Data.List.Basic

/-!
# Services

A step that fails leaves what was changed before it. `Keeps` says that a property outlives a
computation, failed or not; `Refuses` that from such a state it always fails. A loop refuses if one
of its rounds does and none ends the property.
-/

abbrev Service (σ ε : Type) := ExceptT ε (StateM σ)

namespace Service

variable {σ ε α β : Type}

def exec (x : Service σ ε α) (s : σ) : Except ε α × σ := x s

def Keeps (P : σ → Prop) (x : Service σ ε α) : Prop := ∀ s, P s → P (x.exec s).2

def Refuses (P : σ → Prop) (x : Service σ ε α) : Prop :=
  ∀ s, P s → ∃ error, (x.exec s).1 = .error error

theorem exec_bind (x : Service σ ε α) (f : α → Service σ ε β) (s : σ) : (x >>= f).exec s = match x.exec s with
      | (.ok a, s') => (f a).exec s'
      | (.error error, s') => (.error error, s') := by
  show (match x s with | (a, s') => ExceptT.bindCont f a s') = _
  unfold exec
  rcases x s with ⟨outcome | outcome, s'⟩ <;> rfl

theorem exec_tryCatch (x : Service σ ε α) (handler : ε → Service σ ε α) (s : σ) :
    (tryCatch x handler).exec s = match x.exec s with
      | (.ok a, s') => (.ok a, s')
      | (.error error, s') => (handler error).exec s' := by
  unfold exec
  rcases h : x s with ⟨outcome | outcome, s'⟩ <;>
    simp only [tryCatch, tryCatchThe, MonadExceptOf.tryCatch, ExceptT.tryCatch, ExceptT.mk, bind, StateT.bind, h]
  rfl

variable {P : σ → Prop} {x : Service σ ε α} {f : α → Service σ ε β}

theorem Keeps.bind (hx : Keeps P x) (hf : ∀ a, Keeps P (f a)) : Keeps P (x >>= f) := by
  intro s hs
  have hmiddle := hx s hs
  rw [exec_bind]
  generalize x.exec s = run at hmiddle
  rcases run with ⟨error | a, s'⟩
  · exact hmiddle
  · exact hf a s' hmiddle

theorem Keeps.tryCatch {handler : ε → Service σ ε α} (hx : Keeps P x)
    (hhandler : ∀ error, Keeps P (handler error)) : Keeps P (tryCatch x handler) := by
  intro s hs
  have hmiddle := hx s hs
  rw [exec_tryCatch]
  generalize x.exec s = run at hmiddle
  rcases run with ⟨error | a, s'⟩
  · exact hhandler error s' hmiddle
  · exact hmiddle

theorem Keeps.of_same (h : ∀ s, (x.exec s).2 = s) : Keeps P x := by
  intro s hs
  rwa [h s]

theorem Refuses.bind (hx : Refuses P x) : Refuses P (x >>= f) := by
  intro s hs
  obtain ⟨error, herror⟩ := hx s hs
  rw [exec_bind]
  rcases h : x.exec s with ⟨outcome, s'⟩
  rw [h] at herror
  subst herror
  exact ⟨error, rfl⟩

theorem Refuses.after (hx : Keeps P x) (hf : ∀ a, Refuses P (f a)) : Refuses P (x >>= f) := by
  intro s hs
  have hmiddle := hx s hs
  rw [exec_bind]
  generalize x.exec s = run at hmiddle
  rcases run with ⟨error | a, s'⟩
  · exact ⟨error, rfl⟩
  · exact hf a s' hmiddle

variable {body : α → Service σ ε PUnit} {items : List α}

theorem Keeps.forM (h : ∀ a ∈ items, Keeps P (body a)) : Keeps P (items.forM body) := by
  induction items with
  | nil => exact .of_same fun _ => rfl
  | cons a items ih =>
    exact (h a List.mem_cons_self).bind fun _ => ih fun b hb => h b (List.mem_cons_of_mem a hb)

theorem Refuses.forM {a : α} (ha : a ∈ items)
    (hkeeps : ∀ b ∈ items, Keeps P (body b)) (h : Refuses P (body a)) : Refuses P (items.forM body) := by
  induction items with
  | nil => cases ha
  | cons b items ih =>
    rcases List.mem_cons.mp ha with rfl | hrest
    · exact h.bind
    · exact .after (hkeeps b List.mem_cons_self) fun _ =>
        ih hrest fun b' hb' => hkeeps b' (List.mem_cons_of_mem b hb')

end Service
