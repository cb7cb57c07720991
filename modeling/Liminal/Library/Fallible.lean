import Mathlib.Data.Option.Basic

/-!
# Fallible computations

Programs that stop at the first failed check are written in `Except`. The `_eq_ok` lemmas turn
success into the list of checks and intermediate results. `Avoids` is for the other direction: which
errors a computation cannot stop with.
-/

namespace Fallible

variable {ε α β : Type}

def require (check : Prop) [Decidable check] (error : ε) : Except ε Unit :=
  if check then .ok () else .error error

def orError (value : Option α) (error : ε) : Except ε α := match value with
  | some a => .ok a
  | none => .error error

variable {error : ε} {a : α} {x : Except ε α} {b : β}

@[simp] theorem require_eq_ok {check : Prop} [Decidable check] {u : Unit} : require check error = .ok u ↔ check := by
  unfold require
  split <;> simp_all

@[simp] theorem orError_eq_ok {value : Option α} : orError value error = .ok a ↔ value = some a := by
  cases value <;> simp [orError]

@[simp] theorem bind_eq_ok {f : α → Except ε β} : (x >>= f) = .ok b ↔ ∃ a, x = .ok a ∧ f a = .ok b := by
  cases x <;> simp [bind, Except.bind]

@[simp] theorem mapError_eq_ok {ε' : Type} {g : ε → ε'} : x.mapError g = .ok a ↔ x = .ok a := by
  cases x <;> constructor <;> intro h <;> cases h <;> rfl

@[simp] theorem map_eq_ok {f : α → β} : x.map f = .ok b ↔ ∃ a, x = .ok a ∧ f a = b := by
  cases x <;> simp [Except.map]

@[simp] theorem toOption_eq_some : x.toOption = some a ↔ x = .ok a := by
  cases x <;> simp [Except.toOption]

@[simp] theorem pure_eq_ok {b : α} : (pure a : Except ε α) = .ok b ↔ a = b := by
  simp [pure, Except.pure]

@[simp] theorem bind_eq_some {x : Option α} {f : α → Option β} : (x >>= f) = some b ↔ ∃ a, x = some a ∧ f a = some b :=
  Option.bind_eq_some_iff

@[simp] theorem pure_eq_some {b : α} : (pure a : Option α) = some b ↔ a = b := Option.some_inj

/-- The checks and intermediate results of a computation that succeeded, as one set for `simp`. -/
theorem ok_iff : (∀ {ε α β : Type} {x : Except ε α} {f : α → Except ε β} {b : β},
      (x >>= f) = .ok b ↔ ∃ a, x = .ok a ∧ f a = .ok b) ∧
    (∀ {ε α : Type} {a b : α}, (pure a : Except ε α) = .ok b ↔ a = b) ∧
    (∀ {ε ε' α : Type} {x : Except ε α} {g : ε → ε'} {a : α}, x.mapError g = .ok a ↔ x = .ok a) ∧
    (∀ {ε α : Type} {value : Option α} {error : ε} {a : α}, orError value error = .ok a ↔ value = some a) ∧
    (∀ {ε : Type} {check : Prop} [Decidable check] {error : ε} {u : Unit},
      require check error = .ok u ↔ check) ∧ ∀ {p : Prop}, (∃ _ : Unit, p) ↔ p :=
  ⟨bind_eq_ok, pure_eq_ok, mapError_eq_ok, orError_eq_ok, require_eq_ok, exists_const _⟩

theorem some_iff : (∀ {α β : Type} {x : Option α} {f : α → Option β} {b : β},
      (x >>= f) = some b ↔ ∃ a, x = some a ∧ f a = some b) ∧
    (∀ {α : Type} {a b : α}, (pure a : Option α) = some b ↔ a = b) ∧
    (∀ {ε α : Type} {x : Except ε α} {a : α}, x.toOption = some a ↔ x = .ok a) ∧
    (∀ {p : Prop} [Decidable p] {u : Unit}, (guard p : Option Unit) = some u ↔ p) ∧ ∀ {p : Prop}, (∃ _ : Unit, p) ↔ p :=
  ⟨bind_eq_some, pure_eq_some, toOption_eq_some, Option.guard_eq_some' _, exists_const _⟩

section

variable {result : Option α}

theorem exists_of_any {p : α → Prop} [DecidablePred p]
    (h : result.any (fun a => decide (p a)) = true) : ∃ a, result = some a ∧ p a := by
  cases result with
  | none => cases h
  | some a => exact ⟨a, rfl, of_decide_eq_true h⟩

theorem exists_of_any_and {p q : α → Prop} [DecidablePred p] (hresult : ∀ a, result = some a → q a)
    (h : result.any (fun a => decide (p a)) = true) : ∃ a, result = some a ∧ q a ∧ p a := by
  obtain ⟨a, ha, hp⟩ := exists_of_any h
  exact ⟨a, ha, hresult a ha, hp⟩

theorem exists_of_any_imp {p q : α → Prop} [DecidablePred p] (h : result.any
    (fun a => decide (p a)) = true) (hq : ∀ a, result = some a → p a → q a) : ∃ a, result = some a ∧ p a ∧ q a := by
  obtain ⟨a, ha, hp⟩ := exists_of_any h
  exact ⟨a, ha, hp, hq a ha hp⟩

theorem exists_of_any_imp₂ {p p' q : α → Prop} [DecidablePred p] [DecidablePred p']
    (h : result.any (fun a => decide (p a ∧ p' a)) = true) (hq : ∀ a, result = some a → p a → p' a → q a) :
    ∃ a, result = some a ∧ p a ∧ p' a ∧ q a := by
  obtain ⟨a, ha, hp, hp'⟩ := exists_of_any h
  exact ⟨a, ha, hp, hp', hq a ha hp hp'⟩

end

/-! ### Errors -/

instance (priority := low) decidableEqError [DecidableEq ε] : Decidable (x = .error error) := match x with
  | .ok _ => isFalse nofun
  | .error other => decidable_of_iff (other = error) ⟨congrArg _, Except.error.inj⟩

/-- The computation may fail, but with none of these errors. -/
def Avoids (bad : ε → Prop) (x : Except ε α) : Prop := ∀ error, x = .error error → ¬bad error

section Avoids

variable {bad : ε → Prop}

theorem avoids_ok (a : α) : Avoids bad (.ok a) := nofun

theorem avoids_error (h : ¬bad error) : Avoids bad (.error error : Except ε α) := by
  intro other hother
  rwa [← Except.error.inj hother]

theorem Avoids.bind {f : α → Except ε β} (hx : Avoids bad x)
    (hf : ∀ a, x = .ok a → Avoids bad (f a)) : Avoids bad (x >>= f) := by
  cases x with
  | error e => exact avoids_error (hx e rfl)
  | ok a => exact hf a rfl

theorem Avoids.map (hx : Avoids bad x) (f : α → β) : Avoids bad (x.map f) := by
  cases x with
  | error e => exact avoids_error (hx e rfl)
  | ok a => exact avoids_ok (f a)

theorem avoids_require {check : Prop} [Decidable check] (h : bad error → check) : Avoids bad (require check error) := by
  unfold require
  split
  · exact avoids_ok _
  · exact avoids_error (mt h ‹_›)

theorem avoids_orError {value : Option α} (h : bad error → value.isSome) : Avoids bad (orError value error) := by
  cases value with
  | some a => exact avoids_ok _
  | none => exact avoids_error fun hbad => nomatch h hbad

theorem avoids_mapError {ε' : Type} {g : ε' → ε} (h : ∀ error, ¬bad (g error)) (x : Except ε' α) :
    Avoids bad (x.mapError g) := by
  cases x with
  | error e => exact avoids_error (h e)
  | ok a => exact avoids_ok _

end Avoids

end Fallible
