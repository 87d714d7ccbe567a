/-!
# Results

A sequence of two steps comes to something in one of two ways: the first step fails, or it
ends well and the second one comes to it. The lemmas on `bind` say so, for computations
without a state and with one.

Two computations may come to the same, or nearly so, because one of them does what the other
does on a changed input. `Compares` says it of their results: values are related, and errors
have changed in a way that is a parameter. There may be errors of the first computation on
which the second one does something else altogether; these are `loose`, and the second
computation is not followed beyond them.
-/

namespace FilterQuery

/-! ## Sequences -/

namespace Except

variable {ε α β : Type}

theorem exists_of_bind_eq_ok {x : Except ε α} {f : α → Except ε β} {b : β}
    (h : x >>= f = .ok b) : ∃ a, x = .ok a ∧ f a = .ok b := by
  cases x with
  | error e => cases h
  | ok a => exact ⟨a, rfl, h⟩

end Except

namespace EStateM

variable {ε σ α β : Type} {x : EStateM ε σ α} {f : α → EStateM ε σ β} {s s' : σ}

theorem bind_eq_ok_iff {b : β} :
    (x >>= f) s = .ok b s' ↔ ∃ a s₁, x s = .ok a s₁ ∧ f a s₁ = .ok b s' := by
  simp only [bind, EStateM.bind]
  cases x s <;> simp [and_assoc]

theorem bind_eq_error_iff {e : ε} :
    (x >>= f) s = .error e s' ↔
      x s = .error e s' ∨ ∃ a s₁, x s = .ok a s₁ ∧ f a s₁ = .error e s' := by
  simp only [bind, EStateM.bind]
  cases x s <;> simp [and_assoc]

/-- A sequence goes on where its first part ended. -/
theorem bind_of_eq_ok {a : α} (h : x s = .ok a s') : (x >>= f) s = f a s' := by
  simp [bind, EStateM.bind, h]

end EStateM

/-! ## Results side by side -/

/-- What becomes of an error, and the errors of which that is not asked. -/
structure ErrorChange (ε : Type) where
  becomes : ε → ε → Prop
  loose : ε → Prop

/-- The result `y` is what `x` is, with the values and errors that correspond, unless `x` is a
loose error. -/
inductive Compares {ε α β : Type} (E : ErrorChange ε) (V : α → β → Prop) :
    Except ε α → Except ε β → Prop
  | ok {a : α} {b : β} (h : V a b) : Compares E V (.ok a) (.ok b)
  | error {e e' : ε} (h : E.becomes e e') : Compares E V (.error e) (.error e')
  | loose {e : ε} (h : E.loose e) (y : Except ε β) : Compares E V (.error e) y

namespace Compares

variable {ε α β α' β' : Type} {E : ErrorChange ε} {V : α → β → Prop} {W : α' → β' → Prop}
  {x : Except ε α} {y : Except ε β}

theorem eq_ok {a : α} (h : Compares E V x y) (hx : x = .ok a) : ∃ b, y = .ok b ∧ V a b := by
  cases h with
  | @ok _ b hab => cases hx; exact ⟨b, rfl, hab⟩
  | error => cases hx
  | loose => cases hx

theorem eq_error {e : ε} (h : Compares E V x y) (hx : x = .error e) :
    E.loose e ∨ ∃ e', y = .error e' ∧ E.becomes e e' := by
  cases h with
  | ok => cases hx
  | @error _ e' he => cases hx; exact .inr ⟨e', rfl, he⟩
  | loose he => cases hx; exact .inl he

theorem map {f : α → α'} {g : β → β'} (h : Compares E V x y)
    (hf : ∀ a b, V a b → W (f a) (g b)) : Compares E W (x.map f) (y.map g) := by
  cases h with
  | ok hab => exact .ok (hf _ _ hab)
  | error he => exact .error he
  | loose he => exact .loose he _

theorem bind {k : α → Except ε α'} {k' : β → Except ε β'} (h : Compares E V x y)
    (hk : ∀ a b, V a b → Compares E W (k a) (k' b)) : Compares E W (x >>= k) (y >>= k') := by
  cases h with
  | ok hab => exact hk _ _ hab
  | error he => exact .error he
  | loose he => exact .loose he _

end Compares

end FilterQuery
