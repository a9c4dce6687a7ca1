import Mathlib.Tactic.TypeStar

/-!
# Peeling computations that may fail

A computation in `Except` that ends in a value passed each of its steps, and one that ends in
an error failed at one of them.

## Main definitions

* `Except.FailsIn S`: a computation whose errors all lie in `S`

## Main results

* `Except.map_eq_ok`, `Except.map_eq_error`: the outcome of a mapped computation
* `Except.bind_eq_ok`, `Except.bind_eq_error`: the outcome of two computations in sequence
* `Except.FailsIn.bind`: a computation fails in `S` when each of its steps does
-/

namespace Except

universe u

variable {ε α β : Type*}

theorem map_eq_ok {x : Except ε α} {f : α → β} {b : β} :
    x.map f = .ok b ↔ ∃ a, x = .ok a ∧ f a = b := by
  cases x <;> simp [Except.map]

theorem map_eq_error {x : Except ε α} {f : α → β} {e : ε} :
    x.map f = .error e ↔ x = .error e := by
  cases x <;> simp [Except.map]

theorem bind_eq_ok {α β : Type u} {x : Except ε α} {f : α → Except ε β} {b : β} :
    (x >>= f) = .ok b ↔ ∃ a, x = .ok a ∧ f a = .ok b := by
  cases x <;> simp [Bind.bind, Except.bind]

theorem bind_eq_error {α β : Type u} {x : Except ε α} {f : α → Except ε β} {e : ε} :
    (x >>= f) = .error e ↔ x = .error e ∨ ∃ a, x = .ok a ∧ f a = .error e := by
  cases x <;> simp [Bind.bind, Except.bind]

/-- The computation completes, or ends in an error of `S`. -/
def FailsIn (S : ε → Prop) (x : Except ε α) : Prop := ∀ e, x = .error e → S e

section FailsIn

variable {S : ε → Prop}

theorem FailsIn.ne_error {x : Except ε α} {e : ε} (h : x.FailsIn S) (he : ¬ S e) :
    x ≠ .error e := fun hx => he (h e hx)

theorem failsIn_ok (a : α) : (.ok a : Except ε α).FailsIn S := by
  intro e he
  exact absurd he (by simp)

theorem FailsIn.bind {α β : Type u} {x : Except ε α} {f : α → Except ε β} (hx : x.FailsIn S)
    (hf : ∀ a, (f a).FailsIn S) : (x >>= f).FailsIn S := by
  intro e he
  rcases bind_eq_error.mp he with he | ⟨a, -, he⟩
  · exact hx e he
  · exact hf a e he

end FailsIn

end Except
