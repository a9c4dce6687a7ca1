import Mathlib.Algebra.Order.Group.Nat
import Mathlib.Data.Nat.Choose.Basic
import Mathlib.Tactic.Ring

/-!
# Cantor's pairing function

The pairs of natural numbers, numbered along the diagonals `a + b = t`. The pairs before the
diagonal `t` number the triangle `t * (t + 1) / 2`.

## Main definitions

* `triangle t`: the number of pairs before the diagonal `t`
* `cantorPair a b`: the number of the pair

## Main results

* `cantorPair_injective`: different pairs have different numbers
* `half_mul_succ`: halving before multiplying loses half of an odd diagonal
* `half_mul_succ_add_lt`, `le_half_mul_succ`: the diagonals whose halved numbers stay below
  `2 * n ^ 2`
-/

/-- The number of pairs before the diagonal `t`. -/
def triangle (t : ℕ) : ℕ := t * (t + 1) / 2

/-- Cantor's pairing function. -/
def cantorPair (a b : ℕ) : ℕ := triangle (a + b) + b

theorem triangle_add_one (t : ℕ) : triangle (t + 1) = triangle t + (t + 1) := by
  have h : (t + 1) * (t + 1 + 1) = t * (t + 1) + (t + 1) * 2 := by ring
  rw [triangle, triangle, h, Nat.add_mul_div_right _ _ Nat.two_pos]

theorem triangle_mono : Monotone triangle :=
  monotone_nat_of_le_succ fun t => by
    rw [triangle_add_one]
    exact Nat.le_add_right _ _

/-- A pair comes before the next diagonal. -/
theorem cantorPair_lt_triangle {a b t : ℕ} (h : a + b < t) : cantorPair a b < triangle t := by
  calc cantorPair a b < triangle (a + b + 1) := by
        rw [cantorPair, triangle_add_one]
        omega
    _ ≤ triangle t := triangle_mono h

/-- **Different pairs have different numbers.** -/
theorem cantorPair_injective {a b c d : ℕ} (h : cantorPair a b = cantorPair c d) :
    a = c ∧ b = d := by
  have hsum : a + b = c + d := by
    rcases lt_trichotomy (a + b) (c + d) with hlt | heq | hlt
    · have := cantorPair_lt_triangle hlt
      rw [h, cantorPair] at this
      omega
    · exact heq
    · have := cantorPair_lt_triangle hlt
      rw [← h, cantorPair] at this
      omega
  have hb : b = d := by
    rw [cantorPair, cantorPair, hsum] at h
    omega
  exact ⟨by omega, hb⟩

/-- **Halving before multiplying** falls short of the triangle by half of an odd diagonal. -/
theorem half_mul_succ (t : ℕ) :
    triangle t = t / 2 * (t + 1) + if Even t then 0 else (t + 1) / 2 := by
  rcases Nat.even_or_odd' t with ⟨k, rfl | rfl⟩
  · have h : 2 * k * (2 * k + 1) = k * (2 * k + 1) * 2 := by ring
    rw [if_pos (even_two_mul k), triangle, h, Nat.mul_div_cancel _ Nat.two_pos,
      Nat.mul_div_cancel_left _ Nat.two_pos]
    rfl
  · have h : (2 * k + 1) * (2 * k + 1 + 1) = (2 * k + 1) * (k + 1) * 2 := by ring
    have hodd : ¬ Even (2 * k + 1) := Nat.not_even_iff_odd.mpr (odd_two_mul_add_one k)
    have hhalf : (2 * k + 1) / 2 = k := by omega
    have hsucc : (2 * k + 1 + 1) / 2 = k + 1 := by omega
    rw [if_neg hodd, triangle, h, Nat.mul_div_cancel _ Nat.two_pos, hhalf, hsucc]
    ring

/-- On the diagonals before `2 * n` the halved numbers stay below `2 * n ^ 2`. -/
theorem half_mul_succ_add_lt {t b n : ℕ} (hb : b ≤ t) (ht : t < 2 * n) :
    t / 2 * (t + 1) + b < 2 * n ^ 2 := by
  have hhalf : t / 2 + 1 ≤ n := by omega
  have hsucc : t + 1 ≤ 2 * (t / 2 + 1) := by omega
  calc t / 2 * (t + 1) + b < t / 2 * (t + 1) + (t + 1) := by omega
    _ = (t / 2 + 1) * (t + 1) := by ring
    _ ≤ n * (2 * n) := Nat.mul_le_mul hhalf (hsucc.trans (by omega))
    _ = 2 * n ^ 2 := by ring

/-- From the diagonal `2 * n` on already the product does not. -/
theorem le_half_mul_succ {t n : ℕ} (ht : 2 * n ≤ t) : 2 * n ^ 2 ≤ t / 2 * (t + 1) := by
  have hhalf : n ≤ t / 2 := by omega
  calc 2 * n ^ 2 = n * (2 * n) := by ring
    _ ≤ t / 2 * (t + 1) := Nat.mul_le_mul hhalf (by omega)
