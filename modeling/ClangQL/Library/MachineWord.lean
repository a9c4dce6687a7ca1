import Mathlib.Algebra.Order.Ring.Int
import Mathlib.Data.UInt

/-!
# Machine words

A word holds flags, one in each bit; it contains a single flag when the two have a bit in common.

A wide integer is narrowed to a signed word by its balanced residue. A range of nonnegative
words is reached from the integers whose residue is in it. An unsigned word of the lower half
narrows to itself, and one of the upper half to a negative word: the order is kept within each
half, and turned around between them.

## Main definitions

* `UInt32.flag k`: the word `1 << k`

## Main results

* `Int.bmod_mem_range_iff`: which integers narrow to a given range
* `Int.bmod_of_mem_range`: an integer of the range narrows to itself
* `Int.natCast_bmod`: what an unsigned word narrows to
* `Int.compare_natCast_bmod_iff`: the unsigned words that narrowing keeps in order
* `Ordering.then_eq_then_iff`: when two lexicographic comparisons agree
* `UInt32.toInt_toInt32`: the signed value of an unsigned word
* `UInt32.compare_toInt_toInt32_iff`: the words in the same order signed and unsigned
* `UInt32.and_flag_eq_self_iff`: a word contains a flag when they meet
-/

section Residue

variable {i : ℤ} {n m : ℕ}

/-- An integer narrows to the range below `n` when its residue is below `n`. -/
theorem Int.bmod_mem_range_iff (hm : 0 < m) (hn : 2 * n ≤ m) :
    (0 ≤ i.bmod m ∧ i.bmod m < n) ↔ i % m < n := by
  have hnonneg : 0 ≤ i % m := Int.emod_nonneg i (by omega)
  have hlt : i % m < m := Int.emod_lt_of_pos i (by omega)
  rw [Int.bmod_def]
  split_ifs with hhalf
  · exact and_iff_right hnonneg
  · constructor
    · rintro ⟨hpos, -⟩
      omega
    · intro hlow
      omega

/-- An integer of the range below `n` narrows to itself. -/
theorem Int.bmod_of_mem_range (hn : 2 * n ≤ m) (hpos : 0 ≤ i) (hlt : i < n) : i.bmod m = i :=
  Int.bmod_eq_of_le_mul_two (by omega) (by omega)

end Residue

section Word

variable {a b m : ℕ}

/-- **An unsigned word** of the lower half narrows to itself, and one of the upper half to a
negative word. -/
theorem Int.natCast_bmod (ha : a < m) :
    (a : ℤ).bmod m = if 2 * a < m then (a : ℤ) else a - m := by
  rw [Int.bmod_def, Int.emod_eq_of_lt (by omega) (by omega)]
  split_ifs <;> omega

theorem Int.natCast_bmod_eq_self_iff (ha : a < m) : (a : ℤ).bmod m = a ↔ 2 * a < m := by
  rw [Int.natCast_bmod ha]
  split_ifs <;> omega

theorem Int.natCast_bmod_nonneg_iff (ha : a < m) : 0 ≤ (a : ℤ).bmod m ↔ 2 * a < m := by
  rw [Int.natCast_bmod ha]
  split_ifs <;> omega

/-- Narrowing keeps different words apart. -/
theorem Int.natCast_bmod_inj (ha : a < m) (hb : b < m) :
    (a : ℤ).bmod m = (b : ℤ).bmod m ↔ a = b := by
  rw [Int.natCast_bmod ha, Int.natCast_bmod hb]
  split_ifs <;> omega

/-- **The order of two words** is kept when they are in the same half. -/
theorem Int.compare_natCast_bmod_iff (ha : a < m) (hb : b < m) :
    compare ((a : ℤ).bmod m) ((b : ℤ).bmod m) = compare a b ↔ (2 * a < m ↔ 2 * b < m) := by
  rw [Int.natCast_bmod ha, Int.natCast_bmod hb]
  rcases lt_trichotomy a b with hlt | rfl | hgt
  · rw [compare_lt_iff_lt.mpr hlt, compare_lt_iff_lt]
    split_ifs <;> omega
  · exact iff_of_true (by rw [compare_eq_iff_eq.mpr rfl, compare_eq_iff_eq.mpr rfl]) Iff.rfl
  · rw [compare_gt_iff_gt.mpr hgt, compare_gt_iff_gt]
    split_ifs <;> omega

end Word

/-- **Two lexicographic comparisons** that find the first components equal together agree when the
first comparisons do, and in that case the second ones. -/
theorem Ordering.then_eq_then_iff {o₁ o₂ p₁ p₂ : Ordering} (h : o₁ = .eq ↔ o₂ = .eq) :
    o₁.then p₁ = o₂.then p₂ ↔ o₁ = o₂ ∧ (o₂ = .eq → p₁ = p₂) := by
  by_cases hne : o₂ = .eq
  · rw [h.mpr hne, hne, Ordering.eq_then, Ordering.eq_then]
    simp
  · cases o₁ <;> cases o₂ <;> simp_all

/-! ## Unsigned 32-bit words -/

namespace UInt32

/-- The signed value of an unsigned word. -/
theorem toInt_toInt32 (n : UInt32) : n.toInt32.toInt = (n.toNat : ℤ).bmod (2 ^ 32) :=
  BitVec.toInt_eq_toNat_bmod n.toBitVec

/-- **The signed value is the unsigned one** below `2 ^ 31`. -/
theorem toInt_toInt32_eq_toNat_iff (n : UInt32) :
    n.toInt32.toInt = n.toNat ↔ n.toNat < 2 ^ 31 := by
  rw [toInt_toInt32, Int.natCast_bmod_eq_self_iff n.toNat_lt]
  omega

theorem toInt_toInt32_nonneg_iff (n : UInt32) : 0 ≤ n.toInt32.toInt ↔ n.toNat < 2 ^ 31 := by
  rw [toInt_toInt32, Int.natCast_bmod_nonneg_iff n.toNat_lt]
  omega

theorem toInt_toInt32_inj {a b : UInt32} : a.toInt32.toInt = b.toInt32.toInt ↔ a = b := by
  rw [toInt_toInt32, toInt_toInt32, Int.natCast_bmod_inj a.toNat_lt b.toNat_lt,
    UInt32.toNat_inj]

/-- **The signed order is the unsigned one** for words on the same side of `2 ^ 31`. -/
theorem compare_toInt_toInt32_iff (a b : UInt32) :
    compare a.toInt32.toInt b.toInt32.toInt = compare a.toNat b.toNat ↔
      (a.toNat < 2 ^ 31 ↔ b.toNat < 2 ^ 31) := by
  rw [toInt_toInt32, toInt_toInt32, Int.compare_natCast_bmod_iff a.toNat_lt b.toNat_lt]
  omega

/-! ### Flags -/

/-- The word `1 << k`. -/
def flag (k : ℕ) : UInt32 := ⟨.twoPow 32 k⟩

/-- A word contains a flag when they meet. -/
theorem and_flag_eq_self_iff (p : UInt32) {k : ℕ} (hk : k < 32) :
    p &&& flag k = flag k ↔ p &&& flag k ≠ 0 := by
  have hne : BitVec.twoPow 32 k ≠ 0#32 := by
    intro hzero
    have hbit := congrArg (BitVec.getLsbD · k) hzero
    simp [hk] at hbit
  rw [ne_eq, ← UInt32.toBitVec_inj, ← UInt32.toBitVec_inj, UInt32.toBitVec_and, flag,
    BitVec.and_twoPow]
  cases p.toBitVec.getLsbD k with
  | true => exact iff_of_true rfl hne
  | false => exact iff_of_false hne.symm fun h => h rfl

/-- Whether a word contains a flag, as a number. -/
theorem ite_and_flag {α : Type*} (p : UInt32) {k : ℕ} (hk : k < 32) (a b : α) :
    (if (p &&& flag k == flag k) = true then a else b) = if p &&& flag k ≠ 0 then a else b :=
  if_congr (beq_iff_eq.trans (and_flag_eq_self_iff p hk)) rfl rfl

end UInt32
