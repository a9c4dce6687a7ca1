import ClangQL.Library.CantorPairing
import ClangQL.Relations.Cursor

/-!
# Rowids of the relation tables

The rowid of a pair of ids is meant to be Cantor's pairing of their values, but the sum is
halved before it is multiplied, which loses half of an odd sum.

## Main definitions

* `RelationsCursor.HasValues`: the values of the two ids at hand
* `Fits`: the pairing and its products are signed 64-bit integers
* `RowidsPair`: two rowids are the pairings of their values

## Main results

* `RelationsCursor.rowId_eq`: what `RowId` computes
* `rowidsPair_iff`: the pairs of rows whose rowids are pairings
-/

namespace ClangQL

open RelationsCursor

/-- The subject and the object at hand have these hexadecimal values. -/
def RelationsCursor.HasValues (c : RelationsCursor) (x : ℕ × ℕ) : Prop :=
  ∃ s, c.stream = some s ∧ (strtoll16 (cStr s.current.getSubjectId)).1 = x.1 ∧
    (strtoll16 (cStr s.current.getObjectId)).1 = x.2

/-- The pairing of the values and every product on the way are signed 64-bit integers. -/
def Fits (x : ℕ × ℕ) : Prop :=
  (x.1 + x.2) * (x.1 + x.2 + 1) < 2 ^ 63 ∧ cantorPair x.1 x.2 < 2 ^ 63

instance (x : ℕ × ℕ) : Decidable (Fits x) := inferInstanceAs (Decidable (_ ∧ _))

/-- The rowids of two rows are the pairings of their values, and so differ when the values
do. -/
structure RowidsPair (c d : RelationsCursor) (x y : ℕ × ℕ) : Prop where
  left : c.rowId = .ok (cantorPair x.1 x.2)
  right : d.rowId = .ok (cantorPair y.1 y.2)
  ne : x ≠ y → c.rowId ≠ d.rowId

variable {c d : RelationsCursor} {x y : ℕ × ℕ}

theorem checked_natCast {n : ℕ} (h : n < 2 ^ 63) : checked n = .ok n := by
  rw [checked, if_pos (by omega)]

/-- The code's number of a pair is the pairing, short of half of an odd sum. -/
theorem cantorPair_eq (a b : ℕ) : cantorPair a b =
    (a + b) / 2 * (a + b + 1) + b + if Even (a + b) then 0 else (a + b + 1) / 2 := by
  rw [cantorPair, half_mul_succ]
  omega

/-- `RowId`, from the results of its operations. -/
theorem RelationsCursor.rowIdOf_of_checked {subjectId objectId : Str} {a b t t' p : Int}
    (ha : (strtoll16 (cStr subjectId)).1 = a) (hb : (strtoll16 (cStr objectId)).1 = b)
    (h₁ : checked (a + b) = .ok t) (h₂ : checked (t + 1) = .ok t')
    (h₃ : checked (t >>> (1 : ℕ) * t') = .ok p) :
    rowIdOf subjectId objectId = checked (p + b) := by
  rw [rowIdOf, ha, hb]
  simp only [Bind.bind, Except.bind, h₁, h₂, h₃]

theorem shiftRight_natCast (t : ℕ) : (t : Int) >>> (1 : ℕ) = (t / 2 : ℕ) := by
  rw [Int.shiftRight_eq_div_pow, Int.natCast_ediv, Nat.pow_one]

/-- No operation overflows below the bound of the pairing. -/
theorem RelationsCursor.rowIdOf_eq {subjectId objectId : Str} {a b : ℕ}
    (ha : (strtoll16 (cStr subjectId)).1 = a) (hb : (strtoll16 (cStr objectId)).1 = b)
    (hx : Fits (a, b)) :
    rowIdOf subjectId objectId = .ok ((a + b) / 2 * (a + b + 1) + b : ℕ) := by
  have hmul : (a + b) * (a + b + 1) < 2 ^ 63 := hx.1
  have hsum : (a + b) / 2 * (a + b + 1) + b < 2 ^ 63 := by
    refine lt_of_le_of_lt ?_ hx.2
    rw [cantorPair_eq]
    exact Nat.le_add_right _ _
  have hsucc : a + b + 1 < 2 ^ 63 := by
    rcases Nat.eq_zero_or_pos (a + b) with hz | hpos
    · omega
    · exact (Nat.le_mul_of_pos_left _ hpos).trans_lt hmul
  have h₁ : checked ((a : Int) + b) = .ok ((a + b : ℕ) : Int) := by
    rw [← Int.natCast_add]
    exact checked_natCast (by omega)
  have h₂ : checked (((a + b : ℕ) : Int) + 1) = .ok ((a + b + 1 : ℕ) : Int) := by
    rw [← Int.natCast_succ]
    exact checked_natCast hsucc
  have h₃ : checked (((a + b : ℕ) : Int) >>> (1 : ℕ) * ((a + b + 1 : ℕ) : Int)) =
      .ok (((a + b) / 2 * (a + b + 1) : ℕ) : Int) := by
    rw [shiftRight_natCast, ← Int.natCast_mul]
    exact checked_natCast (by omega)
  rw [rowIdOf_of_checked ha hb h₁ h₂ h₃, ← Int.natCast_add]
  exact checked_natCast hsum

/-- **What `RowId` computes** when nothing overflows. -/
theorem RelationsCursor.rowId_eq (hc : c.HasValues x) (hx : Fits x) :
    c.rowId = .ok ((x.1 + x.2) / 2 * (x.1 + x.2 + 1) + x.2 : ℕ) := by
  obtain ⟨s, hs, hsubject, hobject⟩ := hc
  rw [RelationsCursor.rowId, hs]
  exact rowIdOf_eq hsubject hobject hx

/-- `RowId` computes the pairing exactly on even sums. -/
theorem RelationsCursor.rowId_eq_cantorPair_iff (hc : c.HasValues x) (hx : Fits x) :
    c.rowId = .ok (cantorPair x.1 x.2) ↔ Even (x.1 + x.2) := by
  have hcast : ∀ m n : ℕ, (Except.ok (m : Int) : Outcome Int) = .ok (n : Int) ↔ m = n := by
    intro m n
    simp
  rw [rowId_eq hc hx, hcast, cantorPair_eq]
  by_cases heven : Even (x.1 + x.2)
  · simp [heven]
  · have hpos : 0 < x.1 + x.2 := Nat.pos_of_ne_zero fun hz => heven (by rw [hz]; exact Even.zero)
    rw [if_neg heven]
    refine iff_of_false ?_ heven
    omega

/-- **The pairs of rows whose rowids are pairings** are those with even sums. -/
theorem rowidsPair_iff {c d : RelationsCursor} {x y : ℕ × ℕ} (hc : c.HasValues x)
    (hd : d.HasValues y) (hx : Fits x) (hy : Fits y) :
    RowidsPair c d x y ↔ Even (x.1 + x.2) ∧ Even (y.1 + y.2) := by
  rw [← rowId_eq_cantorPair_iff hc hx, ← rowId_eq_cantorPair_iff hd hy]
  constructor
  · exact fun h => ⟨h.left, h.right⟩
  · rintro ⟨hleft, hright⟩
    refine ⟨hleft, hright, fun hne he => hne ?_⟩
    rw [hleft, hright] at he
    have hpair : cantorPair x.1 x.2 = cantorPair y.1 y.2 := by simpa using he
    obtain ⟨h₁, h₂⟩ := cantorPair_injective hpair
    exact Prod.ext h₁ h₂

/-- The cursor at a pair of ids. -/
def cursorAtPair (subjectId objectId : Str) : RelationsCursor :=
  { kind := .baseOf
    stream := some ⟨[], .streamResult
      { subjectId := some subjectId, object := some { id := some objectId } }⟩ }

/-- The pairs `(1, 1)` and `(2, 0)` have their pairings for rowids. -/
theorem rowidsPair_diagonal_two :
    RowidsPair (cursorAtPair ['1'] ['1']) (cursorAtPair ['2'] ['0']) (1, 1) (2, 0) :=
  (rowidsPair_iff ⟨_, rfl, rfl, rfl⟩ ⟨_, rfl, rfl, rfl⟩ (by decide) (by decide)).mpr (by decide)

/-- **Equal rowids.** The pairs `(0, 0)` and `(1, 0)` have the same rowid. -/
theorem not_rowidsPair_diagonal_one :
    (cursorAtPair "0000000000000000".toList "0000000000000000".toList).HasValues (0, 0) ∧
      (cursorAtPair "0000000000000001".toList "0000000000000000".toList).HasValues (1, 0) ∧
        Fits (0, 0) ∧ Fits (1, 0) ∧
          ¬ RowidsPair (cursorAtPair "0000000000000000".toList "0000000000000000".toList)
            (cursorAtPair "0000000000000001".toList "0000000000000000".toList) (0, 0) (1, 0) := by
  have hc : (cursorAtPair "0000000000000000".toList "0000000000000000".toList).HasValues (0, 0) :=
    ⟨_, rfl, by decide, by decide⟩
  have hd : (cursorAtPair "0000000000000001".toList "0000000000000000".toList).HasValues (1, 0) :=
    ⟨_, rfl, by decide, by decide⟩
  refine ⟨hc, hd, by decide, by decide, fun h => h.ne (by decide) ?_⟩
  rw [rowId_eq hc (by decide), rowId_eq hd (by decide)]
  rfl

end ClangQL
