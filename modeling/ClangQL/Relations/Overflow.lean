import ClangQL.Relations.RowId

/-!
# Overflow in the rowids of the relation tables

`RowId` computes with the values of the two ids as `strtoll` reads them, each up to
`2 ^ 63 - 1`. None of its operations is checked, and a signed overflow is no exception for
`module_rowid` to catch.

## Main definitions

* `IsHexId`: 16 hexadecimal digits, of either case
* `RelationsCursor.intermediates`: the results of the operations of `RowId`
* `RelationsCursor.RowIdSafe`: every operation is defined, or an error is reported

## Main results

* `RelationsCursor.rowIdOf_ne_overflow_iff`: `RowId` is defined when no operation overflows
* `inRange_intermediates_iff`: the values for which none does
* `rowIdSafe_iff`: the pairs of ids for which `RowId` is safe
-/

namespace ClangQL

/-- An id as clangd sends it: a 64-bit value in 16 hexadecimal digits. -/
def IsHexId (x : Str) : Prop := x.length = 16 ∧ ∀ c ∈ x, (hexDigit c).isSome

instance (x : Str) : Decidable (IsHexId x) :=
  decidable_of_iff (x.length = 16 ∧ x.all fun c => (hexDigit c).isSome)
    (and_congr_right fun _ => List.all_eq_true)

/-- A signed 64-bit integer. -/
def InRange (v : Int) : Prop := -2 ^ 63 ≤ v ∧ v < 2 ^ 63

instance (v : Int) : Decidable (InRange v) := inferInstanceAs (Decidable (_ ∧ _))

namespace RelationsCursor

/-- The results of the operations of `RowId` on the converted ids: the sum, the sum plus one, the
product and the final sum. -/
def intermediates (a b : Int) : List Int :=
  [a + b, a + b + 1, (a + b) >>> (1 : ℕ) * (a + b + 1), (a + b) >>> (1 : ℕ) * (a + b + 1) + b]

/-- Every operation of `RowId` on the converted ids is defined, unless an error is reported. -/
structure RowIdSafe (sql : Sqlite) (c : RelationsCursor) (a b : Int) : Prop where
  inRange : (∀ v ∈ intermediates a b, InRange v) ∨
    (methods sql).moduleRowid c = .ok (sqliteError, none)
  defined : (methods sql).moduleRowid c ≠ .error (.undefined .signedOverflow)

/-! ## The operations -/

theorem checked_ne_overflow_iff {v : Int} :
    checked v ≠ .error (.undefined .signedOverflow) ↔ InRange v := by
  unfold checked
  split_ifs with hv
  · exact iff_of_true (by simp) hv
  · exact iff_of_false (fun h => h rfl) hv

theorem checked_bind_ne_overflow_iff {v : Int} {f : Int → Outcome Int} :
    (checked v >>= f) ≠ .error (.undefined .signedOverflow) ↔
      InRange v ∧ f v ≠ .error (.undefined .signedOverflow) := by
  unfold checked
  split_ifs with hv
  · exact (and_iff_right hv).symm
  · exact iff_of_false (fun h => h rfl) fun h => hv h.1

/-- **No operation overflows** when each of the four results is in range. -/
theorem rowIdOf_ne_overflow_iff (subjectId objectId : Str) :
    rowIdOf subjectId objectId ≠ .error (.undefined .signedOverflow) ↔
      ∀ v ∈ intermediates (strtoll16 (cStr subjectId)).1 (strtoll16 (cStr objectId)).1,
        InRange v := by
  unfold rowIdOf intermediates
  dsimp only
  -- each operation is checked before the next one is evaluated
  rw [checked_bind_ne_overflow_iff, checked_bind_ne_overflow_iff, checked_bind_ne_overflow_iff,
    checked_ne_overflow_iff]
  simp only [List.forall_mem_cons, List.not_mem_nil, false_implies, implies_true, and_true]

end RelationsCursor

open RelationsCursor

/-! ## The values without overflow -/

theorem inRange_natCast {n : ℕ} : InRange n ↔ n < 2 ^ 63 := by
  unfold InRange
  omega

/-- **The values without overflow** are those with a sum below `2 ^ 32`: there the final sum is
in range, and from there on the product is not. -/
theorem inRange_intermediates_iff {a b : ℕ} :
    (∀ v ∈ intermediates a b, InRange v) ↔ a + b < 2 ^ 32 := by
  have hcast : intermediates a b = [((a + b : ℕ) : Int), ((a + b + 1 : ℕ) : Int),
      (((a + b) / 2 * (a + b + 1) : ℕ) : Int), (((a + b) / 2 * (a + b + 1) + b : ℕ) : Int)] := by
    rw [intermediates, ← Int.natCast_add, shiftRight_natCast]
    push_cast
    rfl
  rw [hcast]
  simp only [List.forall_mem_cons, List.not_mem_nil, false_implies, implies_true, and_true,
    inRange_natCast]
  have hbound : 2 * (2 ^ 31) ^ 2 = 2 ^ 63 := by norm_num
  constructor
  · rintro ⟨-, -, hproduct, -⟩
    by_contra hsum
    have hle := le_half_mul_succ (t := a + b) (n := 2 ^ 31) (by omega)
    omega
  · intro hsum
    have hlt := half_mul_succ_add_lt (t := a + b) (n := 2 ^ 31) (Nat.le_add_left b a) (by omega)
    refine ⟨?_, ?_, ?_, ?_⟩ <;> omega

/-! ## The ids without overflow -/

theorem IsHexId.cStr_eq {x : Str} (h : IsHexId x) : cStr x = x :=
  cStr_eq_self fun hz => absurd (h.2 _ hz) (by decide)

/-- An id is read as its value, up to the upper bound. -/
theorem IsHexId.strtoll16_eq {x : Str} (h : IsHexId x) :
    (strtoll16 (cStr x)).1 = (min (hexValue x) (2 ^ 63 - 1) : ℕ) := by
  rw [h.cStr_eq, strtoll16_eq_saturate h.2, saturate_natCast]

theorem methods_rowId {c : RelationsCursor} {s : ResultStream Relation} (sql : Sqlite)
    (hc : c.stream = some s) : (methods sql).rowId c =
      rowIdOf s.current.getSubjectId s.current.getObjectId := by
  show RelationsCursor.rowId c = _
  rw [RelationsCursor.rowId, hc]

theorem rowIdSafe_iff_inRange {c : RelationsCursor} {s : ResultStream Relation} (sql : Sqlite)
    (hc : c.stream = some s) :
    RowIdSafe sql c (strtoll16 (cStr s.current.getSubjectId)).1
        (strtoll16 (cStr s.current.getObjectId)).1 ↔
      ∀ v ∈ intermediates (strtoll16 (cStr s.current.getSubjectId)).1
        (strtoll16 (cStr s.current.getObjectId)).1, InRange v := by
  have hdefined : (methods sql).moduleRowid c ≠ .error (.undefined .signedOverflow) ↔
      ∀ v ∈ intermediates (strtoll16 (cStr s.current.getSubjectId)).1
        (strtoll16 (cStr s.current.getObjectId)).1, InRange v := by
    rw [← rowIdOf_ne_overflow_iff, ← methods_rowId sql hc]
    exact not_congr (methods sql).moduleRowid_eq_undefined
  constructor
  · intro h
    exact hdefined.mp h.defined
  · intro h
    exact ⟨Or.inl h, hdefined.mpr h⟩

/-- **The pairs of ids without overflow**: those whose values have a sum below `2 ^ 32`. -/
theorem rowIdSafe_iff (sql : Sqlite) {c : RelationsCursor} {s : ResultStream Relation}
    (hc : c.stream = some s) (hsubject : IsHexId s.current.getSubjectId)
    (hobject : IsHexId s.current.getObjectId) :
    RowIdSafe sql c (strtoll16 (cStr s.current.getSubjectId)).1
        (strtoll16 (cStr s.current.getObjectId)).1 ↔
      hexValue s.current.getSubjectId + hexValue s.current.getObjectId < 2 ^ 32 := by
  rw [rowIdSafe_iff_inRange sql hc, hsubject.strtoll16_eq, hobject.strtoll16_eq,
    inRange_intermediates_iff]
  omega

/-- The ids 1 and 2 are safe. -/
theorem rowIdSafe_one_two :
    RowIdSafe .sample (cursorAtPair "0000000000000001".toList "0000000000000002".toList)
      (strtoll16 (cStr "0000000000000001".toList)).1
      (strtoll16 (cStr "0000000000000002".toList)).1 :=
  (rowIdSafe_iff .sample (c := cursorAtPair "0000000000000001".toList "0000000000000002".toList)
    rfl (by decide) (by decide)).mpr (by decide)

/-- **An overflow.** The sum of two ids from `2 ^ 63` on overflows, and no error is reported. -/
theorem not_rowIdSafe_maximal :
    IsHexId "ffffffffffffffff".toList ∧
      (methods .sample).moduleRowid
          (cursorAtPair "ffffffffffffffff".toList "ffffffffffffffff".toList) =
        .error (.undefined .signedOverflow) ∧
      ¬ RowIdSafe .sample (cursorAtPair "ffffffffffffffff".toList "ffffffffffffffff".toList)
        (strtoll16 (cStr "ffffffffffffffff".toList)).1
        (strtoll16 (cStr "ffffffffffffffff".toList)).1 := by
  have herror : (methods .sample).moduleRowid
      (cursorAtPair "ffffffffffffffff".toList "ffffffffffffffff".toList) =
        .error (.undefined .signedOverflow) := by
    rfl
  exact ⟨by decide, herror, fun h => h.defined herror⟩

end ClangQL
