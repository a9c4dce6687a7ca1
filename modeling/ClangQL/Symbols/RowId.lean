import ClangQL.Symbols.Cursor

/-!
# Rowids of the symbols table

A symbol id is 16 hexadecimal digits, a 64-bit number, and its rowid is the number as `strtoll`
reads it. An id from `2 ^ 63` on gets the upper bound for its rowid: `RowId` clears `errno`
after the conversion, so it never reports one out of range.

## Main definitions

* `IsSymbolId`: 16 lower-case hexadecimal digits
* `RowidsIdentify`: two rowids are different, or reported as not representable

## Main results

* `moduleRowid_symbols`: what the rowid of an id is
* `rowidsIdentify_iff`: the pairs of ids whose rowids identify them
-/

namespace ClangQL

open SymbolsCursor

/-- An id as clangd writes it: 16 lower-case hexadecimal digits. -/
def IsSymbolId (x : Str) : Prop := x.length = 16 ∧ ∀ c ∈ x, c ∈ lowerHexDigits

instance (x : Str) : Decidable (IsSymbolId x) :=
  decidable_of_iff (x.length = 16 ∧ x.all fun c => c ∈ lowerHexDigits)
    (and_congr_right fun _ => List.all_iff_forall_prop)

/-- The id of the symbol at hand. -/
def SymbolsCursor.currentId (c : SymbolsCursor) : Option Str := c.stream.map (·.current.getId)

/-- The rowids of two cursors, at symbols with the ids `x` and `y`: they are different when
both are given, and an id that is no signed 64-bit number is an error. -/
structure RowidsIdentify (sql : Sqlite) (c d : SymbolsCursor) (x y : Str) : Prop where
  ne : ∀ a b, (methods sql).moduleRowid c = .ok (sqliteOk, some a) →
    (methods sql).moduleRowid d = .ok (sqliteOk, some b) → a ≠ b
  left : ¬ hexValue x < 2 ^ 63 → (methods sql).moduleRowid c = .ok (sqliteError, none)
  right : ¬ hexValue y < 2 ^ 63 → (methods sql).moduleRowid d = .ok (sqliteError, none)

variable {c : SymbolsCursor} {x : Str}

theorem IsSymbolId.cStr_eq (h : IsSymbolId x) : cStr x = x :=
  cStr_eq_self fun hz => absurd (h.2 _ hz) (by decide)

/-- The rowid is the value of the id, or the upper bound, and never an error. -/
theorem moduleRowid_symbols (sql : Sqlite) (hc : c.currentId = some x) (hx : IsSymbolId x) :
    (methods sql).moduleRowid c = .ok (sqliteOk, some (saturate (hexValue x)).1) := by
  obtain ⟨s, hs, hid⟩ := Option.map_eq_some_iff.mp hc
  have hrowId : (methods sql).rowId c = .ok (saturate (hexValue x)).1 := by
    show SymbolsCursor.rowId c = _
    rw [SymbolsCursor.rowId, hs]
    dsimp only
    rw [hid, rowIdOf_eq, hx.cStr_eq,
      strtoll16_eq_saturate fun c hc => isSome_hexDigit (hx.2 c hc)]
  rw [VirtualTableCursor.moduleRowid, hrowId]

/-- **The pairs of ids whose rowids identify them** are those with both values below
`2 ^ 63`. -/
theorem rowidsIdentify_iff (sql : Sqlite) {c d : SymbolsCursor} {x y : Str}
    (hc : c.currentId = some x) (hd : d.currentId = some y) (hx : IsSymbolId x)
    (hy : IsSymbolId y) (hxy : x ≠ y) :
    RowidsIdentify sql c d x y ↔ hexValue x < 2 ^ 63 ∧ hexValue y < 2 ^ 63 := by
  have hrowc := moduleRowid_symbols sql hc hx
  have hrowd := moduleRowid_symbols sql hd hy
  constructor
  · intro h
    -- an id that is no signed 64-bit number should be an error, but has a rowid
    constructor
    · by_contra hlt
      exact absurd (hrowc.symm.trans (h.left hlt)) (by simp [sqliteOk, sqliteError])
    · by_contra hlt
      exact absurd (hrowd.symm.trans (h.right hlt)) (by simp [sqliteOk, sqliteError])
  · rintro ⟨hltx, hlty⟩
    rw [saturate_of_lt hltx] at hrowc
    rw [saturate_of_lt hlty] at hrowd
    refine ⟨fun a b ha hb hab => hxy ?_, fun h => absurd hltx h, fun h => absurd hlty h⟩
    obtain rfl : (hexValue x : Int) = a := by simpa using hrowc.symm.trans ha
    obtain rfl : (hexValue y : Int) = b := by simpa using hrowd.symm.trans hb
    exact hexValue_injective hx.2 hy.2 (hx.1.trans hy.1.symm) (Int.ofNat_inj.mp hab)

/-- The cursor at a symbol with this id. -/
def cursorAt (x : Str) : SymbolsCursor :=
  { stream := some ⟨[], .streamResult { id := some x }⟩ }

/-- The ids 1 and 2 have different rowids. -/
theorem rowidsIdentify_small :
    RowidsIdentify .sample (cursorAt "0000000000000001".toList)
      (cursorAt "0000000000000002".toList) "0000000000000001".toList "0000000000000002".toList :=
  (rowidsIdentify_iff .sample rfl rfl (by decide) (by decide) (by decide)).mpr (by decide)

/-- **Equal rowids.** The ids from `2 ^ 63` on have the same rowid. -/
theorem not_rowidsIdentify_large :
    IsSymbolId "8000000000000000".toList ∧ IsSymbolId "ffffffffffffffff".toList ∧
      ¬ RowidsIdentify .sample (cursorAt "8000000000000000".toList)
        (cursorAt "ffffffffffffffff".toList) "8000000000000000".toList
        "ffffffffffffffff".toList := by
  refine ⟨by decide, by decide, fun h => ?_⟩
  exact h.ne (2 ^ 63 - 1) (2 ^ 63 - 1) (by rfl) (by rfl) rfl

end ClangQL
