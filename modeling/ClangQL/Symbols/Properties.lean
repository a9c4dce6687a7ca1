import ClangQL.Symbols.Cursor

/-!
# The property columns of the symbols table

The schema, the constants of `SymbolProperty` and the cases of `Column` are three lists kept by
hand. From column 23 on the cases are one bit behind the schema, and the last case is past it.

## Main definitions

* `SymbolProperty.bits`: the constants of `SymbolProperty` by name
* `SymbolsTable.declared`: the column the schema declares at a position
* `SymbolsCursor.IsCase`: a case of `Column`
* `SymbolsCursor.MatchesSchema`: a case shows the property its declared column is named after

## Main results

* `SymbolsCursor.columnOf_property`: which bit each case shows
* `SymbolsCursor.matchesSchema_iff`: the messages and columns for which the case shows the
  property of its name
-/

namespace ClangQL

/-- The constants of `SymbolProperty`, by name. -/
def SymbolProperty.bits : List (String × UInt32) :=
  [("Generic", generic), ("TemplatePartialSpecialization", templatePartialSpecialization),
    ("TemplateSpecialization", templateSpecialization), ("UnitTest", unitTest),
    ("IBAnnotated", ibAnnotated), ("IBOutletCollection", ibOutletCollection),
    ("GKInspectable", gkInspectable), ("Local", «local»),
    ("ProtocolInterface", protocolInterface)]

/-- The column the schema declares at a position. -/
def SymbolsTable.declared (idxCol : Int) : Option (String × Affinity) :=
  if 0 ≤ idxCol then schema[idxCol.toNat]? else none

namespace SymbolsCursor

open SymbolsTable

/-- A case of the switch in `Column`: a position where some message shows a value. -/
def IsCase (idxCol : Int) : Prop := ∃ cur, columnOf cur idxCol ≠ .null

/-- A property as a column of its name shows it: 1 when its bit is set, 0 when it is not, and
NULL without properties. -/
def propertyShown (cur : Symbol) (bit : UInt32) : Value :=
  match cur.info.bind (·.properties) with
  | some p => .integer (if p &&& bit ≠ 0 then 1 else 0)
  | none => .null

/-- The position is a declared column, and if it has the name of a property it shows that
property. -/
def MatchesSchema (cur : Symbol) (idxCol : Int) : Prop :=
  ∃ c, declared idxCol = some c ∧
    ∀ bit, (c.1, bit) ∈ SymbolProperty.bits → columnOf cur idxCol = propertyShown cur bit

/-! ## The bit a case shows -/

/-- `SET_RES_PROP` shows the property of its bit. -/
theorem setResProp_flag (cur : Symbol) {k : ℕ} (hk : k < 32) :
    setResProp cur.info (.flag k) = propertyShown cur (.flag k) := by
  unfold setResProp propertyShown
  cases cur.info.bind (·.properties) with
  | none => rfl
  | some p => exact resultInt_ofBool_flag p hk

/-- **The bit a case shows**: from case 23 on it is the bit of the case before. -/
theorem columnOf_property (cur : Symbol) {k : ℕ} (hk : k < 10) :
    columnOf cur (20 + k : ℕ) = propertyShown cur (.flag (if k < 3 then k else k - 1)) := by
  rw [← setResProp_flag cur (by split_ifs <;> omega)]
  interval_cases k <;> rfl

theorem propertyShown_eq_iff {cur : Symbol} {a b : UInt32} :
    propertyShown cur a = propertyShown cur b ↔
      ∀ p, cur.info.bind (·.properties) = some p → (p &&& a ≠ 0 ↔ p &&& b ≠ 0) := by
  unfold propertyShown
  cases cur.info.bind (·.properties) with
  | none => exact iff_of_true rfl fun p hp => absurd hp (by simp)
  | some p =>
    by_cases ha : p &&& a = 0 <;> by_cases hb : p &&& b = 0 <;> simp [ha, hb]

/-! ## The columns of the schema -/

/-- `Column` has no case outside 0 to 29. -/
theorem IsCase.mem_range {idxCol : Int} (h : IsCase idxCol) : 0 ≤ idxCol ∧ idxCol ≤ 29 := by
  obtain ⟨cur, hcur⟩ := h
  by_contra hout
  refine hcur ?_
  unfold columnOf
  split
  all_goals first | rfl | exact absurd (by decide) hout

/-- The cases of the properties go one past the schema. -/
theorem isCase_property {k : ℕ} (hk : k < 10) : IsCase (20 + k : ℕ) := by
  refine ⟨{ info := some { properties := some 0 } }, ?_⟩
  rw [columnOf_property _ hk]
  simp [propertyShown]

/-- The columns before the properties have other names. -/
theorem declared_plain {i : ℕ} (hi : i < 20) :
    ∃ c, declared i = some c ∧ ∀ bit, (c.1, bit) ∉ SymbolProperty.bits := by
  have hnames : ((schema.take 20).all fun c =>
      SymbolProperty.bits.all fun b => b.1 != c.1) = true := by decide
  obtain ⟨c, hc⟩ : ∃ c, (schema.take 20)[i]? = some c :=
    ⟨_, List.getElem?_eq_getElem (by simpa [schema] using hi)⟩
  refine ⟨c, ?_, fun bit hbit => ?_⟩
  · rw [List.getElem?_take_of_lt hi] at hc
    rw [declared, if_pos (by omega), Int.toNat_natCast, hc]
  · have hc' := List.all_eq_true.mp hnames c (List.mem_of_getElem? hc)
    simpa using List.all_eq_true.mp hc' _ hbit

/-- The columns of the properties have the names of the bits, in their order. -/
theorem declared_property {k : ℕ} (hk : k < 9) :
    ∃ c, declared (20 + k : ℕ) = some c ∧ (c.1, .flag k) ∈ SymbolProperty.bits := by
  interval_cases k <;> exact ⟨_, rfl, by decide⟩

theorem bits_nodup : (SymbolProperty.bits.map Prod.fst).Nodup := by decide

/-- A column of a property matches the schema when it shows the bit of its name. -/
theorem matchesSchema_property {cur : Symbol} {k : ℕ} (hk : k < 9) :
    MatchesSchema cur (20 + k : ℕ) ↔ columnOf cur (20 + k : ℕ) = propertyShown cur (.flag k) := by
  obtain ⟨c, hc, hflag⟩ := declared_property hk
  constructor
  · rintro ⟨c', hc', hshown⟩
    obtain rfl : c = c' := Option.some.inj (hc.symm.trans hc')
    exact hshown _ hflag
  · intro hcolumn
    refine ⟨c, hc, fun bit hbit => ?_⟩
    obtain ⟨-, rfl⟩ := Prod.mk.inj (List.inj_on_of_nodup_map bits_nodup hflag hbit rfl)
    exact hcolumn

/-- **Where the cases match the schema**: the last case has no declared column, and a case from
23 on shows the property of its name when that bit and the one before agree. -/
theorem matchesSchema_iff (cur : Symbol) (idxCol : Int) :
    (IsCase idxCol → MatchesSchema cur idxCol) ↔
      idxCol ≠ 29 ∧ ∀ k : ℕ, 3 ≤ k → k ≤ 8 → idxCol = (20 + k : ℕ) →
        ∀ p, cur.info.bind (·.properties) = some p →
          (p &&& .flag k ≠ 0 ↔ p &&& .flag (k - 1) ≠ 0) := by
  constructor
  · intro h
    constructor
    · rintro rfl
      obtain ⟨c, hc, -⟩ := h (isCase_property (k := 9) (by omega))
      have hnone : declared 29 = none := rfl
      exact absurd (hnone.symm.trans hc) (by simp)
    · rintro k hk₃ hk₈ rfl
      have hcolumn := (matchesSchema_property (by omega)).mp (h (isCase_property (by omega)))
      rw [columnOf_property cur (by omega), if_neg (by omega)] at hcolumn
      exact propertyShown_eq_iff.mp hcolumn.symm
  · rintro ⟨hne, hbits⟩ hcase
    have hrange := hcase.mem_range
    by_cases hlow : idxCol < 20
    · obtain ⟨i, rfl⟩ := Int.eq_ofNat_of_zero_le hrange.1
      obtain ⟨c, hc, hno⟩ := declared_plain (by omega : i < 20)
      exact ⟨c, hc, fun bit hbit => absurd hbit (hno bit)⟩
    · obtain ⟨k, rfl⟩ : ∃ k : ℕ, idxCol = (20 + k : ℕ) := ⟨(idxCol - 20).toNat, by omega⟩
      rw [matchesSchema_property (by omega), columnOf_property cur (by omega)]
      split_ifs with hk
      · rfl
      · exact propertyShown_eq_iff.mpr fun p hp => (hbits k (by omega) (by omega) rfl p hp).symm

/-- A unit test has 0 in the column `UnitTest`, and case 29 has no column. -/
theorem not_matchesSchema_unitTest :
    ¬ ∀ cur idxCol, IsCase idxCol → MatchesSchema cur idxCol := by
  intro h
  have hcolumn := (matchesSchema_property (k := 3) (by omega)).mp
    (h { info := some { properties := some 8 } } 23 (isCase_property (k := 3) (by omega)))
  exact absurd hcolumn (by decide)

end SymbolsCursor

end ClangQL
