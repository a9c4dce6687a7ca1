import ClangQL.Library.MachineWord
import ClangQL.Symbols.Properties
import ClangQL.Tables.Wiring

/-!
# The numbers of the wire in SQL

Lines, columns, kinds, subkinds and languages are unsigned 32-bit numbers on the wire, and
`Column` hands them to `sqlite3_result_int`, which takes a signed one. The numbers from `2 ^ 31`
on are read back as negative, before all others.

## Main definitions

* `WireTable`: the tables whose columns show numbers of a message
* `WireTable.NumberIn`, `WireTable.PositionIn`: a number and a position of a message, with the
  columns that show them
* `WireTable.PositionIn.wireCompare`, `WireTable.PositionIn.sqlCompare`: two positions compared on
  the wire and in SQL
* `WireTable.NonNegative`: no INT column shows a negative number

## Main results

* `WireTable.NumberIn.readBack_eq`: what a number is read back as
* `wireNumbers_iff`: the numbers and the positions that survive
-/

namespace ClangQL

/-- The integer that is read back from a value, if it is an INTEGER. -/
def Value.asInteger : Value → Option ℤ
  | .integer i => some i.toInt
  | _ => none

/-! ## The tables -/

/-- The tables that show messages with numbers. The refs table comes with the result of
`m_stream->Id()`, for its first column. -/
inductive WireTable
  | symbols
  | refs (id : Outcome Str)

namespace WireTable

def Message : WireTable → Type
  | symbols => Symbol
  | refs _ => Ref

instance : ∀ t : WireTable, Inhabited t.Message
  | symbols => inferInstanceAs (Inhabited Symbol)
  | refs _ => inferInstanceAs (Inhabited Ref)

def schema : WireTable → List (String × Affinity)
  | symbols => SymbolsTable.schema
  | refs _ => RefsTable.schema

def column : (t : WireTable) → t.Message → Int → Outcome Value
  | symbols, m, i => .ok (SymbolsCursor.columnOf m i)
  | refs id, m, i => RefsCursor.columnOf id m i

/-- The first column that shows a field of its own. -/
def first : WireTable → ℕ
  | symbols => 0
  | refs _ => 5

/-- The fields of the columns from the first on, under their names. -/
def fields : (t : WireTable) → List (String × WireField t.Message)
  | symbols => symbolFields
  | refs _ => refFields

/-- The columns of the positions, each by the names of its line and its column. -/
def positions : WireTable → List (String × String)
  | symbols => [("DefStartLine", "DefStartCol"), ("DefEndLine", "DefEndCol"),
    ("DeclStartLine", "DeclStartCol"), ("DeclEndLine", "DeclEndCol")]
  | refs _ => [("StartLine", "StartCol"), ("EndLine", "EndCol")]

/-- The integer that is read back from a column. -/
def readBack (t : WireTable) (m : t.Message) (i : ℕ) : Option ℤ :=
  (t.column m i).toOption.bind Value.asInteger

/-- No INT column of the schema shows a negative number. -/
def NonNegative (t : WireTable) (m : t.Message) : Prop :=
  ∀ (i : ℕ) (name : String), t.schema[i]? = some (name, .integer) → ∀ v ∈ t.readBack m i, 0 ≤ v

/-- A number that a message has, in a field with a column. -/
structure NumberIn (t : WireTable) (m : t.Message) where
  place : ℕ
  name : String
  field : OptionalField t.Message UInt32
  value : UInt32
  field_eq : t.fields[place]? = some (name, .int field)
  get_eq : field.get m = some value

/-- A position that a message has. -/
structure PositionIn (t : WireTable) (m : t.Message) where
  line : t.NumberIn m
  column : t.NumberIn m
  mem_positions : (line.name, column.name) ∈ t.positions

namespace NumberIn

variable {t t' : WireTable} {m : t.Message} {m' : t'.Message}

/-- The integer that is read back from the column of a number. -/
def readBack (x : t.NumberIn m) : Option ℤ := t.readBack m (t.first + x.place)

/-- The number is an `int` that is not negative. -/
def Fits (x : t.NumberIn m) : Prop := x.value.toNat < 2 ^ 31

/-- Two numbers compared in SQL. -/
def sqlCompare (x : t.NumberIn m) (y : t'.NumberIn m') : Option Ordering := do
  return compare (← x.readBack) (← y.readBack)

/-- Two numbers compared on the wire. -/
def wireCompare (x : t.NumberIn m) (y : t'.NumberIn m') : Ordering :=
  compare x.value.toNat y.value.toNat

end NumberIn

namespace PositionIn

variable {t t' : WireTable} {m : t.Message} {m' : t'.Message}

/-- Two positions compared in SQL, by their lines and then by their columns. -/
def sqlCompare (p : t.PositionIn m) (q : t'.PositionIn m') : Option Ordering := do
  return (← p.line.sqlCompare q.line).then (← p.column.sqlCompare q.column)

/-- Two positions compared on the wire. -/
def wireCompare (p : t.PositionIn m) (q : t'.PositionIn m') : Ordering :=
  (p.line.wireCompare q.line).then (p.column.wireCompare q.column)

end PositionIn

/-! ## Reading a number back -/

section Column

variable (t : WireTable)

theorem wired : Wired t.schema t.column t.first t.fields := by
  cases t with
  | symbols => exact symbolFields_wired
  | refs id => exact refFields_wired id

/-- The column of a number field is read back as the field's signed value. -/
theorem readBack_int {place : ℕ} {name : String} {f : OptionalField t.Message UInt32}
    (hf : t.fields[place]? = some (name, .int f)) (m : t.Message) :
    t.readBack m (t.first + place) = (f.get m).map fun n => n.toInt32.toInt := by
  rw [readBack, t.wired.shown place _ hf m, WireField.shown_int]
  cases f.get m with
  | none => rfl
  | some n => exact congrArg some n.toInt32.toInt_toInt64

end Column

namespace NumberIn

variable {t t' : WireTable} {m : t.Message} {m' : t'.Message}

/-- **A number is read back** as its signed value. -/
theorem readBack_eq (x : t.NumberIn m) : x.readBack = some x.value.toInt32.toInt := by
  rw [readBack, t.readBack_int x.field_eq, x.get_eq]
  rfl

theorem readBack_eq_value_iff (x : t.NumberIn m) :
    x.readBack = some (x.value.toNat : ℤ) ↔ x.Fits := by
  rw [x.readBack_eq, Option.some.injEq]
  exact x.value.toInt_toInt32_eq_toNat_iff

theorem nonneg_iff {x : t.NumberIn m} {v : ℤ} (hv : x.readBack = some v) : 0 ≤ v ↔ x.Fits := by
  rw [x.readBack_eq] at hv
  obtain rfl := Option.some.inj hv
  exact x.value.toInt_toInt32_nonneg_iff

theorem sqlCompare_eq (x : t.NumberIn m) (y : t'.NumberIn m') :
    x.sqlCompare y = some (compare x.value.toInt32.toInt y.value.toInt32.toInt) := by
  rw [sqlCompare, x.readBack_eq, y.readBack_eq]
  rfl

theorem wireCompare_eq_iff (x : t.NumberIn m) (y : t'.NumberIn m') :
    x.wireCompare y = .eq ↔ x.value = y.value := by
  rw [wireCompare, compare_eq_iff_eq, UInt32.toNat_inj]

end NumberIn

/-- **Two positions compare** in SQL as on the wire when their lines do and, on one line, their
columns do. -/
theorem PositionIn.sqlCompare_iff {t t' : WireTable} {m : t.Message} {m' : t'.Message}
    (p : t.PositionIn m) (q : t'.PositionIn m') : p.sqlCompare q = some (p.wireCompare q) ↔
      (p.line.Fits ↔ q.line.Fits) ∧
        (p.line.value = q.line.value → (p.column.Fits ↔ q.column.Fits)) := by
  have hsql : p.sqlCompare q = some
      ((compare p.line.value.toInt32.toInt q.line.value.toInt32.toInt).then
        (compare p.column.value.toInt32.toInt q.column.value.toInt32.toInt)) := by
    rw [sqlCompare, p.line.sqlCompare_eq, p.column.sqlCompare_eq]
    rfl
  have hsame : compare p.line.value.toInt32.toInt q.line.value.toInt32.toInt = .eq ↔
      p.line.wireCompare q.line = .eq := by
    rw [compare_eq_iff_eq, UInt32.toInt_toInt32_inj, NumberIn.wireCompare_eq_iff]
  rw [hsql, Option.some.injEq, wireCompare, Ordering.then_eq_then_iff hsame,
    NumberIn.wireCompare_eq_iff]
  exact and_congr (UInt32.compare_toInt_toInt32_iff _ _)
    (imp_congr_right fun _ => UInt32.compare_toInt_toInt32_iff _ _)

/-! ## Negative numbers -/

section NonNegative

variable {t : WireTable} {m : t.Message}

/-- A flag is not negative. -/
theorem propertyShown_nonneg (cur : Symbol) (bit : UInt32) :
    ∀ v ∈ (SymbolsCursor.propertyShown cur bit).asInteger, 0 ≤ v := by
  intro v hv
  unfold SymbolsCursor.propertyShown at hv
  cases hp : cur.info.bind (·.properties) with
  | none =>
    rw [hp] at hv
    exact absurd hv (by simp [Value.asInteger])
  | some p =>
    rw [hp] at hv
    obtain rfl := Option.some.inj hv
    split_ifs <;> decide

/-- The INT columns apart from the fields' columns show flags. -/
theorem readBack_flag {i : ℕ} {name : String} (hi : t.schema[i]? = some (name, .integer))
    (hout : ¬ (t.first ≤ i ∧ i < t.first + t.fields.length)) : ∀ v ∈ t.readBack m i, 0 ≤ v := by
  have hlt := (List.getElem?_eq_some_iff.mp hi).1
  cases t with
  | symbols =>
    change i < 29 at hlt
    change ¬ (0 ≤ i ∧ i < 0 + 20) at hout
    obtain ⟨k, rfl⟩ : ∃ k, i = 20 + k := ⟨i - 20, by omega⟩
    show ∀ v ∈ (SymbolsCursor.columnOf m (20 + k : ℕ)).asInteger, 0 ≤ v
    rw [SymbolsCursor.columnOf_property m (by omega)]
    exact propertyShown_nonneg m _
  | refs id =>
    change i < 10 at hlt
    change ¬ (5 ≤ i ∧ i < 5 + 5) at hout
    cases i with
    | zero =>
      exact absurd (Prod.mk.inj (Option.some.inj hi)).2 (by decide)
    | succ k =>
      intro v hv
      rw [Nat.add_comm k 1] at hv
      change v ∈ (RefsCursor.columnOf id m (1 + k : ℕ)).toOption.bind Value.asInteger at hv
      rw [columnOf_kind id m (by omega)] at hv
      obtain rfl := Option.some.inj hv
      split_ifs <;> decide

/-- **What an INT column is read back as**: a flag, which is not negative, or a number of the
message. -/
theorem readBack_cases {i : ℕ} {name : String} (hi : t.schema[i]? = some (name, .integer))
    {v : ℤ} (hv : v ∈ t.readBack m i) :
    0 ≤ v ∨ ∃ x : t.NumberIn m, x.readBack = some v := by
  by_cases hin : t.first ≤ i ∧ i < t.first + t.fields.length
  · right
    obtain ⟨place, rfl⟩ := Nat.exists_eq_add_of_le hin.1
    obtain ⟨⟨name', f⟩, hf⟩ : ∃ g, t.fields[place]? = some g :=
      ⟨_, List.getElem?_eq_getElem (by omega)⟩
    have hdeclared := t.wired.declared place _ hf
    rw [hi] at hdeclared
    cases f with
    | text f =>
      exact absurd (Prod.mk.inj (Option.some.inj hdeclared)).2 (by simp [WireField.affinity])
    | int f =>
      have hget := hv
      rw [t.readBack_int hf] at hget
      obtain ⟨n, hn, -⟩ := Option.map_eq_some_iff.mp hget
      exact ⟨⟨place, name', f, n, hf, hn⟩, hv⟩
  · exact Or.inl (readBack_flag hi hin v hv)

/-- **No INT column is negative** when all the numbers of the message fit. -/
theorem nonNegative_iff : t.NonNegative m ↔ ∀ x : t.NumberIn m, x.Fits := by
  constructor
  · intro h x
    have hdeclared := t.wired.declared x.place _ x.field_eq
    exact (NumberIn.nonneg_iff x.readBack_eq).mp (h _ x.name hdeclared _ x.readBack_eq)
  · intro h i name hi v hv
    rcases readBack_cases hi hv with hflag | ⟨x, hx⟩
    · exact hflag
    · exact (NumberIn.nonneg_iff hx).mpr (h x)

end NonNegative

end WireTable

open WireTable

/-- **The numbers that survive**: a number is read back as it is on the wire when it is below
`2 ^ 31`; the positions of two messages, of one table or of both, keep their order when their lines
are both below it or both not, and so are their columns on one line; and no INT column of a message
is negative when all its numbers are below. -/
theorem wireNumbers_iff (t t' : WireTable) (m : t.Message) (m' : t'.Message) :
    (∀ x : t.NumberIn m, x.readBack = some (x.value.toNat : ℤ) ↔ x.Fits) ∧
    (∀ (p : t.PositionIn m) (q : t'.PositionIn m'), p.sqlCompare q = some (p.wireCompare q) ↔
      (p.line.Fits ↔ q.line.Fits) ∧
        (p.line.value = q.line.value → (p.column.Fits ↔ q.column.Fits))) ∧
    (t.NonNegative m ↔ ∀ x : t.NumberIn m, x.Fits) := by
  refine ⟨?_, ?_, nonNegative_iff⟩
  · intro x
    exact x.readBack_eq_value_iff
  · intro p q
    exact p.sqlCompare_iff q

/-- The columns of the numbers, eleven of the symbols table and four of the refs table. -/
example (id : Outcome Str) :
    (symbols.fields.filter (·.2.affinity = .integer)).map Prod.fst =
        ["DefStartLine", "DefStartCol", "DefEndLine", "DefEndCol", "DeclStartLine", "DeclStartCol",
          "DeclEndLine", "DeclEndCol", "Kind", "SubKind", "Language"] ∧
      ((refs id).fields.filter (·.2.affinity = .integer)).map Prod.fst =
        ["StartLine", "StartCol", "EndLine", "EndCol"] := ⟨rfl, rfl⟩

/-- A symbol defined at the start of a line. -/
def symbolAtLine (line : UInt32) : Symbol :=
  { definition := some { start := some { line := some line, column := some 0 } } }

/-- The position of its definition. -/
def startAtLine (line : UInt32) : symbols.PositionIn (symbolAtLine line) where
  line := ⟨8, "DefStartLine",
    Symbol.definitionField.comp (SymbolLocation.startField.comp Position.lineField), line, rfl, rfl⟩
  column := ⟨9, "DefStartCol",
    Symbol.definitionField.comp (SymbolLocation.startField.comp Position.columnField), 0, rfl, rfl⟩
  mem_positions := List.mem_cons_self

/-- The line 2^31 is read back as -2^31: it is before the line 0, and negative. -/
theorem not_wireNumbers_line :
    (startAtLine (2 ^ 31)).line.readBack = some (-2 ^ 31) ∧
      (startAtLine (2 ^ 31)).line.readBack ≠ some (2 ^ 31) ∧
      (startAtLine 0).wireCompare (startAtLine (2 ^ 31)) = .lt ∧
      (startAtLine 0).sqlCompare (startAtLine (2 ^ 31)) = some .gt ∧
      ¬ symbols.NonNegative (symbolAtLine (2 ^ 31)) := by
  have hread : (startAtLine (2 ^ 31)).line.readBack = some (-2 ^ 31) := by rfl
  refine ⟨hread, ?_, rfl, rfl, ?_⟩
  · rw [hread]
    decide
  · intro h
    exact absurd (h 8 "DefStartLine" rfl _ hread) (by decide)

end ClangQL
