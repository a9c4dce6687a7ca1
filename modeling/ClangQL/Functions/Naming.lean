import ClangQL.Library.MachineWord
import ClangQL.Symbols.Cursor

/-!
# The naming functions

`symbol_kind`, `symbol_subkind` and `symbol_language` look a number up in a table of names. The
range check is made on what `sqlite3_value_int` returns: the low 32 bits of an integer, and 0
for NULL, which is the position of the first name.

## Main definitions

* `NameTable`: the names of a function and its error text
* `symbolKind`, `symbolSubkind`, `symbolLanguage`: the three functions
* `NameTable.Names`: the answer names a number, or nothing
* `NamingFunction`: a function with the column it is meant for

## Main results

* `NameTable.call_eq_answer`: a function answers the low 32 bits of its argument
* `names_iff`: the arguments and the messages that are named right
-/

namespace ClangQL

/-! ## The source -/

/-- The names of a function, and its error text. -/
structure NameTable where
  names : List String
  invalid : String
  length_pos : 0 < names.length
  length_lt : names.length < 2 ^ 31

namespace NameTable

variable (t : NameTable)

/-- `num_kinds`. -/
def numKinds : Int32 := .ofNat t.names.length

theorem toInt_numKinds : t.numKinds.toInt = t.names.length :=
  Int32.toInt_ofNat_of_lt t.length_lt

/-- The range check of `idx`. -/
theorem not_invalid_iff {idx : Int32} :
    ¬ (idx < 0 ∨ t.numKinds ≤ idx) ↔ 0 ≤ idx.toInt ∧ idx.toInt < t.names.length := by
  rw [Int32.lt_iff_toInt_lt, Int32.le_iff_toInt_le, toInt_numKinds, Int32.toInt_zero]
  omega

theorem index_lt {idx : Int32} (h : ¬ (idx < 0 ∨ t.numKinds ≤ idx)) :
    idx.toInt.toNat < t.names.length := by
  have hrange := t.not_invalid_iff.mp h
  omega

/-- The body of the three functions, on their argument: a result, or an error with its text. -/
def call (sql : Sqlite) (v : Value) : Except String Value :=
  let idx := sql.valueInt v
  if h : idx < 0 ∨ t.numKinds ≤ idx then .error t.invalid
  else .ok (resultText (t.names.get ⟨idx.toInt.toNat, t.index_lt h⟩).toList)

end NameTable

/-- `symbol_kinds`. -/
def symbolKinds : NameTable where
  names := ["Unknown", "Module", "Namespace", "NamespaceAlias", "Macro", "Enum", "Struct", "Class",
    "Protocol", "Extension", "Union", "TypeAlias", "Function", "Variable", "Field",
    "EnumConstant", "InstanceMethod", "ClassMethod", "StaticMethod", "InstanceProperty",
    "ClassProperty", "StaticProperty", "Constructor", "Destructor", "ConversionFunction",
    "Parameter", "Using", "TemplateTypeParm", "TemplateTemplateParm", "NonTypeTemplateParm"]
  invalid := "Invalid symbol kind"
  length_pos := by decide
  length_lt := by decide

/-- `symbol_subkinds`. -/
def symbolSubkinds : NameTable where
  names := ["None", "CXXCopyConstructor", "CXXMoveConstructor", "AccessorGetter",
    "AccessorSetter", "UsingTypename", "UsingValue"]
  invalid := "Invalid symbol subkind"
  length_pos := by decide
  length_lt := by decide

/-- `symbol_languages`. -/
def symbolLanguages : NameTable where
  names := ["C", "ObjC", "CXX", "Swift"]
  invalid := "Invalid symbol language"
  length_pos := by decide
  length_lt := by decide

/-- `symbol_kind`. -/
def symbolKind (sql : Sqlite) (v : Value) : Except String Value := symbolKinds.call sql v

/-- `symbol_subkind`. -/
def symbolSubkind (sql : Sqlite) (v : Value) : Except String Value := symbolSubkinds.call sql v

/-- `symbol_language`. -/
def symbolLanguage (sql : Sqlite) (v : Value) : Except String Value := symbolLanguages.call sql v

/-- The functions that `sqlite3_clangql_init` creates. -/
inductive NamingFunction
  | symbolKind
  | symbolSubkind
  | symbolLanguage

namespace NamingFunction

def call : NamingFunction → Sqlite → Value → Except String Value
  | symbolKind => ClangQL.symbolKind
  | symbolSubkind => ClangQL.symbolSubkind
  | symbolLanguage => ClangQL.symbolLanguage

def table : NamingFunction → NameTable
  | symbolKind => symbolKinds
  | symbolSubkind => symbolSubkinds
  | symbolLanguage => symbolLanguages

/-- The position of the column a function is for: `Kind`, `SubKind` or `Language`. -/
def column : NamingFunction → Int
  | symbolKind => 17
  | symbolSubkind => 18
  | symbolLanguage => 19

/-- The field that the column shows. -/
def field : NamingFunction → SymbolInfo → Option UInt32
  | symbolKind => (·.kind)
  | symbolSubkind => (·.subkind)
  | symbolLanguage => (·.language)

theorem call_eq (f : NamingFunction) (sql : Sqlite) : f.call sql = f.table.call sql := by
  cases f <;> rfl

theorem columnOf_column (f : NamingFunction) (m : Symbol) :
    SymbolsCursor.columnOf m f.column = setRes2Int m.info f.field := by
  cases f <;> rfl

end NamingFunction

/-! ## Naming a number -/

namespace NameTable

variable (t : NameTable) {sql : Sqlite} {i j : ℤ}

/-- The name at a position. -/
def nameAt (i : ℤ) : Option String := if 0 ≤ i then t.names[i.toNat]? else none

/-- The name at a position, or the error. -/
def answer (i : ℤ) : Except String Value :=
  match t.nameAt i with
  | some name => .ok (resultText name.toList)
  | none => .error t.invalid

/-- The answer is the name or the error for a number, and no name for none. -/
def Names (i : Option ℤ) (answer : Except String Value) : Prop :=
  match i with
  | some i => answer = t.answer i
  | none => ∀ name ∈ t.names, answer ≠ .ok (resultText name.toList)

/-- If the low 32 bits of a number are a position, the number is that position. -/
def Unaliased (i : ℤ) : Prop :=
  i % 2 ^ 32 < t.names.length → 0 ≤ i ∧ i < t.names.length

instance (i : ℤ) : Decidable (t.Unaliased i) := inferInstanceAs (Decidable (_ → _))

theorem nameAt_eq_get (hpos : 0 ≤ i) (hlt : i.toNat < t.names.length) :
    t.nameAt i = some (t.names.get ⟨i.toNat, hlt⟩) := by
  rw [nameAt, if_pos hpos]
  exact List.getElem?_eq_getElem hlt

theorem isSome_nameAt : (t.nameAt i).isSome ↔ 0 ≤ i ∧ i < t.names.length := by
  unfold nameAt
  split_ifs with hpos
  · rw [isSome_getElem?]
    omega
  · exact iff_of_false (by simp) fun h => hpos h.1

theorem answer_eq_invalid (h : ¬ (0 ≤ i ∧ i < t.names.length)) : t.answer i = .error t.invalid := by
  have hnone : t.nameAt i = none := by simpa using mt t.isSome_nameAt.mp h
  rw [answer, hnone]

theorem exists_answer_eq_ok (h : 0 ≤ i ∧ i < t.names.length) :
    ∃ name ∈ t.names, t.answer i = .ok (resultText name.toList) := by
  have hlt : i.toNat < t.names.length := by omega
  refine ⟨_, List.get_mem t.names ⟨i.toNat, hlt⟩, ?_⟩
  rw [answer, t.nameAt_eq_get h.1 hlt]

/-- Two numbers with one answer are in range together. -/
theorem mem_range_of_answer_eq (h : t.answer i = t.answer j) (hi : 0 ≤ i ∧ i < t.names.length) :
    0 ≤ j ∧ j < t.names.length := by
  by_contra hj
  obtain ⟨name, -, hname⟩ := t.exists_answer_eq_ok hi
  rw [hname, t.answer_eq_invalid hj] at h
  exact absurd h (by simp)

/-- **A function answers** for the number that `sqlite3_value_int` returns. -/
theorem call_eq_answer (v : Value) : t.call sql v = t.answer (sql.valueInt v).toInt := by
  unfold call
  dsimp only
  split_ifs with hidx
  · have hout := mt t.not_invalid_iff.mpr (not_not.mpr hidx)
    rw [t.answer_eq_invalid hout]
  · have hpos := (t.not_invalid_iff.mp hidx).1
    rw [answer, t.nameAt_eq_get hpos (t.index_lt hidx)]

/-- The numbers that the answer for their low 32 bits names. -/
theorem names_bmod_iff : t.Names (some i) (t.answer (i.bmod (2 ^ 32))) ↔ t.Unaliased i := by
  have hlength := t.length_lt
  have hnarrow : (0 ≤ i.bmod (2 ^ 32) ∧ i.bmod (2 ^ 32) < t.names.length) ↔
      i % 2 ^ 32 < t.names.length := Int.bmod_mem_range_iff (by decide) (by omega)
  constructor
  · intro hnames hlow
    exact t.mem_range_of_answer_eq hnames (hnarrow.mpr hlow)
  · intro hunaliased
    show t.answer (i.bmod (2 ^ 32)) = t.answer i
    by_cases hi : 0 ≤ i ∧ i < t.names.length
    · rw [Int.bmod_of_mem_range (by omega) hi.1 hi.2]
    · rw [t.answer_eq_invalid hi, t.answer_eq_invalid fun h => hi (hunaliased (hnarrow.mp h))]

/-- An unsigned word is no alias. -/
theorem unaliased_word (n : UInt32) : t.Unaliased n.toNat := by
  intro hlow
  have hlt := n.toNat_lt
  omega

/-- An integer is answered for its low 32 bits. -/
theorem call_integer (i : Int64) :
    t.call sql (.integer i) = t.answer (i.toInt.bmod (2 ^ 32)) := by
  rw [call_eq_answer, sql.valueInt_integer, Int64.toInt_toInt32]

/-- NULL is answered with the first name. -/
theorem call_null : ¬ t.Names none (t.call sql .null) := by
  have hzero : (0 : ℤ) ≤ 0 ∧ (0 : ℤ) < t.names.length := ⟨le_rfl, by exact_mod_cast t.length_pos⟩
  obtain ⟨name, hname, hanswer⟩ := t.exists_answer_eq_ok hzero
  intro hnames
  refine hnames name hname ?_
  rw [call_eq_answer, sql.valueInt_null, Int32.toInt_zero, hanswer]

/-- A field that is there is named by the answer for its column. -/
theorem names_column_iff {α : Type} (field1 : Option α) (field2 : α → Option UInt32) :
    t.Names ((field1.bind field2).map fun n => (n.toNat : ℤ))
        (t.call sql (setRes2Int field1 field2)) ↔ (field1.bind field2).isSome := by
  unfold setRes2Int
  cases field1.bind field2 with
  | none => exact iff_of_false t.call_null (by simp)
  | some n =>
    refine iff_of_true ?_ rfl
    dsimp only [Option.map_some]
    rw [resultInt, call_integer, Int32.toInt_toInt64, UInt32.toInt_toInt32, Int.bmod_bmod]
    exact t.names_bmod_iff.mpr (t.unaliased_word n)

end NameTable

/-- **When the naming functions name what they are given**: an integer must not be the alias of a
position, NULL is never answered right, and the field behind a column must be there. -/
theorem names_iff (sql : Sqlite) (f : NamingFunction) :
    (∀ i : Int64, f.table.Names (some i.toInt) (f.call sql (.integer i)) ↔
        f.table.Unaliased i.toInt) ∧
      ¬ f.table.Names none (f.call sql .null) ∧
      ∀ m : Symbol, f.table.Names ((m.info.bind f.field).map fun n => (n.toNat : ℤ))
        (f.call sql (SymbolsCursor.columnOf m f.column)) ↔ (m.info.bind f.field).isSome := by
  rw [f.call_eq]
  refine ⟨fun i => ?_, f.table.call_null, fun m => ?_⟩
  · rw [NameTable.call_integer]
    exact f.table.names_bmod_iff
  · rw [f.columnOf_column]
    exact f.table.names_column_iff m.info f.field

/-- NULL and 2^32 are both answered with the first kind. -/
theorem not_names_alias :
    symbolKind .sample .null = .ok (.text "Unknown".toList) ∧
      ¬ symbolKinds.Names none (symbolKind .sample .null) ∧
      symbolKind .sample (.integer (2 ^ 32)) = .ok (.text "Unknown".toList) ∧
      ¬ symbolKinds.Names (some (2 ^ 32)) (symbolKind .sample (.integer (2 ^ 32))) := by
  have hnull : symbolKind .sample .null = .ok (.text "Unknown".toList) := by rfl
  have halias : symbolKind .sample (.integer (2 ^ 32)) = .ok (.text "Unknown".toList) := by rfl
  refine ⟨hnull, fun h => h "Unknown" (by decide) hnull, halias, fun h => ?_⟩
  have herror : symbolKinds.answer (2 ^ 32) = .error "Invalid symbol kind" := by rfl
  rw [halias] at h
  exact absurd (h.trans herror) (by simp)

end ClangQL
