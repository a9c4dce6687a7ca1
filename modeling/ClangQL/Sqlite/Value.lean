import Mathlib.Data.List.Infix
import Mathlib.Data.List.TakeWhile

/-!
# SQL values and the SQLite library

The extension sees SQL values through `sqlite3_value_text` and `sqlite3_value_int` only, and
leaves the tests of a query's constraints to SQLite. SQLite is a library outside the
repository: `Sqlite` packages the functions of it that the tables rely on, with the documented
behaviour they rely on as its laws.

## Main definitions

* `Str`, `cStr`, `NulFree`: strings, what a reader of a C string sees, strings without a NUL
* `Value`: SQL values, by storage class
* `Comparison.plain`: comparison under `BINARY` with a right-hand side without affinity
* `Sqlite`: value access, comparison and `LIKE`, with their laws
* `Sqlite.holds`: the test of a constraint, plainly compared
* `Sqlite.sample`: a small instance, exact on integers and on text

## Main results

* `cStr_eq_self`, `nulFree_cStr`: reading a C string back is lossless exactly on NUL-free
  strings
* `Sqlite.exists_valueText`: only NULL has no text
-/

namespace ClangQL

/-! ## Strings -/

/-- The contents of a `std::string`. -/
abbrev Str := List Char

/-- What a reader of the C string at the start of `s` sees: everything before the first NUL. -/
def cStr (s : Str) : Str := s.takeWhile (· ≠ '\x00')

/-- Strings without a NUL. -/
def NulFree (s : Str) : Prop := '\x00' ∉ s

instance (s : Str) : Decidable (NulFree s) := inferInstanceAs (Decidable (_ ∉ _))

theorem cStr_eq_self {s : Str} (h : NulFree s) : cStr s = s := by
  refine List.takeWhile_eq_self_iff.mpr fun c hc => ?_
  simpa using fun he : c = '\x00' => h (he ▸ hc)

theorem nulFree_cStr (s : Str) : NulFree (cStr s) := by
  intro h
  simpa using List.mem_takeWhile_imp h

/-! ## Values -/

/-- An SQL value, by its storage class. A REAL is the bit pattern of its double. -/
inductive Value
  | null
  | integer (i : Int64)
  | real (bits : UInt64)
  | text (s : Str)
  | blob (bytes : List UInt8)
  deriving DecidableEq

/-- Type affinity of a column, from its declared type. -/
inductive Affinity
  | text
  | integer
  deriving DecidableEq

/-- The affinity of a column of a schema. The rowid, column -1, is an integer. -/
def affinityIn (schema : List (String × Affinity)) (iColumn : Int) : Affinity :=
  if iColumn = -1 then .integer else (schema[iColumn.toNat]?.map Prod.snd).getD .integer

/-- `SQLITE_INDEX_CONSTRAINT_EQ`. -/
def indexConstraintEq : UInt8 := 2

/-- `SQLITE_INDEX_CONSTRAINT_LIKE`. -/
def indexConstraintLike : UInt8 := 65

/-! ## The library -/

/-- The built-in collating sequences. -/
inductive Collation
  | binary
  | noCase
  | rtrim
  deriving DecidableEq

/-- What else decides the comparison of a column with a right-hand side: the collation, and the
affinity of the right-hand side if it has one. -/
structure Comparison where
  collation : Collation
  rightAffinity : Option Affinity
  deriving DecidableEq

/-- The comparison of a column declared without a collation with a literal or a bound parameter,
which has no affinity, in a query that names no collation. -/
def Comparison.plain : Comparison := ⟨.binary, none⟩

/-- The SQLite functions behind the tables. `compares c a op x v` is the test `x op v` of a column
of affinity `a` holding `x`. The laws are about the plain comparison only: under another
collation equal texts may differ, and a number on the right may convert the text on the left. -/
structure Sqlite where
  /-- `sqlite3_value_text`, or `none` for the null pointer. -/
  valueText : Value → Option Str
  /-- `sqlite3_value_int`. -/
  valueInt : Value → Int32
  /-- Whether a constraint is true of a row. -/
  compares : Comparison → Affinity → UInt8 → Value → Value → Bool
  /-- The built-in SQL function `like`, on the pattern, the value and perhaps an escape. -/
  like : List Value → Value
  valueText_null : valueText .null = none
  valueText_text : ∀ s, valueText (.text s) = some s
  valueText_isSome : ∀ v, v ≠ .null → (valueText v).isSome
  valueInt_null : valueInt .null = 0
  valueInt_integer : ∀ i, valueInt (.integer i) = i.toInt32
  /-- Two texts compare as texts. -/
  plain_eq_text : ∀ s t,
    compares .plain .text indexConstraintEq (.text s) (.text t) = decide (s = t)
  /-- Nothing equals NULL. -/
  plain_eq_null : ∀ a x, compares .plain a indexConstraintEq x .null = false
  /-- NULL equals nothing. -/
  plain_null_eq : ∀ a v, compares .plain a indexConstraintEq .null v = false
  /-- A value equal to the text of a text column is that text, or a number converted to it;
  a blob equals no text. -/
  plain_text_eq : ∀ s v,
    compares .plain .text indexConstraintEq (.text s) v → valueText v = some s

namespace Sqlite

variable (sql : Sqlite)

/-- The test `x op v` of a constraint, plainly compared. -/
def holds (a : Affinity) (op : UInt8) (x v : Value) : Bool := sql.compares .plain a op x v

theorem holds_eq_text (s t : Str) :
    sql.holds .text indexConstraintEq (.text s) (.text t) = decide (s = t) :=
  sql.plain_eq_text s t

theorem holds_eq_null (a : Affinity) (x : Value) : sql.holds a indexConstraintEq x .null = false :=
  sql.plain_eq_null a x

theorem holds_null_eq (a : Affinity) (v : Value) : sql.holds a indexConstraintEq .null v = false :=
  sql.plain_null_eq a v

theorem exists_valueText {v : Value} (h : v ≠ .null) : ∃ s, sql.valueText v = some s :=
  Option.isSome_iff_exists.mp (sql.valueText_isSome v h)

/-- Matching of a `LIKE` pattern without an escape: `%` stands for any characters, `_` for
one, and letters match up to ASCII case. -/
def likeMatch : List Char → List Char → Bool
  | [], s => s.isEmpty
  | '%' :: ps, s => s.tails.any (likeMatch ps)
  | _ :: _, [] => false
  | p :: ps, c :: s => (p = '_' || p.toLower = c.toLower) && likeMatch ps s

/-- A small instance of the library. It agrees with SQLite on NULL, on integers and on text,
up to reading a number off a text, and knows no operator but `=`. -/
def sample : Sqlite where
  valueText
    | .null => none
    | .integer i => some (toString i.toInt).toList
    | .text s => some s
    | _ => some []
  valueInt
    | .integer i => i.toInt32
    | _ => 0
  compares c a op x v := c = .plain && op = indexConstraintEq &&
    match a, x, v with
    | .text, .text s, .text t => s = t
    | .text, .text s, .integer i => s = (toString i.toInt).toList
    | .integer, .integer i, .integer j => i = j
    | _, _, _ => false
  like
    | [.text p, .text s] => .integer (if likeMatch p s then 1 else 0)
    | _ => .null
  valueText_null := rfl
  valueText_text _ := rfl
  valueText_isSome v h := by cases v <;> simp_all
  valueInt_null := rfl
  valueInt_integer _ := rfl
  plain_eq_text s t := by simp
  plain_eq_null a x := by cases a <;> cases x <;> rfl
  plain_null_eq a v := by cases a <;> rfl
  plain_text_eq s v h := by cases v <;> simp_all

end Sqlite

end ClangQL
