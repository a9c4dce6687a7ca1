import ClangQL.Cursor.ResultStream
import ClangQL.Library.ExceptBind
import ClangQL.Library.MachineWord

/-!
# Values read and returned

`Filter` reads its arguments through `sqlite3_value_text`, which is a null pointer for NULL, and
takes the C string it gets up to its first NUL. `Column` hands a field to SQLite through the
macros of the symbols and the refs cursor: a text result is read up to its first NUL and an
unsigned field is narrowed to a signed `int`.

## Main definitions

* `argAt`, `textOf`: an argument, and the string built from one
* `keyText`: the string built from a value that is not NULL
* `ArgumentStop`: the ways reading an argument fails
* `resultText`, `resultInt`: `sqlite3_result_text` and `sqlite3_result_int`
* `setRes`, `setRes2`, `setRes2Int`, `setRes3`, `setResProp`: the macros `SET_RES`,
  `SET_RES2`, `SET_RES2_INT`, `SET_RES3` and `SET_RES_PROP`

## Main results

* `bind_textOf_argAt`: what reading a text argument gives
* `keyText_of_holds`: an equality of texts fixes the string built from its right-hand side
-/

namespace ClangQL

/-! ## Arguments -/

/-- `argv[i]`. -/
def argAt (argv : List Value) (i : ℕ) : Outcome Value :=
  match argv[i]? with
  | some v => .ok v
  | none => .error (.undefined .argvBounds)

/-- A string built from `(const char *)sqlite3_value_text(v)`. -/
def textOf (sql : Sqlite) (v : Value) : Outcome Str :=
  match sql.valueText v with
  | some s => .ok (cStr s)
  | none => .error (.undefined .nullString)

/-- The string built from a value that is not NULL. -/
def keyText (sql : Sqlite) (v : Value) : Str := ((sql.valueText v).map cStr).getD []

theorem textOf_eq_ok {sql : Sqlite} {v : Value} (h : v ≠ .null) :
    textOf sql v = .ok (keyText sql v) := by
  obtain ⟨s, hs⟩ := sql.exists_valueText h
  simp [textOf, keyText, hs]

theorem textOf_null (sql : Sqlite) : textOf sql .null = .error (.undefined .nullString) := by
  simp [textOf, sql.valueText_null]

theorem argAt_eq_ok {argv : List Value} {i : ℕ} {v : Value} :
    argAt argv i = .ok v ↔ argv[i]? = some v := by
  unfold argAt
  cases argv[i]? <;> simp

theorem keyText_of_textOf {sql : Sqlite} {v : Value} {s : Str} (h : textOf sql v = .ok s) :
    keyText sql v = s := by
  unfold textOf at h
  unfold keyText
  cases hv : sql.valueText v <;> simp_all

/-- The ways reading an argument fails: it is beyond `argc`, or it is NULL. -/
def ArgumentStop (stop : Stop) : Prop :=
  stop = .undefined .argvBounds ∨ stop = .undefined .nullString

theorem argAt_failsIn (argv : List Value) (i : ℕ) : (argAt argv i).FailsIn ArgumentStop := by
  intro stop h
  unfold argAt at h
  split at h
  · exact absurd h (by simp)
  · exact Or.inl (Except.error.inj h).symm

theorem textOf_failsIn (sql : Sqlite) (v : Value) : (textOf sql v).FailsIn ArgumentStop := by
  intro stop h
  unfold textOf at h
  split at h
  · exact absurd h (by simp)
  · exact Or.inr (Except.error.inj h).symm

section ReadText

variable {sql : Sqlite} {argv : List Value} {i : ℕ} {v : Value} {α : Type} {f : Str → Outcome α}

/-- **A text argument** that is not NULL is read as its string. -/
theorem bind_textOf_argAt (hget : argv[i]? = some v) (hv : v ≠ .null) :
    (argAt argv i >>= fun v => textOf sql v >>= f) = f (keyText sql v) := by
  rw [argAt_eq_ok.mpr hget]
  show (textOf sql v >>= f) = _
  rw [textOf_eq_ok hv]
  rfl

/-- For NULL the string would be built from a null pointer. -/
theorem bind_textOf_argAt_null (hget : argv[i]? = some .null) :
    (argAt argv i >>= fun v => textOf sql v >>= f) = .error (.undefined .nullString) := by
  rw [argAt_eq_ok.mpr hget]
  show (textOf sql .null >>= f) = _
  rw [textOf_null]
  rfl

/-- Only a position beyond the arguments is out of bounds. -/
theorem length_le_of_bind_textOf_argAt (hf : ∀ s, f s ≠ .error (.undefined .argvBounds))
    (h : (argAt argv i >>= fun v => textOf sql v >>= f) = .error (.undefined .argvBounds)) :
    argv.length ≤ i := by
  by_contra hlt
  have hget : argv[i]? = some _ := List.getElem?_eq_getElem (not_le.mp hlt)
  by_cases hv : argv[i] = .null
  · rw [bind_textOf_argAt_null (hv ▸ hget)] at h
    exact absurd h (by simp)
  · rw [bind_textOf_argAt hget hv] at h
    exact hf _ h

/-- A position within the arguments is read, unless NULL is there. -/
theorem bind_textOf_argAt_of_lt (hi : i < argv.length) :
    (argAt argv i >>= fun v => textOf sql v >>= f) = .error (.undefined .nullString) ∨
      ∃ s, (argAt argv i >>= fun v => textOf sql v >>= f) = f s := by
  have hget : argv[i]? = some _ := List.getElem?_eq_getElem hi
  by_cases hv : argv[i] = .null
  · exact Or.inl (bind_textOf_argAt_null (hv ▸ hget))
  · exact Or.inr ⟨_, bind_textOf_argAt hget hv⟩

theorem bind_textOf_argAt_failsIn (hf : ∀ s, (f s).FailsIn ArgumentStop) :
    (argAt argv i >>= fun v => textOf sql v >>= f).FailsIn ArgumentStop :=
  (argAt_failsIn argv i).bind fun v => (textOf_failsIn sql v).bind hf

end ReadText

@[simp] theorem nulFree_keyText (sql : Sqlite) (v : Value) : NulFree (keyText sql v) := by
  unfold keyText
  cases sql.valueText v with
  | none => exact List.not_mem_nil
  | some s => exact nulFree_cStr s

@[simp] theorem cStr_keyText (sql : Sqlite) (v : Value) :
    cStr (keyText sql v) = keyText sql v := cStr_eq_self (nulFree_keyText sql v)

/-- The string built from a text without NUL is that text. -/
theorem keyText_text (sql : Sqlite) {s : Str} (h : NulFree s) : keyText sql (.text s) = s := by
  rw [keyText, sql.valueText_text, Option.map_some, Option.getD_some, cStr_eq_self h]

/-- A column that shows a key equals the right-hand side of its text only if that text is the
key itself. -/
theorem keyText_of_holds {sql : Sqlite} {u : Str} {v : Value} (hu : NulFree u)
    (h : sql.holds .text indexConstraintEq (.text u) v = true) : keyText sql v = u := by
  rw [keyText, sql.plain_text_eq u v h, Option.map_some, Option.getD_some, cStr_eq_self hu]

/-! ## Results -/

/-- `sqlite3_result_text(ctx, s.c_str(), -1, SQLITE_TRANSIENT)`. -/
def resultText (s : Str) : Value := .text (cStr s)

/-- `sqlite3_result_int(ctx, x)`. -/
def resultInt (x : Int32) : Value := .integer x.toInt64

/-- The conversion of a truth value to `int`. -/
def ofBool (b : Bool) : Int32 := if b then 1 else 0

/-- The test of a flag as a result: 1 when it is set, and 0 when it is not. -/
theorem resultInt_ofBool_flag (p : UInt32) {k : ℕ} (hk : k < 32) :
    resultInt (ofBool (p &&& .flag k == .flag k)) =
      .integer (if p &&& .flag k ≠ 0 then 1 else 0) := by
  rw [← UInt32.ite_and_flag p hk]
  cases p &&& .flag k == .flag k <;> rfl

section Macros

variable {α β : Type}

/-- `SET_RES(field)`. -/
def setRes (field : Option Str) : Value :=
  match field with
  | some s => resultText s
  | none => .null

/-- `SET_RES2(field1, field2)`. -/
def setRes2 (field1 : Option α) (field2 : α → Option Str) : Value :=
  match field1.bind field2 with
  | some s => resultText s
  | none => .null

/-- `SET_RES2_INT(field1, field2)`. -/
def setRes2Int (field1 : Option α) (field2 : α → Option UInt32) : Value :=
  match field1.bind field2 with
  | some n => resultInt n.toInt32
  | none => .null

/-- `SET_RES3(field1, field2, field3)`. -/
def setRes3 (field1 : Option α) (field2 : α → Option β) (field3 : β → Option UInt32) : Value :=
  match (field1.bind field2).bind field3 with
  | some n => resultInt n.toInt32
  | none => .null

/-- `SET_RES_PROP(name)`, for the property bit `name`. -/
def setResProp (info : Option SymbolInfo) (name : UInt32) : Value :=
  match info.bind (·.properties) with
  | some p => resultInt (ofBool (p &&& name == name))
  | none => .null

end Macros

end ClangQL
