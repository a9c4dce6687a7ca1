import ClangQL.Symbols.Cursor

/-!
# LIKE on the symbols table

SQLite evaluates `LIKE` on a column of the table through the function that `FindFunction`
supplies, and that function answers 1 whatever its arguments are. Only the `LIKE` terms that
the planner gives to the server have another effect.

## Main definitions

* `LikePredicate terms`: a `LIKE` on a column in a query with the constraints `terms`
* `evaluateLike`: the value SQLite computes for a `LIKE` on a column
* `LikePredicate.Honoured`: it reaches the server or has its ordinary meaning on the row
* `LikePredicate.Pushed`: it is one that the searches by name, scope or path find first

## Main results

* `LikePredicate.honoured_iff`: the predicates honoured on a row
-/

namespace ClangQL

open SymbolsTable IndexInfo

/-- A `LIKE` on a column in a query with these terms, with the value of its pattern and of its
escape character. `position` is its place among the terms, and is missing under `NOT`, under
`OR` and with an escape character, which make no constraint. -/
structure LikePredicate (terms : List Term) where
  iColumn : Int
  pattern : Value
  escape : Option Value
  position : Option ℕ
  isTerm : ∀ i ∈ position, escape = none ∧
    ∃ usable, terms[i]? = some ⟨⟨iColumn, indexConstraintLike, usable⟩, pattern⟩

/-- The value of `like(args)` with a column of the table as left operand: the overload of the
table if it has one, or else the built-in function. -/
def evaluateLike (sql : Sqlite) (args : List Value) : Value :=
  match findFunction args.length "like".toList with
  | some f => f args
  | none => sql.like args

/-- A row of the symbols table has all its values. -/
theorem exists_symbolRow_value (m : Symbol) (i : Int) : ∃ x, (symbolRow m).value i = .ok x := by
  unfold Row.value
  split_ifs
  · exact ⟨_, rfl⟩
  · exact ⟨_, rfl⟩

namespace LikePredicate

variable {terms : List Term} (p : LikePredicate terms)

/-- The left operand on the row of a symbol: a column, or the rowid. -/
def operand (m : Symbol) : Value :=
  match (symbolRow m).value p.iColumn with
  | .ok x => x
  | .error _ => .null

/-- The arguments of the function on the row of a symbol. -/
def arguments (m : Symbol) : List Value := p.pattern :: p.operand m :: p.escape.toList

/-- The predicate is given to the server by the plan of the query, or SQLite's value for it on
the row is the one of the built-in `LIKE`. -/
def Honoured (sql : Sqlite) (m : Symbol) : Prop :=
  (∃ i ∈ p.position, ((symbolsTable sql).plan terms).forwards i = true) ∨
    evaluateLike sql (p.arguments m) = sql.like (p.arguments m)

/-- There is no usable equality on `Id`, and the predicate is a term of the query, the first
that the search by name, by scope or by path wants. -/
def Pushed : Prop :=
  (∀ t ∈ terms, t.constraint.usable = true → isId t.constraint = false) ∧
    ∃ i ∈ p.position, ∃ wanted ∈ [isName, isScope, isPath],
      firstPosition wanted (terms.map (·.constraint)) = some i

/-- The overload answers 1, whatever it is asked. -/
theorem evaluateLike_eq (sql : Sqlite) (args : List Value) :
    evaluateLike sql args = .integer 1 := rfl

theorem firstPosition_isId_eq_none_iff :
    firstPosition isId (terms.map (·.constraint)) = none ↔
      ∀ t ∈ terms, t.constraint.usable = true → isId t.constraint = false := by
  rw [firstPosition, Option.map_eq_none_iff, firstMatch_eq_none_iff]
  simp

/-- The plan gives a predicate to the server exactly when it is pushed. -/
theorem forwards_iff_pushed (sql : Sqlite) :
    (∃ i ∈ p.position, ((symbolsTable sql).plan terms).forwards i = true) ↔ p.Pushed := by
  have hforwards : ∀ i, ((symbolsTable sql).plan terms).forwards i = true ↔
      i ∈ consumed (terms.map (·.constraint)) := (bestIndex_consumes _).forwards_iff
  simp only [hforwards, Pushed, ← firstPosition_isId_eq_none_iff]
  unfold consumed
  cases hid : firstPosition isId (terms.map (·.constraint)) with
  | none => simp [Option.mem_toList]
  | some j =>
    refine iff_of_false ?_ fun h => absurd h.1 (by simp)
    rintro ⟨i, hi, hj⟩
    obtain rfl : i = j := List.mem_singleton.mp hj
    obtain ⟨-, usable, hterm⟩ := p.isTerm i hi
    obtain ⟨⟨k, c⟩, hm, rfl⟩ := Option.map_eq_some_iff.mp hid
    have hc := firstMatch_getElem? hm
    rw [List.getElem?_map, hterm, Option.map_some] at hc
    obtain rfl := Option.some.inj hc
    have hid := wanted_of_firstMatch hm
    simp [isId, indexConstraintEq, indexConstraintLike] at hid

/-- **The predicates honoured on a row** are the ones pushed, and those the row satisfies
anyway. -/
theorem honoured_iff (sql : Sqlite) (m : Symbol) :
    p.Honoured sql m ↔ p.Pushed ∨ sql.like (p.arguments m) = .integer 1 := by
  rw [Honoured, forwards_iff_pushed, evaluateLike_eq, eq_comm]

end LikePredicate

/-- **A dropped predicate.** `Signature LIKE '%int%'` is true of a symbol without parameters. -/
theorem like_signature_not_honoured :
    ¬ (⟨3, .text "%int%".toList, none, some 0, by simp⟩ :
      LikePredicate [⟨⟨3, indexConstraintLike, true⟩, .text "%int%".toList⟩]).Honoured .sample
        { signature := some "()".toList } := by
  rintro (⟨i, hi, h⟩ | h)
  · obtain rfl : 0 = i := by simpa using hi
    exact absurd h (by decide)
  · exact absurd h (by decide)

end ClangQL
