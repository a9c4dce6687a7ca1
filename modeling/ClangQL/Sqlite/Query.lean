import ClangQL.Cursor.Values
import ClangQL.Cursor.VirtualTableCursor
import ClangQL.Sqlite.Index

/-!
# Queries on a virtual table

A query on a table comes with a list of terms, each a constraint and its right-hand side.
SQLite asks the table for a plan, builds the argument vector, filters, scans to the end and
keeps the rows on which the terms it still has to test are true. All comparisons are plain: the
columns are declared without a collation, and the right-hand sides have no affinity.

## Main definitions

* `Term`, `Term.holds`: a constraint with its right-hand side, and its test on a row
* `VirtualTable`: a planner with its cursor and its column affinities
* `VirtualTable.plan`, `VirtualTable.Scans`, `VirtualTable.kept`: the plan of a query, the rows
  of a scan under it, and those that survive SQLite's test
* `VirtualTable.Answers`: the rows a query has in the end
* `firstTerm`: the first usable term a search loop wants

## Main results

* `keyText_eq_of_satisfies`: an equality on the first column fixes the key of a row
* `filterMap_firstPosition`: a search over the constraints finds the right-hand side of the
  first wanted term
* `VirtualTable.kept_eq_filter`: a plan whose omitted tests are true keeps the rows of all terms
* `VirtualTable.scans_of_filter`: a cursor that iterates scans the results sent
-/

namespace ClangQL

/-- A term `column op rhs` of a query, whose right-hand side is a literal or a bound parameter. -/
structure Term where
  constraint : Constraint
  rhs : Value
  deriving DecidableEq

/-- The usable term `column = rhs`. -/
def Term.equality (iColumn : Int) (rhs : Value) : Term := ⟨⟨iColumn, indexConstraintEq, true⟩, rhs⟩

/-- The value a constraint tests: a column, or the rowid for column -1. -/
def Row.value (row : Row) (iColumn : Int) : Outcome Value :=
  if iColumn = -1 then row.rowId.map fun i => .integer (.ofInt i) else row.column iColumn

/-- Whether a term is true of a row. -/
def Term.holds (sql : Sqlite) (affinity : Int → Affinity) (row : Row) (t : Term) : Bool :=
  match row.value t.constraint.iColumn with
  | .ok x => sql.holds (affinity t.constraint.iColumn) t.constraint.op x t.rhs
  | .error _ => false

/-- Whether all terms are true of a row. -/
def satisfies (sql : Sqlite) (affinity : Int → Affinity) (terms : List Term) (row : Row) : Bool :=
  terms.all (·.holds sql affinity row)

/-- **The key of a row.** A row with a text in its first column satisfies an equality on that
column only when the text is the key `Filter` builds from the right-hand side. -/
theorem keyText_eq_of_satisfies {sql : Sqlite} {affinity : Int → Affinity} {terms : List Term}
    {row : Row} {u : Str} {t : Term} (haff : affinity 0 = .text)
    (hcol : row.column 0 = .ok (.text u)) (hu : NulFree u) (ht : t ∈ terms)
    (hcolumn : t.constraint.iColumn = 0) (hop : t.constraint.op = indexConstraintEq)
    (hrow : satisfies sql affinity terms row = true) : keyText sql t.rhs = u := by
  have hholds := List.all_eq_true.mp hrow t ht
  have hvalue : row.value t.constraint.iColumn = .ok (.text u) := by
    rw [hcolumn]
    exact hcol
  rw [Term.holds, hvalue, hcolumn, hop, haff] at hholds
  exact keyText_of_holds hu hholds

/-- The first usable term that a search loop wants. -/
def firstTerm (wanted : Constraint → Bool) (terms : List Term) : Option Term :=
  terms.find? fun t => t.constraint.usable && wanted t.constraint

theorem firstTerm_mem {wanted : Constraint → Bool} {terms : List Term} {t : Term}
    (h : firstTerm wanted terms = some t) : t ∈ terms := List.mem_of_find?_eq_some h

theorem firstTerm_wanted {wanted : Constraint → Bool} {terms : List Term} {t : Term}
    (h : firstTerm wanted terms = some t) :
    t.constraint.usable = true ∧ wanted t.constraint = true := by
  simpa using List.find?_some h

theorem firstTerm_isSome {wanted : Constraint → Bool} {terms : List Term} :
    (firstTerm wanted terms).isSome ↔
      ∃ t ∈ terms, t.constraint.usable = true ∧ wanted t.constraint = true := by
  simp [firstTerm, List.find?_isSome]

theorem isSome_firstPosition (wanted : Constraint → Bool) (terms : List Term) :
    (IndexInfo.firstPosition wanted (terms.map (·.constraint))).isSome =
      (firstTerm wanted terms).isSome := by
  rw [IndexInfo.firstPosition, Option.isSome_map, firstMatch_map, Option.isSome_map, firstTerm,
    ← map_snd_firstMatch, Option.isSome_map]
  rfl

/-- A search over the constraints finds the right-hand side of the first wanted term. -/
theorem bind_firstPosition (wanted : Constraint → Bool) (terms : List Term) :
    (IndexInfo.firstPosition wanted (terms.map (·.constraint))).bind ((terms.map (·.rhs))[·]?) =
      (firstTerm wanted terms).map (·.rhs) := by
  have hfirst : firstTerm wanted terms = _ := (map_snd_firstMatch _ terms).symm
  rw [IndexInfo.firstPosition, Option.bind_map, firstMatch_map, hfirst]
  simp only [Function.comp_def]
  cases hm : firstMatch (fun t : Term => t.constraint.usable && wanted t.constraint) terms with
  | none => rfl
  | some m => simp [firstMatch_getElem? (i := m.1) (a := m.2) hm]

/-- The argument of a search that found something. -/
theorem filterMap_firstPosition (wanted : Constraint → Bool) (terms : List Term) :
    (IndexInfo.firstPosition wanted (terms.map (·.constraint))).toList.filterMap
        ((terms.map (·.rhs))[·]?) =
      ((firstTerm wanted terms).map (·.rhs)).toList := by
  rw [← bind_firstPosition]
  cases IndexInfo.firstPosition wanted (terms.map (·.constraint)) with
  | none => rfl
  | some i =>
    cases h : (terms.map (·.rhs))[i]? <;> simp only [Option.toList, List.filterMap, h, Option.bind]

/-- A table: its planner `BestIndex`, the cursors `Open` makes, and the declared affinities of
its columns. -/
structure VirtualTable (σ Req M : Type) where
  bestIndex : IndexInfo → ResultCode × IndexInfo
  cursor : VirtualTableCursor σ Req M
  fresh : σ
  affinity : Int → Affinity

namespace VirtualTable

variable {σ Req M : Type} (T : VirtualTable σ Req M)

/-- The plan of a query. -/
def plan (terms : List Term) : IndexInfo := (T.bestIndex (.start (terms.map (·.constraint)))).2

/-- The arguments of `Filter` under the plan of a query. -/
def args (terms : List Term) : List Value := (T.plan terms).argv (terms.map (·.rhs))

/-- Under the plan of the query, the cursor `c` scans exactly these rows before `Eof`. -/
def Scans (server : Req → List (Reply M)) (terms : List Term) (c : σ) (rows : List Row) : Prop :=
  (T.bestIndex (.start (terms.map (·.constraint)))).1 = sqliteOk ∧
    ∃ req c', T.cursor.filter server (T.plan terms).idxNum (T.args terms) c =
      .ok (sqliteOk, req, c') ∧ ∃ n, T.cursor.rows.drain n c' = some rows

/-- The rows on which the terms that the plan leaves to SQLite are true. -/
def kept (sql : Sqlite) (terms : List Term) (rows : List Row) : List Row :=
  rows.filter fun row => terms.zipIdx.all fun t =>
    !(T.plan terms).rechecks t.2 || t.1.holds sql T.affinity row

/-- A query answered by the cursor `c` has the rows `expected`, in some order. -/
def Answers (sql : Sqlite) (server : Req → List (Reply M)) (terms : List Term) (c : σ)
    (expected : List Row) : Prop :=
  ∃ rows, T.Scans server terms c rows ∧ (T.kept sql terms rows).Perm expected

variable {T}

/-- **SQLite keeps the rows of all terms** when the terms it does not test are true of every
row. -/
theorem kept_eq_filter {sql : Sqlite} {terms : List Term} {rows : List Row}
    (h : ∀ i t, terms[i]? = some t → (T.plan terms).rechecks i = false →
      ∀ row ∈ rows, t.holds sql T.affinity row = true) :
    T.kept sql terms rows = rows.filter (satisfies sql T.affinity terms) := by
  refine List.filter_congr fun row hrow => ?_
  rw [Bool.eq_iff_iff, satisfies, List.all_eq_true, List.all_eq_true]
  constructor
  · intro hall t ht
    obtain ⟨i, hi, rfl⟩ := List.getElem_of_mem ht
    have hget : terms[i]? = some terms[i] := List.getElem?_eq_getElem hi
    have hi' := hall (terms[i], i) (List.mk_mem_zipIdx_iff_getElem?.mpr hget)
    cases hr : (T.plan terms).rechecks i with
    | false => exact h i _ hget hr row hrow
    | true => simpa [hr] using hi'
  · rintro hall ⟨t, i⟩ ht
    rw [hall t (List.mem_of_getElem? (List.mk_mem_zipIdx_iff_getElem?.mp ht)), Bool.or_true]

/-- SQLite keeps the rows of all terms when it tests them all. -/
theorem kept_eq_filter_of_rechecks {sql : Sqlite} {terms : List Term} (rows : List Row)
    (h : ∀ i, (T.plan terms).rechecks i = true) :
    T.kept sql terms rows = rows.filter (satisfies sql T.affinity terms) :=
  kept_eq_filter fun i _ _ hi => absurd (hi.symm.trans (h i)) (by simp)

/-- A scan is determined by its filter. -/
theorem Scans.unique {server : Req → List (Reply M)} {terms : List Term} {c : σ}
    {rows rows' : List Row} (h : T.Scans server terms c rows) (h' : T.Scans server terms c rows') :
    rows = rows' := by
  obtain ⟨-, req, c', hf, n, hn⟩ := h
  obtain ⟨-, req', c'', hf', n', hn'⟩ := h'
  obtain ⟨-, -, rfl⟩ : sqliteOk = sqliteOk ∧ req = req' ∧ c' = c'' := by
    simpa using hf.symm.trans hf'
  exact (ListSource.yields_of_drain hn).unique (ListSource.yields_of_drain hn')

/-- The answer to a query is what survives of its scan. -/
theorem Scans.answers_iff {sql : Sqlite} {server : Req → List (Reply M)} {terms : List Term}
    {c : σ} {rows expected : List Row} (h : T.Scans server terms c rows) :
    T.Answers sql server terms c expected ↔ (T.kept sql terms rows).Perm expected := by
  constructor
  · rintro ⟨rows', h', hperm⟩
    rwa [h.unique h']
  · exact fun hperm => ⟨rows, h, hperm⟩

/-- **A cursor that iterates scans the results sent**, each shown as its row. -/
theorem scans_of_filter {rowOf : Req → M → Row} (h : T.cursor.Iterates rowOf)
    {server : Req → List (Reply M)} {terms : List Term} {c c' : σ} {req : Req}
    (hplan : (T.bestIndex (.start (terms.map (·.constraint)))).1 = sqliteOk)
    (hf : T.cursor.filter server (T.plan terms).idxNum (T.args terms) c =
      .ok (sqliteOk, some req, c')) :
    T.Scans server terms c ((results (server req)).map (rowOf req)) := by
  have hy := T.cursor.rows_yields (h.filter_request hf)
  rw [List.map_map] at hy
  exact ⟨hplan, _, _, hf, ListSource.exists_drain_iff.mpr hy⟩

end VirtualTable

end ClangQL
