import ClangQL.Refs.Completeness
import ClangQL.Relations.Join
import ClangQL.Symbols.Reads

/-!
# NULL arguments

For SQL NULL `sqlite3_value_text` is a null pointer, and `Filter` builds a string from it
without a test. NULL does arrive: `Column` yields it for an absent id, and a join passes a
column on as an argument. Only the flag arguments of the refs table, which are read as
integers, may be NULL; SQLite then rejects every row.

## Main definitions

* `VirtualTable.HandlesNull`: a plan is safe for its arguments, and NULL as one equals nothing

## Main results

* `VirtualTable.kept_eq_nil`: a consumed equality with NULL that is tested again leaves no row
* `handlesNull_iff`: the queries of the three tables that are safe
-/

namespace ClangQL

/-- A comparison by `=` with NULL is true of no row. -/
theorem Term.holds_null {sql : Sqlite} {affinity : Int → Affinity} {t : Term}
    (hop : t.constraint.op = indexConstraintEq) (hnull : t.rhs = .null) (row : Row) :
    t.holds sql affinity row = false := by
  unfold Term.holds
  cases row.value t.constraint.iColumn with
  | ok x => exact hop ▸ hnull ▸ sql.holds_eq_null _ _
  | error stop => rfl

namespace VirtualTable

variable {σ Req M : Type} {T : VirtualTable σ Req M} {sql : Sqlite}
  {server : Req → List (Reply M)} {terms : List Term} {c : σ} {rows : List Row}

/-- The plan consumes an equality with NULL. -/
def ConsumesNull (T : VirtualTable σ Req M) (terms : List Term) : Prop :=
  ∃ (i : ℕ) (t : Term), terms[i]? = some t ∧ (T.plan terms).forwards i = true ∧
    t.constraint.op = indexConstraintEq ∧ t.rhs = .null

/-- **NULL is handled** under the plan of a query: `Filter` builds no string from a null pointer
and lets no exception out, and when an equality with NULL is consumed the scan has no row that
SQLite keeps. -/
structure HandlesNull (T : VirtualTable σ Req M) (sql : Sqlite) (server : Req → List (Reply M))
    (terms : List Term) (c : σ) : Prop where
  string : T.cursor.filter server (T.plan terms).idxNum (T.args terms) c ≠
    .error (.undefined .nullString)
  exception : T.cursor.filter server (T.plan terms).idxNum (T.args terms) c ≠ .error .exception
  rows : T.ConsumesNull terms → ∃ rows, T.Scans server terms c rows ∧ T.kept sql terms rows = []

/-- A query that is scanned handles NULL when no row of an equality with NULL is kept. -/
theorem Scans.handlesNull (h : T.Scans server terms c rows)
    (hkept : T.ConsumesNull terms → T.kept sql terms rows = []) :
    T.HandlesNull sql server terms c := by
  obtain ⟨-, req, c', hf, -⟩ := id h
  refine ⟨?_, ?_, fun hnull => ⟨rows, h, hkept hnull⟩⟩
  · rw [hf]
    simp
  · rw [hf]
    simp

/-- **No row is kept** for a consumed equality with NULL that SQLite tests again. -/
theorem kept_eq_nil (hrechecks : ∀ i, (T.plan terms).rechecks i = true)
    (hnull : T.ConsumesNull terms) : T.kept sql terms rows = [] := by
  obtain ⟨i, t, ht, -, hop, hrhs⟩ := hnull
  rw [kept_eq_filter_of_rechecks rows hrechecks, List.filter_eq_nil_iff]
  intro row _ hsat
  -- SQLite tests the consumed equality too, and NULL equals nothing
  have hholds := List.all_eq_true.mp hsat t (List.mem_of_getElem? ht)
  rw [Term.holds_null hop hrhs] at hholds
  exact absurd hholds (by simp)

/-- The right-hand side of a consumed constraint is an argument. -/
theorem rhs_mem_args {is : List ℕ} (h : (T.plan terms).Consumes is) {i : ℕ} {t : Term}
    (ht : terms[i]? = some t) (hi : (T.plan terms).forwards i = true) : t.rhs ∈ T.args terms := by
  rw [args, h.argv_eq, List.mem_filterMap]
  exact ⟨i, (h.forwards_iff i).mp hi, by simp [ht]⟩

/-- With NULL consumed, NULL is among the arguments. -/
theorem ConsumesNull.mem_args {is : List ℕ} (hnull : T.ConsumesNull terms)
    (h : (T.plan terms).Consumes is) : .null ∈ T.args terms := by
  obtain ⟨i, t, ht, hi, -, hrhs⟩ := hnull
  exact hrhs ▸ rhs_mem_args h ht hi

end VirtualTable

variable {sql : Sqlite} {terms : List Term}

theorem symbolsTable_handlesNull_iff (server : SymbolsRequest → List (Reply Symbol))
    (c : SymbolsCursor) : (symbolsTable sql).HandlesNull sql server terms c ↔
      .null ∉ SymbolsTable.arguments terms := by
  constructor
  · intro h hmem
    refine h.string ?_
    rw [symbolsTable_idxNum, symbolsTable_args]
    show SymbolsCursor.filter sql server _ _ c = _
    rw [SymbolsCursor.filter, SymbolsCursor.request_null hmem]
    rfl
  · intro hmem
    refine (symbolsTable_scans (fun v hv hnull => hmem (hnull ▸ hv)) c).handlesNull fun hnull => ?_
    have hargs := hnull.mem_args (SymbolsTable.bestIndex_consumes _)
    rw [symbolsTable_args] at hargs
    exact absurd hargs hmem

theorem refsTable_handlesNull_iff (server : RefsRequest → List (Reply Ref)) (c : RefsCursor) :
    (refsTable sql).HandlesNull sql server terms c ↔ RefsTable.chosen terms 0 ≠ some .null := by
  constructor
  · intro h hid
    refine h.string ?_
    rw [refsTable_idxNum, refsTable_args]
    show RefsCursor.filter sql server _ _ c = _
    rw [RefsCursor.filter, if_pos (idxNumOf_ne_zero (by rw [hid]; rfl)), decode_plan_null hid]
    rfl
  · intro hid
    have hscans : ∃ rows, (refsTable sql).Scans server terms c rows := by
      by_cases hidx : RefsTable.idxNumOf terms = 0
      · exact ⟨_, refsTable_scans_nil hidx c⟩
      · exact ⟨_, refsTable_scans hid hidx c⟩
    obtain ⟨rows, hrows⟩ := hscans
    exact hrows.handlesNull (VirtualTable.kept_eq_nil (RefsTable.bestIndex_rechecks _))

theorem relationsTable_handlesNull_iff (kind : RelationKind)
    (server : RelationsRequest → List (Reply Relation)) (c : RelationsCursor) :
    (relationsTable sql kind).HandlesNull sql server terms c ↔
      RelationsTable.chosen terms ≠ some .null := by
  constructor
  · intro h hkey
    refine h.string ?_
    rw [relationsTable_idxNum, relationsTable_args, hkey]
    show RelationsCursor.filter sql server _ _ c = _
    have hpush : RelationsCursor.pushSubject sql 1 [.null] c.subjects =
        .error (.undefined .nullString) := by
      rw [RelationsCursor.pushSubject, if_pos (by decide)]
      exact bind_textOf_argAt_null rfl
    rw [RelationsCursor.filter, Option.isSome_some, if_pos rfl, Option.toList_some, hpush]
    rfl
  · intro hkey
    have hscans : ∃ rows, (relationsTable sql kind).Scans server terms c rows := by
      cases hv : RelationsTable.chosen terms with
      | none => exact ⟨_, relationsTable_scans_unkeyed hv c⟩
      | some v => exact ⟨_, relationsTable_scans hv (fun hnull => hkey (hnull ▸ hv)) c⟩
    obtain ⟨rows, hrows⟩ := hscans
    exact hrows.handlesNull (VirtualTable.kept_eq_nil (RelationsTable.bestIndex_rechecks _))

/-- **Where NULL is handled**: on the symbols table without NULL among the arguments, on the
refs table with another id than NULL, and on a relation table with another subject. -/
theorem handlesNull_iff (sql : Sqlite) (terms : List Term) :
    (∀ server c, (symbolsTable sql).HandlesNull sql server terms c ↔
        .null ∉ SymbolsTable.arguments terms) ∧
      (∀ server c, (refsTable sql).HandlesNull sql server terms c ↔
        RefsTable.chosen terms 0 ≠ some .null) ∧
      ∀ kind server c, (relationsTable sql kind).HandlesNull sql server terms c ↔
        RelationsTable.chosen terms ≠ some .null :=
  ⟨symbolsTable_handlesNull_iff, refsTable_handlesNull_iff, relationsTable_handlesNull_iff⟩

/-- **A join hands NULL on**: the id of a symbol without one is NULL, and as the key of any of the
three tables a string is built from it. -/
theorem not_handlesNull_absent_id :
    let terms := [Term.equality 0 (SymbolsCursor.columnOf {} 0)]
    ¬ (symbolsTable .sample).HandlesNull .sample (fun _ => []) terms {} ∧
      ¬ (refsTable .sample).HandlesNull .sample (fun _ => []) terms {} ∧
      ¬ (relationsTable .sample .baseOf).HandlesNull .sample (fun _ => []) terms
        { kind := .baseOf } := by
  refine ⟨fun h => h.string rfl, fun h => h.string rfl, fun h => h.string rfl⟩

end ClangQL
