import ClangQL.Symbols.Like
import ClangQL.Tables.Database

/-!
# The answer to any query on the symbols table

SQLite tests the terms that the plan has not omitted, and computes each `LIKE` among them through
the function that `FindFunction` supplies, if there is one. On the symbols table that function
answers 1. So the answer to a query is what the server sends for its request, tested by the usable
terms that are neither a `LIKE` nor the first equality on `Id`.

## Main definitions

* `Table.tests`, `Table.remaining`: SQLite's tests, with the functions that a table overloads
* `SymbolsTable.deciding`: the terms that decide which of the symbols sent are shown

## Main results

* `SymbolsTable.remaining_eq`: the deciding terms are the tests of the symbols table
* `SymbolsTable.query_answer`: the answer to any query
* `SymbolsTable.like_elsewhere`: a `LIKE` on another column changes no answer
-/

namespace ClangQL

/-! ## Tests with overloads -/

namespace Table

/-- SQLite's test of a term on a row. A `LIKE` is computed by the overload, if there is one. -/
def tests (sql : Sqlite) (t : Table) (term : Term) (row : Row) : Bool :=
  if term.constraint.op = indexConstraintLike then
    match t.findFunction 2 "like".toList, row.value term.constraint.iColumn with
    | some f, .ok x => f [term.rhs, x] == .integer 1
    | some _, .error _ => false
    | none, _ => term.holds sql (t.virtualTable sql).affinity row
  else term.holds sql (t.virtualTable sql).affinity row

/-- The rows that pass the tests of the usable terms that the plan leaves to SQLite. -/
def remaining (sql : Sqlite) (t : Table) (terms : List Term) (rows : List Row) : List Row :=
  rows.filter fun row => terms.zipIdx.all fun x =>
    !x.1.constraint.usable ||
      (!((t.virtualTable sql).plan terms).rechecks x.2 || t.tests sql x.1 row)

end Table

/-! ## The symbols table -/

namespace SymbolsTable

open SymbolsCursor IndexInfo

/-- The terms that decide which of the symbols sent are shown. -/
def deciding (terms : List Term) : List Term :=
  (terms.eraseP fun t => t.constraint.usable && isId t.constraint).filter fun t =>
    t.constraint.usable && !isLike t.constraint

variable {sql : Sqlite} {terms : List Term} {t : Term}

/-- A term other than the first equality on `Id`. -/
theorem mem_eraseP_isId : t ∈ (terms.eraseP fun t => t.constraint.usable && isId t.constraint) ↔
    ∃ i, terms[i]? = some t ∧ i ∉ firstPosition isId (terms.map (·.constraint)) := by
  have hposition : firstPosition isId (terms.map (·.constraint)) =
      terms.findIdx? fun t => t.constraint.usable && isId t.constraint := by
    rw [firstPosition, firstMatch_map, Option.map_map]
    exact map_fst_firstMatch _ terms
  rw [List.eraseP_eq_eraseIdx, hposition]
  cases terms.findIdx? fun t => t.constraint.usable && isId t.constraint with
  | none => simp [List.mem_iff_getElem?]
  | some j =>
    rw [List.mem_eraseIdx_iff_getElem?]
    refine exists_congr fun i => ?_
    simp [and_comm, eq_comm]

/-- SQLite tests the usable terms that are neither a consumed `LIKE` nor the first equality on
`Id`. -/
theorem rechecks_of_ne {i : ℕ} (ht : terms[i]? = some t) (husable : t.constraint.usable = true)
    (hlike : isLike t.constraint = false)
    (hi : i ∉ firstPosition isId (terms.map (·.constraint))) :
    ((symbolsTable sql).plan terms).rechecks i = true := by
  by_contra hrechecks
  obtain ⟨hmem, c, hc, homit⟩ := (bestIndex_rechecks _ i).mp (Bool.eq_false_iff.mpr hrechecks)
  rw [List.getElem?_map, ht, Option.map_some] at hc
  obtain rfl := Option.some.inj hc
  have hisId : isId t.constraint = true := homit.resolve_right (by simp [hlike])
  unfold consumed at hmem
  cases hp : firstPosition isId (terms.map (·.constraint)) with
  | some j =>
    rw [hp] at hmem
    exact hi (by rw [hp, List.mem_singleton.mp hmem]; rfl)
  | none =>
    have hno := LikePredicate.firstPosition_isId_eq_none_iff.mp hp t (List.mem_of_getElem? ht)
      husable
    exact absurd (hisId.symm.trans hno) (by simp)

/-- The first equality on `Id` is left to the server. -/
theorem rechecks_firstPosition {i : ℕ}
    (hi : i ∈ firstPosition isId (terms.map (·.constraint))) :
    ((symbolsTable sql).plan terms).rechecks i = false := by
  have hi' : firstPosition isId (terms.map (·.constraint)) = some i := hi
  refine (bestIndex_rechecks _ i).mpr ⟨?_, ?_⟩
  · rw [consumed, hi']
    exact List.mem_singleton_self i
  · obtain ⟨⟨k, c⟩, hm, rfl⟩ := Option.map_eq_some_iff.mp hi'
    exact ⟨c, firstMatch_getElem? hm, Or.inl (wanted_of_firstMatch hm)⟩

/-- A `LIKE` is true of every symbol. -/
theorem tests_like (hlike : isLike t.constraint = true) (m : Symbol) :
    Table.symbols.tests sql t (symbolRow m) = true := by
  have hop : t.constraint.op = indexConstraintLike := by simpa [isLike] using hlike
  obtain ⟨x, hx⟩ := exists_symbolRow_value m t.constraint.iColumn
  unfold Table.tests
  rw [if_pos hop, hx]
  rfl

theorem tests_of_not_like (hlike : isLike t.constraint = false) (row : Row) :
    Table.symbols.tests sql t row = t.holds sql affinity row := by
  have hop : t.constraint.op ≠ indexConstraintLike := by simpa [isLike] using hlike
  exact if_neg hop

/-- **The deciding terms are the tests** of a query. -/
theorem remaining_eq (ms : List Symbol) :
    Table.symbols.remaining sql terms (ms.map symbolRow) =
      (ms.filter fun m => satisfies sql affinity (deciding terms) (symbolRow m)).map symbolRow := by
  rw [Table.remaining, List.filter_map]
  refine congrArg _ (List.filter_congr fun m _ => ?_)
  show List.all _ _ = _
  rw [Bool.eq_iff_iff, satisfies, List.all_eq_true, List.all_eq_true]
  constructor
  · intro hall t ht
    obtain ⟨herase, htest⟩ := List.mem_filter.mp ht
    obtain ⟨husable, hlike⟩ : t.constraint.usable = true ∧ isLike t.constraint = false := by
      simpa using htest
    obtain ⟨i, hi, hne⟩ := mem_eraseP_isId.mp herase
    have hrechecks : ((symbolsTable sql).plan terms).rechecks i = true :=
      rechecks_of_ne hi husable hlike hne
    have htested := hall (t, i) (List.mk_mem_zipIdx_iff_getElem?.mpr hi)
    rw [← tests_of_not_like hlike]
    simpa [husable, show (Table.symbols.virtualTable sql).plan terms =
      (symbolsTable sql).plan terms from rfl, hrechecks] using htested
  · rintro hall ⟨t, i⟩ hx
    have hi := List.mk_mem_zipIdx_iff_getElem?.mp hx
    cases husable : t.constraint.usable with
    | false => simp
    | true =>
      cases hlike : isLike t.constraint with
      | true => simp [tests_like hlike]
      | false =>
        by_cases hfirst : i ∈ firstPosition isId (terms.map (·.constraint))
        · have hrechecks : ((Table.symbols.virtualTable sql).plan terms).rechecks i = false :=
            rechecks_firstPosition hfirst
          simp [hrechecks]
        · have hmem : t ∈ deciding terms := List.mem_filter.mpr
            ⟨mem_eraseP_isId.mpr ⟨i, hi, hfirst⟩, by simp [husable, hlike]⟩
          simp [tests_of_not_like hlike, hall t hmem]

/-- **The answer to any query**, without NULL among its arguments, on any server: the symbols sent
for the request of the query that satisfy the deciding terms. -/
theorem query_answer (sql : Sqlite) (server : SymbolsRequest → List (Reply Symbol))
    {terms : List Term} (hnull : ∀ v ∈ arguments terms, v ≠ .null) (c : SymbolsCursor) :
    ∃ rows, (symbolsTable sql).Scans server terms c rows ∧
      Table.symbols.remaining sql terms rows =
        ((results (server (requestOf sql terms))).filter fun m =>
          satisfies sql affinity (deciding terms) (symbolRow m)).map symbolRow :=
  ⟨_, symbolsTable_scans hnull c, remaining_eq _⟩

/-- `Name LIKE 'F' AND Signature LIKE '%int%'` shows every symbol that is sent. -/
theorem query_answer_two_likes :
    ∃ rows, (symbolsTable .sample).Scans (fun _ => replies [{ signature := some ['(', ')'] }])
        [⟨⟨1, indexConstraintLike, true⟩, .text ['F']⟩,
          ⟨⟨3, indexConstraintLike, true⟩, .text "%int%".toList⟩] {} rows ∧
      Table.symbols.remaining .sample [⟨⟨1, indexConstraintLike, true⟩, .text ['F']⟩,
          ⟨⟨3, indexConstraintLike, true⟩, .text "%int%".toList⟩] rows =
        ((results (replies [{ signature := some ['(', ')'] }])).filter fun m =>
          satisfies .sample affinity [] (symbolRow m)).map symbolRow :=
  query_answer .sample (fun _ => replies [{ signature := some ['(', ')'] }]) (by decide) {}

/-! ## LIKE on other columns -/

section Insert

variable {before after : List Term}

theorem firstTerm_insert {wanted : Constraint → Bool} (h : wanted t.constraint = false) :
    firstTerm wanted (before ++ t :: after) = firstTerm wanted (before ++ after) := by
  simp [firstTerm, List.find?_append, h]

/-- A `LIKE` on a column that no search is for is no argument and does not decide. -/
theorem like_insert (sql : Sqlite) (before after : List Term) (hlike : isLike t.constraint = true)
    (hcolumn : t.constraint.iColumn ∉ [1, 2, 7, 12]) :
    arguments (before ++ t :: after) = arguments (before ++ after) ∧
      requestOf sql (before ++ t :: after) = requestOf sql (before ++ after) ∧
      deciding (before ++ t :: after) = deciding (before ++ after) := by
  have hop : t.constraint.op = indexConstraintLike := by simpa [isLike] using hlike
  have hid : isId t.constraint = false := by
    simp [isId, hop, indexConstraintLike, indexConstraintEq]
  have hname : isName t.constraint = false := by
    rw [Bool.eq_false_iff, ne_eq, isName_iff]
    rintro ⟨h, -⟩
    exact hcolumn (by simp [h])
  have hscope : isScope t.constraint = false := by
    rw [Bool.eq_false_iff, ne_eq, isScope_iff]
    rintro ⟨h, -⟩
    exact hcolumn (by simp [h])
  have hpath : isPath t.constraint = false := by
    rw [Bool.eq_false_iff, ne_eq, isPath_iff]
    rintro ⟨h | h, -⟩
    · exact hcolumn (by simp [h])
    · exact hcolumn (by simp [h])
  refine ⟨?_, ?_, ?_⟩
  · rw [arguments, arguments, firstTerm_insert hid, firstTerm_insert hname,
      firstTerm_insert hscope, firstTerm_insert hpath]
  · rw [requestOf, requestOf, firstTerm_insert hid, firstTerm_insert hname,
      firstTerm_insert hscope, firstTerm_insert hpath]
  · rw [deciding, deciding, List.eraseP_append, List.eraseP_append]
    split
    · simp [hlike]
    · simp [hid, hlike]

/-- **A `LIKE` on another column changes no answer.** On a column other than `Name`, `Scope`,
`DefPath` and `DeclPath`, it has no effect on what the server is asked and on what is shown. -/
theorem like_elsewhere (sql : Sqlite) (server : SymbolsRequest → List (Reply Symbol))
    {before after : List Term} {t : Term} (hlike : isLike t.constraint = true)
    (hcolumn : t.constraint.iColumn ∉ [1, 2, 7, 12])
    (hnull : ∀ v ∈ arguments (before ++ after), v ≠ .null) (c : SymbolsCursor) :
    ∃ req rows, (∀ terms ∈ [before ++ t :: after, before ++ after],
        (∃ c', (symbolsTable sql).cursor.filter server ((symbolsTable sql).plan terms).idxNum
          ((symbolsTable sql).args terms) c = .ok (sqliteOk, some req, c')) ∧
        (symbolsTable sql).Scans server terms c rows) ∧
      Table.symbols.remaining sql (before ++ t :: after) rows =
        Table.symbols.remaining sql (before ++ after) rows := by
  obtain ⟨hargs, hreq, hdeciding⟩ := like_insert sql before after hlike hcolumn
  have hnull' : ∀ v ∈ arguments (before ++ t :: after), v ≠ .null := hargs ▸ hnull
  have hfilter := @symbolsTable_filter sql _ server hnull' c
  have hscan := @symbolsTable_scans sql _ server hnull' c
  rw [hreq] at hfilter hscan
  refine ⟨requestOf sql (before ++ after),
    (results (server (requestOf sql (before ++ after)))).map symbolRow, ?_, ?_⟩
  · simp only [List.forall_mem_cons, List.not_mem_nil, false_imp_iff, implies_true, and_true]
    exact ⟨⟨hfilter, hscan⟩, symbolsTable_filter hnull c, symbolsTable_scans hnull c⟩
  · rw [remaining_eq, remaining_eq, hdeciding]

theorem like_elsewhere_signature :
    ∃ req rows, (∀ terms ∈
          [[.equality 1 (.text ['F'])] ++ ⟨⟨3, indexConstraintLike, true⟩, .text ['x']⟩ :: [],
            [.equality 1 (.text ['F'])] ++ []],
        (∃ c', (symbolsTable .sample).cursor.filter
          (fun _ => replies [{ signature := some ['(', ')'] }])
          ((symbolsTable .sample).plan terms).idxNum ((symbolsTable .sample).args terms) {} =
            .ok (sqliteOk, some req, c')) ∧
        (symbolsTable .sample).Scans (fun _ => replies [{ signature := some ['(', ')'] }]) terms {}
          rows) ∧
      Table.symbols.remaining .sample
          ([.equality 1 (.text ['F'])] ++ ⟨⟨3, indexConstraintLike, true⟩, .text ['x']⟩ :: [])
          rows =
        Table.symbols.remaining .sample ([.equality 1 (.text ['F'])] ++ []) rows :=
  like_elsewhere .sample (fun _ => replies [{ signature := some ['(', ')'] }]) (by decide)
    (by decide) (by decide) {}

end Insert

end SymbolsTable

end ClangQL
