import ClangQL.Symbols.Cursor

/-!
# Queries without LIKE on the symbols table

The server answers a `FuzzyFind` with at least the symbols of the name and the scope asked, so
the tests SQLite makes on the rows cut the answer down to the query. The test of the equality
on `Id` is omitted: a `Lookup` is answered with exactly the symbols that pass it.

## Main definitions

* `AnswersSymbols`: a server that answers from a set of symbols
* `matchingSymbols`: the rows of the symbols that satisfy all terms of a query

## Main results

* `symbolsTable_answers`: a query without `LIKE` has the matching symbols in its answer
-/

namespace ClangQL

open SymbolsTable SymbolsCursor IndexInfo

/-- The server answers from the symbols of `content`: a `Lookup` of one id with exactly the
symbols of that id, and a `FuzzyFind` in some or in any scope with symbols, each once, that
include those with the name of the query, if it has one, in the scopes asked. -/
structure AnswersSymbols (server : SymbolsRequest → List (Reply Symbol))
    (content : List Symbol) : Prop where
  nodup : content.Nodup
  lookup : ∀ v, (results (server (.lookup { ids := [v] }))).Perm
    (content.filter fun m => m.id = some v)
  fuzzyFind_nodup : ∀ r, (results (server (.fuzzyFind r))).Nodup
  fuzzyFind_subset : ∀ r, ∀ m ∈ results (server (.fuzzyFind r)), m ∈ content
  fuzzyFind_complete : ∀ r : FuzzyFindRequest, r.anyScope = some true ∨ r.scopes ≠ [] →
    ∀ m ∈ content, (∀ q ∈ r.query, m.name = some q) →
      (r.anyScope = some true ∨ ∃ s ∈ r.scopes, m.scope = some s) →
        m ∈ results (server (.fuzzyFind r))

/-- A server with the symbols of `content`, which finds names exactly. -/
def symbolsServer (content : List Symbol) : SymbolsRequest → List (Reply Symbol)
  | .lookup r => replies (content.filter fun m => m.id.any r.ids.contains)
  | .fuzzyFind r => replies (content.filter fun m => (r.query.all fun q => m.name == some q) &&
      (r.anyScope == some true || m.scope.any r.scopes.contains))

theorem symbolsServer_answersSymbols {content : List Symbol} (h : content.Nodup) :
    AnswersSymbols (symbolsServer content) content where
  nodup := h
  lookup v := by
    rw [symbolsServer, results_replies]
    refine .of_eq (List.filter_congr fun m _ => ?_)
    cases m.id <;> simp
  fuzzyFind_nodup r := by
    rw [symbolsServer, results_replies]
    exact h.filter _
  fuzzyFind_subset r m hm := by
    rw [symbolsServer, results_replies] at hm
    exact (List.mem_filter.mp hm).1
  fuzzyFind_complete r _ m hm hname hscope := by
    rw [symbolsServer, results_replies, List.mem_filter]
    refine ⟨hm, ?_⟩
    rw [Bool.and_eq_true, Bool.or_eq_true, beq_iff_eq]
    constructor
    · cases hq : r.query with
      | none => rfl
      | some q => simpa using hname q hq
    · rcases hscope with hscope | ⟨s, hs, hms⟩
      · exact Or.inl hscope
      · exact Or.inr (by simpa [hms] using hs)

/-- The id, the name and the scope of a symbol have no NUL. -/
def Symbol.KeysNulFree (m : Symbol) : Prop :=
  (∀ s ∈ m.id, NulFree s) ∧ (∀ s ∈ m.name, NulFree s) ∧ ∀ s ∈ m.scope, NulFree s

/-- The rows of the symbols of `content` that satisfy all terms. -/
def matchingSymbols (sql : Sqlite) (content : List Symbol) (terms : List Term) : List Row :=
  (content.filter fun m => satisfies sql SymbolsTable.affinity terms (symbolRow m)).map symbolRow

variable {sql : Sqlite} {terms : List Term} {server : SymbolsRequest → List (Reply Symbol)}
  {content : List Symbol} {m : Symbol} {t : Term} {v : Str}

/-! ## Equality on a text column -/

/-- An equality on a column that shows a text field is true of a symbol exactly when the field
is the text. -/
theorem holds_setRes_iff {field : Option Str} {column : Int} (hcolumn : column ≠ -1)
    (haff : SymbolsTable.affinity column = .text) (hshow : columnOf m column = setRes field)
    (hfield : ∀ s ∈ field, NulFree s) (ht : t.constraint.iColumn = column)
    (hop : t.constraint.op = indexConstraintEq) (hrhs : t.rhs = .text v) :
    t.holds sql SymbolsTable.affinity (symbolRow m) = true ↔ field = some v := by
  have hvalue : (symbolRow m).value t.constraint.iColumn = .ok (setRes field) := by
    rw [ht, Row.value, if_neg hcolumn, ← hshow]
    rfl
  rw [Term.holds, hvalue, ht, haff, hop, hrhs]
  cases field with
  | none => simp [setRes, sql.holds_null_eq]
  | some s =>
    have hs : cStr s = s := cStr_eq_self (hfield s rfl)
    simp [setRes, resultText, hs, sql.holds_eq_text]

/-- A field with a text that a term requires is that text. -/
theorem field_eq_of_satisfies {field : Option Str} {column : Int} (hcolumn : column ≠ -1)
    (haff : SymbolsTable.affinity column = .text) (hshow : columnOf m column = setRes field)
    (hfield : ∀ s ∈ field, NulFree s) (ht : t ∈ terms) (hcol : t.constraint.iColumn = column)
    (hop : t.constraint.op = indexConstraintEq) (hrhs : t.rhs = .text v)
    (hm : satisfies sql SymbolsTable.affinity terms (symbolRow m) = true) : field = some v :=
  (holds_setRes_iff hcolumn haff hshow hfield hcol hop hrhs).mp (List.all_eq_true.mp hm t ht)

/-! ## Queries without LIKE -/

/-- A query without `LIKE`, whose equalities on `Id`, `Name` and `Scope` are with texts without
NUL. -/
structure PlainQuery (terms : List Term) : Prop where
  no_like : ∀ t ∈ terms, isLike t.constraint = false
  text : ∀ t ∈ terms, t.constraint.op = indexConstraintEq → t.constraint.iColumn ∈ [0, 1, 2] →
    ∃ v, NulFree v ∧ t.rhs = .text v

namespace PlainQuery

variable (h : PlainQuery terms)

include h

/-- What a search finds is an equality with a text. -/
theorem chosen {wanted : Constraint → Bool} {column : Int} (hcolumn : column ∈ [0, 1, 2])
    (hwanted : ∀ c, wanted c = true → c.iColumn = column ∧
      (c.op = indexConstraintEq ∨ c.op = indexConstraintLike))
    (ht : firstTerm wanted terms = some t) :
    t.constraint.iColumn = column ∧ t.constraint.op = indexConstraintEq ∧
      ∃ v, NulFree v ∧ t.rhs = .text v := by
  obtain ⟨hcol, hop⟩ := hwanted _ (firstTerm_wanted ht).2
  have hlike := h.no_like t (firstTerm_mem ht)
  have heq : t.constraint.op = indexConstraintEq := by
    rcases hop with hop | hop
    · exact hop
    · simp [isLike, hop] at hlike
  exact ⟨hcol, heq, h.text t (firstTerm_mem ht) heq (hcol ▸ hcolumn)⟩

theorem chosen_id (ht : firstTerm isId terms = some t) :
    t.constraint.iColumn = 0 ∧ t.constraint.op = indexConstraintEq ∧
      ∃ v, NulFree v ∧ t.rhs = .text v :=
  h.chosen (by simp) (fun _ hc => ⟨(isId_iff.mp hc).1, Or.inl (isId_iff.mp hc).2⟩) ht

theorem chosen_name (ht : firstTerm isName terms = some t) :
    t.constraint.iColumn = 1 ∧ t.constraint.op = indexConstraintEq ∧
      ∃ v, NulFree v ∧ t.rhs = .text v :=
  h.chosen (by simp) (fun _ hc => isName_iff.mp hc) ht

theorem chosen_scope (ht : firstTerm isScope terms = some t) :
    t.constraint.iColumn = 2 ∧ t.constraint.op = indexConstraintEq ∧
      ∃ v, NulFree v ∧ t.rhs = .text v :=
  h.chosen (by simp) (fun _ hc => isScope_iff.mp hc) ht

theorem no_path : firstTerm isPath terms = none := by
  rw [Option.eq_none_iff_forall_ne_some]
  intro t ht
  have hlike := h.no_like t (firstTerm_mem ht)
  simp [isLike, (isPath_iff.mp (firstTerm_wanted ht).2).2] at hlike

/-- No argument is NULL. -/
theorem arguments_ne_null : ∀ x ∈ SymbolsTable.arguments terms, x ≠ .null := by
  intro x hx
  unfold SymbolsTable.arguments at hx
  have htext : (∃ v, NulFree v ∧ x = .text v) → x ≠ .null := by
    rintro ⟨v, -, rfl⟩
    simp
  cases hid : firstTerm isId terms with
  | some t =>
    rw [hid] at hx
    obtain rfl := List.mem_singleton.mp hx
    exact htext (h.chosen_id hid).2.2
  | none =>
    rw [hid, h.no_path] at hx
    simp only [Option.map_none, Option.toList_none, List.append_nil, List.mem_append,
      Option.mem_toList, Option.map_eq_some_iff] at hx
    rcases hx with ⟨t, ht, rfl⟩ | ⟨t, ht, rfl⟩
    · exact htext (h.chosen_name ht).2.2
    · exact htext (h.chosen_scope ht).2.2

/-- The only test a plan may omit is the one of the chosen equality on `Id`. -/
theorem omitted_eq_id {i : ℕ} (ht : terms[i]? = some t)
    (hi : ((symbolsTable sql).plan terms).rechecks i = false) :
    ∃ t', firstTerm isId terms = some t' ∧ isId t.constraint = true ∧ t.rhs = t'.rhs := by
  obtain ⟨hmem, c, hc, homit⟩ := (bestIndex_rechecks _ i).mp hi
  rw [List.getElem?_map, ht, Option.map_some] at hc
  obtain rfl := Option.some.inj hc
  have hisId : isId t.constraint = true := homit.resolve_right (by
    rw [h.no_like t (List.mem_of_getElem? ht)]
    simp)
  have hbind := bind_firstPosition isId terms
  unfold consumed at hmem
  cases hp : firstPosition isId (terms.map (·.constraint)) with
  | none =>
    rw [hp] at hmem
    have hprogress := (searches_progress (terms.map (·.constraint))).taken i hmem t.constraint
      (by rw [List.getElem?_map, ht, Option.map_some])
    exact absurd (hisId.symm.trans hprogress) (by simp)
  | some j =>
    rw [hp] at hmem hbind
    obtain rfl : i = j := List.mem_singleton.mp hmem
    rw [Option.bind_some, List.getElem?_map, ht, Option.map_some] at hbind
    obtain ⟨t', ht', hrhs⟩ := Option.map_eq_some_iff.mp hbind.symm
    exact ⟨t', ht', hisId, hrhs.symm⟩

end PlainQuery

/-! ## The two kinds of plan -/

/-- The symbols of a `Lookup`, cut down to a query for their id. -/
theorem lookup_filter_perm (hserver : AnswersSymbols server content)
    (hcontent : ∀ m ∈ content, m.KeysNulFree) (h : PlainQuery terms)
    (ht : firstTerm isId terms = some t) (hv : t.rhs = .text v) :
    ((results (server (.lookup { ids := [v] }))).filter fun m =>
        satisfies sql SymbolsTable.affinity terms (symbolRow m)).Perm
      (content.filter fun m => satisfies sql SymbolsTable.affinity terms (symbolRow m)) := by
  refine ((hserver.lookup v).filter _).trans (.of_eq ?_)
  rw [List.filter_filter]
  refine List.filter_congr fun m hm => ?_
  obtain ⟨hcol, hop, -⟩ := h.chosen_id ht
  rw [Bool.eq_iff_iff, Bool.and_eq_true, decide_eq_true_iff]
  refine and_iff_left_of_imp fun hsat => ?_
  exact field_eq_of_satisfies (by decide) rfl rfl (hcontent m hm).1 (firstTerm_mem ht) hcol hop hv
    hsat

/-- The symbols of a `FuzzyFind`, cut down to the query. -/
theorem fuzzyFind_filter_perm (hserver : AnswersSymbols server content)
    (hcontent : ∀ m ∈ content, m.KeysNulFree) (h : PlainQuery terms)
    (hid : firstTerm isId terms = none) :
    ((results (server (requestOf sql terms))).filter fun m =>
        satisfies sql SymbolsTable.affinity terms (symbolRow m)).Perm
      (content.filter fun m => satisfies sql SymbolsTable.affinity terms (symbolRow m)) := by
  rw [requestOf, hid]
  refine (List.perm_ext_iff_of_nodup ((hserver.fuzzyFind_nodup _).filter _)
    (hserver.nodup.filter _)).mpr fun m => ?_
  rw [List.mem_filter, List.mem_filter]
  refine and_congr_left fun hsat => ⟨hserver.fuzzyFind_subset _ m, fun hm => ?_⟩
  obtain ⟨-, hname, hscope⟩ := hcontent m hm
  refine hserver.fuzzyFind_complete _ ?_ m hm ?_ ?_
  · cases firstTerm isScope terms <;> simp
  · intro q hq
    obtain ⟨t, ht, rfl⟩ := Option.map_eq_some_iff.mp hq
    obtain ⟨hcol, hop, v, hv, hrhs⟩ := h.chosen_name ht
    rw [hrhs, keyText_text sql hv]
    exact field_eq_of_satisfies (by decide) rfl rfl hname (firstTerm_mem ht) hcol hop hrhs hsat
  · cases ht : firstTerm isScope terms with
    | none => exact Or.inl rfl
    | some t =>
      obtain ⟨hcol, hop, v, hv, hrhs⟩ := h.chosen_scope ht
      refine Or.inr ⟨keyText sql t.rhs, by simp, ?_⟩
      rw [hrhs, keyText_text sql hv]
      exact field_eq_of_satisfies (by decide) rfl rfl hscope (firstTerm_mem ht) hcol hop hrhs hsat

/-- The omitted test on `Id` is true of the symbols of a `Lookup`. -/
theorem symbolsTable_kept (hserver : AnswersSymbols server content)
    (hcontent : ∀ m ∈ content, m.KeysNulFree) (h : PlainQuery terms) :
    (symbolsTable sql).kept sql terms
      ((results (server (requestOf sql terms))).map symbolRow) =
        ((results (server (requestOf sql terms))).map symbolRow).filter
          (satisfies sql SymbolsTable.affinity terms) := by
  refine VirtualTable.kept_eq_filter fun i t ht hi row hrow => ?_
  obtain ⟨t', hid, hisId, hrhs'⟩ := h.omitted_eq_id ht hi
  obtain ⟨-, -, v, hv, hrhs⟩ := h.chosen_id hid
  obtain ⟨m, hm, rfl⟩ := List.mem_map.mp hrow
  rw [requestOf, hid] at hm
  dsimp only at hm
  rw [hrhs, keyText_text sql hv] at hm
  have hmem := List.mem_filter.mp ((hserver.lookup v).mem_iff.mp hm)
  exact (holds_setRes_iff (by decide) rfl rfl (hcontent m hmem.1).1 (isId_iff.mp hisId).1
    (isId_iff.mp hisId).2 (hrhs'.trans hrhs)).mpr (by simpa using hmem.2)

/-- **A query without LIKE** has the rows of exactly the symbols that satisfy all its terms, which
are compared plainly (`Comparison.plain`). -/
theorem symbolsTable_answers (sql : Sqlite) {server : SymbolsRequest → List (Reply Symbol)}
    {content : List Symbol} (hserver : AnswersSymbols server content)
    (hcontent : ∀ m ∈ content, m.KeysNulFree) {terms : List Term} (h : PlainQuery terms)
    (c : SymbolsCursor) :
    (symbolsTable sql).Answers sql server terms c (matchingSymbols sql content terms) := by
  refine ⟨_, symbolsTable_scans h.arguments_ne_null c, ?_⟩
  have hperm : ((results (server (requestOf sql terms))).filter fun m =>
      satisfies sql SymbolsTable.affinity terms (symbolRow m)).Perm
        (content.filter fun m => satisfies sql SymbolsTable.affinity terms (symbolRow m)) := by
    cases hid : firstTerm isId terms with
    | none => exact fuzzyFind_filter_perm hserver hcontent h hid
    | some t =>
      obtain ⟨-, -, v, hv, hrhs⟩ := h.chosen_id hid
      rw [requestOf, hid]
      dsimp only
      rw [hrhs, keyText_text sql hv]
      exact lookup_filter_perm hserver hcontent h hid hrhs
  rw [symbolsTable_kept hserver hcontent h, List.filter_map]
  exact hperm.map symbolRow

/-- `Name = 'F' AND Scope = 'n'` finds the symbol. -/
theorem symbolsTable_answers_name_scope :
    (symbolsTable .sample).Answers .sample
      (symbolsServer [{ id := some ['a'], name := some ['F'], scope := some ['n'] }])
      [.equality 1 (.text ['F']), .equality 2 (.text ['n'])] {}
      (matchingSymbols .sample [{ id := some ['a'], name := some ['F'], scope := some ['n'] }]
        [.equality 1 (.text ['F']), .equality 2 (.text ['n'])]) :=
  symbolsTable_answers .sample (symbolsServer_answersSymbols (List.nodup_singleton _))
    (by simp [Symbol.KeysNulFree, NulFree])
    ⟨by decide, by simp [Term.equality, NulFree]⟩ {}

end ClangQL
