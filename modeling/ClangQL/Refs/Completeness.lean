import ClangQL.Refs.Encoding

/-!
# Completeness of the refs table

A query with an equality on `SymbolId` sends one request, and SQLite tests every term on the
rows of the replies. The answer is complete when the filter sent is `Kind_All`. It is not when
a flag argument reads as zero: the filter is then 0, and the server sends nothing.

## Main definitions

* `RefsCursor.requestOf`: the request of a query
* `AnswersRefs`: a server that answers with the references of a symbol
* `matchingRefs`: the rows of a symbol's references that satisfy all terms of a query

## Main results

* `refsTable_scans`: the scan of a query walks over the replies to its request
* `refsTable_answers_iff`: the queries answered completely
-/

namespace ClangQL

open RefsTable RefsCursor

variable {sql : Sqlite} {terms : List Term} {server : RefsRequest → List (Reply Ref)}

/-! ## The request -/

/-- The request of a query: the chosen id, and `Kind_All` unless a flag argument is zero. -/
def RefsCursor.requestOf (sql : Sqlite) (terms : List Term) : RefsRequest where
  ids := idsOf sql terms
  filter := some (kindAfter sql (readFlags terms))

/-- **The scan of a query** with some usable equality walks over the replies to its request. -/
theorem refsTable_scans (hid : chosen terms 0 ≠ some .null) (hidx : idxNumOf terms ≠ 0)
    (c : RefsCursor) :
    (refsTable sql).Scans server terms c
      ((results (server (requestOf sql terms))).map (refRow (requestOf sql terms))) := by
  obtain ⟨d, hd, hids, hkind, -⟩ := decode_plan sql hid
  have hreq : (⟨d.ids, some d.kind⟩ : RefsRequest) = requestOf sql terms := by
    rw [hids, hkind]
    rfl
  have hfilter : ∃ c', (refsTable sql).cursor.filter server ((refsTable sql).plan terms).idxNum
      ((refsTable sql).args terms) c = .ok (sqliteOk, some (requestOf sql terms), c') := by
    rw [refsTable_idxNum, refsTable_args, ← hreq]
    show ∃ c', RefsCursor.filter sql server _ _ c = _
    rw [RefsCursor.filter, if_pos hidx, hd]
    exact ⟨_, rfl⟩
  obtain ⟨c', hc'⟩ := hfilter
  exact VirtualTable.scans_of_filter (refsTable_iterates sql) rfl hc'

/-- Without a usable equality no request is made, and there is no row. -/
theorem refsTable_scans_nil (hidx : idxNumOf terms = 0) (c : RefsCursor) :
    (refsTable sql).Scans server terms c [] := by
  refine ⟨rfl, none, { c with eof := true }, ?_, 1, rfl⟩
  rw [refsTable_idxNum, refsTable_args]
  show RefsCursor.filter sql server _ _ c = _
  rw [RefsCursor.filter, if_neg (not_not.mpr hidx)]
  rfl

/-- No test is omitted. -/
theorem refsTable_kept (rows : List Row) :
    (refsTable sql).kept sql terms rows = rows.filter (satisfies sql RefsTable.affinity terms) :=
  VirtualTable.kept_eq_filter_of_rechecks rows (bestIndex_rechecks _)

/-- A chosen id sets a bit of the plan number. -/
theorem idxNumOf_ne_zero (h : (chosen terms 0).isSome) : idxNumOf terms ≠ 0 := by
  intro hz
  refine (idxNumOf_and_constrId terms).mpr h ?_
  rw [hz]
  rfl

/-! ## Complete answers -/

/-- The server answers a request for one symbol with the references of it that have a kind of
the filter, each once, in any order. -/
def AnswersRefs (server : RefsRequest → List (Reply Ref)) (refsOf : Str → List Ref) : Prop :=
  ∀ v f, (results (server { ids := [v], filter := some f })).Perm
    ((refsOf v).filter fun r => r.getKind &&& f != 0)

/-- A server with the references `refsOf`. -/
def refsServer (refsOf : Str → List Ref) (req : RefsRequest) : List (Reply Ref) :=
  replies ((req.ids.flatMap refsOf).filter fun r => r.getKind &&& req.filter.getD 0 != 0)

theorem refsServer_answersRefs (refsOf : Str → List Ref) :
    AnswersRefs (refsServer refsOf) refsOf := by
  intro v f
  simp [refsServer]

/-- The rows of the references of `v` of any kind that satisfy all terms. -/
def matchingRefs (sql : Sqlite) (refsOf : Str → List Ref) (terms : List Term) (v : Str) :
    List Row :=
  (((refsOf v).filter fun r => r.getKind &&& kindAll != 0).map (refRow { ids := [v] })).filter
    (satisfies sql RefsTable.affinity terms)

theorem matchingRefs_eq_nil_iff {refsOf : Str → List Ref} {v : Str} :
    matchingRefs sql refsOf terms v = [] ↔ ∀ r ∈ refsOf v, r.getKind &&& kindAll ≠ 0 →
      satisfies sql RefsTable.affinity terms (refRow { ids := [v] } r) = false := by
  simp only [matchingRefs, List.filter_eq_nil_iff, List.mem_map, List.mem_filter, bne_iff_ne]
  constructor
  · intro h r hr hkind
    simpa using h _ ⟨r, ⟨hr, hkind⟩, rfl⟩
  · rintro h _ ⟨r, ⟨hr, hkind⟩, rfl⟩
    simp [h r hr hkind]

/-- A query with a usable equality on `SymbolId` has a chosen one, and its text is the id in the
request. -/
theorem exists_chosen_id (sql : Sqlite)
    (hkey : ∃ t ∈ terms, t.constraint.usable = true ∧ isEqualityOn 0 t.constraint = true) :
    ∃ t ∈ terms, isEqualityOn 0 t.constraint = true ∧ chosen terms 0 = some t.rhs ∧
      idsOf sql terms = [keyText sql t.rhs] := by
  obtain ⟨k, hk, husable, heq⟩ := hkey
  obtain ⟨t, ht⟩ := Option.isSome_iff_exists.mp (firstTerm_isSome.mpr ⟨k, hk, husable, heq⟩)
  have hchosen : chosen terms 0 = some t.rhs := by rw [chosen, ht, Option.map_some]
  refine ⟨t, firstTerm_mem ht, (firstTerm_wanted ht).2, hchosen, ?_⟩
  rw [idsOf, hchosen, Option.map_some, Option.toList_some]

theorem refRow_column_zero (req : RefsRequest) (u : Str) (us : List Str) (r : Ref)
    (h : req.ids = u :: us) : (refRow req r).column 0 = .ok (.text (cStr u)) := by
  simp [refRow, columnOf, RefStream.id, h, Except.map, resultText]

/-- No row of a symbol's references survives when an equality on `SymbolId` has another text. -/
theorem filter_refRow_eq_nil {u : Str} {req : RefsRequest} (hreq : req.ids = [u]) {t : Term}
    (ht : t ∈ terms) (hkey : isEqualityOn 0 t.constraint = true)
    (hne : keyText sql t.rhs ≠ cStr u) (refs : List Ref) :
    (refs.map (refRow req)).filter (satisfies sql RefsTable.affinity terms) = [] := by
  rw [List.filter_eq_nil_iff]
  intro row hrow hsat
  obtain ⟨r, -, rfl⟩ := List.mem_map.mp hrow
  obtain ⟨hop, hcolumn⟩ := isEqualityOn_iff.mp hkey
  exact hne (keyText_eq_of_satisfies rfl (refRow_column_zero req u [] r hreq) (nulFree_cStr u) ht
    hcolumn hop hsat)

/-- With the id of the symbol in the request, what survives are the references the filter lets
through. -/
theorem filter_refRow_perm (sql : Sqlite) (terms : List Term) {refsOf : Str → List Ref}
    (hserver : AnswersRefs server refsOf) (v : Str) (f : UInt32) :
    (((results (server ⟨[v], some f⟩)).map (refRow ⟨[v], some f⟩)).filter
      (satisfies sql RefsTable.affinity terms)).Perm
        ((((refsOf v).filter fun r => r.getKind &&& f != 0).map (refRow { ids := [v] })).filter
          (satisfies sql RefsTable.affinity terms)) :=
  ((hserver v f).map _).filter _

theorem kindAfter_eq_kindAll {vs : List Value} (h : ∀ x ∈ vs, sql.valueInt x ≠ 0) :
    kindAfter sql vs = kindAll := by
  have hall : (vs.all fun x => sql.valueInt x != 0) = true := by
    rw [List.all_eq_true]
    exact fun x hx => bne_iff_ne.mpr (h x hx)
  rw [kindAfter, if_pos hall]

theorem kindAfter_eq_zero {vs : List Value} (h : ¬ ∀ x ∈ vs, sql.valueInt x ≠ 0) :
    kindAfter sql vs = 0 := by
  have hall : ¬ (vs.all fun x => sql.valueInt x != 0) = true := by
    rw [List.all_eq_true]
    exact fun hx => h fun x hm => bne_iff_ne.mp (hx x hm)
  rw [kindAfter, if_neg hall]

/-- With NULL for the chosen id there is no scan. -/
theorem not_scans_null (hid : chosen terms 0 = some .null) (c : RefsCursor) (rows : List Row) :
    ¬ (refsTable sql).Scans server terms c rows := by
  rintro ⟨-, req, c', hf, -⟩
  rw [refsTable_idxNum, refsTable_args] at hf
  have hfilter : RefsCursor.filter sql server (idxNumOf terms) (arguments terms) c =
      .error (.undefined .nullString) := by
    rw [RefsCursor.filter, if_pos (idxNumOf_ne_zero (by rw [hid]; rfl)), decode_plan_null hid]
    rfl
  exact absurd (hf.symm.trans hfilter) (by simp)

/-- With the id of the symbol in the request, a row is lost only to the filter. -/
theorem perm_matchingRefs_iff {refsOf : Str → List Ref} (hserver : AnswersRefs server refsOf)
    {v : Str} (hids : idsOf sql terms = [v]) :
    (((results (server (requestOf sql terms))).map (refRow (requestOf sql terms))).filter
        (satisfies sql RefsTable.affinity terms)).Perm (matchingRefs sql refsOf terms v) ↔
      (∀ x ∈ readFlags terms, sql.valueInt x ≠ 0) ∨ matchingRefs sql refsOf terms v = [] := by
  have hreq : requestOf sql terms = ⟨[v], some (kindAfter sql (readFlags terms))⟩ := by
    rw [requestOf, hids]
  have hperm := filter_refRow_perm sql terms hserver v (kindAfter sql (readFlags terms))
  rw [hreq]
  by_cases hflags : ∀ x ∈ readFlags terms, sql.valueInt x ≠ 0
  · rw [kindAfter_eq_kindAll hflags] at hperm ⊢
    exact iff_of_true hperm (Or.inl hflags)
  · rw [kindAfter_eq_zero hflags] at hperm ⊢
    have hnil : (refsOf v).filter (fun r => r.getKind &&& 0 != 0) = [] := by simp
    rw [hnil, List.map_nil, List.filter_nil, List.perm_nil] at hperm
    rw [hperm, List.nil_perm, or_iff_right hflags]

/-- **The queries answered completely.** On a query with a usable equality on `SymbolId` whose
value is a text without NUL, the answer is complete exactly when the chosen id is not NULL and
no flag argument read is zero, or the symbol has no reference to answer with. -/
theorem refsTable_answers_iff (sql : Sqlite) {server : RefsRequest → List (Reply Ref)}
    {refsOf : Str → List Ref} (hserver : AnswersRefs server refsOf) {terms : List Term} {v : Str}
    (hv : NulFree v)
    (hkey : ∃ t ∈ terms, t.constraint.usable = true ∧ isEqualityOn 0 t.constraint = true ∧
      t.rhs = .text v) (c : RefsCursor) :
    (refsTable sql).Answers sql server terms c (matchingRefs sql refsOf terms v) ↔
      chosen terms 0 ≠ some .null ∧ ((∀ x ∈ readFlags terms, sql.valueInt x ≠ 0) ∨
        ∀ r ∈ refsOf v, r.getKind &&& kindAll ≠ 0 →
          satisfies sql RefsTable.affinity terms (refRow { ids := [v] } r) = false) := by
  rw [← matchingRefs_eq_nil_iff]
  by_cases hid : chosen terms 0 = some .null
  · refine iff_of_false ?_ fun h => h.1 hid
    rintro ⟨rows, hrows, -⟩
    exact not_scans_null hid c rows hrows
  rw [and_iff_right hid]
  obtain ⟨k, hk, husable, hkeq, hkv⟩ := hkey
  obtain ⟨t, ht, hteq, hchosen, hids⟩ := exists_chosen_id sql ⟨k, hk, husable, hkeq⟩
  rw [(refsTable_scans hid (idxNumOf_ne_zero (by rw [hchosen]; rfl)) c).answers_iff,
    refsTable_kept]
  by_cases huv : keyText sql t.rhs = v
  · exact perm_matchingRefs_iff hserver (by rw [hids, huv])
  · have hkept : ((results (server (requestOf sql terms))).map
        (refRow (requestOf sql terms))).filter (satisfies sql RefsTable.affinity terms) = [] :=
      filter_refRow_eq_nil hids hk hkeq (by
        rw [hkv, keyText_text sql hv, cStr_keyText]
        exact fun h => huv h.symm) _
    have hnil : matchingRefs sql refsOf terms v = [] :=
      filter_refRow_eq_nil rfl ht hteq (by rwa [cStr_eq_self hv]) _
    rw [hkept, hnil]
    exact iff_of_true (.refl _) (Or.inr rfl)

/-- `SymbolId = 'a' AND Definition = 1` is answered completely. -/
theorem refsTable_answers_definition :
    (refsTable .sample).Answers .sample (refsServer fun _ => [{ kind := some 2 }])
      [.equality 0 (.text ['a']), .equality 2 (.integer 1)] {}
      (matchingRefs .sample (fun _ => [{ kind := some 2 }])
        [.equality 0 (.text ['a']), .equality 2 (.integer 1)] ['a']) :=
  (refsTable_answers_iff .sample (refsServer_answersRefs _) (by decide)
    ⟨_, List.mem_cons_self, rfl, rfl, rfl⟩ {}).mpr ⟨by decide, Or.inl (by decide)⟩

/-- **A lost row.** `SymbolId = 'a' AND Declaration = 0` has the definition of the symbol in its
answer, but the filter sent is 0. -/
theorem refsTable_not_answers_declaration_zero :
    AnswersRefs (refsServer fun _ => [{ kind := some 2 }]) (fun _ => [{ kind := some 2 }]) ∧
      ¬ (refsTable .sample).Answers .sample (refsServer fun _ => [{ kind := some 2 }])
        [.equality 0 (.text ['a']), .equality 1 (.integer 0)] {}
        (matchingRefs .sample (fun _ => [{ kind := some 2 }])
          [.equality 0 (.text ['a']), .equality 1 (.integer 0)] ['a']) := by
  refine ⟨refsServer_answersRefs _, fun h => ?_⟩
  -- the scan is empty, and one row is expected
  rw [(refsTable_scans (by decide) (by decide) {}).answers_iff, refsTable_kept] at h
  exact absurd h.length_eq (by decide)

end ClangQL
