import ClangQL.Refs.Completeness
import ClangQL.Relations.Join

/-!
# Plans of the same query

SQLite asks for a plan with different terms usable, for the different orders of a join, and runs
any of them. For the refs and the relation tables, the plans that can use an equality on the key
column have the same answer, up to the masks of zero flags; a plan that can use none is accepted
too, and has no row.

## Main definitions

* `withUsable u terms`: the terms, with usable those that `u` tells
* `KeyUsable u terms`: an equality on the key column is usable
* `VirtualTable.SameRows`: two plans have the same answer

## Main results

* `VirtualTable.sameRows_of_key`: two plans with a key have the same answer
* `keyed_plans_agree`: the plans of the refs and the relation tables
-/

namespace ClangQL

/-! ## Assignments of usable terms -/

/-- The terms of a query, with usable those at the positions `u` tells. -/
def withUsable (u : ℕ → Bool) (terms : List Term) : List Term :=
  terms.mapIdx fun i t => { t with constraint := { t.constraint with usable := u i } }

/-- An equality on the key column, the first of the table. -/
def isKey (c : Constraint) : Bool := c.iColumn == 0 && c.op == indexConstraintEq

/-- Some equality on the key column is usable. -/
def KeyUsable (u : ℕ → Bool) (terms : List Term) : Prop :=
  ∃ i t, terms[i]? = some t ∧ u i = true ∧ isKey t.constraint = true

variable {sql : Sqlite} {terms : List Term} {u u' : ℕ → Bool}

/-- Where a usable term comes from. -/
theorem exists_of_mem_withUsable {t : Term} (ht : t ∈ withUsable u terms) :
    ∃ i t₀, terms[i]? = some t₀ ∧ t₀.rhs = t.rhs ∧ t₀.constraint.iColumn = t.constraint.iColumn ∧
      t₀.constraint.op = t.constraint.op ∧ u i = t.constraint.usable := by
  obtain ⟨i, hi, rfl⟩ := List.mem_mapIdx.mp ht
  exact ⟨i, terms[i], List.getElem?_eq_getElem hi, rfl, rfl, rfl, rfl⟩

theorem mem_withUsable {i : ℕ} {t : Term} (ht : terms[i]? = some t) :
    { t with constraint := { t.constraint with usable := u i } } ∈ withUsable u terms := by
  obtain ⟨hi, rfl⟩ := List.getElem?_eq_some_iff.mp ht
  exact List.mem_mapIdx.mpr ⟨i, hi, rfl⟩

/-- A search for the key finds one exactly when one is usable. -/
theorem firstTerm_isKey_isSome :
    (firstTerm isKey (withUsable u terms)).isSome ↔ KeyUsable u terms := by
  rw [firstTerm_isSome]
  constructor
  · rintro ⟨t, ht, husable, hkey⟩
    obtain ⟨i, t₀, ht₀, -, hcolumn, hop, hu⟩ := exists_of_mem_withUsable ht
    refine ⟨i, t₀, ht₀, hu.trans husable, ?_⟩
    rwa [isKey, hcolumn, hop]
  · rintro ⟨i, t, ht, hu, hkey⟩
    exact ⟨_, mem_withUsable ht, hu, hkey⟩

/-- The key that a search finds is the one of a term of the query. -/
theorem exists_of_firstTerm_isKey {t : Term} (ht : firstTerm isKey (withUsable u terms) = some t) :
    ∃ t₀ ∈ terms, t₀.rhs = t.rhs ∧ t₀.constraint.iColumn = 0 ∧
      t₀.constraint.op = indexConstraintEq := by
  obtain ⟨i, t₀, ht₀, hrhs, hcolumn, hop, -⟩ := exists_of_mem_withUsable (firstTerm_mem ht)
  have hkey := (firstTerm_wanted ht).2
  simp only [isKey, Bool.and_eq_true, beq_iff_eq] at hkey
  exact ⟨t₀, List.mem_of_getElem? ht₀, hrhs, hcolumn.trans hkey.1, hop.trans hkey.2⟩

namespace VirtualTable

variable {σ Req M : Type} (T : VirtualTable σ Req M)

/-- Two plans of a query have the same rows, after all its terms are tested. -/
def SameRows (sql : Sqlite) (server : Req → List (Reply M)) (terms : List Term)
    (u u' : ℕ → Bool) : Prop :=
  ∃ rows rows', T.Scans server (withUsable u terms) T.fresh rows ∧
    T.Scans server (withUsable u' terms) T.fresh rows' ∧
      ∀ row, row ∈ rows.filter (satisfies sql T.affinity terms) ↔
        row ∈ rows'.filter (satisfies sql T.affinity terms)

variable {T}

/-- **Two plans with a key** have the same answer when a scan is determined by its key. A row
that survives satisfies the equalities of both plans, so both have its own key. -/
theorem sameRows_of_key {server : Req → List (Reply M)} (scan : Str → List Row) {t t' : Term}
    (haff : T.affinity 0 = .text)
    (htext : ∀ k, ∀ row ∈ scan k, ∃ c, NulFree c ∧ row.column 0 = .ok (.text c))
    (ht : firstTerm isKey (withUsable u terms) = some t)
    (ht' : firstTerm isKey (withUsable u' terms) = some t')
    (hscan : T.Scans server (withUsable u terms) T.fresh (scan (keyText sql t.rhs)))
    (hscan' : T.Scans server (withUsable u' terms) T.fresh (scan (keyText sql t'.rhs))) :
    T.SameRows sql server terms u u' := by
  refine ⟨_, _, hscan, hscan', fun row => ?_⟩
  obtain ⟨t₀, ht₀, hrhs, hcolumn, hop⟩ := exists_of_firstTerm_isKey ht
  obtain ⟨t₀', ht₀', hrhs', hcolumn', hop'⟩ := exists_of_firstTerm_isKey ht'
  have hkeys : ∀ k, row ∈ (scan k).filter (satisfies sql T.affinity terms) →
      keyText sql t.rhs = keyText sql t'.rhs := by
    intro k hrow
    obtain ⟨hmem, hsat⟩ := List.mem_filter.mp hrow
    obtain ⟨c, hc, hcol⟩ := htext k row hmem
    rw [← hrhs, ← hrhs', keyText_eq_of_satisfies haff hcol hc ht₀ hcolumn hop hsat,
      keyText_eq_of_satisfies haff hcol hc ht₀' hcolumn' hop' hsat]
  constructor
  · intro hrow
    rwa [← hkeys _ hrow]
  · intro hrow
    rwa [hkeys _ hrow]

end VirtualTable

/-! ## The two kinds of tables -/

theorem isEqualityOn_zero : RefsTable.isEqualityOn 0 = isKey := by
  funext c
  exact Bool.and_comm _ _

theorem isSubject_eq : RelationsTable.isSubject = isKey := rfl

/-- No usable equality on a flag column has a value that reads as zero. -/
def FlagsNonzero (sql : Sqlite) (terms : List Term) : Prop :=
  ∀ t ∈ terms, t.constraint.usable = true → t.constraint.op = indexConstraintEq →
    t.constraint.iColumn ∈ [1, 2, 3, 4] → sql.valueInt t.rhs ≠ 0

theorem readFlags_nonzero (h : FlagsNonzero sql terms) :
    ∀ x ∈ readFlags terms, sql.valueInt x ≠ 0 := by
  have hflag : ∀ column ∈ [1, 2, 3, 4], ∀ x ∈ RefsTable.chosen terms column,
      sql.valueInt x ≠ 0 := by
    intro column hcolumn x hx
    obtain ⟨t, ht, rfl⟩ := Option.map_eq_some_iff.mp hx
    obtain ⟨husable, hwanted⟩ := firstTerm_wanted ht
    obtain ⟨hop, hcol⟩ := RefsTable.isEqualityOn_iff.mp hwanted
    exact h t (firstTerm_mem ht) husable hop (by rw [hcol]; exact hcolumn)
  intro x hx
  have hmem : x ∈ RefsTable.flagArguments terms := by
    unfold readFlags at hx
    split_ifs at hx
    · exact List.dropLast_subset _ hx
    · exact hx
  simp only [RefsTable.flagArguments, List.mem_append, Option.mem_toList] at hmem
  rcases hmem with ((hx | hx) | hx) | hx
  · exact hflag 1 (by simp) x hx
  · exact hflag 2 (by simp) x hx
  · exact hflag 3 (by simp) x hx
  · exact hflag 4 (by simp) x hx

/-- The rows of a refs scan for a key, with the filter `Kind_All`. -/
theorem refsTable_scans_key {server : RefsRequest → List (Reply Ref)} {t : Term}
    (hnull : ∀ t ∈ terms, t.rhs ≠ .null) (hflags : FlagsNonzero sql (withUsable u terms))
    (ht : firstTerm isKey (withUsable u terms) = some t) (c : RefsCursor) :
    (refsTable sql).Scans server (withUsable u terms) c
      ((results (server ⟨[keyText sql t.rhs], some kindAll⟩)).map
        (refRow ⟨[keyText sql t.rhs], some kindAll⟩)) := by
  have hchosen : RefsTable.chosen (withUsable u terms) 0 = some t.rhs := by
    rw [RefsTable.chosen, isEqualityOn_zero, ht, Option.map_some]
  obtain ⟨t₀, ht₀, hrhs, -⟩ := exists_of_firstTerm_isKey ht
  have hreq : RefsCursor.requestOf sql (withUsable u terms) =
      ⟨[keyText sql t.rhs], some kindAll⟩ := by
    rw [RefsCursor.requestOf, idsOf, hchosen, kindAfter_eq_kindAll (readFlags_nonzero hflags)]
    rfl
  rw [← hreq]
  refine refsTable_scans ?_ (idxNumOf_ne_zero (by rw [hchosen]; rfl)) c
  rw [hchosen, ← hrhs]
  exact fun h => hnull t₀ ht₀ (Option.some.inj h)

/-- **Plans of the refs table.** -/
theorem refs_keyed_plans_agree {server : RefsRequest → List (Reply Ref)}
    (hnull : ∀ t ∈ terms, t.rhs ≠ .null) (hu : KeyUsable u terms) (hu' : KeyUsable u' terms)
    (hflags : FlagsNonzero sql (withUsable u terms))
    (hflags' : FlagsNonzero sql (withUsable u' terms)) :
    (refsTable sql).SameRows sql server terms u u' := by
  obtain ⟨t, ht⟩ := Option.isSome_iff_exists.mp (firstTerm_isKey_isSome.mpr hu)
  obtain ⟨t', ht'⟩ := Option.isSome_iff_exists.mp (firstTerm_isKey_isSome.mpr hu')
  refine VirtualTable.sameRows_of_key
    (fun k => (results (server ⟨[k], some kindAll⟩)).map (refRow ⟨[k], some kindAll⟩)) rfl
    (fun k row hrow => ?_) ht ht' (refsTable_scans_key hnull hflags ht _)
    (refsTable_scans_key hnull hflags' ht' _)
  obtain ⟨r, -, rfl⟩ := List.mem_map.mp hrow
  exact ⟨cStr k, nulFree_cStr k, refRow_column_zero _ k [] r rfl⟩

/-- A plan of the refs table without a key asks for no id or makes no request. -/
theorem refs_unkeyed_plan_empty {server : RefsRequest → List (Reply Ref)}
    (hserver : ∀ f, results (server { ids := [], filter := f }) = []) (hu : ¬ KeyUsable u terms)
    (c : RefsCursor) : (refsTable sql).Scans server (withUsable u terms) c [] := by
  have hchosen : RefsTable.chosen (withUsable u terms) 0 = none := by
    rw [RefsTable.chosen, isEqualityOn_zero, Option.map_eq_none_iff,
      ← Option.not_isSome_iff_eq_none, firstTerm_isKey_isSome]
    exact hu
  by_cases hidx : RefsTable.idxNumOf (withUsable u terms) = 0
  · exact refsTable_scans_nil hidx c
  · have hids : idsOf sql (withUsable u terms) = [] := by
      rw [idsOf, hchosen]
      rfl
    have hnil : results (server (RefsCursor.requestOf sql (withUsable u terms))) = [] := by
      rw [RefsCursor.requestOf, hids]
      exact hserver _
    have hscan : (refsTable sql).Scans server (withUsable u terms) c _ :=
      refsTable_scans (by rw [hchosen]; simp) hidx c
    rw [hnil] at hscan
    exact hscan

/-- **Plans of the relation tables.** -/
theorem relations_keyed_plans_agree {server : RelationsRequest → List (Reply Relation)}
    {kind : RelationKind} (hnull : ∀ t ∈ terms, t.rhs ≠ .null) (hu : KeyUsable u terms)
    (hu' : KeyUsable u' terms) : (relationsTable sql kind).SameRows sql server terms u u' := by
  have hscan : ∀ {u t}, firstTerm isKey (withUsable u terms) = some t →
      (relationsTable sql kind).Scans server (withUsable u terms) (relationsTable sql kind).fresh
        (((results (server ⟨[keyText sql t.rhs], some kind.value⟩)).map relationPair).map
          relationRow) := by
    intro u t ht
    obtain ⟨t₀, ht₀, hrhs, -⟩ := exists_of_firstTerm_isKey ht
    refine relationsTable_scans ?_ (fun h => hnull t₀ ht₀ (hrhs.trans h)) _
    rw [RelationsTable.chosen, isSubject_eq, ht, Option.map_some]
  obtain ⟨t, ht⟩ := Option.isSome_iff_exists.mp (firstTerm_isKey_isSome.mpr hu)
  obtain ⟨t', ht'⟩ := Option.isSome_iff_exists.mp (firstTerm_isKey_isSome.mpr hu')
  refine VirtualTable.sameRows_of_key
    (fun k => ((results (server ⟨[k], some kind.value⟩)).map relationPair).map relationRow) rfl
    (fun k row hrow => ?_) ht ht' (hscan ht) (hscan ht')
  obtain ⟨x, -, rfl⟩ := List.mem_map.mp hrow
  exact ⟨cStr x.1, nulFree_cStr x.1, relationRow_column_zero x⟩

/-- A plan of a relation table without a key asks for no subject. -/
theorem relations_unkeyed_plan_empty {server : RelationsRequest → List (Reply Relation)}
    (hserver : ∀ p, results (server { subjects := [], predicate := p }) = [])
    (kind : RelationKind) (hu : ¬ KeyUsable u terms) :
    (relationsTable sql kind).Scans server (withUsable u terms) (relationsTable sql kind).fresh
      [] := by
  have hchosen : RelationsTable.chosen (withUsable u terms) = none := by
    rw [RelationsTable.chosen, isSubject_eq, Option.map_eq_none_iff,
      ← Option.not_isSome_iff_eq_none, firstTerm_isKey_isSome]
    exact hu
  have hscan : (relationsTable sql kind).Scans server (withUsable u terms)
      (relationsTable sql kind).fresh _ := relationsTable_scans_unkeyed hchosen _
  have hnil : results (server ⟨(relationsTable sql kind).fresh.subjects,
      some (relationsTable sql kind).fresh.kind.value⟩) = [] := hserver _
  rw [hnil] at hscan
  exact hscan

/-- **The plans of a query agree** when each can use an equality on the key column, on the refs
table apart from zero flags that one of them can use. A plan that can use none is accepted, and
has no row. The terms are compared plainly (`Comparison.plain`). -/
theorem keyed_plans_agree (sql : Sqlite) {terms : List Term}
    (hnull : ∀ t ∈ terms, t.rhs ≠ .null) {refsServer : RefsRequest → List (Reply Ref)}
    (hrefs : ∀ f, results (refsServer { ids := [], filter := f }) = [])
    {relationsServer : RelationsRequest → List (Reply Relation)}
    (hrelations : ∀ p, results (relationsServer { subjects := [], predicate := p }) = []) :
    ((∀ u u', KeyUsable u terms → KeyUsable u' terms →
        FlagsNonzero sql (withUsable u terms) → FlagsNonzero sql (withUsable u' terms) →
        (refsTable sql).SameRows sql refsServer terms u u') ∧
      ∀ u, ¬ KeyUsable u terms →
        (refsTable sql).Scans refsServer (withUsable u terms) (refsTable sql).fresh []) ∧
    ∀ kind, (∀ u u', KeyUsable u terms → KeyUsable u' terms →
        (relationsTable sql kind).SameRows sql relationsServer terms u u') ∧
      ∀ u, ¬ KeyUsable u terms → (relationsTable sql kind).Scans relationsServer
        (withUsable u terms) (relationsTable sql kind).fresh [] :=
  ⟨⟨fun _ _ => refs_keyed_plans_agree hnull,
      fun _ hu => refs_unkeyed_plan_empty hrefs hu _⟩,
    fun kind => ⟨fun _ _ hu hu' => relations_keyed_plans_agree hnull hu hu',
      fun _ hu => relations_unkeyed_plan_empty hrelations kind hu⟩⟩

/-- Both plans of `SymbolId = 'x' AND SymbolId = 'x'` with one term usable agree. -/
theorem keyed_plans_agree_two_keys :
    (refsTable .sample).SameRows .sample (refsServer fun _ => [{ kind := some 2 }])
      [.equality 0 (.text ['x']), .equality 0 (.text ['x'])] (· = 0) (· = 1) :=
  (@keyed_plans_agree .sample [.equality 0 (.text ['x']), .equality 0 (.text ['x'])]
    (by simp [Term.equality]) (refsServer fun _ => [{ kind := some 2 }]) (by simp [refsServer])
    (fun _ => []) (fun _ => rfl)).1.1 _ _ ⟨0, _, rfl, by decide, rfl⟩ ⟨1, _, rfl, by decide, rfl⟩
    (by simp [FlagsNonzero, withUsable, Term.equality])
    (by simp [FlagsNonzero, withUsable, Term.equality])

/-- **A plan without the key** of a query that has one is run as an empty scan: the row that
`SymbolId = 'x'` has with the equality usable is lost without. -/
theorem refs_plans_disagree :
    (∀ f, results (refsServer (fun _ => [{ kind := some 2 }]) { ids := [], filter := f }) = []) ∧
      ¬ (refsTable .sample).SameRows .sample (refsServer fun _ => [{ kind := some 2 }])
        [.equality 0 (.text ['x'])] (fun _ => true) (fun _ => false) := by
  have hempty : ∀ f, results (refsServer (fun _ => [{ kind := some 2 }])
      { ids := [], filter := f }) = [] := by simp [refsServer]
  refine ⟨hempty, ?_⟩
  rintro ⟨rows, rows', hscan, hscan', hrows⟩
  have hkey := @refsTable_scans_key .sample [.equality 0 (.text ['x'])] (fun _ => true)
    (refsServer fun _ => [{ kind := some 2 }]) (.equality 0 (.text ['x']))
    (by simp [Term.equality]) (by simp [FlagsNonzero, withUsable, Term.equality]) rfl
    (refsTable .sample).fresh
  have hunkeyed : ¬ KeyUsable (fun _ => false) [.equality 0 (.text ['x'])] := by
    rintro ⟨i, t, -, hu, -⟩
    exact absurd hu (by simp)
  have hnil := @refs_unkeyed_plan_empty .sample _ _ _ hempty hunkeyed (refsTable .sample).fresh
  -- the row of the definition passes the test, and is in no empty scan
  rw [hscan.unique hkey, hscan'.unique hnil] at hrows
  have hrow := (hrows _).mp (List.mem_filter.mpr ⟨List.mem_map.mpr ⟨{ kind := some 2 },
    by decide, rfl⟩, by decide⟩)
  simp at hrow

end ClangQL
