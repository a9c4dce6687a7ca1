import ClangQL.Module.Methods
import ClangQL.Refs.Completeness
import ClangQL.Relations.Join
import ClangQL.Sqlite.Reuse
import ClangQL.Symbols.Completeness

/-!
# The index as a database

A server that answers from a database of symbols, relations and references makes each table look
like the rows of that database: a query with usable terms the table can answer has exactly the
rows that satisfy them. Terms that are not usable are tested elsewhere, where their right-hand
sides are known, and do not change the answer.

## Main definitions

* `Database`, `Database.rows`: what an index holds, and its rows in a table
* `AnswersDatabase`: a service that answers from a database
* `usable`, `VirtualTable.survivors`: the usable terms, and the rows that survive SQLite's tests
* `Answerable`: the queries a table can answer

## Main results

* `databaseIndex_answers`: a service that answers from a database
* `Table.survivors_perm`: every table answers as the database does, from any reusable cursor
-/

namespace ClangQL

/-! ## Databases -/

/-- What an index holds. Every symbol has an id, every reference a kind, and keys have no NUL. -/
structure Database where
  symbols : List Symbol
  pairs : RelationKind → List (Str × Str)
  refs : List (Str × Ref)
  nodup_symbols : symbols.Nodup
  nodup_pairs : ∀ kind, (pairs kind).Nodup
  id_symbols : ∀ m ∈ symbols, m.id.isSome
  nulFree_symbols : ∀ m ∈ symbols, m.KeysNulFree
  nulFree_pairs : ∀ kind, ∀ x ∈ pairs kind, NulFree x.1 ∧ NulFree x.2
  nulFree_refs : ∀ x ∈ refs, NulFree x.1
  kind_refs : ∀ x ∈ refs, x.2.getKind &&& kindAll ≠ 0

namespace Database

variable (db : Database)

/-- The references of a symbol. -/
def refsOf (v : Str) : List Ref := (db.refs.filter fun x => x.1 = v).map Prod.snd

/-- The row of a reference. -/
def refsRow (x : Str × Ref) : Row := refRow { ids := [x.1] } x.2

/-- The rows of a table. -/
def rows : Table → List Row
  | .symbols => db.symbols.map symbolRow
  | .relations kind => (db.pairs kind).map relationRow
  | .refs => db.refs.map refsRow

end Database

/-- The service answers from the database. -/
structure AnswersDatabase (index : SymbolIndex) (db : Database) : Prop where
  symbols : AnswersSymbols (Table.symbols.serve index) db.symbols
  relations : AnswersRelations index.relations db.pairs
  refs : AnswersRefs index.refs db.refsOf

/-- A service with the contents of a database. -/
def databaseIndex (db : Database) : SymbolIndex where
  lookup req := symbolsServer db.symbols (.lookup req)
  fuzzyFind req := symbolsServer db.symbols (.fuzzyFind req)
  refs := refsServer db.refsOf
  relations := relationsServer db.pairs

theorem databaseIndex_answers (db : Database) : AnswersDatabase (databaseIndex db) db where
  symbols := by
    have hserve : Table.symbols.serve (databaseIndex db) = symbolsServer db.symbols := by
      funext req
      cases req <;> rfl
    rw [hserve]
    exact symbolsServer_answersSymbols db.nodup_symbols
  relations := relationsServer_answersRelations db.nodup_pairs db.nulFree_pairs
  refs := refsServer_answersRefs db.refsOf

/-! ## Usable terms -/

/-- The usable terms of a query. -/
def usable (terms : List Term) : List Term := terms.filter fun t => t.constraint.usable

/-- A search finds usable terms only. -/
theorem firstTerm_usable (wanted : Constraint → Bool) (terms : List Term) :
    firstTerm wanted (usable terms) = firstTerm wanted terms := by
  rw [firstTerm, usable, List.find?_filter, firstTerm]
  congr 1
  funext t
  cases t.constraint.usable <;> simp

/-- The rows on which the usable terms that the plan leaves to SQLite are true. -/
def VirtualTable.survivors {σ Req M : Type} (T : VirtualTable σ Req M) (sql : Sqlite)
    (terms : List Term) (rows : List Row) : List Row :=
  rows.filter fun row => terms.zipIdx.all fun t =>
    !t.1.constraint.usable || (!(T.plan terms).rechecks t.2 || t.1.holds sql T.affinity row)

/-- The rows of all usable terms survive, when the usable terms that SQLite does not test are true
of every row. -/
theorem VirtualTable.survivors_eq_filter {σ Req M : Type} {T : VirtualTable σ Req M}
    {sql : Sqlite} {terms : List Term} {rows : List Row}
    (h : ∀ i t, terms[i]? = some t → t.constraint.usable = true →
      (T.plan terms).rechecks i = false → ∀ row ∈ rows, t.holds sql T.affinity row = true) :
    T.survivors sql terms rows = rows.filter (satisfies sql T.affinity (usable terms)) := by
  refine List.filter_congr fun row hrow => ?_
  rw [Bool.eq_iff_iff, satisfies, List.all_eq_true, List.all_eq_true]
  constructor
  · intro hall t ht
    obtain ⟨hmem, husable⟩ := List.mem_filter.mp ht
    obtain ⟨i, hi, rfl⟩ := List.getElem_of_mem hmem
    have hget : terms[i]? = some terms[i] := List.getElem?_eq_getElem hi
    have hi' := hall (terms[i], i) (List.mk_mem_zipIdx_iff_getElem?.mpr hget)
    cases hr : (T.plan terms).rechecks i with
    | false => exact h i _ hget husable hr row hrow
    | true => simpa [hr, husable] using hi'
  · rintro hall ⟨t, i⟩ ht
    cases husable : t.constraint.usable with
    | false => simp
    | true =>
      have hmem := List.mem_of_getElem? (List.mk_mem_zipIdx_iff_getElem?.mp ht)
      simp [hall t (List.mem_filter.mpr ⟨hmem, husable⟩)]

/-! ## Answerable queries -/

/-- The queries a table can answer: for the symbols, one without `LIKE` among the usable terms,
whose usable equalities on `Id`, `Name` and `Scope` are with texts without NUL; for the others,
one whose first usable equality on the key is with such a text, and which for the refs has no
flag argument that reads as zero. -/
def Answerable (sql : Sqlite) (terms : List Term) : Table → Prop
  | .symbols => PlainQuery (usable terms)
  | .relations _ => ∃ s, NulFree s ∧ RelationsTable.chosen terms = some (.text s)
  | .refs => ∃ s, NulFree s ∧ RefsTable.chosen terms 0 = some (.text s) ∧
      ∀ x ∈ readFlags terms, sql.valueInt x ≠ 0

variable {sql : Sqlite} {terms : List Term} {index : SymbolIndex} {db : Database}

section Symbols

open SymbolsTable SymbolsCursor IndexInfo

theorem requestOf_usable : requestOf sql (usable terms) = requestOf sql terms := by
  unfold requestOf
  simp only [firstTerm_usable]

theorem arguments_usable :
    SymbolsTable.arguments (usable terms) = SymbolsTable.arguments terms := by
  unfold SymbolsTable.arguments
  simp only [firstTerm_usable]

/-- The only test a plan may omit is the one of the chosen equality on `Id`. -/
theorem omitted_eq_chosen (h : PlainQuery (usable terms)) {i : ℕ} {t : Term}
    (ht : terms[i]? = some t) (husable : t.constraint.usable = true)
    (hi : ((symbolsTable sql).plan terms).rechecks i = false) :
    ∃ t', firstTerm isId terms = some t' ∧ isId t.constraint = true ∧ t.rhs = t'.rhs := by
  obtain ⟨hmem, c, hc, homit⟩ := (bestIndex_rechecks _ i).mp hi
  rw [List.getElem?_map, ht, Option.map_some] at hc
  obtain rfl := Option.some.inj hc
  have hlike := h.no_like t (List.mem_filter.mpr ⟨List.mem_of_getElem? ht, husable⟩)
  have hisId : isId t.constraint = true := homit.resolve_right (by simp [hlike])
  have hbind := bind_firstPosition isId terms
  unfold consumed at hmem
  cases hp : firstPosition isId (terms.map (·.constraint)) with
  | none =>
    rw [hp] at hmem
    have hprogress := (searches_progress (terms.map (·.constraint))).taken i hmem t.constraint
      (by rw [List.getElem?_map, ht, Option.map_some])
    exact absurd (hisId.symm.trans hprogress) (by simp)
  | some j =>
    rw [hp] at hmem hbind
    obtain rfl : i = j := List.mem_singleton.mp hmem
    rw [Option.bind_some, List.getElem?_map, ht, Option.map_some] at hbind
    obtain ⟨t', ht', hrhs⟩ := Option.map_eq_some_iff.mp hbind.symm
    exact ⟨t', ht', hisId, hrhs.symm⟩

/-- The omitted test on `Id` is true of the symbols of a `Lookup`. -/
theorem symbolsTable_survivors (h : AnswersDatabase index db) (hterms : PlainQuery (usable terms)) :
    (symbolsTable sql).survivors sql terms
        ((results (Table.symbols.serve index (requestOf sql terms))).map symbolRow) =
      ((results (Table.symbols.serve index (requestOf sql terms))).map symbolRow).filter
        (satisfies sql SymbolsTable.affinity (usable terms)) := by
  refine VirtualTable.survivors_eq_filter fun i t ht husable hi row hrow => ?_
  obtain ⟨t', hid, hisId, hrhs'⟩ := omitted_eq_chosen hterms ht husable hi
  obtain ⟨-, -, v, hv, hrhs⟩ := hterms.chosen_id ((firstTerm_usable isId terms).trans hid)
  obtain ⟨m, hm, rfl⟩ := List.mem_map.mp hrow
  rw [requestOf, hid] at hm
  dsimp only at hm
  rw [hrhs, keyText_text sql hv] at hm
  have hmem := List.mem_filter.mp ((h.symbols.lookup v).mem_iff.mp hm)
  exact (holds_setRes_iff (by decide) rfl rfl (db.nulFree_symbols m hmem.1).1
    (isId_iff.mp hisId).1 (isId_iff.mp hisId).2 (hrhs'.trans hrhs)).mpr (by simpa using hmem.2)

theorem symbols_survivors_perm (h : AnswersDatabase index db) (hterms : PlainQuery (usable terms))
    (c : SymbolsCursor) :
    ∃ rows, (symbolsTable sql).Scans (Table.symbols.serve index) terms c rows ∧
      ((symbolsTable sql).survivors sql terms rows).Perm ((db.rows .symbols).filter
        (satisfies sql SymbolsTable.affinity (usable terms))) := by
  have hnull : ∀ v ∈ SymbolsTable.arguments terms, v ≠ .null := by
    rw [← arguments_usable]
    exact hterms.arguments_ne_null
  refine ⟨_, symbolsTable_scans hnull c, ?_⟩
  rw [symbolsTable_survivors h hterms, Database.rows, List.filter_map, List.filter_map,
    ← requestOf_usable]
  refine List.Perm.map symbolRow ?_
  cases hid : firstTerm isId (usable terms) with
  | none => exact fuzzyFind_filter_perm h.symbols db.nulFree_symbols hterms hid
  | some t =>
    obtain ⟨-, -, v, hv, hrhs⟩ := hterms.chosen_id hid
    rw [requestOf, hid]
    dsimp only
    rw [hrhs, keyText_text sql hv]
    exact lookup_filter_perm h.symbols db.nulFree_symbols hterms hid hrhs

end Symbols

/-- SQLite tests every usable term when the plan omits no test. -/
theorem VirtualTable.survivors_eq_filter_of_rechecks {σ Req M : Type} {T : VirtualTable σ Req M}
    (rows : List Row) (h : ∀ i, (T.plan terms).rechecks i = true) :
    T.survivors sql terms rows = rows.filter (satisfies sql T.affinity (usable terms)) :=
  survivors_eq_filter fun i _ _ _ hi => absurd (hi.symm.trans (h i)) (by simp)

/-- A row with a text in its first column satisfies the first equality on that column only when
the text is its key. -/
theorem key_eq_of_satisfies {wanted : Constraint → Bool} {affinity : Int → Affinity} {row : Row}
    {u s : Str} {t : Term} (haff : affinity 0 = .text) (hcol : row.column 0 = .ok (.text u))
    (hu : NulFree u) (hs : NulFree s) (ht : firstTerm wanted terms = some t)
    (hwanted : t.constraint.iColumn = 0 ∧ t.constraint.op = indexConstraintEq)
    (hrhs : t.rhs = .text s) (hsat : satisfies sql affinity (usable terms) row = true) : u = s := by
  have hmem := firstTerm_mem ((firstTerm_usable wanted terms).trans ht)
  have hkey := keyText_eq_of_satisfies haff hcol hu hmem hwanted.1 hwanted.2 hsat
  rw [hrhs, keyText_text sql hs] at hkey
  exact hkey.symm

theorem relationsTable_survivors {kind : RelationKind} (rows : List Row) :
    (relationsTable sql kind).survivors sql terms rows =
      rows.filter (satisfies sql RelationsTable.affinity (usable terms)) :=
  VirtualTable.survivors_eq_filter_of_rechecks rows (RelationsTable.bestIndex_rechecks _)

theorem refsTable_survivors (rows : List Row) : (refsTable sql).survivors sql terms rows =
    rows.filter (satisfies sql RefsTable.affinity (usable terms)) :=
  VirtualTable.survivors_eq_filter_of_rechecks rows (RefsTable.bestIndex_rechecks _)

theorem relations_survivors_perm (h : AnswersDatabase index db) {kind : RelationKind} {s : Str}
    (hs : NulFree s) (hterms : RelationsTable.chosen terms = some (.text s)) {c : RelationsCursor}
    (hc : c.kind = kind) :
    ∃ rows, (relationsTable sql kind).Scans index.relations terms c rows ∧
      ((relationsTable sql kind).survivors sql terms rows).Perm ((db.rows (.relations kind)).filter
        (satisfies sql RelationsTable.affinity (usable terms))) := by
  refine ⟨_, relationsTable_scans hterms (by simp) c, ?_⟩
  obtain ⟨t, ht, hrhs⟩ := Option.map_eq_some_iff.mp hterms
  have hreq : c.requestOf sql (.text s) = ⟨c.subjects ++ [s], some kind.value⟩ := by
    rw [RelationsCursor.requestOf, hc, keyText_text sql hs]
  rw [relationsTable_survivors, hreq]
  refine (((h.relations.answers kind _).map relationRow).filter _).trans (.of_eq ?_)
  rw [Database.rows, List.filter_map, List.filter_map, List.filter_filter]
  refine congrArg _ (List.filter_congr fun x hx => ?_)
  rw [Bool.eq_iff_iff, Bool.and_eq_true]
  refine and_iff_left_of_imp fun hsat => ?_
  have hkey := key_eq_of_satisfies rfl (relationRow_column_zero x) (nulFree_cStr _) hs ht
    (RelationsTable.isSubject_iff.mp (firstTerm_wanted ht).2) hrhs hsat
  rw [cStr_eq_self (db.nulFree_pairs kind x hx).1] at hkey
  simp [hkey]

section Refs

open RefsTable RefsCursor

theorem refs_survivors_perm (h : AnswersDatabase index db) {s : Str} (hs : NulFree s)
    (hterms : chosen terms 0 = some (.text s)) (hflags : ∀ x ∈ readFlags terms, sql.valueInt x ≠ 0)
    (c : RefsCursor) :
    ∃ rows, (refsTable sql).Scans index.refs terms c rows ∧
      ((refsTable sql).survivors sql terms rows).Perm ((db.rows .refs).filter
        (satisfies sql RefsTable.affinity (usable terms))) := by
  have hid : chosen terms 0 ≠ some .null := by simp [hterms]
  refine ⟨_, refsTable_scans hid (idxNumOf_ne_zero (by rw [hterms]; rfl)) c, ?_⟩
  obtain ⟨t, ht, hrhs⟩ := Option.map_eq_some_iff.mp hterms
  have hreq : requestOf sql terms = ⟨[s], some kindAll⟩ := by
    rw [requestOf, kindAfter_eq_kindAll hflags, idsOf, hterms, Option.map_some,
      keyText_text sql hs, Option.toList_some]
  rw [refsTable_survivors, hreq]
  refine (filter_refRow_perm sql (usable terms) h.refs s kindAll).trans (.of_eq ?_)
  have hkinds : (db.refsOf s).filter (fun r => r.getKind &&& kindAll != 0) = db.refsOf s := by
    rw [List.filter_eq_self]
    intro r hr
    obtain ⟨x, hx, rfl⟩ := List.mem_map.mp hr
    exact bne_iff_ne.mpr (db.kind_refs x (List.mem_filter.mp hx).1)
  have hrows : (db.refsOf s).map (refRow { ids := [s] }) =
      (db.refs.filter fun x => x.1 = s).map Database.refsRow := by
    rw [Database.refsOf, List.map_map]
    refine List.map_congr_left fun x hx => ?_
    obtain rfl : x.1 = s := by simpa using (List.mem_filter.mp hx).2
    rfl
  rw [hkinds, hrows, Database.rows, List.filter_map, List.filter_map, List.filter_filter]
  refine congrArg _ (List.filter_congr fun x hx => ?_)
  rw [Bool.eq_iff_iff, Bool.and_eq_true]
  refine and_iff_left_of_imp fun hsat => ?_
  obtain ⟨hop, hcolumn⟩ := isEqualityOn_iff.mp (firstTerm_wanted ht).2
  have hkey := key_eq_of_satisfies rfl (refRow_column_zero { ids := [x.1] } x.1 [] x.2 rfl)
    (nulFree_cStr _) hs ht ⟨hcolumn, hop⟩ hrhs hsat
  rw [cStr_eq_self (db.nulFree_refs x hx)] at hkey
  simp [hkey]

end Refs

/-- **Every table answers as the database does.** From any cursor of a session, a query that the
table can answer has a scan to its end, and the rows that survive SQLite's tests are the rows of
the database that satisfy its usable terms, each as often. -/
theorem Table.survivors_perm (sql : Sqlite) {index : SymbolIndex} {db : Database}
    (h : AnswersDatabase index db) (t : Table) {terms : List Term}
    (hterms : Answerable sql terms t) {c : t.Cursor} (hc : (t.virtualTable sql).Reached c) :
    ∃ rows, (t.virtualTable sql).Scans (t.serve index) terms c rows ∧
      ((t.virtualTable sql).survivors sql terms rows).Perm ((db.rows t).filter
        (satisfies sql (t.virtualTable sql).affinity (usable terms))) := by
  cases t with
  | symbols => exact symbols_survivors_perm h hterms c
  | relations kind =>
    obtain ⟨s, hs, hkey⟩ := hterms
    obtain ⟨calls, session, hrun, rfl⟩ := hc
    exact relations_survivors_perm h hs hkey (run_keeps hrun).1
  | refs =>
    obtain ⟨s, hs, hkey, hflags⟩ := hterms
    exact refs_survivors_perm h hs hkey hflags c

end ClangQL
