import ClangQL.Library.NestedLoop
import ClangQL.Tables.Database

/-!
# Joins

SQLite joins tables in a nested loop. It plans each table once, opens one cursor for it, and
filters that cursor again for every combination of rows of the outer tables, on whose columns the
right-hand sides depend. The relations cursor collects the subjects of all outer rows on the way.
Whatever the loops are, the joined rows are those of the product of the tables of the database on
which all terms are true. The right-hand sides taken from other tables compare as literals of the
same values would: a text of a text column is not converted for another text column.

## Main definitions

* `JoinTable`: a table in a join, with its terms for the rows of the outer tables
* `JoinTable.level`: its loop, as a level of the nested loop
* `AllAnswerable`: every query the loops make is one its table can answer
* `subclassQuery`, `declarationQuery`: the two joins of the README

## Main results

* `JoinTable.level_meets`: a loop over a table enumerates what the database owes
* `join_perm`: joins are those of the database
* `subclassQuery_perm`, `declarationQuery_perm`: what the joins of the README find
-/

namespace ClangQL

/-- A table in a join. Its terms depend on the rows of the outer tables, but not its constraints,
since SQLite plans it once. -/
structure JoinTable where
  table : Table
  index : SymbolIndex
  db : Database
  answers : AnswersDatabase index db
  terms : List Row → List Term
  constraints_eq : ∀ outer outer',
    (terms outer).map (·.constraint) = (terms outer').map (·.constraint)

namespace JoinTable

variable (sql : Sqlite) (j : JoinTable)

/-- The loop over a table, for rows of the outer tables: it scans the table from the cursor that
the run before has left, and keeps the rows that survive SQLite's tests. -/
def level : Level Row where
  State := j.table.Cursor
  Enumerates outer c items c' := ∃ rows,
    (j.table.virtualTable sql).ScansTo (j.table.serve j.index) (j.terms outer) c rows c' ∧
      items = (j.table.virtualTable sql).survivors sql (j.terms outer) rows
  Inv := (j.table.virtualTable sql).Reached
  base := j.db.rows j.table
  test outer := satisfies sql (j.table.virtualTable sql).affinity (usable (j.terms outer))

variable {sql j}

/-- **A loop over a table** enumerates what the database owes, and leaves a cursor that can be
filtered again. -/
theorem level_meets {outer : List Row} (h : Answerable sql (j.terms outer) j.table) :
    (j.level sql).Meets outer where
  ends c hc := by
    obtain ⟨rows, hscans, -⟩ := j.table.survivors_perm sql j.answers h hc
    obtain ⟨c', hscans'⟩ := VirtualTable.exists_scansTo_iff.mpr hscans
    exact ⟨_, c', rows, hscans', rfl⟩
  perm {c items c'} hc hrun := by
    obtain ⟨rows, hscans, rfl⟩ := hrun
    obtain ⟨rows', hscans', hperm⟩ := j.table.survivors_perm sql j.answers h hc
    obtain rfl := (VirtualTable.exists_scansTo_iff.mp ⟨c', hscans⟩).unique hscans'
    exact hperm
  keeps {c items c'} hc hrun := by
    obtain ⟨rows, hscans, -⟩ := hrun
    exact VirtualTable.reached_scansTo hc hscans

end JoinTable

variable {sql : Sqlite}

/-- The loops of a join, outermost first. -/
def joinLevels (sql : Sqlite) (tables : List JoinTable) : List (Level Row) :=
  tables.map (·.level sql)

/-- The cursors that `Open` makes for the tables. -/
def freshCursors (sql : Sqlite) : (tables : List JoinTable) → Level.States (joinLevels sql tables)
  | [] => ()
  | j :: tables => ((j.table.virtualTable sql).fresh, freshCursors sql tables)

/-- Every query the loops make is one that its table can answer. -/
def AllAnswerable (sql : Sqlite) : List JoinTable → List Row → Prop
  | [], _ => True
  | j :: tables, outer => Answerable sql (j.terms outer) j.table ∧
      ∀ row ∈ (j.level sql).items outer, AllAnswerable sql tables (outer ++ [row])

theorem ready_freshCursors (tables : List JoinTable) :
    Level.Ready (joinLevels sql tables) (freshCursors sql tables) := by
  induction tables with
  | nil => trivial
  | cons j tables ih => exact ⟨VirtualTable.reached_fresh, ih⟩

theorem AllAnswerable.allMeet {tables : List JoinTable} {outer : List Row}
    (h : AllAnswerable sql tables outer) : Level.AllMeet (joinLevels sql tables) outer := by
  induction tables generalizing outer with
  | nil => trivial
  | cons j tables ih =>
    obtain ⟨hj, hbelow⟩ := h
    exact ⟨JoinTable.level_meets hj, fun row hrow => ih (hbelow row hrow)⟩

/-- **Joins are those of the database.** A join of any tables, whose loops make queries that the
tables can answer, ends, and its rows are the combinations of rows of the database on which all
usable terms are true, each as often. -/
theorem join_perm (sql : Sqlite) {tables : List JoinTable} (h : AllAnswerable sql tables []) :
    (∃ out cursors, Level.NestedLoop (joinLevels sql tables) [] (freshCursors sql tables) out
        cursors) ∧
      ∀ out cursors, Level.NestedLoop (joinLevels sql tables) [] (freshCursors sql tables) out
          cursors →
        out.Perm ((Level.product (joinLevels sql tables)).filter
          (Level.passes (joinLevels sql tables) [])) := by
  obtain ⟨hends, hperm⟩ := Level.nestedLoop_perm h.allMeet (ready_freshCursors tables)
  refine ⟨hends, fun out cursors hrun => ?_⟩
  have hout := (hperm out cursors hrun).1
  rw [Level.comprehension_eq_filter] at hout
  simpa using hout

/-! ## The joins of the README -/

/-- The value of a column of an outer row, for a right-hand side. -/
def outerColumn (outer : List Row) (k : ℕ) (iColumn : Int) : Value :=
  match outer[k]? with
  | some row => (row.column iColumn).toOption.getD .null
  | none => .null

/-- The term `column = rhs`, whose right-hand side is not known yet. -/
def Term.later (iColumn : Int) : Term := ⟨⟨iColumn, indexConstraintEq, false⟩, .null⟩

variable {index : SymbolIndex} {db : Database}

section Tables

variable (h : AnswersDatabase index db)

/-- `llvm_symbols AS superclass`, with `superclass.Name = name` and, for later,
`rel.Subject = superclass.Id`. -/
def superclassTable (name : Str) : JoinTable :=
  ⟨.symbols, index, db, h, fun _ => [.equality 1 (.text name), .later 0], fun _ _ => rfl⟩

/-- `llvm_base_of AS rel`, with `rel.Subject = superclass.Id` and, for later,
`subclass.Id = rel.Object`. -/
def relationTable : JoinTable :=
  ⟨.relations .baseOf, index, db, h,
    fun outer => [.equality 0 (outerColumn outer 0 0), .later 1], fun _ _ => rfl⟩

/-- `llvm_symbols AS subclass`, with `subclass.Id = rel.Object`. -/
def subclassTable : JoinTable :=
  ⟨.symbols, index, db, h, fun outer => [.equality 0 (outerColumn outer 1 1)], fun _ _ => rfl⟩

/-- The subclasses of the classes of a name. -/
def subclassQuery (name : Str) : List JoinTable :=
  [superclassTable h name, relationTable h, subclassTable h]

/-- `llvm_symbols AS decl`, with `decl.Scope = scope` and, for later,
`ref.SymbolId = decl.Id`. -/
def declTable (scope : Str) : JoinTable :=
  ⟨.symbols, index, db, h, fun _ => [.equality 2 (.text scope), .later 0], fun _ _ => rfl⟩

/-- `llvm_refs AS ref`, with `ref.SymbolId = decl.Id` and `ref.Declaration = 1`. -/
def refTable : JoinTable :=
  ⟨.refs, index, db, h, fun outer =>
    [.equality 0 (outerColumn outer 0 0), .equality 1 (.integer 1)], fun _ _ => rfl⟩

/-- The declarations in a scope. -/
def declarationQuery (scope : Str) : List JoinTable := [declTable h scope, refTable h]

end Tables

/-- The symbols of a name, their subclasses and the relations between them. -/
def Database.subclasses (db : Database) (name : Str) : List (Symbol × (Str × Str) × Symbol) :=
  (db.symbols.filter fun m => m.name = some name).flatMap fun m =>
    ((db.pairs .baseOf).filter fun x => m.id = some x.1).flatMap fun x =>
      (db.symbols.filter fun m' => m'.id = some x.2).flatMap fun m' => [(m, x, m')]

/-- The symbols of a scope and their declarations. -/
def Database.declarations (db : Database) (scope : Str) : List (Symbol × (Str × Ref)) :=
  (db.symbols.filter fun m => m.scope = some scope).flatMap fun m =>
    (db.refs.filter fun x => m.id = some x.1 ∧
      x.2.getKind &&& kindDeclaration = kindDeclaration).flatMap fun x => [(m, x)]

theorem outerColumn_symbol {m : Symbol} (hm : m ∈ db.symbols) (outer : List Row) :
    ∃ v, m.id = some v ∧ NulFree v ∧ outerColumn (symbolRow m :: outer) 0 0 = .text v := by
  obtain ⟨v, hv⟩ := Option.isSome_iff_exists.mp (db.id_symbols m hm)
  have hnul : NulFree v := (db.nulFree_symbols m hm).1 v hv
  refine ⟨v, hv, hnul, ?_⟩
  show setRes m.id = _
  rw [hv]
  show resultText v = _
  rw [resultText, cStr_eq_self hnul]

theorem outerColumn_relation {x : Str × Str} (hx : NulFree x.2) (row : Row) :
    outerColumn [row, relationRow x] 1 1 = .text x.2 := by
  show resultText x.2 = _
  rw [resultText, cStr_eq_self hx]

/-- A query for one text in a column of the symbols. -/
theorem plainQuery_equality {column : Int} {v : Str} (hcolumn : column ∈ [0, 1, 2])
    (hv : NulFree v) : PlainQuery [.equality column (.text v)] where
  no_like t ht := by
    obtain rfl := List.mem_singleton.mp ht
    rcases List.mem_cons.mp hcolumn with rfl | hcolumn
    · rfl
    rcases List.mem_cons.mp hcolumn with rfl | hcolumn
    · rfl
    · obtain rfl := List.mem_singleton.mp hcolumn
      rfl
  text t ht _ _ := by
    obtain rfl := List.mem_singleton.mp ht
    exact ⟨v, hv, rfl⟩

theorem usable_later (t : Term) (column : Int) (h : t.constraint.usable = true) :
    usable [t, .later column] = [t] := by
  simp [usable, Term.later, h]

/-! ## What they find -/

/-- The symbols with a text in a column. -/
theorem filter_symbolRow {column : Int} {v : Str} {get : Symbol → Option Str}
    (hcolumn : column ≠ -1) (haff : SymbolsTable.affinity column = .text)
    (hshow : ∀ m, SymbolsCursor.columnOf m column = setRes (get m))
    (hget : ∀ m ∈ db.symbols, ∀ s ∈ get m, NulFree s) :
    (db.rows .symbols).filter
        (satisfies sql SymbolsTable.affinity [.equality column (.text v)]) =
      (db.symbols.filter fun m => get m = some v).map symbolRow := by
  rw [Database.rows, List.filter_map]
  refine congrArg _ (List.filter_congr fun m hm => ?_)
  have hiff : (Term.equality column (.text v)).holds sql SymbolsTable.affinity (symbolRow m) =
      true ↔ get m = some v := holds_setRes_iff hcolumn haff (hshow m) (hget m hm) rfl rfl rfl
  rw [Bool.eq_iff_iff, decide_eq_true_iff, ← hiff]
  simp [satisfies]

/-- The pairs of a subject. -/
theorem filter_relationRow {kind : RelationKind} {v : Str} :
    (db.rows (.relations kind)).filter
        (satisfies sql RelationsTable.affinity [.equality 0 (.text v)]) =
      ((db.pairs kind).filter fun x => x.1 = v).map relationRow := by
  rw [Database.rows, List.filter_map]
  refine congrArg _ (List.filter_congr fun x hx => ?_)
  have hvalue : (Term.equality 0 (.text v)).holds sql RelationsTable.affinity (relationRow x) =
      decide (cStr x.1 = v) := sql.holds_eq_text (cStr x.1) v
  rw [cStr_eq_self (db.nulFree_pairs kind x hx).1] at hvalue
  simp [satisfies, hvalue]

/-- SQLite compares integers as integers. -/
def ComparesIntegers (sql : Sqlite) : Prop :=
  ∀ i j, sql.holds .integer indexConstraintEq (.integer i) (.integer j) = decide (i = j)

/-- The declarations of a symbol. -/
theorem filter_refsRow (hsql : ComparesIntegers sql) {v : Str} :
    (db.rows .refs).filter (satisfies sql RefsTable.affinity
        [.equality 0 (.text v), .equality 1 (.integer 1)]) =
      (db.refs.filter fun x => x.1 = v ∧
        x.2.getKind &&& kindDeclaration = kindDeclaration).map Database.refsRow := by
  rw [Database.rows, List.filter_map]
  refine congrArg _ (List.filter_congr fun x hx => ?_)
  have hid : (Term.equality 0 (.text v)).holds sql RefsTable.affinity (Database.refsRow x) =
      decide (cStr x.1 = v) := sql.holds_eq_text (cStr x.1) v
  have hdecl : (Term.equality 1 (.integer 1)).holds sql RefsTable.affinity (Database.refsRow x) =
      decide ((ofBool (x.2.getKind &&& kindDeclaration == kindDeclaration)).toInt64 = 1) :=
    hsql _ 1
  rw [cStr_eq_self (db.nulFree_refs x hx)] at hid
  have hflag : (ofBool (x.2.getKind &&& kindDeclaration == kindDeclaration)).toInt64 = 1 ↔
      x.2.getKind &&& kindDeclaration = kindDeclaration := by
    cases h : x.2.getKind &&& kindDeclaration == kindDeclaration with
    | true => exact iff_of_true rfl (by simpa using h)
    | false => exact iff_of_false (by decide) (by simpa using h)
  simp [satisfies, hid, hdecl, hflag]

/-- The rows of a symbol, a relation and a symbol. -/
def subclassRow (x : Symbol × (Str × Str) × Symbol) : List Row :=
  [symbolRow x.1, relationRow x.2.1, symbolRow x.2.2]

/-- The rows of a symbol and a reference. -/
def declarationRow (x : Symbol × (Str × Ref)) : List Row :=
  [symbolRow x.1, Database.refsRow x.2]

/-- A loop over a table can be answered, and owes these rows. -/
def Owes (sql : Sqlite) (db : Database) (t : Table) (terms : List Term) (rows : List Row) : Prop :=
  Answerable sql terms t ∧
    (db.rows t).filter (satisfies sql (t.virtualTable sql).affinity (usable terms)) = rows

/-- The loop over the symbols for one text, with or without a term for a later table. -/
theorem owes_symbols {terms : List Term} {column : Int} {v : Str} {get : Symbol → Option Str}
    (hterms : usable terms = [.equality column (.text v)]) (hcolumn : column ∈ [0, 1, 2])
    (hv : NulFree v) (haff : SymbolsTable.affinity column = .text)
    (hshow : ∀ m, SymbolsCursor.columnOf m column = setRes (get m))
    (hget : ∀ m ∈ db.symbols, ∀ s ∈ get m, NulFree s) :
    Owes sql db .symbols terms ((db.symbols.filter fun m => get m = some v).map symbolRow) := by
  have hne : column ≠ -1 := by
    rintro rfl
    exact absurd hcolumn (by decide)
  constructor
  · show PlainQuery (usable terms)
    rw [hterms]
    exact plainQuery_equality hcolumn hv
  · rw [hterms]
    exact filter_symbolRow hne haff hshow hget

/-- The loop over the relations of an outer symbol. -/
theorem owes_relations {m : Symbol} (hm : m ∈ db.symbols) :
    Owes sql db (.relations .baseOf) [.equality 0 (outerColumn [symbolRow m] 0 0), .later 1]
      (((db.pairs .baseOf).filter fun x => m.id = some x.1).map relationRow) := by
  obtain ⟨v, hid, hv, hcolumn⟩ := outerColumn_symbol hm []
  rw [hcolumn, hid]
  refine ⟨⟨v, hv, rfl⟩, ?_⟩
  rw [usable_later _ _ rfl]
  refine filter_relationRow.trans (congrArg _ (List.filter_congr fun x _ => ?_))
  simp [eq_comm]

/-- The loop over the declarations of an outer symbol. -/
theorem owes_refs (hsql : ComparesIntegers sql) {m : Symbol} (hm : m ∈ db.symbols) :
    Owes sql db .refs [.equality 0 (outerColumn [symbolRow m] 0 0), .equality 1 (.integer 1)]
      ((db.refs.filter fun x => m.id = some x.1 ∧
        x.2.getKind &&& kindDeclaration = kindDeclaration).map Database.refsRow) := by
  obtain ⟨v, hid, hv, hcolumn⟩ := outerColumn_symbol hm []
  rw [hcolumn, hid]
  refine ⟨⟨v, hv, rfl, fun x hx => ?_⟩, ?_⟩
  · obtain rfl : x = .integer 1 := List.mem_singleton.mp hx
    rw [sql.valueInt_integer]
    decide
  · refine (filter_refsRow hsql).trans (congrArg _ (List.filter_congr fun x _ => ?_))
    simp [eq_comm]

/-- A join whose outermost loop owes the rows of some items. -/
theorem owes_cons {β : Type} {j : JoinTable} {tables : List JoinTable} {outer : List Row}
    {items : List β} {row : β → Row} (h : Owes sql j.db j.table (j.terms outer) (items.map row))
    (f : β → List (List Row))
    (hbelow : ∀ b ∈ items, AllAnswerable sql tables (outer ++ [row b]) ∧
      Level.comprehension (joinLevels sql tables) (outer ++ [row b]) = f b) :
    AllAnswerable sql (j :: tables) outer ∧
      Level.comprehension (joinLevels sql (j :: tables)) outer = items.flatMap f := by
  obtain ⟨hanswer, hrows⟩ := h
  have hitems : (j.level sql).items outer = items.map row := hrows
  constructor
  · refine ⟨hanswer, fun r hr => ?_⟩
    rw [hitems] at hr
    obtain ⟨b, hb, rfl⟩ := List.mem_map.mp hr
    exact (hbelow b hb).1
  · show ((j.level sql).items outer).flatMap _ = _
    rw [hitems, List.flatMap_map]
    exact List.flatMap_congr fun b hb => (hbelow b hb).2

/-- The loops of the subclass query can be answered, and owe the subclasses. -/
theorem subclassQuery_owes (sql : Sqlite) (h : AnswersDatabase index db) {name : Str}
    (hname : NulFree name) :
    AllAnswerable sql (subclassQuery h name) [] ∧
      Level.comprehension (joinLevels sql (subclassQuery h name)) [] =
        (db.subclasses name).map subclassRow := by
  have hsuperclass : Owes sql db .symbols [.equality 1 (.text name), .later 0]
      ((db.symbols.filter fun m => m.name = some name).map symbolRow) :=
    owes_symbols (usable_later _ 0 rfl) (by decide) hname rfl (fun _ => rfl)
      fun m hm => (db.nulFree_symbols m hm).2.1
  have hsubclass : ∀ m, ∀ x ∈ db.pairs .baseOf, Owes sql db .symbols
      [.equality 0 (outerColumn [symbolRow m, relationRow x] 1 1)]
      ((db.symbols.filter fun m' => m'.id = some x.2).map symbolRow) := by
    intro m x hx
    have hnul := (db.nulFree_pairs .baseOf x hx).2
    rw [outerColumn_relation hnul]
    exact owes_symbols rfl (by decide) hnul rfl (fun _ => rfl)
      fun m hm => (db.nulFree_symbols m hm).1
  have hrows : (db.subclasses name).map subclassRow =
      (db.symbols.filter fun m => m.name = some name).flatMap fun m =>
        ((db.pairs .baseOf).filter fun x => m.id = some x.1).flatMap fun x =>
          (db.symbols.filter fun m' => m'.id = some x.2).flatMap fun m' =>
            [subclassRow (m, x, m')] := by
    simp only [Database.subclasses, List.map_flatMap, List.map_singleton]
  rw [hrows]
  refine owes_cons hsuperclass _ fun m hm => ?_
  refine owes_cons (owes_relations (List.mem_filter.mp hm).1) _ fun x hx => ?_
  refine owes_cons (hsubclass m x (List.mem_filter.mp hx).1) _ fun m' _ => ?_
  exact ⟨trivial, rfl⟩

/-- The loops of the declaration query can be answered, and owe the declarations. -/
theorem declarationQuery_owes (hsql : ComparesIntegers sql) (h : AnswersDatabase index db)
    {scope : Str} (hscope : NulFree scope) :
    AllAnswerable sql (declarationQuery h scope) [] ∧
      Level.comprehension (joinLevels sql (declarationQuery h scope)) [] =
        (db.declarations scope).map declarationRow := by
  have hdecl : Owes sql db .symbols [.equality 2 (.text scope), .later 0]
      ((db.symbols.filter fun m => m.scope = some scope).map symbolRow) :=
    owes_symbols (usable_later _ 0 rfl) (by decide) hscope rfl (fun _ => rfl)
      fun m hm => (db.nulFree_symbols m hm).2.2
  have hrows : (db.declarations scope).map declarationRow =
      (db.symbols.filter fun m => m.scope = some scope).flatMap fun m =>
        (db.refs.filter fun x => m.id = some x.1 ∧
          x.2.getKind &&& kindDeclaration = kindDeclaration).flatMap fun x =>
            [declarationRow (m, x)] := by
    simp only [Database.declarations, List.map_flatMap, List.map_singleton]
  rw [hrows]
  refine owes_cons hdecl _ fun m hm => ?_
  refine owes_cons (owes_refs hsql (List.mem_filter.mp hm).1) _ fun x _ => ?_
  exact ⟨trivial, rfl⟩

/-- A join whose loops can be answered ends with the rows they owe. -/
theorem join_perm_of_owes {tables : List JoinTable} {rows : List (List Row)}
    (h : AllAnswerable sql tables [] ∧ Level.comprehension (joinLevels sql tables) [] = rows) :
    (∃ out cursors, Level.NestedLoop (joinLevels sql tables) [] (freshCursors sql tables) out
        cursors) ∧
      ∀ out cursors, Level.NestedLoop (joinLevels sql tables) [] (freshCursors sql tables) out
          cursors → out.Perm rows := by
  obtain ⟨hanswer, rfl⟩ := h
  obtain ⟨hends, hperm⟩ := Level.nestedLoop_perm hanswer.allMeet (ready_freshCursors tables)
  exact ⟨hends, fun out cursors hrun => (hperm out cursors hrun).1⟩

/-- A class `A` in the scope `n`, its subclass `B`, and a declaration of `A`. -/
def sampleDatabase : Database where
  symbols := [{ id := some ['a'], name := some ['A'], scope := some ['n'] },
    { id := some ['b'], name := some ['B'] }]
  pairs kind := if kind = .baseOf then [(['a'], ['b'])] else []
  refs := [(['a'], { kind := some kindDeclaration })]
  nodup_symbols := by decide
  nodup_pairs kind := by cases kind <;> decide
  id_symbols := by decide
  nulFree_symbols := by simp [Symbol.KeysNulFree, NulFree]
  nulFree_pairs kind := by cases kind <;> decide
  nulFree_refs := by decide
  kind_refs := by decide

theorem comparesIntegers_sample : ComparesIntegers .sample := fun i j => by
  simp [Sqlite.holds, Sqlite.sample]

/-- The loops of the subclass query on a small database. -/
theorem join_perm_subclasses :
    let tables := subclassQuery (databaseIndex_answers sampleDatabase) ['A']
    (∃ out cursors, Level.NestedLoop (joinLevels .sample tables) []
        (freshCursors .sample tables) out cursors) ∧
      ∀ out cursors, Level.NestedLoop (joinLevels .sample tables) [] (freshCursors .sample tables)
          out cursors →
        out.Perm ((Level.product (joinLevels .sample tables)).filter
          (Level.passes (joinLevels .sample tables) [])) :=
  join_perm .sample (subclassQuery_owes .sample (databaseIndex_answers sampleDatabase)
    (by decide)).1

/-- **The subclass query of the README** finds exactly the subclasses of the classes of a name,
each as often as there are relations to it. -/
theorem subclassQuery_perm (sql : Sqlite) {index : SymbolIndex} {db : Database}
    (h : AnswersDatabase index db) {name : Str} (hname : NulFree name) :
    (∃ out cursors, Level.NestedLoop (joinLevels sql (subclassQuery h name)) []
        (freshCursors sql _) out cursors) ∧
      ∀ out cursors, Level.NestedLoop (joinLevels sql (subclassQuery h name)) []
          (freshCursors sql _) out cursors → out.Perm ((db.subclasses name).map subclassRow) :=
  join_perm_of_owes (subclassQuery_owes sql h hname)

theorem subclassQuery_perm_sample :
    let h := databaseIndex_answers sampleDatabase
    (∃ out cursors, Level.NestedLoop (joinLevels .sample (subclassQuery h ['A'])) []
        (freshCursors .sample _) out cursors) ∧
      ∀ out cursors, Level.NestedLoop (joinLevels .sample (subclassQuery h ['A'])) []
          (freshCursors .sample _) out cursors →
        out.Perm ((sampleDatabase.subclasses ['A']).map subclassRow) :=
  subclassQuery_perm .sample (databaseIndex_answers sampleDatabase) (by decide)

/-- **The declaration query of the README** finds exactly the declarations of the symbols of a
scope. -/
theorem declarationQuery_perm {sql : Sqlite} (hsql : ComparesIntegers sql) {index : SymbolIndex}
    {db : Database} (h : AnswersDatabase index db) {scope : Str} (hscope : NulFree scope) :
    (∃ out cursors, Level.NestedLoop (joinLevels sql (declarationQuery h scope)) []
        (freshCursors sql _) out cursors) ∧
      ∀ out cursors, Level.NestedLoop (joinLevels sql (declarationQuery h scope)) []
          (freshCursors sql _) out cursors →
        out.Perm ((db.declarations scope).map declarationRow) :=
  join_perm_of_owes (declarationQuery_owes hsql h hscope)

theorem declarationQuery_perm_sample :
    let h := databaseIndex_answers sampleDatabase
    (∃ out cursors, Level.NestedLoop (joinLevels .sample (declarationQuery h ['n'])) []
        (freshCursors .sample _) out cursors) ∧
      ∀ out cursors, Level.NestedLoop (joinLevels .sample (declarationQuery h ['n'])) []
          (freshCursors .sample _) out cursors →
        out.Perm ((sampleDatabase.declarations ['n']).map declarationRow) :=
  declarationQuery_perm comparesIntegers_sample (databaseIndex_answers sampleDatabase) (by decide)

example : (sampleDatabase.subclasses ['A']).map (·.2.2.name) = [some ['B']] := by decide

end ClangQL
