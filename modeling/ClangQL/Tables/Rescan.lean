import ClangQL.Refs.Cursor
import ClangQL.Relations.History
import ClangQL.Symbols.Cursor

/-!
# Scans and the past of a cursor

In a join SQLite filters the inner cursor again for each outer row, perhaps midway through a
scan. The symbols and the refs cursor start afresh every time. The relations cursor does not:
its subjects are never cleared, so a later request asks for the earlier subjects too.

## Main definitions

* `VirtualTableCursor.scanOf`: the request of a `Filter` and what SQLite sees of its scan
* `VirtualTableCursor.SameScan`: two cursors give the same scan

## Main results

* `symbols_sameScan`, `refs_sameScan`: two cursors in any states give the same scan
* `relations_sameScan_iff`: a cursor without subjects gives the scan of a fresh one
* `sameScan_fresh_iff`: the sessions in which a scan does not depend on the past
-/

namespace ClangQL

namespace VirtualTableCursor

variable {σ Req M : Type} (C : VirtualTableCursor σ Req M)

/-- A call of `Filter`: its result code, the request it sends, and what the rounds of a scan see
of `Eof` and of the rows. -/
def scanOf (server : Req → List (Reply M)) (idxNum : Int32) (argv : List Value) (c : σ) :
    Outcome (ResultCode × Option Req × (ℕ → List (Bool × Option Row))) :=
  (C.filter server idxNum argv c).map fun (rc, req, c') => (rc, req, fun n => C.rows.observe n c')

/-- The same call of `Filter` on two cursors sends the same request and shows the same scan. -/
def SameScan (server : Req → List (Reply M)) (idxNum : Int32) (argv : List Value) (c d : σ) :
    Prop :=
  C.scanOf server idxNum argv c = C.scanOf server idxNum argv d

variable {C} {server : Req → List (Reply M)} {idxNum : Int32} {argv : List Value} {c d : σ}

theorem sameScan_of_filter_eq (h : C.filter server idxNum argv c = C.filter server idxNum argv d) :
    C.SameScan server idxNum argv c d := by
  rw [SameScan, scanOf, scanOf, h]

end VirtualTableCursor

/-! ## The symbols and the refs cursor -/

/-- **The symbols cursor** keeps nothing. -/
theorem symbols_sameScan (sql : Sqlite) (server : SymbolsRequest → List (Reply Symbol))
    (idxNum : Int32) (argv : List Value) (c d : SymbolsCursor) :
    (SymbolsCursor.methods sql).SameScan server idxNum argv c d :=
  VirtualTableCursor.sameScan_of_filter_eq rfl

/-- **The refs cursor** keeps nothing. Without a request it keeps its stream, but it is at its
end at once. -/
theorem refs_sameScan (sql : Sqlite) (server : RefsRequest → List (Reply Ref)) (idxNum : Int32)
    (argv : List Value) (c d : RefsCursor) :
    (RefsCursor.methods sql).SameScan server idxNum argv c d := by
  by_cases hidx : idxNum ≠ 0
  · refine VirtualTableCursor.sameScan_of_filter_eq ?_
    show RefsCursor.filter sql server idxNum argv c = RefsCursor.filter sql server idxNum argv d
    unfold RefsCursor.filter
    rw [if_pos hidx, if_pos hidx]
    rfl
  · -- the cursors may still differ in their old streams, but nothing reads these
    have hscan : ∀ e : RefsCursor, (RefsCursor.methods sql).scanOf server idxNum argv e =
        .ok (sqliteOk, none,
          fun n => (RefsCursor.methods sql).rows.observe n { e with eof := true }) := by
      intro e
      have hfilter : (RefsCursor.methods sql).filter server idxNum argv e =
          .ok (sqliteOk, none, { e with eof := true }) := by
        show RefsCursor.filter sql server idxNum argv e = _
        rw [RefsCursor.filter, if_neg hidx]
        rfl
      rw [VirtualTableCursor.scanOf, hfilter]
      rfl
    have hobserve : ∀ n, (RefsCursor.methods sql).rows.observe n { c with eof := true } =
        (RefsCursor.methods sql).rows.observe n { d with eof := true } :=
      ListSource.observe_of_done rfl rfl
    rw [VirtualTableCursor.SameScan, hscan, hscan, funext hobserve]

/-! ## The relations cursor -/

namespace RelationsCursor

variable {sql : Sqlite} {server : RelationsRequest → List (Reply Relation)} {idxNum : Int32}
  {argv : List Value} {subjects : List Str} {c d : RelationsCursor}

/-- The key of a call does not depend on the subjects before it. -/
theorem pushSubject_eq_map (subjects : List Str) : pushSubject sql idxNum argv subjects =
    (pushSubject sql idxNum argv []).map (subjects ++ ·) := by
  unfold pushSubject
  split_ifs
  · simp only [Bind.bind, Except.bind]
    cases argAt argv 0 with
    | error e => rfl
    | ok v => cases h : textOf sql v <;> simp [Except.map, pure, Except.pure, h]
  · simp [Except.map, pure, Except.pure]

/-- A call fails, or finds its key, whatever the subjects before it. -/
theorem pushSubject_cases (sql : Sqlite) (idxNum : Int32) (argv : List Value) :
    (idxNum ≠ 0 ∧ (∀ v ∈ argv[0]?, v = .null) ∧ ∃ e, pushSubject sql idxNum argv [] = .error e) ∨
      ¬ (idxNum ≠ 0 ∧ ∀ v ∈ argv[0]?, v = .null) ∧
        ∃ key, pushSubject sql idxNum argv [] = .ok key := by
  by_cases hidx : idxNum = 0
  · refine Or.inr ⟨fun h => h.1 hidx, [], ?_⟩
    rw [pushSubject, if_neg (not_not.mpr hidx)]
    rfl
  · cases hv : argv[0]? with
    | none =>
      refine Or.inl ⟨hidx, by simp, .undefined .argvBounds, ?_⟩
      rw [pushSubject, if_pos hidx, argAt, hv]
      rfl
    | some v =>
      by_cases hnull : v = .null
      · refine Or.inl ⟨hidx, by simpa using hnull, .undefined .nullString, ?_⟩
        rw [pushSubject, if_pos hidx]
        exact bind_textOf_argAt_null (by rw [hv, hnull])
      · exact Or.inr ⟨fun h => hnull (h.2 v rfl), _, pushSubject_key hidx hv hnull⟩

/-- What a call does depends on the kind of the cursor and its subjects. -/
theorem filter_congr (hkind : c.kind = d.kind) (hsubjects : c.subjects = d.subjects) :
    filter sql server idxNum argv c = filter sql server idxNum argv d := by
  obtain ⟨kind, eof, stream, subjects⟩ := c
  obtain ⟨kind', eof', stream', subjects'⟩ := d
  obtain rfl : kind = kind' := hkind
  obtain rfl : subjects = subjects' := hsubjects
  rfl

end RelationsCursor

open RelationsCursor

/-- The request of a scan shows the subjects before it. -/
theorem exists_scanOf_relations {sql : Sqlite} (server : RelationsRequest → List (Reply Relation))
    {idxNum : Int32} {argv : List Value} (c : RelationsCursor) {key : List Str}
    (hkey : pushSubject sql idxNum argv [] = .ok key) :
    ∃ obs, (methods sql).scanOf server idxNum argv c =
      .ok (sqliteOk, some ⟨c.subjects ++ key, some c.kind.value⟩, obs) := by
  have hpush : pushSubject sql idxNum argv c.subjects = .ok (c.subjects ++ key) := by
    rw [pushSubject_eq_map, hkey]
    rfl
  have hfilter : (methods sql).filter server idxNum argv c = _ := filter_eq hpush
  rw [VirtualTableCursor.scanOf, hfilter]
  exact ⟨_, rfl⟩

/-- **The relations cursor** gives the scan of a fresh one exactly when it has no subjects, or
when the call fails on either. -/
theorem relations_sameScan_iff (sql : Sqlite) {kind : RelationKind} {c : RelationsCursor}
    (hkind : c.kind = kind) (server : RelationsRequest → List (Reply Relation)) (idxNum : Int32)
    (argv : List Value) :
    (methods sql).SameScan server idxNum argv c { kind := kind } ↔
      c.subjects = [] ∨ (idxNum ≠ 0 ∧ ∀ v ∈ argv[0]?, v = .null) := by
  rcases pushSubject_cases sql idxNum argv with ⟨hidx, hnull, e, he⟩ | ⟨hkeyed, key, hkey⟩
  · have hfilter : ∀ d, (methods sql).filter server idxNum argv d = .error e := by
      intro d
      show RelationsCursor.filter sql server idxNum argv d = _
      rw [RelationsCursor.filter, pushSubject_eq_map, he]
      rfl
    exact iff_of_true (VirtualTableCursor.sameScan_of_filter_eq (by rw [hfilter, hfilter]))
      (Or.inr ⟨hidx, hnull⟩)
  · rw [or_iff_left hkeyed]
    constructor
    · intro h
      obtain ⟨obs, hc⟩ := exists_scanOf_relations server c hkey
      obtain ⟨obs', hd⟩ := exists_scanOf_relations server { kind := kind } hkey
      have heq := hc.symm.trans (h.trans hd)
      obtain ⟨⟨hnil, -⟩, -⟩ : (c.subjects = [] ∧ c.kind.value = kind.value) ∧ obs = obs' := by
        simpa using heq
      exact hnil
    · exact fun h => VirtualTableCursor.sameScan_of_filter_eq (filter_congr hkind h)

/-- **The sessions in which a scan does not depend on the past** are all those of the symbols
and the refs cursor. On a relations cursor they are those in which no call gave a subject, apart
from calls that fail for want of one. -/
theorem sameScan_fresh_iff (sql : Sqlite) :
    (∀ calls session, (symbolsTable sql).cursor.Run (symbolsTable sql).fresh calls session →
      ∀ server idxNum argv, (symbolsTable sql).cursor.SameScan server idxNum argv session.cursor
        (symbolsTable sql).fresh) ∧
    (∀ calls session, (refsTable sql).cursor.Run (refsTable sql).fresh calls session →
      ∀ server idxNum argv, (refsTable sql).cursor.SameScan server idxNum argv session.cursor
        (refsTable sql).fresh) ∧
    ∀ kind calls session,
      (relationsTable sql kind).cursor.Run (relationsTable sql kind).fresh calls session →
        ∀ server idxNum argv, (relationsTable sql kind).cursor.SameScan server idxNum argv
          session.cursor (relationsTable sql kind).fresh ↔
            Unkeyed calls ∨ (idxNum ≠ 0 ∧ ∀ v ∈ argv[0]?, v = .null) := by
  refine ⟨fun _ session _ server idxNum argv => symbols_sameScan sql server idxNum argv _ _,
    fun _ session _ server idxNum argv => refs_sameScan sql server idxNum argv _ _, ?_⟩
  intro kind calls session hrun server idxNum argv
  obtain ⟨hkind, hsubjects⟩ := run_keeps hrun
  rw [← keysOf_eq_nil_iff hrun, ← hsubjects]
  exact relations_sameScan_iff sql hkind server idxNum argv

/-- A call without a subject leaves the cursor as good as fresh. -/
theorem sameScan_fresh_unkeyed :
    (relationsTable .sample .baseOf).cursor.SameScan (fun _ => [.finalResult]) 1 [.text ['y']]
      ⟨.baseOf, true, some ⟨[], .finalResult⟩, []⟩ (relationsTable .sample .baseOf).fresh :=
  ((sameScan_fresh_iff .sample).2.2 .baseOf [.filter (fun _ => [.finalResult]) 0 []] ⟨_, _⟩
    (.snoc .nil ⟨trivial, rfl⟩) (fun _ => [.finalResult]) 1 [.text ['y']]).mpr
      (Or.inl fun server idxNum argv h => by
        obtain ⟨-, rfl, -⟩ := Call.filter.inj (List.mem_singleton.mp h)
        rfl)

/-- **An earlier subject leaks.** After the scan of `'x'`, the scan of `'y'` asks for `'x'`
too. -/
theorem not_sameScan_fresh_keyed :
    (relationsTable .sample .baseOf).cursor.Run (relationsTable .sample .baseOf).fresh
        [.filter (fun _ => [.finalResult]) 1 [.text ['x']]]
        ⟨⟨.baseOf, true, some ⟨[], .finalResult⟩, [['x']]⟩, some ⟨some ⟨[['x']], some 0⟩, [], 0⟩⟩ ∧
      ¬ (relationsTable .sample .baseOf).cursor.SameScan (fun _ => [.finalResult]) 1 [.text ['y']]
        ⟨.baseOf, true, some ⟨[], .finalResult⟩, [['x']]⟩
        (relationsTable .sample .baseOf).fresh := by
  refine ⟨.snoc .nil ⟨trivial, rfl⟩, fun h => ?_⟩
  rcases (relations_sameScan_iff .sample rfl _ _ _).mp h with h | ⟨-, h⟩
  · exact absurd h (by simp)
  · exact absurd (h (.text ['y']) rfl) (by simp)

end ClangQL
