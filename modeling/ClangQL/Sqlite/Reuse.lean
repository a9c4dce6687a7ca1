import ClangQL.Sqlite.Query

/-!
# Reused cursors

SQLite opens the inner cursor of a join once and filters it again for each outer row. A scan to
its end leaves the cursor in the state in which the next `Filter` finds it, and that state is one
that some session of the cursor reaches.

## Main definitions

* `VirtualTable.ScansTo`: a scan, with the cursor it leaves
* `VirtualTable.Reached`: the cursors of sessions

## Main results

* `VirtualTable.exists_scansTo_iff`: every scan leaves a cursor
* `VirtualTable.reached_scansTo`: a scan of a cursor of a session leaves another
-/

namespace ClangQL

namespace VirtualTable

variable {σ Req M : Type} (T : VirtualTable σ Req M)

/-- Under the plan of the query, the cursor `c` scans exactly these rows, and is then `c'`. -/
def ScansTo (server : Req → List (Reply M)) (terms : List Term) (c : σ) (rows : List Row)
    (c' : σ) : Prop :=
  (T.bestIndex (.start (terms.map (·.constraint)))).1 = sqliteOk ∧
    ∃ req d, T.cursor.filter server (T.plan terms).idxNum (T.args terms) c =
      .ok (sqliteOk, req, d) ∧ T.cursor.rows.Walks rows d c'

/-- The cursor of some session. -/
def Reached (c : σ) : Prop :=
  ∃ calls session, T.cursor.Run T.fresh calls session ∧ session.cursor = c

variable {T} {server : Req → List (Reply M)} {terms : List Term} {c c' : σ} {rows : List Row}

theorem exists_scansTo_iff :
    (∃ c', T.ScansTo server terms c rows c') ↔ T.Scans server terms c rows := by
  constructor
  · rintro ⟨c', hplan, req, d, hf, hwalks⟩
    exact ⟨hplan, req, d, hf, ListSource.exists_drain_iff.mpr
      (ListSource.exists_walks_iff.mp ⟨c', hwalks⟩)⟩
  · rintro ⟨hplan, req, d, hf, hdrain⟩
    obtain ⟨c', hwalks⟩ := ListSource.exists_walks_iff.mpr (ListSource.exists_drain_iff.mp hdrain)
    exact ⟨c', hplan, req, d, hf, hwalks⟩

theorem reached_fresh : T.Reached T.fresh := ⟨[], ⟨T.fresh, none⟩, .nil, rfl⟩

/-- The steps of a walk are calls of `Next`. -/
theorem reached_walks {calls : List (Call Req M)} {s : Session σ Req M}
    (hrun : T.cursor.Run T.fresh calls s) (hscan : s.scan.isSome)
    (h : T.cursor.rows.Walks rows s.cursor c') : T.Reached c' := by
  induction rows generalizing calls s with
  | nil =>
    obtain ⟨-, rfl⟩ := h
    exact ⟨calls, s, hrun, rfl⟩
  | cons row rows ih =>
    obtain ⟨hdone, -, d, hd, hrows⟩ := h
    have hnext := T.cursor.advance_eq_some.mp hd
    have hstep : T.cursor.Step s .next
        ⟨d, s.scan.map fun scan => { scan with pos := scan.pos + 1 }⟩ := by
      refine ⟨⟨hscan, hdone⟩, ?_⟩
      rw [VirtualTableCursor.perform, hnext]
      rfl
    exact ih (hrun.snoc hstep) (by rwa [Option.isSome_map]) hrows

/-- **A cursor stays reusable**: a scan of a cursor of a session leaves a cursor of a session. -/
theorem reached_scansTo (hc : T.Reached c) (h : T.ScansTo server terms c rows c') :
    T.Reached c' := by
  obtain ⟨calls, s, hrun, rfl⟩ := hc
  obtain ⟨-, req, d, hf, hwalks⟩ := h
  have hstep : T.cursor.Step s (.filter server (T.plan terms).idxNum (T.args terms))
      ⟨d, some ⟨req, (req.map fun r => results (server r)).getD [], 0⟩⟩ := by
    refine ⟨trivial, ?_⟩
    rw [VirtualTableCursor.perform, hf]
    rfl
  exact reached_walks (hrun.snoc hstep) rfl hwalks

end VirtualTable

end ClangQL
