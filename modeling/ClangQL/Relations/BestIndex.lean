import ClangQL.Sqlite.Query

/-!
# The planner of the relation tables

`RelationsTable::BestIndex` looks for an equality on `Subject`, and that is all it gives to the
server.

## Main definitions

* `RelationsTable.isSubject`: what the search wants
* `RelationsTable.bestIndex`: the planner
* `RelationsTable.chosen`: the value of the chosen equality

## Main results

* `RelationsTable.bestIndex_args`, `RelationsTable.bestIndex_idxNum`: the argument and the plan
  number
* `RelationsTable.bestIndex_rechecks`: SQLite tests every constraint again
-/

namespace ClangQL

namespace RelationsTable

/-- The columns of the declared schema, with their affinities. -/
def schema : List (String × Affinity) := [("Subject", .text), ("Object", .text)]

/-- The declared affinity of a column. -/
def affinity : Int → Affinity := affinityIn schema

/-- The condition of the search, apart from `usable`. -/
def isSubject (c : Constraint) : Bool := c.iColumn == 0 && c.op == indexConstraintEq

theorem isSubject_iff {c : Constraint} :
    isSubject c = true ↔ c.iColumn = 0 ∧ c.op = indexConstraintEq := by simp [isSubject]

/-- `RelationsTable::BestIndex`. -/
def bestIndex (info : IndexInfo) : ResultCode × IndexInfo :=
  match info.search isSubject with
  | some (i, _) => (sqliteOk, ((info.setArgvIndex i 1).setEstimatedCost 1).setIdxNum 1)
  | none => (sqliteOk, info)

open IndexInfo (firstPosition)

/-- The value of the first usable equality on `Subject`. -/
def chosen (terms : List Term) : Option Value := (firstTerm isSubject terms).map (·.rhs)

variable {cs : List Constraint} {terms : List Term}

theorem bestIndex_of_subject {i : ℕ} {c : Constraint}
    (h : firstMatch (fun c => c.usable && isSubject c) cs = some (i, c)) :
    (bestIndex (.start cs)).2 =
      (((IndexInfo.start cs).setArgvIndex i 1).setEstimatedCost 1).setIdxNum 1 := by
  unfold bestIndex IndexInfo.search
  rw [IndexInfo.start_aConstraint, h]

theorem bestIndex_of_no_subject
    (h : firstMatch (fun c => c.usable && isSubject c) cs = none) :
    (bestIndex (.start cs)).2 = .start cs := by
  unfold bestIndex IndexInfo.search
  rw [IndexInfo.start_aConstraint, h]

theorem bestIndex_consumes (cs : List Constraint) :
    (bestIndex (.start cs)).2.Consumes (firstPosition isSubject cs).toList := by
  unfold firstPosition
  cases hm : firstMatch (fun c => c.usable && isSubject c) cs with
  | none =>
    rw [bestIndex_of_no_subject hm]
    exact IndexInfo.start_consumes cs
  | some m =>
    rw [bestIndex_of_subject (i := m.1) (c := m.2) hm]
    have h := (IndexInfo.start_consumes cs).setArgvIndex (firstMatch_lt (a := m.2) hm)
      List.not_mem_nil
    exact (h.setEstimatedCost 1).setIdxNum 1

/-- **The argument** is the chosen value. -/
theorem bestIndex_args (terms : List Term) :
    (bestIndex (.start (terms.map (·.constraint)))).2.argv (terms.map (·.rhs)) =
      (chosen terms).toList := by
  rw [(bestIndex_consumes _).argv_eq, filterMap_firstPosition, chosen]

/-- **The plan number** tells whether there is a chosen value. -/
theorem bestIndex_idxNum (terms : List Term) :
    (bestIndex (.start (terms.map (·.constraint)))).2.idxNum =
      if (chosen terms).isSome then 1 else 0 := by
  have hsome := isSome_firstPosition isSubject terms
  unfold firstPosition at hsome
  rw [Option.isSome_map] at hsome
  rw [chosen, Option.isSome_map, ← hsome]
  cases hm : firstMatch (fun c => c.usable && isSubject c) (terms.map (·.constraint)) with
  | none =>
    rw [bestIndex_of_no_subject hm]
    rfl
  | some m =>
    rw [bestIndex_of_subject (i := m.1) (c := m.2) hm]
    rfl

theorem bestIndex_rechecks (cs : List Constraint) (i : ℕ) :
    (bestIndex (.start cs)).2.rechecks i = true := by
  cases hm : firstMatch (fun c => c.usable && isSubject c) cs with
  | none =>
    rw [bestIndex_of_no_subject hm]
    exact IndexInfo.rechecks_start cs i
  | some m =>
    rw [bestIndex_of_subject (i := m.1) (c := m.2) hm]
    show ((IndexInfo.start cs).setArgvIndex m.1 1).rechecks i = true
    rw [IndexInfo.rechecks_setArgvIndex, IndexInfo.rechecks_start]

theorem bestIndex_ok (info : IndexInfo) : (bestIndex info).1 = sqliteOk := by
  unfold bestIndex
  split <;> rfl

end RelationsTable

end ClangQL
