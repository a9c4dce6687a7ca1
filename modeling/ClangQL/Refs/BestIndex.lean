import ClangQL.Sqlite.Query

/-!
# The planner of the refs table

`RefsTable::BestIndex` runs five loops, one each for an equality on `SymbolId`, `Declaration`,
`Definition`, `Reference` and `Spelled`. Every loop takes the first usable one and gives it the
next argument. The loop for `Declaration` sets the bit `CONSTR_DEF`, as does the one for
`Definition`; no loop sets `CONSTR_DECL`.

## Main definitions

* `RefsTable.check`: one loop, for a column and its bit
* `RefsTable.bestIndex`: the planner
* `RefsTable.chosen terms column`: the value of the first usable equality on a column
* `RefsTable.arguments terms`, `RefsTable.idxNumOf terms`: the abstract plan

## Main results

* `RefsTable.bestIndex_args`: the arguments are the chosen values, in the order of the columns
* `RefsTable.bestIndex_idxNum`: the plan number records which loops found a constraint
* `RefsTable.bestIndex_rechecks`: SQLite tests every constraint again
-/

namespace ClangQL

/-! ## The source -/

def constrId : Int32 := 1
def constrDef : Int32 := 2
def constrDecl : Int32 := 4
def constrRef : Int32 := 8
def constrSpe : Int32 := 16

namespace RefsTable

/-- The columns of the declared schema, with their affinities. -/
def schema : List (String × Affinity) :=
  [("SymbolId", .text), ("Declaration", .integer), ("Definition", .integer),
    ("Reference", .integer), ("Spelled", .integer), ("Path", .text), ("StartLine", .integer),
    ("StartCol", .integer), ("EndLine", .integer), ("EndCol", .integer)]

/-- The declared affinity of a column. -/
def affinity : Int → Affinity := affinityIn schema

/-- The condition of a loop, apart from `usable`. -/
def isEqualityOn (column : Int) (c : Constraint) : Bool :=
  c.op == indexConstraintEq && c.iColumn == column

/-- One loop of the planner: give the first usable equality on `column` the next argument and
set the bit `flag`; the loop for the id also sets the estimated cost. -/
def check (column : Int) (flag : Int32) (cost : Option ℕ) (s : IndexInfo × ℕ) : IndexInfo × ℕ :=
  match s.1.search (isEqualityOn column) with
  | some (i, _) =>
    let info := (s.1.setArgvIndex i (s.2 + 1)).setIdxNum (s.1.idxNum ||| flag)
    (cost.elim info info.setEstimatedCost, s.2 + 1)
  | none => s

/-- `// Check for id`. -/
def checkId := check 0 constrId (some 1)

/-- `// Check for def`. -/
def checkDef := check 1 constrDef none

/-- `// Check for decl`. -/
def checkDecl := check 2 constrDef none

/-- `// Check for ref`. -/
def checkRef := check 3 constrRef none

/-- `// Check for spelled`. -/
def checkSpelled := check 4 constrSpe none

/-- `RefsTable::BestIndex`. -/
def bestIndex (info : IndexInfo) : ResultCode × IndexInfo :=
  (sqliteOk, (checkSpelled (checkRef (checkDecl (checkDef (checkId (info, 0)))))).1)

theorem isEqualityOn_iff {column : Int} {c : Constraint} :
    isEqualityOn column c = true ↔ c.op = indexConstraintEq ∧ c.iColumn = column := by
  simp [isEqualityOn]

/-! ## One loop -/

open IndexInfo (firstPosition)

variable {cs : List Constraint} {column : Int} {is : List ℕ} {s : IndexInfo × ℕ}

/-- **One loop** consumes the first usable equality on its column, if there is one; the loops
before it were for smaller columns. -/
theorem progress_check (h : IndexInfo.Progress cs (·.iColumn < column) is s) (flag : Int32)
    (cost : Option ℕ) :
    IndexInfo.Progress cs (·.iColumn < column + 1)
      (is ++ (firstPosition (isEqualityOn column) cs).toList) (check column flag cost s) := by
  unfold check firstPosition
  rw [h.search_eq]
  cases hm : firstMatch (fun c => c.usable && isEqualityOn column c) cs with
  | none => simpa using h.mono fun c hc => show c.iColumn < column + 1 by omega
  | some m =>
    obtain ⟨i, c⟩ := m
    have hcol : c.iColumn = column :=
      (isEqualityOn_iff.mp (IndexInfo.wanted_of_firstMatch hm)).2
    have htake : IndexInfo.Progress cs (·.iColumn < column + 1) (is ++ [i])
        (s.1.setArgvIndex i (s.2 + 1), s.2 + 1) := by
      refine (h.take hm (by omega)).mono fun d hd => ?_
      rcases hd with hd | rfl <;> omega
    have hcons := htake.consumes.setIdxNum (s.1.idxNum ||| flag)
    cases cost with
    | none => exact ⟨h.constraints, hcons, htake.count, htake.taken⟩
    | some n => exact ⟨h.constraints, hcons.setEstimatedCost n, htake.count, htake.taken⟩

theorem rechecks_check (flag : Int32) (cost : Option ℕ) (j : ℕ) :
    (check column flag cost s).1.rechecks j = s.1.rechecks j := by
  unfold check
  split
  · rename_i i _ _
    have hset := IndexInfo.rechecks_setArgvIndex s.1 i (s.2 + 1) j
    cases cost <;> exact hset
  · rfl

@[simp] theorem check_aConstraint (flag : Int32) (cost : Option ℕ) :
    (check column flag cost s).1.aConstraint = s.1.aConstraint := by
  unfold check
  split
  · cases cost <;> rfl
  · rfl

theorem check_idxNum (flag : Int32) (cost : Option ℕ) :
    (check column flag cost s).1.idxNum = s.1.idxNum |||
      (if (firstPosition (isEqualityOn column) s.1.aConstraint).isSome then flag else 0) := by
  unfold check firstPosition IndexInfo.search
  cases firstMatch (fun c => c.usable && isEqualityOn column c) s.1.aConstraint with
  | none => simp
  | some m => cases cost <;> rfl

/-! ## The plan -/

/-- The value of the first usable equality on a column. -/
def chosen (terms : List Term) (column : Int) : Option Value :=
  (firstTerm (isEqualityOn column) terms).map (·.rhs)

/-- The chosen values of the four flag columns, in the order of the columns. -/
def flagArguments (terms : List Term) : List Value :=
  (chosen terms 1).toList ++ (chosen terms 2).toList ++ (chosen terms 3).toList ++
    (chosen terms 4).toList

/-- The abstract plan: the chosen values in the order of the columns. -/
def arguments (terms : List Term) : List Value :=
  (chosen terms 0).toList ++ flagArguments terms

/-- The plan number: a bit for each loop that found a constraint. -/
def idxNumOf (terms : List Term) : Int32 :=
  (if (chosen terms 0).isSome then constrId else 0) |||
    (if (chosen terms 1).isSome then constrDef else 0) |||
    (if (chosen terms 2).isSome then constrDef else 0) |||
    (if (chosen terms 3).isSome then constrRef else 0) |||
    (if (chosen terms 4).isSome then constrSpe else 0)

/-- The positions the planner consumes. -/
def consumed (cs : List Constraint) : List ℕ :=
  (firstPosition (isEqualityOn 0) cs).toList ++ (firstPosition (isEqualityOn 1) cs).toList ++
    (firstPosition (isEqualityOn 2) cs).toList ++ (firstPosition (isEqualityOn 3) cs).toList ++
      (firstPosition (isEqualityOn 4) cs).toList

theorem bestIndex_consumes (cs : List Constraint) :
    (bestIndex (.start cs)).2.Consumes (consumed cs) := by
  have h0 := IndexInfo.Progress.start cs (·.iColumn < 0)
  have h := progress_check (progress_check (progress_check (progress_check (progress_check h0
    constrId (some 1)) constrDef none) constrDef none) constrRef none) constrSpe none
  exact h.consumes

/-- SQLite tests every constraint again. -/
theorem bestIndex_rechecks (cs : List Constraint) (i : ℕ) :
    (bestIndex (.start cs)).2.rechecks i = true := by
  simp only [bestIndex, checkSpelled, checkRef, checkDecl, checkDef, checkId, rechecks_check,
    IndexInfo.rechecks_start]

/-- **The arguments** are the chosen values, in the order of the columns. -/
theorem bestIndex_args (terms : List Term) :
    (bestIndex (.start (terms.map (·.constraint)))).2.argv (terms.map (·.rhs)) =
      arguments terms := by
  rw [(bestIndex_consumes _).argv_eq, consumed]
  simp only [List.filterMap_append, filterMap_firstPosition, arguments, flagArguments, chosen,
    List.append_assoc]

/-- **The plan number** has the bit of each loop that found a constraint. -/
theorem bestIndex_idxNum (terms : List Term) :
    (bestIndex (.start (terms.map (·.constraint)))).2.idxNum = idxNumOf terms := by
  simp only [bestIndex, checkSpelled, checkRef, checkDecl, checkDef, checkId, check_idxNum,
    check_aConstraint, IndexInfo.start_aConstraint, IndexInfo.start_idxNum, isSome_firstPosition,
    chosen, Option.isSome_map, Int32.zero_or, idxNumOf]

end RefsTable

end ClangQL
