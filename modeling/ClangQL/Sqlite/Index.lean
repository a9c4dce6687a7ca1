import Mathlib.Data.List.Nodup
import Mathlib.Data.List.Perm.Subperm
import ClangQL.Sqlite.Value
import ClangQL.Library.FirstMatch

/-!
# Index information

`xBestIndex` reads the constraints of a query from an `sqlite3_index_info` and writes the
position of each argument of `xFilter`, the tests SQLite may omit and a plan number into it.
The positions a planner hands out one after the other are the places of the constraints in
the list of consumed constraints: that list is the abstract plan, and the argument vector
SQLite builds is the list of its right-hand sides.

## Main definitions

* `Constraint`, `ConstraintUsage`, `IndexInfo`: `sqlite3_index_info` and its parts
* `IndexInfo.search`: a planner's loop over the constraints
* `IndexInfo.firstPosition`: the position at which such a loop stops
* `IndexInfo.argv`: the argument vector of a plan
* `IndexInfo.forwards`, `IndexInfo.rechecks`: what a plan does with a constraint
* `IndexInfo.Consumes info is`: the plan `info` consumes the constraints `is`, in this order
* `IndexInfo.Progress cs taken is s`: the state of a planner between two of its loops

## Main results

* `IndexInfo.Consumes.setArgvIndex`: the next position given to a further constraint
  appends it
* `IndexInfo.Consumes.argv_eq`: the argument vector reads off the consumed constraints
* `IndexInfo.Progress.take`: what one loop adds to the plan
-/

namespace ClangQL

/-- `sqlite3_index_constraint`: the term `column op expr`. The column is -1 for the rowid. -/
structure Constraint where
  iColumn : Int
  op : UInt8
  usable : Bool
  deriving DecidableEq

/-- `sqlite3_index_constraint_usage`. -/
structure ConstraintUsage where
  argvIndex : ℕ := 0
  omitted : Bool := false
  deriving DecidableEq

/-- The part of `sqlite3_index_info` the planners read and write. The cost is `none` while it
is SQLite's default. -/
structure IndexInfo where
  aConstraint : List Constraint
  aConstraintUsage : List ConstraintUsage
  idxNum : Int32
  estimatedCost : Option ℕ
  length_usage : aConstraintUsage.length = aConstraint.length

namespace IndexInfo

/-- The index information SQLite hands to a planner: all outputs are zero. -/
def start (cs : List Constraint) : IndexInfo where
  aConstraint := cs
  aConstraintUsage := cs.map fun _ => {}
  idxNum := 0
  estimatedCost := none
  length_usage := by simp

/-- `info->aConstraintUsage[i].argvIndex = n`. -/
def setArgvIndex (info : IndexInfo) (i n : ℕ) : IndexInfo :=
  { info with
    aConstraintUsage := info.aConstraintUsage.modify i fun u => { u with argvIndex := n }
    length_usage := by simp [info.length_usage] }

/-- `info->aConstraintUsage[i].omit = b`. -/
def setOmit (info : IndexInfo) (i : ℕ) (b : Bool) : IndexInfo :=
  { info with
    aConstraintUsage := info.aConstraintUsage.modify i fun u => { u with omitted := b }
    length_usage := by simp [info.length_usage] }

/-- `info->idxNum = n`. -/
def setIdxNum (info : IndexInfo) (n : Int32) : IndexInfo := { info with idxNum := n }

/-- `info->estimatedCost = n`. -/
def setEstimatedCost (info : IndexInfo) (n : ℕ) : IndexInfo :=
  { info with estimatedCost := some n }

section Fields

variable (cs : List Constraint)

@[simp] theorem start_aConstraint : (start cs).aConstraint = cs := rfl
@[simp] theorem start_idxNum : (start cs).idxNum = 0 := rfl

end Fields

/-- `for (i = 0; i < nConstraint; i++)`, with `continue` on unusable and unwanted constraints
and `break` at the first one wanted. -/
def search (info : IndexInfo) (wanted : Constraint → Bool) : Option (ℕ × Constraint) :=
  firstMatch (fun c => c.usable && wanted c) info.aConstraint

/-- The position of the first usable constraint a search loop wants. -/
def firstPosition (wanted : Constraint → Bool) (cs : List Constraint) : Option ℕ :=
  (firstMatch (fun c => c.usable && wanted c) cs).map Prod.fst

/-- The argument vector of a plan: its `k`-th entry is the right-hand side of the constraint
with `argvIndex = k + 1`. -/
def argv (info : IndexInfo) (rhs : List Value) : List Value :=
  (List.range info.aConstraint.length).filterMap fun k =>
    (info.aConstraintUsage.findIdx? fun u => u.argvIndex == k + 1).bind (rhs[·]?)

/-- The constraint at `i` is left to SQLite to test. -/
def rechecks (info : IndexInfo) (i : ℕ) : Bool :=
  !(info.aConstraintUsage[i]?.any (·.omitted))

/-- The constraint at `i` is given to `Filter` as an argument. -/
def forwards (info : IndexInfo) (i : ℕ) : Bool :=
  info.aConstraintUsage[i]?.any (0 < ·.argvIndex)

/-- What a search stops at is wanted. -/
theorem wanted_of_firstMatch {wanted : Constraint → Bool} {cs : List Constraint} {i : ℕ}
    {c : Constraint} (h : firstMatch (fun c => c.usable && wanted c) cs = some (i, c)) :
    wanted c = true := by
  have haccepts := firstMatch_accepts h
  rw [Bool.and_eq_true] at haccepts
  exact haccepts.2

theorem rechecks_start (cs : List Constraint) (i : ℕ) : (start cs).rechecks i = true := by
  simp only [rechecks, start, List.getElem?_map]
  cases cs[i]? <;> rfl

theorem rechecks_setArgvIndex (info : IndexInfo) (i n j : ℕ) :
    (info.setArgvIndex i n).rechecks j = info.rechecks j := by
  simp only [rechecks, setArgvIndex, List.getElem?_modify]
  cases info.aConstraintUsage[j]? with
  | none => rfl
  | some u => by_cases h : i = j <;> simp [h]

theorem rechecks_setOmit (info : IndexInfo) (i : ℕ) (b : Bool) (j : ℕ) :
    (info.setOmit i b).rechecks j =
      if i = j ∧ j < info.aConstraint.length then !b else info.rechecks j := by
  simp only [rechecks, setOmit, List.getElem?_modify, ← info.length_usage]
  cases h : info.aConstraintUsage[j]? with
  | none =>
    have hj := List.getElem?_eq_none_iff.mp h
    rw [if_neg (by omega)]
    rfl
  | some u =>
    have hj := (List.getElem?_eq_some_iff.mp h).1
    by_cases hi : i = j <;> simp [hi, hj]

/-! ## The consumed constraints -/

/-- The plan consumes the constraints at the positions `is`, the argument of each at its place
in `is`, and no other constraint. -/
structure Consumes (info : IndexInfo) (is : List ℕ) : Prop where
  nodup : is.Nodup
  lt : ∀ i ∈ is, i < info.aConstraint.length
  argvIndex : ∀ i u, info.aConstraintUsage[i]? = some u →
    u.argvIndex = if i ∈ is then is.idxOf i + 1 else 0

theorem start_consumes (cs : List Constraint) : (start cs).Consumes [] where
  nodup := List.nodup_nil
  lt := by simp
  argvIndex i u h := by
    obtain ⟨-, rfl⟩ : (∃ c, cs[i]? = some c) ∧ {} = u := by
      simpa only [start, List.getElem?_map, Option.map_eq_some_iff, exists_and_right] using h
    simp

namespace Consumes

variable {info : IndexInfo} {is : List ℕ}

theorem congr {info' : IndexInfo} (h : info.Consumes is)
    (hc : info'.aConstraint = info.aConstraint)
    (hu : ∀ i : ℕ, info'.aConstraintUsage[i]?.map (·.argvIndex) =
      info.aConstraintUsage[i]?.map (·.argvIndex)) :
    info'.Consumes is where
  nodup := h.nodup
  lt i hi := hc ▸ h.lt i hi
  argvIndex i u hi := by
    obtain ⟨v, hv, he⟩ : ∃ v, info.aConstraintUsage[i]? = some v ∧ v.argvIndex = u.argvIndex := by
      simpa [hi] using (hu i).symm
    rw [← he, h.argvIndex i v hv]

theorem setOmit (h : info.Consumes is) (i : ℕ) (b : Bool) : (info.setOmit i b).Consumes is := by
  refine h.congr rfl fun j => ?_
  simp only [IndexInfo.setOmit, List.getElem?_modify]
  split_ifs <;> simp [Function.comp_def]

theorem setIdxNum (h : info.Consumes is) (n : Int32) : (info.setIdxNum n).Consumes is :=
  h.congr rfl fun _ => rfl

theorem setEstimatedCost (h : info.Consumes is) (n : ℕ) :
    (info.setEstimatedCost n).Consumes is :=
  h.congr rfl fun _ => rfl

/-- Giving the next position to a constraint that has none appends it to the plan. -/
theorem setArgvIndex (h : info.Consumes is) {i : ℕ} (hi : i < info.aConstraint.length)
    (hnew : i ∉ is) : (info.setArgvIndex i (is.length + 1)).Consumes (is ++ [i]) where
  nodup := List.nodup_append.mpr ⟨h.nodup, List.nodup_singleton i, fun j hj k hk he =>
    hnew (List.mem_singleton.mp hk ▸ he ▸ hj)⟩
  lt j hj := by
    rcases List.mem_append.mp hj with hj | hj
    · exact h.lt j hj
    · rwa [List.mem_singleton.mp hj]
  argvIndex j u hu := by
    simp only [IndexInfo.setArgvIndex, List.getElem?_modify] at hu
    obtain ⟨v, hv, rfl⟩ := Option.map_eq_some_iff.mp hu
    by_cases he : i = j
    · subst he
      simp [List.idxOf_append_of_notMem hnew]
    · simp only [if_neg he, h.argvIndex j v hv]
      by_cases hj : j ∈ is
      · simp [hj, List.idxOf_append_of_mem hj]
      · simp [hj, Ne.symm he]

/-- The usage of a constraint shows its place in the plan. -/
theorem findIdx?_usage (h : info.Consumes is) (k : ℕ) :
    (info.aConstraintUsage.findIdx? fun u => u.argvIndex == k + 1) = is[k]? := by
  cases hk : is[k]? with
  | some i =>
    obtain ⟨hlt, rfl⟩ := List.getElem?_eq_some_iff.mp hk
    have hi : is[k] < info.aConstraintUsage.length :=
      info.length_usage ▸ h.lt _ (List.getElem_mem hlt)
    refine List.findIdx?_eq_some_iff_getElem.mpr ⟨hi, ?_, fun j hj => ?_⟩
    · rw [h.argvIndex _ _ (List.getElem?_eq_getElem hi), if_pos (List.getElem_mem hlt),
        h.nodup.idxOf_getElem]
      simp
    · have hj' : j < info.aConstraintUsage.length := hj.trans hi
      rw [h.argvIndex _ _ (List.getElem?_eq_getElem hj')]
      split_ifs with hm
      · intro he
        have hjk : is.idxOf j = k := by simpa using he
        subst hjk
        exact absurd (List.getElem_idxOf (List.idxOf_lt_length_iff.mpr hm)) hj.ne'
      · simp
  | none =>
    refine List.findIdx?_eq_none_iff.mpr fun u hu => ?_
    obtain ⟨j, hj, rfl⟩ := List.getElem_of_mem hu
    rw [h.argvIndex _ _ (List.getElem?_eq_getElem hj)]
    have hlen : is.length ≤ k := List.getElem?_eq_none_iff.mp hk
    split_ifs with hm
    · have := List.idxOf_lt_length_iff.mpr hm
      simp only [beq_eq_false_iff_ne]
      omega
    · simp

/-- The consumed constraints are the ones given to `Filter`. -/
theorem forwards_iff (h : info.Consumes is) (i : ℕ) : info.forwards i = true ↔ i ∈ is := by
  unfold forwards
  cases hu : info.aConstraintUsage[i]? with
  | none =>
    have hlen := List.getElem?_eq_none_iff.mp hu
    rw [info.length_usage] at hlen
    refine iff_of_false (by simp) fun hi => ?_
    exact absurd (h.lt i hi) (by omega)
  | some u =>
    rw [Option.any_some, decide_eq_true_iff, h.argvIndex i u hu]
    split_ifs with hi
    · exact iff_of_true (Nat.succ_pos _) hi
    · exact iff_of_false (lt_irrefl 0) hi

/-- A plan consumes each constraint at most once, so it has no more arguments than there are
constraints. -/
theorem length_le (h : info.Consumes is) : is.length ≤ info.aConstraint.length := by
  have hsub : is ⊆ List.range info.aConstraint.length := fun i hi =>
    List.mem_range.mpr (h.lt i hi)
  simpa using (h.nodup.subperm hsub).length_le

theorem filterMap_range_getElem? (f : ℕ → Option Value) {l : List ℕ} {n : ℕ}
    (h : l.length ≤ n) : ((List.range n).filterMap fun k => l[k]?.bind f) = l.filterMap f := by
  induction l generalizing n with
  | nil => simp
  | cons i l ih =>
    obtain ⟨m, rfl⟩ : ∃ m, n = m + 1 := Nat.exists_eq_succ_of_ne_zero (by simp at h; omega)
    have hl : l.length ≤ m := by simpa using h
    simp [List.range_succ_eq_map, List.filterMap_cons, List.filterMap_map, ih hl]

/-- **The argument vector** holds the right-hand sides of the consumed constraints, in the
order of the plan. -/
theorem argv_eq (h : info.Consumes is) (rhs : List Value) :
    info.argv rhs = is.filterMap (rhs[·]?) := by
  unfold argv
  simp only [h.findIdx?_usage]
  exact filterMap_range_getElem? _ h.length_le

end Consumes

/-! ## Search loops in sequence -/

/-- The state of a planner between two of its loops: the positions `is` are consumed so far,
all of them of constraints that are `taken`, and the counter of arguments has passed them. -/
structure Progress (cs : List Constraint) (taken : Constraint → Prop) (is : List ℕ)
    (s : IndexInfo × ℕ) : Prop where
  constraints : s.1.aConstraint = cs
  consumes : s.1.Consumes is
  count : s.2 = is.length
  taken : ∀ i ∈ is, ∀ c, cs[i]? = some c → taken c

namespace Progress

variable {cs : List Constraint} {taken taken' : Constraint → Prop} {is : List ℕ}
  {s : IndexInfo × ℕ} {wanted : Constraint → Bool} {i : ℕ} {c : Constraint}

theorem start (cs : List Constraint) (taken : Constraint → Prop) :
    Progress cs taken [] (.start cs, 0) :=
  ⟨rfl, start_consumes cs, rfl, fun _ hi => absurd hi List.not_mem_nil⟩

theorem mono (h : Progress cs taken is s) (hle : ∀ c, taken c → taken' c) :
    Progress cs taken' is s :=
  ⟨h.constraints, h.consumes, h.count, fun i hi c hc => hle c (h.taken i hi c hc)⟩

theorem search_eq (h : Progress cs taken is s) :
    s.1.search wanted = firstMatch (fun c => c.usable && wanted c) cs := by
  rw [search, h.constraints]

/-- **One loop** consumes the first constraint it wants. A constraint not taken before is not
consumed before, so it gets an argument of its own. -/
theorem take (h : Progress cs taken is s)
    (hm : firstMatch (fun c => c.usable && wanted c) cs = some (i, c)) (hnew : ¬ taken c) :
    Progress cs (fun d => taken d ∨ d = c) (is ++ [i])
      (s.1.setArgvIndex i (s.2 + 1), s.2 + 1) where
  constraints := h.constraints
  consumes := by
    have hi : i ∉ is := fun hi => hnew (h.taken i hi c (firstMatch_getElem? hm))
    rw [h.count]
    exact h.consumes.setArgvIndex (h.constraints ▸ firstMatch_lt hm) hi
  count := by rw [h.count, List.length_append, List.length_singleton]
  taken j hj d hd := by
    rcases List.mem_append.mp hj with hj | hj
    · exact Or.inl (h.taken j hj d hd)
    · rw [List.mem_singleton.mp hj, firstMatch_getElem? hm] at hd
      exact Or.inr (Option.some.inj hd).symm

end Progress

end IndexInfo

end ClangQL
