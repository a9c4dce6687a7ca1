import ClangQL.Refs.Reads
import ClangQL.Symbols.Reads

/-!
# Well-formed plans

A planner and the `Filter` of its cursor share the plan number and the order of the arguments
only. A plan is well formed when it numbers its arguments without a gap, takes them from usable
constraints and omits no other test; it is decoded in bounds when `Filter` reads no position
beyond its arguments, and none twice.

## Main definitions

* `IndexInfo.WellFormed cs info n`: a plan on the constraints `cs` with `n` arguments
* `ReadsInBounds n positions`: the positions read are below `n`, and each is read once

## Main results

* `IndexInfo.Consumes.wellFormed`: a plan that consumes usable constraints is well formed
* `plans_wellFormed`: the plans of the symbols and of the refs table are well formed, and
  decoded in bounds
-/

namespace ClangQL

/-- A well-formed plan on the constraints `cs` with `n` arguments. -/
structure IndexInfo.WellFormed (cs : List Constraint) (info : IndexInfo) (n : ℕ) : Prop where
  /-- No argument has a number beyond `n`, … -/
  argvIndex_le : ∀ (i : ℕ) u, info.aConstraintUsage[i]? = some u → u.argvIndex ≤ n
  /-- … and each number from 1 to `n` is that of one constraint. -/
  existsUnique : ∀ k, 0 < k → k ≤ n → ∃! i : ℕ, ∃ u, info.aConstraintUsage[i]? = some u ∧
    u.argvIndex = k
  usable : ∀ (i : ℕ) u, info.aConstraintUsage[i]? = some u → 0 < u.argvIndex →
    ∃ c, cs[i]? = some c ∧ c.usable = true
  omitted : ∀ (i : ℕ) u, info.aConstraintUsage[i]? = some u → u.omitted = true → 0 < u.argvIndex

/-- The positions read are below `n`, and each is read once. -/
def ReadsInBounds (n : ℕ) (positions : List ℕ) : Prop :=
  positions.Nodup ∧ ∀ p ∈ positions, p < n

variable {cs : List Constraint} {info : IndexInfo} {is : List ℕ}

/-- **A plan is well formed** when it consumes usable constraints and omits no other test. -/
theorem IndexInfo.Consumes.wellFormed (h : info.Consumes is)
    (husable : ∀ i ∈ is, ∃ c, cs[i]? = some c ∧ c.usable = true)
    (homitted : ∀ i, info.rechecks i = false → i ∈ is) : info.WellFormed cs is.length where
  argvIndex_le i u hu := by
    rw [h.argvIndex i u hu]
    split_ifs with hi
    · exact List.idxOf_lt_length_iff.mpr hi
    · exact Nat.zero_le _
  existsUnique k hpos hle := by
    have hk : k - 1 < is.length := by omega
    have hmem := List.getElem_mem hk
    obtain ⟨u, hu⟩ : ∃ u, info.aConstraintUsage[is[k - 1]]? = some u :=
      ⟨_, List.getElem?_eq_getElem (info.length_usage ▸ h.lt _ hmem)⟩
    refine ⟨is[k - 1], ⟨u, hu, ?_⟩, fun i hi => ?_⟩
    · rw [h.argvIndex _ _ hu, if_pos hmem, h.nodup.idxOf_getElem]
      omega
    · obtain ⟨v, hv, hvk⟩ := hi
      rw [h.argvIndex i v hv] at hvk
      split_ifs at hvk with hi
      · obtain rfl : k = is.idxOf i + 1 := hvk.symm
        simp only [Nat.add_sub_cancel, List.getElem_idxOf]
      · omega
  usable i u hu hpos := by
    rw [h.argvIndex i u hu] at hpos
    split_ifs at hpos with hi
    · exact husable i hi
    · exact absurd hpos (lt_irrefl 0)
  omitted i u hu ho := by
    have hi : i ∈ is := homitted i (by simp [IndexInfo.rechecks, hu, ho])
    rw [h.argvIndex i u hu, if_pos hi]
    exact Nat.succ_pos _

/-- A search stops at a usable constraint. -/
theorem IndexInfo.usable_of_mem_firstPosition {wanted : Constraint → Bool} {i : ℕ}
    (h : i ∈ (firstPosition wanted cs).toList) : ∃ c, cs[i]? = some c ∧ c.usable = true := by
  rw [Option.mem_toList, firstPosition, Option.map_eq_some_iff] at h
  obtain ⟨⟨j, c⟩, hm, rfl⟩ := h
  have haccepts := firstMatch_accepts hm
  rw [Bool.and_eq_true] at haccepts
  exact ⟨c, firstMatch_getElem? hm, haccepts.1⟩

theorem SymbolsTable.usable_of_mem_consumed {i : ℕ} (h : i ∈ SymbolsTable.consumed cs) :
    ∃ c, cs[i]? = some c ∧ c.usable = true := by
  unfold SymbolsTable.consumed at h
  split at h
  · next j hj =>
    obtain rfl := List.mem_singleton.mp h
    exact IndexInfo.usable_of_mem_firstPosition (by rw [hj]; exact List.mem_singleton_self i)
  · simp only [List.mem_append] at h
    rcases h with (h | h) | h
    all_goals exact IndexInfo.usable_of_mem_firstPosition h

theorem RefsTable.usable_of_mem_consumed {i : ℕ} (h : i ∈ RefsTable.consumed cs) :
    ∃ c, cs[i]? = some c ∧ c.usable = true := by
  simp only [RefsTable.consumed, List.mem_append] at h
  rcases h with (((h | h) | h) | h) | h
  all_goals exact IndexInfo.usable_of_mem_firstPosition h

theorem SymbolsTable.bestIndex_wellFormed (cs : List Constraint) :
    (SymbolsTable.bestIndex (.start cs)).2.WellFormed cs (SymbolsTable.consumed cs).length :=
  (SymbolsTable.bestIndex_consumes cs).wellFormed (fun _ => usable_of_mem_consumed)
    fun i hi => ((SymbolsTable.bestIndex_rechecks cs i).mp hi).1

theorem RefsTable.bestIndex_wellFormed (cs : List Constraint) :
    (RefsTable.bestIndex (.start cs)).2.WellFormed cs (RefsTable.consumed cs).length :=
  (RefsTable.bestIndex_consumes cs).wellFormed (fun _ => usable_of_mem_consumed)
    fun i hi => absurd (hi.symm.trans (RefsTable.bestIndex_rechecks cs i)) (by simp)

/-! ## The number of arguments -/

/-- Constraints as the terms of a query. -/
def unbound (cs : List Constraint) : List Term := cs.map fun c => ⟨c, .null⟩

theorem map_constraint_unbound (cs : List Constraint) :
    (unbound cs).map (·.constraint) = cs := by
  rw [unbound, List.map_map]
  exact List.map_id cs

/-- A plan has an argument for each constraint it consumes. -/
theorem IndexInfo.Consumes.length_argv (h : info.Consumes is)
    (hc : info.aConstraint = cs) (rhs : List Value) (hrhs : rhs.length = cs.length) :
    (info.argv rhs).length = is.length := by
  rw [h.argv_eq, List.filterMap_length_eq_length]
  intro i hi
  have hlt : i < rhs.length := hrhs ▸ hc ▸ h.lt i hi
  rw [List.getElem?_eq_getElem hlt]
  rfl

theorem SymbolsTable.bestIndex_aConstraint (info : IndexInfo) :
    (SymbolsTable.bestIndex info).2.aConstraint = info.aConstraint := by
  unfold SymbolsTable.bestIndex
  split
  · rfl
  · simp only [searchByPath, searchByScope, searchByName, search_aConstraint]

theorem RefsTable.bestIndex_aConstraint (info : IndexInfo) :
    (RefsTable.bestIndex info).2.aConstraint = info.aConstraint := by
  simp only [RefsTable.bestIndex, checkSpelled, checkRef, checkDecl, checkDef, checkId,
    check_aConstraint]

theorem SymbolsTable.length_arguments (cs : List Constraint) :
    (SymbolsTable.arguments (unbound cs)).length = (SymbolsTable.consumed cs).length := by
  have hargs := SymbolsTable.bestIndex_args (unbound cs)
  rw [map_constraint_unbound] at hargs
  rw [← hargs]
  exact (SymbolsTable.bestIndex_consumes cs).length_argv (SymbolsTable.bestIndex_aConstraint _) _
    (by simp [unbound])

theorem RefsTable.length_arguments (cs : List Constraint) :
    (RefsTable.arguments (unbound cs)).length = (RefsTable.consumed cs).length := by
  have hargs := RefsTable.bestIndex_args (unbound cs)
  rw [map_constraint_unbound] at hargs
  rw [← hargs]
  exact (RefsTable.bestIndex_consumes cs).length_argv (RefsTable.bestIndex_aConstraint _) _
    (by simp [unbound])

/-! ## Plans and their decoding -/

/-- **The plans of both tables are well formed and decoded in bounds**: whatever its arguments
are, `Filter` reads positions below their number, each at most once. -/
theorem plans_wellFormed (sql : Sqlite) (cs : List Constraint) :
    (∃ n, (SymbolsTable.bestIndex (.start cs)).2.WellFormed cs n ∧
      ∀ argv : List Value, argv.length = n →
        ReadsInBounds n (SymbolsCursor.positionsRead sql
          (SymbolsTable.bestIndex (.start cs)).2.idxNum argv) ∧
        ∀ server c, SymbolsCursor.filter sql server (SymbolsTable.bestIndex (.start cs)).2.idxNum
          argv c ≠ .error (.undefined .argvBounds)) ∧
    (∃ n, (RefsTable.bestIndex (.start cs)).2.WellFormed cs n ∧
      ∀ argv : List Value, argv.length = n →
        ReadsInBounds n (RefsCursor.positionsRead sql
          (RefsTable.bestIndex (.start cs)).2.idxNum argv) ∧
        ∀ server c, RefsCursor.filter sql server (RefsTable.bestIndex (.start cs)).2.idxNum
          argv c ≠ .error (.undefined .argvBounds)) := by
  constructor
  · have hidx := SymbolsTable.bestIndex_idxNum (unbound cs)
    rw [map_constraint_unbound] at hidx
    refine ⟨_, SymbolsTable.bestIndex_wellFormed cs, fun argv hlen => ?_⟩
    have hargs : argv.length = _ := hlen.trans (SymbolsTable.length_arguments cs).symm
    rw [hidx, ← hlen]
    exact ⟨SymbolsCursor.positionsRead_plan sql _ hargs,
      SymbolsCursor.filter_ne_argvBounds _ hargs⟩
  · have hidx := RefsTable.bestIndex_idxNum (unbound cs)
    rw [map_constraint_unbound] at hidx
    refine ⟨_, RefsTable.bestIndex_wellFormed cs, fun argv hlen => ?_⟩
    have hargs : argv.length = _ := hlen.trans (RefsTable.length_arguments cs).symm
    rw [hidx, ← hlen]
    exact ⟨RefsCursor.positionsRead_plan sql _ hargs, RefsCursor.filter_ne_argvBounds _ hargs⟩

end ClangQL
