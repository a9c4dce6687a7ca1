import ClangQL.Refs.Completeness

/-!
# Scans of the refs table without an id

`RefsCursor::Filter` makes no request for plan number 0, and takes any other plan number for
one with an id. A usable equality on a kind column alone gives such a plan: its request has no
id, and the rows of the replies to it read the first element of an empty list.

## Main definitions

* `filterUnder`: the call of `Filter` under the plan of a query
* `EndsAtOnce`: the scan has no row, and no call of it reads the id of a request without ids

## Main results

* `idxNumOf_eq_zero_iff`: the plans with number 0
* `unkeyed_endsAtOnce_iff`: the scans without an id that end at once
-/

namespace ClangQL

open RefsTable RefsCursor

/-- `Filter` under the plan of a query, met by these replies. -/
def filterUnder (sql : Sqlite) (terms : List Term) (rs : List (Reply Ref)) :
    Call RefsRequest Ref :=
  .filter (fun _ => rs) ((refsTable sql).plan terms).idxNum ((refsTable sql).args terms)

/-- The scan ends before its first row, and no call SQLite may make in it evaluates `ids(0)` on
an empty list of ids. -/
structure EndsAtOnce (sql : Sqlite) (s : Session RefsCursor RefsRequest Ref) : Prop where
  eof : (refsTable sql).cursor.eof s.cursor = true
  safe : ∀ calls t, LabelledRun (refsTable sql).cursor.Step s calls t →
    (∀ call ∈ calls, VirtualTableCursor.startsScan call = false) →
      ∀ call, (refsTable sql).cursor.Allowed t call →
        (refsTable sql).cursor.perform t call ≠ .error (.undefined .emptyIds)

variable {sql : Sqlite} {terms : List Term} {rs : List (Reply Ref)}
  {s : Session RefsCursor RefsRequest Ref}

/-- At the end of a scan only `Filter` and `Eof` are left to call. -/
theorem endsAtOnce_iff : EndsAtOnce sql s ↔ (refsTable sql).cursor.eof s.cursor = true := by
  constructor
  · exact EndsAtOnce.eof
  · intro heof
    refine ⟨heof, fun calls t hrun hcalls call hallowed hstop => ?_⟩
    obtain rfl := VirtualTableCursor.eq_of_run_of_eof hrun heof hcalls
    cases call with
    | filter server idxNum argv =>
      exact filter_failsIn.ne_error (by simp [ArgumentStop]) (Except.map_eq_error.mp hstop)
    | eof => exact absurd hstop (by simp [VirtualTableCursor.perform])
    | next => exact absurd (hallowed.2.symm.trans heof) (by simp)
    | column i => exact absurd (hallowed.2.symm.trans heof) (by simp)
    | rowId => exact absurd (hallowed.2.symm.trans heof) (by simp)

/-- The plan number is 0 when no search found a constraint. -/
theorem idxNumOf_eq_zero_iff (terms : List Term) :
    idxNumOf terms = 0 ↔ ∀ column ∈ [0, 1, 2, 3, 4], chosen terms column = none := by
  simp only [List.forall_mem_cons, List.not_mem_nil, false_implies, implies_true, and_true,
    ← Option.not_isSome_iff_eq_none]
  unfold idxNumOf
  generalize (chosen terms 0).isSome = b₀, (chosen terms 1).isSome = b₁,
    (chosen terms 2).isSome = b₂, (chosen terms 3).isSome = b₃, (chosen terms 4).isSome = b₄
  -- 32 cases: which of the five searches found a constraint
  revert b₀ b₁ b₂ b₃ b₄
  decide

/-- The first reply ends the scan when it is no result. -/
theorem open_next_eq_false_iff : (ResultStream.open rs).next.1 = false ↔ results rs = [] := by
  unfold ResultStream.open ResultStream.next results
  rcases rs with _ | ⟨_ | _ | _, rs⟩ <;> simp [Reply.hasStreamResult]

/-- **The scans without an id that end at once.** Without a usable equality on `SymbolId`, the
scan has no row, and reads no id, exactly when there is no usable equality on a kind column
either, or the server sends no result before its first other message. -/
theorem unkeyed_endsAtOnce_iff (sql : Sqlite) {terms : List Term}
    (hkey : ∀ t ∈ terms, t.constraint.usable = true → isEqualityOn 0 t.constraint = false)
    (rs : List (Reply Ref)) (s : Session RefsCursor RefsRequest Ref) :
    (∃ t, (refsTable sql).cursor.perform s (filterUnder sql terms rs) = .ok t ∧
      EndsAtOnce sql t) ↔
        (∀ column ∈ [1, 2, 3, 4], ∀ t ∈ terms, t.constraint.usable = true →
          isEqualityOn column t.constraint = false) ∨ results rs = [] := by
  have hid : chosen terms 0 = none := chosen_eq_none_iff.mpr hkey
  simp only [← chosen_eq_none_iff, endsAtOnce_iff]
  have hzero := idxNumOf_eq_zero_iff terms
  rw [List.forall_mem_cons, and_iff_right hid] at hzero
  rw [← hzero, ← open_next_eq_false_iff]
  have hperform : (refsTable sql).cursor.perform s (filterUnder sql terms rs) =
      (RefsCursor.filter sql (fun _ => rs) (idxNumOf terms) (arguments terms) s.cursor).map
        fun (_, req, c) => ⟨c, some ⟨req, (req.map fun _ => results rs).getD [], 0⟩⟩ := by
    rw [filterUnder, refsTable_idxNum, refsTable_args]
    rfl
  rw [hperform]
  by_cases hidx : idxNumOf terms = 0
  · rw [RefsCursor.filter, if_neg (not_not.mpr hidx)]
    exact iff_of_true ⟨_, rfl, rfl⟩ (Or.inl hidx)
  · have hne : chosen terms 0 ≠ some .null := by
      rw [hid]
      simp
    obtain ⟨d, hd, -⟩ := decode_plan sql hne
    rw [filter_of_decode hidx hd, or_iff_right hidx]
    constructor
    · rintro ⟨t, ht, heof⟩
      obtain rfl := Except.ok.inj ht
      have hend : (!(ResultStream.open rs).next.1) = true := heof
      simpa using hend
    · intro hfirst
      refine ⟨_, rfl, ?_⟩
      show (!(ResultStream.open rs).next.1) = true
      rw [hfirst]
      rfl

/-- A query without any equality on the five columns. -/
theorem unkeyed_endsAtOnce_path :
    ∃ t, (refsTable .sample).cursor.perform ⟨{}, none⟩
        (filterUnder .sample [.equality 5 (.text ['f'])] (replies [{}])) = .ok t ∧
      EndsAtOnce .sample t :=
  (unkeyed_endsAtOnce_iff .sample (by decide) _ _).mpr (Or.inl (by decide))

/-- **The id of a request without ids is read** for `Declaration = 1`, when the server sends a
reference all the same. -/
theorem not_endsAtOnce_declaration :
    ∃ t, (refsTable .sample).cursor.perform ⟨{}, none⟩
        (filterUnder .sample [.equality 1 (.integer 1)] (replies [{}])) = .ok t ∧
      ¬ EndsAtOnce .sample t ∧ (refsTable .sample).cursor.Allowed t (.column 0) ∧
        (refsTable .sample).cursor.perform t (.column 0) = .error (.undefined .emptyIds) := by
  refine ⟨_, rfl, fun h => ?_, ⟨rfl, rfl⟩, rfl⟩
  exact absurd h.eof (by decide)

end ClangQL
