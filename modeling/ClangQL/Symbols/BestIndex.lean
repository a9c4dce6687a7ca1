import ClangQL.Sqlite.Query

/-!
# The planner of the symbols table

`SymbolsTable::BestIndex` first looks for an equality on `Id`; with one, that is the whole plan.
Otherwise it looks for a search by name, by scope and by path, each an equality or a `LIKE`,
and the test of a `LIKE` given to the server is omitted.

## Main definitions

* `SymbolsTable.isId`, `SymbolsTable.isName`, `SymbolsTable.isScope`, `SymbolsTable.isPath`: what
  the four searches want
* `SymbolsTable.bestIndex`: the planner
* `SymbolsTable.consumed`, `SymbolsTable.arguments`, `SymbolsTable.idxNumOf`: the abstract plan

## Main results

* `SymbolsTable.bestIndex_consumes`: the constraints a plan consumes
* `SymbolsTable.bestIndex_args`, `SymbolsTable.bestIndex_idxNum`: its arguments and its number
* `SymbolsTable.bestIndex_rechecks`: the tests it leaves to SQLite
-/

namespace ClangQL

/-! ## The source -/

def searchFuzzyName : Int32 := 1
def searchScope : Int32 := 2
def searchId : Int32 := 4
def searchPath : Int32 := 8
def searchScopeExact : Int32 := 16

namespace SymbolsTable

/-- The columns of the declared schema, with their affinities. -/
def schema : List (String × Affinity) :=
  [("Id", .text), ("Name", .text), ("Scope", .text), ("Signature", .text),
    ("Documentation", .text), ("ReturnType", .text), ("Type", .text), ("DefPath", .text),
    ("DefStartLine", .integer), ("DefStartCol", .integer), ("DefEndLine", .integer),
    ("DefEndCol", .integer), ("DeclPath", .text), ("DeclStartLine", .integer),
    ("DeclStartCol", .integer), ("DeclEndLine", .integer), ("DeclEndCol", .integer),
    ("Kind", .integer), ("SubKind", .integer), ("Language", .integer), ("Generic", .integer),
    ("TemplatePartialSpecialization", .integer), ("TemplateSpecialization", .integer),
    ("UnitTest", .integer), ("IBAnnotated", .integer), ("IBOutletCollection", .integer),
    ("GKInspectable", .integer), ("Local", .integer), ("ProtocolInterface", .integer)]

/-- The declared affinity of a column. -/
def affinity : Int → Affinity := affinityIn schema

/-- `constraint.op == SQLITE_INDEX_CONSTRAINT_LIKE`. -/
def isLike (c : Constraint) : Bool := c.op == indexConstraintLike

/-- The condition of the search by id. -/
def isId (c : Constraint) : Bool := c.iColumn == 0 && c.op == indexConstraintEq

/-- The condition of the search by name. -/
def isName (c : Constraint) : Bool :=
  c.iColumn == 1 && (c.op == indexConstraintEq || c.op == indexConstraintLike)

/-- The condition of the search by scope. -/
def isScope (c : Constraint) : Bool :=
  c.iColumn == 2 && (c.op == indexConstraintEq || c.op == indexConstraintLike)

/-- The condition of the search by path. -/
def isPath (c : Constraint) : Bool :=
  (c.iColumn == 7 || c.iColumn == 12) && c.op == indexConstraintLike

/-- A search with the counter `argvIndex`: the first usable constraint wanted gets the next
argument, its test is omitted as `omitted` says, and the plan number gets its `flags`. -/
def search (wanted omitted : Constraint → Bool) (flags : Constraint → Int32)
    (s : IndexInfo × ℕ) : IndexInfo × ℕ :=
  match s.1.search wanted with
  | some (i, c) =>
    ((((s.1.setArgvIndex i (s.2 + 1)).setOmit i (omitted c)).setIdxNum
      (s.1.idxNum ||| flags c)).setEstimatedCost 1, s.2 + 1)
  | none => s

/-- `// Look for a search by name`. -/
def searchByName := search isName isLike fun _ => searchFuzzyName

/-- The flags of a search by scope: an equality also sets `SEARCH_SCOPE_EXACT`. -/
def scopeFlags (c : Constraint) : Int32 :=
  if c.op = indexConstraintEq then searchScope ||| searchScopeExact else searchScope

/-- `// Look for a search by scope`. -/
def searchByScope := search isScope isLike scopeFlags

/-- `// Look for a search by path`. -/
def searchByPath := search isPath (fun _ => true) fun _ => searchPath

/-- `SymbolsTable::BestIndex`. -/
def bestIndex (info : IndexInfo) : ResultCode × IndexInfo :=
  match info.search isId with
  -- `// First check if we have a search by id`, which returns early
  | some (i, _) =>
    (sqliteOk, (((info.setArgvIndex i 1).setOmit i true).setIdxNum searchId).setEstimatedCost 1)
  | none => (sqliteOk, (searchByPath (searchByScope (searchByName (info, 0)))).1)

/-! ## One search -/

open IndexInfo (firstPosition)

variable {cs : List Constraint} {taken : Constraint → Prop} {is : List ℕ} {s : IndexInfo × ℕ}
  {wanted omitted : Constraint → Bool} {flags : Constraint → Int32}

/-- A planner between two of its searches. The omitted tests are those of the consumed `LIKE`
constraints. -/
structure SearchProgress (cs : List Constraint) (taken : Constraint → Prop) (is : List ℕ)
    (s : IndexInfo × ℕ) : Prop extends IndexInfo.Progress cs taken is s where
  rechecks : ∀ i, s.1.rechecks i = false ↔ i ∈ is ∧ ∃ c, cs[i]? = some c ∧ isLike c = true

/-- A search that has found a constraint consumes it, and omits its test when it is a `LIKE`. -/
theorem SearchProgress.take (h : SearchProgress cs taken is s) {i : ℕ} {c : Constraint}
    (hm : firstMatch (fun c => c.usable && wanted c) cs = some (i, c)) (hnew : ¬ taken c)
    (homit : omitted c = isLike c) (idxNum : Int32) :
    SearchProgress cs (fun d => taken d ∨ wanted d = true) (is ++ [i])
      ((((s.1.setArgvIndex i (s.2 + 1)).setOmit i (omitted c)).setIdxNum
        idxNum).setEstimatedCost 1, s.2 + 1) := by
  have hc : cs[i]? = some c := firstMatch_getElem? hm
  have hw : wanted c = true := IndexInfo.wanted_of_firstMatch hm
  have htake : IndexInfo.Progress cs (fun c => taken c ∨ wanted c = true) (is ++ [i])
      (s.1.setArgvIndex i (s.2 + 1), s.2 + 1) := by
    refine (h.toProgress.take hm hnew).mono fun d hd => ?_
    rcases hd with hd | rfl
    · exact Or.inl hd
    · exact Or.inr hw
  refine ⟨⟨h.constraints, ?_, htake.count, htake.taken⟩, fun j => ?_⟩
  · exact ((htake.consumes.setOmit i (omitted c)).setIdxNum _).setEstimatedCost 1
  · have hlt : i < s.1.aConstraint.length := h.constraints ▸ firstMatch_lt hm
    have hi : i ∉ is := fun hi => hnew (h.taken i hi c hc)
    show ((s.1.setArgvIndex i (s.2 + 1)).setOmit i (omitted c)).rechecks j = false ↔ _
    rw [IndexInfo.rechecks_setOmit, IndexInfo.rechecks_setArgvIndex, homit]
    by_cases hj : i = j
    · subst hj
      rw [if_pos ⟨rfl, hlt⟩]
      simp [hc]
    · rw [if_neg (fun hn => hj hn.1), h.rechecks j]
      simp [Ne.symm hj]

/-- **One search** consumes the first constraint it wants, if there is one. -/
theorem SearchProgress.search (h : SearchProgress cs taken is s)
    (wanted omitted : Constraint → Bool) (flags : Constraint → Int32)
    (hnew : ∀ c, wanted c = true → ¬ taken c)
    (homit : ∀ c, wanted c = true → omitted c = isLike c) :
    SearchProgress cs (fun c => taken c ∨ wanted c = true) (is ++ (firstPosition wanted cs).toList)
      (search wanted omitted flags s) := by
  unfold SymbolsTable.search firstPosition
  rw [h.search_eq]
  cases hm : firstMatch (fun c => c.usable && wanted c) cs with
  | none =>
    have hp : IndexInfo.Progress cs (fun c => taken c ∨ wanted c = true) is s :=
      h.toProgress.mono fun _ => Or.inl
    rw [Option.map_none, Option.toList_none, List.append_nil]
    exact ⟨hp, h.rechecks⟩
  | some m =>
    have hw : wanted m.2 = true := IndexInfo.wanted_of_firstMatch hm
    exact h.take hm (hnew m.2 hw) (homit m.2 hw) _

@[simp] theorem search_aConstraint :
    (search wanted omitted flags s).1.aConstraint = s.1.aConstraint := by
  unfold search
  split <;> rfl

theorem search_idxNum (s : IndexInfo × ℕ) : (search wanted omitted flags s).1.idxNum =
    s.1.idxNum ||| ((firstMatch (fun c => c.usable && wanted c) s.1.aConstraint).elim 0
      fun m => flags m.2) := by
  unfold search IndexInfo.search
  cases firstMatch (fun c => c.usable && wanted c) s.1.aConstraint with
  | none => simp
  | some m => rfl

/-! ## The plan -/

/-- The positions the planner consumes. -/
def consumed (cs : List Constraint) : List ℕ :=
  match firstPosition isId cs with
  | some i => [i]
  | none => (firstPosition isName cs).toList ++ (firstPosition isScope cs).toList ++
      (firstPosition isPath cs).toList

/-- The abstract plan: the value of the chosen id, or those of the chosen name, scope and
path. -/
def arguments (terms : List Term) : List Value :=
  match firstTerm isId terms with
  | some t => [t.rhs]
  | none => ((firstTerm isName terms).map (·.rhs)).toList ++
      ((firstTerm isScope terms).map (·.rhs)).toList ++
        ((firstTerm isPath terms).map (·.rhs)).toList

/-- The plan number: that of a search by id, or the flags of the searches that found a
constraint. -/
def idxNumOf (terms : List Term) : Int32 :=
  match firstTerm isId terms with
  | some _ => searchId
  | none => ((firstTerm isName terms).elim 0 fun _ => searchFuzzyName) |||
      ((firstTerm isScope terms).elim 0 fun t => scopeFlags t.constraint) |||
        ((firstTerm isPath terms).elim 0 fun _ => searchPath)

theorem isId_iff {c : Constraint} :
    isId c = true ↔ c.iColumn = 0 ∧ c.op = indexConstraintEq := by simp [isId]

theorem isName_iff {c : Constraint} : isName c = true ↔
    c.iColumn = 1 ∧ (c.op = indexConstraintEq ∨ c.op = indexConstraintLike) := by simp [isName]

theorem isScope_iff {c : Constraint} : isScope c = true ↔
    c.iColumn = 2 ∧ (c.op = indexConstraintEq ∨ c.op = indexConstraintLike) := by simp [isScope]

theorem isPath_iff {c : Constraint} : isPath c = true ↔
    (c.iColumn = 7 ∨ c.iColumn = 12) ∧ c.op = indexConstraintLike := by simp [isPath]

/-- The three searches of a plan without an id. -/
theorem searches_progress (cs : List Constraint) :
    SearchProgress cs (isId · = false) ((firstPosition isName cs).toList ++
      (firstPosition isScope cs).toList ++ (firstPosition isPath cs).toList)
        (searchByPath (searchByScope (searchByName (.start cs, 0)))) := by
  have h0 : SearchProgress cs (fun _ => False) [] (.start cs, 0) :=
    ⟨.start cs _, fun i => by simp [IndexInfo.rechecks_start]⟩
  have h1 := h0.search isName isLike (fun _ => searchFuzzyName) (fun _ _ => not_false)
    fun _ _ => rfl
  have h2 := h1.search isScope isLike scopeFlags
    (fun c hc h => by
      rcases h with h | h
      · exact h
      · rw [isScope_iff] at hc
        rw [isName_iff] at h
        omega) fun _ _ => rfl
  have h3 := h2.search isPath (fun _ => true) (fun _ => searchPath)
    (fun c hc h => by
      rw [isPath_iff] at hc
      rcases h with (h | h) | h
      · exact h
      · rw [isName_iff] at h
        omega
      · rw [isScope_iff] at h
        omega) fun c hc => by simp [isLike, (isPath_iff.mp hc).2]
  refine ⟨h3.toProgress.mono fun c hc => ?_, h3.rechecks⟩
  rw [Bool.eq_false_iff, ne_eq, isId_iff]
  rcases hc with ((hc | hc) | hc) | hc
  · exact hc.elim
  · rw [isName_iff] at hc
    omega
  · rw [isScope_iff] at hc
    omega
  · rw [isPath_iff] at hc
    omega

theorem bestIndex_of_id {cs : List Constraint} {i : ℕ} {c : Constraint}
    (h : firstMatch (fun c => c.usable && isId c) cs = some (i, c)) :
    (bestIndex (.start cs)).2 =
      ((((IndexInfo.start cs).setArgvIndex i 1).setOmit i true).setIdxNum searchId
        |>.setEstimatedCost 1) := by
  unfold bestIndex IndexInfo.search
  rw [IndexInfo.start_aConstraint, h]

theorem bestIndex_of_no_id {cs : List Constraint}
    (h : firstMatch (fun c => c.usable && isId c) cs = none) :
    (bestIndex (.start cs)).2 =
      (searchByPath (searchByScope (searchByName (.start cs, 0)))).1 := by
  unfold bestIndex IndexInfo.search
  rw [IndexInfo.start_aConstraint, h]

/-- **The constraints a plan consumes** are the chosen id, or the chosen name, scope and
path. -/
theorem bestIndex_consumes (cs : List Constraint) :
    (bestIndex (.start cs)).2.Consumes (consumed cs) := by
  unfold consumed firstPosition
  cases hm : firstMatch (fun c => c.usable && isId c) cs with
  | none =>
    rw [bestIndex_of_no_id hm]
    exact (searches_progress cs).consumes
  | some m =>
    obtain ⟨i, c⟩ := m
    rw [bestIndex_of_id hm]
    have h := (IndexInfo.start_consumes cs).setArgvIndex (firstMatch_lt hm) List.not_mem_nil
    exact ((h.setOmit i true).setIdxNum searchId).setEstimatedCost 1

/-- **The tests a plan omits** are those of the consumed equality on `Id` and of the consumed
`LIKE` constraints. -/
theorem bestIndex_rechecks (cs : List Constraint) (i : ℕ) :
    (bestIndex (.start cs)).2.rechecks i = false ↔
      i ∈ consumed cs ∧ ∃ c, cs[i]? = some c ∧ (isId c = true ∨ isLike c = true) := by
  unfold consumed firstPosition
  cases hm : firstMatch (fun c => c.usable && isId c) cs with
  | none =>
    have h := searches_progress cs
    rw [bestIndex_of_no_id hm, h.rechecks]
    refine and_congr_right fun hi => exists_congr fun c => and_congr_right fun hc => ?_
    rw [h.taken i hi c hc]
    simp
  | some m =>
    obtain ⟨j, c⟩ := m
    rw [bestIndex_of_id hm]
    have hid : isId c = true := IndexInfo.wanted_of_firstMatch hm
    show (((IndexInfo.start cs).setArgvIndex j 1).setOmit j true).rechecks i = false ↔ _
    rw [IndexInfo.rechecks_setOmit, IndexInfo.rechecks_setArgvIndex, IndexInfo.rechecks_start]
    by_cases hj : j = i
    · subst hj
      rw [if_pos ⟨rfl, firstMatch_lt hm⟩]
      exact iff_of_true rfl ⟨List.mem_singleton_self j, c, firstMatch_getElem? hm, Or.inl hid⟩
    · simp [hj, Ne.symm hj]

/-- **The arguments** are the right-hand sides of the consumed constraints. -/
theorem bestIndex_args (terms : List Term) :
    (bestIndex (.start (terms.map (·.constraint)))).2.argv (terms.map (·.rhs)) =
      arguments terms := by
  rw [(bestIndex_consumes _).argv_eq, consumed, arguments]
  have hid := filterMap_firstPosition isId terms
  have hsome := isSome_firstPosition isId terms
  cases hp : firstPosition isId (terms.map (·.constraint)) with
  | none =>
    cases ht : firstTerm isId terms with
    | none => simp only [List.filterMap_append, filterMap_firstPosition]
    | some t => simp [hp, ht] at hsome
  | some i =>
    cases ht : firstTerm isId terms with
    | none => simp [hp, ht] at hsome
    | some t => simpa [hp, ht] using hid

theorem elim_firstMatch (wanted : Constraint → Bool) (flags : Constraint → Int32)
    (terms : List Term) :
    ((firstMatch (fun c => c.usable && wanted c) (terms.map (·.constraint))).elim 0
      fun m => flags m.2) = (firstTerm wanted terms).elim 0 fun t => flags t.constraint := by
  have hfirst : firstTerm wanted terms = _ := (map_snd_firstMatch _ terms).symm
  rw [firstMatch_map, hfirst]
  simp only [Function.comp_def]
  cases firstMatch (fun t : Term => t.constraint.usable && wanted t.constraint) terms <;> rfl

/-- **The plan number** is that of a search by id, or has the flags of the searches that found
a constraint. -/
theorem bestIndex_idxNum (terms : List Term) :
    (bestIndex (.start (terms.map (·.constraint)))).2.idxNum = idxNumOf terms := by
  have hsome := isSome_firstPosition isId terms
  unfold firstPosition at hsome
  unfold idxNumOf
  cases hm : firstMatch (fun c => c.usable && isId c) (terms.map (·.constraint)) with
  | none =>
    rw [bestIndex_of_no_id hm]
    cases ht : firstTerm isId terms with
    | none =>
      simp only [searchByPath, searchByScope, searchByName, search_idxNum, search_aConstraint,
        IndexInfo.start_aConstraint, IndexInfo.start_idxNum, Int32.zero_or]
      rw [elim_firstMatch isName fun _ => searchFuzzyName, elim_firstMatch isScope scopeFlags,
        elim_firstMatch isPath fun _ => searchPath]
    | some t => simp [hm, ht] at hsome
  | some m =>
    rw [bestIndex_of_id (i := m.1) (c := m.2) hm]
    cases ht : firstTerm isId terms with
    | none => simp [hm, ht] at hsome
    | some t => rfl

end SymbolsTable

end ClangQL
