import Mathlib.Order.WithBot
import ClangQL.Tables.Join
import ClangQL.Tables.PlanIndependence

/-!
# The plan of least cost

SQLite asks for a plan for several choices of usable terms and runs one of least cost. The planners
set the cost 1 for a plan with a key, and leave a plan without one at the default, which is larger.
So whenever a choice makes the key usable, the plan that SQLite runs has a key, and its scan, tested
by all terms, shows the rows of the database.

## Main definitions

* `VirtualTable.cost`: the cost of a plan
* `VirtualTable.Cheapest`: a choice whose plan has the least cost
* `Plannable`: the queries that a table can answer with any plan of least cost

## Main results

* `refsTable_cost`, `relationsTable_cost`: a plan costs 1 exactly when it has a key
* `Table.cheapest_perm`: a plan of least cost has the rows of the database
-/

namespace ClangQL

namespace VirtualTable

variable {σ Req M : Type} (T : VirtualTable σ Req M)

/-- The cost of the plan for a query. The default of SQLite is above every cost that is set. -/
def cost (terms : List Term) : WithTop ℕ := ((T.plan terms).estimatedCost.map (↑·)).getD ⊤

/-- The choice `u` of usable terms is among `choices`, and its plan has the least cost. -/
structure Cheapest (terms : List Term) (choices : List (ℕ → Bool)) (u : ℕ → Bool) : Prop where
  mem : u ∈ choices
  le : ∀ v ∈ choices, T.cost (withUsable u terms) ≤ T.cost (withUsable v terms)

end VirtualTable

variable {sql : Sqlite} {terms : List Term} {u : ℕ → Bool}

/-! ## The costs -/

namespace RefsTable

open IndexInfo (firstPosition)

theorem check_estimatedCost (column : Int) (flag : Int32) (s : IndexInfo × ℕ) :
    (check column flag none s).1.estimatedCost = s.1.estimatedCost := by
  unfold check
  split <;> rfl

/-- Only the loop for the id sets a cost. -/
theorem bestIndex_estimatedCost (cs : List Constraint) :
    (bestIndex (.start cs)).2.estimatedCost =
      if (firstPosition (isEqualityOn 0) cs).isSome then some 1 else none := by
  simp only [bestIndex, checkSpelled, checkRef, checkDecl, checkDef, check_estimatedCost]
  unfold checkId check firstPosition IndexInfo.search
  rw [IndexInfo.start_aConstraint]
  cases firstMatch (fun c => c.usable && isEqualityOn 0 c) cs <;> rfl

end RefsTable

/-- **A plan of the refs table** costs 1 exactly when it has a key. -/
theorem refsTable_cost : (KeyUsable u terms → (refsTable sql).cost (withUsable u terms) = 1) ∧
    (¬ KeyUsable u terms → (refsTable sql).cost (withUsable u terms) = ⊤) := by
  have hcost : ((refsTable sql).plan (withUsable u terms)).estimatedCost =
      if (firstTerm isKey (withUsable u terms)).isSome then some 1 else none := by
    rw [← isEqualityOn_zero, ← isSome_firstPosition]
    exact RefsTable.bestIndex_estimatedCost _
  constructor
  · intro hu
    rw [VirtualTable.cost, hcost, if_pos (firstTerm_isKey_isSome.mpr hu)]
    rfl
  · intro hu
    rw [VirtualTable.cost, hcost, if_neg (firstTerm_isKey_isSome.not.mpr hu)]
    rfl

namespace RelationsTable

open IndexInfo (firstPosition)

theorem bestIndex_estimatedCost (cs : List Constraint) :
    (bestIndex (.start cs)).2.estimatedCost =
      if (firstPosition isSubject cs).isSome then some 1 else none := by
  unfold bestIndex firstPosition IndexInfo.search
  rw [IndexInfo.start_aConstraint]
  cases firstMatch (fun c => c.usable && isSubject c) cs <;> rfl

end RelationsTable

/-- **A plan of a relation table** costs 1 exactly when it has a key. -/
theorem relationsTable_cost {kind : RelationKind} :
    (KeyUsable u terms → (relationsTable sql kind).cost (withUsable u terms) = 1) ∧
      (¬ KeyUsable u terms → (relationsTable sql kind).cost (withUsable u terms) = ⊤) := by
  have hcost : ((relationsTable sql kind).plan (withUsable u terms)).estimatedCost =
      if (firstTerm isKey (withUsable u terms)).isSome then some 1 else none := by
    rw [← isSubject_eq, ← isSome_firstPosition]
    exact RelationsTable.bestIndex_estimatedCost _
  constructor
  · intro hu
    rw [VirtualTable.cost, hcost, if_pos (firstTerm_isKey_isSome.mpr hu)]
    rfl
  · intro hu
    rw [VirtualTable.cost, hcost, if_neg (firstTerm_isKey_isSome.not.mpr hu)]
    rfl

/-- **A plan of least cost has a key** when some choice makes one usable. -/
theorem VirtualTable.Cheapest.keyUsable {σ Req M : Type} {T : VirtualTable σ Req M}
    {choices : List (ℕ → Bool)} (h : T.Cheapest terms choices u)
    (hcost : ∀ v, (KeyUsable v terms → T.cost (withUsable v terms) = 1) ∧
      (¬ KeyUsable v terms → T.cost (withUsable v terms) = ⊤))
    (hkey : ∃ v ∈ choices, KeyUsable v terms) : KeyUsable u terms := by
  obtain ⟨v, hv, hkey⟩ := hkey
  by_contra hu
  have hle := h.le v hv
  rw [(hcost u).2 hu, (hcost v).1 hkey] at hle
  exact absurd hle (by decide)

/-- A choice that makes the key usable is cheapest. -/
theorem VirtualTable.cheapest_of_keyUsable {σ Req M : Type} {T : VirtualTable σ Req M}
    {choices : List (ℕ → Bool)} (hu : u ∈ choices)
    (hcost : ∀ v, (KeyUsable v terms → T.cost (withUsable v terms) = 1) ∧
      (¬ KeyUsable v terms → T.cost (withUsable v terms) = ⊤))
    (hkey : KeyUsable u terms) : T.Cheapest terms choices u := by
  refine ⟨hu, fun v _ => ?_⟩
  rw [(hcost u).1 hkey]
  by_cases hv : KeyUsable v terms
  · exact ((hcost v).1 hv).ge
  · exact ((hcost v).2 hv).ge.trans' le_top

/-! ## The rows of a plan -/

/-- The right-hand side of every equality on the key is a text without NUL. -/
def KeysText (terms : List Term) : Prop :=
  ∀ t ∈ terms, isKey t.constraint = true → ∃ s, NulFree s ∧ t.rhs = .text s

/-- The queries that a table can answer with any plan that has a key, whichever terms it uses. -/
def Plannable (sql : Sqlite) (terms : List Term) : Table → Prop
  | .symbols => PlainQuery terms
  | .relations _ => KeysText terms
  | .refs => KeysText terms ∧ FlagsNonzero sql (withUsable (fun _ => true) terms)

/-- Without a zero flag at all there is none among the usable terms. -/
theorem FlagsNonzero.withUsable (h : FlagsNonzero sql (withUsable (fun _ => true) terms))
    (u : ℕ → Bool) : FlagsNonzero sql (ClangQL.withUsable u terms) := by
  intro t ht _ hop hcolumn
  obtain ⟨i, t₀, ht₀, hrhs, hcol, hop₀, -⟩ := exists_of_mem_withUsable ht
  have hmem := mem_withUsable (u := fun _ => true) ht₀
  have hvalue := h _ hmem rfl (hop₀.trans hop) (by rwa [hcol])
  rwa [← hrhs]

/-- The key that a plan uses is a text without NUL. -/
theorem KeysText.firstTerm (h : KeysText terms) (hu : KeyUsable u terms) :
    ∃ s, NulFree s ∧
      (ClangQL.firstTerm isKey (withUsable u terms)).map (·.rhs) = some (.text s) := by
  obtain ⟨t, ht⟩ := Option.isSome_iff_exists.mp (firstTerm_isKey_isSome.mpr hu)
  obtain ⟨t₀, ht₀, hrhs, hcolumn, hop⟩ := exists_of_firstTerm_isKey ht
  obtain ⟨s, hs, htext⟩ := h t₀ ht₀ (by simp [isKey, hcolumn, hop])
  refine ⟨s, hs, ?_⟩
  rw [ht, Option.map_some, ← hrhs, htext]

/-- A query without `LIKE` is one for every choice of usable terms. -/
theorem plainQuery_withUsable (h : PlainQuery terms) (u : ℕ → Bool) :
    PlainQuery (usable (withUsable u terms)) where
  no_like t ht := by
    obtain ⟨i, t₀, ht₀, -, -, hop, -⟩ := exists_of_mem_withUsable (List.mem_filter.mp ht).1
    have hlike := h.no_like t₀ (List.mem_of_getElem? ht₀)
    rwa [SymbolsTable.isLike, hop] at hlike
  text t ht hop hcolumn := by
    obtain ⟨i, t₀, ht₀, hrhs, hcol, hop₀, -⟩ := exists_of_mem_withUsable (List.mem_filter.mp ht).1
    rw [← hrhs]
    exact h.text t₀ (List.mem_of_getElem? ht₀) (hop₀.trans hop) (by rwa [hcol])

/-- What all terms are true of, the usable ones are true of. -/
theorem satisfies_usable {affinity : Int → Affinity} {row : Row}
    (h : satisfies sql affinity terms row = true) (u : ℕ → Bool) :
    satisfies sql affinity (usable (withUsable u terms)) row = true := by
  refine List.all_eq_true.mpr fun t ht => ?_
  obtain ⟨i, t₀, ht₀, hrhs, hcol, hop, -⟩ := exists_of_mem_withUsable (List.mem_filter.mp ht).1
  have hholds := List.all_eq_true.mp h t₀ (List.mem_of_getElem? ht₀)
  rwa [Term.holds, hrhs, hcol, hop] at hholds

/-- **A plan of least cost has the rows of the database.** Of a query that a table can answer, with
a choice that makes the key usable, a plan of least cost has a scan to its end, from any cursor of
a session; and the rows that survive SQLite's tests and the other terms are the rows of the
database that satisfy all terms, each as often. -/
theorem Table.cheapest_perm (sql : Sqlite) {index : SymbolIndex} {db : Database}
    (h : AnswersDatabase index db) (t : Table) {terms : List Term}
    (hterms : Plannable sql terms t) {choices : List (ℕ → Bool)} {u : ℕ → Bool}
    (hcheapest : (t.virtualTable sql).Cheapest terms choices u)
    (hkey : t ≠ .symbols → ∃ v ∈ choices, KeyUsable v terms) {c : t.Cursor}
    (hc : (t.virtualTable sql).Reached c) :
    ∃ rows, (t.virtualTable sql).Scans (t.serve index) (withUsable u terms) c rows ∧
      (((t.virtualTable sql).survivors sql (withUsable u terms) rows).filter
          (satisfies sql (t.virtualTable sql).affinity terms)).Perm
        ((db.rows t).filter (satisfies sql (t.virtualTable sql).affinity terms)) := by
  have hanswer : Answerable sql (withUsable u terms) t := by
    cases t with
    | symbols => exact plainQuery_withUsable hterms u
    | relations kind =>
      have hu := hcheapest.keyUsable (fun _ => relationsTable_cost) (hkey (by simp))
      exact KeysText.firstTerm hterms hu
    | refs =>
      have hu := hcheapest.keyUsable (fun _ => refsTable_cost) (hkey (by simp))
      obtain ⟨s, hs, htext⟩ := hterms.1.firstTerm hu
      refine ⟨s, hs, ?_, readFlags_nonzero (hterms.2.withUsable u)⟩
      rwa [RefsTable.chosen, isEqualityOn_zero]
  obtain ⟨rows, hscans, hperm⟩ := t.survivors_perm sql h hanswer hc
  refine ⟨rows, hscans, (hperm.filter _).trans (.of_eq ?_)⟩
  rw [List.filter_filter]
  refine List.filter_congr fun row _ => ?_
  rw [Bool.eq_iff_iff, Bool.and_eq_true]
  exact and_iff_left_of_imp fun hsat => satisfies_usable hsat u

/-- `SymbolId = 'a'`, planned without and with the term. -/
theorem Table.cheapest_perm_refs :
    ∃ rows, (refsTable .sample).Scans (Table.refs.serve (databaseIndex sampleDatabase))
        (withUsable (fun _ => true) [.equality 0 (.text ['a'])]) {} rows ∧
      (((refsTable .sample).survivors .sample
          (withUsable (fun _ => true) [.equality 0 (.text ['a'])]) rows).filter
          (satisfies .sample RefsTable.affinity [.equality 0 (.text ['a'])])).Perm
        ((sampleDatabase.rows .refs).filter
          (satisfies .sample RefsTable.affinity [.equality 0 (.text ['a'])])) := by
  have hkey : KeyUsable (fun _ => true) [.equality 0 (.text ['a'])] := ⟨0, _, rfl, rfl, rfl⟩
  have hterms : Plannable .sample [.equality 0 (.text ['a'])] .refs := by
    constructor
    · intro t ht _
      obtain rfl := List.mem_singleton.mp ht
      exact ⟨['a'], by decide, rfl⟩
    · simp [FlagsNonzero, withUsable, Term.equality]
  have hcheapest : (refsTable .sample).Cheapest [.equality 0 (.text ['a'])]
      [fun _ => false, fun _ => true] fun _ => true :=
    VirtualTable.cheapest_of_keyUsable (by simp) (fun _ => refsTable_cost) hkey
  exact Table.cheapest_perm .sample (databaseIndex_answers sampleDatabase) .refs hterms hcheapest
    (fun _ => ⟨_, hcheapest.mem, hkey⟩) VirtualTable.reached_fresh

end ClangQL
