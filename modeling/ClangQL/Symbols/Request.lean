import ClangQL.Symbols.Cursor

/-!
# The documented request of a symbols query

The documentation tells which constraint of a query goes into which field of the request. Only
the first usable constraint of each kind counts, whatever stands between, and its text is
passed as a C string, up to its first NUL.

## Main definitions

* `IsFirst`, `Missing`: the first usable term of a kind, and that there is none
* `Placed`: a field holds the text of the first term of its kind
* `Documented sent terms req`: the request documented for a query, with each text `s` sent as
  `sent s`

## Main results

* `symbolsTable_request`: the request sent is the documented one, on the texts as C strings
-/

namespace ClangQL

open SymbolsTable

/-! ## The documented request -/

/-- The first usable term of a kind. -/
def IsFirst (terms : List Term) (wanted : Constraint → Prop) (t : Term) : Prop :=
  ∃ before after, terms = before ++ t :: after ∧ t.constraint.usable = true ∧
    wanted t.constraint ∧ ∀ u ∈ before, ¬ (u.constraint.usable = true ∧ wanted u.constraint)

/-- No term of a kind is usable. -/
def Missing (terms : List Term) (wanted : Constraint → Prop) : Prop :=
  ∀ t ∈ terms, ¬ (t.constraint.usable = true ∧ wanted t.constraint)

/-- A field holds the text of the first usable term of a kind, and nothing without one. -/
def Placed (sent : Str → Str) (terms : List Term) (wanted : Constraint → Prop)
    (field : Option Str) : Prop :=
  (∃ t s, IsFirst terms wanted t ∧ t.rhs = .text s ∧ field = some (sent s)) ∨
    Missing terms wanted ∧ field = none

/-- An equality on `Id`. -/
def OnId (c : Constraint) : Prop := c.iColumn = 0 ∧ c.op = indexConstraintEq

/-- An equality or `LIKE` on `Name`. -/
def OnName (c : Constraint) : Prop :=
  c.iColumn = 1 ∧ (c.op = indexConstraintEq ∨ c.op = indexConstraintLike)

/-- An equality or `LIKE` on `Scope`. -/
def OnScope (c : Constraint) : Prop :=
  c.iColumn = 2 ∧ (c.op = indexConstraintEq ∨ c.op = indexConstraintLike)

/-- A `LIKE` on `DefPath` or `DeclPath`. -/
def OnPath (c : Constraint) : Prop :=
  (c.iColumn = 7 ∨ c.iColumn = 12) ∧ c.op = indexConstraintLike

/-- **The documented request**, where a text `s` is sent as `sent s`: a `Lookup` of the first id,
or, without a usable equality on `Id`, a `FuzzyFind` with the first name, scope and path, and with
`any_scope` set: to false when the first scope is that of an equality, and to true otherwise. -/
def Documented (sent : Str → Str) (terms : List Term) : SymbolsRequest → Prop
  | .lookup req => ∃ t s, IsFirst terms OnId t ∧ t.rhs = .text s ∧ req.ids = [sent s]
  | .fuzzyFind req => Missing terms OnId ∧ Placed sent terms OnName req.query ∧
      (∃ scope, Placed sent terms OnScope scope ∧ req.scopes = scope.toList) ∧
      (∃ anyScope, req.anyScope = some anyScope ∧ (anyScope = false ↔
        ∃ t, IsFirst terms OnScope t ∧ t.constraint.op = indexConstraintEq)) ∧
      (∃ path, Placed sent terms OnPath path ∧ req.proximityPaths = path.toList)

/-! ## The searches -/

section Searches

variable {sql : Sqlite} {terms : List Term} {wanted : Constraint → Bool}
  {kind : Constraint → Prop} {t : Term}

theorem accepts_iff (hkind : ∀ c, wanted c = true ↔ kind c) (t : Term) :
    (t.constraint.usable && wanted t.constraint) = true ↔
      t.constraint.usable = true ∧ kind t.constraint := by
  rw [Bool.and_eq_true, hkind]

theorem isFirst_iff (hkind : ∀ c, wanted c = true ↔ kind c) :
    IsFirst terms kind t ↔ firstTerm wanted terms = some t := by
  rw [firstTerm, List.find?_eq_some_iff_append, accepts_iff hkind]
  constructor
  · rintro ⟨before, after, hterms, husable, hwanted, hbefore⟩
    refine ⟨⟨husable, hwanted⟩, before, after, hterms, fun u hu => ?_⟩
    rw [Bool.not_eq_true', Bool.eq_false_iff]
    exact mt (accepts_iff hkind u).mp (hbefore u hu)
  · rintro ⟨⟨husable, hwanted⟩, before, after, hterms, hbefore⟩
    refine ⟨before, after, hterms, husable, hwanted, fun u hu => ?_⟩
    have hu' := hbefore u hu
    rw [Bool.not_eq_true', Bool.eq_false_iff] at hu'
    exact mt (accepts_iff hkind u).mpr hu'

theorem missing_iff (hkind : ∀ c, wanted c = true ↔ kind c) :
    Missing terms kind ↔ firstTerm wanted terms = none := by
  rw [firstTerm, List.find?_eq_none]
  exact forall₂_congr fun u _ => not_congr (accepts_iff hkind u).symm

theorem keyText_of_text {v : Value} {s : Str} (h : v = .text s) : keyText sql v = cStr s := by
  rw [h, keyText, sql.valueText_text]
  rfl

/-- **A search places** the text of the first term it wants, as a C string. -/
theorem placed_firstTerm (htext : ∀ t ∈ terms, ∃ s, t.rhs = .text s)
    (hkind : ∀ c, wanted c = true ↔ kind c) :
    Placed cStr terms kind ((firstTerm wanted terms).map fun t => keyText sql t.rhs) := by
  cases hfirst : firstTerm wanted terms with
  | none => exact Or.inr ⟨(missing_iff hkind).mpr hfirst, rfl⟩
  | some t =>
    obtain ⟨s, hs⟩ := htext t (firstTerm_mem hfirst)
    refine Or.inl ⟨t, s, (isFirst_iff hkind).mpr hfirst, hs, ?_⟩
    rw [Option.map_some, keyText_of_text hs]

end Searches

/-! ## The request sent -/

section Request

variable {sql : Sqlite} {terms : List Term}

theorem requestOf_documented (htext : ∀ t ∈ terms, ∃ s, t.rhs = .text s) :
    Documented cStr terms (SymbolsCursor.requestOf sql terms) := by
  have hid : ∀ c, isId c = true ↔ OnId c := fun _ => isId_iff
  have hname : ∀ c, isName c = true ↔ OnName c := fun _ => isName_iff
  have hscope : ∀ c, isScope c = true ↔ OnScope c := fun _ => isScope_iff
  have hpath : ∀ c, isPath c = true ↔ OnPath c := fun _ => isPath_iff
  unfold SymbolsCursor.requestOf
  cases hfirst : firstTerm isId terms with
  | some t =>
    obtain ⟨s, hs⟩ := htext t (firstTerm_mem hfirst)
    exact ⟨t, s, (isFirst_iff hid).mpr hfirst, hs, by rw [keyText_of_text hs]⟩
  | none =>
    refine ⟨(missing_iff hid).mpr hfirst, placed_firstTerm htext hname,
      ⟨_, placed_firstTerm htext hscope, rfl⟩, ⟨_, rfl, ?_⟩,
      ⟨_, placed_firstTerm htext hpath, rfl⟩⟩
    simp only [isFirst_iff hscope]
    cases firstTerm isScope terms with
    | none => simp
    | some t => simp

/-- The right-hand sides of a plan are those of its terms. -/
theorem exists_of_mem_arguments {v : Value} (h : v ∈ arguments terms) :
    ∃ t ∈ terms, t.rhs = v := by
  unfold arguments at h
  split at h
  · next t ht => exact ⟨t, firstTerm_mem ht, (List.mem_singleton.mp h).symm⟩
  · simp only [List.mem_append, Option.mem_toList, Option.map_eq_some_iff] at h
    rcases h with (⟨t, ht, hv⟩ | ⟨t, ht, hv⟩) | ⟨t, ht, hv⟩
    all_goals exact ⟨t, firstTerm_mem ht, hv⟩

/-- **The request sent is the documented one**, whatever the order of the constraints: each text
is sent as a C string. -/
theorem symbolsTable_request (sql : Sqlite) {terms : List Term}
    (htext : ∀ t ∈ terms, ∃ s, t.rhs = .text s) (server : SymbolsRequest → List (Reply Symbol))
    (c : SymbolsCursor) :
    ∃ req c', (symbolsTable sql).cursor.filter server ((symbolsTable sql).plan terms).idxNum
        ((symbolsTable sql).args terms) c = .ok (sqliteOk, some req, c') ∧
      Documented cStr terms req := by
  have hnull : ∀ v ∈ arguments terms, v ≠ .null := by
    rintro v hv rfl
    obtain ⟨t, ht, hrhs⟩ := exists_of_mem_arguments hv
    obtain ⟨s, hs⟩ := htext t ht
    exact absurd (hs.symm.trans hrhs) (by simp)
  obtain ⟨c', hfilter⟩ := symbolsTable_filter hnull c
  exact ⟨_, c', hfilter, requestOf_documented htext⟩

/-- A path, an unusable id, two names and a scope, in this order. -/
theorem symbolsTable_request_interleaved :
    let terms : List Term := [⟨⟨12, indexConstraintLike, true⟩, .text ['p']⟩,
      ⟨⟨0, indexConstraintEq, false⟩, .text ['i']⟩, ⟨⟨1, indexConstraintLike, true⟩, .text ['n']⟩,
      ⟨⟨1, indexConstraintEq, true⟩, .text ['m']⟩, ⟨⟨2, indexConstraintEq, true⟩, .text ['s']⟩]
    ∃ req c', (symbolsTable .sample).cursor.filter (fun _ => [])
        ((symbolsTable .sample).plan terms).idxNum ((symbolsTable .sample).args terms) {} =
          .ok (sqliteOk, some req, c') ∧ Documented cStr terms req :=
  symbolsTable_request .sample (by simp) _ _

/-- **A text with a NUL is cut**: `Id = 'a\0b'` looks `a` up. -/
theorem not_documented_nul :
    let terms := [Term.equality 0 (.text ['a', '\x00', 'b'])]
    ∃ req c', (symbolsTable .sample).cursor.filter (fun _ => [])
        ((symbolsTable .sample).plan terms).idxNum ((symbolsTable .sample).args terms) {} =
          .ok (sqliteOk, some req, c') ∧ ¬ Documented id terms req := by
  refine ⟨.lookup ⟨[['a']]⟩, _, rfl, ?_⟩
  rintro ⟨t, s, ⟨before, after, hterms, -⟩, hs, hids⟩
  have ht : t ∈ before ++ t :: after := List.mem_append_right _ List.mem_cons_self
  -- the only term has the NUL in its text, so the text sent is another
  rw [← hterms, List.mem_singleton] at ht
  obtain rfl := Value.text.inj ((congrArg Term.rhs ht).symm.trans hs)
  exact absurd hids (by decide)

end Request

end ClangQL
