import ClangQL.Relations.Cursor

/-!
# The past of a relations cursor

`RelationsCursor` never clears its subjects. In every session it holds those of all calls of
`Filter` so far, in order.

## Main definitions

* `keyOf`, `keysOf`: the subject a call asks for, and those of a history of calls
* `Unkeyed`: a history without subjects

## Main results

* `perform_keeps`, `run_keeps`: what a call and a session leave in the cursor
* `keysOf_eq_nil_iff`: a cursor without subjects was never given one
-/

namespace ClangQL

open RelationsCursor

variable {sql : Sqlite} {kind : RelationKind} {c c' : RelationsCursor} {idxNum : Int32}
  {argv : List Value} {subjects subjects' : List Str}

/-- The subject a call asks for. -/
def keyOf (sql : Sqlite) : Call RelationsRequest Relation → Option Str
  | .filter _ idxNum argv => if idxNum = 0 then none else argv[0]?.map (keyText sql)
  | _ => none

/-- The subjects a history of calls has asked for. -/
def keysOf (sql : Sqlite) (calls : List (Call RelationsRequest Relation)) : List Str :=
  calls.filterMap (keyOf sql)

theorem keyOf_filter (server : RelationsRequest → List (Reply Relation)) :
    keyOf sql (.filter server idxNum argv) =
      if idxNum = 0 then none else argv[0]?.map (keyText sql) := rfl

theorem keysOf_snoc (calls : List (Call RelationsRequest Relation))
    (call : Call RelationsRequest Relation) :
    keysOf sql (calls ++ [call]) = keysOf sql calls ++ (keyOf sql call).toList := by
  rw [keysOf, List.filterMap_append, keysOf, List.filterMap_cons]
  cases keyOf sql call <;> rfl

theorem pushSubject_ok (server : RelationsRequest → List (Reply Relation))
    (h : pushSubject sql idxNum argv subjects = .ok subjects') :
    subjects' = subjects ++ (keyOf sql (.filter server idxNum argv)).toList := by
  unfold pushSubject at h
  rw [keyOf_filter]
  split_ifs at h with hidx
  · obtain ⟨v, hv, h⟩ := Except.bind_eq_ok.mp h
    obtain ⟨s, hs, h⟩ := Except.bind_eq_ok.mp h
    obtain rfl : subjects ++ [s] = subjects' := Except.ok.inj h
    have hget : argv[0]? = some v := argAt_eq_ok.mp hv
    rw [if_neg hidx, hget, Option.map_some, Option.toList_some, keyText_of_textOf hs]
  · obtain rfl : subjects = subjects' := Except.ok.inj h
    rw [if_pos (not_not.mp hidx), Option.toList_none, List.append_nil]

/-- `Next` moves the stream only. -/
theorem next_keeps {rc : ResultCode} (h : c.next = .ok (rc, c')) :
    c'.kind = c.kind ∧ c'.subjects = c.subjects := by
  unfold RelationsCursor.next at h
  split at h
  · obtain ⟨-, rfl⟩ := Prod.mk.inj (Except.ok.inj h)
    exact ⟨rfl, rfl⟩
  · exact absurd h (by simp)

/-- **What a call leaves behind**: the subjects grow by the one it asks for. -/
theorem perform_keeps {s t : Session RelationsCursor RelationsRequest Relation}
    {call : Call RelationsRequest Relation} (h : (methods sql).perform s call = .ok t) :
    t.cursor.kind = s.cursor.kind ∧
      t.cursor.subjects = s.cursor.subjects ++ (keyOf sql call).toList := by
  cases call with
  | filter server idxNum argv =>
    obtain ⟨⟨rc, req, c⟩, hf, rfl⟩ := Except.map_eq_ok.mp h
    obtain ⟨subjects, hs, -, rfl⟩ := filter_ok hf
    exact ⟨rfl, pushSubject_ok server hs⟩
  | next =>
    obtain ⟨⟨rc, c⟩, hn, rfl⟩ := Except.map_eq_ok.mp h
    obtain ⟨hkind, hsubjects⟩ := next_keeps hn
    exact ⟨hkind, by rw [hsubjects]; exact (List.append_nil _).symm⟩
  | eof =>
    obtain rfl : s = t := Except.ok.inj h
    exact ⟨rfl, (List.append_nil _).symm⟩
  | column i =>
    obtain ⟨v, -, rfl⟩ := Except.map_eq_ok.mp h
    exact ⟨rfl, (List.append_nil _).symm⟩
  | rowId =>
    obtain ⟨v, -, rfl⟩ := Except.map_eq_ok.mp h
    exact ⟨rfl, (List.append_nil _).symm⟩

/-- **What the cursor of a session holds**: its kind, and the subjects of all calls so far. -/
theorem run_keeps {calls : List (Call RelationsRequest Relation)}
    {s : Session RelationsCursor RelationsRequest Relation}
    (h : (methods sql).Run { kind := kind } calls s) :
    s.cursor.kind = kind ∧ s.cursor.subjects = keysOf sql calls := by
  -- the invariant ties the subjects to the calls so far
  refine h.invariant
    (I := fun calls s => s.cursor.kind = kind ∧ s.cursor.subjects = keysOf sql calls) ⟨rfl, rfl⟩ ?_
  rintro calls t call u ⟨hkind, hsubjects⟩ ⟨-, hcall⟩
  obtain ⟨hkind', hsubjects'⟩ := perform_keeps hcall
  refine ⟨hkind'.trans hkind, ?_⟩
  rw [hsubjects', hsubjects, keysOf_snoc]

/-- No call of a history gave `Filter` a subject. -/
def Unkeyed (calls : List (Call RelationsRequest Relation)) : Prop :=
  ∀ server idxNum argv, .filter server idxNum argv ∈ calls → idxNum = 0

/-- A session has no subjects exactly when no call gave one. -/
theorem keysOf_eq_nil_iff {calls : List (Call RelationsRequest Relation)}
    {s : Session RelationsCursor RelationsRequest Relation}
    (h : (methods sql).Run { kind := kind } calls s) : keysOf sql calls = [] ↔ Unkeyed calls := by
  rw [keysOf, List.filterMap_eq_nil_iff]
  constructor
  · intro hnone server idxNum argv hmem
    have hkey := hnone _ hmem
    rw [keyOf_filter] at hkey
    by_contra hidx
    rw [if_neg hidx, Option.map_eq_none_iff] at hkey
    obtain ⟨t, u, -, hcall⟩ := h.exists_step hmem
    obtain ⟨⟨rc, req, c⟩, hf, -⟩ := Except.map_eq_ok.mp hcall
    obtain ⟨subjects, hs, -⟩ := filter_ok hf
    unfold pushSubject at hs
    rw [if_pos hidx, argAt, hkey] at hs
    exact absurd hs (by simp [Bind.bind, Except.bind])
  · intro hunkeyed call hmem
    cases call with
    | filter server idxNum argv => rw [keyOf_filter, if_pos (hunkeyed server idxNum argv hmem)]
    | next => rfl
    | eof => rfl
    | column i => rfl
    | rowId => rfl

end ClangQL
