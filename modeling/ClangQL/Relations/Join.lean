import ClangQL.Relations.History

/-!
# Joins over a relation table

The inner cursor of a join is filtered once for each outer row, and every request asks for the
subjects of all outer rows so far. SQLite tests the equality on `Subject` again, and that cuts
the rows of each scan down to those of its own outer row.

## Main definitions

* `AnswersRelations`: a server that answers with the pairs of a relation
* `matchingPairs`: the rows of the pairs of a subject that satisfy all terms

## Main results

* `relationsTable_scans`: a scan has the pairs of all subjects so far
* `relationsTable_answers`: its answer has the rows of its own outer row
-/

namespace ClangQL

open RelationsTable RelationsCursor

/-- The server answers from the relations `pairs`, which have NUL-free ids: a request for some
subjects with the pairs of these subjects, each once. -/
structure AnswersRelations (server : RelationsRequest → List (Reply Relation))
    (pairs : RelationKind → List (Str × Str)) : Prop where
  nodup : ∀ kind, (pairs kind).Nodup
  nulFree : ∀ kind, ∀ x ∈ pairs kind, NulFree x.1 ∧ NulFree x.2
  answers : ∀ kind subjects,
    ((results (server ⟨subjects, some kind.value⟩)).map relationPair).Perm
      ((pairs kind).filter fun x => x.1 ∈ subjects)

/-- The message of a pair. -/
def relationOf (x : Str × Str) : Relation :=
  { subjectId := some x.1, object := some { id := some x.2 } }

/-- A server with the relations `pairs`. -/
def relationsServer (pairs : RelationKind → List (Str × Str)) (req : RelationsRequest) :
    List (Reply Relation) :=
  replies (((pairs (if req.predicate = some 1 then .overriddenBy else .baseOf)).filter fun x =>
    x.1 ∈ req.subjects).map relationOf)

theorem relationsServer_answersRelations {pairs : RelationKind → List (Str × Str)}
    (hnodup : ∀ kind, (pairs kind).Nodup)
    (hnulFree : ∀ kind, ∀ x ∈ pairs kind, NulFree x.1 ∧ NulFree x.2) :
    AnswersRelations (relationsServer pairs) pairs where
  nodup := hnodup
  nulFree := hnulFree
  answers kind subjects := by
    have hkind : (if some kind.value = some (1 : UInt32) then RelationKind.overriddenBy
        else .baseOf) = kind := by cases kind <;> rfl
    rw [relationsServer, results_replies, hkind, List.map_map]
    exact .of_eq (List.map_id'' (fun _ => rfl) _)

/-- The rows of the pairs of the subject `v` that satisfy all terms. -/
def matchingPairs (sql : Sqlite) (pairs : List (Str × Str)) (terms : List Term) (v : Str) :
    List Row :=
  ((pairs.filter fun x => x.1 = v).map relationRow).filter
    (satisfies sql RelationsTable.affinity terms)

variable {sql : Sqlite} {kind : RelationKind} {terms : List Term} {v : Value}
  {server : RelationsRequest → List (Reply Relation)} {c : RelationsCursor}

@[simp] theorem relationsTable_idxNum : ((relationsTable sql kind).plan terms).idxNum =
    if (chosen terms).isSome then 1 else 0 := bestIndex_idxNum terms

@[simp] theorem relationsTable_args :
    (relationsTable sql kind).args terms = (chosen terms).toList := bestIndex_args terms

/-- No test is omitted. -/
theorem relationsTable_kept (rows : List Row) : (relationsTable sql kind).kept sql terms rows =
    rows.filter (satisfies sql RelationsTable.affinity terms) :=
  VirtualTable.kept_eq_filter_of_rechecks rows (bestIndex_rechecks _)

/-- The request of a scan: the subjects collected before, and the key of the query. -/
def RelationsCursor.requestOf (sql : Sqlite) (c : RelationsCursor) (v : Value) :
    RelationsRequest :=
  ⟨c.subjects ++ [keyText sql v], some c.kind.value⟩

theorem relationsTable_scans_of_push {subjects : List Str}
    (hpush : pushSubject sql ((relationsTable sql kind).plan terms).idxNum
      ((relationsTable sql kind).args terms) c.subjects = .ok subjects) :
    (relationsTable sql kind).Scans server terms c
      (((results (server ⟨subjects, some c.kind.value⟩)).map relationPair).map relationRow) := by
  have hplan : ((relationsTable sql kind).bestIndex (.start (terms.map (·.constraint)))).1 =
      sqliteOk := bestIndex_ok _
  rw [List.map_map]
  exact VirtualTable.scans_of_filter (relationsTable_iterates sql) hplan (filter_eq hpush)

/-- **A scan has the pairs of all subjects so far**, and of its own key. -/
theorem relationsTable_scans (hv : chosen terms = some v) (hnull : v ≠ .null)
    (c : RelationsCursor) :
    (relationsTable sql kind).Scans server terms c
      (((results (server (c.requestOf sql v))).map relationPair).map relationRow) := by
  apply relationsTable_scans_of_push
  rw [relationsTable_idxNum, relationsTable_args, hv]
  exact pushSubject_key (by rw [Option.isSome_some, if_pos rfl]; decide) rfl hnull

theorem relationRow_column_zero (x : Str × Str) :
    (relationRow x).column 0 = .ok (.text (cStr x.1)) := rfl

/-- Without a key a scan has the pairs of the subjects so far. -/
theorem relationsTable_scans_unkeyed (hv : chosen terms = none) (c : RelationsCursor) :
    (relationsTable sql kind).Scans server terms c
      (((results (server ⟨c.subjects, some c.kind.value⟩)).map relationPair).map relationRow) := by
  apply relationsTable_scans_of_push
  rw [relationsTable_idxNum, hv]
  rfl

/-- A pair satisfies an equality on `Subject` only with its own subject. -/
theorem subject_eq_of_satisfies {x : Str × Str} {t : Term} {s : Str} (hx : NulFree x.1)
    (hs : NulFree s) (ht : firstTerm isSubject terms = some t) (hrhs : t.rhs = .text s)
    (hsat : satisfies sql RelationsTable.affinity terms (relationRow x) = true) : x.1 = s := by
  obtain ⟨hcolumn, hop⟩ := isSubject_iff.mp (firstTerm_wanted ht).2
  have hkey := keyText_eq_of_satisfies rfl (relationRow_column_zero x) (nulFree_cStr _)
    (firstTerm_mem ht) hcolumn hop hsat
  rw [hrhs, keyText_text sql hs, cStr_eq_self hx] at hkey
  exact hkey.symm

/-- The equality on `Subject` cuts the pairs of several subjects down to those of its own. -/
theorem filter_subjects_eq {pairs : List (Str × Str)} {subjects : List Str} {t : Term} {s : Str}
    (hpairs : ∀ x ∈ pairs, NulFree x.1) (hs : NulFree s)
    (ht : firstTerm isSubject terms = some t) (hrhs : t.rhs = .text s) (hmem : s ∈ subjects) :
    ((pairs.filter fun x => x.1 ∈ subjects).map relationRow).filter
      (satisfies sql RelationsTable.affinity terms) = matchingPairs sql pairs terms s := by
  rw [matchingPairs, List.filter_map, List.filter_map, List.filter_filter, List.filter_filter]
  refine congrArg _ (List.filter_congr fun x hx => ?_)
  by_cases hsat : satisfies sql RelationsTable.affinity terms (relationRow x) = true
  · obtain rfl := subject_eq_of_satisfies (hpairs x hx) hs ht hrhs hsat
    simp [hmem]
  · simp [hsat]

/-- **Joins are correct at every outer row.** After any calls on the cursor, a query with a
usable equality on `Subject`, the first with a text `s` without NUL, has for its answer the rows
of the pairs of `s` that satisfy all its terms, each once. The terms are compared plainly
(`Comparison.plain`). -/
theorem relationsTable_answers (sql : Sqlite) {server : RelationsRequest → List (Reply Relation)}
    {pairs : RelationKind → List (Str × Str)} (hserver : AnswersRelations server pairs)
    {kind : RelationKind} {calls : List (Call RelationsRequest Relation)}
    {session : Session RelationsCursor RelationsRequest Relation}
    (hrun : (relationsTable sql kind).cursor.Run (relationsTable sql kind).fresh calls session)
    {terms : List Term} {s : Str} (hs : NulFree s) (hkey : chosen terms = some (.text s)) :
    (relationsTable sql kind).Answers sql server terms session.cursor
        (matchingPairs sql (pairs kind) terms s) ∧
      ((pairs kind).filter fun x => x.1 = s).Nodup := by
  refine ⟨⟨_, relationsTable_scans hkey (by simp) session.cursor, ?_⟩,
    (hserver.nodup kind).filter _⟩
  obtain ⟨hkind, -⟩ := run_keeps hrun
  obtain ⟨t, ht, hrhs⟩ := Option.map_eq_some_iff.mp hkey
  have hreq : session.cursor.requestOf sql (.text s) =
      ⟨session.cursor.subjects ++ [s], some kind.value⟩ := by
    rw [requestOf, hkind, keyText_text sql hs]
  rw [relationsTable_kept, hreq, ← filter_subjects_eq (fun x hx => (hserver.nulFree kind x hx).1) hs
    ht hrhs (List.mem_append_right session.cursor.subjects (List.mem_singleton_self s))]
  exact ((hserver.answers kind _).map relationRow).filter _

/-- The second outer row of a join. -/
theorem relationsTable_answers_second :
    (relationsTable .sample .baseOf).Answers .sample
        (relationsServer fun _ => [(['x'], ['o']), (['y'], ['o'])])
        [.equality 0 (.text ['y'])] ⟨.baseOf, false, some ⟨[.finalResult], .streamResult
          (relationOf (['x'], ['o']))⟩, [['x']]⟩
        (matchingPairs .sample [(['x'], ['o']), (['y'], ['o'])] [.equality 0 (.text ['y'])] ['y']) ∧
      ([(['x'], ['o']), (['y'], ['o'])].filter fun x => x.1 = ['y']).Nodup :=
  @relationsTable_answers .sample _ _
    (relationsServer_answersRelations (fun _ => by decide) (by simp [NulFree])) .baseOf
    [.filter (relationsServer fun _ => [(['x'], ['o']), (['y'], ['o'])]) 1 [.text ['x']]] ⟨_, _⟩
    (.snoc .nil ⟨trivial, rfl⟩) _ _ (by decide) rfl

end ClangQL
