import ClangQL.Refs.Completeness
import ClangQL.Relations.Join
import ClangQL.Symbols.Cursor

/-!
# The cursors as iterators

The scan of a session belongs to its latest call of `Filter`: the request is the one that this
call sent, from the state that the calls before it had led to, the results are those of the
server of the call, and the position counts the calls of `Next` since. Each of the three cursors
is an iterator over these results, in every session of calls that SQLite may make.

## Main definitions

* `VirtualTableCursor.SendsWhen`: the plan numbers with which `Filter` sends a request
* `VirtualTableCursor.StartedBy`, `VirtualTableCursor.LatestFilter`: the latest call of `Filter`
  in a history, and its scan
* `VirtualTable.IteratorAfter`, `VirtualTable.RefinesIterator`: after a history, and after every
  history, the cursor of a table is an iterator

## Main results

* `VirtualTableCursor.SendsWhen.latestFilter`: in every session, the scan is that of the latest
  `Filter`
* `cursors_refine_iterator`: the three cursors are iterators
-/

namespace ClangQL

/-! ## The latest Filter -/

namespace VirtualTableCursor

variable {σ Req M : Type} (C : VirtualTableCursor σ Req M) (asks : Int32 → Prop)

/-- Whether a call is `Next`. -/
def isNext : Call Req M → Bool
  | .next => true
  | _ => false

/-- The calls of `Next` in a history. -/
def nextCount (calls : List (Call Req M)) : ℕ := calls.countP isNext

/-- A `Filter` that completes has sent a request exactly for the plan numbers in `asks`. -/
def SendsWhen : Prop :=
  ∀ ⦃server : Req → List (Reply M)⦄ ⦃idxNum argv c rc req c'⦄,
    C.filter server idxNum argv c = .ok (rc, req, c') → (req.isSome ↔ asks idxNum)

/-- The scan was started by the call `filter server idxNum argv` after the calls `before`, and
the calls `after` have come since. -/
structure StartedBy (fresh : σ) (before : List (Call Req M)) (server : Req → List (Reply M))
    (idxNum : Int32) (argv : List Value) (after : List (Call Req M)) (scan : Scan Req M) :
    Prop where
  latest : ∀ call ∈ after, startsScan call = false
  /-- The call was made on the cursor in the state that the calls before had led to. -/
  sent : ∃ session rc c', C.Run fresh before session ∧
    C.filter server idxNum argv session.cursor = .ok (rc, scan.request, c')
  asked : asks idxNum → ∃ req, scan.request = some req ∧ scan.rows = results (server req)
  idle : ¬ asks idxNum → scan.request = none ∧ scan.rows = []
  pos : scan.pos = nextCount after

/-- The scan was started by the latest call of `Filter` in the history. -/
def LatestFilter (fresh : σ) (calls : List (Call Req M)) (scan : Scan Req M) : Prop :=
  ∃ before server idxNum argv after, calls = before ++ .filter server idxNum argv :: after ∧
    C.StartedBy asks fresh before server idxNum argv after scan

variable {C asks} {fresh : σ} {s t : Session σ Req M} {calls : List (Call Req M)}
  {call : Call Req M} {scan : Scan Req M}

theorem nextCount_snoc (calls : List (Call Req M)) (call : Call Req M) :
    nextCount (calls ++ [call]) = nextCount calls + if isNext call then 1 else 0 := by
  rw [nextCount, List.countP_append, List.countP_singleton, nextCount]

/-- A call that starts no scan moves the position of the latest one, if it is `Next`. -/
theorem LatestFilter.snoc (h : C.LatestFilter asks fresh calls scan)
    (hcall : startsScan call = false) :
    C.LatestFilter asks fresh (calls ++ [call])
      { scan with pos := scan.pos + if isNext call then 1 else 0 } := by
  obtain ⟨before, server, idxNum, argv, after, rfl, hstarted⟩ := h
  refine ⟨before, server, idxNum, argv, after ++ [call], by simp, ?_, hstarted.sent,
    hstarted.asked, hstarted.idle, ?_⟩
  · intro call' hcall'
    rcases List.mem_append.mp hcall' with hcall' | hcall'
    · exact hstarted.latest call' hcall'
    · rw [List.mem_singleton.mp hcall', hcall]
  · rw [nextCount_snoc, ← hstarted.pos]

/-- A completed `Filter` starts the scan of its own request. -/
theorem SendsWhen.startedBy (h : C.SendsWhen asks) (hrun : C.Run fresh calls s)
    {server : Req → List (Reply M)} {idxNum : Int32} {argv : List Value} {rc : ResultCode}
    {req : Option Req} {c : σ} (hf : C.filter server idxNum argv s.cursor = .ok (rc, req, c)) :
    C.StartedBy asks fresh calls server idxNum argv []
      ⟨req, (req.map fun r => results (server r)).getD [], 0⟩ where
  latest := List.forall_mem_nil _
  sent := ⟨s, rc, c, hrun, hf⟩
  asked hasks := by
    obtain ⟨r, rfl⟩ := Option.isSome_iff_exists.mp ((h hf).mpr hasks)
    exact ⟨r, rfl, rfl⟩
  idle hasks := by
    obtain rfl := Option.not_isSome_iff_eq_none.mp (mt (h hf).mp hasks)
    exact ⟨rfl, rfl⟩
  pos := rfl

/-- **The latest Filter**: in every session, the scan is that of the latest call of `Filter`,
and its position the number of calls of `Next` since. -/
theorem SendsWhen.latestFilter (h : C.SendsWhen asks) (hrun : C.Run fresh calls s)
    (hscan : s.scan = some scan) : C.LatestFilter asks fresh calls scan := by
  induction hrun generalizing scan with
  | nil => exact absurd hscan (by simp)
  | @snoc calls t u call hrun hstep ih =>
    obtain ⟨-, hcall⟩ := hstep
    have hsame : u = t → isNext call = false → startsScan call = false →
        C.LatestFilter asks fresh (calls ++ [call]) scan := by
      rintro rfl hnext hstarts
      have h := (ih hscan).snoc hstarts
      rwa [hnext] at h
    cases call with
    | filter server idxNum argv =>
      obtain ⟨⟨rc, req, c⟩, hf, rfl⟩ := Except.map_eq_ok.mp hcall
      obtain rfl := Option.some.inj hscan
      exact ⟨calls, server, idxNum, argv, [], rfl, h.startedBy hrun hf⟩
    | next =>
      obtain ⟨⟨rc, c⟩, -, rfl⟩ := Except.map_eq_ok.mp hcall
      obtain ⟨scan', hscan', rfl⟩ := Option.map_eq_some_iff.mp hscan
      exact (ih hscan').snoc rfl
    | eof => exact hsame (Except.ok.inj hcall).symm rfl rfl
    | column i =>
      obtain ⟨v, -, rfl⟩ := Except.map_eq_ok.mp hcall
      exact hsame rfl rfl rfl
    | rowId =>
      obtain ⟨v, -, rfl⟩ := Except.map_eq_ok.mp hcall
      exact hsame rfl rfl rfl

end VirtualTableCursor

/-! ## Iterators -/

namespace VirtualTable

variable {σ Req M : Type} (T : VirtualTable σ Req M) (asks : Int32 → Prop)
  (rowOf : Req → M → Row)

/-- **The cursor is an iterator** after the calls `calls` have led to `session`: over the results
of its latest `Filter`, which has sent a request if its plan number is in `asks`. -/
structure IteratorAfter (calls : List (Call Req M)) (session : Session σ Req M) : Prop where
  latest : ∀ scan, session.scan = some scan → T.cursor.LatestFilter asks T.fresh calls scan
  reads : ∀ scan, session.scan = some scan → T.cursor.IteratorAt rowOf session.cursor scan
  safe : ∀ call, T.cursor.Allowed session call →
    T.cursor.perform session call ≠ .error (.undefined .nullStream)
  /-- A `Filter` under the plan of a query completes, unless NULL is among the arguments. -/
  completes : ∀ server terms, (∀ v ∈ T.args terms, v ≠ .null) → ∃ session',
    T.cursor.perform session (.filter server (T.plan terms).idxNum (T.args terms)) = .ok session'

/-- **The cursors of a table are iterators**, in every session of allowed calls. -/
def RefinesIterator : Prop :=
  ∀ calls session, T.cursor.Run T.fresh calls session → T.IteratorAfter asks rowOf calls session

variable {T asks rowOf}

theorem refinesIterator (h : T.cursor.Iterates rowOf) (hsends : T.cursor.SendsWhen asks)
    (hscans : ∀ server terms c, (∀ v ∈ T.args terms, v ≠ .null) →
      ∃ rows, T.Scans server terms c rows) : T.RefinesIterator asks rowOf := by
  intro calls session hrun
  refine ⟨fun scan hscan => hsends.latestFilter hrun hscan,
    fun scan hscan => h.iteratorAt hrun hscan, fun call hallowed => h.safe hrun hallowed, ?_⟩
  intro server terms hnull
  obtain ⟨rows, -, req, c, hf, -⟩ := hscans server terms session.cursor hnull
  rw [VirtualTableCursor.perform, hf]
  exact ⟨_, rfl⟩

end VirtualTable

/-! ## The three cursors -/

variable {sql : Sqlite} {terms : List Term}

theorem SymbolsCursor.sendsWhen (sql : Sqlite) :
    (SymbolsCursor.methods sql).SendsWhen fun _ => True := by
  intro server idxNum argv c rc req c' hf
  obtain ⟨r, -, rfl, -⟩ := SymbolsCursor.filter_ok hf
  exact iff_of_true rfl trivial

theorem RelationsCursor.sendsWhen (sql : Sqlite) :
    (RelationsCursor.methods sql).SendsWhen fun _ => True := by
  intro server idxNum argv c rc req c' hf
  obtain ⟨subjects, -, rfl, -⟩ := RelationsCursor.filter_ok hf
  exact iff_of_true rfl trivial

/-- Only the plan number 0 makes no request. -/
theorem RefsCursor.sendsWhen (sql : Sqlite) : (RefsCursor.methods sql).SendsWhen (· ≠ 0) := by
  intro server idxNum argv c rc req c' hf
  rcases RefsCursor.filter_ok hf with ⟨hidx, rfl, -⟩ | ⟨hidx, d, -, rfl, -⟩
  · exact iff_of_false (by simp) (not_not.mpr hidx)
  · exact iff_of_true rfl hidx

theorem refsTable_scans_of_ne_null (server : RefsRequest → List (Reply Ref)) (c : RefsCursor)
    (hnull : ∀ v ∈ (refsTable sql).args terms, v ≠ .null) :
    ∃ rows, (refsTable sql).Scans server terms c rows := by
  have hid : RefsTable.chosen terms 0 ≠ some .null := by
    intro hid
    refine hnull .null ?_ rfl
    rw [refsTable_args, RefsTable.arguments, hid]
    exact List.mem_append_left _ (List.mem_singleton_self _)
  by_cases hidx : RefsTable.idxNumOf terms = 0
  · exact ⟨_, refsTable_scans_nil hidx c⟩
  · exact ⟨_, refsTable_scans hid hidx c⟩

theorem relationsTable_scans_of_ne_null {kind : RelationKind}
    (server : RelationsRequest → List (Reply Relation)) (c : RelationsCursor)
    (hnull : ∀ v ∈ (relationsTable sql kind).args terms, v ≠ .null) :
    ∃ rows, (relationsTable sql kind).Scans server terms c rows := by
  cases hv : RelationsTable.chosen terms with
  | none => exact ⟨_, relationsTable_scans_unkeyed hv c⟩
  | some v =>
    refine ⟨_, relationsTable_scans hv (hnull v ?_) c⟩
    rw [relationsTable_args, hv]
    exact List.mem_singleton_self v

/-- **The three cursors are iterators.** The refs cursor also is one after a `Filter` with plan
number 0, which makes no request and has no row. -/
theorem cursors_refine_iterator (sql : Sqlite) :
    (symbolsTable sql).RefinesIterator (fun _ => True) (fun _ m => symbolRow m) ∧
      ((refsTable sql).RefinesIterator (· ≠ 0) refRow ∧
        ∀ session server argv, ∃ cursor, (refsTable sql).cursor.perform session
          (.filter server 0 argv) = .ok ⟨cursor, some ⟨none, [], 0⟩⟩ ∧ cursor.eof = true) ∧
        ∀ kind, (relationsTable sql kind).RefinesIterator (fun _ => True) fun _ m =>
          relationRow (relationPair m) :=
  ⟨VirtualTable.refinesIterator (symbolsTable_iterates sql) (SymbolsCursor.sendsWhen sql)
      fun server terms c hnull => ⟨_, symbolsTable_scans (by simpa using hnull) c⟩,
    ⟨VirtualTable.refinesIterator (refsTable_iterates sql) (RefsCursor.sendsWhen sql)
      fun server _ c => refsTable_scans_of_ne_null server c, fun _ _ _ => ⟨_, rfl, rfl⟩⟩,
    fun _ => VirtualTable.refinesIterator (relationsTable_iterates sql)
      (RelationsCursor.sendsWhen sql) fun server _ c => relationsTable_scans_of_ne_null server c⟩

end ClangQL
