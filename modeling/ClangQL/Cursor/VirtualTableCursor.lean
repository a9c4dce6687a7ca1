import ClangQL.Cursor.ResultStream
import ClangQL.Library.ExceptBind
import ClangQL.Library.LabelledRun
import ClangQL.Library.ListSource

/-!
# Cursors and their sessions

`VirtualTableCursor` is the interface through which SQLite scans a table: `Filter` starts a
scan by one request to the server, `Eof` tests for its end, `Column` and `RowId` read the row
at hand and `Next` moves on. A session is a sequence of calls in the order SQLite's protocol
allows, each `Filter` with replies of its own. The cursors refine a plain iterator over the
results of the latest `Filter`: `Iterates` states what a single `Filter` owes, and every
session then keeps it.

## Main definitions

* `Row`: a row, as `Column` and `RowId` report it
* `VirtualTableCursor σ Req M`: the interface, on requests `Req` and results `M`
* `VirtualTableCursor.rows`, `VirtualTableCursor.readings`: a scan as a source of rows, and of
  results with their rows
* `Call`, `Scan`, `Session`, `VirtualTableCursor.Run`: calls, and runs of allowed calls
* `VirtualTableCursor.Iterates`: after `Filter`, the cursor walks over the results sent
* `VirtualTableCursor.IteratorAt`: the cursor reads as an iterator at a position of its scan

## Main results

* `VirtualTableCursor.readings_yields`: a cursor that drives a stream walks over its results
* `VirtualTableCursor.eq_of_run_of_eof`: a scan that has ended stays as it is
* `VirtualTableCursor.Iterates.iteratorAt`: in every session, the cursor is an iterator
* `VirtualTableCursor.Iterates.safe`: no allowed call reads through a null stream
-/

namespace ClangQL

/-- A row, as the columns and the rowid its cursor reports. -/
structure Row where
  column : Int → Outcome Value
  rowId : Outcome Int

/-- The virtual methods of a cursor with state `σ`, whose `Filter` may send one request; the
server answers a request with a list of replies. `result?` is the result held by the last
reply of the stream. -/
structure VirtualTableCursor (σ Req M : Type) where
  filter : (Req → List (Reply M)) → Int32 → List Value → σ →
    Outcome (ResultCode × Option Req × σ)
  next : σ → Outcome (ResultCode × σ)
  eof : σ → Bool
  column : σ → Int → Outcome Value
  rowId : σ → Outcome Int
  result? : σ → Option M

/-- A call of SQLite on a cursor; a `Filter` meets a server of its own. -/
inductive Call (Req M : Type)
  | filter (server : Req → List (Reply M)) (idxNum : Int32) (argv : List Value)
  | next
  | eof
  | column (idxCol : Int)
  | rowId

/-- A scan: the request its `Filter` sent, the results the server sent before any other
message, and the number of calls of `Next` since. -/
structure Scan (Req M : Type) where
  request : Option Req
  rows : List M
  pos : ℕ

/-- A cursor with the scan its latest `Filter` started. -/
structure Session (σ Req M : Type) where
  cursor : σ
  scan : Option (Scan Req M)

namespace VirtualTableCursor

variable {σ Req M : Type} (C : VirtualTableCursor σ Req M)

/-- `module_rowid`: a `std::exception` becomes an error code. -/
def moduleRowid (c : σ) : Outcome (ResultCode × Option Int) :=
  match C.rowId c with
  | .ok rowid => .ok (sqliteOk, some rowid)
  | .error .exception => .ok (sqliteError, none)
  | .error stop => .error stop

/-- `module_rowid` catches no undefined behaviour. -/
theorem moduleRowid_eq_undefined {c : σ} {u : Undefined} :
    C.moduleRowid c = .error (.undefined u) ↔ C.rowId c = .error (.undefined u) := by
  unfold moduleRowid
  rcases C.rowId c with (_ | v) | rowid <;> simp

/-! ## Scans -/

/-- The row at hand. -/
def row (c : σ) : Row := ⟨C.column c, C.rowId c⟩

/-- A completed `Next`. -/
def advance (c : σ) : Option σ :=
  match C.next c with
  | .ok (rc, c') => if rc = sqliteOk then some c' else none
  | .error _ => none

theorem advance_eq_some {c c' : σ} : C.advance c = some c' ↔ C.next c = .ok (sqliteOk, c') := by
  unfold advance
  constructor
  · intro h
    split at h
    · next rc d hd =>
      split_ifs at h with hrc
      obtain rfl : d = c' := Option.some.inj h
      rw [hd, hrc]
    · exact absurd h (by simp)
  · intro h
    simp [h]

/-- A scan as SQLite sees it: test `Eof`, read the row, call `Next`. -/
def rows : ListSource σ Row := ⟨C.eof, fun c => some (C.row c), C.advance⟩

/-- A scan with the results the rows are read from. -/
def readings : ListSource σ (M × Row) :=
  ⟨C.eof, fun c => (C.result? c).map (·, C.row c), C.advance⟩

theorem rows_yields {l : List (M × Row)} {c : σ} (h : C.readings.Yields l c) :
    C.rows.Yields (l.map Prod.snd) c := by
  refine h.map Prod.snd (fun _ => rfl) (fun s a ha => ?_) (fun _ => rfl)
  obtain ⟨m, -, rfl⟩ := Option.map_eq_some_iff.mp ha
  rfl

/-- **A cursor that drives a stream walks over its results**: `m_eof` is the negated result of
the stream's `Next`, and rows are read from the last reply. -/
theorem readings_yields {f : M → Row} (mk : Bool → ResultStream M → σ)
    (heof : ∀ b s, C.eof (mk b s) = b)
    (hresult : ∀ b s, C.result? (mk b s) = s.reply.result?)
    (hrow : ∀ b s m, s.reply.result? = some m → C.row (mk b s) = f m)
    (hnext : ∀ b s, C.next (mk b s) = .ok (sqliteOk, mk (!s.next.1) s.next.2))
    (rs : List (Reply M)) (r : Reply M) :
    C.readings.Yields ((results rs).map fun m => (m, f m))
      (mk (!(ResultStream.next ⟨rs, r⟩).1) (ResultStream.next ⟨rs, r⟩).2) := by
  -- induction on the replies: a result is the next item, any other message ends the walk
  induction rs generalizing r with
  | nil => exact heof _ _
  | cons q rs ih =>
    cases q with
    | streamResult m =>
      have hm : (Reply.streamResult m).result? = some m := rfl
      rw [ResultStream.next_streamResult]
      refine ⟨heof _ _, ?_, _, C.advance_eq_some.mpr (hnext _ _), ih _⟩
      show (C.result? _).map _ = _
      rw [hresult, hrow _ _ m hm]
      rfl
    | finalResult => exact heof _ _
    | notSet => exact heof _ _

/-! ## Sessions -/

/-- The calls SQLite may make: `Filter` at any time, `Eof` after it, and the others while
`Eof` is 0. -/
def Allowed (s : Session σ Req M) : Call Req M → Prop
  | .filter .. => True
  | .eof => s.scan.isSome
  | .next | .column _ | .rowId => s.scan.isSome ∧ C.eof s.cursor = false

/-- A call on the cursor of a session. -/
def perform (s : Session σ Req M) : Call Req M → Outcome (Session σ Req M)
  | .filter server idxNum argv =>
    (C.filter server idxNum argv s.cursor).map fun (_, req, c) =>
      ⟨c, some ⟨req, (req.map fun r => results (server r)).getD [], 0⟩⟩
  | .next =>
    (C.next s.cursor).map fun (_, c) =>
      ⟨c, s.scan.map fun scan => { scan with pos := scan.pos + 1 }⟩
  | .eof => .ok s
  | .column i => (C.column s.cursor i).map fun _ => s
  | .rowId => (C.rowId s.cursor).map fun _ => s

/-- A completed call that the protocol allows. -/
def Step (s : Session σ Req M) (call : Call Req M) (t : Session σ Req M) : Prop :=
  C.Allowed s call ∧ C.perform s call = .ok t

/-- Allowed and completed calls, from a cursor just opened. -/
abbrev Run (fresh : σ) (calls : List (Call Req M)) (s : Session σ Req M) : Prop :=
  LabelledRun C.Step ⟨fresh, none⟩ calls s

/-- Whether a call starts a scan. -/
def startsScan : Call Req M → Bool
  | .filter .. => true
  | _ => false

variable {C} in
/-- **A scan that has ended stays as it is**: no call but another `Filter` changes it. -/
theorem eq_of_run_of_eof {s t : Session σ Req M} {calls : List (Call Req M)}
    (hrun : LabelledRun C.Step s calls t) (heof : C.eof s.cursor = true)
    (hcalls : ∀ call ∈ calls, startsScan call = false) : t = s := by
  induction hrun with
  | nil => rfl
  | @snoc calls t u call hrun hstep ih =>
    obtain rfl := ih fun call hcall => hcalls call (List.mem_append_left _ hcall)
    have hcall := hcalls call (List.mem_append_right _ (List.mem_singleton_self call))
    obtain ⟨hallowed, hcall'⟩ := hstep
    cases call with
    | filter server idxNum argv => exact absurd hcall (by simp [startsScan])
    | eof => exact (Except.ok.inj hcall').symm
    | next => exact absurd (hallowed.2.symm.trans heof) (by simp)
    | column i => exact absurd (hallowed.2.symm.trans heof) (by simp)
    | rowId => exact absurd (hallowed.2.symm.trans heof) (by simp)

/-- What `Filter` owes: when it sends a request, the cursor walks over the results the server
sends, each shown as the row `rowOf` of the request and the result; when it sends none, the
scan is over. -/
structure Iterates (rowOf : Req → M → Row) : Prop where
  filter_request : ∀ {server idxNum argv c rc req c'},
    C.filter server idxNum argv c = .ok (rc, some req, c') →
      C.readings.Yields ((results (server req)).map fun m => (m, rowOf req m)) c'
  filter_none : ∀ {server idxNum argv c rc c'},
    C.filter server idxNum argv c = .ok (rc, none, c') → C.eof c' = true
  filter_safe : ∀ server idxNum argv c,
    C.filter server idxNum argv c ≠ .error (.undefined .nullStream)
  column_safe : ∀ req m i, (rowOf req m).column i ≠ .error (.undefined .nullStream)
  rowId_safe : ∀ req m, (rowOf req m).rowId ≠ .error (.undefined .nullStream)

/-- The cursor is an iterator over the results of its scan: `Eof` is 0 exactly while one is
left, and then the row at hand is read from the result at the position, which the last reply
holds, and `Next` completes. -/
structure IteratorAt (rowOf : Req → M → Row) (c : σ) (scan : Scan Req M) : Prop where
  pos_le : scan.pos ≤ scan.rows.length
  eof_iff : C.eof c = false ↔ scan.pos < scan.rows.length
  reads : ∀ m, scan.rows[scan.pos]? = some m →
    ∃ req, scan.request = some req ∧ C.result? c = some m ∧ C.row c = rowOf req m ∧
      ∃ c', C.next c = .ok (sqliteOk, c')

namespace Iterates

variable {C} {rowOf : Req → M → Row} (h : C.Iterates rowOf)

/-- The invariant of sessions: the cursor walks over the results from the position on. -/
def Walks (C : VirtualTableCursor σ Req M) (rowOf : Req → M → Row) (s : Session σ Req M) : Prop :=
  ∀ scan, s.scan = some scan → scan.pos ≤ scan.rows.length ∧
    ((∃ req, scan.request = some req ∧
        C.readings.Yields ((scan.rows.drop scan.pos).map fun m => (m, rowOf req m)) s.cursor) ∨
      scan.rows = [] ∧ C.eof s.cursor = true)

include h in
theorem walks_step {s t : Session σ Req M} {call : Call Req M} (hs : Walks C rowOf s)
    (hstep : C.Step s call t) : Walks C rowOf t := by
  obtain ⟨hallowed, hcall⟩ := hstep
  cases call with
  | filter server idxNum argv =>
    obtain ⟨⟨rc, req, c⟩, hf, rfl⟩ := Except.map_eq_ok.mp hcall
    rintro scan ⟨⟩
    refine ⟨Nat.zero_le _, ?_⟩
    cases req with
    | some req => exact Or.inl ⟨req, rfl, h.filter_request hf⟩
    | none => exact Or.inr ⟨rfl, h.filter_none hf⟩
  | next =>
    obtain ⟨⟨rc, c⟩, hn, rfl⟩ := Except.map_eq_ok.mp hcall
    intro scan' hscan'
    obtain ⟨scan, hscan, rfl⟩ := Option.map_eq_some_iff.mp hscan'
    obtain ⟨hpos, ⟨req, hreq, hy⟩ | ⟨-, heof⟩⟩ := hs scan hscan
    · have hlt : scan.pos < scan.rows.length := by
        by_contra hge
        rw [List.drop_of_length_le (by omega)] at hy
        exact absurd (hallowed.2.symm.trans hy) (by simp)
      rw [List.drop_eq_getElem_cons hlt] at hy
      obtain ⟨-, -, d, hd, hy⟩ := hy
      have he := (C.advance_eq_some.mp hd).symm.trans hn
      obtain ⟨-, rfl⟩ := Prod.mk.inj (Except.ok.inj he)
      exact ⟨hlt, Or.inl ⟨req, hreq, hy⟩⟩
    · exact absurd (hallowed.2.symm.trans heof) (by simp)
  | eof => exact Except.ok.inj hcall ▸ hs
  | column i =>
    obtain ⟨v, -, rfl⟩ := Except.map_eq_ok.mp hcall
    exact hs
  | rowId =>
    obtain ⟨v, -, rfl⟩ := Except.map_eq_ok.mp hcall
    exact hs

include h in
theorem walks {fresh : σ} {calls : List (Call Req M)} {s : Session σ Req M}
    (hrun : C.Run fresh calls s) : Walks C rowOf s :=
  hrun.invariant_state (fun _ hscan => absurd hscan (by simp)) fun _ _ _ => h.walks_step

include h in
/-- **In every session the cursor is an iterator** over the results of its latest scan. -/
theorem iteratorAt {fresh : σ} {calls : List (Call Req M)} {s : Session σ Req M}
    (hrun : C.Run fresh calls s) {scan : Scan Req M} (hscan : s.scan = some scan) :
    C.IteratorAt rowOf s.cursor scan := by
  obtain ⟨hpos, ⟨req, hreq, hy⟩ | ⟨hrows, heof⟩⟩ := h.walks hrun scan hscan
  · refine ⟨hpos, ?_, fun m hm => ?_⟩
    · have hd : C.eof s.cursor = _ := hy.done_eq
      rw [hd, List.isEmpty_eq_false_iff, ne_eq, List.map_eq_nil_iff, List.drop_eq_nil_iff]
      omega
    · obtain ⟨hlt, rfl⟩ := List.getElem?_eq_some_iff.mp hm
      rw [List.drop_eq_getElem_cons hlt] at hy
      obtain ⟨-, hitem, d, hd, -⟩ := hy
      obtain ⟨m, hm, he⟩ := Option.map_eq_some_iff.mp hitem
      obtain ⟨rfl, hrow⟩ := Prod.mk.inj he
      exact ⟨req, hreq, hm, hrow, d, C.advance_eq_some.mp hd⟩
  · refine ⟨hpos, by simp [heof, hrows], fun m hm => ?_⟩
    simp [hrows] at hm

include h in
/-- **No allowed call reads through a null stream.** -/
theorem safe {fresh : σ} {calls : List (Call Req M)} {s : Session σ Req M}
    (hrun : C.Run fresh calls s) {call : Call Req M} (hallowed : C.Allowed s call) :
    C.perform s call ≠ .error (.undefined .nullStream) := by
  have hreads : s.scan.isSome ∧ C.eof s.cursor = false →
      ∃ req m, C.row s.cursor = rowOf req m ∧ ∃ c, C.next s.cursor = .ok (sqliteOk, c) := by
    rintro ⟨hsome, heof⟩
    obtain ⟨scan, hscan⟩ := Option.isSome_iff_exists.mp hsome
    have hit := h.iteratorAt hrun hscan
    have hlt := hit.eof_iff.mp heof
    obtain ⟨req, -, -, hrow, hnext⟩ := hit.reads _ (List.getElem?_eq_getElem hlt)
    exact ⟨req, _, hrow, hnext⟩
  intro hstop
  cases call with
  | filter server idxNum argv =>
    exact h.filter_safe _ _ _ _ (Except.map_eq_error.mp hstop)
  | next =>
    obtain ⟨-, -, -, c, hc⟩ := hreads hallowed
    exact absurd (hc.symm.trans (Except.map_eq_error.mp hstop)) (by simp)
  | eof => exact absurd hstop (by simp [perform])
  | column i =>
    obtain ⟨req, m, hrow, -⟩ := hreads hallowed
    have hcol : C.column s.cursor i = (rowOf req m).column i :=
      congrFun (congrArg Row.column hrow) i
    exact h.column_safe req m i (hcol ▸ Except.map_eq_error.mp hstop)
  | rowId =>
    obtain ⟨req, m, hrow, -⟩ := hreads hallowed
    have hid : C.rowId s.cursor = (rowOf req m).rowId := congrArg Row.rowId hrow
    exact h.rowId_safe req m (hid ▸ Except.map_eq_error.mp hstop)

end Iterates

end VirtualTableCursor

end ClangQL
