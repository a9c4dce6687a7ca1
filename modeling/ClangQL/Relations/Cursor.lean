import ClangQL.Cursor.Values
import ClangQL.Library.HexNumeral
import ClangQL.Relations.BestIndex

/-!
# The cursor of the relation tables

`RelationsCursor::Filter` adds the subject of its argument to those of all earlier calls, and
asks the server for the relations of all of them. The rowid is computed from the two ids, in
signed 64-bit arithmetic.

## Main definitions

* `RelationKind`: the relation of a table
* `RelationsCursor`, `relationsTable`: the cursor and its table
* `RelationsCursor.rowIdOf`: the rowid of a pair of ids
* `relationPair`, `relationRow`: the pair of a message, and its row

## Main results

* `RelationsCursor.filter_eq`: what a `Filter` asks for and leaves behind
* `relationsTable_iterates`: the cursor walks over the relations sent
-/

namespace ClangQL

/-! ## The source -/

/-- `RelationKind`, with the values of the constants. -/
inductive RelationKind
  | baseOf
  | overriddenBy
  deriving DecidableEq

/-- The value of the constant. -/
def RelationKind.value : RelationKind → UInt32
  | baseOf => 0
  | overriddenBy => 1

structure RelationsCursor where
  kind : RelationKind
  eof : Bool := false
  stream : Option (ResultStream Relation) := none
  subjects : List Str := []

namespace RelationsCursor

/-- `RelationsCursor::Next`. -/
def next (c : RelationsCursor) : Outcome (ResultCode × RelationsCursor) :=
  match c.stream with
  | some s =>
    let (more, t) := s.next
    .ok (sqliteOk, { c with eof := !more, stream := some t })
  | none => .error (.undefined .nullStream)

/-- The result of a signed 64-bit operation. -/
def checked (v : Int) : Outcome Int :=
  if -2 ^ 63 ≤ v ∧ v < 2 ^ 63 then .ok v else .error (.undefined .signedOverflow)

/-- `RowId` for the ids at hand. -/
def rowIdOf (subjectId objectId : Str) : Outcome Int := do
  let a := (strtoll16 (cStr subjectId)).1
  let b := (strtoll16 (cStr objectId)).1
  let t ← checked (a + b)
  let t' ← checked (t + 1)
  let p ← checked ((t >>> (1 : ℕ)) * t')
  checked (p + b)

/-- `RelationsCursor::RowId`. -/
def rowId (c : RelationsCursor) : Outcome Int :=
  match c.stream with
  | some s => rowIdOf s.current.getSubjectId s.current.getObjectId
  | none => .error (.undefined .nullStream)

/-- The columns of a relation. Without a case, `Column` leaves the result at NULL and does not
read the stream. -/
def column (c : RelationsCursor) (idxCol : Int) : Outcome Value :=
  match idxCol, c.stream with
  | 0, some s => .ok (resultText s.current.getSubjectId)
  | 1, some s => .ok (resultText s.current.getObjectId)
  | 0, none => .error (.undefined .nullStream)
  | 1, none => .error (.undefined .nullStream)
  | _, _ => .ok .null

/-- `m_subjects` after `if (idxNum) { m_subjects.push_back(…); }`. -/
def pushSubject (sql : Sqlite) (idxNum : Int32) (argv : List Value) (subjects : List Str) :
    Outcome (List Str) :=
  if idxNum ≠ 0 then do
    let s ← textOf sql (← argAt argv 0)
    return subjects ++ [s]
  else return subjects

/-- `RelationsCursor::Filter`. -/
def filter (sql : Sqlite) (server : RelationsRequest → List (Reply Relation)) (idxNum : Int32)
    (argv : List Value) (c : RelationsCursor) :
    Outcome (ResultCode × Option RelationsRequest × RelationsCursor) := do
  let subjects ← pushSubject sql idxNum argv c.subjects
  let req : RelationsRequest := { subjects := subjects, predicate := some c.kind.value }
  let (rc, c) ← next { c with subjects := subjects, stream := some (.open (server req)) }
  return (rc, some req, c)

/-- The virtual methods. -/
def methods (sql : Sqlite) : VirtualTableCursor RelationsCursor RelationsRequest Relation where
  filter := filter sql
  next := next
  eof c := c.eof
  column := column
  rowId := rowId
  result? c := c.stream.bind (·.reply.result?)

end RelationsCursor

/-- A relation table: `RelationsTable::BestIndex` with the cursors of `RelationsTable::Open`. -/
def relationsTable (sql : Sqlite) (kind : RelationKind) :
    VirtualTable RelationsCursor RelationsRequest Relation where
  bestIndex := RelationsTable.bestIndex
  cursor := RelationsCursor.methods sql
  fresh := { kind := kind }
  affinity := RelationsTable.affinity

/-- The ids of a relation. -/
def relationPair (m : Relation) : Str × Str := (m.getSubjectId, m.getObjectId)

/-- The row shown for a pair of ids. -/
def relationRow (pair : Str × Str) : Row where
  column
    | 0 => .ok (resultText pair.1)
    | 1 => .ok (resultText pair.2)
    | _ => .ok .null
  rowId := RelationsCursor.rowIdOf pair.1 pair.2

/-! ## One call -/

namespace RelationsCursor

variable {sql : Sqlite} {idxNum : Int32} {argv : List Value} {subjects : List Str} {v : Value}
  {server : RelationsRequest → List (Reply Relation)} {c c' : RelationsCursor}

theorem pushSubject_failsIn : (pushSubject sql idxNum argv subjects).FailsIn ArgumentStop := by
  unfold pushSubject
  split_ifs
  · exact bind_textOf_argAt_failsIn fun _ => Except.failsIn_ok _
  · exact Except.failsIn_ok _

theorem pushSubject_key (hidx : idxNum ≠ 0) (hargv : argv[0]? = some v) (hv : v ≠ .null) :
    pushSubject sql idxNum argv subjects = .ok (subjects ++ [keyText sql v]) := by
  rw [pushSubject, if_pos hidx]
  exact bind_textOf_argAt hargv hv

/-- The cursor after a `Filter` that asks for these subjects: the stream is opened and its first
reply is read. -/
def asking (c : RelationsCursor) (server : RelationsRequest → List (Reply Relation))
    (subjects : List Str) : RelationsCursor :=
  { c with
    eof := !(ResultStream.open (server ⟨subjects, some c.kind.value⟩)).next.1
    stream := some (ResultStream.open (server ⟨subjects, some c.kind.value⟩)).next.2
    subjects := subjects }

/-- **A `Filter`** asks for all subjects collected. -/
theorem filter_eq {subjects : List Str}
    (h : pushSubject sql idxNum argv c.subjects = .ok subjects) :
    filter sql server idxNum argv c =
      .ok (sqliteOk, some ⟨subjects, some c.kind.value⟩, c.asking server subjects) := by
  rw [filter, h]
  rfl

theorem filter_ok {rc : ResultCode} {req : Option RelationsRequest}
    (h : filter sql server idxNum argv c = .ok (rc, req, c')) :
    ∃ subjects, pushSubject sql idxNum argv c.subjects = .ok subjects ∧
      req = some ⟨subjects, some c.kind.value⟩ ∧ c' = c.asking server subjects := by
  obtain ⟨subjects, hs, -⟩ := Except.bind_eq_ok.mp h
  rw [filter_eq hs] at h
  obtain ⟨-, rfl, rfl⟩ : sqliteOk = rc ∧ some _ = req ∧ _ = c' := by simpa using h
  exact ⟨subjects, hs, rfl, rfl⟩

/-- `Filter` fails only where it reads its argument. -/
theorem filter_failsIn : (filter sql server idxNum argv c).FailsIn ArgumentStop :=
  pushSubject_failsIn.bind fun _ => Except.failsIn_ok _

end RelationsCursor

/-! ## The walk over the relations -/

open RelationsCursor

theorem relationRow_eq {s : ResultStream Relation} {c : RelationsCursor} {m : Relation}
    (sql : Sqlite) (hc : c.stream = some s) (h : s.reply.result? = some m) :
    (methods sql).row c = relationRow (relationPair m) := by
  have hcur : s.current = m := ResultStream.current_of_result? h
  have hrowId : RelationsCursor.rowId c = rowIdOf m.getSubjectId m.getObjectId := by
    rw [RelationsCursor.rowId, hc]
    dsimp only
    rw [hcur]
  have hcolumn : RelationsCursor.column c = (relationRow (relationPair m)).column := by
    funext i
    unfold RelationsCursor.column relationRow relationPair
    rw [hc, ← hcur]
    dsimp only
    split <;> simp_all
  show Row.mk (RelationsCursor.column c) (RelationsCursor.rowId c) = _
  rw [hrowId, hcolumn]
  rfl

theorem checked_failsIn (v : Int) : (checked v).FailsIn (· = .undefined .signedOverflow) := by
  intro stop h
  unfold checked at h
  split_ifs at h
  exact (Except.error.inj h).symm

/-- `RowId` fails only by an overflow. -/
theorem rowIdOf_failsIn (subjectId objectId : Str) :
    (rowIdOf subjectId objectId).FailsIn (· = .undefined .signedOverflow) :=
  (checked_failsIn _).bind fun _ => (checked_failsIn _).bind fun _ =>
    (checked_failsIn _).bind fun _ => checked_failsIn _

/-- **The relations cursor iterates**: after `Filter` it walks over the relations sent. -/
theorem relationsTable_iterates (sql : Sqlite) :
    (methods sql).Iterates fun _ m => relationRow (relationPair m) where
  filter_request {server idxNum argv c rc req c'} h := by
    obtain ⟨subjects, -, hreq, rfl⟩ := filter_ok h
    obtain rfl := Option.some.inj hreq
    exact (methods sql).readings_yields
      (fun b s => { c with eof := b, stream := some s, subjects := subjects }) (fun _ _ => rfl)
      (fun _ _ => rfl) (fun _ _ _ => relationRow_eq sql rfl) (fun _ _ => rfl) _ _
  filter_none {server idxNum argv c rc c'} h := by
    obtain ⟨subjects, -, hreq, -⟩ := filter_ok h
    exact absurd hreq (by simp)
  filter_safe server idxNum argv c := filter_failsIn.ne_error (by simp [ArgumentStop])
  column_safe req m i := by
    show (relationRow (relationPair m)).column i ≠ _
    unfold relationRow
    dsimp only
    split <;> simp
  rowId_safe req m := (rowIdOf_failsIn _ _).ne_error (by simp)

end ClangQL
