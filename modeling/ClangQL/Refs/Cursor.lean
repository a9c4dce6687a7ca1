import ClangQL.Refs.BestIndex
import ClangQL.Cursor.Values

/-!
# The cursor of the refs table

`RefsCursor::Filter` decodes the plan number bit by bit and takes one argument for each bit
set. Each flag argument that is zero masks the kinds asked of the server with the logical
negation of a kind bit, which is 0. Without any bit no request is made and the scan is over.

## Main definitions

* `kindAll` and the other values of `RefKind`
* `ArgUse`, `RefsCursor.Decoding`: what an argument is read for, and the state of the decoding
* `RefsCursor.decode`: the request part of `Filter`
* `RefsCursor`, `refsTable`: the cursor and its table

## Main results

* `RefsCursor.decode_of_readId`: the flag bits are decoded in order, one argument each
* `refsTable_iterates`: the cursor walks over the references sent
-/

namespace ClangQL

/-! ## The source -/

def kindDeclaration : UInt32 := 1
def kindDefinition : UInt32 := 2
def kindReference : UInt32 := 4
def kindSpelled : UInt32 := 8
def kindAll : UInt32 := kindDeclaration ||| kindDefinition ||| kindReference ||| kindSpelled

/-- The operator `!` on an integer. -/
def logicalNot (x : UInt32) : UInt32 := if x = 0 then 1 else 0

/-- What `Filter` reads an argument for: the id, or the branch of a kind bit. -/
inductive ArgUse
  | id
  | kind (bit : UInt32)
  deriving DecidableEq

structure RefsCursor where
  eof : Bool := false
  stream : Option RefStream := none

namespace RefsCursor

/-- The local state of `Filter`. `reads` records the positions read and their uses. -/
structure Decoding where
  ids : List Str := []
  kind : UInt32 := kindAll
  argvIndex : ℕ := 0
  reads : List (ℕ × ArgUse) := []

section Filter

variable (sql : Sqlite) (idxNum : Int32) (argv : List Value)

/-- `if (idxNum & CONSTR_ID) { … }`. -/
def readId (d : Decoding) : Outcome Decoding :=
  if idxNum &&& constrId ≠ 0 then do
    let id ← textOf sql (← argAt argv d.argvIndex)
    return { d with
      ids := d.ids ++ [id]
      argvIndex := d.argvIndex + 1
      reads := d.reads ++ [(d.argvIndex, .id)] }
  else return d

/-- `if (idxNum & flag) { if (!sqlite3_value_int(argv[argvIndex++])) kind &= !bit; }`. -/
def readFlag (flag : Int32) (bit : UInt32) (d : Decoding) : Outcome Decoding :=
  if idxNum &&& flag ≠ 0 then do
    let v ← argAt argv d.argvIndex
    return { d with
      kind := if sql.valueInt v = 0 then d.kind &&& logicalNot bit else d.kind
      argvIndex := d.argvIndex + 1
      reads := d.reads ++ [(d.argvIndex, .kind bit)] }
  else return d

def readDef := readFlag sql idxNum argv constrDef kindDefinition
def readDecl := readFlag sql idxNum argv constrDecl kindDeclaration
def readRef := readFlag sql idxNum argv constrRef kindReference
def readSpe := readFlag sql idxNum argv constrSpe kindSpelled

/-- The arguments of `Filter`, decoded. -/
def decode : Outcome Decoding := do
  let d ← readId sql idxNum argv {}
  let d ← readDef sql idxNum argv d
  let d ← readDecl sql idxNum argv d
  let d ← readRef sql idxNum argv d
  readSpe sql idxNum argv d

end Filter

/-- `RefsCursor::Next`. -/
def next (c : RefsCursor) : Outcome (ResultCode × RefsCursor) :=
  match c.stream with
  | some s =>
    let (more, t) := s.next
    .ok (sqliteOk, ⟨!more, some t⟩)
  | none => .error (.undefined .nullStream)

/-- `RefsCursor::Filter`. -/
def filter (sql : Sqlite) (server : RefsRequest → List (Reply Ref)) (idxNum : Int32)
    (argv : List Value) (c : RefsCursor) : Outcome (ResultCode × Option RefsRequest × RefsCursor) :=
  if idxNum ≠ 0 then do
    let d ← decode sql idxNum argv
    let req : RefsRequest := { ids := d.ids, filter := some d.kind }
    let (rc, c) ← next { c with stream := some (.open req (server req)) }
    return (rc, some req, c)
  else return (sqliteOk, none, { c with eof := true })

/-- The columns of a reference, for the result of `m_stream->Id()`. -/
def columnOf (id : Outcome Str) (cur : Ref) (idxCol : Int) : Outcome Value :=
  match idxCol with
  | 0 => id.map resultText
  | 1 => .ok (resultInt (ofBool (cur.getKind &&& kindDeclaration == kindDeclaration)))
  | 2 => .ok (resultInt (ofBool (cur.getKind &&& kindDefinition == kindDefinition)))
  | 3 => .ok (resultInt (ofBool (cur.getKind &&& kindReference == kindReference)))
  | 4 => .ok (resultInt (ofBool (cur.getKind &&& kindSpelled == kindSpelled)))
  | 5 => .ok (setRes2 cur.location (·.filePath))
  | 6 => .ok (setRes3 cur.location (·.start) (·.line))
  | 7 => .ok (setRes3 cur.location (·.start) (·.column))
  | 8 => .ok (setRes3 cur.location (·.end) (·.line))
  | 9 => .ok (setRes3 cur.location (·.end) (·.column))
  | _ => .ok .null

/-- `RefsCursor::Column`. -/
def column (c : RefsCursor) (idxCol : Int) : Outcome Value :=
  match c.stream with
  | some s => columnOf s.id s.current idxCol
  | none => .error (.undefined .nullStream)

/-- `RefsCursor::RowId`. -/
def rowId (_ : RefsCursor) : Outcome Int := .ok 0

/-- The virtual methods. -/
def methods (sql : Sqlite) : VirtualTableCursor RefsCursor RefsRequest Ref where
  filter := filter sql
  next := next
  eof c := c.eof
  column := column
  rowId := rowId
  result? c := c.stream.bind (·.reply.result?)

end RefsCursor

/-- The refs table: `RefsTable::BestIndex` with the cursors of `RefsTable::Open`. -/
def refsTable (sql : Sqlite) : VirtualTable RefsCursor RefsRequest Ref where
  bestIndex := RefsTable.bestIndex
  cursor := RefsCursor.methods sql
  fresh := {}
  affinity := RefsTable.affinity

/-- The row shown for a reference that answers a request. -/
def refRow (req : RefsRequest) (m : Ref) : Row where
  column := RefsCursor.columnOf (RefStream.id ⟨⟨[], .streamResult m⟩, req⟩) m
  rowId := .ok 0

/-! ## Decoding -/

namespace RefsCursor

variable {sql : Sqlite} {idxNum : Int32} {argv : List Value}

@[simp] theorem kindAll_and_logicalNot {bit : UInt32} (h : bit ≠ 0) (kind : UInt32) :
    kind &&& logicalNot bit = 0 := by simp [logicalNot, h]

/-- The kinds left by the flag arguments `vs`: a zero among them masks every kind. -/
def kindAfter (sql : Sqlite) (vs : List Value) : UInt32 :=
  if vs.all fun v => sql.valueInt v != 0 then kindAll else 0

/-- The flags of a plan number with their kind bits, in the order they are decoded. -/
def flagFields : List (Int32 × UInt32) :=
  [(constrDef, kindDefinition), (constrDecl, kindDeclaration), (constrRef, kindReference),
    (constrSpe, kindSpelled)]

/-- The kind bits whose flags are set in a plan number. -/
def bitsOf (idxNum : Int32) (fields : List (Int32 × UInt32)) : List UInt32 :=
  (fields.filter fun f => idxNum &&& f.1 ≠ 0).map Prod.snd

/-- The state of the decoding after the flags `bits`, which started at `d₀` and took one
argument each. -/
structure Reading (sql : Sqlite) (argv : List Value) (d₀ : Decoding) (bits : List UInt32)
    (d : Decoding) : Prop where
  ids : d.ids = d₀.ids
  kind : d.kind = kindAfter sql ((argv.drop d₀.argvIndex).take bits.length)
  argvIndex : d.argvIndex = d₀.argvIndex + bits.length
  reads : d.reads = d₀.reads ++ (List.range' d₀.argvIndex bits.length).zip (bits.map .kind)

variable {d₀ d : Decoding} {bits : List UInt32} {flag : Int32} {bit : UInt32}

/-- **One flag** is decoded from the next argument, or skipped. -/
theorem Reading.readFlag (h : Reading sql argv d₀ bits d) (idxNum flag : Int32) (hbit : bit ≠ 0)
    (hlt : idxNum &&& flag ≠ 0 → d₀.argvIndex + bits.length < argv.length) :
    ∃ d', readFlag sql idxNum argv flag bit d = .ok d' ∧
      Reading sql argv d₀ (bits ++ if idxNum &&& flag ≠ 0 then [bit] else []) d' := by
  unfold RefsCursor.readFlag
  by_cases hflag : idxNum &&& flag ≠ 0
  · rw [if_pos hflag, if_pos hflag]
    have hk := hlt hflag
    rw [← h.argvIndex] at hk
    have harg : argAt argv d.argvIndex = .ok argv[d.argvIndex] := by
      simp [argAt, List.getElem?_eq_getElem hk]
    have hnext : (argv.drop d₀.argvIndex)[bits.length]? = some argv[d.argvIndex] := by
      rw [List.getElem?_drop, ← h.argvIndex, List.getElem?_eq_getElem hk]
    rw [harg]
    refine ⟨_, rfl, h.ids, ?_, ?_, ?_⟩
    · -- a zero among the arguments masks every kind, whichever flag it is for
      show (if _ then d.kind &&& logicalNot bit else d.kind) = _
      rw [List.length_append, List.length_singleton, List.take_add_one, hnext,
        kindAll_and_logicalNot hbit, h.kind]
      unfold kindAfter
      by_cases hv : sql.valueInt argv[d.argvIndex] = 0
      · simp [hv]
      · simp [hv]
    · simp [h.argvIndex, Nat.add_assoc]
    · show d.reads ++ _ = _
      rw [h.reads, h.argvIndex, List.length_append, List.length_singleton, List.range'_concat,
        List.map_append, List.append_assoc, List.zip_append (by simp)]
      simp
  · rw [if_neg hflag, if_neg hflag, List.append_nil]
    exact ⟨d, rfl, h⟩

/-- Flags in sequence are decoded in order, one argument each, when there are enough
arguments. -/
theorem Reading.foldlM (h : Reading sql argv d₀ bits d) (idxNum : Int32)
    (fields : List (Int32 × UInt32)) (hfields : ∀ f ∈ fields, f.2 ≠ 0)
    (hlen : d₀.argvIndex + (bits.length + (bitsOf idxNum fields).length) ≤ argv.length) :
    ∃ d', fields.foldlM (fun d f => RefsCursor.readFlag sql idxNum argv f.1 f.2 d) d = .ok d' ∧
      Reading sql argv d₀ (bits ++ bitsOf idxNum fields) d' := by
  -- induction on the flags, from the state that the ones before have left
  induction fields generalizing bits d with
  | nil => exact ⟨d, rfl, by simpa [bitsOf] using h⟩
  | cons f fields ih =>
    obtain ⟨flag, bit⟩ := f
    have hbits : bitsOf idxNum ((flag, bit) :: fields) =
        (if idxNum &&& flag ≠ 0 then [bit] else []) ++ bitsOf idxNum fields := by
      by_cases hf : idxNum &&& flag ≠ 0 <;> simp [bitsOf, hf]
    rw [hbits, List.length_append] at hlen
    have hbit : bit ≠ 0 := hfields _ List.mem_cons_self
    obtain ⟨d₁, hd₁, h₁⟩ := h.readFlag idxNum flag hbit fun hf => by
        rw [if_pos hf, List.length_singleton] at hlen
        omega
    obtain ⟨d₂, hd₂, h₂⟩ := ih h₁ (fun f hf => hfields f (List.mem_cons_of_mem _ hf))
      (by rw [List.length_append]; omega)
    refine ⟨d₂, ?_, ?_⟩
    · rw [List.foldlM_cons, hd₁]
      exact hd₂
    · rw [hbits, ← List.append_assoc]
      exact h₂

/-- **The flags of a plan number** are decoded in order, one argument each, when there are
enough arguments after the one for the id. -/
theorem decode_of_readId (hid : readId sql idxNum argv {} = .ok d₀) (hkind : d₀.kind = kindAll)
    (hlen : d₀.argvIndex + (bitsOf idxNum flagFields).length ≤ argv.length) :
    ∃ d, decode sql idxNum argv = .ok d ∧ Reading sql argv d₀ (bitsOf idxNum flagFields) d := by
  have h₀ : Reading sql argv d₀ [] d₀ := ⟨rfl, by simp [kindAfter, hkind], rfl, by simp⟩
  obtain ⟨d, hd, h⟩ := h₀.foldlM idxNum flagFields
    (by simp [flagFields, kindDefinition, kindDeclaration, kindReference, kindSpelled])
    (by simpa using hlen)
  refine ⟨d, ?_, h⟩
  rw [decode, hid, ← hd]
  simp only [flagFields, List.foldlM_cons, List.foldlM_nil, bind_pure]
  rfl

/-! ## The walk over the references -/

theorem readId_failsIn (d : Decoding) :
    (readId sql idxNum argv d).FailsIn ArgumentStop := by
  unfold readId
  split_ifs
  · exact bind_textOf_argAt_failsIn fun _ => Except.failsIn_ok _
  · exact Except.failsIn_ok _

theorem readFlag_failsIn (d : Decoding) :
    (RefsCursor.readFlag sql idxNum argv flag bit d).FailsIn ArgumentStop := by
  unfold RefsCursor.readFlag
  split_ifs
  · exact (argAt_failsIn _ _).bind fun _ => Except.failsIn_ok _
  · exact Except.failsIn_ok _

theorem decode_failsIn : (decode sql idxNum argv).FailsIn ArgumentStop :=
  (readId_failsIn _).bind fun _ => (readFlag_failsIn _).bind fun _ =>
    (readFlag_failsIn _).bind fun _ => (readFlag_failsIn _).bind fun _ => readFlag_failsIn _

/-- `Filter` fails only where it reads its arguments. -/
theorem filter_failsIn {server : RefsRequest → List (Reply Ref)} {c : RefsCursor} :
    (filter sql server idxNum argv c).FailsIn ArgumentStop := by
  unfold filter
  split_ifs
  · exact decode_failsIn.bind fun _ => Except.failsIn_ok _
  · exact Except.failsIn_ok _

/-- With a plan number other than 0, `Filter` opens a stream on the replies to its request and
reads the first. -/
theorem filter_of_decode {server : RefsRequest → List (Reply Ref)} {c : RefsCursor}
    (hidx : idxNum ≠ 0) (hd : decode sql idxNum argv = .ok d) :
    filter sql server idxNum argv c = .ok (sqliteOk, some ⟨d.ids, some d.kind⟩,
      ⟨!(ResultStream.open (server ⟨d.ids, some d.kind⟩)).next.1,
        some (RefStream.open ⟨d.ids, some d.kind⟩ (server ⟨d.ids, some d.kind⟩)).next.2⟩) := by
  rw [filter, if_pos hidx, hd]
  rfl

theorem filter_ok {server : RefsRequest → List (Reply Ref)} {c c' : RefsCursor}
    {rc : ResultCode} {req : Option RefsRequest}
    (h : filter sql server idxNum argv c = .ok (rc, req, c')) :
    (idxNum = 0 ∧ req = none ∧ c' = { c with eof := true }) ∨
      idxNum ≠ 0 ∧ ∃ d, decode sql idxNum argv = .ok d ∧ req = some ⟨d.ids, some d.kind⟩ ∧
        next { c with stream := some (.open ⟨d.ids, some d.kind⟩ (server ⟨d.ids, some d.kind⟩)) } =
          .ok (rc, c') := by
  unfold filter at h
  split_ifs at h with hidx
  · obtain ⟨d, hd, h⟩ := Except.bind_eq_ok.mp h
    obtain ⟨⟨rc', c''⟩, hn, h⟩ := Except.bind_eq_ok.mp h
    obtain ⟨rfl, rfl, rfl⟩ : rc' = rc ∧ some ⟨d.ids, some d.kind⟩ = req ∧ c'' = c' := by
      simpa [pure, Except.pure] using h
    exact Or.inr ⟨hidx, d, hd, rfl, hn⟩
  · obtain ⟨rfl, rfl, rfl⟩ : sqliteOk = rc ∧ none = req ∧ { c with eof := true } = c' := by
      simpa [pure, Except.pure] using h
    exact Or.inl ⟨not_not.mp hidx, rfl, rfl⟩

end RefsCursor

open RefsCursor

theorem refRow_eq {req : RefsRequest} {s : ResultStream Ref} {b : Bool} {m : Ref} (sql : Sqlite)
    (h : s.reply.result? = some m) :
    (methods sql).row ⟨b, some ⟨s, req⟩⟩ = refRow req m := by
  have hid : RefStream.id ⟨s, req⟩ = RefStream.id ⟨⟨[], .streamResult m⟩, req⟩ := rfl
  have hcur : s.current = m := ResultStream.current_of_result? h
  simp only [VirtualTableCursor.row, refRow, methods, Row.mk.injEq]
  refine ⟨?_, rfl⟩
  funext i
  show columnOf (RefStream.id ⟨s, req⟩) s.current i = _
  rw [hid, hcur]

/-- **The refs cursor iterates**: after `Filter` it walks over the references sent, or has none
when no request was made. -/
theorem refsTable_iterates (sql : Sqlite) : (methods sql).Iterates refRow where
  filter_request {server idxNum argv c rc req c'} h := by
    rcases filter_ok h with ⟨-, hreq, -⟩ | ⟨-, d, -, hreq, hn⟩
    · exact absurd hreq (by simp)
    · obtain rfl := Option.some.inj hreq
      obtain ⟨-, rfl⟩ := Prod.mk.inj (Except.ok.inj hn)
      exact (methods sql).readings_yields
        (fun b s => ⟨b, some ⟨s, ⟨d.ids, some d.kind⟩⟩⟩) (fun _ _ => rfl) (fun _ _ => rfl)
        (fun _ _ _ => refRow_eq sql) (fun _ _ => rfl) _ _
  filter_none {server idxNum argv c rc c'} h := by
    rcases filter_ok h with ⟨-, -, rfl⟩ | ⟨-, d, -, hreq, -⟩
    · rfl
    · exact absurd hreq (by simp)
  filter_safe server idxNum argv c := filter_failsIn.ne_error (by simp [ArgumentStop])
  column_safe req m i := by
    have hid : RefStream.id ⟨⟨[], .streamResult m⟩, req⟩ ≠ .error (.undefined .nullStream) := by
      unfold RefStream.id
      split <;> simp
    show columnOf _ m i ≠ _
    unfold columnOf
    split
    · exact fun h => hid (Except.map_eq_error.mp h)
    all_goals simp
  rowId_safe _ _ := by simp [refRow]

end ClangQL
