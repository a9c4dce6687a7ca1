import ClangQL.Cursor.Values
import ClangQL.Library.HexNumeral
import ClangQL.Symbols.BestIndex

/-!
# The cursor of the symbols table

`SymbolsCursor::Filter` sends a `Lookup` for a plan by id, and otherwise a `FuzzyFind` with the
name, the scope and the path of the plan, read off the arguments in this order.

## Main definitions

* `SymbolsRequest`: a request of either kind
* `SymbolsCursor.decode`, `SymbolsCursor.request`: the request part of `Filter`
* `SymbolsCursor`, `symbolsTable`: the cursor and its table
* `dummyFunc`, `SymbolsTable.findFunction`: the function that stands for `LIKE`
* `SymbolsCursor.requestOf`: the request of a query

## Main results

* `SymbolsCursor.request_plan`: the request sent under the plan of a query
* `symbolsTable_iterates`: the cursor walks over the symbols sent
-/

namespace ClangQL

/-! ## The source -/

namespace SymbolProperty

def generic : UInt32 := 1 <<< (0 : UInt32)
def templatePartialSpecialization : UInt32 := 1 <<< (1 : UInt32)
def templateSpecialization : UInt32 := 1 <<< (2 : UInt32)
def unitTest : UInt32 := 1 <<< (3 : UInt32)
def ibAnnotated : UInt32 := 1 <<< (4 : UInt32)
def ibOutletCollection : UInt32 := 1 <<< (5 : UInt32)
def gkInspectable : UInt32 := 1 <<< (6 : UInt32)
def «local» : UInt32 := 1 <<< (7 : UInt32)
def protocolInterface : UInt32 := 1 <<< (8 : UInt32)

end SymbolProperty

/-- A request for symbols, by `FuzzyFind` or by `Lookup`. -/
inductive SymbolsRequest
  | fuzzyFind (req : FuzzyFindRequest)
  | lookup (req : LookupRequest)
  deriving DecidableEq

structure SymbolsCursor where
  eof : Bool := false
  stream : Option (ResultStream Symbol) := none

namespace SymbolsCursor

/-- The local state of `Filter` for a `FuzzyFind`. `reads` records the positions read. -/
structure Decoding where
  req : FuzzyFindRequest := { anyScope := some true }
  argIndex : ℕ := 0
  reads : List ℕ := []

section Filter

variable (sql : Sqlite) (idxNum : Int32) (argv : List Value)

/-- `if (has) { set(sqlite3_value_text(argv[argIndex++])); }`, where `has` tests `flag`. -/
def readText (flag : Int32) (set : FuzzyFindRequest → Str → FuzzyFindRequest) (d : Decoding) :
    Outcome Decoding :=
  if idxNum &&& flag ≠ 0 then do
    let s ← textOf sql (← argAt argv d.argIndex)
    return ⟨set d.req s, d.argIndex + 1, d.reads ++ [d.argIndex]⟩
  else return d

def readName := readText sql idxNum argv searchFuzzyName fun r s => { r with query := some s }

def readScope :=
  readText sql idxNum argv searchScope fun r s => { r with scopes := r.scopes ++ [s] }

def readPath :=
  readText sql idxNum argv searchPath fun r s =>
    { r with proximityPaths := r.proximityPaths ++ [s] }

/-- `if (has_exact_scope) { req.set_any_scope(false); }`. -/
def setExactScope (d : Decoding) : Decoding :=
  if idxNum &&& searchScopeExact ≠ 0 then { d with req := { d.req with anyScope := some false } }
  else d

/-- The arguments of `Filter` for a `FuzzyFind`, decoded. -/
def decode : Outcome Decoding := do
  let d ← readName sql idxNum argv {}
  let d ← readScope sql idxNum argv d
  let d ← readPath sql idxNum argv d
  return setExactScope idxNum d

/-- The request `Filter` sends. -/
def request : Outcome SymbolsRequest :=
  if idxNum = searchId then do
    let id ← textOf sql (← argAt argv 0)
    return .lookup { ids := [id] }
  else do
    let d ← decode sql idxNum argv
    return .fuzzyFind d.req

end Filter

/-- `SymbolsCursor::Next`. -/
def next (c : SymbolsCursor) : Outcome (ResultCode × SymbolsCursor) :=
  match c.stream with
  | some s =>
    let (more, t) := s.next
    .ok (sqliteOk, ⟨!more, some t⟩)
  | none => .error (.undefined .nullStream)

/-- `SymbolsCursor::Filter`. -/
def filter (sql : Sqlite) (server : SymbolsRequest → List (Reply Symbol)) (idxNum : Int32)
    (argv : List Value) (c : SymbolsCursor) :
    Outcome (ResultCode × Option SymbolsRequest × SymbolsCursor) := do
  let req ← request sql idxNum argv
  let (rc, c) ← next { c with stream := some (.open (server req)) }
  return (rc, some req, c)

/-- The columns of a symbol. Without a case, `Column` leaves the result at NULL. -/
def columnOf (cur : Symbol) (idxCol : Int) : Value :=
  match idxCol with
  | 0 => setRes cur.id
  | 1 => setRes cur.name
  | 2 => setRes cur.scope
  | 3 => setRes cur.signature
  | 4 => setRes cur.documentation
  | 5 => setRes cur.returnType
  | 6 => setRes cur.type
  | 7 => setRes2 cur.definition (·.filePath)
  | 8 => setRes3 cur.definition (·.start) (·.line)
  | 9 => setRes3 cur.definition (·.start) (·.column)
  | 10 => setRes3 cur.definition (·.end) (·.line)
  | 11 => setRes3 cur.definition (·.end) (·.column)
  | 12 => setRes2 cur.canonicalDeclaration (·.filePath)
  | 13 => setRes3 cur.canonicalDeclaration (·.start) (·.line)
  | 14 => setRes3 cur.canonicalDeclaration (·.start) (·.column)
  | 15 => setRes3 cur.canonicalDeclaration (·.end) (·.line)
  | 16 => setRes3 cur.canonicalDeclaration (·.end) (·.column)
  | 17 => setRes2Int cur.info (·.kind)
  | 18 => setRes2Int cur.info (·.subkind)
  | 19 => setRes2Int cur.info (·.language)
  | 20 => setResProp cur.info SymbolProperty.generic
  | 21 => setResProp cur.info SymbolProperty.templatePartialSpecialization
  | 22 => setResProp cur.info SymbolProperty.templateSpecialization
  | 23 => setResProp cur.info SymbolProperty.templateSpecialization
  | 24 => setResProp cur.info SymbolProperty.unitTest
  | 25 => setResProp cur.info SymbolProperty.ibAnnotated
  | 26 => setResProp cur.info SymbolProperty.ibOutletCollection
  | 27 => setResProp cur.info SymbolProperty.gkInspectable
  | 28 => setResProp cur.info SymbolProperty.local
  | 29 => setResProp cur.info SymbolProperty.protocolInterface
  | _ => .null

/-- `SymbolsCursor::Column`. -/
def column (c : SymbolsCursor) (idxCol : Int) : Outcome Value :=
  match c.stream with
  | some s => .ok (columnOf s.current idxCol)
  | none => .error (.undefined .nullStream)

/-- `RowId` for the id at hand: `errno` is cleared after the conversion, before it is
tested. -/
def rowIdOf (id : Str) : Outcome Int :=
  let (res, _outOfRange) := strtoll16 (cStr id)
  let errno : Int32 := 0
  if errno ≠ 0 then .error .exception else .ok res

/-- `SymbolsCursor::RowId`. -/
def rowId (c : SymbolsCursor) : Outcome Int :=
  match c.stream with
  | some s => rowIdOf s.current.getId
  | none => .error (.undefined .nullStream)

/-- The virtual methods. -/
def methods (sql : Sqlite) : VirtualTableCursor SymbolsCursor SymbolsRequest Symbol where
  filter := filter sql
  next := next
  eof c := c.eof
  column := column
  rowId := rowId
  result? c := c.stream.bind (·.reply.result?)

end SymbolsCursor

/-- The symbols table: `SymbolsTable::BestIndex` with the cursors of `SymbolsTable::Open`. -/
def symbolsTable (sql : Sqlite) : VirtualTable SymbolsCursor SymbolsRequest Symbol where
  bestIndex := SymbolsTable.bestIndex
  cursor := SymbolsCursor.methods sql
  fresh := {}
  affinity := SymbolsTable.affinity

/-- `dummy_func`: the result is 1, whatever the arguments. -/
def dummyFunc (_argv : List Value) : Value := resultInt 1

/-- `SymbolsTable::FindFunction`: the function that overloads `name`, if any. -/
def SymbolsTable.findFunction (_nArg : Int) (name : Str) : Option (List Value → Value) :=
  if name = "like".toList then some dummyFunc else none

/-- The row shown for a symbol. -/
def symbolRow (m : Symbol) : Row where
  column i := .ok (SymbolsCursor.columnOf m i)
  rowId := SymbolsCursor.rowIdOf m.getId

/-! ## The request of a query -/

namespace SymbolsCursor

open SymbolsTable

variable {sql : Sqlite} {idxNum : Int32} {argv : List Value} {terms : List Term}

/-- The request of a query: a `Lookup` of the chosen id, or a `FuzzyFind` with the chosen name,
scope and path, in one scope only when that is the scope of an equality. -/
def requestOf (sql : Sqlite) (terms : List Term) : SymbolsRequest :=
  match firstTerm isId terms with
  | some t => .lookup { ids := [keyText sql t.rhs] }
  | none => .fuzzyFind
      { query := (firstTerm isName terms).map fun t => keyText sql t.rhs
        scopes := ((firstTerm isScope terms).map fun t => keyText sql t.rhs).toList
        anyScope := some !((firstTerm isScope terms).any fun t =>
          t.constraint.op = indexConstraintEq)
        proximityPaths := ((firstTerm isPath terms).map fun t => keyText sql t.rhs).toList }

/-- **One argument**, if the plan has it, is read for its field. -/
theorem readText_ok (sql : Sqlite) (argv : List Value) {flag : Int32}
    (set : FuzzyFindRequest → Str → FuzzyFindRequest) (d : Decoding) (o : Option Value)
    {rest : List Value}
    (hflag : idxNum &&& flag ≠ 0 ↔ o.isSome) (hargv : argv.drop d.argIndex = o.toList ++ rest)
    (hnull : ∀ v ∈ o.toList, v ≠ .null) :
    ∃ d', readText sql idxNum argv flag set d = .ok d' ∧
      d'.req = o.elim d.req (fun v => set d.req (keyText sql v)) ∧
      d'.argIndex = d.argIndex + o.toList.length ∧ argv.drop d'.argIndex = rest ∧
      d'.reads = d.reads ++ List.range' d.argIndex o.toList.length := by
  unfold readText
  cases o with
  | none =>
    rw [if_neg (by simpa using hflag)]
    exact ⟨d, rfl, rfl, rfl, hargv, (List.append_nil _).symm⟩
  | some v =>
    rw [if_pos (by simpa using hflag)]
    have hget : argv[d.argIndex]? = some v := by
      have hhead : (argv.drop d.argIndex)[0]? = some v := by rw [hargv]; rfl
      rwa [List.getElem?_drop, Nat.add_zero] at hhead
    refine ⟨⟨set d.req (keyText sql v), d.argIndex + 1, d.reads ++ [d.argIndex]⟩,
      bind_textOf_argAt hget (hnull v (by simp)), rfl, rfl, ?_, rfl⟩
    rw [← List.drop_drop, hargv]
    rfl

/-- The plan number without an id, bit by bit. -/
theorem idxNumOf_eq (h : firstTerm isId terms = none) : idxNumOf terms =
    (if (firstTerm isName terms).isSome then searchFuzzyName else 0) |||
      ((if (firstTerm isScope terms).isSome then searchScope else 0) |||
        if (firstTerm isScope terms).any fun t => t.constraint.op = indexConstraintEq then
          searchScopeExact else 0) |||
      (if (firstTerm isPath terms).isSome then searchPath else 0) := by
  have hscope : ((firstTerm isScope terms).elim 0 fun t => scopeFlags t.constraint) =
      (if (firstTerm isScope terms).isSome then searchScope else 0) |||
        if (firstTerm isScope terms).any fun t => t.constraint.op = indexConstraintEq then
          searchScopeExact else 0 := by
    cases firstTerm isScope terms with
    | none => rfl
    | some t =>
      by_cases ht : t.constraint.op = indexConstraintEq
      · simp [scopeFlags, ht]
      · simp [scopeFlags, ht]
  rw [idxNumOf, h]
  dsimp only
  rw [hscope]
  cases firstTerm isName terms <;> cases firstTerm isPath terms <;> rfl

/-- The bits of a plan number without an id tell which searches found a constraint, and
whether the scope is that of an equality. -/
theorem idxNumOf_bits (h : firstTerm isId terms = none) :
    idxNumOf terms ≠ searchId ∧
      (idxNumOf terms &&& searchFuzzyName ≠ 0 ↔ (firstTerm isName terms).isSome) ∧
      (idxNumOf terms &&& searchScope ≠ 0 ↔ (firstTerm isScope terms).isSome) ∧
      (idxNumOf terms &&& searchPath ≠ 0 ↔ (firstTerm isPath terms).isSome) ∧
      (idxNumOf terms &&& searchScopeExact ≠ 0 ↔
        (firstTerm isScope terms).any fun t => t.constraint.op = indexConstraintEq) := by
  rw [idxNumOf_eq h]
  generalize (firstTerm isName terms).isSome = b₁, (firstTerm isScope terms).isSome = b₂,
    (firstTerm isPath terms).isSome = b₃,
    (firstTerm isScope terms).any (fun t => t.constraint.op = indexConstraintEq) = b₄
  revert b₁ b₂ b₃ b₄
  decide

@[simp] theorem setExactScope_reads (d : Decoding) : (setExactScope idxNum d).reads = d.reads := by
  unfold setExactScope
  split <;> rfl

/-- The arguments `name`, `scope` and `path`, as far as they are there, are decoded in this
order. -/
theorem decode_ok (sql : Sqlite) (name scope path : Option Value)
    (hname : idxNum &&& searchFuzzyName ≠ 0 ↔ name.isSome)
    (hscope : idxNum &&& searchScope ≠ 0 ↔ scope.isSome)
    (hpath : idxNum &&& searchPath ≠ 0 ↔ path.isSome)
    (hargv : argv = name.toList ++ (scope.toList ++ path.toList)) (hnull : ∀ v ∈ argv, v ≠ .null) :
    ∃ d, decode sql idxNum argv = .ok (setExactScope idxNum d) ∧
      d.req = { query := name.map (keyText sql)
                scopes := (scope.map (keyText sql)).toList
                anyScope := some true
                proximityPaths := (path.map (keyText sql)).toList } ∧
      d.reads = List.range argv.length := by
  obtain ⟨d₁, h₁, hreq₁, hindex₁, hdrop₁, hreads₁⟩ := readText_ok sql argv
    (fun r s => { r with query := some s }) {} name hname hargv
    fun v hv => hnull v (by rw [hargv]; exact List.mem_append_left _ hv)
  obtain ⟨d₂, h₂, hreq₂, hindex₂, hdrop₂, hreads₂⟩ := readText_ok sql argv
    (fun r s => { r with scopes := r.scopes ++ [s] }) d₁ scope hscope hdrop₁
    fun v hv => hnull v (by
      rw [hargv]
      exact List.mem_append_right _ (List.mem_append_left _ hv))
  obtain ⟨d₃, h₃, hreq₃, hindex₃, -, hreads₃⟩ := readText_ok sql argv
    (fun r s => { r with proximityPaths := r.proximityPaths ++ [s] }) d₂ path hpath
    (hdrop₂.trans (List.append_nil _).symm)
    fun v hv => hnull v (by
      rw [hargv]
      exact List.mem_append_right _ (List.mem_append_right _ hv))
  refine ⟨d₃, ?_, ?_, ?_⟩
  · unfold decode readName
    rw [h₁]
    show (readScope sql _ _ d₁ >>= _) = _
    rw [readScope, h₂]
    show (readPath sql _ _ d₂ >>= _) = _
    rw [readPath, h₃]
    rfl
  · rw [hreq₃, hreq₂, hreq₁]
    cases name <;> cases scope <;> cases path <;> rfl
  · rw [hreads₃, hreads₂, hreads₁, hindex₂, hindex₁, hargv, List.length_append,
      List.length_append, List.range_eq_range', ← Nat.add_assoc]
    dsimp only
    rw [List.nil_append, List.range'_append_1, Nat.add_assoc, List.range'_append_1]

/-- **A plan without an id, decoded**: each argument is read once, in order, for its field. -/
theorem decode_plan (sql : Sqlite) (hid : firstTerm isId terms = none)
    (hnull : ∀ v ∈ arguments terms, v ≠ .null) :
    ∃ d, decode sql (idxNumOf terms) (arguments terms) = .ok d ∧
      .fuzzyFind d.req = requestOf sql terms ∧
      d.reads = List.range (arguments terms).length := by
  obtain ⟨-, hname, hscope, hpath, hexact⟩ := idxNumOf_bits hid
  have hargs : arguments terms = ((firstTerm isName terms).map (·.rhs)).toList ++
      (((firstTerm isScope terms).map (·.rhs)).toList ++
        ((firstTerm isPath terms).map (·.rhs)).toList) := by
    rw [arguments, hid]
    exact List.append_assoc _ _ _
  obtain ⟨d, hd, hreq, hreads⟩ := decode_ok sql ((firstTerm isName terms).map (·.rhs))
    ((firstTerm isScope terms).map (·.rhs)) ((firstTerm isPath terms).map (·.rhs))
    (by rwa [Option.isSome_map]) (by rwa [Option.isSome_map]) (by rwa [Option.isSome_map]) hargs
    hnull
  refine ⟨setExactScope (idxNumOf terms) d, hd, ?_, by rw [setExactScope_reads, hreads]⟩
  simp only [Option.map_map] at hreq
  unfold requestOf setExactScope
  rw [hid]
  -- `set_any_scope(false)` is called exactly for the scope of an equality
  by_cases hx : (firstTerm isScope terms).any fun t => t.constraint.op = indexConstraintEq
  · rw [if_pos (hexact.mpr hx), hreq, hx]
    rfl
  · rw [if_neg (hexact.not.mpr hx), hreq, Bool.eq_false_iff.mpr hx]
    rfl

/-- **The request sent under the plan of a query** without NULL among its arguments. -/
theorem request_plan (sql : Sqlite) (hnull : ∀ v ∈ arguments terms, v ≠ .null) :
    request sql (idxNumOf terms) (arguments terms) = .ok (requestOf sql terms) := by
  unfold request
  cases hid : firstTerm isId terms with
  | some t =>
    have hidx : idxNumOf terms = searchId := by rw [idxNumOf, hid]
    have hargs : arguments terms = [t.rhs] := by rw [arguments, hid]
    have hget : (arguments terms)[0]? = some t.rhs := by rw [hargs]; rfl
    rw [if_pos hidx, requestOf, hid]
    exact bind_textOf_argAt hget (hnull t.rhs (List.mem_of_getElem? hget))
  | none =>
    obtain ⟨d, hd, hreq, -⟩ := decode_plan sql hid hnull
    rw [if_neg (idxNumOf_bits hid).1, hd, ← hreq]
    rfl

/-! ## The walk over the symbols -/

theorem readText_failsIn (flag : Int32) (set : FuzzyFindRequest → Str → FuzzyFindRequest)
    (d : Decoding) : (readText sql idxNum argv flag set d).FailsIn ArgumentStop := by
  unfold readText
  split_ifs
  · exact bind_textOf_argAt_failsIn fun _ => Except.failsIn_ok _
  · exact Except.failsIn_ok _

theorem request_failsIn : (request sql idxNum argv).FailsIn ArgumentStop := by
  unfold request
  split_ifs
  · exact bind_textOf_argAt_failsIn fun _ => Except.failsIn_ok _
  · have hdecode : (decode sql idxNum argv).FailsIn ArgumentStop :=
      (readText_failsIn _ _ _).bind fun _ => (readText_failsIn _ _ _).bind fun _ =>
        (readText_failsIn _ _ _).bind fun _ => Except.failsIn_ok _
    exact hdecode.bind fun _ => Except.failsIn_ok _

/-- `Filter` opens a stream on the replies to its request and reads the first. -/
theorem filter_eq {server : SymbolsRequest → List (Reply Symbol)} {c : SymbolsCursor}
    {req : SymbolsRequest} (h : request sql idxNum argv = .ok req) :
    filter sql server idxNum argv c =
      .ok (sqliteOk, some req, ⟨!(ResultStream.open (server req)).next.1,
        some (ResultStream.open (server req)).next.2⟩) := by
  rw [filter, h]
  rfl

theorem filter_ok {server : SymbolsRequest → List (Reply Symbol)} {c c' : SymbolsCursor}
    {rc : ResultCode} {req : Option SymbolsRequest}
    (h : filter sql server idxNum argv c = .ok (rc, req, c')) :
    ∃ r, request sql idxNum argv = .ok r ∧ req = some r ∧
      c' = ⟨!(ResultStream.open (server r)).next.1,
        some (ResultStream.open (server r)).next.2⟩ := by
  obtain ⟨r, hr, -⟩ := Except.bind_eq_ok.mp h
  rw [filter_eq hr] at h
  obtain ⟨-, rfl, rfl⟩ : sqliteOk = rc ∧ some r = req ∧ _ = c' := by simpa using h
  exact ⟨r, hr, rfl, rfl⟩

/-- `Filter` fails only where it reads its arguments. -/
theorem filter_failsIn {server : SymbolsRequest → List (Reply Symbol)} {c : SymbolsCursor} :
    (filter sql server idxNum argv c).FailsIn ArgumentStop :=
  request_failsIn.bind fun _ => Except.failsIn_ok _

end SymbolsCursor

open SymbolsCursor

theorem symbolRow_eq {s : ResultStream Symbol} {b : Bool} {m : Symbol} (sql : Sqlite)
    (h : s.reply.result? = some m) : (methods sql).row ⟨b, some s⟩ = symbolRow m := by
  have hcur : s.current = m := ResultStream.current_of_result? h
  have hcolumn : SymbolsCursor.column ⟨b, some s⟩ = fun i => .ok (columnOf s.current i) := rfl
  have hrowId : SymbolsCursor.rowId ⟨b, some s⟩ = rowIdOf s.current.getId := rfl
  show Row.mk (SymbolsCursor.column ⟨b, some s⟩) (SymbolsCursor.rowId ⟨b, some s⟩) = _
  rw [hcolumn, hrowId, hcur, symbolRow]

theorem SymbolsCursor.rowIdOf_eq (id : Str) : rowIdOf id = .ok (strtoll16 (cStr id)).1 := rfl

/-- **The symbols cursor iterates**: after `Filter` it walks over the symbols sent. -/
theorem symbolsTable_iterates (sql : Sqlite) :
    (methods sql).Iterates fun _ m => symbolRow m where
  filter_request {server idxNum argv c rc req c'} h := by
    obtain ⟨r, -, hreq, rfl⟩ := filter_ok h
    obtain rfl := Option.some.inj hreq
    exact (methods sql).readings_yields (fun b s => ⟨b, some s⟩) (fun _ _ => rfl)
      (fun _ _ => rfl) (fun _ _ _ => symbolRow_eq sql) (fun _ _ => rfl) _ _
  filter_none {server idxNum argv c rc c'} h := by
    obtain ⟨r, -, hreq, -⟩ := filter_ok h
    exact absurd hreq (by simp)
  filter_safe server idxNum argv c := filter_failsIn.ne_error (by simp [ArgumentStop])
  column_safe req m i := by simp [symbolRow]
  rowId_safe req m := by simp [symbolRow, rowIdOf_eq]

/-! ## The scan of a query -/

section Query

variable {sql : Sqlite} {terms : List Term} {server : SymbolsRequest → List (Reply Symbol)}

@[simp] theorem symbolsTable_idxNum :
    ((symbolsTable sql).plan terms).idxNum = SymbolsTable.idxNumOf terms :=
  SymbolsTable.bestIndex_idxNum terms

@[simp] theorem symbolsTable_args :
    (symbolsTable sql).args terms = SymbolsTable.arguments terms :=
  SymbolsTable.bestIndex_args terms

theorem symbolsTable_bestIndex_ok (info : IndexInfo) :
    (SymbolsTable.bestIndex info).1 = sqliteOk := by
  unfold SymbolsTable.bestIndex
  split <;> rfl

/-- A query without NULL among its arguments sends its request. -/
theorem symbolsTable_filter (hnull : ∀ v ∈ SymbolsTable.arguments terms, v ≠ .null)
    (c : SymbolsCursor) : ∃ c', (symbolsTable sql).cursor.filter server
      ((symbolsTable sql).plan terms).idxNum ((symbolsTable sql).args terms) c =
        .ok (sqliteOk, some (requestOf sql terms), c') := by
  rw [symbolsTable_idxNum, symbolsTable_args]
  exact ⟨_, filter_eq (request_plan sql hnull)⟩

/-- **The scan of a query** without NULL among its arguments walks over the replies to its
request. -/
theorem symbolsTable_scans (hnull : ∀ v ∈ SymbolsTable.arguments terms, v ≠ .null)
    (c : SymbolsCursor) :
    (symbolsTable sql).Scans server terms c
      ((results (server (requestOf sql terms))).map symbolRow) := by
  have hplan : ((symbolsTable sql).bestIndex (.start (terms.map (·.constraint)))).1 = sqliteOk :=
    symbolsTable_bestIndex_ok _
  obtain ⟨c', hfilter⟩ := symbolsTable_filter hnull c
  exact VirtualTable.scans_of_filter (symbolsTable_iterates sql) hplan hfilter

end Query

end ClangQL
