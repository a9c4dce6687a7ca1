import Mathlib.Data.Finset.Basic
import ClangQL.Relations.Cursor

/-!
# Creation of tables

SQLite creates a table through `module_create`, a C function: it calls `ClangQLModule::Create`
and turns the exceptions of that call into result codes. The constructors of the table classes
report a schema that SQLite rejects by exceptions of different classes, and `module_create` has
no handler for one of them.

## Main definitions

* `Exception`, `Ending`: the exceptions of the module, and how one of its functions ends
* `Environment`: which allocations succeed, and what `sqlite3_declare_vtab` answers
* `ClangQLModule.create`: the tables and the exceptions of `ClangQLModule::Create`
* `moduleCreate`: `module_create`, on the objects allocated so far
* `Contained`: every failure is turned into an error of SQLite

## Main results

* `ClangQLModule.create_eq_exception`: when `Create` throws a plain `std::exception`
* `contained_iff`: `module_create` contains all failures but that one
-/

namespace ClangQL

/-! ## Exceptions and objects -/

/-- The exceptions the module throws: a `std::bad_alloc`, a `std::runtime_error`, or a
`std::exception` of no further class. -/
inductive Exception
  | badAlloc
  | runtimeError (what : Str)
  | exception
  deriving DecidableEq

/-- `SQLITE_NOMEM`. -/
def sqliteNomem : ResultCode := 7

/-- The objects the module allocates by `new` and hands to SQLite. -/
inductive Object (Addr : Type)
  | vtab (p : Addr)
  | cursor (p : Addr)
  deriving DecidableEq

/-- What a function of the module returns and assigns: its code, the object it hands to SQLite
and `*pzErr`. -/
structure Answer (Addr : Type) where
  code : ResultCode
  object : Option Addr := none
  errmsg : Option Str := none
  deriving DecidableEq

/-- How a call of a function of the module ends: it returns, or an exception leaves it. -/
inductive Ending (Addr : Type)
  | returned (answer : Answer Addr)
  | escaped (e : Exception)
  deriving DecidableEq

/-! ## `module_create` -/

section ModuleCreate

variable {Addr α : Type}

/-- `module_create`, with the objects allocated before and after it. `new` is the result of
`new module_vtab()`, `create` that of `mod->Create`, and `malloc` tells whether
`sqlite3_malloc64` succeeds. -/
def moduleCreate [DecidableEq Addr] (new : Option Addr) (create : Except Exception α)
    (malloc : Bool) (heap : Finset (Object Addr)) : Ending Addr × Finset (Object Addr) :=
  match new with
  | none => (.returned { code := sqliteNomem }, heap)
  | some vtab =>
    let heap := insert (.vtab vtab) heap
    match create with
    | .ok _ => (.returned { code := sqliteOk, object := some vtab }, heap)
    | .error .badAlloc => (.returned { code := sqliteNomem }, heap.erase (.vtab vtab))
    | .error (.runtimeError err) =>
      if malloc then (.returned { code := sqliteError, errmsg := some (cStr err) }, heap)
      else (.returned { code := sqliteError }, heap)
    | .error .exception => (.escaped .exception, heap)

/-- `Create` was called, and returned a table. -/
def Created (new : Option Addr) (create : Except Exception α) : Prop :=
  new.isSome ∧ ∃ t, create = .ok t

/-- Memory ran out: for the object, in `Create` or for the message. -/
def OutOfMemory (new : Option Addr) (create : Except Exception α) (malloc : Bool) : Prop :=
  new = none ∨ create = .error .badAlloc ∨ malloc = false

/-- What `module_create` owes SQLite when it returns: `SQLITE_OK` and a table exactly when
`Create` returned one, and a message for every failure other than out of memory. -/
structure Reports (new : Option Addr) (create : Except Exception α) (malloc : Bool)
    (answer : Answer Addr) : Prop where
  code : answer.code = sqliteOk ↔ Created new create
  object : answer.object.isSome ↔ Created new create
  errmsg : ¬ Created new create → ¬ OutOfMemory new create malloc → answer.errmsg.isSome

section Reports

variable {new : Option Addr} {create : Except Exception α} {malloc : Bool} {answer : Answer Addr}

theorem sqliteNomem_ne_ok : sqliteNomem ≠ sqliteOk := by decide

theorem sqliteError_ne_ok : sqliteError ≠ sqliteOk := by decide

theorem not_created_error {e : Exception} : ¬ Created new (.error e : Except Exception α) := by
  rintro ⟨-, t, ht⟩
  exact absurd ht (by simp)

/-- An error without a table reports a failure. -/
theorem Reports.of_not_created (h : ¬ Created new create) (hcode : answer.code ≠ sqliteOk)
    (hobject : answer.object = none)
    (herrmsg : ¬ OutOfMemory new create malloc → answer.errmsg.isSome) :
    Reports new create malloc answer where
  code := iff_of_false hcode h
  object := iff_of_false (by simp [hobject]) h
  errmsg _ := herrmsg

variable [DecidableEq Addr] {heap : Finset (Object Addr)}

theorem moduleCreate_exception (vtab : Addr) :
    moduleCreate (some vtab) (.error .exception : Except Exception α) malloc heap =
      (.escaped .exception, insert (.vtab vtab) heap) := rfl

/-- Without a plain `std::exception`, every way out of `module_create` is a report. -/
theorem exists_reports (h : ¬ (new.isSome ∧ create = .error .exception)) :
    ∃ answer, (moduleCreate new create malloc heap).1 = .returned answer ∧
      Reports new create malloc answer := by
  cases new with
  | none =>
    refine ⟨_, rfl, .of_not_created ?_ sqliteNomem_ne_ok rfl fun hmem =>
      absurd (Or.inl rfl) hmem⟩
    exact fun hcreated => absurd hcreated.1 (by simp)
  | some vtab =>
    rcases create with e | t
    · cases e with
      | badAlloc =>
        exact ⟨_, rfl, .of_not_created not_created_error sqliteNomem_ne_ok rfl fun hmem =>
          absurd (Or.inr (Or.inl rfl)) hmem⟩
      | runtimeError err =>
        cases malloc with
        | true =>
          exact ⟨_, rfl, .of_not_created not_created_error sqliteError_ne_ok rfl fun _ => rfl⟩
        | false =>
          exact ⟨_, rfl, .of_not_created not_created_error sqliteError_ne_ok rfl fun hmem =>
            absurd (Or.inr (Or.inr rfl)) hmem⟩
      | exception => exact absurd ⟨rfl, rfl⟩ h
    · have hcreated : Created (some vtab) (.ok t : Except Exception α) := ⟨rfl, t, rfl⟩
      exact ⟨_, rfl, iff_of_true rfl hcreated, iff_of_true rfl hcreated, fun hno =>
        absurd hcreated hno⟩

end Reports

end ModuleCreate

/-! ## `ClangQLModule::Create` -/

/-- The allocations on the way to a table: the object itself, the message of an exception, the
two strings, the channel, the stub, the table, and SQLite's copy of the message. -/
inductive Allocation
  | vtab
  | what
  | tableType
  | serverAddr
  | channel
  | stub
  | table
  | errmsg
  deriving DecidableEq

/-- What `module_create` meets: the allocations that succeed, the code of
`sqlite3_declare_vtab` and the text of `sqlite3_errmsg`. -/
structure Environment where
  allocates : Allocation → Bool
  declareVtab : ResultCode
  errmsg : Str

/-- The class of a table. -/
inductive Table
  | symbols
  | relations (kind : RelationKind)
  | refs
  deriving DecidableEq

section Create

variable (env : Environment)

/-- An allocation by `new`. -/
def Environment.allocate (a : Allocation) : Except Exception Unit :=
  if env.allocates a then .ok () else .error .badAlloc

/-- `throw std::runtime_error(what)`. -/
def Environment.throwRuntimeError {α : Type} (what : Str) : Except Exception α := do
  env.allocate .what
  .error (.runtimeError what)

/-- `SymbolsTable::SymbolsTable`. -/
def SymbolsTable.construct : Except Exception Unit :=
  if env.declareVtab ≠ sqliteOk then .error .exception else .ok ()

/-- `RelationsTable::RelationsTable`. -/
def RelationsTable.construct : Except Exception Unit :=
  if env.declareVtab ≠ sqliteOk then .error .exception else .ok ()

/-- `RefsTable::RefsTable`. -/
def RefsTable.construct : Except Exception Unit :=
  if env.declareVtab ≠ sqliteOk then env.throwRuntimeError env.errmsg else .ok ()

/-- The constructor of a table. -/
def Table.construct : Table → Except Exception Unit
  | symbols => SymbolsTable.construct env
  | relations _ => RelationsTable.construct env
  | refs => RefsTable.construct env

/-- `std::make_unique<T>(db, SymbolIndex::NewStub(channel), ...)`. -/
def makeUnique (t : Table) : Except Exception Table := do
  env.allocate .stub
  env.allocate .table
  t.construct env
  .ok t

/-- `ClangQLModule::Create`, from the test of the table type on. -/
def ClangQLModule.createTable (tableType : Str) : Except Exception Table :=
  if tableType = "symbols".toList then makeUnique env .symbols
  else if tableType = "base_of".toList then makeUnique env (.relations .baseOf)
  else if tableType = "overridden_by".toList then makeUnique env (.relations .overriddenBy)
  else if tableType = "refs".toList then makeUnique env .refs
  else env.throwRuntimeError ("Invalid table \x60".toList ++ tableType ++ "' requested".toList)

/-- `ClangQLModule::Create`, on the C strings of `argv`, `argc` many. -/
def ClangQLModule.create (argv : List Str) : Except Exception Table :=
  match argv with
  | [_, _, _, tableType, _] => do
    env.allocate .tableType
    env.allocate .serverAddr
    env.allocate .channel
    createTable env tableType
  | _ => env.throwRuntimeError "Invalid number of arguments for table creation".toList

/-- The tables whose constructor throws a plain `std::exception`. -/
def throwsPlain (tableType : Str) : Bool :=
  tableType == "symbols".toList || tableType == "base_of".toList ||
    tableType == "overridden_by".toList

/-- SQLite rejects the schema of a table whose constructor throws a plain `std::exception`, and
every allocation before that succeeds. -/
def PlainlyRejected : List Str → Prop
  | [_, _, _, tableType, _] => throwsPlain tableType ∧ env.declareVtab ≠ sqliteOk ∧
      ∀ a ∈ [.tableType, .serverAddr, .channel, .stub, .table], env.allocates a
  | _ => False

variable {env}

theorem allocate_bind_eq_exception {α : Type} {a : Allocation} {x : Except Exception α} :
    (env.allocate a >>= fun _ => x) = .error .exception ↔
      env.allocates a = true ∧ x = .error .exception := by
  unfold Environment.allocate
  split_ifs with ha
  · exact ⟨fun h => ⟨ha, h⟩, And.right⟩
  · exact iff_of_false (by simp [Bind.bind, Except.bind]) fun h => ha h.1

theorem throwRuntimeError_ne_exception {α : Type} (what : Str) :
    (env.throwRuntimeError what : Except Exception α) ≠ .error .exception := by
  intro h
  exact absurd (allocate_bind_eq_exception.mp h).2 (by simp)

theorem Table.construct_eq_exception {t : Table} :
    t.construct env = .error .exception ↔ t ≠ .refs ∧ env.declareVtab ≠ sqliteOk := by
  cases t with
  | symbols => simp [construct, SymbolsTable.construct]
  | relations kind => simp [construct, RelationsTable.construct]
  | refs =>
    refine iff_of_false ?_ fun h => h.1 rfl
    simp only [construct, RefsTable.construct]
    split_ifs
    · exact throwRuntimeError_ne_exception _
    · simp

theorem makeUnique_eq_exception {t : Table} :
    makeUnique env t = .error .exception ↔ env.allocates .stub = true ∧
      env.allocates .table = true ∧ t ≠ .refs ∧ env.declareVtab ≠ sqliteOk := by
  rw [makeUnique, allocate_bind_eq_exception, allocate_bind_eq_exception, Except.bind_eq_error,
    Table.construct_eq_exception]
  simp

theorem ClangQLModule.createTable_eq_exception {tableType : Str} :
    createTable env tableType = .error .exception ↔ throwsPlain tableType = true ∧
      env.allocates .stub = true ∧ env.allocates .table = true ∧
      env.declareVtab ≠ sqliteOk := by
  unfold createTable
  split_ifs with hsymbols hbase hoverridden hrefs
  · simp [makeUnique_eq_exception, throwsPlain, hsymbols]
  · simp [makeUnique_eq_exception, throwsPlain, hbase]
  · simp [makeUnique_eq_exception, throwsPlain, hoverridden]
  · simp [makeUnique_eq_exception, throwsPlain, hrefs]
  · have hno : throwsPlain tableType = false := by
      rw [throwsPlain, beq_false_of_ne hsymbols, beq_false_of_ne hbase,
        beq_false_of_ne hoverridden]
      rfl
    refine iff_of_false (throwRuntimeError_ne_exception _) fun h => ?_
    exact absurd (hno.symm.trans h.1) (by simp)

/-- **When `Create` throws a plain `std::exception`**: SQLite rejects the schema of a symbols
or a relation table. -/
theorem ClangQLModule.create_eq_exception {argv : List Str} :
    create env argv = .error .exception ↔ PlainlyRejected env argv := by
  unfold create PlainlyRejected
  split
  · simp only [allocate_bind_eq_exception, createTable_eq_exception, List.forall_mem_cons,
      List.not_mem_nil, false_implies, implies_true, and_true]
    tauto
  · exact iff_of_false (throwRuntimeError_ne_exception _) not_false

end Create

/-! ## Failures become errors -/

section Contained

variable {Addr : Type} [DecidableEq Addr]

/-- In this environment, `module_create` turns every failure of `ClangQLModule::Create` into an
error of SQLite, and no exception leaves it. `p` is the address `new` gives. -/
def Contained (env : Environment) (argv : List Str) (p : Addr) (heap : Finset (Object Addr)) :
    Prop :=
  ∃ answer, (moduleCreate (if env.allocates .vtab then some p else none)
      (ClangQLModule.create env argv) (env.allocates .errmsg) heap).1 = .returned answer ∧
    Reports (if env.allocates .vtab then some p else none) (ClangQLModule.create env argv)
      (env.allocates .errmsg) answer

/-- **`module_create` contains every failure** except that SQLite rejects the schema of a
symbols or a relation table. -/
theorem contained_iff (env : Environment) (argv : List Str) (p : Addr)
    (heap : Finset (Object Addr)) :
    Contained env argv p heap ↔
      ¬ (env.allocates .vtab = true ∧ PlainlyRejected env argv) := by
  rw [← ClangQLModule.create_eq_exception]
  constructor
  -- no handler catches a plain `std::exception`
  · rintro ⟨answer, hreturned, -⟩ ⟨hnew, hthrows⟩
    rw [if_pos hnew, hthrows, moduleCreate_exception] at hreturned
    exact absurd hreturned (by simp)
  · intro hno
    refine exists_reports fun h => hno ⟨?_, h.2⟩
    by_contra hnew
    simp [hnew] at h

/-- Memory lasts, and SQLite rejects the schema. -/
def rejecting : Environment where
  allocates _ := true
  declareVtab := sqliteError
  errmsg := "too many columns on vtable".toList

/-- `CREATE VIRTUAL TABLE s USING clangql(symbols, localhost:50051)` on a connection with fewer
columns allowed than the schema has. -/
theorem not_contained_symbols :
    ¬ Contained rejecting ["clangql".toList, "main".toList, "s".toList, "symbols".toList,
      "localhost:50051".toList] 0 (∅ : Finset (Object ℕ)) := by
  rintro ⟨answer, hreturned, -⟩
  have hthrows : ClangQLModule.create rejecting ["clangql".toList, "main".toList, "s".toList,
      "symbols".toList, "localhost:50051".toList] = .error .exception := by decide
  rw [hthrows] at hreturned
  exact absurd hreturned (by simp [rejecting, moduleCreate_exception])

end Contained

end ClangQL
