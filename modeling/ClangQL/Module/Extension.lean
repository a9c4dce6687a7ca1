import ClangQL.Functions.Naming
import ClangQL.Module.Ownership

/-!
# Loading the extension

`sqlite3_clangql_init` creates the naming functions on a connection, allocates the module and
registers it. It stops at the first failure. SQLite deletes a module through `delete_module`, at
once when the registration fails, and otherwise when the module is no longer registered.

## Main definitions

* `createFunctions`, `clangqlInit`: the function, for the results it meets
* `Connection`, `Extension`: the functions and the module of a connection, and all modules
* `ExtensionCall`, `Extension.Run`: loads, closed connections and deleted modules, in any order

## Main results

* `createFunctions_cases`: the functions that are created
* `clangqlInit_cases`: what a load does
* `Extension.run_sound`: in every run, modules are owned by SQLite, belong to one connection, and
  come with all functions
-/

namespace ClangQL

/-! ## `sqlite3_clangql_init` -/

/-- What `sqlite3_clangql_init` meets: the codes of `sqlite3_create_function`, the result of
`new ClangQLModule()` and the code of `sqlite3_create_module_v2`. -/
structure InitEnvironment (Addr : Type) where
  createFunction : NamingFunction → ResultCode
  new : Option Addr
  createModule : ResultCode

/-- The functions and the module `clangql` of a connection. -/
structure Connection (Addr : Type) where
  functions : List NamingFunction := []
  module : Option Addr := none

section Init

variable {Addr : Type} (env : InitEnvironment Addr)

/-- `CHECK_ERR(sqlite3_create_function(...))`, for one function after the other. -/
def createFunctions : List NamingFunction → Connection Addr → ResultCode × Connection Addr
  | [], c => (sqliteOk, c)
  | f :: fs, c =>
    if env.createFunction f ≠ sqliteOk then (env.createFunction f, c)
    else createFunctions fs { c with functions := c.functions ++ [f] }

/-- The functions, in the order they are created. -/
def namingFunctions : List NamingFunction := [.symbolKind, .symbolSubkind, .symbolLanguage]

/-- `Module::Register`, on the connection. When it fails, SQLite deletes the module. -/
def register (p : Addr) (c : Connection Addr) : ResultCode × Connection Addr :=
  if env.createModule ≠ sqliteOk then (env.createModule, c)
  else (sqliteOk, { c with module := some p })

/-- `sqlite3_clangql_init`, with the connection and what becomes of a module. -/
def clangqlInit (c : Connection Addr) :
    Ending Addr × Connection Addr × Ledger.Entry Addr :=
  let (rc, c) := createFunctions env namingFunctions c
  if rc ≠ sqliteOk then (.returned { code := rc }, c, .pass)
  else
    match env.new with
    | none => (.escaped .badAlloc, c, .pass)
    | some p =>
      let (rc, c) := register env p c
      (.returned { code := rc }, c, if rc ≠ sqliteOk then .pass else .acquire p)

variable {env}

/-- **The functions that are created** are those before the first failure. -/
theorem createFunctions_cases (fs : List NamingFunction) (c : Connection Addr) :
    ∃ before after, fs = before ++ after ∧
      (createFunctions env fs c).2 = { c with functions := c.functions ++ before } ∧
      ((createFunctions env fs c).1 = sqliteOk ↔ after = []) := by
  induction fs generalizing c with
  | nil => exact ⟨[], [], rfl, by simp [createFunctions], iff_of_true rfl rfl⟩
  | cons f fs ih =>
    by_cases hf : env.createFunction f = sqliteOk
    · obtain ⟨before, after, hfs, hc, hrc⟩ := ih { c with functions := c.functions ++ [f] }
      refine ⟨f :: before, after, congrArg (f :: ·) hfs, ?_, ?_⟩
      · rw [createFunctions, if_neg (not_not.mpr hf), hc]
        simp
      · rw [createFunctions, if_neg (not_not.mpr hf)]
        exact hrc
    · refine ⟨[], f :: fs, rfl, ?_, ?_⟩
      · rw [createFunctions, if_pos hf]
        simp
      · rw [createFunctions, if_pos hf]
        exact iff_of_false hf (by simp)

/-- **What a load does**: it leaves the module of the connection as it is, and then no module is
allocated any more; or it registers a new module, after all functions are created. -/
theorem clangqlInit_cases (c : Connection Addr) :
    (∃ functions, c.functions ⊆ functions ∧
        (clangqlInit env c).2 = (⟨functions, c.module⟩, .pass)) ∨
      ∃ p, env.new = some p ∧ (clangqlInit env c).1 = .returned { code := sqliteOk } ∧
        (clangqlInit env c).2 =
          (⟨c.functions ++ namingFunctions, some p⟩, .acquire p) := by
  obtain ⟨before, after, hfs, hc, hrc⟩ := @createFunctions_cases _ env namingFunctions c
  unfold clangqlInit
  rw [← Prod.mk.eta (p := createFunctions env namingFunctions c), hc]
  dsimp only
  by_cases hcreated : (createFunctions env namingFunctions c).1 = sqliteOk
  · obtain rfl := hrc.mp hcreated
    rw [List.append_nil] at hfs
    rw [if_neg (not_not.mpr hcreated), ← hfs]
    cases hnew : env.new with
    | none => exact Or.inl ⟨_, List.subset_append_left _ _, rfl⟩
    | some p =>
      by_cases hmodule : env.createModule = sqliteOk
      · refine Or.inr ⟨p, rfl, ?_⟩
        simp [register, hmodule]
      · -- SQLite has deleted the module
        refine Or.inl ⟨c.functions ++ namingFunctions, List.subset_append_left _ _, ?_⟩
        simp [register, hmodule]
  · rw [if_pos hcreated]
    exact Or.inl ⟨_, List.subset_append_left _ _, rfl⟩

end Init

/-! ## Connections -/

/-- The modules that are allocated and those that SQLite owns, and the connections. -/
structure Extension (Conn Addr : Type) where
  modules : Ledger Addr
  connections : Conn → Connection Addr

/-- A call of SQLite: the extension is loaded, a connection is closed, a module is deleted. -/
inductive ExtensionCall (Conn Addr : Type)
  | init (db : Conn) (env : InitEnvironment Addr)
  | close (db : Conn)
  | deleteModule (p : Addr)

namespace Extension

variable {Conn Addr : Type} [DecidableEq Conn] [DecidableEq Addr]

/-- The calls that SQLite may make. An address that `new` gives is not in use, and SQLite deletes
modules that it owns and that no connection has registered. -/
def Allowed (s : Extension Conn Addr) : ExtensionCall Conn Addr → Prop
  | .init _ env => ∀ p ∈ env.new, p ∉ s.modules.live
  | .close _ => True
  | .deleteModule p => p ∈ s.modules.owned ∧ ∀ db, (s.connections db).module ≠ some p

/-- The state after a call. -/
def after (s : Extension Conn Addr) : ExtensionCall Conn Addr → Extension Conn Addr
  | .init db env =>
    let (_, c, entry) := clangqlInit env (s.connections db)
    ⟨s.modules.post entry, Function.update s.connections db c⟩
  | .close db => { s with connections := Function.update s.connections db {} }
  | .deleteModule p => { s with modules := s.modules.post (.release p) }

/-- A call that SQLite may make. -/
def Step (s : Extension Conn Addr) (call : ExtensionCall Conn Addr) (t : Extension Conn Addr) :
    Prop := Allowed s call ∧ t = after s call

/-- Calls of SQLite, from a process without connections. -/
abbrev Run (calls : List (ExtensionCall Conn Addr)) (s : Extension Conn Addr) : Prop :=
  LabelledRun Step ⟨⟨∅, ∅⟩, fun _ => {}⟩ calls s

/-- The modules allocated are those that SQLite owns; a registered module is one of them, belongs
to one connection, and its connection has all functions. -/
structure Sound (s : Extension Conn Addr) : Prop where
  balanced : s.modules.live = s.modules.owned
  live : ∀ db p, (s.connections db).module = some p → p ∈ s.modules.live
  unique : ∀ db db' p, (s.connections db).module = some p → (s.connections db').module = some p →
    db = db'
  functions : ∀ db, (s.connections db).module.isSome →
    namingFunctions ⊆ (s.connections db).functions

variable {s t : Extension Conn Addr} {call : ExtensionCall Conn Addr}

omit [DecidableEq Addr] in
/-- Creating functions keeps the invariant. -/
theorem Sound.createFunctions (h : Sound s) (db : Conn) {functions : List NamingFunction}
    (hfunctions : (s.connections db).functions ⊆ functions) :
    Sound ⟨s.modules,
      Function.update s.connections db ⟨functions, (s.connections db).module⟩⟩ := by
  have hmodule : ∀ d, (Function.update s.connections db ⟨functions, (s.connections db).module⟩
      d).module = (s.connections d).module := by
    intro d
    by_cases hd : d = db
    · subst hd
      simp
    · simp [hd]
  refine ⟨h.balanced, fun d p hp => ?_, fun d d' p hp hp' => ?_, fun d hd => ?_⟩
  · exact h.live d p ((hmodule d).symm.trans hp)
  · exact h.unique d d' p ((hmodule d).symm.trans hp) ((hmodule d').symm.trans hp')
  · have hall := h.functions d (by rwa [← hmodule d])
    by_cases hdb : d = db
    · subst hdb
      simpa using List.Subset.trans hall hfunctions
    · simpa [hdb] using hall

/-- A new module is owned by SQLite, and no connection has registered it before. -/
theorem Sound.register (h : Sound s) (db : Conn) {p : Addr} (hp : p ∉ s.modules.live)
    {functions : List NamingFunction} (hfunctions : namingFunctions ⊆ functions) :
    Sound ⟨s.modules.post (.acquire p),
      Function.update s.connections db ⟨functions, some p⟩⟩ := by
  have hmodule : ∀ d q, (Function.update s.connections db ⟨functions, some p⟩ d).module = some q →
      d = db ∧ q = p ∨ d ≠ db ∧ (s.connections d).module = some q := by
    intro d q hq
    by_cases hd : d = db
    · subst hd
      exact Or.inl ⟨rfl, by simpa [eq_comm] using hq⟩
    · exact Or.inr ⟨hd, by simpa [hd] using hq⟩
  refine ⟨congrArg (insert p) h.balanced, fun d q hq => ?_, fun d d' q hq hq' => ?_, fun d hd => ?_⟩
  · rcases hmodule d q hq with ⟨-, rfl⟩ | ⟨-, hold⟩
    · exact Finset.mem_insert_self q _
    · exact Finset.mem_insert_of_mem (h.live d q hold)
  · rcases hmodule d q hq with ⟨rfl, rfl⟩ | ⟨-, hold⟩
    · rcases hmodule d' q hq' with ⟨rfl, -⟩ | ⟨-, hold'⟩
      · rfl
      · exact absurd (h.live d' q hold') hp
    · rcases hmodule d' q hq' with ⟨-, rfl⟩ | ⟨-, hold'⟩
      · exact absurd (h.live d q hold) hp
      · exact h.unique d d' q hold hold'
  · by_cases hdb : d = db
    · subst hdb
      simpa using hfunctions
    · simpa [hdb] using h.functions d (by simpa [hdb] using hd)

omit [DecidableEq Addr] in
/-- A connection that is closed has nothing registered. -/
theorem Sound.close (h : Sound s) (db : Conn) :
    Sound { s with connections := Function.update s.connections db {} } := by
  have hmodule : ∀ d q, (Function.update s.connections db {} d).module = some q →
      d ≠ db ∧ (s.connections d).module = some q := by
    intro d q hq
    by_cases hd : d = db
    · subst hd
      exact absurd hq (by simp)
    · exact ⟨hd, by simpa [hd] using hq⟩
  refine ⟨h.balanced, fun d q hq => h.live d q (hmodule d q hq).2, fun d d' q hq hq' =>
    h.unique d d' q (hmodule d q hq).2 (hmodule d' q hq').2, fun d hd => ?_⟩
  obtain ⟨q, hq⟩ := Option.isSome_iff_exists.mp hd
  obtain ⟨hne, hq⟩ := hmodule d q hq
  simpa [hne] using h.functions d (Option.isSome_iff_exists.mpr ⟨q, hq⟩)

omit [DecidableEq Conn] in
/-- A module that is deleted is not registered. -/
theorem Sound.deleteModule (h : Sound s) {p : Addr}
    (hp : ∀ db, (s.connections db).module ≠ some p) :
    Sound { s with modules := s.modules.post (.release p) } := by
  refine ⟨congrArg (·.erase p) h.balanced, fun db q hq => ?_, h.unique, h.functions⟩
  refine Finset.mem_erase.mpr ⟨?_, h.live db q hq⟩
  rintro rfl
  exact hp db hq

/-- **One call** keeps the invariant. -/
theorem Sound.step (h : Sound s) (hstep : Step s call t) : Sound t := by
  obtain ⟨hallowed, rfl⟩ := hstep
  cases call with
  | init db env =>
    show Sound ⟨s.modules.post (clangqlInit env (s.connections db)).2.2,
      Function.update s.connections db (clangqlInit env (s.connections db)).2.1⟩
    rcases @clangqlInit_cases _ env (s.connections db) with ⟨functions, hfunctions, hinit⟩ |
      ⟨p, hnew, -, hinit⟩
    · rw [hinit]
      exact h.createFunctions db hfunctions
    · rw [hinit]
      exact h.register db (hallowed p hnew) (List.subset_append_right _ _)
  | close db => exact h.close db
  | deleteModule p => exact h.deleteModule hallowed.2

/-- **In every run** of loads, closed connections and deleted modules, whatever fails, the modules
allocated are those that SQLite owns; a registered module is one of them and belongs to one
connection, and its connection has all functions. -/
theorem run_sound {calls : List (ExtensionCall Conn Addr)} (hrun : Run calls s) : Sound s := by
  refine hrun.invariant_state ⟨rfl, ?_, ?_, ?_⟩ fun _ _ _ => Sound.step
  · intro db p hp
    exact absurd hp (by simp)
  · intro db db' p hp
    exact absurd hp (by simp)
  · intro db hdb
    exact absurd hdb (by simp)

/-- The extension is loaded, fails to load on a second connection, and the first is closed. -/
theorem run_sound_two_connections :
    let ok : InitEnvironment ℕ := ⟨fun _ => sqliteOk, some 1, sqliteOk⟩
    let failing : InitEnvironment ℕ := ⟨fun _ => sqliteOk, some 2, sqliteError⟩
    ∃ s, Run [.init 0 ok, .init 1 failing, .close (0 : ℕ)] s ∧ Sound s := by
  intro ok failing
  have hok : ∀ p ∈ ok.new, p ∉ (∅ : Finset ℕ) := by simp
  have hfailing : ∀ p ∈ failing.new, p ∉ ({1} : Finset ℕ) := by simp [failing]
  have hrun : Run [.init 0 ok, .init 1 failing, .close (0 : ℕ)] _ :=
    ((LabelledRun.nil.snoc ⟨hok, rfl⟩).snoc ⟨hfailing, rfl⟩).snoc ⟨trivial, rfl⟩
  exact ⟨_, hrun, run_sound hrun⟩

end Extension

end ClangQL
