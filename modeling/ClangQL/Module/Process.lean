import ClangQL.Module.Methods
import ClangQL.Module.Ownership

/-!
# The module in a process

SQLite creates and destroys tables, opens and closes cursors on them and calls the cursors, in
any order its protocol allows: the calls on one cursor interleave with those on all others. The
state of the module are the objects SQLite holds and the channels of `get_channel`. A cursor
refers to the stub inside its table object.

## Main definitions

* `ModuleVtabCur`: a cursor object
* `SqliteCall`: the calls of SQLite
* `Process`, `Process.Step`, `Process.Run`: the state, a call, and the runs of calls
* `CreatedBy`, `OpenedBy`: the past of a table and of a cursor

## Main results

* `CreatedBy.snoc`, `OpenedBy.snoc`: the past of an object stays as it is while the calls go on
-/

namespace ClangQL

/-! ## The state and the calls -/

/-- The object of a cursor: the table object whose stub it refers to, and its session. -/
structure ModuleVtabCur (Addr : Type) where
  stub : Addr
  table : Table
  session : Session table.Cursor table.Request table.Message

/-- The object that `Open` makes. -/
def ModuleVtabCur.fresh {Addr : Type} (sql : Sqlite) (stub : Addr) (t : Table) :
    ModuleVtabCur Addr :=
  ⟨stub, t, ⟨(t.virtualTable sql).fresh, none⟩⟩

/-- A call of SQLite. `new` is the address of the object, if it is allocated, and `allocates`
tells whether `Open` has the memory for the cursor. -/
inductive SqliteCall (Addr : Type)
  | create (env : Environment) (argv : List Str) (new : Addr)
  | «open» (vtab : Addr) (new : Option Addr) (allocates : Bool)
  | close (cur : Addr)
  | destroy (vtab : Addr)
  | cursor (cur : Addr) (call : CursorCall)

/-- The module in a process: the objects allocated and owned, the channels made, and what the
objects of SQLite hold. -/
structure Process (Addr : Type) where
  objects : Ownership Addr
  channels : ChannelCache
  vtabs : Addr → Option ModuleVtab
  cursors : Addr → Option (ModuleVtabCur Addr)

namespace Process

variable {Addr : Type}

/-- A process without tables. -/
def start (channels : ChannelCache) : Process Addr :=
  ⟨⟨∅, ∅⟩, channels, fun _ => none, fun _ => none⟩

/-- The call of `module_create`, with the results it meets. -/
def createCall (s : Process Addr) (env : Environment) (argv : List Str) (new : Addr) :
    ModuleCall Addr :=
  .create (if env.allocates .vtab then some new else none)
    ((ClangQLModule.createWith env argv s.channels).1.map (·.table)) (env.allocates .errmsg)

/-- The call of `module_open`, with the results it meets. -/
def openCall (vtab : Addr) (new : Option Addr) (allocates : Bool) : ModuleCall Addr :=
  .open vtab new (if allocates then .ok () else .error .badAlloc)

variable [DecidableEq Addr]

/-- The process after `module_create`. -/
def create (s : Process Addr) (env : Environment) (argv : List Str) (new : Addr) :
    Process Addr where
  objects := Ownership.after s.objects (s.createCall env argv new)
  channels :=
    if env.allocates .vtab then (ClangQLModule.createWith env argv s.channels).2 else s.channels
  vtabs :=
    match env.allocates .vtab, (ClangQLModule.createWith env argv s.channels).1 with
    | true, .ok v => Function.update s.vtabs new (some v)
    | _, _ => s.vtabs
  cursors := s.cursors

/-- The process after `module_open`. -/
def «open» (sql : Sqlite) (s : Process Addr) (vtab : Addr) (new : Option Addr)
    (allocates : Bool) : Process Addr where
  objects := Ownership.after s.objects (openCall vtab new allocates)
  channels := s.channels
  vtabs := s.vtabs
  cursors :=
    match new, allocates, s.vtabs vtab with
    | some cur, true, some v => Function.update s.cursors cur (some (.fresh sql vtab v.table))
    | _, _, _ => s.cursors

/-- The process after `module_close`. -/
def close (s : Process Addr) (cur : Addr) : Process Addr :=
  { s with
    objects := Ownership.after s.objects (.close cur)
    cursors := Function.update s.cursors cur none }

/-- The process after `module_destroy`. -/
def destroy (s : Process Addr) (vtab : Addr) : Process Addr :=
  { s with
    objects := Ownership.after s.objects (.destroy vtab)
    vtabs := Function.update s.vtabs vtab none }

/-- A call that SQLite may make: it gives back a table only when no cursor on it is open. The
stub that a cursor calls through is that of the table object it refers to. -/
inductive Step (sql : Sqlite) (s : Process Addr) : SqliteCall Addr → Process Addr → Prop
  | create {env : Environment} {argv : List Str} {new : Addr}
      (h : Ownership.Allowed s.objects (s.createCall env argv new)) :
      Step sql s (.create env argv new) (s.create env argv new)
  | «open» {vtab : Addr} {new : Option Addr} {allocates : Bool}
      (h : Ownership.Allowed s.objects (openCall vtab new allocates)) :
      Step sql s (.open vtab new allocates) (s.open sql vtab new allocates)
  | close {cur : Addr} (h : Ownership.Allowed s.objects (.close cur)) :
      Step sql s (.close cur) (s.close cur)
  | destroy {vtab : Addr} (h : Ownership.Allowed s.objects (.destroy vtab))
      (hclosed : ∀ cur c, s.cursors cur = some c → c.stub ≠ vtab) :
      Step sql s (.destroy vtab) (s.destroy vtab)
  | cursor {cur : Addr} {call : CursorCall} {stub : Addr} {t : Table} {v : ModuleVtab}
      {session session' : Session t.Cursor t.Request t.Message}
      (hcur : s.cursors cur = some ⟨stub, t, session⟩) (hstub : s.vtabs stub = some v)
      (hstep : (t.virtualTable sql).cursor.Step session (call.on t v.channel) session') :
      Step sql s (.cursor cur call)
        { s with cursors := Function.update s.cursors cur (some ⟨stub, t, session'⟩) }

/-- Calls of SQLite, from a process without tables. -/
abbrev Run (sql : Sqlite) (channels : ChannelCache) (calls : List (SqliteCall Addr))
    (s : Process Addr) : Prop :=
  LabelledRun (Step sql) (start channels) calls s

end Process

/-! ## The past of an object -/

section Past

variable {Addr : Type} [DecidableEq Addr]

/-- The call on a cursor. -/
def SqliteCall.onCursor (cur : Addr) : SqliteCall Addr → Option CursorCall
  | .cursor cur' call => if cur' = cur then some call else none
  | _ => none

theorem SqliteCall.onCursor_eq_some {cur : Addr} {call : SqliteCall Addr} {call' : CursorCall} :
    call.onCursor cur = some call' ↔ call = .cursor cur call' := by
  constructor
  · intro h
    cases call with
    | cursor cur' call =>
      simp only [onCursor] at h
      split_ifs at h with heq
      rw [heq, Option.some.inj h]
    | create env argv new => exact absurd h (by simp [onCursor])
    | «open» vtab new allocates => exact absurd h (by simp [onCursor])
    | close cur' => exact absurd h (by simp [onCursor])
    | destroy vtab => exact absurd h (by simp [onCursor])
  · rintro rfl
    exact if_pos rfl

/-- The calls on a cursor in a history. -/
def callsOn (cur : Addr) (calls : List (SqliteCall Addr)) : List CursorCall :=
  calls.filterMap (·.onCursor cur)

/-- The table object at `p` was made by a `CREATE` that named its class and the address of its
channel, and has not been destroyed since. -/
def CreatedBy (calls : List (SqliteCall Addr)) (p : Addr) (v : ModuleVtab) : Prop :=
  ∃ before env a b c tableType after,
    calls = before ++ .create env [a, b, c, tableType, v.channel.key] p :: after ∧
      Table.ofType tableType = some v.table ∧ .destroy p ∉ after

/-- The cursor object at `cur` was opened on the table object `v`, and neither has been given
back since: the session of the cursor is a run of exactly the calls made on it, served through
the channel of the table. -/
def OpenedBy (sql : Sqlite) (calls : List (SqliteCall Addr)) (cur : Addr)
    (c : ModuleVtabCur Addr) (v : ModuleVtab) : Prop :=
  ∃ before after, calls = before ++ .open c.stub (some cur) true :: after ∧
    CreatedBy before c.stub v ∧ v.table = c.table ∧
    .close cur ∉ after ∧ .destroy c.stub ∉ after ∧
    (c.table.virtualTable sql).cursor.Run (c.table.virtualTable sql).fresh
      ((callsOn cur after).map (·.on c.table v.channel)) c.session

variable {sql : Sqlite} {calls : List (SqliteCall Addr)} {call : SqliteCall Addr} {p cur : Addr}
  {v : ModuleVtab} {c : ModuleVtabCur Addr}

theorem callsOn_snoc (cur : Addr) (calls : List (SqliteCall Addr)) (call : SqliteCall Addr) :
    callsOn cur (calls ++ [call]) = callsOn cur calls ++ (call.onCursor cur).toList := by
  rw [callsOn, List.filterMap_append, callsOn, List.filterMap_cons]
  cases call.onCursor cur <;> rfl

omit [DecidableEq Addr] in
/-- No other call ends the life of a table. -/
theorem CreatedBy.snoc (h : CreatedBy calls p v) (hcall : call ≠ .destroy p) :
    CreatedBy (calls ++ [call]) p v := by
  obtain ⟨before, env, a, b, c, tableType, after, rfl, ht, hafter⟩ := h
  refine ⟨before, env, a, b, c, tableType, after ++ [call], by simp, ht, fun hmem => ?_⟩
  rcases List.mem_append.mp hmem with hmem | hmem
  · exact hafter hmem
  · exact hcall (List.mem_singleton.mp hmem).symm

/-- Other calls leave the past of a cursor as it is, except those on the cursor, which its
session takes. -/
theorem OpenedBy.snoc {stub : Addr} {t : Table}
    {session session' : Session t.Cursor t.Request t.Message}
    (h : OpenedBy sql calls cur ⟨stub, t, session⟩ v) (hclose : call ≠ .close cur)
    (hdestroy : call ≠ .destroy stub)
    (hcall : match call.onCursor cur with
      | none => session' = session
      | some call => (t.virtualTable sql).cursor.Step session (call.on t v.channel) session') :
    OpenedBy sql (calls ++ [call]) cur ⟨stub, t, session'⟩ v := by
  obtain ⟨before, after, rfl, hcreated, ht, hafter, hafter', hrun⟩ := h
  refine ⟨before, after ++ [call], by simp, hcreated, ht, fun hmem => ?_, fun hmem => ?_, ?_⟩
  · rcases List.mem_append.mp hmem with hmem | hmem
    · exact hafter hmem
    · exact hclose (List.mem_singleton.mp hmem).symm
  · rcases List.mem_append.mp hmem with hmem | hmem
    · exact hafter' hmem
    · exact hdestroy (List.mem_singleton.mp hmem).symm
  · rw [callsOn_snoc]
    cases hon : call.onCursor cur with
    | none =>
      rw [hon] at hcall
      rw [Option.toList_none, List.append_nil, show session' = session from hcall]
      exact hrun
    | some call' =>
      rw [hon] at hcall
      rw [Option.toList_some, List.map_append, List.map_singleton]
      exact hrun.snoc hcall

end Past

end ClangQL
