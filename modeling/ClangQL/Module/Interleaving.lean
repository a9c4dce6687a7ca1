import ClangQL.Module.Process

/-!
# Interleaved calls

Whatever order SQLite makes its calls in, the objects of the module stay apart: a table keeps
its class and its channel until it is destroyed, and the session of a cursor is a run of the
calls made on that cursor alone, served by the server its table names.

## Main definitions

* `Process.Valid`: the invariant of runs
* `Process.ScanOf`: a scan is that of the latest `Filter` of a cursor

## Main results

* `Process.Step.vtab_cases`, `Process.Step.cursor_cases`: what one call does to an object
* `Process.Run.valid`: in every run, the objects are those SQLite owns, and the stub a cursor
  calls through is there
* `Process.Run.createdBy`, `Process.Run.openedBy`: in every run, the past of the objects
* `Process.Run.cursor_reads`: the row at hand, in every interleaving
* `Process.Run.cursor_safe`: no call reads through a null stream or a stub that is gone
-/

namespace ClangQL

namespace Process

variable {Addr : Type} [DecidableEq Addr] {sql : Sqlite} {made : ChannelCache}
  {calls : List (SqliteCall Addr)} {s t : Process Addr} {call : SqliteCall Addr} {p cur : Addr}
  {v : ModuleVtab} {c : ModuleVtabCur Addr}

/-! ## One call -/

/-- The objects SQLite owns are allocated. -/
theorem owned_subset_after {l : Ownership Addr} {m : ModuleCall Addr}
    (h : Ownership.Allowed l m) (hl : l.owned ⊆ l.live) :
    (Ownership.after l m).owned ⊆ (Ownership.after l m).live := by
  rw [Ownership.after_eq_post h]
  exact Ledger.owned_subset_post hl

/-- The objects of SQLite hold tables and cursors whose stubs are there, and the channels of the
tables are those of `get_channel`. -/
structure Valid (s : Process Addr) : Prop where
  owned_live : s.objects.owned ⊆ s.objects.live
  vtab_iff : ∀ p, (s.vtabs p).isSome ↔ Object.vtab p ∈ s.objects.owned
  cursor_iff : ∀ cur, (s.cursors cur).isSome ↔ Object.cursor cur ∈ s.objects.owned
  channel : ∀ p v, s.vtabs p = some v → s.channels.find v.channel.key = some v.channel
  stub : ∀ cur c, s.cursors cur = some c → ∃ v, s.vtabs c.stub = some v ∧ v.table = c.table

omit [DecidableEq Addr] in
theorem valid_start (channels : ChannelCache) : Valid (start channels : Process Addr) where
  owned_live := Finset.Subset.refl _
  vtab_iff p := by simp [start]
  cursor_iff cur := by simp [start]
  channel p v h := absurd h (by simp [start])
  stub cur c h := absurd h (by simp [start])

/-- What SQLite owns after `module_create`, if the object is allocated. -/
theorem owned_create (l : Ownership Addr) (new : Addr) (result : Except Exception Table)
    (malloc : Bool) : (Ownership.after l (.create (some new) result malloc)).owned =
      if result.isOk then insert (.vtab new) l.owned else l.owned := by
  rcases result with (_ | err | _) | t
  · rfl
  · cases malloc <;> rfl
  · rfl
  · rfl

/-- **`module_create`** adds one table when `Create` returns one, and else none. -/
theorem create_cases (s : Process Addr) (env : Environment) (argv : List Str) (new : Addr) :
    (∃ v, env.allocates .vtab = true ∧ (ClangQLModule.createWith env argv s.channels).1 = .ok v ∧
        (s.create env argv new).vtabs = Function.update s.vtabs new (some v) ∧
        (s.create env argv new).objects.owned = insert (.vtab new) s.objects.owned) ∨
      (s.create env argv new).vtabs = s.vtabs ∧
        (s.create env argv new).objects.owned = s.objects.owned := by
  unfold Process.create createCall
  cases hvtab : env.allocates .vtab with
  | false => exact Or.inr ⟨rfl, rfl⟩
  | true =>
    dsimp only
    rw [if_pos rfl, owned_create]
    cases hcreate : (ClangQLModule.createWith env argv s.channels).1 with
    | error e => exact Or.inr ⟨rfl, rfl⟩
    | ok v => exact Or.inl ⟨v, rfl, rfl, rfl, rfl⟩

/-- **`module_open`** adds one cursor when `Open` returns one, and else none. -/
theorem open_cases (sql : Sqlite) (s : Process Addr) (vtab : Addr) (new : Option Addr)
    (allocates : Bool) (hvtab : (s.vtabs vtab).isSome) :
    (∃ cur v, new = some cur ∧ allocates = true ∧ s.vtabs vtab = some v ∧
        (s.open sql vtab new allocates).cursors =
          Function.update s.cursors cur (some (.fresh sql vtab v.table)) ∧
        (s.open sql vtab new allocates).objects.owned = insert (.cursor cur) s.objects.owned) ∨
      (s.open sql vtab new allocates).cursors = s.cursors ∧
        (s.open sql vtab new allocates).objects.owned = s.objects.owned := by
  obtain ⟨v, hv⟩ := Option.isSome_iff_exists.mp hvtab
  unfold Process.open openCall
  rw [hv]
  rcases new with _ | cur
  · exact Or.inr ⟨rfl, rfl⟩
  · cases allocates with
    | false => exact Or.inr ⟨rfl, rfl⟩
    | true => exact Or.inl ⟨cur, v, rfl, rfl, rfl, rfl, rfl⟩

/-- A call keeps the channels there are. -/
theorem Step.channels_extends (h : Step sql s call t) : t.channels.Extends s.channels := by
  cases h with
  | create h =>
    unfold Process.create
    dsimp only
    split_ifs
    · exact ClangQLModule.createWith_extends _ _ _
    · exact Memo.Extends.refl _
  | «open» h => exact Memo.Extends.refl _
  | close h => exact Memo.Extends.refl _
  | destroy h hclosed => exact Memo.Extends.refl _
  | cursor hcur hstub hstep => exact Memo.Extends.refl _

/-- **What a call does to a table**: it is there before and not destroyed, or made by the call. -/
theorem Step.vtab_cases (h : Step sql s call t) (hv : t.vtabs p = some v) :
    (s.vtabs p = some v ∧ call ≠ .destroy p) ∨
      ∃ env argv, call = .create env argv p ∧ env.allocates .vtab = true ∧
        (ClangQLModule.createWith env argv s.channels).1 = .ok v ∧
        t.channels = (ClangQLModule.createWith env argv s.channels).2 := by
  cases h with
  | @create env argv new h =>
    rcases create_cases s env argv new with ⟨v', hvtab, hcreate, hvtabs, -⟩ | ⟨hvtabs, -⟩
    · rw [hvtabs, Function.update_apply] at hv
      split_ifs at hv with hp
      · obtain rfl := Option.some.inj hv
        obtain rfl := hp
        exact Or.inr ⟨env, argv, rfl, hvtab, hcreate, by simp [Process.create, hvtab]⟩
      · exact Or.inl ⟨hv, by simp⟩
    · exact Or.inl ⟨hvtabs ▸ hv, by simp⟩
  | «open» h => exact Or.inl ⟨hv, by simp⟩
  | close h => exact Or.inl ⟨hv, by simp⟩
  | @destroy vtab h hclosed =>
    have hv : Function.update s.vtabs vtab none p = some v := hv
    rw [Function.update_apply] at hv
    split_ifs at hv with hp
    exact Or.inl ⟨hv, fun heq => hp (SqliteCall.destroy.inj heq).symm⟩
  | cursor hcur hstub hstep => exact Or.inl ⟨hv, by simp⟩

/-- A table stays as it is until it is destroyed. -/
theorem Step.vtab_keeps (h : Step sql s call t) (hs : Valid s) (hv : s.vtabs p = some v)
    (hcall : call ≠ .destroy p) : t.vtabs p = some v := by
  cases h with
  | @create env argv new h =>
    rcases create_cases s env argv new with ⟨v', hvtab, -, hvtabs, -⟩ | ⟨hvtabs, -⟩
    · have hne : p ≠ new := by
        rintro rfl
        have howned := (hs.vtab_iff p).mp (Option.isSome_iff_exists.mpr ⟨v, hv⟩)
        refine h p ?_ (hs.owned_live howned)
        rw [hvtab]
        rfl
      rw [hvtabs, Function.update_of_ne hne, hv]
    · rw [hvtabs, hv]
  | «open» h => exact hv
  | close h => exact hv
  | @destroy vtab h hclosed =>
    have hne : p ≠ vtab := by
      rintro rfl
      exact hcall rfl
    exact (Function.update_of_ne hne none s.vtabs).trans hv
  | cursor hcur hstub hstep => exact hv

/-- **What a call does to a cursor**: it is there before, and the call is not on it and does not
give back the cursor or its table; or the call opens it; or it is a call on it. -/
theorem Step.cursor_cases (h : Step sql s call t) (hs : Valid s) (hc : t.cursors cur = some c) :
    (s.cursors cur = some c ∧ call ≠ .close cur ∧ call ≠ .destroy c.stub ∧
        call.onCursor cur = none) ∨
      (∃ stub v, call = .open stub (some cur) true ∧ s.vtabs stub = some v ∧
        c = .fresh sql stub v.table) ∨
      ∃ call' session v, call = .cursor cur call' ∧ s.cursors cur = some { c with session } ∧
        s.vtabs c.stub = some v ∧
        (c.table.virtualTable sql).cursor.Step session (call'.on c.table v.channel) c.session := by
  cases h with
  | create h => exact Or.inl ⟨hc, by simp, by simp, rfl⟩
  | @«open» vtab new allocates h =>
    rcases open_cases sql s vtab new allocates ((hs.vtab_iff vtab).mpr h.1) with
      ⟨cur', v, rfl, rfl, hv, hcursors, -⟩ | ⟨hcursors, -⟩
    · rw [hcursors, Function.update_apply] at hc
      split_ifs at hc with hcur
      · obtain rfl := Option.some.inj hc
        obtain rfl := hcur
        exact Or.inr (Or.inl ⟨vtab, v, rfl, hv, rfl⟩)
      · exact Or.inl ⟨hc, by simp, by simp, rfl⟩
    · exact Or.inl ⟨hcursors ▸ hc, by simp, by simp, rfl⟩
  | @close cur' h =>
    have hc : Function.update s.cursors cur' none cur = some c := hc
    rw [Function.update_apply] at hc
    split_ifs at hc with hcur
    exact Or.inl ⟨hc, fun heq => hcur (SqliteCall.close.inj heq).symm, by simp, rfl⟩
  | @destroy vtab h hclosed =>
    refine Or.inl ⟨hc, by simp, fun heq => ?_, rfl⟩
    exact hclosed cur c hc (SqliteCall.destroy.inj heq).symm
  | @cursor cur' call' stub table v session session' hcur hstub hstep =>
    have hc : Function.update s.cursors cur' (some ⟨stub, table, session'⟩) cur = some c := hc
    rw [Function.update_apply] at hc
    split_ifs at hc with heq
    · obtain rfl := Option.some.inj hc
      obtain rfl := heq
      exact Or.inr (Or.inr ⟨call', session, v, rfl, hcur, hstub, hstep⟩)
    · exact Or.inl ⟨hc, by simp, by simp, by simp [SqliteCall.onCursor, Ne.symm heq]⟩

/-! ## Runs -/

/-- **Every call keeps the objects valid.** -/
theorem Step.valid (h : Step sql s call t) (hs : Valid s) : Valid t := by
  have hchannel : ∀ p v, t.vtabs p = some v → t.channels.find v.channel.key = some v.channel := by
    intro p v hv
    rcases h.vtab_cases hv with ⟨hv, -⟩ | ⟨env, argv, -, -, hcreate, hchannels⟩
    · exact h.channels_extends _ _ (hs.channel p v hv)
    · rw [hchannels]
      exact (ClangQLModule.createWith_eq_ok hcreate).2
  have hstub : ∀ cur c, t.cursors cur = some c →
      ∃ v, t.vtabs c.stub = some v ∧ v.table = c.table := by
    intro cur c hc
    rcases h.cursor_cases hs hc with
      ⟨hc, -, hdestroy, -⟩ | ⟨stub, v, rfl, hv, rfl⟩ | ⟨call', session, v, rfl, hc, hv, -⟩
    · obtain ⟨v, hv, ht⟩ := hs.stub cur c hc
      exact ⟨v, h.vtab_keeps hs hv hdestroy, ht⟩
    · exact ⟨v, h.vtab_keeps hs hv (by simp), rfl⟩
    · obtain ⟨v', hv', ht⟩ := hs.stub cur _ hc
      exact ⟨v', h.vtab_keeps hs hv' (by simp), ht⟩
  have howned : t.objects.owned ⊆ t.objects.live := by
    cases h with
    | create h => exact owned_subset_after h hs.owned_live
    | «open» h => exact owned_subset_after h hs.owned_live
    | close h => exact owned_subset_after h hs.owned_live
    | destroy h hclosed => exact owned_subset_after h hs.owned_live
    | cursor hcur hstub hstep => exact hs.owned_live
  refine ⟨howned, fun p => ?_, fun cur => ?_, hchannel, hstub⟩
  · cases h with
    | @create env argv new h =>
      rcases create_cases s env argv new with ⟨v, -, -, hvtabs, ho⟩ | ⟨hvtabs, ho⟩
      · rw [hvtabs, ho, Finset.mem_insert, ← hs.vtab_iff p, Function.update_apply]
        split_ifs with hp
        · simp [hp]
        · simp [hp]
      · rw [hvtabs, ho, hs.vtab_iff p]
    | @«open» vtab new allocates h =>
      rcases open_cases sql s vtab new allocates ((hs.vtab_iff vtab).mpr h.1) with
        ⟨cur', v, -, -, -, -, ho⟩ | ⟨-, ho⟩
      · rw [ho, Finset.mem_insert, ← hs.vtab_iff p]
        simp [Process.open]
      · rw [ho, ← hs.vtab_iff p]
        rfl
    | close h => simp [Process.close, Ownership.after, Ownership.handed, hs.vtab_iff p]
    | @destroy vtab h hclosed =>
      show (Function.update s.vtabs vtab none p).isSome ↔ _ ∈ s.objects.owned.erase (.vtab vtab)
      rw [Finset.mem_erase, ← hs.vtab_iff p, Function.update_apply]
      split_ifs with hp
      · simp [hp]
      · simp [hp]
    | cursor hcur hstub hstep => exact hs.vtab_iff p
  · cases h with
    | @create env argv new h =>
      rcases create_cases s env argv new with ⟨v, -, -, -, ho⟩ | ⟨-, ho⟩
      · rw [ho, Finset.mem_insert, ← hs.cursor_iff cur]
        simp [Process.create]
      · rw [ho, ← hs.cursor_iff cur]
        rfl
    | @«open» vtab new allocates h =>
      rcases open_cases sql s vtab new allocates ((hs.vtab_iff vtab).mpr h.1) with
        ⟨cur', v, -, -, -, hcursors, ho⟩ | ⟨hcursors, ho⟩
      · rw [hcursors, ho, Finset.mem_insert, ← hs.cursor_iff cur, Function.update_apply]
        split_ifs with hcur
        · simp [hcur]
        · simp [hcur]
      · rw [hcursors, ho, hs.cursor_iff cur]
    | @close cur' h =>
      show (Function.update s.cursors cur' none cur).isSome ↔
        _ ∈ s.objects.owned.erase (.cursor cur')
      rw [Finset.mem_erase, ← hs.cursor_iff cur, Function.update_apply]
      split_ifs with hcur
      · simp [hcur]
      · simp [hcur]
    | destroy h hclosed =>
      simp [Process.destroy, Ownership.after, Ownership.handed, hs.cursor_iff cur]
    | @cursor cur' call' stub table v session session' hcur hstub hstep =>
      show (Function.update s.cursors cur' (some ⟨stub, table, session'⟩) cur).isSome ↔ _
      rw [← hs.cursor_iff cur, Function.update_apply]
      split_ifs with heq
      · simp [heq, hcur]
      · rfl

theorem Run.valid (h : Run sql made calls s) : Valid s :=
  h.invariant_state (valid_start made) fun _ _ _ hs hstep => hstep.valid hs

/-- **The past of a table**: in every run, a `CREATE` that named its class and its server. -/
theorem Run.createdBy (h : Run sql made calls s) (hv : s.vtabs p = some v) :
    CreatedBy calls p v := by
  refine h.invariant (I := fun calls s => ∀ v, s.vtabs p = some v → CreatedBy calls p v)
    (fun v hv => absurd hv (by simp [start])) ?_ v hv
  intro calls s call t ih hstep v hv
  rcases hstep.vtab_cases hv with ⟨hv, hcall⟩ | ⟨env, argv, rfl, -, hcreate, -⟩
  · exact (ih v hv).snoc hcall
  · obtain ⟨⟨a, b, c, tableType, rfl, ht⟩, -⟩ := ClangQLModule.createWith_eq_ok hcreate
    exact ⟨calls, env, a, b, c, tableType, [], rfl, ht, List.not_mem_nil⟩

/-- **The past of a cursor**: in every run, the `Open` on its table, and then the calls on the
cursor, whatever calls on other objects stand between them. -/
theorem Run.openedBy (h : Run sql made calls s) (hc : s.cursors cur = some c) :
    ∃ v, s.vtabs c.stub = some v ∧ OpenedBy sql calls cur c v := by
  induction h generalizing c with
  | nil => exact absurd hc (by simp [start])
  | @snoc calls s t call hrun hstep ih =>
    have hs := Run.valid hrun
    rcases hstep.cursor_cases hs hc with
      ⟨hc, hclose, hdestroy, hon⟩ | ⟨stub, v, rfl, hv, rfl⟩ | ⟨call', session, v, rfl, hc, hv, h⟩
    · obtain ⟨v, hv, hopened⟩ := ih hc
      refine ⟨v, hstep.vtab_keeps hs hv hdestroy, hopened.snoc hclose hdestroy ?_⟩
      rw [hon]
    · exact ⟨v, hstep.vtab_keeps hs hv (by simp), calls, [], rfl, Run.createdBy hrun hv, rfl,
        List.not_mem_nil, List.not_mem_nil, .nil⟩
    · obtain ⟨v', hv', hopened⟩ := ih hc
      obtain rfl : v' = v := Option.some.inj (hv'.symm.trans hv)
      refine ⟨v', hstep.vtab_keeps hs hv (by simp), hopened.snoc (by simp) (by simp) ?_⟩
      rw [show SqliteCall.onCursor cur (.cursor cur call') = some call' from if_pos rfl]
      exact h

/-! ## Reading a cursor -/

/-- The calls on a cursor come from a history in their order. -/
theorem callsOn_split {calls : List (SqliteCall Addr)} {before after : List CursorCall}
    {call : CursorCall} (h : callsOn cur calls = before ++ call :: after) :
    ∃ calls₁ calls₂, calls = calls₁ ++ .cursor cur call :: calls₂ ∧
      callsOn cur calls₁ = before ∧ callsOn cur calls₂ = after := by
  obtain ⟨calls₁, rest, rfl, h₁, hrest⟩ := List.filterMap_eq_append_iff.mp h
  obtain ⟨between, k, calls₂, rfl, hbetween, hk, h₂⟩ := List.filterMap_eq_cons_iff.mp hrest
  obtain rfl := SqliteCall.onCursor_eq_some.mp hk
  refine ⟨calls₁ ++ between, calls₂, by rw [List.append_assoc], ?_, h₂⟩
  have hnone : between.filterMap (·.onCursor cur) = [] :=
    List.filterMap_eq_nil_iff.mpr hbetween
  rw [callsOn, List.filterMap_append, hnone, List.append_nil]
  exact h₁

/-- A call is a `Filter` of the class exactly when it is one of SQLite. -/
theorem on_eq_filter {t : Table} {channel : Channel} {call : CursorCall}
    {server : t.Request → List (Reply t.Message)} {idxNum : Int32} {argv : List Value}
    (h : call.on t channel = .filter server idxNum argv) :
    ∃ network, call = .filter network idxNum argv ∧ server = t.serve (network channel) := by
  cases call with
  | filter network idxNum' argv' =>
    obtain ⟨hserver, rfl, rfl⟩ := Call.filter.inj h
    exact ⟨network, rfl, hserver.symm⟩
  | next => exact absurd h (by simp [CursorCall.on])
  | eof => exact absurd h (by simp [CursorCall.on])
  | column i => exact absurd h (by simp [CursorCall.on])
  | rowId => exact absurd h (by simp [CursorCall.on])

/-- The scan of the cursor at `cur`, which was opened on the table at `stub`, in a history of
calls. It belongs to the latest `Filter` on this cursor. That call met the cursor as the calls on
this cursor alone had left it, and its request, if the plan number asks for one, went to the server
that the channel reached at that time; `Next` was called `pos` times on this cursor since. -/
def ScanOf (sql : Sqlite) (calls : List (SqliteCall Addr)) (stub cur : Addr) (t : Table)
    (channel : Channel) (scan : Scan t.Request t.Message) : Prop :=
  ∃ before since network idxNum argv after,
    calls = before ++ .open stub (some cur) true ::
        (since ++ .cursor cur (.filter network idxNum argv) :: after) ∧
      .close cur ∉ since ∧ .close cur ∉ after ∧
      (t.virtualTable sql).cursor.StartedBy t.asks (t.virtualTable sql).fresh
        ((callsOn cur since).map (·.on t channel)) (t.serve (network channel)) idxNum argv
        ((callsOn cur after).map (·.on t channel)) scan

/-- **Reading a cursor, in every interleaving.** An open cursor belongs to a table made by a
`CREATE` that named its class and its server. Its scan is that of the latest `Filter` on this
cursor, answered by that server, and the cursor reads as an iterator over the results at the
position given by the calls of `Next` on this cursor since, whatever calls on other objects stand
between them. -/
theorem Run.cursor_reads (h : Run sql made calls s) {stub : Addr} {t : Table}
    {session : Session t.Cursor t.Request t.Message}
    (hc : s.cursors cur = some ⟨stub, t, session⟩) {scan : Scan t.Request t.Message}
    (hscan : session.scan = some scan) :
    ∃ v, s.vtabs stub = some v ∧ v.table = t ∧ CreatedBy calls stub v ∧
      ScanOf sql calls stub cur t v.channel scan ∧
      (t.virtualTable sql).cursor.IteratorAt t.rowOf session.cursor scan := by
  obtain ⟨v, hv, before, after, rfl, -, ht, hclose, -, hrun⟩ := Run.openedBy h hc
  refine ⟨v, hv, ht, Run.createdBy h hv, ?_, (t.iterates sql).iteratorAt hrun hscan⟩
  obtain ⟨calls₁, server, idxNum, argv, calls₂, hcalls, hstarted⟩ :=
    (t.sendsWhen sql).latestFilter hrun hscan
  obtain ⟨l₁, l, hl, rfl, hl'⟩ := List.map_eq_append_iff.mp hcalls
  obtain ⟨call, l₂, rfl, hcall, rfl⟩ := List.map_eq_cons_iff.mp hl'
  obtain ⟨network, rfl, rfl⟩ := on_eq_filter hcall
  obtain ⟨since, after', rfl, rfl, rfl⟩ := callsOn_split hl
  refine ⟨before, since, network, idxNum, argv, after', rfl, fun hmem => hclose ?_,
    fun hmem => hclose ?_, hstarted⟩
  · exact List.mem_append_left _ hmem
  · exact List.mem_append_right _ (List.mem_cons_of_mem _ hmem)

/-- A `CREATE` whose object is at an address not in use. -/
theorem Step.create_new {env : Environment} {argv : List Str} {new : Addr}
    (h : Object.vtab new ∉ s.objects.live) :
    Step sql s (.create env argv new) (s.create env argv new) := by
  refine .create fun p hp => ?_
  split_ifs at hp
  · rwa [← Option.some.inj hp]
  · exact absurd hp (by simp)

/-- An `Open` whose object is at an address not in use. -/
theorem Step.open_new {vtab cur : Addr} {allocates : Bool}
    (hvtab : Object.vtab vtab ∈ s.objects.owned) (h : Object.cursor cur ∉ s.objects.live) :
    Step sql s (.open vtab (some cur) allocates) (s.open sql vtab (some cur) allocates) := by
  refine .open ⟨hvtab, fun p hp => ?_⟩
  rwa [← Option.some.inj hp]

/-- Memory lasts, and SQLite answers a schema with `declareVtab`. -/
def lasting (declareVtab : ResultCode) : Environment where
  allocates _ := true
  declareVtab := declareVtab
  errmsg := []

/-- A server with two relations and one symbol behind every channel. -/
def network (_ : Channel) : SymbolIndex where
  lookup _ := replies []
  fuzzyFind _ := replies [{ id := some ['x'] }]
  refs _ := replies []
  relations _ := replies [{ subjectId := some ['x'], object := some { id := some ['o'] } },
    { subjectId := some ['x'], object := some { id := some ['p'] } }]

/-- The arguments of a `CREATE`. -/
def createArgs (tableType addr : String) : List Str :=
  ["clangql".toList, "main".toList, "t".toList, tableType.toList, addr.toList]

/-- Two tables on two servers, and one whose schema is rejected; two cursors on the first table and
one on the second, whose calls interleave. -/
def session : List (SqliteCall ℕ) :=
  [.create (lasting sqliteOk) (createArgs "base_of" "localhost:50051") 1,
    .create (lasting sqliteOk) (createArgs "symbols" "localhost:50052") 2,
    .create (lasting sqliteError) (createArgs "symbols" "localhost:50053") 3,
    .open 1 (some 4) true, .open 1 (some 5) true, .open 2 (some 6) true,
    .cursor 4 (.filter network 1 [.text ['x']]), .cursor 6 (.filter network 0 []),
    .cursor 5 (.filter network 1 [.text ['y']]), .cursor 4 .next, .cursor 6 .next,
    .cursor 4 (.filter network 1 [.text ['z']]), .cursor 5 .next, .cursor 4 .next]

/-- The second scan of the first cursor asks for both of its own subjects. -/
theorem run_session : ∃ s : Process ℕ, Run .sample .empty session s ∧
    ∃ s', s.cursors 4 = some ⟨1, .relations .baseOf, s'⟩ ∧ ∃ scan, s'.scan = some scan ∧
      scan.request = some ⟨[['x'], ['z']], some 0⟩ ∧ scan.pos = 1 := by
  refine ⟨_, .cons (Step.create_new ?_) (.cons (Step.create_new ?_) (.cons (Step.create_new ?_)
    (.cons (Step.open_new ?_ ?_) (.cons (Step.open_new ?_ ?_) (.cons (Step.open_new ?_ ?_)
    (.cons (.cursor rfl rfl ⟨trivial, rfl⟩) (.cons (.cursor rfl rfl ⟨trivial, rfl⟩)
    (.cons (.cursor rfl rfl ⟨trivial, rfl⟩) (.cons (.cursor rfl rfl ⟨⟨rfl, rfl⟩, rfl⟩)
    (.cons (.cursor rfl rfl ⟨⟨rfl, rfl⟩, rfl⟩) (.cons (.cursor rfl rfl ⟨trivial, rfl⟩)
    (.cons (.cursor rfl rfl ⟨⟨rfl, rfl⟩, rfl⟩) (.cons (.cursor rfl rfl ⟨⟨rfl, rfl⟩, rfl⟩)
    .nil))))))))))))), _, rfl, _, rfl, rfl, rfl⟩
  all_goals decide

theorem cursor_reads_session : ∃ s : Process ℕ, Run .sample .empty session s ∧
    ∃ s', s.cursors 4 = some ⟨1, .relations .baseOf, s'⟩ ∧ ∃ scan, s'.scan = some scan ∧
      ∃ v, s.vtabs 1 = some v ∧ v.table = .relations .baseOf ∧ CreatedBy session 1 v ∧
        ScanOf .sample session 1 4 (.relations .baseOf) v.channel scan ∧
        ((Table.relations .baseOf).virtualTable .sample).cursor.IteratorAt
          (Table.relations .baseOf).rowOf s'.cursor scan := by
  obtain ⟨s, hrun, s', hc, scan, hscan, -⟩ := run_session
  exact ⟨s, hrun, s', hc, scan, hscan, Run.cursor_reads hrun hc hscan⟩

/-- **No call reads through a null stream or a stub that is gone**: in every run, the table of an
open cursor is there, and no call that the protocol allows on the cursor meets a null stream. -/
theorem Run.cursor_safe (h : Run sql made calls s) {stub : Addr} {t : Table}
    {session : Session t.Cursor t.Request t.Message}
    (hc : s.cursors cur = some ⟨stub, t, session⟩) :
    ∃ v, s.vtabs stub = some v ∧ Object.vtab stub ∈ s.objects.live ∧ ∀ call : CursorCall,
      (t.virtualTable sql).cursor.Allowed session (call.on t v.channel) →
        (t.virtualTable sql).cursor.perform session (call.on t v.channel) ≠
          .error (.undefined .nullStream) := by
  have hs := Run.valid h
  obtain ⟨v, hv, before, after, rfl, -, ht, -, -, hrun⟩ := Run.openedBy h hc
  have howned := (hs.vtab_iff stub).mp (Option.isSome_iff_exists.mpr ⟨v, hv⟩)
  exact ⟨v, hv, hs.owned_live howned, fun call hallowed => (t.iterates sql).safe hrun hallowed⟩

theorem cursor_safe_session : ∃ s : Process ℕ, Run .sample .empty session s ∧
    ∃ s', s.cursors 4 = some ⟨1, .relations .baseOf, s'⟩ ∧
      ∃ v, s.vtabs 1 = some v ∧ Object.vtab 1 ∈ s.objects.live ∧ ∀ call : CursorCall,
        ((Table.relations .baseOf).virtualTable .sample).cursor.Allowed s'
            (call.on (.relations .baseOf) v.channel) →
          ((Table.relations .baseOf).virtualTable .sample).cursor.perform s'
            (call.on (.relations .baseOf) v.channel) ≠ .error (.undefined .nullStream) := by
  obtain ⟨s, hrun, s', hc, -, -⟩ := run_session
  exact ⟨s, hrun, s', hc, Run.cursor_safe hrun hc⟩

end Process

end ClangQL
