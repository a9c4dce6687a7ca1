import ClangQL.Module.Interleaving

/-!
# Lifetimes

What outlives the calls of SQLite: the channels of `get_channel`, which stay for the life of the
process, and the table objects that a failing `CREATE` leaves behind.

## Main definitions

* `Process.Requests`: the calls that ask for a channel
* `Process.leaks`, `Process.Holds`: the calls that lose an object, and the objects in use

## Main results

* `Process.Run.one_channel`: one channel is made for each address asked for, and shared
* `Process.Run.objects`: nothing but a failing `CREATE` leaks
-/

namespace ClangQL

namespace Process

variable {Addr : Type} [DecidableEq Addr] {sql : Sqlite} {made : ChannelCache}
  {calls : List (SqliteCall Addr)} {s t : Process Addr} {call : SqliteCall Addr}

/-! ## Channels -/

theorem channels_extends_of_run (h : LabelledRun (Step sql) s calls t) :
    t.channels.Extends s.channels :=
  h.invariant_state (I := fun t => t.channels.Extends s.channels) (Memo.Extends.refl _)
    fun _ _ _ ht hstep => hstep.channels_extends.trans ht

/-- `module_create` asks for a channel to an address. -/
def Requests (addr : Str) : SqliteCall Addr → Prop
  | .create env argv _ => env.allocates .vtab = true ∧ ClangQLModule.channelOf env argv = some addr
  | _ => False

omit [DecidableEq Addr] in
theorem mem_keys_snoc {addr : Str} {P : Prop} (h : P ↔ addr ∈ made.keys ∨
    ∃ call ∈ calls, Requests addr call) : P ∨ Requests addr call ↔
      addr ∈ made.keys ∨ ∃ call' ∈ calls ++ [call], Requests addr call' := by
  rw [h]
  constructor
  · rintro ((hk | ⟨call', hmem, hr⟩) | hr)
    · exact Or.inl hk
    · exact Or.inr ⟨call', List.mem_append_left _ hmem, hr⟩
    · exact Or.inr ⟨call, List.mem_append_right _ (List.mem_singleton_self call), hr⟩
  · rintro (hk | ⟨call', hmem, hr⟩)
    · exact Or.inl (Or.inl hk)
    · rcases List.mem_append.mp hmem with hmem | hmem
      · exact Or.inl (Or.inr ⟨call', hmem, hr⟩)
      · obtain rfl := List.mem_singleton.mp hmem
        exact Or.inr hr

/-- The addresses with a channel after a call. -/
theorem Step.mem_keys (h : Step sql s call t) (addr : Str) :
    addr ∈ t.channels.keys ↔ addr ∈ s.channels.keys ∨ Requests addr call := by
  cases h with
  | @create env argv new h =>
    unfold Process.create Requests
    dsimp only
    split_ifs with hvtab
    · rw [ClangQLModule.mem_keys_createWith, or_comm]
      simp [hvtab]
    · simp [hvtab]
  | «open» h => simp [Process.open, Requests]
  | close h => simp [Process.close, Requests]
  | destroy h hclosed => simp [Process.destroy, Requests]
  | cursor hcur hstub hstep => simp [Requests]

/-- In every run, the addresses with a channel are those asked for. -/
theorem Run.mem_keys (h : Run sql made calls s) (addr : Str) : addr ∈ s.channels.keys ↔
    addr ∈ made.keys ∨ ∃ call ∈ calls, Requests addr call := by
  refine h.invariant (I := fun calls s => ∀ addr, addr ∈ s.channels.keys ↔
    addr ∈ made.keys ∨ ∃ call ∈ calls, Requests addr call) (fun addr => by simp [start]) ?_ addr
  intro calls s call t ih hstep addr
  rw [hstep.mem_keys addr]
  exact mem_keys_snoc (ih addr)

theorem valid_of_run {calls' : List (SqliteCall Addr)} (h : Run sql made calls s)
    (h' : LabelledRun (Step sql) s calls' t) : Valid t :=
  h'.invariant_state (Run.valid h) fun _ _ _ hs hstep => hstep.valid hs

/-- **One channel for each address.** In every run, one channel has been made and kept for each
address that a call got a channel for, whether or not a table came of it; and two tables share a
channel exactly when they name the same address, also when the first was destroyed before the
second was created. -/
theorem Run.one_channel {calls' : List (SqliteCall Addr)} (h : Run sql made calls s)
    (h' : LabelledRun (Step sql) s calls' t) :
    (∀ addr, addr ∈ s.channels.keys ↔ addr ∈ made.keys ∨ ∃ call ∈ calls, Requests addr call) ∧
      s.channels.keys.Nodup ∧ s.channels.count = s.channels.keys.length ∧
      ∀ p q v w, s.vtabs p = some v → t.vtabs q = some w →
        (v.channel = w.channel ↔ v.channel.key = w.channel.key) := by
  refine ⟨Run.mem_keys h, s.channels.nodup_keys, s.channels.count_eq_length, ?_⟩
  intro p q v w hv hw
  have hfind := channels_extends_of_run h' _ _ ((Run.valid h).channel p v hv)
  exact Memo.eq_iff_key_eq hfind ((valid_of_run h h').channel q w hw)

/-- A table is created and destroyed, and then one of another class created on the same
server. -/
theorem one_channel_again :
    let argv (tableType : String) := createArgs tableType "localhost:50051"
    let calls : List (SqliteCall ℕ) := [.create (lasting sqliteOk) (argv "symbols") 1]
    ∃ s t : Process ℕ, (s.vtabs 1).isSome ∧ (t.vtabs 1).isSome ∧ Run .sample .empty calls s ∧
      LabelledRun (Step .sample) s [.destroy 1, .create (lasting sqliteOk) (argv "refs") 1] t ∧
      (∀ addr, addr ∈ s.channels.keys ↔ addr ∈ (Memo.empty : ChannelCache).keys ∨
        ∃ call ∈ calls, Requests addr call) ∧
      s.channels.keys.Nodup ∧ s.channels.count = s.channels.keys.length ∧
      ∀ p q v w, s.vtabs p = some v → t.vtabs q = some w →
        (v.channel = w.channel ↔ v.channel.key = w.channel.key) := by
  intro argv calls
  let s : Process ℕ := (start .empty).create (lasting sqliteOk) (argv "symbols") 1
  have hcreate : Run .sample .empty calls s := .snoc .nil (.create fun p _ => Finset.notMem_empty _)
  have hdestroy : Step .sample s (.destroy 1) (s.destroy 1) :=
    .destroy (Finset.mem_insert_self (Object.vtab 1) ∅) fun cur c hc =>
      absurd (show none = some c from hc) (by simp)
  have hagain : Step .sample (s.destroy 1) (.create (lasting sqliteOk) (argv "refs") 1)
      ((s.destroy 1).create (lasting sqliteOk) (argv "refs") 1) := by
    refine .create fun p hp => ?_
    obtain rfl := Option.some.inj hp
    exact Finset.notMem_erase _ _
  have hrun := (LabelledRun.snoc .nil hdestroy).snoc hagain
  exact ⟨s, _, rfl, rfl, hcreate, hrun, Run.one_channel hcreate hrun⟩

/-! ## Objects -/

/-- The call is a `CREATE` whose object is allocated and then lost. -/
def leaks : SqliteCall Addr → Bool
  | .create env argv _ => env.allocates .vtab && throwsOther (ClangQLModule.create env argv)
  | _ => false

/-- The object holds a table or a cursor of SQLite. -/
def Holds (s : Process Addr) : Object Addr → Prop
  | .vtab p => (s.vtabs p).isSome
  | .cursor p => (s.cursors p).isSome

omit [DecidableEq Addr] in
/-- `CREATE` leaks as the call of `ClangQLModule::Create` does, whatever channels there are. -/
theorem leaks_createCall (s : Process Addr) (env : Environment) (argv : List Str) (new : Addr) :
    (s.createCall env argv new).leaks = leaks (.create env argv new) := by
  rw [createCall, ModuleCall.leaks, leaks, ClangQLModule.createWith_fst]
  cases env.allocates .vtab <;> rfl

/-- A call of the module loses an object exactly when it leaks. -/
theorem card_lost_after {l : Ownership Addr} {m : ModuleCall Addr} (h : Ownership.Allowed l m)
    (hl : l.owned ⊆ l.live) :
    (Ownership.after l m).lost.card = l.lost.card + if m.leaks then 1 else 0 := by
  rw [Ownership.after_eq_post h, Ledger.card_lost_post hl (Ownership.fits_entry h),
    Ownership.loses_entry]

/-- **A call loses an object exactly when it leaks.** -/
theorem Step.card_lost (h : Step sql s call t) (hs : Valid s) :
    t.objects.lost.card = s.objects.lost.card + if leaks call then 1 else 0 := by
  cases h with
  | @create env argv new h =>
    rw [← leaks_createCall s]
    exact card_lost_after h hs.owned_live
  | @«open» vtab new allocates h =>
    have hopen : (openCall vtab new allocates).leaks = false := by
      rcases new with _ | cur
      · rfl
      · cases allocates <;> rfl
    have hlost := card_lost_after h hs.owned_live
    rw [hopen] at hlost
    exact hlost
  | close h => exact card_lost_after h hs.owned_live
  | destroy h hclosed => exact card_lost_after h hs.owned_live
  | cursor hcur hstub hstep => rfl

/-- In every run, each leaking call has lost one object. -/
theorem Run.card_lost (h : Run sql made calls s) :
    s.objects.lost.card = calls.countP leaks := by
  induction h with
  | nil => rfl
  | @snoc calls s t call hrun hstep ih =>
    rw [hstep.card_lost (Run.valid hrun), ih, List.countP_append, List.countP_singleton]

omit [DecidableEq Addr] in
theorem Valid.holds_iff (hs : Valid s) (o : Object Addr) : s.Holds o ↔ o ∈ s.objects.owned := by
  cases o with
  | vtab p => exact hs.vtab_iff p
  | cursor cur => exact hs.cursor_iff cur

/-- **Nothing but a failing `CREATE` leaks.** In every run, every object SQLite was given and has
not given back is allocated, and the others are as many as there were calls of `CREATE` that met
an exception other than `std::bad_alloc`. -/
theorem Run.objects (h : Run sql made calls s) :
    (∀ o, s.Holds o → o ∈ s.objects.live) ∧ s.objects.lost.card = calls.countP leaks ∧
      ((∀ o ∈ s.objects.live, s.Holds o) ↔ ∀ call ∈ calls, leaks call = false) := by
  have hs := Run.valid h
  refine ⟨fun o ho => hs.owned_live ((hs.holds_iff o).mp ho), Run.card_lost h, ?_⟩
  have hbalanced := Ledger.balanced_iff hs.owned_live
  rw [Run.card_lost h, List.countP_eq_zero] at hbalanced
  have hsub : (∀ o ∈ s.objects.live, s.Holds o) ↔ s.objects.live = s.objects.owned := by
    simp only [hs.holds_iff]
    constructor
    · exact fun hsub => Finset.Subset.antisymm hsub hs.owned_live
    · exact fun heq o ho => heq ▸ ho
  rw [hsub, hbalanced]
  simp

theorem objects_session : session.countP leaks = 1 ∧ ∃ s : Process ℕ, Run .sample .empty session s ∧
    (∀ o, s.Holds o → o ∈ s.objects.live) ∧ s.objects.lost.card = session.countP leaks ∧
      ((∀ o ∈ s.objects.live, s.Holds o) ↔ ∀ call ∈ session, leaks call = false) := by
  obtain ⟨s, hrun, -⟩ := run_session
  exact ⟨by decide, s, hrun, Run.objects hrun⟩

end Process

end ClangQL
