import ClangQL.Library.Memo
import ClangQL.Module.Create

/-!
# Channels

`get_channel` keeps the channels it has made in a static map from server addresses, so all tables
of a process that name one address share a channel. `ClangQLModule::Create` asks for the channel
before it looks at the table type.

## Main definitions

* `Channel`, `ChannelCache`: a channel, and the static map
* `getChannel`: `get_channel`
* `ModuleVtab`: a table object, with the channel of its stub
* `ClangQLModule.createWith`: `ClangQLModule::Create`, with the map before and after it

## Main results

* `ClangQLModule.createWith_fst`: the map does not change what `Create` returns or throws
* `ClangQLModule.createWith_extends`, `ClangQLModule.mem_keys_createWith`: what a call leaves in
  the map
* `ClangQLModule.createWith_eq_ok`: the class and the channel of a new table
-/

namespace ClangQL

/-- A channel: the address it was made for, and the number of calls of `grpc::CreateChannel`
before its own. -/
abbrev Channel := Made Str

/-- The static variable of `get_channel`. -/
abbrev ChannelCache := Memo Str

/-- `get_channel`. -/
def getChannel (addr : Str) (channels : ChannelCache) : Channel × ChannelCache :=
  channels.get addr

/-- The object of a table: its class, and the channel its stub calls through. -/
structure ModuleVtab where
  table : Table
  channel : Channel
  deriving DecidableEq

/-- The classes of the table types. -/
def Table.ofType (tableType : Str) : Option Table :=
  if tableType = "symbols".toList then some .symbols
  else if tableType = "base_of".toList then some (.relations .baseOf)
  else if tableType = "overridden_by".toList then some (.relations .overriddenBy)
  else if tableType = "refs".toList then some .refs
  else none

namespace ClangQLModule

variable (env : Environment)

/-- The allocations up to the end of `get_channel`. -/
def allocateChannel : Except Exception Unit := do
  env.allocate .tableType
  env.allocate .serverAddr
  env.allocate .channel

/-- `ClangQLModule::Create`, with the static map of `get_channel` before and after it. -/
def createWith (argv : List Str) (channels : ChannelCache) :
    Except Exception ModuleVtab × ChannelCache :=
  match argv with
  | [_, _, _, tableType, serverAddr] =>
    match allocateChannel env with
    | .error e => (.error e, channels)
    | .ok _ =>
      let (channel, channels) := getChannel serverAddr channels
      ((createTable env tableType).map (⟨·, channel⟩), channels)
  | _ => (env.throwRuntimeError "Invalid number of arguments for table creation".toList, channels)

/-- The address that a call of `Create` asks `get_channel` for. -/
def channelOf : List Str → Option Str
  | [_, _, _, _, serverAddr] => if (allocateChannel env).isOk then some serverAddr else none
  | _ => none

variable {env} {argv : List Str} {channels : ChannelCache} {tableType serverAddr : Str}

theorem create_eq {a b c : Str} : create env [a, b, c, tableType, serverAddr] =
    (allocateChannel env >>= fun _ => createTable env tableType) := by
  simp only [create, allocateChannel, bind_assoc]

/-- **The map does not change what `Create` returns or throws.** -/
theorem createWith_fst (env : Environment) (argv : List Str) (channels : ChannelCache) :
    (createWith env argv channels).1.map (·.table) = create env argv := by
  unfold createWith
  split
  · next a b c tableType serverAddr =>
    rw [create_eq]
    cases allocateChannel env with
    | error e => rfl
    | ok u =>
      show ((createTable env tableType).map _).map _ = createTable env tableType
      cases createTable env tableType <;> rfl
  · next hargc =>
    unfold create Environment.throwRuntimeError
    split
    · exact absurd rfl (hargc _ _ _ _ _)
    · dsimp only
      cases env.allocate .what <;> rfl

/-- A call of `Create` keeps the channels in the map. -/
theorem createWith_extends (env : Environment) (argv : List Str) (channels : ChannelCache) :
    (createWith env argv channels).2.Extends channels := by
  unfold createWith
  split
  · next a b c tableType serverAddr =>
    cases allocateChannel env with
    | error e => exact Memo.Extends.refl channels
    | ok u => exact Memo.get_extends channels serverAddr
  · exact Memo.Extends.refl channels

/-- A call of `Create` adds a channel for the address it asks for, if there is none. -/
theorem mem_keys_createWith {addr : Str} :
    addr ∈ (createWith env argv channels).2.keys ↔
      channelOf env argv = some addr ∨ addr ∈ channels.keys := by
  unfold createWith channelOf
  split
  · next a b c tableType serverAddr =>
    cases allocateChannel env with
    | error e => simp [Except.isOk, Except.toBool]
    | ok u =>
      show addr ∈ (channels.get serverAddr).2.keys ↔ _
      rw [Memo.mem_keys_get]
      simp [Except.isOk, Except.toBool, eq_comm]
  · simp

theorem makeUnique_eq_ok {t t' : Table} (h : makeUnique env t = .ok t') : t' = t := by
  obtain ⟨-, -, h⟩ := Except.bind_eq_ok.mp h
  obtain ⟨-, -, h⟩ := Except.bind_eq_ok.mp h
  obtain ⟨-, -, h⟩ := Except.bind_eq_ok.mp h
  exact (Except.ok.inj h).symm

theorem throwRuntimeError_ne_ok {α : Type} {what : Str} {a : α} :
    env.throwRuntimeError what ≠ .ok a := by
  intro h
  obtain ⟨-, -, h⟩ := Except.bind_eq_ok.mp h
  exact absurd h (by simp)

/-- The class of a table is that of its type. -/
theorem createTable_eq_ok {t : Table} (h : createTable env tableType = .ok t) :
    Table.ofType tableType = some t := by
  unfold createTable at h
  unfold Table.ofType
  split_ifs at h ⊢
  · rw [makeUnique_eq_ok h]
  · rw [makeUnique_eq_ok h]
  · rw [makeUnique_eq_ok h]
  · rw [makeUnique_eq_ok h]
  · exact absurd h throwRuntimeError_ne_ok

/-- **The class and the channel of a new table**: those its arguments name. -/
theorem createWith_eq_ok {v : ModuleVtab} (h : (createWith env argv channels).1 = .ok v) :
    (∃ a b c tableType, argv = [a, b, c, tableType, v.channel.key] ∧
        Table.ofType tableType = some v.table) ∧
      (createWith env argv channels).2.find v.channel.key = some v.channel := by
  revert h
  unfold createWith
  split
  · next a b c tableType serverAddr =>
    cases allocateChannel env with
    | error e => exact fun h => absurd h (by simp)
    | ok u =>
      intro h
      obtain ⟨t, ht, rfl⟩ := Except.map_eq_ok.mp h
      have hkey : (getChannel serverAddr channels).1.key = serverAddr :=
        Memo.key_get channels serverAddr
      refine ⟨⟨a, b, c, tableType, ?_, createTable_eq_ok ht⟩, ?_⟩
      · rw [hkey]
      · show (getChannel serverAddr channels).2.find (getChannel serverAddr channels).1.key = _
        rw [hkey]
        exact Memo.find_get channels serverAddr
  · exact fun h => absurd h throwRuntimeError_ne_ok

end ClangQLModule

end ClangQL
