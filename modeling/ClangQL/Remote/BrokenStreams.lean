import ClangQL.Remote.EndToEnd
import ClangQL.Symbols.Answer

/-!
# Streams that break

`Next` takes a `Read` that fails for the end of the stream, and no cursor asks for the status of
its call. So a connection that breaks in the middle of a stream is no error: the scan is shorter.
What is shown is a prefix of the rows of the whole stream, and a join shows some of its rows, none
more often than it should.

## Main definitions

* `Breaks`: a server whose streams may break
* `BrokenTable`, `BrokenTable.level`: a table in a join whose streams may break, and its loop

## Main results

* `Table.breaks_remoteIndex`: a channel that breaks is a server that breaks
* `VirtualTable.scans_of_breaks`: a scan of a stream that breaks shows a prefix
* `Table.query_broken`: what a query shows over a channel that breaks
* `join_broken`: what a join shows when its streams break
-/

namespace ClangQL

/-! ## Servers and channels -/

/-- The streams of `server'` are those of `server` as far as they go: the results of each are the
first results of the other. -/
def Breaks {Req M : Type} (server' server : Req → List (Reply M)) : Prop :=
  ∀ req, results (server' req) <+: results (server req)

theorem results_mono {M : Type} {rs rs' : List (Reply M)} (h : rs' <+: rs) :
    results rs' <+: results rs := by
  induction rs' generalizing rs with
  | nil => exact List.nil_prefix
  | cons r rs' ih =>
    obtain ⟨rest, rfl⟩ := h
    cases r with
    | streamResult m => exact List.cons_prefix_cons.mpr ⟨rfl, ih (List.prefix_append rs' rest)⟩
    | finalResult => exact List.nil_prefix
    | notSet => exact List.nil_prefix

open WireFormat Wire

/-- A channel that breaks is a server that breaks. -/
theorem Table.breaks_remoteIndex (t : Table) {rt : Runtime} {rpc : Rpc} {ctxs : ℕ → ParseContext}
    {broken channel : rpc.Channel} (h : ∀ name bytes,
      rpc.pending (rpc.create broken name bytes) <+: rpc.pending (rpc.create channel name bytes)) :
    Breaks (t.serve (remoteIndex rt rpc ctxs broken))
      (t.serve (remoteIndex rt rpc ctxs channel)) := by
  intro req
  rw [t.serve_remoteIndex, t.serve_remoteIndex]
  exact results_mono ((Rpc.received_mono (h _ _)).map _)

/-! ## Scans -/

/-- Whether `Filter` completes, what it returns and the request it sends do not depend on the
server. -/
theorem VirtualTableCursor.DecidesFirst.filter_ok {σ Req M : Type}
    {C : VirtualTableCursor σ Req M} (h : C.DecidesFirst) {server : Req → List (Reply M)}
    {idxNum : Int32} {argv : List Value} {c c' : σ} {rc : ResultCode} {req : Option Req}
    (hf : C.filter server idxNum argv c = .ok (rc, req, c')) (server' : Req → List (Reply M)) :
    ∃ d, C.filter server' idxNum argv c = .ok (rc, req, d) := by
  obtain ⟨decision, hdecision⟩ := h idxNum argv c
  rw [hdecision] at hf
  obtain ⟨⟨rc', req', read⟩, hok, heq⟩ := Except.map_eq_ok.mp hf
  obtain ⟨rfl, rfl, -⟩ : rc' = rc ∧ req' = req ∧ _ = c' := by simpa using heq
  rw [hdecision, hok]
  exact ⟨_, rfl⟩

/-- **A scan of a stream that breaks** ends, and shows a prefix of the rows of the whole
stream. -/
theorem VirtualTable.scans_of_breaks {σ Req M : Type} {T : VirtualTable σ Req M}
    {rowOf : Req → M → Row} (hiterates : T.cursor.Iterates rowOf) (hdecides : T.cursor.DecidesFirst)
    {server server' : Req → List (Reply M)} (hbreaks : Breaks server' server)
    {terms : List Term} {c : σ} {rows : List Row} (h : T.Scans server terms c rows) :
    ∃ rows', T.Scans server' terms c rows' ∧ rows' <+: rows := by
  have hscans := h
  obtain ⟨hplan, req, c', hf, -⟩ := hscans
  obtain ⟨d, hd⟩ := hdecides.filter_ok hf server'
  cases req with
  | some req =>
    have hrows := h.unique (scans_of_filter hiterates hplan hf)
    refine ⟨_, scans_of_filter hiterates hplan hd, ?_⟩
    rw [hrows]
    exact (hbreaks req).map _
  | none =>
    have hempty : T.Scans server' terms c [] :=
      ⟨hplan, none, d, hd, ListSource.exists_drain_iff.mpr (hiterates.filter_none hd)⟩
    exact ⟨[], hempty, List.nil_prefix⟩

/-! ## Queries -/

namespace Table

/-- **A query over a channel that breaks** ends, and shows a prefix of what it shows over the whole
channel. -/
theorem query_broken (sql : Sqlite) (t : Table) {rt : Runtime} {rpc : Rpc}
    {ctxs : ℕ → ParseContext} {broken channel : rpc.Channel}
    (hbroken : ∀ name bytes,
      rpc.pending (rpc.create broken name bytes) <+: rpc.pending (rpc.create channel name bytes))
    {terms : List Term} {c : t.Cursor} {rows : List Row}
    (h : (t.virtualTable sql).Scans (t.serve (remoteIndex rt rpc ctxs channel)) terms c rows) :
    ∃ rows', (t.virtualTable sql).Scans (t.serve (remoteIndex rt rpc ctxs broken)) terms c rows' ∧
      rows' <+: rows ∧ t.remaining sql terms rows' <+: t.remaining sql terms rows := by
  obtain ⟨rows', hscans, hfirst⟩ := VirtualTable.scans_of_breaks (t.iterates sql)
    (t.decidesFirst sql) (t.breaks_remoteIndex hbroken) h
  exact ⟨rows', hscans, hfirst, hfirst.filter _⟩

/-- The symbols of a database, and a channel that delivers only the first message of a stream. -/
theorem query_broken_sample :
    let channel := (Service.ofIndex (databaseIndex sampleDatabase)).channel .base128 .direct
      .unbuffered
    let broken : Rpc.direct.Channel := fun name bytes => (channel name bytes).take 1
    let rows := (results (symbols.serve
      (remoteIndex .base128 .direct (fun _ => .unbuffered) channel)
      (SymbolsCursor.requestOf .sample []))).map symbolRow
    ∃ rows', (symbolsTable .sample).Scans (symbols.serve (remoteIndex .base128 .direct
          (fun _ => .unbuffered) broken)) [] {} rows' ∧
      rows' <+: rows ∧
        symbols.remaining .sample [] rows' <+: symbols.remaining .sample [] rows := by
  intro channel broken rows
  have hnull : ∀ v ∈ SymbolsTable.arguments [], v ≠ .null := fun v hv =>
    absurd (show v ∈ [] from hv) List.not_mem_nil
  have hscans : (symbolsTable .sample).Scans
      (symbols.serve (remoteIndex .base128 .direct (fun _ => .unbuffered) channel)) [] {} rows :=
    symbolsTable_scans hnull {}
  exact query_broken .sample symbols (fun name bytes => List.take_prefix 1 (channel name bytes))
    hscans

end Table

/-! ## Joins -/

/-- A table in a join whose streams may break: `streams n` answers the `n`-th `Filter` of its
cursor. -/
structure BrokenTable extends JoinTable where
  streams : ℕ → table.Request → List (Reply table.Message)
  breaks : ∀ n, Breaks (streams n) (table.serve index)

namespace BrokenTable

variable (sql : Sqlite) (j : BrokenTable)

/-- The loop over a table whose streams may break. It counts the calls of `Filter`. -/
def level : Level Row where
  State := j.table.Cursor × ℕ
  Enumerates outer s items s' := ∃ rows,
    (j.table.virtualTable sql).ScansTo (j.streams s.2) (j.terms outer) s.1 rows s'.1 ∧
      s'.2 = s.2 + 1 ∧ items = (j.table.virtualTable sql).survivors sql (j.terms outer) rows
  Inv s := (j.table.virtualTable sql).Reached s.1
  base := (j.toJoinTable.level sql).base
  test := (j.toJoinTable.level sql).test

variable {sql j}

/-- **A loop over a table whose streams break** ends, and enumerates no more than the database
owes. -/
theorem level_bounded {outer : List Row} (h : Answerable sql (j.terms outer) j.table) :
    (j.level sql).Bounded outer where
  ends s hs := by
    obtain ⟨rows, hscans, -⟩ := j.table.survivors_perm sql j.answers h hs
    obtain ⟨rows', hscans', -⟩ := VirtualTable.scans_of_breaks (j.table.iterates sql)
      (j.table.decidesFirst sql) (j.breaks s.2) hscans
    obtain ⟨c', hscansTo⟩ := VirtualTable.exists_scansTo_iff.mpr hscans'
    exact ⟨_, (c', s.2 + 1), rows', hscansTo, rfl, rfl⟩
  subperm {s items s'} hs hrun := by
    obtain ⟨rows', hscans', -, rfl⟩ := hrun
    obtain ⟨rows, hscans, hperm⟩ := j.table.survivors_perm sql j.answers h hs
    obtain ⟨rows'', hscans'', hfirst⟩ := VirtualTable.scans_of_breaks (j.table.iterates sql)
      (j.table.decidesFirst sql) (j.breaks s.2) hscans
    obtain rfl := (VirtualTable.exists_scansTo_iff.mp ⟨s'.1, hscans'⟩).unique hscans''
    exact (hfirst.filter _).sublist.subperm.trans hperm.subperm
  keeps {s items s'} hs hrun := by
    obtain ⟨rows, hscans, -, -⟩ := hrun
    exact VirtualTable.reached_scansTo hs hscans

end BrokenTable

section Tables

/-- The loops of a join whose streams may break. -/
def brokenLevels (sql : Sqlite) (tables : List BrokenTable) : List (Level Row) :=
  tables.map (·.level sql)

/-- The cursors that `Open` makes for the tables. -/
def brokenCursors (sql : Sqlite) :
    (tables : List BrokenTable) → Level.States (brokenLevels sql tables)
  | [] => ()
  | j :: tables => (((j.table.virtualTable sql).fresh, 0), brokenCursors sql tables)

variable {sql : Sqlite} {tables : List BrokenTable}

theorem ready_brokenCursors (tables : List BrokenTable) :
    Level.Ready (brokenLevels sql tables) (brokenCursors sql tables) := by
  induction tables with
  | nil => trivial
  | cons j tables ih => exact ⟨VirtualTable.reached_fresh, ih⟩

theorem AllAnswerable.allBounded {outer : List Row}
    (h : AllAnswerable sql (tables.map (·.toJoinTable)) outer) :
    Level.AllBounded (brokenLevels sql tables) outer := by
  induction tables generalizing outer with
  | nil => trivial
  | cons j tables ih =>
    obtain ⟨hj, hbelow⟩ := h
    exact ⟨BrokenTable.level_bounded hj, fun row hrow => ih (hbelow row hrow)⟩

/-- What the loops owe does not depend on the streams. -/
theorem comprehension_brokenLevels (tables : List BrokenTable) (outer : List Row) :
    Level.comprehension (brokenLevels sql tables) outer =
      Level.comprehension (joinLevels sql (tables.map (·.toJoinTable))) outer := by
  induction tables generalizing outer with
  | nil => rfl
  | cons j tables ih => exact List.flatMap_congr fun row _ => ih (outer ++ [row])

/-- **A join whose streams break**, wherever each of them does, ends without an error, and its rows
are among those of the join, none more often: it shows no wrong row. -/
theorem join_broken (sql : Sqlite) {tables : List BrokenTable}
    (h : AllAnswerable sql (tables.map (·.toJoinTable)) []) :
    (∃ out cursors, Level.NestedLoop (brokenLevels sql tables) [] (brokenCursors sql tables) out
        cursors) ∧
      ∀ out cursors, Level.NestedLoop (brokenLevels sql tables) [] (brokenCursors sql tables) out
          cursors →
        out.Subperm ((Level.product (joinLevels sql (tables.map (·.toJoinTable)))).filter
          (Level.passes (joinLevels sql (tables.map (·.toJoinTable))) [])) := by
  obtain ⟨hends, hsubperm⟩ := Level.nestedLoop_subperm h.allBounded (ready_brokenCursors tables)
  refine ⟨hends, fun out cursors hrun => ?_⟩
  have hout := (hsubperm out cursors hrun).1
  rw [comprehension_brokenLevels, Level.comprehension_eq_filter] at hout
  simpa using hout

/-- The `n`-th stream of the table breaks after `n` messages. -/
def JoinTable.cut (j : JoinTable) : BrokenTable where
  toJoinTable := j
  streams n req := (j.table.serve j.index req).take n
  breaks n req := results_mono (List.take_prefix n (j.table.serve j.index req))

/-- The subclass query on a small database, over streams that break. -/
theorem join_broken_subclasses :
    let tables := (subclassQuery (databaseIndex_answers sampleDatabase) ['A']).map (·.cut)
    (∃ out cursors, Level.NestedLoop (brokenLevels .sample tables) []
        (brokenCursors .sample tables) out cursors) ∧
      ∀ out cursors, Level.NestedLoop (brokenLevels .sample tables) []
          (brokenCursors .sample tables) out cursors →
        out.Subperm ((Level.product (joinLevels .sample (tables.map (·.toJoinTable)))).filter
          (Level.passes (joinLevels .sample (tables.map (·.toJoinTable))) [])) :=
  join_broken .sample (subclassQuery_owes .sample (databaseIndex_answers sampleDatabase)
    (by decide)).1

end Tables

end ClangQL
