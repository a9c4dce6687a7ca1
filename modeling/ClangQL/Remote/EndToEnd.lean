import ClangQL.Remote.Transport
import ClangQL.Tables.Join

/-!
# Sessions over a channel

`Filter` uses of the server only its answer to the one request it sends. So a cursor whose stub
calls the service through bytes is, in every session, the cursor that calls it directly, as long as
the messages fit; and a query is answered by the rows of the service's database.

## Main definitions

* `VirtualTableCursor.DecidesFirst`, `VirtualTableCursor.AsksOnce`: `Filter` sends at most one
  request, which it decides on before it reads, and uses the answer to it only
* `ServiceCall`: a call on a cursor, for a service that is called directly or through a channel
* `CarriedRun`: a run in which the messages fit
* `VirtualTable.Sends`: the requests that a query can send

## Main results

* `Table.decidesFirst`, `Table.asksOnce`: the cursors of every class ask once
* `Table.run_overWire`: sessions over a channel are sessions with the service
* `Table.query_overWire`: a query over a channel has the rows of the database
-/

namespace ClangQL

/-! ## One answer -/

namespace VirtualTableCursor

variable {σ Req M : Type} (C : VirtualTableCursor σ Req M)

/-- `Filter` decides on its result code and its request before it reads a reply, and what it leaves
depends on the server only through the replies to that request. -/
def DecidesFirst : Prop :=
  ∀ idxNum argv c, ∃ decision : Outcome (ResultCode × Option Req × (List (Reply M) → σ)),
    ∀ server : Req → List (Reply M), C.filter server idxNum argv c =
      decision.map fun (rc, req, read) => (rc, req, read ((req.map server).getD []))

/-- `Filter` uses of the server only its answer to the request that is sent. -/
def AsksOnce : Prop :=
  ∀ ⦃server server' : Req → List (Reply M)⦄ ⦃idxNum : Int32⦄ ⦃argv : List Value⦄ ⦃c : σ⦄,
    (∀ rc req c', C.filter server idxNum argv c = .ok (rc, some req, c') →
      server req = server' req) →
    C.filter server idxNum argv c = C.filter server' idxNum argv c

variable {C}

theorem DecidesFirst.asksOnce (h : C.DecidesFirst) : C.AsksOnce := by
  intro server server' idxNum argv c hanswer
  obtain ⟨decision, hdecision⟩ := h idxNum argv c
  have hserver := hdecision server
  rw [hdecision server']
  rw [hserver] at hanswer ⊢
  rcases decision with stop | ⟨rc, _ | req, read⟩
  · rfl
  · rfl
  · have hreq : server req = server' req := hanswer rc req _ rfl
    simp only [Except.map, Option.map_some, hreq]

/-- A `Filter` with either of two servers that answer its request alike starts the same scan. -/
theorem AsksOnce.perform_filter (h : C.AsksOnce) {server server' : Req → List (Reply M)}
    {idxNum : Int32} {argv : List Value} {s : Session σ Req M}
    (hs : ∀ t, C.perform s (.filter server idxNum argv) = .ok t →
      ∀ scan ∈ t.scan, ∀ req ∈ scan.request, server req = server' req) :
    C.perform s (.filter server idxNum argv) = C.perform s (.filter server' idxNum argv) := by
  have hsent : ∀ rc req c, C.filter server idxNum argv s.cursor = .ok (rc, some req, c) →
      server req = server' req := by
    intro rc req c hf
    refine hs ⟨c, some ⟨some req, results (server req), 0⟩⟩ ?_ _ rfl req rfl
    rw [perform, hf]
    rfl
  rw [perform, perform, ← h hsent]
  rcases hf : C.filter server idxNum argv s.cursor with stop | ⟨rc, _ | req, c⟩
  · rfl
  · rfl
  · have hanswer := hsent rc req c hf
    show Except.ok (Session.mk c (some ⟨some req, results (server req), 0⟩)) = _
    rw [hanswer]
    rfl

end VirtualTableCursor

namespace VirtualTable

variable {σ Req M : Type} (T : VirtualTable σ Req M)

/-- A request that a query can send from the cursor `c`, to some server. -/
def Sends (terms : List Term) (c : σ) (req : Req) : Prop :=
  ∃ server rc c', T.cursor.filter server (T.plan terms).idxNum (T.args terms) c =
    .ok (rc, some req, c')

variable {T}

/-- Servers that answer the request of a query alike have the same scans. -/
theorem scans_congr (h : T.cursor.AsksOnce) {server server' : Req → List (Reply M)}
    {terms : List Term} {c : σ} (hs : ∀ req, T.Sends terms c req → server req = server' req)
    (rows : List Row) : T.Scans server terms c rows ↔ T.Scans server' terms c rows := by
  have hfilter := h fun rc req c' hf => hs req ⟨server, rc, c', hf⟩
  rw [Scans, Scans, hfilter]

end VirtualTable

theorem SymbolsCursor.decidesFirst (sql : Sqlite) :
    (SymbolsCursor.methods sql).DecidesFirst := by
  intro idxNum argv c
  refine ⟨(request sql idxNum argv).map fun req => (sqliteOk, some req, fun rs =>
    ⟨!(ResultStream.open rs).next.1, some (ResultStream.open rs).next.2⟩), fun server => ?_⟩
  show filter sql server idxNum argv c = _
  cases hreq : request sql idxNum argv with
  | error stop =>
    rw [filter, hreq]
    rfl
  | ok req =>
    rw [filter_eq hreq]
    rfl

theorem RelationsCursor.decidesFirst (sql : Sqlite) :
    (RelationsCursor.methods sql).DecidesFirst := by
  intro idxNum argv c
  refine ⟨(pushSubject sql idxNum argv c.subjects).map fun subjects =>
    (sqliteOk, some ⟨subjects, some c.kind.value⟩, fun rs => c.asking (fun _ => rs) subjects),
    fun server => ?_⟩
  show filter sql server idxNum argv c = _
  cases hsubjects : pushSubject sql idxNum argv c.subjects with
  | error stop =>
    rw [filter, hsubjects]
    rfl
  | ok subjects =>
    rw [filter_eq hsubjects]
    rfl

theorem RefsCursor.decidesFirst (sql : Sqlite) : (RefsCursor.methods sql).DecidesFirst := by
  intro idxNum argv c
  by_cases hidx : idxNum = 0
  · refine ⟨.ok (sqliteOk, none, fun _ => { c with eof := true }), fun server => ?_⟩
    show filter sql server idxNum argv c = _
    rw [filter, if_neg (not_not.mpr hidx)]
    rfl
  · refine ⟨(decode sql idxNum argv).map fun d => (sqliteOk, some ⟨d.ids, some d.kind⟩, fun rs =>
      ⟨!(ResultStream.open rs).next.1, some (RefStream.open ⟨d.ids, some d.kind⟩ rs).next.2⟩),
      fun server => ?_⟩
    show filter sql server idxNum argv c = _
    cases hd : decode sql idxNum argv with
    | error stop =>
      rw [filter, if_pos hidx, hd]
      rfl
    | ok d =>
      rw [filter_of_decode hidx hd]
      rfl

/-- **The cursors of every class** decide on their request before they read. -/
theorem Table.decidesFirst (sql : Sqlite) (t : Table) :
    (t.virtualTable sql).cursor.DecidesFirst := by
  cases t with
  | symbols => exact SymbolsCursor.decidesFirst sql
  | relations kind => exact RelationsCursor.decidesFirst sql
  | refs => exact RefsCursor.decidesFirst sql

theorem Table.asksOnce (sql : Sqlite) (t : Table) : (t.virtualTable sql).cursor.AsksOnce :=
  (t.decidesFirst sql).asksOnce

/-! ## Sessions -/

open WireFormat Wire

namespace Table

/-- A result as a service writes it. -/
def ofResult : (t : Table) → t.Message → t.WireResult
  | symbols => Wire.Symbol.ofSymbol
  | relations _ => Wire.Relation.ofRelation
  | refs => Wire.Ref.ofRef

/-- A service with the contents of an index carries a call when the sizes do not exceed the
limit. -/
theorem carries_ofIndex {rt : Runtime} {rpc : Rpc} {index : SymbolIndex} (t : Table)
    {req : t.Request}
    (hreq : t.requestSize rt req ≤ messageLimit rt rpc)
    (h : ∀ r ∈ t.serve index req, (StreamReply.messageType (t.codec rt)).byteSizeLong
      (.ofReply t.ofResult r) ≤ messageLimit rt rpc) :
    t.Carries rt rpc (.ofIndex index) req := by
  have hreplies : t.replies (.ofIndex index) req =
      (t.serve index req).map (StreamReply.ofReply t.ofResult) := by
    cases t with
    | symbols =>
      cases req with
      | lookup req =>
        exact congrArg (fun q => (index.lookup q).map _) (LookupRequest.view_ofRequest req)
      | fuzzyFind req =>
        exact congrArg (fun q => (index.fuzzyFind q).map _) (FuzzyFindRequest.view_ofRequest req)
    | relations kind =>
      exact congrArg (fun q => (index.relations q).map _) (RelationsRequest.view_ofRequest req)
    | refs => exact congrArg (fun q => (index.refs q).map _) (RefsRequest.view_ofRequest req)
  have hsound : ∀ m, (t.codec rt).Sound (t.ofResult m) := by
    cases t with
    | symbols => exact Wire.Symbol.sound_ofSymbol rt
    | relations kind => exact Wire.Relation.sound_ofRelation rt
    | refs => exact Wire.Ref.sound_ofRef rt
  refine ⟨hreq, fun r hr => ?_⟩
  rw [hreplies] at hr
  obtain ⟨reply, hreply, rfl⟩ := List.mem_map.mp hr
  exact ⟨StreamReply.sound_ofReply hsound reply, h reply hreply⟩

end Table

/-- A call on a cursor of a table of a service. `ctxs` and `ctx` are the buffers of the replies and
of the request on a channel to the service. -/
inductive ServiceCall
  | filter (service : Service) (ctxs : ℕ → ParseContext) (ctx : ParseContext) (idxNum : Int32)
      (argv : List Value)
  | next
  | eof
  | column (idxCol : Int)
  | rowId

namespace ServiceCall

/-- The call, where `Filter` calls the method of the service. -/
def direct (t : Table) : ServiceCall → Call t.Request t.Message
  | filter service _ _ idxNum argv => .filter (t.serve service.index) idxNum argv
  | next => .next
  | eof => .eof
  | column idxCol => .column idxCol
  | rowId => .rowId

/-- The call, where `Filter` calls the stub of a channel to the service. -/
def overWire (rt : Runtime) (rpc : Rpc) (t : Table) : ServiceCall → Call t.Request t.Message
  | filter service ctxs ctx idxNum argv =>
    .filter (t.serve (remoteIndex rt rpc ctxs (service.channel rt rpc ctx))) idxNum argv
  | next => .next
  | eof => .eof
  | column idxCol => .column idxCol
  | rowId => .rowId

/-- The messages of a `Filter` that led to this session fit. -/
def Carried (rt : Runtime) (rpc : Rpc) (t : Table) (after : Session t.Cursor t.Request t.Message) :
    ServiceCall → Prop
  | filter service .. => ∀ scan ∈ after.scan, ∀ req ∈ scan.request, t.Carries rt rpc service req
  | _ => True

variable {rt : Runtime} {rpc : Rpc} {sql : Sqlite} {t : Table}
  {s s' : Session t.Cursor t.Request t.Message}

/-- **One call**, whose messages fit: it does the same over a channel as with the service. -/
theorem step_overWire {call : ServiceCall} (hcarried : call.Carried rt rpc t s') :
    (t.virtualTable sql).cursor.Step s (call.overWire rt rpc t) s' ↔
      (t.virtualTable sql).cursor.Step s (call.direct t) s' := by
  cases call with
  | filter service ctxs ctx idxNum argv =>
    have hanswer : ∀ scan ∈ s'.scan, ∀ req ∈ scan.request,
        t.serve (remoteIndex rt rpc ctxs (service.channel rt rpc ctx)) req =
          t.serve service.index req :=
      fun scan hscan req hreq => t.serve_channel ctxs ctx (hcarried scan hscan req hreq)
    constructor
    · rintro ⟨hallowed, hcall⟩
      refine ⟨hallowed, ?_⟩
      refine Eq.trans ((t.asksOnce sql).perform_filter fun u hu => ?_).symm hcall
      obtain rfl : s' = u := Except.ok.inj (hcall.symm.trans hu)
      exact hanswer
    · rintro ⟨hallowed, hcall⟩
      refine ⟨hallowed, ?_⟩
      refine Eq.trans ((t.asksOnce sql).perform_filter fun u hu => ?_).symm hcall
      obtain rfl : s' = u := Except.ok.inj (hcall.symm.trans hu)
      exact fun scan hscan req hreq => (hanswer scan hscan req hreq).symm
  | next => exact Iff.rfl
  | eof => exact Iff.rfl
  | column idxCol => exact Iff.rfl
  | rowId => exact Iff.rfl

end ServiceCall

/-- A run from a cursor just opened, in which the messages of every `Filter` fit. `call` is how the
calls reach the service. -/
def CarriedRun (sql : Sqlite) (rt : Runtime) (rpc : Rpc) (t : Table)
    (call : ServiceCall → Call t.Request t.Message) :
    List ServiceCall → Session t.Cursor t.Request t.Message → Prop :=
  LabelledRun
    (fun s k s' => (t.virtualTable sql).cursor.Step s (call k) s' ∧ k.Carried rt rpc t s')
    ⟨(t.virtualTable sql).fresh, none⟩

/-- **Sessions over a channel are sessions with the service.** In every run of calls in SQLite's
order, each `Filter` with a service and buffers of its own, the cursor over the channel and the
cursor of the service go through the same states. -/
theorem Table.run_overWire (sql : Sqlite) (rt : Runtime) (rpc : Rpc) (t : Table)
    (calls : List ServiceCall) (session : Session t.Cursor t.Request t.Message) :
    CarriedRun sql rt rpc t (ServiceCall.overWire rt rpc t) calls session ↔
      CarriedRun sql rt rpc t (ServiceCall.direct t) calls session := by
  constructor
  · intro h
    induction h with
    | nil => exact .nil
    | snoc _ hstep ih => exact ih.snoc ⟨(ServiceCall.step_overWire hstep.2).mp hstep.1, hstep.2⟩
  · intro h
    induction h with
    | nil => exact .nil
    | snoc _ hstep ih => exact ih.snoc ⟨(ServiceCall.step_overWire hstep.2).mpr hstep.1, hstep.2⟩

/-- The symbol with an id is looked up, shown and passed. -/
theorem Table.run_overWire_sample :
    let calls : List ServiceCall := [.filter (.ofIndex (databaseIndex sampleDatabase))
      (fun _ => .unbuffered) .unbuffered searchId [.text ['a']], .column 1, .next, .eof]
    ∃ session, CarriedRun .sample .base128 .direct symbols (ServiceCall.direct symbols) calls
        session ∧
      CarriedRun .sample .base128 .direct symbols (ServiceCall.overWire .base128 .direct symbols)
        calls session := by
  intro calls
  have hcarries : symbols.Carries .base128 .direct (.ofIndex (databaseIndex sampleDatabase))
      (.lookup { ids := [['a']] }) := carries_ofIndex symbols (by decide) (by decide)
  have hdirect : ∃ session, CarriedRun .sample .base128 .direct symbols
      (ServiceCall.direct symbols) calls session := by
    refine ⟨_, .cons ⟨⟨trivial, rfl⟩, ?_⟩ (.cons ⟨⟨⟨rfl, rfl⟩, rfl⟩, trivial⟩
      (.cons ⟨⟨⟨rfl, rfl⟩, rfl⟩, trivial⟩ (.cons ⟨⟨rfl, rfl⟩, trivial⟩ .nil)))⟩
    rintro scan ⟨⟩ req ⟨⟩
    exact hcarries
  obtain ⟨session, hsession⟩ := hdirect
  exact ⟨session, hsession, (Table.run_overWire _ _ _ _ _ _).mpr hsession⟩

/-! ## Queries -/

namespace Table

/-- **A query over a channel has the rows of the database.** A service answers from a database, and
a table calls it through a channel. A query that the table can answer, and whose messages fit, has
a scan to its end, from any cursor of a session, and the rows that survive SQLite's tests are the
rows of the database that satisfy its usable terms, each as often. -/
theorem query_overWire (sql : Sqlite) {rt : Runtime} {rpc : Rpc} {service : Service} {db : Database}
    (h : AnswersDatabase service.index db) (t : Table) {terms : List Term}
    (hterms : Answerable sql terms t) {c : t.Cursor} (hc : (t.virtualTable sql).Reached c)
    (hcarries : ∀ req, (t.virtualTable sql).Sends terms c req → t.Carries rt rpc service req)
    (ctxs : ℕ → ParseContext) (ctx : ParseContext) :
    ∃ rows, (t.virtualTable sql).Scans
        (t.serve (remoteIndex rt rpc ctxs (service.channel rt rpc ctx))) terms c rows ∧
      ((t.virtualTable sql).survivors sql terms rows).Perm ((db.rows t).filter
        (satisfies sql (t.virtualTable sql).affinity (usable terms))) := by
  obtain ⟨rows, hscans, hperm⟩ := t.survivors_perm sql h hterms hc
  refine ⟨rows, ?_, hperm⟩
  apply (VirtualTable.scans_congr (t.asksOnce sql) (fun req hreq => ?_) rows).mpr hscans
  exact t.serve_channel ctxs ctx (hcarries req hreq)

/-- The query for an id sends one `Lookup`. -/
theorem sends_lookup {sql : Sqlite} {v : Str} (hv : NulFree v) {c : SymbolsCursor}
    {req : SymbolsRequest}
    (h : (symbolsTable sql).Sends [.equality 0 (.text v)] c req) :
    req = .lookup { ids := [v] } := by
  obtain ⟨server, rc, c', hf⟩ := h
  obtain ⟨r, hr, hreq, -⟩ := SymbolsCursor.filter_ok hf
  have hnull : ∀ a ∈ SymbolsTable.arguments [.equality 0 (.text v)], a ≠ .null := by
    intro a ha
    obtain rfl := List.mem_singleton.mp ha
    exact Value.noConfusion
  rw [symbolsTable_idxNum, symbolsTable_args, SymbolsCursor.request_plan sql hnull] at hr
  obtain rfl := Option.some.inj hreq
  obtain rfl := Except.ok.inj hr
  show SymbolsRequest.lookup { ids := [keyText sql (.text v)] } = _
  rw [keyText_text sql hv]

theorem query_overWire_sample :
    ∃ rows, (symbolsTable .sample).Scans (symbols.serve (remoteIndex .base128 .direct
          (fun _ => .unbuffered)
          ((Service.ofIndex (databaseIndex sampleDatabase)).channel .base128 .direct .unbuffered)))
        [.equality 0 (.text ['a'])] {} rows ∧
      ((symbolsTable .sample).survivors .sample [.equality 0 (.text ['a'])] rows).Perm
        ((sampleDatabase.rows .symbols).filter
          (satisfies .sample SymbolsTable.affinity (usable [.equality 0 (.text ['a'])]))) := by
  have h : AnswersDatabase (Service.ofIndex (databaseIndex sampleDatabase)).index
      sampleDatabase := by
    rw [Service.index_ofIndex]
    exact databaseIndex_answers sampleDatabase
  have hplain : Answerable .sample [.equality 0 (.text ['a'])] symbols :=
    plainQuery_equality (by decide) (by decide)
  have hcarries : ∀ req, (symbolsTable .sample).Sends [.equality 0 (.text ['a'])] {} req →
      symbols.Carries .base128 .direct (.ofIndex (databaseIndex sampleDatabase)) req := by
    intro req hreq
    obtain rfl := sends_lookup (by decide) hreq
    exact carries_ofIndex symbols (by decide) (by decide)
  exact query_overWire .sample h symbols hplain VirtualTable.reached_fresh hcarries _ _

end Table

end ClangQL
