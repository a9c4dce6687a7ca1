import ClangQL.Library.Base128
import ClangQL.Library.StreamingRpc
import ClangQL.Module.Methods
import ClangQL.Remote.View

/-!
# The service over a channel

A method of the stub creates a reader of the replies, from the name of the method and the bytes of
the request. The service registers a handler for each of its methods, under the same names. The
calls themselves are made by a library outside the repository, gRPC, of which the stub and the
service rely on the laws of `Rpc`.

## Main definitions

* `call`, `Stub.lookup`, …: the methods of the stub
* `remoteIndex`: the service they show the tables
* `Service`, `Service.methods`, `Service.channel`: an implementation of the service, what it
  registers, and a channel to it
* `Table.callOf`, `Table.WireResult`: the call that a request becomes, and its results

## Main results

* `Service.call_eq`: a method called through its bytes answers as the method itself
* `Table.scans_stream`: what a scan shows of the messages of a stream
-/

namespace ClangQL.Wire

open WireFormat

/-- `SymbolIndex_method_names`. -/
def lookupName : String := "/clang.clangd.remote.v1.SymbolIndex/Lookup"

def fuzzyFindName : String := "/clang.clangd.remote.v1.SymbolIndex/FuzzyFind"

def refsName : String := "/clang.clangd.remote.v1.SymbolIndex/Refs"

def relationsName : String := "/clang.clangd.remote.v1.SymbolIndex/Relations"

variable {rt : Runtime} {rpc : Rpc} {M Q : Type} [UnknownFields Q]

/-! ## The client -/

section Client

/-- The size of the messages that both the runtime and the library for the calls let pass. -/
def messageLimit (rt : Runtime) (rpc : Rpc) : ℕ := min rt.maxSize rpc.maxMessageSize

/-- A message that can be sent: it is sound, and its size is within the limit. -/
def Sendable (rpc : Rpc) {σ : Type} [UnknownFields σ] (T : MessageType rt σ) (m : σ) : Prop :=
  T.Sound m ∧ T.byteSizeLong m ≤ messageLimit rt rpc

/-- The bytes of a stream of replies. -/
def sent (result : Codec rt M) (replies : List (StreamReply M)) : List Bytes :=
  replies.map (StreamReply.messageType result).internalSerialize

/-- A message that can be sent is within the limit of the calls, and read back. -/
theorem Sendable.parse_eq {σ : Type} [Inhabited σ] [UnknownFields σ] {T : MessageType rt σ} {m : σ}
    (hT : T.Lawful) (h : Sendable rpc T m) :
    (T.internalSerialize m).length ≤ rpc.maxMessageSize ∧
      ∀ ctx, T.parse ctx (T.internalSerialize m) = some m := by
  obtain ⟨hsound, hsize⟩ := h
  refine ⟨?_, hT.parse_internalSerialize hsound (hsize.trans (min_le_left _ _))⟩
  rw [← MessageType.byteSizeLong_eq]
  exact hsize.trans (min_le_right _ _)

/-- **The replies that were sent are read**, up to the first message that cannot be parsed. -/
theorem received_sent {result : Codec rt M} {replies : List (StreamReply M)}
    (h : ∀ r ∈ replies, Sendable rpc (StreamReply.messageType result) r)
    {reader : rpc.ClientReader} {rest : List Bytes}
    (hpending : rpc.pending reader = sent result replies ++ rest)
    (hrest : ∀ bytes ∈ rest.head?, ∀ ctx, (StreamReply.messageType result).parse ctx bytes = none)
    (ctxs : ℕ → ParseContext) :
    rpc.received (fun n => (StreamReply.messageType result).parse (ctxs n)) reader = replies := by
  obtain ⟨reader', hpending', hreceived⟩ := Rpc.received_append
    (fun n => (StreamReply.messageType result).parse (ctxs n)) hpending fun r hr =>
      ⟨((h r hr).parse_eq (StreamReply.lawful result)).1,
        fun n => ((h r hr).parse_eq (StreamReply.lawful result)).2 (ctxs n)⟩
  rw [← hpending'] at hrest
  rw [hreceived, Rpc.received_eq_nil fun bytes hbytes => hrest bytes hbytes _, List.append_nil]

variable (rt rpc) (ctxs : ℕ → ParseContext) (channel : rpc.Channel)

/-- The replies that a call of a method delivers: `ClientReaderFactory::Create` for the name and the
request, and `Read` until it fails. Each message is parsed into a cleared reply; `ctxs` are the
buffers of the messages. -/
def call (request : MessageType rt Q) (result : Codec rt M) (name : String) (req : Q) :
    List (StreamReply M) :=
  rpc.received (fun n => (StreamReply.messageType result).parse (ctxs n))
    (rpc.create channel name (request.internalSerialize req))

namespace Stub

def lookup : LookupRequest → List LookupReply :=
  call rt rpc ctxs channel (LookupRequest.messageType rt) (Symbol.codec rt) lookupName

def fuzzyFind : FuzzyFindRequest → List FuzzyFindReply :=
  call rt rpc ctxs channel (FuzzyFindRequest.messageType rt) (Symbol.codec rt) fuzzyFindName

def refs : RefsRequest → List RefsReply :=
  call rt rpc ctxs channel (RefsRequest.messageType rt) (Ref.codec rt) refsName

def relations : RelationsRequest → List RelationsReply :=
  call rt rpc ctxs channel (RelationsRequest.messageType rt) (Relation.codec rt) relationsName

end Stub

/-- The service that a stub shows to the tables. -/
def remoteIndex : SymbolIndex where
  lookup req :=
    (Stub.lookup rt rpc ctxs channel (.ofRequest req)).map (StreamReply.view Symbol.view)
  fuzzyFind req :=
    (Stub.fuzzyFind rt rpc ctxs channel (.ofRequest req)).map (StreamReply.view Symbol.view)
  refs req := (Stub.refs rt rpc ctxs channel (.ofRequest req)).map (StreamReply.view Ref.view)
  relations req :=
    (Stub.relations rt rpc ctxs channel (.ofRequest req)).map (StreamReply.view Relation.view)

end Client

/-! ## The server -/

/-- An implementation of the service: the replies that each method writes. -/
structure Service where
  lookup : LookupRequest → List LookupReply
  fuzzyFind : FuzzyFindRequest → List FuzzyFindReply
  refs : RefsRequest → List RefsReply
  relations : RelationsRequest → List RelationsReply

namespace Service

variable (rt rpc) (ctx : ParseContext) (service : Service)

/-- The `ServerStreamingHandler` of a method. `ctx` are the buffers of the request. -/
def handler [Inhabited Q] (request : MessageType rt Q) (result : Codec rt M)
    (method : Q → List (StreamReply M)) : rpc.MethodHandler :=
  rpc.streamingHandler (request.parse ctx) (StreamReply.messageType result).internalSerialize method

/-- The methods that the constructor `Service` adds, under their names. -/
def methods : List (String × rpc.MethodHandler) :=
  [(lookupName,
      handler rt rpc ctx (LookupRequest.messageType rt) (Symbol.codec rt) service.lookup),
    (fuzzyFindName,
      handler rt rpc ctx (FuzzyFindRequest.messageType rt) (Symbol.codec rt) service.fuzzyFind),
    (refsName, handler rt rpc ctx (RefsRequest.messageType rt) (Ref.codec rt) service.refs),
    (relationsName,
      handler rt rpc ctx (RelationsRequest.messageType rt) (Relation.codec rt) service.relations)]

/-- A channel to the service. -/
def channel : rpc.Channel := rpc.connect (service.methods rt rpc ctx)

/-- The service without a channel between. -/
def index : SymbolIndex where
  lookup req := (service.lookup (.ofRequest req)).map (StreamReply.view Symbol.view)
  fuzzyFind req := (service.fuzzyFind (.ofRequest req)).map (StreamReply.view Symbol.view)
  refs req := (service.refs (.ofRequest req)).map (StreamReply.view Ref.view)
  relations req := (service.relations (.ofRequest req)).map (StreamReply.view Relation.view)

/-- The service that answers as `index` does, in the fields that the tables read. -/
def ofIndex (index : SymbolIndex) : Service where
  lookup req := (index.lookup req.view).map (StreamReply.ofReply Symbol.ofSymbol)
  fuzzyFind req := (index.fuzzyFind req.view).map (StreamReply.ofReply Symbol.ofSymbol)
  refs req := (index.refs req.view).map (StreamReply.ofReply Ref.ofRef)
  relations req := (index.relations req.view).map (StreamReply.ofReply Relation.ofRelation)

/-- Strings and all, nothing is lost on the way through the messages. -/
theorem index_ofIndex (i : SymbolIndex) : (ofIndex i).index = i := by
  have hlist : ∀ {M N : Type} {view : M → N} {write : N → M}, (∀ r, view (write r) = r) →
      ∀ l : List (Reply N), (l.map (StreamReply.ofReply write)).map (StreamReply.view view) = l :=
    fun h l => list_map_inverse (StreamReply.view_ofReply h) l
  simp only [index, ofIndex, LookupRequest.view_ofRequest, FuzzyFindRequest.view_ofRequest,
    RefsRequest.view_ofRequest, RelationsRequest.view_ofRequest, hlist Symbol.view_ofSymbol,
    hlist Ref.view_ofRef, hlist Relation.view_ofRelation]

variable {rt rpc ctx service}

/-- No two methods have the same name. -/
theorem nodup_methods : ((service.methods rt rpc ctx).map Prod.fst).Nodup := by
  simp [methods, lookupName, fuzzyFindName, refsName, relationsName]

/-- **A method called through its bytes** answers as the method itself, when it is registered and
the messages fit. -/
theorem call_eq [Inhabited Q] {request : MessageType rt Q} (hrequest : request.Lawful)
    {result : Codec rt M} {method : Q → List (StreamReply M)} {name : String} {req : Q}
    (hmethod : (name, handler rt rpc ctx request result method) ∈ service.methods rt rpc ctx)
    (hreq : Sendable rpc request req)
    (h : ∀ r ∈ method req, Sendable rpc (StreamReply.messageType result) r)
    (ctxs : ℕ → ParseContext) :
    call rt rpc ctxs (service.channel rt rpc ctx) request result name req = method req := by
  obtain ⟨hsize, hparse⟩ := hreq.parse_eq hrequest
  have hpending := rpc.pending_create nodup_methods hmethod hsize (hparse ctx)
  rw [← List.append_nil (List.map _ _)] at hpending
  exact received_sent h hpending (by simp) ctxs

end Service

end ClangQL.Wire

namespace ClangQL.Table

open WireFormat Wire

/-! ## The calls of the tables -/

/-- The results of a class on the wire. -/
abbrev WireResult : Table → Type
  | symbols => Wire.Symbol
  | relations _ => Wire.Relation
  | refs => Wire.Ref

/-- How they are written. -/
def codec (rt : Runtime) : (t : Table) → Codec rt t.WireResult
  | symbols => Wire.Symbol.codec rt
  | relations _ => Wire.Relation.codec rt
  | refs => Wire.Ref.codec rt

/-- What a table reads of a result. -/
def viewResult : (t : Table) → t.WireResult → t.Message
  | symbols => Wire.Symbol.view
  | relations _ => Wire.Relation.view
  | refs => Wire.Ref.view

/-- The call that a request becomes: the name of the method, and the bytes of the request. -/
def callOf (rt : Runtime) : (t : Table) → t.Request → String × Bytes
  | symbols => fun
    | .lookup req => (lookupName, (Wire.LookupRequest.messageType rt).internalSerialize
        (.ofRequest req))
    | .fuzzyFind req => (fuzzyFindName,
        (Wire.FuzzyFindRequest.messageType rt).internalSerialize (.ofRequest req))
  | relations _ => fun req => (relationsName,
      (Wire.RelationsRequest.messageType rt).internalSerialize (.ofRequest req))
  | refs => fun req => (refsName,
      (Wire.RefsRequest.messageType rt).internalSerialize (.ofRequest req))

/-- A table reads the views of the replies that come back for its call. -/
theorem serve_remoteIndex {rt : Runtime} {rpc : Rpc} {ctxs : ℕ → ParseContext}
    {channel : rpc.Channel} (t : Table) (req : t.Request) :
    t.serve (remoteIndex rt rpc ctxs channel) req =
      (rpc.received (fun n => (StreamReply.messageType (t.codec rt)).parse (ctxs n))
        (rpc.create channel (t.callOf rt req).1 (t.callOf rt req).2)).map
          (StreamReply.view t.viewResult) := by
  cases t with
  | symbols => cases req <;> rfl
  | relations kind => rfl
  | refs => rfl

/-- The size of a request on the wire. -/
def requestSize (rt : Runtime) : (t : Table) → t.Request → ℕ
  | symbols => fun
    | .lookup req => (Wire.LookupRequest.messageType rt).byteSizeLong (.ofRequest req)
    | .fuzzyFind req => (Wire.FuzzyFindRequest.messageType rt).byteSizeLong (.ofRequest req)
  | relations _ => fun req => (Wire.RelationsRequest.messageType rt).byteSizeLong (.ofRequest req)
  | refs => fun req => (Wire.RefsRequest.messageType rt).byteSizeLong (.ofRequest req)

/-- The replies of a service to a request. -/
def replies (service : Service) : (t : Table) → t.Request → List (StreamReply t.WireResult)
  | symbols => fun
    | .lookup req => service.lookup (.ofRequest req)
    | .fuzzyFind req => service.fuzzyFind (.ofRequest req)
  | relations _ => fun req => service.relations (.ofRequest req)
  | refs => fun req => service.refs (.ofRequest req)

/-- The messages of a call fit: the request, and the replies of the service to it. -/
def Carries (rt : Runtime) (rpc : Rpc) (service : Service) (t : Table) (req : t.Request) : Prop :=
  t.requestSize rt req ≤ messageLimit rt rpc ∧
    ∀ r ∈ t.replies service req, Sendable rpc (StreamReply.messageType (t.codec rt)) r

/-- A call through the stub, a channel and the registered method is the call of the method. -/
theorem serve_channel {rt : Runtime} {rpc : Rpc} (ctxs : ℕ → ParseContext) (ctx : ParseContext)
    {service : Service} (t : Table) {req : t.Request} (h : Carries rt rpc service t req) :
    t.serve (remoteIndex rt rpc ctxs (service.channel rt rpc ctx)) req =
      t.serve service.index req := by
  cases t with
  | symbols =>
    cases req with
    | lookup req =>
      refine congrArg (List.map (StreamReply.view Wire.Symbol.view)) ?_
      exact Service.call_eq (Wire.LookupRequest.lawful rt) (List.Mem.head _)
        ⟨⟨Wire.LookupRequest.sound_fields rt _, List.forall_mem_nil _⟩, h.1⟩ h.2 ctxs
    | fuzzyFind req =>
      refine congrArg (List.map (StreamReply.view Wire.Symbol.view)) ?_
      exact Service.call_eq (Wire.FuzzyFindRequest.lawful rt) (List.Mem.tail _ (List.Mem.head _))
        ⟨⟨Wire.FuzzyFindRequest.sound_fields rt _, List.forall_mem_nil _⟩, h.1⟩ h.2 ctxs
  | relations kind =>
    refine congrArg (List.map (StreamReply.view Wire.Relation.view)) ?_
    exact Service.call_eq (Wire.RelationsRequest.lawful rt)
      (List.Mem.tail _ (List.Mem.tail _ (List.Mem.tail _ (List.Mem.head _))))
      ⟨⟨Wire.RelationsRequest.sound_fields rt _, List.forall_mem_nil _⟩, h.1⟩ h.2 ctxs
  | refs =>
    refine congrArg (List.map (StreamReply.view Wire.Ref.view)) ?_
    exact Service.call_eq (Wire.RefsRequest.lawful rt)
      (List.Mem.tail _ (List.Mem.tail _ (List.Mem.head _)))
      ⟨⟨Wire.RefsRequest.sound_fields rt _, List.forall_mem_nil _⟩, h.1⟩ h.2 ctxs

end ClangQL.Table
