import ClangQL.Remote.Message

/-!
# Result streams

`FuzzyFindStream`, `LookupStream`, `RefStream` and `RelationStream` read the replies to one
request. They differ in their messages only, apart from `RefStream`, which keeps its request.

## Main definitions

* `Undefined`, `Stop`, `Outcome`: how a C++ call can fail to return
* `ResultStream M`: the unread replies and the last reply read
* `ResultStream.open`, `ResultStream.current`, `ResultStream.next`: the stream's methods
* `RefStream`: a stream that keeps its request

## Main results

* `ResultStream.current_of_result?`: the current result is the one the last reply holds
* `ResultStream.next_streamResult`: a result message is read
-/

namespace ClangQL

/-! ## Outcomes of calls -/

/-- Undefined behaviour: a string built from a null pointer, an argument beyond `argc`, a null
`m_stream`, the first element of an empty repeated field, signed overflow. -/
inductive Undefined
  | nullString
  | argvBounds
  | nullStream
  | emptyIds
  | signedOverflow
  deriving DecidableEq

/-- A call that does not return: it throws a `std::exception`, or its behaviour is
undefined. -/
inductive Stop
  | exception
  | undefined (why : Undefined)
  deriving DecidableEq

/-- The outcome of a C++ call. -/
abbrev Outcome := Except Stop

/-- A value of a result code, such as `SQLITE_OK`. -/
abbrev ResultCode := Int32

/-- `SQLITE_OK`. -/
def sqliteOk : ResultCode := 0

/-- `SQLITE_ERROR`. -/
def sqliteError : ResultCode := 1

/-! ## Streams -/

/-- A `FuzzyFindStream` or `LookupStream` of symbols, or a `RelationStream`: the messages
`m_replyReader` will still deliver before `Read` fails, and `m_reply`. -/
structure ResultStream (M : Type) where
  replyReader : List (Reply M)
  reply : Reply M

namespace ResultStream

variable {M : Type}

/-- The constructor, on the replies the server sends. -/
def «open» (replies : List (Reply M)) : ResultStream M := ⟨replies, .notSet⟩

/-- `Current`. -/
def current [Inhabited M] (s : ResultStream M) : M := s.reply.getStreamResult

/-- `Next`: `m_replyReader->Read(&m_reply) && m_reply.has_stream_result()`. -/
def next (s : ResultStream M) : Bool × ResultStream M :=
  match s.replyReader with
  | [] => (false, s)
  | r :: rs => (r.hasStreamResult, ⟨rs, r⟩)

theorem current_of_result? [Inhabited M] {s : ResultStream M} {m : M}
    (h : s.reply.result? = some m) : s.current = m := by
  simp [current, Reply.getStreamResult, h]

theorem next_streamResult (m : M) (rs : List (Reply M)) (r : Reply M) :
    next ⟨.streamResult m :: rs, r⟩ = (true, ⟨rs, .streamResult m⟩) := rfl

end ResultStream

/-- `RefStream` keeps its request. -/
structure RefStream extends ResultStream Ref where
  req : RefsRequest

namespace RefStream

/-- The constructor, on the replies the server sends. -/
def «open» (req : RefsRequest) (replies : List (Reply Ref)) : RefStream :=
  ⟨ResultStream.open replies, req⟩

/-- `Next`. -/
def next (s : RefStream) : Bool × RefStream :=
  let (more, t) := s.toResultStream.next
  (more, ⟨t, s.req⟩)

/-- `Id`: `m_req.ids(0)`. -/
def id (s : RefStream) : Outcome Str :=
  match s.req.ids with
  | i :: _ => .ok i
  | [] => .error (.undefined .emptyIds)

end RefStream

end ClangQL
