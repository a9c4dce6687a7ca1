import ClangQL.Sqlite.Value

/-!
# Messages of the remote index

The messages of `Index.proto` that the tables send and read. An optional field is an `Option`;
its accessor gives the proto2 default when the field is absent. A reply holds a result, the
final message of a stream or, when a server sets no kind, nothing.

## Main definitions

* `Position`, `SymbolLocation`, `SymbolInfo`, `Symbol`, `Ref`, `Relation`: results
* `LookupRequest`, `FuzzyFindRequest`, `RefsRequest`, `RelationsRequest`: requests
* `Reply M`: the messages of a reply stream of results `M`
* `results`: the results a stream holds before its first other message
* `replies`: a well-formed stream of results
-/

namespace ClangQL

/-! ## Results -/

structure Position where
  line : Option UInt32 := none
  column : Option UInt32 := none
  deriving DecidableEq

structure SymbolLocation where
  start : Option Position := none
  «end» : Option Position := none
  filePath : Option Str := none
  deriving DecidableEq

structure SymbolInfo where
  kind : Option UInt32 := none
  subkind : Option UInt32 := none
  language : Option UInt32 := none
  properties : Option UInt32 := none
  deriving DecidableEq

/-- A symbol, without the fields no column shows. -/
structure Symbol where
  id : Option Str := none
  info : Option SymbolInfo := none
  name : Option Str := none
  definition : Option SymbolLocation := none
  scope : Option Str := none
  canonicalDeclaration : Option SymbolLocation := none
  signature : Option Str := none
  documentation : Option Str := none
  returnType : Option Str := none
  type : Option Str := none
  deriving DecidableEq

structure Ref where
  location : Option SymbolLocation := none
  kind : Option UInt32 := none
  deriving DecidableEq

structure Relation where
  subjectId : Option Str := none
  object : Option Symbol := none
  deriving DecidableEq

/-- `kind()`, zero when the field is absent. -/
def Ref.getKind (r : Ref) : UInt32 := r.kind.getD 0

/-- `id()`, empty when the field is absent. -/
def Symbol.getId (s : Symbol) : Str := s.id.getD []

/-- `subject_id()`, empty when the field is absent. -/
def Relation.getSubjectId (r : Relation) : Str := r.subjectId.getD []

/-- `object().id()`, empty when either field is absent. -/
def Relation.getObjectId (r : Relation) : Str := (r.object.getD {}).getId

/-! ## Requests -/

structure LookupRequest where
  ids : List Str := []
  deriving DecidableEq

structure FuzzyFindRequest where
  query : Option Str := none
  scopes : List Str := []
  anyScope : Option Bool := none
  proximityPaths : List Str := []
  deriving DecidableEq

structure RefsRequest where
  ids : List Str := []
  filter : Option UInt32 := none
  deriving DecidableEq

structure RelationsRequest where
  subjects : List Str := []
  predicate : Option UInt32 := none
  deriving DecidableEq

/-! ## Replies -/

/-- A message of a reply stream; `notSet` has no kind. -/
inductive Reply (M : Type)
  | streamResult (result : M)
  | finalResult
  | notSet

namespace Reply

variable {M : Type}

/-- `has_stream_result()`. -/
def hasStreamResult : Reply M → Bool
  | streamResult _ => true
  | _ => false

/-- The result a message holds. -/
def result? : Reply M → Option M
  | streamResult m => some m
  | _ => none

/-- `stream_result()`: the default message when there is no result. -/
def getStreamResult [Inhabited M] (r : Reply M) : M := r.result?.getD default

end Reply

/-- The results of a reply stream: its longest prefix of result messages. -/
def results {M : Type} : List (Reply M) → List M
  | .streamResult m :: rs => m :: results rs
  | _ => []

/-- A well-formed reply stream: the results, then the final message. -/
def replies {M : Type} (ms : List M) : List (Reply M) := ms.map .streamResult ++ [.finalResult]

@[simp] theorem results_replies {M : Type} (ms : List M) : results (replies ms) = ms := by
  induction ms with
  | nil => rfl
  | cons m ms ih => exact congrArg (m :: ·) ih

instance : Inhabited Symbol := ⟨{}⟩
instance : Inhabited Ref := ⟨{}⟩
instance : Inhabited Relation := ⟨{}⟩

end ClangQL
