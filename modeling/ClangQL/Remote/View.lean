import ClangQL.Remote.Message
import ClangQL.Remote.Wire

/-!
# What the tables read of a message

The columns show some of the fields of a result, and `Filter` sets some of the fields of a
request. A message on the wire is seen through these fields; its strings are UTF-8.

## Main definitions

* `utf8`, `text`: the bytes of a string, and the string of its bytes
* `Symbol.view`, `Ref.view`, `Relation.view`, `StreamReply.view`: what is read of a reply
* `LookupRequest.ofRequest`, …: the requests that are sent
* `Symbol.ofSymbol`, `LookupRequest.view`, …: the other side of both

## Main results

* `text_utf8`: a string is read back from its bytes
* `Symbol.view_ofSymbol`, `LookupRequest.view_ofRequest`, …: so are results and requests
* `Symbol.sound_ofSymbol`, `StreamReply.sound_ofReply`, …: what is written is sound
-/

namespace ClangQL.Wire

open WireFormat

/-! ## Strings -/

/-- The bytes of a string. -/
def utf8 (s : Str) : Bytes := s.flatMap String.utf8EncodeChar

/-- The string with the given bytes. Bytes that are no UTF-8 are not shown. -/
def text (bytes : Bytes) : Str := (bytes.toByteArray.utf8Decode?.map Array.toList).getD []

/-- **A string is read back from its bytes.** -/
theorem text_utf8 (s : Str) : text (utf8 s) = s := by
  have h : (utf8 s).toByteArray.utf8Decode? = some s.toArray := List.utf8Decode?_utf8Encode
  rw [text, h]
  rfl

/-! ## Results -/

def Position.view (m : Position) : ClangQL.Position := { line := m.line, column := m.column }

def SymbolLocation.view (m : SymbolLocation) : ClangQL.SymbolLocation where
  start := m.start.map Position.view
  «end» := m.end.map Position.view
  filePath := m.filePath.map text

def SymbolInfo.view (m : SymbolInfo) : ClangQL.SymbolInfo where
  kind := m.kind
  subkind := m.subkind
  language := m.language
  properties := m.properties

def Symbol.view (m : Symbol) : ClangQL.Symbol where
  id := m.id.map text
  info := m.info.map SymbolInfo.view
  name := m.name.map text
  definition := m.definition.map SymbolLocation.view
  scope := m.scope.map text
  canonicalDeclaration := m.canonicalDeclaration.map SymbolLocation.view
  signature := m.signature.map text
  documentation := m.documentation.map text
  returnType := m.returnType.map text
  type := m.type.map text

def Ref.view (m : Ref) : ClangQL.Ref where
  location := m.location.map SymbolLocation.view
  kind := m.kind

def Relation.view (m : Relation) : ClangQL.Relation where
  subjectId := m.subjectId.map text
  object := m.object.map Symbol.view

/-- A reply, by its kind and the view of its result. -/
def StreamReply.view {M N : Type} (view : M → N) (m : StreamReply M) : Reply N :=
  match m.kind with
  | .streamResult r => .streamResult (view r)
  | .finalResult _ => .finalResult
  | .notSet => .notSet

/-! ## Requests -/

def LookupRequest.ofRequest (req : ClangQL.LookupRequest) : LookupRequest where
  ids := req.ids.map utf8

def FuzzyFindRequest.ofRequest (req : ClangQL.FuzzyFindRequest) : FuzzyFindRequest where
  query := req.query.map utf8
  scopes := req.scopes.map utf8
  anyScope := req.anyScope
  proximityPaths := req.proximityPaths.map utf8

def RefsRequest.ofRequest (req : ClangQL.RefsRequest) : RefsRequest where
  ids := req.ids.map utf8
  filter := req.filter

def RelationsRequest.ofRequest (req : ClangQL.RelationsRequest) : RelationsRequest where
  subjects := req.subjects.map utf8
  predicate := req.predicate

def LookupRequest.view (req : LookupRequest) : ClangQL.LookupRequest where
  ids := req.ids.map text

def FuzzyFindRequest.view (req : FuzzyFindRequest) : ClangQL.FuzzyFindRequest where
  query := req.query.map text
  scopes := req.scopes.map text
  anyScope := req.anyScope
  proximityPaths := req.proximityPaths.map text

def RefsRequest.view (req : RefsRequest) : ClangQL.RefsRequest where
  ids := req.ids.map text
  filter := req.filter

def RelationsRequest.view (req : RelationsRequest) : ClangQL.RelationsRequest where
  subjects := req.subjects.map text
  predicate := req.predicate

/-! ## Messages from what is read of them -/

def Position.ofPosition (m : ClangQL.Position) : Position :=
  { line := m.line, column := m.column }

def SymbolLocation.ofSymbolLocation (m : ClangQL.SymbolLocation) : SymbolLocation where
  start := m.start.map Position.ofPosition
  «end» := m.end.map Position.ofPosition
  filePath := m.filePath.map utf8

def SymbolInfo.ofSymbolInfo (m : ClangQL.SymbolInfo) : SymbolInfo where
  kind := m.kind
  subkind := m.subkind
  language := m.language
  properties := m.properties

def Symbol.ofSymbol (m : ClangQL.Symbol) : Symbol where
  id := m.id.map utf8
  info := m.info.map SymbolInfo.ofSymbolInfo
  name := m.name.map utf8
  definition := m.definition.map SymbolLocation.ofSymbolLocation
  scope := m.scope.map utf8
  canonicalDeclaration := m.canonicalDeclaration.map SymbolLocation.ofSymbolLocation
  signature := m.signature.map utf8
  documentation := m.documentation.map utf8
  returnType := m.returnType.map utf8
  type := m.type.map utf8

def Ref.ofRef (m : ClangQL.Ref) : Ref where
  location := m.location.map SymbolLocation.ofSymbolLocation
  kind := m.kind

def Relation.ofRelation (m : ClangQL.Relation) : Relation where
  subjectId := m.subjectId.map utf8
  object := m.object.map Symbol.ofSymbol

def StreamReply.ofReply {M N : Type} (write : N → M) (m : Reply N) : StreamReply M where
  kind :=
    match m with
    | .streamResult r => .streamResult (write r)
    | .finalResult => .finalResult {}
    | .notSet => .notSet

/-! ## What is read is what was written -/

section Inverse

variable {α β : Type} {f : β → α} {g : α → β}

theorem option_map_inverse (h : ∀ a, f (g a) = a) (o : Option α) : (o.map g).map f = o := by
  cases o with
  | none => rfl
  | some a => exact congrArg some (h a)

theorem list_map_inverse (h : ∀ a, f (g a) = a) (l : List α) : (l.map g).map f = l := by
  rw [List.map_map]
  exact List.map_id'' h l

end Inverse

theorem Position.view_ofPosition (m : ClangQL.Position) : (Position.ofPosition m).view = m := rfl

theorem SymbolInfo.view_ofSymbolInfo (m : ClangQL.SymbolInfo) :
    (SymbolInfo.ofSymbolInfo m).view = m := rfl

theorem SymbolLocation.view_ofSymbolLocation (m : ClangQL.SymbolLocation) :
    (SymbolLocation.ofSymbolLocation m).view = m := by
  simp only [SymbolLocation.view, SymbolLocation.ofSymbolLocation,
    option_map_inverse Position.view_ofPosition, option_map_inverse text_utf8]

theorem Symbol.view_ofSymbol (m : ClangQL.Symbol) : (Symbol.ofSymbol m).view = m := by
  simp only [Symbol.view, Symbol.ofSymbol, option_map_inverse text_utf8,
    option_map_inverse SymbolInfo.view_ofSymbolInfo,
    option_map_inverse SymbolLocation.view_ofSymbolLocation]

theorem Ref.view_ofRef (m : ClangQL.Ref) : (Ref.ofRef m).view = m := by
  simp only [Ref.view, Ref.ofRef, option_map_inverse SymbolLocation.view_ofSymbolLocation]

theorem Relation.view_ofRelation (m : ClangQL.Relation) : (Relation.ofRelation m).view = m := by
  simp only [Relation.view, Relation.ofRelation, option_map_inverse text_utf8,
    option_map_inverse Symbol.view_ofSymbol]

theorem StreamReply.view_ofReply {M N : Type} {view : M → N} {write : N → M}
    (h : ∀ r, view (write r) = r) (m : Reply N) :
    StreamReply.view view (StreamReply.ofReply write m) = m := by
  cases m with
  | streamResult r => exact congrArg Reply.streamResult (h r)
  | finalResult => rfl
  | notSet => rfl

theorem LookupRequest.view_ofRequest (req : ClangQL.LookupRequest) :
    (LookupRequest.ofRequest req).view = req := by
  simp only [LookupRequest.view, LookupRequest.ofRequest, list_map_inverse text_utf8]

theorem FuzzyFindRequest.view_ofRequest (req : ClangQL.FuzzyFindRequest) :
    (FuzzyFindRequest.ofRequest req).view = req := by
  simp only [FuzzyFindRequest.view, FuzzyFindRequest.ofRequest, option_map_inverse text_utf8,
    list_map_inverse text_utf8]

theorem RefsRequest.view_ofRequest (req : ClangQL.RefsRequest) :
    (RefsRequest.ofRequest req).view = req := by
  simp only [RefsRequest.view, RefsRequest.ofRequest, list_map_inverse text_utf8]

theorem RelationsRequest.view_ofRequest (req : ClangQL.RelationsRequest) :
    (RelationsRequest.ofRequest req).view = req := by
  simp only [RelationsRequest.view, RelationsRequest.ofRequest, list_map_inverse text_utf8]

/-! ## What is written is sound -/

section Sound

variable (rt : Runtime)

/-- A field set from a message that is written soundly. -/
theorem forall_mem_map {α β : Type} {P : β → Prop} {g : α → β} (h : ∀ a, P (g a)) (o : Option α) :
    ∀ b ∈ o.map g, P b := by
  intro b hb
  obtain ⟨a, -, rfl⟩ := Option.map_eq_some_iff.mp hb
  exact h a

theorem Position.sound_ofPosition (m : ClangQL.Position) :
    (Position.messageType rt).Sound (.ofPosition m) :=
  ⟨Position.sound_fields rt _, List.forall_mem_nil _⟩

theorem SymbolInfo.sound_ofSymbolInfo (m : ClangQL.SymbolInfo) :
    (SymbolInfo.messageType rt).Sound (.ofSymbolInfo m) :=
  ⟨SymbolInfo.sound_fields rt _, List.forall_mem_nil _⟩

theorem SymbolLocation.sound_ofSymbolLocation (m : ClangQL.SymbolLocation) :
    (SymbolLocation.messageType rt).Sound (.ofSymbolLocation m) := by
  refine ⟨(SymbolLocation.parts_iff rt _).mpr ⟨?_, ?_⟩, List.forall_mem_nil _⟩
  · exact forall_mem_map (Position.sound_ofPosition rt) m.start
  · exact forall_mem_map (Position.sound_ofPosition rt) m.end

theorem Symbol.sound_ofSymbol (m : ClangQL.Symbol) :
    (Symbol.messageType rt).Sound (.ofSymbol m) := by
  refine ⟨(Symbol.parts_iff rt _).mpr ⟨?_, ?_, ?_, List.forall_mem_nil _⟩, List.forall_mem_nil _⟩
  · exact forall_mem_map (SymbolInfo.sound_ofSymbolInfo rt) m.info
  · exact forall_mem_map (SymbolLocation.sound_ofSymbolLocation rt) m.definition
  · exact forall_mem_map (SymbolLocation.sound_ofSymbolLocation rt) m.canonicalDeclaration

theorem Ref.sound_ofRef (m : ClangQL.Ref) : (Ref.messageType rt).Sound (.ofRef m) :=
  ⟨(Ref.parts_iff rt _).mpr (forall_mem_map (SymbolLocation.sound_ofSymbolLocation rt) m.location),
    List.forall_mem_nil _⟩

theorem Relation.sound_ofRelation (m : ClangQL.Relation) :
    (Relation.messageType rt).Sound (.ofRelation m) :=
  ⟨(Relation.parts_iff rt _).mpr (forall_mem_map (Symbol.sound_ofSymbol rt) m.object),
    List.forall_mem_nil _⟩

variable {rt}

theorem StreamReply.sound_ofReply {M N : Type} {result : Codec rt M} {write : N → M}
    (h : ∀ r, result.Sound (write r)) (m : Reply N) :
    (StreamReply.messageType result).Sound (.ofReply write m) := by
  refine ⟨(StreamReply.parts_iff result _).mpr ?_, List.forall_mem_nil _⟩
  cases m with
  | streamResult r => exact ⟨forall_mem_some (h r), forall_mem_none⟩
  | finalResult =>
    have hfinal : (FinalResult.messageType rt).Sound {} :=
      ⟨FinalResult.sound_fields rt _, List.forall_mem_nil _⟩
    exact ⟨forall_mem_none, forall_mem_some hfinal⟩
  | notSet => exact ⟨forall_mem_none, forall_mem_none⟩

end Sound

end ClangQL.Wire
