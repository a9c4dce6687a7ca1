import ClangQL.Library.WireFields

/-!
# Messages on the wire

The message types of `Index.proto` with all their fields and the unknown fields they keep, and the
tables behind the functions that `Index.pb.cc` has for each of them: `_InternalParse`,
`_InternalSerialize`, `ByteSizeLong` and `MergeFrom`. A row of a table is the tag that the case of
the field expects, the size that `ByteSizeLong` counts for it, and the type of the values. A
string is its bytes.

## Main definitions

* `Symbol`, `Ref`, `Relation`, …: the messages
* `Symbol.messageType`, …: the tables of their fields
* `StreamReply`: the four replies, which hold a result or the final message of a stream

## Main results

* `Symbol.mergeFrom_default`, …: merged into an empty message, a message is copied
* `Symbol.lawful`, …: the tables are lawful
-/

namespace ClangQL.Wire

open WireFormat

/-! ## `FinalResult` -/

/-- The final message of a stream. -/
structure FinalResult where
  hasMore : Option Bool := none
  unknown : List Bytes := []
  deriving DecidableEq

namespace FinalResult

instance : Inhabited FinalResult := ⟨{}⟩

instance : UnknownFields FinalResult :=
  ⟨(·.unknown), fun us m => { m with unknown := us }, fun _ _ => rfl, fun _ => rfl,
    fun _ _ _ => rfl⟩

def hasMoreField : OptionalMember FinalResult Bool :=
  ⟨⟨(·.hasMore), fun a m => { m with hasMore := a }, fun _ _ => rfl, rfl⟩,
    fun _ => rfl, fun _ _ => rfl, fun _ _ _ => rfl⟩

variable (rt : Runtime)

def messageType : MessageType rt FinalResult where
  fields :=
    [.optional 8 1 (.bool rt) hasMoreField (by decide)]
  nodup := by simp [Field.optional]

theorem mergeFrom_default (s : FinalResult) :
    (messageType rt).mergeFrom s default = s := by
  cases s
  rw [MessageType.mergeFrom_eq, messageType, foldl_merge_optional]
  all_goals exact rfl

theorem sound_fields (m : FinalResult) : ∀ f ∈ (messageType rt).fields, f.Sound m := by
  simp [messageType]

theorem lawful : (messageType rt).Lawful :=
  .of_sound (sound_fields rt) (mergeFrom_default rt) rfl

def codec : Codec rt FinalResult := .message (messageType rt) (lawful rt)

end FinalResult

/-! ## `Position` -/

structure Position where
  line : Option UInt32 := none
  column : Option UInt32 := none
  unknown : List Bytes := []
  deriving DecidableEq

namespace Position

instance : Inhabited Position := ⟨{}⟩

instance : UnknownFields Position :=
  ⟨(·.unknown), fun us m => { m with unknown := us }, fun _ _ => rfl, fun _ => rfl,
    fun _ _ _ => rfl⟩

def lineField : OptionalMember Position UInt32 :=
  ⟨⟨(·.line), fun a m => { m with line := a }, fun _ _ => rfl, rfl⟩,
    fun _ => rfl, fun _ _ => rfl, fun _ _ _ => rfl⟩

def columnField : OptionalMember Position UInt32 :=
  ⟨⟨(·.column), fun a m => { m with column := a }, fun _ _ => rfl, rfl⟩,
    fun _ => rfl, fun _ _ => rfl, fun _ _ _ => rfl⟩

variable (rt : Runtime)

def messageType : MessageType rt Position where
  fields :=
    [.optional 8 1 (.uint32 rt) lineField (by decide),
     .optional 16 1 (.uint32 rt) columnField (by decide)]
  nodup := by simp [Field.optional]

theorem mergeFrom_default (s : Position) :
    (messageType rt).mergeFrom s default = s := by
  cases s
  rw [MessageType.mergeFrom_eq, messageType, foldl_merge_optional, foldl_merge_optional]
  all_goals exact rfl

theorem sound_fields (m : Position) : ∀ f ∈ (messageType rt).fields, f.Sound m := by
  simp [messageType]

theorem lawful : (messageType rt).Lawful :=
  .of_sound (sound_fields rt) (mergeFrom_default rt) rfl

def codec : Codec rt Position := .message (messageType rt) (lawful rt)

end Position

/-! ## `SymbolInfo` -/

structure SymbolInfo where
  kind : Option UInt32 := none
  subkind : Option UInt32 := none
  language : Option UInt32 := none
  properties : Option UInt32 := none
  unknown : List Bytes := []
  deriving DecidableEq

namespace SymbolInfo

instance : Inhabited SymbolInfo := ⟨{}⟩

instance : UnknownFields SymbolInfo :=
  ⟨(·.unknown), fun us m => { m with unknown := us }, fun _ _ => rfl, fun _ => rfl,
    fun _ _ _ => rfl⟩

def kindField : OptionalMember SymbolInfo UInt32 :=
  ⟨⟨(·.kind), fun a m => { m with kind := a }, fun _ _ => rfl, rfl⟩,
    fun _ => rfl, fun _ _ => rfl, fun _ _ _ => rfl⟩

def subkindField : OptionalMember SymbolInfo UInt32 :=
  ⟨⟨(·.subkind), fun a m => { m with subkind := a }, fun _ _ => rfl, rfl⟩,
    fun _ => rfl, fun _ _ => rfl, fun _ _ _ => rfl⟩

def languageField : OptionalMember SymbolInfo UInt32 :=
  ⟨⟨(·.language), fun a m => { m with language := a }, fun _ _ => rfl, rfl⟩,
    fun _ => rfl, fun _ _ => rfl, fun _ _ _ => rfl⟩

def propertiesField : OptionalMember SymbolInfo UInt32 :=
  ⟨⟨(·.properties), fun a m => { m with properties := a }, fun _ _ => rfl, rfl⟩,
    fun _ => rfl, fun _ _ => rfl, fun _ _ _ => rfl⟩

variable (rt : Runtime)

def messageType : MessageType rt SymbolInfo where
  fields :=
    [.optional 8 1 (.uint32 rt) kindField (by decide),
     .optional 16 1 (.uint32 rt) subkindField (by decide),
     .optional 24 1 (.uint32 rt) languageField (by decide),
     .optional 32 1 (.uint32 rt) propertiesField (by decide)]
  nodup := by simp [Field.optional]

theorem mergeFrom_default (s : SymbolInfo) :
    (messageType rt).mergeFrom s default = s := by
  cases s
  rw [MessageType.mergeFrom_eq, messageType, foldl_merge_optional, foldl_merge_optional,
    foldl_merge_optional, foldl_merge_optional]
  all_goals exact rfl

theorem sound_fields (m : SymbolInfo) : ∀ f ∈ (messageType rt).fields, f.Sound m := by
  simp [messageType]

theorem lawful : (messageType rt).Lawful :=
  .of_sound (sound_fields rt) (mergeFrom_default rt) rfl

def codec : Codec rt SymbolInfo := .message (messageType rt) (lawful rt)

end SymbolInfo

/-! ## `SymbolLocation` -/

structure SymbolLocation where
  start : Option Position := none
  «end» : Option Position := none
  filePath : Option Bytes := none
  unknown : List Bytes := []
  deriving DecidableEq

namespace SymbolLocation

instance : Inhabited SymbolLocation := ⟨{}⟩

instance : UnknownFields SymbolLocation :=
  ⟨(·.unknown), fun us m => { m with unknown := us }, fun _ _ => rfl, fun _ => rfl,
    fun _ _ _ => rfl⟩

def startField : OptionalMember SymbolLocation Position :=
  ⟨⟨(·.start), fun a m => { m with start := a }, fun _ _ => rfl, rfl⟩,
    fun _ => rfl, fun _ _ => rfl, fun _ _ _ => rfl⟩

def endField : OptionalMember SymbolLocation Position :=
  ⟨⟨(·.end), fun a m => { m with «end» := a }, fun _ _ => rfl, rfl⟩,
    fun _ => rfl, fun _ _ => rfl, fun _ _ _ => rfl⟩

def filePathField : OptionalMember SymbolLocation Bytes :=
  ⟨⟨(·.filePath), fun a m => { m with filePath := a }, fun _ _ => rfl, rfl⟩,
    fun _ => rfl, fun _ _ => rfl, fun _ _ _ => rfl⟩

variable (rt : Runtime)

def messageType : MessageType rt SymbolLocation where
  fields :=
    [.optional 10 1 (Position.codec rt) startField (by decide),
     .optional 18 1 (Position.codec rt) endField (by decide),
     .optional 26 1 (.string rt) filePathField (by decide)]
  nodup := by simp [Field.optional]

theorem mergeFrom_default (s : SymbolLocation) :
    (messageType rt).mergeFrom s default = s := by
  cases s
  rw [MessageType.mergeFrom_eq, messageType, foldl_merge_optional, foldl_merge_optional,
    foldl_merge_optional]
  all_goals exact rfl

/-- The messages in a message are sound. -/
def Parts (m : SymbolLocation) : Prop :=
  (∀ a ∈ startField.get m, (Position.codec rt).Sound a) ∧
    ∀ a ∈ endField.get m, (Position.codec rt).Sound a

theorem parts_iff (m : SymbolLocation) :
    (∀ f ∈ (messageType rt).fields, f.Sound m) ↔ Parts rt m := by
  simp only [messageType, List.forall_mem_cons, Field.sound_optional, Codec.sound_string,
    List.not_mem_nil, false_implies, implies_true, and_true]
  rfl

theorem lawful : (messageType rt).Lawful := by
  refine .of_property (Parts rt) (parts_iff rt) (mergeFrom_default rt) rfl
    ⟨forall_mem_none, forall_mem_none⟩ ?_
  simp only [messageType, List.forall_mem_cons]
  exact
    ⟨Field.optional_stable (fun _ _ ha h => ⟨forall_mem_some ha, h.2⟩)
      fun _ h => h.1,
     Field.optional_stable (fun _ _ ha h => ⟨h.1, forall_mem_some ha⟩)
      fun _ h => h.2,
     Field.optional_stable (fun _ _ _ h => h) fun _ _ _ _ => trivial,
     List.forall_mem_nil _⟩

def codec : Codec rt SymbolLocation := .message (messageType rt) (lawful rt)

end SymbolLocation

/-! ## `HeaderWithReferences` -/

structure HeaderWithReferences where
  header : Option Bytes := none
  references : Option UInt32 := none
  unknown : List Bytes := []
  deriving DecidableEq

namespace HeaderWithReferences

instance : Inhabited HeaderWithReferences := ⟨{}⟩

instance : UnknownFields HeaderWithReferences :=
  ⟨(·.unknown), fun us m => { m with unknown := us }, fun _ _ => rfl, fun _ => rfl,
    fun _ _ _ => rfl⟩

def headerField : OptionalMember HeaderWithReferences Bytes :=
  ⟨⟨(·.header), fun a m => { m with header := a }, fun _ _ => rfl, rfl⟩,
    fun _ => rfl, fun _ _ => rfl, fun _ _ _ => rfl⟩

def referencesField : OptionalMember HeaderWithReferences UInt32 :=
  ⟨⟨(·.references), fun a m => { m with references := a }, fun _ _ => rfl, rfl⟩,
    fun _ => rfl, fun _ _ => rfl, fun _ _ _ => rfl⟩

variable (rt : Runtime)

def messageType : MessageType rt HeaderWithReferences where
  fields :=
    [.optional 10 1 (.string rt) headerField (by decide),
     .optional 16 1 (.uint32 rt) referencesField (by decide)]
  nodup := by simp [Field.optional]

theorem mergeFrom_default (s : HeaderWithReferences) :
    (messageType rt).mergeFrom s default = s := by
  cases s
  rw [MessageType.mergeFrom_eq, messageType, foldl_merge_optional, foldl_merge_optional]
  all_goals exact rfl

theorem sound_fields (m : HeaderWithReferences) : ∀ f ∈ (messageType rt).fields, f.Sound m := by
  simp [messageType]

theorem lawful : (messageType rt).Lawful :=
  .of_sound (sound_fields rt) (mergeFrom_default rt) rfl

def codec : Codec rt HeaderWithReferences := .message (messageType rt) (lawful rt)

end HeaderWithReferences

/-! ## `Symbol` -/

structure Symbol where
  id : Option Bytes := none
  info : Option SymbolInfo := none
  name : Option Bytes := none
  definition : Option SymbolLocation := none
  scope : Option Bytes := none
  canonicalDeclaration : Option SymbolLocation := none
  references : Option Int32 := none
  origin : Option UInt32 := none
  signature : Option Bytes := none
  templateSpecializationArgs : Option Bytes := none
  completionSnippetSuffix : Option Bytes := none
  documentation : Option Bytes := none
  returnType : Option Bytes := none
  type : Option Bytes := none
  headers : List HeaderWithReferences := []
  flags : Option UInt32 := none
  unknown : List Bytes := []
  deriving DecidableEq

namespace Symbol

instance : Inhabited Symbol := ⟨{}⟩

instance : UnknownFields Symbol :=
  ⟨(·.unknown), fun us m => { m with unknown := us }, fun _ _ => rfl, fun _ => rfl,
    fun _ _ _ => rfl⟩

def idField : OptionalMember Symbol Bytes :=
  ⟨⟨(·.id), fun a m => { m with id := a }, fun _ _ => rfl, rfl⟩,
    fun _ => rfl, fun _ _ => rfl, fun _ _ _ => rfl⟩

def infoField : OptionalMember Symbol SymbolInfo :=
  ⟨⟨(·.info), fun a m => { m with info := a }, fun _ _ => rfl, rfl⟩,
    fun _ => rfl, fun _ _ => rfl, fun _ _ _ => rfl⟩

def nameField : OptionalMember Symbol Bytes :=
  ⟨⟨(·.name), fun a m => { m with name := a }, fun _ _ => rfl, rfl⟩,
    fun _ => rfl, fun _ _ => rfl, fun _ _ _ => rfl⟩

def definitionField : OptionalMember Symbol SymbolLocation :=
  ⟨⟨(·.definition), fun a m => { m with definition := a }, fun _ _ => rfl, rfl⟩,
    fun _ => rfl, fun _ _ => rfl, fun _ _ _ => rfl⟩

def scopeField : OptionalMember Symbol Bytes :=
  ⟨⟨(·.scope), fun a m => { m with scope := a }, fun _ _ => rfl, rfl⟩,
    fun _ => rfl, fun _ _ => rfl, fun _ _ _ => rfl⟩

def canonicalDeclarationField : OptionalMember Symbol SymbolLocation :=
  ⟨⟨(·.canonicalDeclaration), fun a m => { m with canonicalDeclaration := a },
    fun _ _ => rfl, rfl⟩,
    fun _ => rfl, fun _ _ => rfl, fun _ _ _ => rfl⟩

def referencesField : OptionalMember Symbol Int32 :=
  ⟨⟨(·.references), fun a m => { m with references := a }, fun _ _ => rfl, rfl⟩,
    fun _ => rfl, fun _ _ => rfl, fun _ _ _ => rfl⟩

def originField : OptionalMember Symbol UInt32 :=
  ⟨⟨(·.origin), fun a m => { m with origin := a }, fun _ _ => rfl, rfl⟩,
    fun _ => rfl, fun _ _ => rfl, fun _ _ _ => rfl⟩

def signatureField : OptionalMember Symbol Bytes :=
  ⟨⟨(·.signature), fun a m => { m with signature := a }, fun _ _ => rfl, rfl⟩,
    fun _ => rfl, fun _ _ => rfl, fun _ _ _ => rfl⟩

def templateSpecializationArgsField : OptionalMember Symbol Bytes :=
  ⟨⟨(·.templateSpecializationArgs), fun a m => { m with templateSpecializationArgs := a },
   fun _ _ => rfl, rfl⟩,
    fun _ => rfl, fun _ _ => rfl, fun _ _ _ => rfl⟩

def completionSnippetSuffixField : OptionalMember Symbol Bytes :=
  ⟨⟨(·.completionSnippetSuffix), fun a m => { m with completionSnippetSuffix := a },
   fun _ _ => rfl, rfl⟩,
    fun _ => rfl, fun _ _ => rfl, fun _ _ _ => rfl⟩

def documentationField : OptionalMember Symbol Bytes :=
  ⟨⟨(·.documentation), fun a m => { m with documentation := a }, fun _ _ => rfl, rfl⟩,
    fun _ => rfl, fun _ _ => rfl, fun _ _ _ => rfl⟩

def returnTypeField : OptionalMember Symbol Bytes :=
  ⟨⟨(·.returnType), fun a m => { m with returnType := a }, fun _ _ => rfl, rfl⟩,
    fun _ => rfl, fun _ _ => rfl, fun _ _ _ => rfl⟩

def typeField : OptionalMember Symbol Bytes :=
  ⟨⟨(·.type), fun a m => { m with type := a }, fun _ _ => rfl, rfl⟩,
    fun _ => rfl, fun _ _ => rfl, fun _ _ _ => rfl⟩

def headersField : RepeatedMember Symbol HeaderWithReferences :=
  ⟨(·.headers), fun as m => { m with headers := as }, fun _ _ => rfl, fun _ => rfl,
    fun _ _ _ => rfl, fun _ _ => rfl, fun _ _ _ => rfl⟩

def flagsField : OptionalMember Symbol UInt32 :=
  ⟨⟨(·.flags), fun a m => { m with flags := a }, fun _ _ => rfl, rfl⟩,
    fun _ => rfl, fun _ _ => rfl, fun _ _ _ => rfl⟩

variable (rt : Runtime)

def messageType : MessageType rt Symbol where
  fields :=
    [.optional 10 1 (.string rt) idField (by decide),
     .optional 18 1 (SymbolInfo.codec rt) infoField (by decide),
     .optional 26 1 (.string rt) nameField (by decide),
     .optional 34 1 (SymbolLocation.codec rt) definitionField (by decide),
     .optional 42 1 (.string rt) scopeField (by decide),
     .optional 50 1 (SymbolLocation.codec rt) canonicalDeclarationField (by decide),
     .optional 56 1 (.int32 rt) referencesField (by decide),
     .optional 64 1 (.uint32 rt) originField (by decide),
     .optional 74 1 (.string rt) signatureField (by decide),
     .optional 82 1 (.string rt) templateSpecializationArgsField (by decide),
     .optional 90 1 (.string rt) completionSnippetSuffixField (by decide),
     .optional 98 1 (.string rt) documentationField (by decide),
     .optional 106 1 (.string rt) returnTypeField (by decide),
     .optional 114 1 (.string rt) typeField (by decide),
     .repeatedField 122 1 (HeaderWithReferences.codec rt) headersField (by decide),
     .optional 128 2 (.uint32 rt) flagsField (by decide)]
  nodup := by simp [Field.optional, Field.repeatedField]

theorem mergeFrom_default (s : Symbol) :
    (messageType rt).mergeFrom s default = s := by
  cases s
  rw [MessageType.mergeFrom_eq, messageType, foldl_merge_optional, foldl_merge_optional,
    foldl_merge_optional, foldl_merge_optional, foldl_merge_optional, foldl_merge_optional,
    foldl_merge_optional, foldl_merge_optional, foldl_merge_optional, foldl_merge_optional,
    foldl_merge_optional, foldl_merge_optional, foldl_merge_optional, foldl_merge_optional,
    foldl_merge_repeated, foldl_merge_optional]
  all_goals exact rfl

/-- The messages in a message are sound. -/
def Parts (m : Symbol) : Prop :=
  (∀ a ∈ infoField.get m, (SymbolInfo.codec rt).Sound a) ∧
    (∀ a ∈ definitionField.get m, (SymbolLocation.codec rt).Sound a) ∧
    (∀ a ∈ canonicalDeclarationField.get m, (SymbolLocation.codec rt).Sound a) ∧
    ∀ a ∈ headersField.get m, (HeaderWithReferences.codec rt).Sound a

theorem parts_iff (m : Symbol) :
    (∀ f ∈ (messageType rt).fields, f.Sound m) ↔ Parts rt m := by
  simp only [messageType, List.forall_mem_cons, Field.sound_optional, Field.sound_repeatedField,
    Codec.sound_string, Codec.sound_uint32, Codec.sound_int32, List.not_mem_nil, false_implies,
    implies_true, true_and, and_true]
  rfl

theorem lawful : (messageType rt).Lawful := by
  refine .of_property (Parts rt) (parts_iff rt) (mergeFrom_default rt) rfl
    ⟨forall_mem_none, forall_mem_none, forall_mem_none, List.forall_mem_nil _⟩ ?_
  simp only [messageType, List.forall_mem_cons]
  exact
    ⟨Field.optional_stable (fun _ _ _ h => h) fun _ _ _ _ => trivial,
     Field.optional_stable (fun _ _ ha h => ⟨forall_mem_some ha, h.2⟩)
      fun _ h => h.1,
     Field.optional_stable (fun _ _ _ h => h) fun _ _ _ _ => trivial,
     Field.optional_stable (fun _ _ ha h => ⟨h.1, forall_mem_some ha, h.2.2⟩)
      fun _ h => h.2.1,
     Field.optional_stable (fun _ _ _ h => h) fun _ _ _ _ => trivial,
     Field.optional_stable (fun _ _ ha h => ⟨h.1, h.2.1, forall_mem_some ha, h.2.2.2⟩)
      fun _ h => h.2.2.1,
     Field.optional_stable (fun _ _ _ h => h) fun _ _ _ _ => trivial,
     Field.optional_stable (fun _ _ _ h => h) fun _ _ _ _ => trivial,
     Field.optional_stable (fun _ _ _ h => h) fun _ _ _ _ => trivial,
     Field.optional_stable (fun _ _ _ h => h) fun _ _ _ _ => trivial,
     Field.optional_stable (fun _ _ _ h => h) fun _ _ _ _ => trivial,
     Field.optional_stable (fun _ _ _ h => h) fun _ _ _ _ => trivial,
     Field.optional_stable (fun _ _ _ h => h) fun _ _ _ _ => trivial,
     Field.optional_stable (fun _ _ _ h => h) fun _ _ _ _ => trivial,
     Field.repeated_stable
      fun _ _ ha h => ⟨h.1, h.2.1, h.2.2.1, RepeatedMember.forall_mem_add ha h.2.2.2⟩,
     Field.optional_stable (fun _ _ _ h => h) fun _ _ _ _ => trivial,
     List.forall_mem_nil _⟩

def codec : Codec rt Symbol := .message (messageType rt) (lawful rt)

end Symbol

/-! ## `Ref` -/

structure Ref where
  location : Option SymbolLocation := none
  kind : Option UInt32 := none
  unknown : List Bytes := []
  deriving DecidableEq

namespace Ref

instance : Inhabited Ref := ⟨{}⟩

instance : UnknownFields Ref :=
  ⟨(·.unknown), fun us m => { m with unknown := us }, fun _ _ => rfl, fun _ => rfl,
    fun _ _ _ => rfl⟩

def locationField : OptionalMember Ref SymbolLocation :=
  ⟨⟨(·.location), fun a m => { m with location := a }, fun _ _ => rfl, rfl⟩,
    fun _ => rfl, fun _ _ => rfl, fun _ _ _ => rfl⟩

def kindField : OptionalMember Ref UInt32 :=
  ⟨⟨(·.kind), fun a m => { m with kind := a }, fun _ _ => rfl, rfl⟩,
    fun _ => rfl, fun _ _ => rfl, fun _ _ _ => rfl⟩

variable (rt : Runtime)

def messageType : MessageType rt Ref where
  fields :=
    [.optional 10 1 (SymbolLocation.codec rt) locationField (by decide),
     .optional 16 1 (.uint32 rt) kindField (by decide)]
  nodup := by simp [Field.optional]

theorem mergeFrom_default (s : Ref) :
    (messageType rt).mergeFrom s default = s := by
  cases s
  rw [MessageType.mergeFrom_eq, messageType, foldl_merge_optional, foldl_merge_optional]
  all_goals exact rfl

/-- The messages in a message are sound. -/
def Parts (m : Ref) : Prop :=
  ∀ a ∈ locationField.get m, (SymbolLocation.codec rt).Sound a

theorem parts_iff (m : Ref) :
    (∀ f ∈ (messageType rt).fields, f.Sound m) ↔ Parts rt m := by
  simp only [messageType, List.forall_mem_cons, Field.sound_optional, Codec.sound_uint32,
    List.not_mem_nil, false_implies, implies_true, and_true]
  rfl

theorem lawful : (messageType rt).Lawful := by
  refine .of_property (Parts rt) (parts_iff rt) (mergeFrom_default rt) rfl
    forall_mem_none ?_
  simp only [messageType, List.forall_mem_cons]
  exact
    ⟨Field.optional_stable (fun _ _ ha h => forall_mem_some ha)
      fun _ h => h,
     Field.optional_stable (fun _ _ _ h => h) fun _ _ _ _ => trivial,
     List.forall_mem_nil _⟩

def codec : Codec rt Ref := .message (messageType rt) (lawful rt)

end Ref

/-! ## `Relation` -/

structure Relation where
  subjectId : Option Bytes := none
  object : Option Symbol := none
  unknown : List Bytes := []
  deriving DecidableEq

namespace Relation

instance : Inhabited Relation := ⟨{}⟩

instance : UnknownFields Relation :=
  ⟨(·.unknown), fun us m => { m with unknown := us }, fun _ _ => rfl, fun _ => rfl,
    fun _ _ _ => rfl⟩

def subjectIdField : OptionalMember Relation Bytes :=
  ⟨⟨(·.subjectId), fun a m => { m with subjectId := a }, fun _ _ => rfl, rfl⟩,
    fun _ => rfl, fun _ _ => rfl, fun _ _ _ => rfl⟩

def objectField : OptionalMember Relation Symbol :=
  ⟨⟨(·.object), fun a m => { m with object := a }, fun _ _ => rfl, rfl⟩,
    fun _ => rfl, fun _ _ => rfl, fun _ _ _ => rfl⟩

variable (rt : Runtime)

def messageType : MessageType rt Relation where
  fields :=
    [.optional 10 1 (.string rt) subjectIdField (by decide),
     .optional 18 1 (Symbol.codec rt) objectField (by decide)]
  nodup := by simp [Field.optional]

theorem mergeFrom_default (s : Relation) :
    (messageType rt).mergeFrom s default = s := by
  cases s
  rw [MessageType.mergeFrom_eq, messageType, foldl_merge_optional, foldl_merge_optional]
  all_goals exact rfl

/-- The messages in a message are sound. -/
def Parts (m : Relation) : Prop :=
  ∀ a ∈ objectField.get m, (Symbol.codec rt).Sound a

theorem parts_iff (m : Relation) :
    (∀ f ∈ (messageType rt).fields, f.Sound m) ↔ Parts rt m := by
  simp only [messageType, List.forall_mem_cons, Field.sound_optional, Codec.sound_string,
    List.not_mem_nil, false_implies, implies_true, true_and, and_true]
  rfl

theorem lawful : (messageType rt).Lawful := by
  refine .of_property (Parts rt) (parts_iff rt) (mergeFrom_default rt) rfl
    forall_mem_none ?_
  simp only [messageType, List.forall_mem_cons]
  exact
    ⟨Field.optional_stable (fun _ _ _ h => h) fun _ _ _ _ => trivial,
     Field.optional_stable (fun _ _ ha h => forall_mem_some ha)
      fun _ h => h,
     List.forall_mem_nil _⟩

def codec : Codec rt Relation := .message (messageType rt) (lawful rt)

end Relation

/-! ## `LookupRequest` -/

structure LookupRequest where
  ids : List Bytes := []
  unknown : List Bytes := []
  deriving DecidableEq

namespace LookupRequest

instance : Inhabited LookupRequest := ⟨{}⟩

instance : UnknownFields LookupRequest :=
  ⟨(·.unknown), fun us m => { m with unknown := us }, fun _ _ => rfl, fun _ => rfl,
    fun _ _ _ => rfl⟩

def idsField : RepeatedMember LookupRequest Bytes :=
  ⟨(·.ids), fun as m => { m with ids := as }, fun _ _ => rfl, fun _ => rfl,
    fun _ _ _ => rfl, fun _ _ => rfl, fun _ _ _ => rfl⟩

variable (rt : Runtime)

def messageType : MessageType rt LookupRequest where
  fields :=
    [.repeatedField 10 1 (.string rt) idsField (by decide)]
  nodup := by simp [Field.repeatedField]

theorem mergeFrom_default (s : LookupRequest) :
    (messageType rt).mergeFrom s default = s := by
  cases s
  rw [MessageType.mergeFrom_eq, messageType, foldl_merge_repeated]
  all_goals exact rfl

theorem sound_fields (m : LookupRequest) : ∀ f ∈ (messageType rt).fields, f.Sound m := by
  simp [messageType]

theorem lawful : (messageType rt).Lawful :=
  .of_sound (sound_fields rt) (mergeFrom_default rt) rfl

def codec : Codec rt LookupRequest := .message (messageType rt) (lawful rt)

end LookupRequest

/-! ## `FuzzyFindRequest` -/

structure FuzzyFindRequest where
  query : Option Bytes := none
  scopes : List Bytes := []
  anyScope : Option Bool := none
  limit : Option UInt32 := none
  restrictedForCodeCompletion : Option Bool := none
  proximityPaths : List Bytes := []
  preferredTypes : List Bytes := []
  unknown : List Bytes := []
  deriving DecidableEq

namespace FuzzyFindRequest

instance : Inhabited FuzzyFindRequest := ⟨{}⟩

instance : UnknownFields FuzzyFindRequest :=
  ⟨(·.unknown), fun us m => { m with unknown := us }, fun _ _ => rfl, fun _ => rfl,
    fun _ _ _ => rfl⟩

def queryField : OptionalMember FuzzyFindRequest Bytes :=
  ⟨⟨(·.query), fun a m => { m with query := a }, fun _ _ => rfl, rfl⟩,
    fun _ => rfl, fun _ _ => rfl, fun _ _ _ => rfl⟩

def scopesField : RepeatedMember FuzzyFindRequest Bytes :=
  ⟨(·.scopes), fun as m => { m with scopes := as }, fun _ _ => rfl, fun _ => rfl,
    fun _ _ _ => rfl, fun _ _ => rfl, fun _ _ _ => rfl⟩

def anyScopeField : OptionalMember FuzzyFindRequest Bool :=
  ⟨⟨(·.anyScope), fun a m => { m with anyScope := a }, fun _ _ => rfl, rfl⟩,
    fun _ => rfl, fun _ _ => rfl, fun _ _ _ => rfl⟩

def limitField : OptionalMember FuzzyFindRequest UInt32 :=
  ⟨⟨(·.limit), fun a m => { m with limit := a }, fun _ _ => rfl, rfl⟩,
    fun _ => rfl, fun _ _ => rfl, fun _ _ _ => rfl⟩

def restrictedForCodeCompletionField : OptionalMember FuzzyFindRequest Bool :=
  ⟨⟨(·.restrictedForCodeCompletion), fun a m => { m with restrictedForCodeCompletion := a },
   fun _ _ => rfl, rfl⟩,
    fun _ => rfl, fun _ _ => rfl, fun _ _ _ => rfl⟩

def proximityPathsField : RepeatedMember FuzzyFindRequest Bytes :=
  ⟨(·.proximityPaths), fun as m => { m with proximityPaths := as }, fun _ _ => rfl, fun _ => rfl,
    fun _ _ _ => rfl, fun _ _ => rfl, fun _ _ _ => rfl⟩

def preferredTypesField : RepeatedMember FuzzyFindRequest Bytes :=
  ⟨(·.preferredTypes), fun as m => { m with preferredTypes := as }, fun _ _ => rfl, fun _ => rfl,
    fun _ _ _ => rfl, fun _ _ => rfl, fun _ _ _ => rfl⟩

variable (rt : Runtime)

def messageType : MessageType rt FuzzyFindRequest where
  fields :=
    [.optional 10 1 (.string rt) queryField (by decide),
     .repeatedField 18 1 (.string rt) scopesField (by decide),
     .optional 24 1 (.bool rt) anyScopeField (by decide),
     .optional 32 1 (.uint32 rt) limitField (by decide),
     .optional 40 1 (.bool rt) restrictedForCodeCompletionField (by decide),
     .repeatedField 50 1 (.string rt) proximityPathsField (by decide),
     .repeatedField 58 1 (.string rt) preferredTypesField (by decide)]
  nodup := by simp [Field.optional, Field.repeatedField]

theorem mergeFrom_default (s : FuzzyFindRequest) :
    (messageType rt).mergeFrom s default = s := by
  cases s
  rw [MessageType.mergeFrom_eq, messageType, foldl_merge_optional, foldl_merge_repeated,
    foldl_merge_optional, foldl_merge_optional, foldl_merge_optional, foldl_merge_repeated,
    foldl_merge_repeated]
  all_goals exact rfl

theorem sound_fields (m : FuzzyFindRequest) : ∀ f ∈ (messageType rt).fields, f.Sound m := by
  simp [messageType]

theorem lawful : (messageType rt).Lawful :=
  .of_sound (sound_fields rt) (mergeFrom_default rt) rfl

def codec : Codec rt FuzzyFindRequest := .message (messageType rt) (lawful rt)

end FuzzyFindRequest

/-! ## `RefsRequest` -/

structure RefsRequest where
  ids : List Bytes := []
  filter : Option UInt32 := none
  limit : Option UInt32 := none
  unknown : List Bytes := []
  deriving DecidableEq

namespace RefsRequest

instance : Inhabited RefsRequest := ⟨{}⟩

instance : UnknownFields RefsRequest :=
  ⟨(·.unknown), fun us m => { m with unknown := us }, fun _ _ => rfl, fun _ => rfl,
    fun _ _ _ => rfl⟩

def idsField : RepeatedMember RefsRequest Bytes :=
  ⟨(·.ids), fun as m => { m with ids := as }, fun _ _ => rfl, fun _ => rfl,
    fun _ _ _ => rfl, fun _ _ => rfl, fun _ _ _ => rfl⟩

def filterField : OptionalMember RefsRequest UInt32 :=
  ⟨⟨(·.filter), fun a m => { m with filter := a }, fun _ _ => rfl, rfl⟩,
    fun _ => rfl, fun _ _ => rfl, fun _ _ _ => rfl⟩

def limitField : OptionalMember RefsRequest UInt32 :=
  ⟨⟨(·.limit), fun a m => { m with limit := a }, fun _ _ => rfl, rfl⟩,
    fun _ => rfl, fun _ _ => rfl, fun _ _ _ => rfl⟩

variable (rt : Runtime)

def messageType : MessageType rt RefsRequest where
  fields :=
    [.repeatedField 10 1 (.string rt) idsField (by decide),
     .optional 16 1 (.uint32 rt) filterField (by decide),
     .optional 24 1 (.uint32 rt) limitField (by decide)]
  nodup := by simp [Field.optional, Field.repeatedField]

theorem mergeFrom_default (s : RefsRequest) :
    (messageType rt).mergeFrom s default = s := by
  cases s
  rw [MessageType.mergeFrom_eq, messageType, foldl_merge_repeated, foldl_merge_optional,
    foldl_merge_optional]
  all_goals exact rfl

theorem sound_fields (m : RefsRequest) : ∀ f ∈ (messageType rt).fields, f.Sound m := by
  simp [messageType]

theorem lawful : (messageType rt).Lawful :=
  .of_sound (sound_fields rt) (mergeFrom_default rt) rfl

def codec : Codec rt RefsRequest := .message (messageType rt) (lawful rt)

end RefsRequest

/-! ## `RelationsRequest` -/

structure RelationsRequest where
  subjects : List Bytes := []
  predicate : Option UInt32 := none
  limit : Option UInt32 := none
  unknown : List Bytes := []
  deriving DecidableEq

namespace RelationsRequest

instance : Inhabited RelationsRequest := ⟨{}⟩

instance : UnknownFields RelationsRequest :=
  ⟨(·.unknown), fun us m => { m with unknown := us }, fun _ _ => rfl, fun _ => rfl,
    fun _ _ _ => rfl⟩

def subjectsField : RepeatedMember RelationsRequest Bytes :=
  ⟨(·.subjects), fun as m => { m with subjects := as }, fun _ _ => rfl, fun _ => rfl,
    fun _ _ _ => rfl, fun _ _ => rfl, fun _ _ _ => rfl⟩

def predicateField : OptionalMember RelationsRequest UInt32 :=
  ⟨⟨(·.predicate), fun a m => { m with predicate := a }, fun _ _ => rfl, rfl⟩,
    fun _ => rfl, fun _ _ => rfl, fun _ _ _ => rfl⟩

def limitField : OptionalMember RelationsRequest UInt32 :=
  ⟨⟨(·.limit), fun a m => { m with limit := a }, fun _ _ => rfl, rfl⟩,
    fun _ => rfl, fun _ _ => rfl, fun _ _ _ => rfl⟩

variable (rt : Runtime)

def messageType : MessageType rt RelationsRequest where
  fields :=
    [.repeatedField 10 1 (.string rt) subjectsField (by decide),
     .optional 16 1 (.uint32 rt) predicateField (by decide),
     .optional 24 1 (.uint32 rt) limitField (by decide)]
  nodup := by simp [Field.optional, Field.repeatedField]

theorem mergeFrom_default (s : RelationsRequest) :
    (messageType rt).mergeFrom s default = s := by
  cases s
  rw [MessageType.mergeFrom_eq, messageType, foldl_merge_repeated, foldl_merge_optional,
    foldl_merge_optional]
  all_goals exact rfl

theorem sound_fields (m : RelationsRequest) : ∀ f ∈ (messageType rt).fields, f.Sound m := by
  simp [messageType]

theorem lawful : (messageType rt).Lawful :=
  .of_sound (sound_fields rt) (mergeFrom_default rt) rfl

def codec : Codec rt RelationsRequest := .message (messageType rt) (lawful rt)

end RelationsRequest

/-! ## Replies -/

/-- `oneof kind` of a reply with results `M`. -/
inductive StreamKind (M : Type)
  | notSet
  | streamResult (result : M)
  | finalResult (final : FinalResult)
  deriving DecidableEq

/-- `LookupReply`, `FuzzyFindReply`, `RefsReply`, `RelationsReply`: a message of a stream of
results `M`. -/
structure StreamReply (M : Type) where
  kind : StreamKind M := .notSet
  unknown : List Bytes := []
  deriving DecidableEq

namespace StreamReply

variable {M : Type}

instance : Inhabited (StreamReply M) := ⟨{}⟩

instance : UnknownFields (StreamReply M) :=
  ⟨(·.unknown), fun us m => { m with unknown := us }, fun _ _ => rfl, fun _ => rfl,
    fun _ _ _ => rfl⟩

/-- `stream_result`. Making it present clears the other kind. -/
def streamResultField : OptionalMember (StreamReply M) M where
  get m :=
    match m.kind with
    | .streamResult r => some r
    | _ => none
  put a m :=
    match a, m.kind with
    | some r, _ => { m with kind := .streamResult r }
    | none, .streamResult _ => { m with kind := .notSet }
    | none, _ => m
  get_put a m := by
    rcases m with ⟨_ | r | f, us⟩ <;> cases a <;> rfl
  get_default := rfl
  put_get m := by
    rcases m with ⟨_ | r | f, us⟩ <;> rfl
  get_set _ _ := rfl
  put_set a us m := by
    rcases m with ⟨_ | r | f, vs⟩ <;> cases a <;> rfl

/-- `final_result`. Making it present clears the other kind. -/
def finalResultField : OptionalMember (StreamReply M) FinalResult where
  get m :=
    match m.kind with
    | .finalResult f => some f
    | _ => none
  put a m :=
    match a, m.kind with
    | some f, _ => { m with kind := .finalResult f }
    | none, .finalResult _ => { m with kind := .notSet }
    | none, _ => m
  get_put a m := by
    rcases m with ⟨_ | r | f, us⟩ <;> cases a <;> rfl
  get_default := rfl
  put_get m := by
    rcases m with ⟨_ | r | f, us⟩ <;> rfl
  get_set _ _ := rfl
  put_set a us m := by
    rcases m with ⟨_ | r | f, vs⟩ <;> cases a <;> rfl

variable {rt : Runtime} (result : Codec rt M)

/-- The table of a reply whose results are written by `result`. -/
def messageType : MessageType rt (StreamReply M) where
  fields :=
    [.optional 10 1 result streamResultField (by decide),
     .optional 18 1 (FinalResult.codec rt) finalResultField (by decide)]
  nodup := by simp [Field.optional]

theorem mergeFrom_default (s : StreamReply M) :
    (messageType result).mergeFrom s default = s := by
  rw [MessageType.mergeFrom_eq, messageType, foldl_merge_optional, foldl_merge_optional]
  · rcases s with ⟨_ | r | f, us⟩ <;> rfl
  · rcases s with ⟨_ | r | f, us⟩ <;> rfl
  · rfl

/-- The message in a reply is sound. -/
def Parts (m : StreamReply M) : Prop :=
  (∀ a ∈ streamResultField.get m, result.Sound a) ∧
    ∀ a ∈ finalResultField.get m, (FinalResult.codec rt).Sound a

theorem parts_iff (m : StreamReply M) :
    (∀ f ∈ (messageType result).fields, f.Sound m) ↔ Parts result m := by
  simp only [messageType, List.forall_mem_cons, Field.sound_optional, List.not_mem_nil,
    false_implies, implies_true, and_true]
  rfl

theorem lawful : (messageType result).Lawful := by
  refine .of_property (Parts result) (parts_iff result) (mergeFrom_default result) rfl
    ⟨forall_mem_none, forall_mem_none⟩ ?_
  simp only [messageType, List.forall_mem_cons]
  exact
    ⟨Field.optional_stable (fun _ _ ha _ => ⟨forall_mem_some ha, forall_mem_none⟩)
      fun _ h => h.1,
     Field.optional_stable (fun _ _ ha _ => ⟨forall_mem_none, forall_mem_some ha⟩)
      fun _ h => h.2,
     List.forall_mem_nil _⟩

end StreamReply

abbrev LookupReply := StreamReply Symbol

abbrev FuzzyFindReply := StreamReply Symbol

abbrev RefsReply := StreamReply Ref

abbrev RelationsReply := StreamReply Relation

end ClangQL.Wire
