import ClangQL.Library.Base128
import ClangQL.Remote.Wire

/-!
# Round trips of the messages

What `_InternalSerialize` writes and `_InternalParse` reads, for every message type of the service
and any way the input is buffered.

## Main definitions

* `Descriptor`: a type of messages with its table
* `Schema`, `Schema.descriptor`: the message types of `Index.proto`

## Main results

* `Schema.byteSizeLong_eq_length`: `ByteSizeLong` is the number of bytes written
* `Schema.parse_buffers`: what is read does not depend on the buffers
* `Schema.parse_serialize`: a message is read back from its bytes
* `Schema.parse_concat`: messages written one after the other are merged
* `Schema.parse_rewritten`: whatever is read is written so that it is read back
* `Schema.parse_later`: a field of a later version does not change the others
-/

namespace ClangQL.Wire

open WireFormat

/-! ## The schema -/

/-- A type of messages with its table. -/
structure Descriptor (rt : Runtime) where
  Message : Type
  [inhabited : Inhabited Message]
  [unknownFields : UnknownFields Message]
  table : MessageType rt Message
  lawful : table.Lawful

attribute [instance] Descriptor.inhabited Descriptor.unknownFields

/-- The message types of `Index.proto`. -/
inductive Schema
  | finalResult
  | lookupRequest
  | lookupReply
  | fuzzyFindRequest
  | fuzzyFindReply
  | refsRequest
  | refsReply
  | symbol
  | ref
  | symbolInfo
  | symbolLocation
  | position
  | headerWithReferences
  | relationsRequest
  | relationsReply
  | relation

namespace Schema

/-- The table of a message type. -/
def descriptor (rt : Runtime) : Schema → Descriptor rt
  | finalResult => ⟨FinalResult, FinalResult.messageType rt, FinalResult.lawful rt⟩
  | lookupRequest => ⟨LookupRequest, LookupRequest.messageType rt, LookupRequest.lawful rt⟩
  | lookupReply => ⟨LookupReply, StreamReply.messageType (Symbol.codec rt), StreamReply.lawful _⟩
  | fuzzyFindRequest =>
    ⟨FuzzyFindRequest, FuzzyFindRequest.messageType rt, FuzzyFindRequest.lawful rt⟩
  | fuzzyFindReply =>
    ⟨FuzzyFindReply, StreamReply.messageType (Symbol.codec rt), StreamReply.lawful _⟩
  | refsRequest => ⟨RefsRequest, RefsRequest.messageType rt, RefsRequest.lawful rt⟩
  | refsReply => ⟨RefsReply, StreamReply.messageType (Ref.codec rt), StreamReply.lawful _⟩
  | symbol => ⟨Symbol, Symbol.messageType rt, Symbol.lawful rt⟩
  | ref => ⟨Ref, Ref.messageType rt, Ref.lawful rt⟩
  | symbolInfo => ⟨SymbolInfo, SymbolInfo.messageType rt, SymbolInfo.lawful rt⟩
  | symbolLocation => ⟨SymbolLocation, SymbolLocation.messageType rt, SymbolLocation.lawful rt⟩
  | position => ⟨Position, Position.messageType rt, Position.lawful rt⟩
  | headerWithReferences =>
    ⟨HeaderWithReferences, HeaderWithReferences.messageType rt, HeaderWithReferences.lawful rt⟩
  | relationsRequest =>
    ⟨RelationsRequest, RelationsRequest.messageType rt, RelationsRequest.lawful rt⟩
  | relationsReply =>
    ⟨RelationsReply, StreamReply.messageType (Relation.codec rt), StreamReply.lawful _⟩
  | relation => ⟨Relation, Relation.messageType rt, Relation.lawful rt⟩

variable {rt : Runtime} (T : Schema)

/-- A reply with one symbol. Both keep a field that their table does not have. -/
def sampleReply : LookupReply where
  kind := .streamResult
    { id := some [65], name := some [102], flags := some 5, unknown := [[250, 1, 0]] }
  unknown := [[40, 9]]

/-- The reply in another encoding: the symbol in two parts, with a field between them, its fields
out of order, and a size in two bytes. -/
def sampleInput : Bytes :=
  [10, 7, 128, 1, 5, 10, 129, 0, 65, 40, 9, 10, 6, 250, 1, 0, 26, 1, 102]

theorem parse_sampleInput :
    (lookupReply.descriptor .base128).table.parse .unbuffered sampleInput = some sampleReply := rfl

theorem sampleReply_sound : (lookupReply.descriptor .base128).table.Sound sampleReply :=
  (lookupReply.descriptor .base128).lawful.sound_of_parse parse_sampleInput

/-! ## Writing and reading -/

/-- **`ByteSizeLong` is the number of bytes** that `_InternalSerialize` writes. -/
theorem byteSizeLong_eq_length (m : (T.descriptor rt).Message) :
    (T.descriptor rt).table.byteSizeLong m =
      ((T.descriptor rt).table.internalSerialize m).length :=
  MessageType.byteSizeLong_eq _ m

/-- **What is read does not depend on the buffers** in which the input arrives. -/
theorem parse_buffers (ctx ctx' : ParseContext) (bytes : Bytes) :
    (T.descriptor rt).table.parse ctx bytes = (T.descriptor rt).table.parse ctx' bytes := by
  rw [MessageType.parse_context ctx, MessageType.parse_context ctx']

/-- **A message is read back from its bytes.** -/
theorem parse_serialize {m : (T.descriptor rt).Message} (hm : (T.descriptor rt).table.Sound m)
    (hsize : (T.descriptor rt).table.byteSizeLong m ≤ rt.maxSize) (ctx : ParseContext) :
    (T.descriptor rt).table.parse ctx ((T.descriptor rt).table.internalSerialize m) = some m :=
  (T.descriptor rt).lawful.parse_internalSerialize hm hsize ctx

theorem parse_serialize_sample : (lookupReply.descriptor .base128).table.parse
      ⟨fun n => n % 2 == 0, 0⟩
      ((lookupReply.descriptor .base128).table.internalSerialize sampleReply) = some sampleReply :=
  parse_serialize .lookupReply sampleReply_sound (by decide) _

/-- **Messages written one after the other are merged**, in order, into an empty one. -/
theorem parse_concat {ms : List (T.descriptor rt).Message}
    (hms : ∀ m ∈ ms, (T.descriptor rt).table.Sound m)
    (hsize : ∀ m ∈ ms, (T.descriptor rt).table.byteSizeLong m ≤ rt.maxSize)
    (ctx : ParseContext) :
    (T.descriptor rt).table.parse ctx (ms.flatMap (T.descriptor rt).table.internalSerialize) =
      some (ms.foldl (fun into m => (T.descriptor rt).table.mergeFrom m into) default) :=
  MessageType.parse_flatMap hms hsize ctx

theorem parse_concat_sample :
    (lookupReply.descriptor .base128).table.parse .unbuffered
        ([sampleReply, sampleReply].flatMap
          (lookupReply.descriptor .base128).table.internalSerialize) =
      some ([sampleReply, sampleReply].foldl
        (fun into m => (lookupReply.descriptor .base128).table.mergeFrom m into) default) :=
  parse_concat .lookupReply
    (List.forall_mem_cons.mpr ⟨sampleReply_sound, List.forall_mem_singleton.mpr sampleReply_sound⟩)
    (List.forall_mem_cons.mpr ⟨by decide, List.forall_mem_singleton.mpr (by decide)⟩) _

/-- **Whatever is read is written so that it is read back**, however it was encoded. -/
theorem parse_rewritten {ctx : ParseContext} {bytes : Bytes} {m : (T.descriptor rt).Message}
    (h : (T.descriptor rt).table.parse ctx bytes = some m)
    (hsize : (T.descriptor rt).table.byteSizeLong m ≤ rt.maxSize) (ctx' : ParseContext) :
    (T.descriptor rt).table.parse ctx' ((T.descriptor rt).table.internalSerialize m) = some m :=
  (T.descriptor rt).lawful.parse_internalSerialize ((T.descriptor rt).lawful.sound_of_parse h) hsize
    ctx'

theorem parse_rewritten_sample : (lookupReply.descriptor .base128).table.parse
      ⟨fun _ => true, 0⟩
      ((lookupReply.descriptor .base128).table.internalSerialize sampleReply) = some sampleReply :=
  parse_rewritten .lookupReply parse_sampleInput (by decide) _

/-- **A field of a later version does not change the others.** Between two parts of an input, of
which the first is accepted, a field that the table does not have only adds to the unknown fields;
also when it makes the input unreadable, it did so before. -/
theorem parse_later {ctx : ParseContext} {before u w after : Bytes}
    {m : (T.descriptor rt).Message} (hbefore : (T.descriptor rt).table.parse ctx before = some m)
    (hu : (T.descriptor rt).table.IsUnknown u w) :
    ((T.descriptor rt).table.parse ctx (before ++ (u ++ after))).map known =
      ((T.descriptor rt).table.parse ctx (before ++ after)).map known :=
  MessageType.parse_unknown hbefore hu

theorem parse_later_position :
    ((position.descriptor .base128).table.parse .unbuffered
          ([8, 172, 2] ++ ([120, 9] ++ [16, 5]))).map known =
      ((position.descriptor .base128).table.parse .unbuffered ([8, 172, 2] ++ [16, 5])).map known :=
  parse_later .position (m := { line := some 300 }) rfl
    (show (Position.messageType .base128).IsUnknown [120, 9] [120, 9] from
      ⟨120, [9], rfl, rfl, by decide, rfl⟩)

end Schema

end ClangQL.Wire
