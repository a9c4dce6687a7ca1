import ClangQL.Library.OptionalField
import ClangQL.Remote.Message

/-!
# Fields of the messages

The optional fields of `Symbol` and `Ref`, of their locations, positions and symbol infos, as
they are read by `has_f()` and `f()` and written by `set_f()`, `mutable_f()` and `clear_f()`.

## Main definitions

* `Position.lineField`, …: the fields of each message

## Main results

* `Symbol.definition_canonicalDeclaration`, …: the fields of a message are independent
-/

namespace ClangQL

instance : Inhabited Position := ⟨{}⟩
instance : Inhabited SymbolLocation := ⟨{}⟩
instance : Inhabited SymbolInfo := ⟨{}⟩

/-! ## The fields -/

namespace Position

def lineField : OptionalField Position UInt32 :=
  ⟨(·.line), fun a m => { m with line := a }, fun _ _ => rfl, rfl⟩

def columnField : OptionalField Position UInt32 :=
  ⟨(·.column), fun a m => { m with column := a }, fun _ _ => rfl, rfl⟩

end Position

namespace SymbolLocation

def startField : OptionalField SymbolLocation Position :=
  ⟨(·.start), fun a m => { m with start := a }, fun _ _ => rfl, rfl⟩

def endField : OptionalField SymbolLocation Position :=
  ⟨(·.end), fun a m => { m with «end» := a }, fun _ _ => rfl, rfl⟩

def filePathField : OptionalField SymbolLocation Str :=
  ⟨(·.filePath), fun a m => { m with filePath := a }, fun _ _ => rfl, rfl⟩

end SymbolLocation

namespace SymbolInfo

def kindField : OptionalField SymbolInfo UInt32 :=
  ⟨(·.kind), fun a m => { m with kind := a }, fun _ _ => rfl, rfl⟩

def subkindField : OptionalField SymbolInfo UInt32 :=
  ⟨(·.subkind), fun a m => { m with subkind := a }, fun _ _ => rfl, rfl⟩

def languageField : OptionalField SymbolInfo UInt32 :=
  ⟨(·.language), fun a m => { m with language := a }, fun _ _ => rfl, rfl⟩

end SymbolInfo

namespace Symbol

def idField : OptionalField Symbol Str :=
  ⟨(·.id), fun a m => { m with id := a }, fun _ _ => rfl, rfl⟩

def nameField : OptionalField Symbol Str :=
  ⟨(·.name), fun a m => { m with name := a }, fun _ _ => rfl, rfl⟩

def scopeField : OptionalField Symbol Str :=
  ⟨(·.scope), fun a m => { m with scope := a }, fun _ _ => rfl, rfl⟩

def signatureField : OptionalField Symbol Str :=
  ⟨(·.signature), fun a m => { m with signature := a }, fun _ _ => rfl, rfl⟩

def documentationField : OptionalField Symbol Str :=
  ⟨(·.documentation), fun a m => { m with documentation := a }, fun _ _ => rfl, rfl⟩

def returnTypeField : OptionalField Symbol Str :=
  ⟨(·.returnType), fun a m => { m with returnType := a }, fun _ _ => rfl, rfl⟩

def typeField : OptionalField Symbol Str :=
  ⟨(·.type), fun a m => { m with type := a }, fun _ _ => rfl, rfl⟩

def definitionField : OptionalField Symbol SymbolLocation :=
  ⟨(·.definition), fun a m => { m with definition := a }, fun _ _ => rfl, rfl⟩

def canonicalDeclarationField : OptionalField Symbol SymbolLocation :=
  ⟨(·.canonicalDeclaration), fun a m => { m with canonicalDeclaration := a }, fun _ _ => rfl, rfl⟩

def infoField : OptionalField Symbol SymbolInfo :=
  ⟨(·.info), fun a m => { m with info := a }, fun _ _ => rfl, rfl⟩

end Symbol

namespace Ref

def locationField : OptionalField Ref SymbolLocation :=
  ⟨(·.location), fun a m => { m with location := a }, fun _ _ => rfl, rfl⟩

def kindField : OptionalField Ref UInt32 :=
  ⟨(·.kind), fun a m => { m with kind := a }, fun _ _ => rfl, rfl⟩

end Ref

/-! ## Independence -/

open OptionalField (Independent)

theorem SymbolLocation.start_end : Independent startField endField :=
  ⟨fun _ _ => rfl, fun _ _ => rfl⟩

theorem SymbolLocation.filePath_start : Independent filePathField startField :=
  ⟨fun _ _ => rfl, fun _ _ => rfl⟩

theorem SymbolLocation.filePath_end : Independent filePathField endField :=
  ⟨fun _ _ => rfl, fun _ _ => rfl⟩

theorem Position.line_column : Independent lineField columnField :=
  ⟨fun _ _ => rfl, fun _ _ => rfl⟩

theorem Symbol.definition_canonicalDeclaration :
    Independent definitionField canonicalDeclarationField :=
  ⟨fun _ _ => rfl, fun _ _ => rfl⟩

theorem Symbol.definition_info : Independent definitionField infoField :=
  ⟨fun _ _ => rfl, fun _ _ => rfl⟩

theorem Symbol.canonicalDeclaration_info : Independent canonicalDeclarationField infoField :=
  ⟨fun _ _ => rfl, fun _ _ => rfl⟩

theorem Ref.location_kind : Independent locationField kindField :=
  ⟨fun _ _ => rfl, fun _ _ => rfl⟩

end ClangQL
