import ClangQL.Refs.Cursor
import ClangQL.Remote.Field
import ClangQL.Symbols.Cursor

/-!
# The wiring of the columns

A column of the symbols or of the refs table has the name of a field of the message, found
through the messages around it, and shows that field: a text up to its first NUL, a number as a
signed `int`, and NULL when the field or a message on the path to it is absent. The four kind
columns of the refs table show the bits of one field.

## Main definitions

* `WireField σ`: a text or a number in a message, with how a column shows it
* `symbolFields`, `refFields`: the fields of a message by the names of their columns
* `Wired`: the columns of a schema show the fields they are named after
* `SymbolsCursor.reading`, `RefsCursor.reading`: the cursors that have read a message

## Main results

* `wired_of_apart`: columns that show independent fields are wired
* `columns_wired`: the columns of the two tables are wired
-/

namespace ClangQL

open OptionalField (Independent)

/-! ## Fields on the wire -/

/-- A text or a number of a message. -/
inductive WireField (σ : Type) [Inhabited σ]
  | text (f : OptionalField σ Str)
  | int (f : OptionalField σ UInt32)

namespace WireField

variable {σ τ : Type} [Inhabited σ] [Inhabited τ]

/-- The declared affinity of a column that shows the field. -/
def affinity : WireField σ → Affinity
  | text _ => .text
  | int _ => .integer

/-- The field as a column shows it. -/
def shown : WireField σ → σ → Value
  | text f, m => ((f.get m).map resultText).getD .null
  | int f, m => ((f.get m).map fun n => resultInt n.toInt32).getD .null

/-- The field, or a message on the path to it, is absent. -/
def Absent : WireField σ → σ → Prop
  | text f, m => f.get m = none
  | int f, m => f.get m = none

/-- `m'` is `m` with the field set or cleared. -/
def Changes : WireField σ → σ → σ → Prop
  | text f, m, m' => ∃ a, m' = f.put a m
  | int f, m, m' => ∃ a, m' = f.put a m

/-- The field of a message that is itself the field `f`. -/
def within (f : OptionalField σ τ) : WireField τ → WireField σ
  | text g => text (f.comp g)
  | int g => int (f.comp g)

/-- Two fields are independent. -/
def Apart : WireField σ → WireField σ → Prop
  | text f, text g => Independent f g
  | text f, int g => Independent f g
  | int f, text g => Independent f g
  | int f, int g => Independent f g

/-- A field is independent of the message `f`. -/
def Beside (f : OptionalField σ τ) : WireField σ → Prop
  | text g => Independent g f
  | int g => Independent g f

theorem shown_text (f : OptionalField σ Str) (m : σ) :
    (text f).shown m = ((f.get m).map resultText).getD .null := rfl

theorem shown_int (f : OptionalField σ UInt32) (m : σ) :
    (int f).shown m = ((f.get m).map fun n => resultInt n.toInt32).getD .null := rfl

/-- **NULL is shown** exactly for an absent field. -/
theorem shown_eq_null_iff {f : WireField σ} {m : σ} : f.shown m = .null ↔ f.Absent m := by
  cases f with
  | text f =>
    show _ ↔ f.get m = none
    rw [shown_text]
    cases f.get m <;> simp [resultText]
  | int f =>
    show _ ↔ f.get m = none
    rw [shown_int]
    cases f.get m <;> simp [resultInt]

theorem Apart.symm {f g : WireField σ} (h : Apart f g) : Apart g f := by
  cases f <;> cases g <;> exact Independent.symm h

/-- Changing a field leaves what an independent one shows. -/
theorem Apart.shown_eq {f g : WireField σ} (h : Apart f g) {m m' : σ} (hm : f.Changes m m') :
    g.shown m' = g.shown m := by
  cases f <;> cases g <;> obtain ⟨a, rfl⟩ := hm
  · rw [shown_text, shown_text, Independent.left h]
  · rw [shown_int, shown_int, Independent.left h]
  · rw [shown_text, shown_text, Independent.left h]
  · rw [shown_int, shown_int, Independent.left h]

theorem Apart.within {f g : WireField τ} (h : Apart f g) (k : OptionalField σ τ) :
    Apart (f.within k) (g.within k) := by
  cases f <;> cases g <;> exact Independent.within h k

theorem Beside.within {f : OptionalField σ τ} {g : WireField σ} (h : Beside f g)
    (k : WireField τ) : Apart g (k.within f) := by
  cases g <;> cases k <;> exact (Independent.comp_left (Independent.symm h) _).symm

theorem apart_within {υ : Type} [Inhabited υ] {f : OptionalField σ τ} {g : OptionalField σ υ}
    (h : Independent f g) (f' : WireField τ) (g' : WireField υ) :
    Apart (f'.within f) (g'.within g) := by
  cases f' <;> cases g' <;> exact h.comp _ _

end WireField

/-! ## The fields of the columns -/

/-- The fields of a message that is the field `f`, each under its name after `name`. -/
def prefixed {σ τ : Type} [Inhabited σ] [Inhabited τ] (name : String) (f : OptionalField σ τ)
    (fields : List (String × WireField τ)) : List (String × WireField σ) :=
  fields.map fun g => (name ++ g.1, g.2.within f)

/-- The fields of a location. -/
def locationFields : List (String × WireField SymbolLocation) :=
  [("Path", .text SymbolLocation.filePathField),
    ("StartLine", .int (SymbolLocation.startField.comp Position.lineField)),
    ("StartCol", .int (SymbolLocation.startField.comp Position.columnField)),
    ("EndLine", .int (SymbolLocation.endField.comp Position.lineField)),
    ("EndCol", .int (SymbolLocation.endField.comp Position.columnField))]

/-- The fields of a symbol info that have a column of their own. -/
def infoFields : List (String × WireField SymbolInfo) :=
  [("Kind", .int SymbolInfo.kindField), ("SubKind", .int SymbolInfo.subkindField),
    ("Language", .int SymbolInfo.languageField)]

/-- The texts of a symbol outside its locations. -/
def textFields : List (String × WireField Symbol) :=
  [("Id", .text Symbol.idField), ("Name", .text Symbol.nameField),
    ("Scope", .text Symbol.scopeField), ("Signature", .text Symbol.signatureField),
    ("Documentation", .text Symbol.documentationField),
    ("ReturnType", .text Symbol.returnTypeField), ("Type", .text Symbol.typeField)]

/-- The fields that the columns of the symbols table are named after. -/
def symbolFields : List (String × WireField Symbol) :=
  textFields ++ prefixed "Def" Symbol.definitionField locationFields ++
    prefixed "Decl" Symbol.canonicalDeclarationField locationFields ++
      prefixed "" Symbol.infoField infoFields

/-- The fields that the columns of the refs table after the kinds are named after. -/
def refFields : List (String × WireField Ref) := prefixed "" Ref.locationField locationFields

/-! ## Independence of the fields -/

/-- Any two of the fields are independent. -/
abbrev AllApart {σ : Type} [Inhabited σ] (fields : List (String × WireField σ)) : Prop :=
  fields.Pairwise fun f g => f.2.Apart g.2

section Fields

variable {σ τ : Type} [Inhabited σ] [Inhabited τ]

theorem prefixed_apart {fields : List (String × WireField τ)} (h : AllApart fields)
    (name : String) (f : OptionalField σ τ) : AllApart (prefixed name f fields) :=
  List.pairwise_map.mpr (h.imp fun hfg => hfg.within f)

theorem mem_prefixed {name : String} {f : OptionalField σ τ}
    {fields : List (String × WireField τ)} {g : String × WireField σ}
    (h : g ∈ prefixed name f fields) : ∃ k : WireField τ, g.2 = k.within f := by
  obtain ⟨k, -, rfl⟩ := List.mem_map.mp h
  exact ⟨k.2, rfl⟩

end Fields

theorem locationFields_apart : AllApart locationFields := by
  simp only [AllApart, locationFields, List.pairwise_cons, List.forall_mem_cons, List.not_mem_nil,
    false_implies, implies_true, List.Pairwise.nil, and_true]
  have hpath : ∀ f : OptionalField Position UInt32,
      Independent SymbolLocation.filePathField (SymbolLocation.startField.comp f) ∧
        Independent SymbolLocation.filePathField (SymbolLocation.endField.comp f) := fun f =>
    ⟨(SymbolLocation.filePath_start.symm.comp_left f).symm,
      (SymbolLocation.filePath_end.symm.comp_left f).symm⟩
  exact ⟨⟨(hpath _).1, (hpath _).1, (hpath _).2, (hpath _).2⟩,
    ⟨Position.line_column.within _, SymbolLocation.start_end.comp _ _,
      SymbolLocation.start_end.comp _ _⟩,
    ⟨SymbolLocation.start_end.comp _ _, SymbolLocation.start_end.comp _ _⟩,
    Position.line_column.within _⟩

theorem infoFields_apart : AllApart infoFields := by
  simp only [AllApart, infoFields, List.pairwise_cons, List.forall_mem_cons, List.not_mem_nil,
    false_implies, implies_true, List.Pairwise.nil, and_true]
  exact ⟨⟨⟨fun _ _ => rfl, fun _ _ => rfl⟩, ⟨fun _ _ => rfl, fun _ _ => rfl⟩⟩,
    ⟨fun _ _ => rfl, fun _ _ => rfl⟩⟩

theorem textFields_apart : AllApart textFields := by
  simp only [AllApart, textFields, List.pairwise_cons, List.forall_mem_cons, List.not_mem_nil,
    false_implies, implies_true, List.Pairwise.nil, and_true]
  repeat' apply And.intro
  all_goals exact ⟨fun _ _ => rfl, fun _ _ => rfl⟩

/-- The texts of a symbol are independent of its messages. -/
theorem textFields_beside : ∀ f ∈ textFields, f.2.Beside Symbol.definitionField ∧
    f.2.Beside Symbol.canonicalDeclarationField ∧ f.2.Beside Symbol.infoField := by
  simp only [textFields, List.forall_mem_cons, List.not_mem_nil, false_implies, implies_true,
    and_true]
  repeat' apply And.intro
  all_goals exact ⟨fun _ _ => rfl, fun _ _ => rfl⟩

theorem symbolFields_apart : AllApart symbolFields := by
  refine List.pairwise_append.mpr ⟨List.pairwise_append.mpr ⟨List.pairwise_append.mpr
    ⟨textFields_apart, prefixed_apart locationFields_apart _ _, ?_⟩,
      prefixed_apart locationFields_apart _ _, ?_⟩, prefixed_apart infoFields_apart _ _, ?_⟩
  · intro f hf g hg
    obtain ⟨k, hk⟩ := mem_prefixed hg
    exact hk ▸ (textFields_beside f hf).1.within k
  · intro f hf g hg
    obtain ⟨k, hk⟩ := mem_prefixed hg
    rcases List.mem_append.mp hf with hf | hf
    · exact hk ▸ (textFields_beside f hf).2.1.within k
    · obtain ⟨l, hl⟩ := mem_prefixed hf
      exact hk ▸ hl ▸ WireField.apart_within Symbol.definition_canonicalDeclaration l k
  · intro f hf g hg
    obtain ⟨k, hk⟩ := mem_prefixed hg
    rcases List.mem_append.mp hf with hf | hf
    · rcases List.mem_append.mp hf with hf | hf
      · exact hk ▸ (textFields_beside f hf).2.2.within k
      · obtain ⟨l, hl⟩ := mem_prefixed hf
        exact hk ▸ hl ▸ WireField.apart_within Symbol.definition_info l k
    · obtain ⟨l, hl⟩ := mem_prefixed hf
      exact hk ▸ hl ▸ WireField.apart_within Symbol.canonicalDeclaration_info l k

/-! ## Wiring -/

section Wired

variable {σ : Type} [Inhabited σ]

/-- **The columns are wired to their names**: from position `first` on, the schema declares the
fields' names with their affinities, and each column shows the field of its name, NULL exactly
when it is absent; changing one field changes no other of the columns. -/
structure Wired (schema : List (String × Affinity)) (column : σ → Int → Outcome Value)
    (first : ℕ) (fields : List (String × WireField σ)) : Prop where
  declared : ∀ i f, fields[i]? = some f → schema[first + i]? = some (f.1, f.2.affinity)
  shown : ∀ i f, fields[i]? = some f → ∀ m, column m (first + i : ℕ) = .ok (f.2.shown m)
  null : ∀ i f, fields[i]? = some f → ∀ m,
    column m (first + i : ℕ) = .ok .null ↔ f.2.Absent m
  unchanged : ∀ i f, fields[i]? = some f → ∀ m m', f.2.Changes m m' →
    ∀ j < fields.length, j ≠ i → column m' (first + j : ℕ) = column m (first + j : ℕ)

/-- **Columns that show independent fields are wired.** -/
theorem wired_of_apart {schema : List (String × Affinity)} {column : σ → Int → Outcome Value}
    {first : ℕ} {fields : List (String × WireField σ)} (happart : AllApart fields)
    (hdeclared : fields.map (fun f => (f.1, f.2.affinity)) =
      (schema.drop first).take fields.length)
    (hshown : ∀ m, fields.map (fun f => .ok (f.2.shown m)) =
      (List.range fields.length).map fun i => column m (first + i : ℕ)) :
    Wired schema column first fields := by
  have hcolumn : ∀ i f, fields[i]? = some f → ∀ m,
      column m (first + i : ℕ) = .ok (f.2.shown m) := by
    intro i f hf m
    obtain ⟨hi, rfl⟩ := List.getElem?_eq_some_iff.mp hf
    have hentry := congrArg (·[i]?) (hshown m)
    simpa [hi] using hentry.symm
  refine ⟨fun i f hf => ?_, hcolumn, fun i f hf m => ?_, fun i f hf m m' hm j hj hne => ?_⟩
  · obtain ⟨hi, rfl⟩ := List.getElem?_eq_some_iff.mp hf
    have hentry := congrArg (·[i]?) hdeclared
    simpa [hi, List.getElem?_take, List.getElem?_drop] using hentry.symm
  · rw [hcolumn i f hf m, Except.ok.injEq]
    exact WireField.shown_eq_null_iff
  · obtain ⟨hi, rfl⟩ := List.getElem?_eq_some_iff.mp hf
    have hg : fields[j]? = some fields[j] := List.getElem?_eq_getElem hj
    have hfg : fields[i].2.Apart fields[j].2 := by
      rcases lt_or_gt_of_ne hne with hlt | hgt
      · exact (List.pairwise_iff_getElem.mp happart j i hj hi hlt).symm
      · exact List.pairwise_iff_getElem.mp happart i j hi hj hgt
    rw [hcolumn j _ hg m', hcolumn j _ hg m, hfg.shown_eq hm]

end Wired

/-! ## The macros -/

theorem setRes_eq (field : Option Str) : setRes field = (field.map resultText).getD .null := by
  cases field <;> rfl

theorem setRes2_eq {α : Type} (field1 : Option α) (field2 : α → Option Str) :
    setRes2 field1 field2 = ((field1.bind field2).map resultText).getD .null := by
  unfold setRes2
  cases field1.bind field2 <;> rfl

theorem setRes2Int_eq {α : Type} (field1 : Option α) (field2 : α → Option UInt32) :
    setRes2Int field1 field2 =
      ((field1.bind field2).map fun n => resultInt n.toInt32).getD .null := by
  unfold setRes2Int
  cases field1.bind field2 <;> rfl

theorem setRes3_eq {α β : Type} (field1 : Option α) (field2 : α → Option β)
    (field3 : β → Option UInt32) : setRes3 field1 field2 field3 =
      ((field1.bind fun a => (field2 a).bind field3).map fun n => resultInt n.toInt32).getD
        .null := by
  unfold setRes3
  rw [Option.bind_assoc]
  cases field1.bind fun a => (field2 a).bind field3 <;> rfl

/-- The fields of a location as the macros show them. -/
theorem shown_locationFields {σ : Type} [Inhabited σ] (name : String)
    (f : OptionalField σ SymbolLocation) (m : σ) :
    (prefixed name f locationFields).map (fun g => g.2.shown m) =
      [setRes2 (f.get m) (·.filePath), setRes3 (f.get m) (·.start) (·.line),
        setRes3 (f.get m) (·.start) (·.column), setRes3 (f.get m) (·.end) (·.line),
        setRes3 (f.get m) (·.end) (·.column)] := by
  simp only [setRes2_eq, setRes3_eq]
  rfl

theorem shown_infoFields (m : Symbol) :
    (prefixed "" Symbol.infoField infoFields).map (fun g => g.2.shown m) =
      [setRes2Int m.info (·.kind), setRes2Int m.info (·.subkind),
        setRes2Int m.info (·.language)] := by
  simp only [setRes2Int_eq]
  rfl

theorem shown_textFields (m : Symbol) : textFields.map (fun g => g.2.shown m) =
    [setRes m.id, setRes m.name, setRes m.scope, setRes m.signature, setRes m.documentation,
      setRes m.returnType, setRes m.type] := by
  simp only [setRes_eq]
  rfl

theorem shown_symbolFields (m : Symbol) : symbolFields.map (fun g => g.2.shown m) =
    (List.range symbolFields.length).map fun i : ℕ => SymbolsCursor.columnOf m i := by
  rw [symbolFields, List.map_append, List.map_append, List.map_append, shown_textFields,
    shown_locationFields, shown_locationFields, shown_infoFields]
  rfl

theorem shown_refFields (id : Outcome Str) (m : Ref) :
    refFields.map (fun g => .ok (g.2.shown m)) =
      (List.range refFields.length).map fun i => RefsCursor.columnOf id m (5 + i : ℕ) := by
  have hshown := congrArg (List.map fun v => (.ok v : Outcome Value))
    (shown_locationFields "" Ref.locationField m)
  rw [List.map_map] at hshown
  exact hshown

/-! ## The two tables -/

/-- A cursor that has read `m`, with the replies that are still to come. -/
def SymbolsCursor.reading (eof : Bool) (replyReader : List (Reply Symbol)) (m : Symbol) :
    SymbolsCursor :=
  ⟨eof, some ⟨replyReader, .streamResult m⟩⟩

/-- A cursor that has read `m` in answer to `req`, with the replies that are still to come. -/
def RefsCursor.reading (eof : Bool) (req : RefsRequest) (replyReader : List (Reply Ref))
    (m : Ref) : RefsCursor :=
  ⟨eof, some ⟨⟨replyReader, .streamResult m⟩, req⟩⟩

/-- The kind columns of the refs table, with the bits they show. -/
def kindColumns : List (String × UInt32) :=
  [("Declaration", kindDeclaration), ("Definition", kindDefinition),
    ("Reference", kindReference), ("Spelled", kindSpelled)]

/-- **The kind columns are wired to their names**: each shows the bit of its name, 0 when there is
no kind; the fields of the other columns do not change them, nor does the kind change those. -/
structure KindsWired (column : Ref → Int → Outcome Value) : Prop where
  declared : ∀ k c, kindColumns[k]? = some c → RefsTable.schema[1 + k]? = some (c.1, .integer)
  shown : ∀ k c, kindColumns[k]? = some c → ∀ m,
    column m (1 + k : ℕ) = .ok (.integer (if m.getKind &&& c.2 ≠ 0 then 1 else 0))
  unchanged : ∀ f ∈ refFields, ∀ m m', f.2.Changes m m' → ∀ k < kindColumns.length,
    column m' (1 + k : ℕ) = column m (1 + k : ℕ)
  unchanged_kind : ∀ a m, ∀ j < refFields.length,
    column (Ref.kindField.put a m) (5 + j : ℕ) = column m (5 + j : ℕ)

/-- The bits of the kind columns are the lowest four. -/
theorem eq_flag_of_kindColumns {k : ℕ} {c : String × UInt32} (hc : kindColumns[k]? = some c) :
    k < 4 ∧ c.2 = .flag k := by
  have hk : k < 4 := (List.getElem?_eq_some_iff.mp hc).1
  refine ⟨hk, ?_⟩
  interval_cases k <;> obtain rfl := Option.some.inj hc <;> decide

/-- The fields of the location leave the kind as it is. -/
theorem kind_of_changes {f : String × WireField Ref} (hf : f ∈ refFields) {m m' : Ref}
    (hm : f.2.Changes m m') : m'.kind = m.kind := by
  obtain ⟨g, hg⟩ := mem_prefixed hf
  rw [hg] at hm
  cases g with
  | text g =>
    obtain ⟨a, rfl⟩ := hm
    exact (Ref.location_kind.comp_left g).left a m
  | int g =>
    obtain ⟨a, rfl⟩ := hm
    exact (Ref.location_kind.comp_left g).left a m

/-- The kind leaves the fields of the location as they are. -/
theorem shown_put_kind {f : String × WireField Ref} (hf : f ∈ refFields) (a : Option UInt32)
    (m : Ref) : f.2.shown (Ref.kindField.put a m) = f.2.shown m := by
  obtain ⟨g, hg⟩ := mem_prefixed hf
  have hbeside : WireField.Beside Ref.locationField (.int Ref.kindField) := Ref.location_kind.symm
  have hchanges : (WireField.int Ref.kindField).Changes m (Ref.kindField.put a m) := ⟨a, rfl⟩
  rw [hg]
  exact (hbeside.within g).shown_eq hchanges

/-- A kind column shows its bit. -/
theorem columnOf_kind (id : Outcome Str) (m : Ref) {k : ℕ} (hk : k < 4) :
    RefsCursor.columnOf id m (1 + k : ℕ) =
      .ok (.integer (if m.getKind &&& .flag k ≠ 0 then 1 else 0)) := by
  have hbit : RefsCursor.columnOf id m (1 + k : ℕ) =
      .ok (resultInt (ofBool (m.getKind &&& .flag k == .flag k))) := by
    interval_cases k <;> rfl
  rw [hbit, resultInt_ofBool_flag m.getKind (by omega)]

theorem symbolFields_wired :
    Wired SymbolsTable.schema (fun m i => .ok (SymbolsCursor.columnOf m i)) 0 symbolFields := by
  refine wired_of_apart symbolFields_apart (by decide) fun m => ?_
  have hshown := congrArg (List.map fun v => (.ok v : Outcome Value)) (shown_symbolFields m)
  rw [List.map_map, List.map_map] at hshown
  refine hshown.trans (List.map_congr_left fun i _ => ?_)
  rw [Nat.zero_add]
  rfl

theorem refFields_wired (id : Outcome Str) :
    Wired RefsTable.schema (RefsCursor.columnOf id) 5 refFields :=
  wired_of_apart (prefixed_apart locationFields_apart _ _) (by decide) (shown_refFields id)

theorem kindsWired (id : Outcome Str) : KindsWired (RefsCursor.columnOf id) where
  declared k c hc := by
    have hk : k < 4 := (List.getElem?_eq_some_iff.mp hc).1
    interval_cases k <;> obtain rfl := Option.some.inj hc <;> rfl
  shown k c hc m := by
    obtain ⟨hk, hbit⟩ := eq_flag_of_kindColumns hc
    rw [columnOf_kind id m hk, hbit]
  unchanged f hf m m' hm k hk := by
    rw [columnOf_kind id m' hk, columnOf_kind id m hk, Ref.getKind, Ref.getKind,
      kind_of_changes hf hm]
  unchanged_kind a m j hj := by
    have hget : refFields[j]? = some refFields[j] := List.getElem?_eq_getElem hj
    rw [(refFields_wired id).shown j _ hget, (refFields_wired id).shown j _ hget,
      shown_put_kind (List.getElem_mem hj)]

/-- **The columns of the two tables are wired**, on every cursor that has read a message: columns
0 to 19 of the symbols table, columns 5 to 9 of the refs table, and its kind columns 1 to 4. -/
theorem columns_wired (eof : Bool) (req : RefsRequest) (symbols : List (Reply Symbol))
    (refs : List (Reply Ref)) :
    Wired SymbolsTable.schema (fun m => (SymbolsCursor.reading eof symbols m).column) 0
      symbolFields ∧ symbolFields.length = 20 ∧
    Wired RefsTable.schema (fun m => (RefsCursor.reading eof req refs m).column) 5 refFields ∧
      refFields.length = 5 ∧
    KindsWired fun m => (RefsCursor.reading eof req refs m).column :=
  ⟨symbolFields_wired, rfl, refFields_wired (RefStream.id ⟨⟨refs, .notSet⟩, req⟩), rfl,
    kindsWired (RefStream.id ⟨⟨refs, .notSet⟩, req⟩)⟩

end ClangQL
