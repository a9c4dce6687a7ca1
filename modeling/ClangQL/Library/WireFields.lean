import ClangQL.Library.OptionalField
import ClangQL.Library.WireLaws

/-!
# Fields of tagged message formats

The fields of a message hold numbers, strings or messages, at most one or any number of them. A
codec says how one value is written, read and merged; from it and the place of the field in its
message, the field of the table is built with its laws.

## Main definitions

* `Codec`: how the values of a type are written, read and merged
* `Codec.uint32`, `Codec.int32`, `Codec.bool`, `Codec.string`, `Codec.message`: the types of values
* `OptionalMember`, `RepeatedMember`: the places of the fields in a message
* `Field.optional`, `Field.repeatedField`: the fields of a table
-/

namespace WireFormat

open UnknownFields

/-! ## Codecs -/

/-- How the values of a type are written, read and merged. A value is read into one that is there
already, or into `initial`; what is not `Sound` may be read back as something else. -/
structure Codec (rt : Runtime) (α : Type) where
  kind : Kind
  initial : α
  write : α → WireValue
  size : α → ℕ
  read : ParseContext → WireValue → α → Option α
  merge : α → α → α
  Sound : α → Prop
  size_eq : ∀ a, size a = (rt.write (write a)).length
  writable : ∀ a, size a ≤ rt.maxSize → rt.Writable kind (write a)
  read_context : ∀ ctx ctx' v a, read ctx v a = read ctx' v a
  read_write : ∀ a, Sound a → size a ≤ rt.maxSize →
    ∀ ctx b, read ctx (write a) b = some (merge a b)
  merge_initial : ∀ a, merge a initial = a
  sound_initial : Sound initial
  sound_read : ∀ {ctx v a b}, Sound a → read ctx v a = some b → Sound b

namespace Codec

variable (rt : Runtime)

/-- Numbers: a later one replaces the one that is there. -/
def number {α : Type} [Inhabited α] (toWire : α → ℕ) (ofWire : ℕ → α) (size : α → ℕ)
    (hlt : ∀ a, toWire a < 2 ^ 64) (hof : ∀ a, ofWire (toWire a) = a)
    (hsize : ∀ a, size a = rt.varintSize (toWire a)) : Codec rt α where
  kind := .varint
  initial := default
  write a := .number (toWire a)
  size := size
  read _ v _ :=
    match v with
    | .number n => some (ofWire n)
    | .delimited _ _ => none
  merge a _ := a
  Sound _ := True
  size_eq a := (hsize a).trans (rt.length_varint _).symm
  writable a _ := hlt a
  read_context _ _ _ _ := rfl
  read_write a _ _ _ _ := congrArg some (hof a)
  merge_initial _ := rfl
  sound_initial := trivial
  sound_read _ _ := trivial

/-- `uint32`: the low 32 bits of what is read, `UInt32Size`. -/
def uint32 : Codec rt UInt32 :=
  number rt UInt32.toNat UInt32.ofNat (fun a => rt.varintSize a.toNat)
    (fun a => a.toNat_lt.trans (by decide)) (fun _ => UInt32.ofNat_toNat) (fun _ => rfl)

/-- `int32`: written with its sign extended to 64 bits, `Int32Size`. -/
def int32 : Codec rt Int32 :=
  number rt (fun a => a.toInt64.toUInt64.toNat) (fun n => (UInt64.ofNat n).toInt64.toInt32)
    (fun a => rt.varintSize a.toInt64.toUInt64.toNat)
    (fun a => a.toInt64.toUInt64.toNat_lt)
    (fun a => by rw [UInt64.ofNat_toNat, Int64.toInt64_toUInt64, Int32.toInt32_toInt64])
    (fun _ => rfl)

theorem varintSize_small {n : ℕ} (h : n < 128) : rt.varintSize n = 1 := by
  rw [← rt.length_varint, rt.varint_small h]
  rfl

/-- `bool`: written in one byte, true unless zero is read. -/
def bool : Codec rt Bool :=
  number rt Bool.toNat (fun n => n != 0) (fun _ => 1)
    (fun b => by cases b <;> decide) (fun b => by cases b <;> rfl)
    (fun b => by cases b <;> exact (varintSize_small rt (by decide)).symm)

/-- Strings: `WriteString`, `StringSize`, `InlineGreedyStringParser`. -/
def string : Codec rt Bytes where
  kind := .lengthDelimited
  initial := []
  write s := .delimited s.length s
  size s := rt.lengthDelimitedSize s.length
  read _ v _ :=
    match v with
    | .number _ => none
    | .delimited _ bytes => some bytes
  merge s _ := s
  Sound _ := True
  size_eq s := by
    show s.length + _ = (rt.varint _ ++ s).length
    rw [List.length_append, rt.length_varint, Nat.add_comm]
  writable s h := ⟨rfl, (Nat.le_add_right _ _).trans h⟩
  read_context _ _ _ _ := rfl
  read_write _ _ _ _ _ := rfl
  merge_initial _ := rfl
  sound_initial := trivial
  sound_read _ _ := trivial

/-- Messages: `InternalWriteMessage` behind the size that `ByteSizeLong` has cached, `MessageSize`,
`ParseMessage` into the message that is there. -/
def message {rt : Runtime} {τ : Type} [Inhabited τ] [UnknownFields τ] (T : MessageType rt τ)
    (hT : T.Lawful) : Codec rt τ where
  kind := .lengthDelimited
  initial := default
  write t := .delimited (T.byteSizeLong t) (T.internalSerialize t)
  size t := rt.lengthDelimitedSize (T.byteSizeLong t)
  read ctx v t :=
    match v with
    | .number _ => none
    | .delimited _ bytes => endedAtLimit (T.internalParse ctx bytes t)
  merge := T.mergeFrom
  Sound := T.Sound
  size_eq t := by
    show T.byteSizeLong t + _ = (rt.varint _ ++ T.internalSerialize t).length
    rw [List.length_append, rt.length_varint, ← MessageType.byteSizeLong_eq, Nat.add_comm]
  writable t h := ⟨MessageType.byteSizeLong_eq T t, (Nat.le_add_right _ _).trans h⟩
  read_context ctx ctx' v t := by
    cases v with
    | number n => rfl
    | delimited size bytes =>
      show endedAtLimit (T.internalParse ctx bytes t) = endedAtLimit (T.internalParse ctx' bytes t)
      rw [MessageType.internalParse_context ctx, MessageType.internalParse_context ctx']
  read_write t ht hsize ctx u := by
    have hread := MessageType.internalParse_serialize ht ((Nat.le_add_right _ _).trans hsize) u []
    rw [List.append_nil, MessageType.internalParse_nil] at hread
    show endedAtLimit (T.internalParse ctx (T.internalSerialize t) u) = _
    rw [MessageType.internalParse_context, hread]
    rfl
  merge_initial := hT.mergeFrom_default
  sound_initial := hT.sound_default
  sound_read {ctx v t u} ht h := by
    cases v with
    | number n => cases h
    | delimited size bytes =>
      replace h : endedAtLimit (T.internalParse ctx bytes t) = some u := h
      rw [MessageType.internalParse_context] at h
      exact ht.endedAtLimit hT.stable h

end Codec

/-- Every number is sound, and every string. -/
@[simp] theorem Codec.sound_uint32 (rt : Runtime) (a : UInt32) : (Codec.uint32 rt).Sound a :=
  trivial

@[simp] theorem Codec.sound_int32 (rt : Runtime) (a : Int32) : (Codec.int32 rt).Sound a := trivial

@[simp] theorem Codec.sound_bool (rt : Runtime) (a : Bool) : (Codec.bool rt).Sound a := trivial

@[simp] theorem Codec.sound_string (rt : Runtime) (a : Bytes) : (Codec.string rt).Sound a :=
  trivial

/-! ## Places of fields -/

/-- An optional field of a message, apart from its unknown fields. -/
structure OptionalMember (σ α : Type) [Inhabited σ] [UnknownFields σ] extends
    OptionalField σ α where
  put_get : ∀ m, put (get m) m = m
  get_set : ∀ us m, get (setUnknown us m) = get m
  put_set : ∀ a us m, put a (setUnknown us m) = setUnknown us (put a m)

/-- A repeated field of a message, apart from its unknown fields. -/
structure RepeatedMember (σ α : Type) [UnknownFields σ] where
  get : σ → List α
  put : List α → σ → σ
  get_put : ∀ as m, get (put as m) = as
  put_get : ∀ m, put (get m) m = m
  put_put : ∀ as bs m, put as (put bs m) = put as m
  get_set : ∀ us m, get (setUnknown us m) = get m
  put_set : ∀ as us m, put as (setUnknown us m) = setUnknown us (put as m)

/-- One more element. -/
def RepeatedMember.add {σ α : Type} [UnknownFields σ] (place : RepeatedMember σ α) (a : α)
    (m : σ) : σ :=
  place.put (place.get m ++ [a]) m

theorem forall_mem_none {α : Type} {p : α → Prop} : ∀ b ∈ (none : Option α), p b := by
  rintro _ ⟨⟩

theorem forall_mem_some {α : Type} {p : α → Prop} {a : α} (ha : p a) : ∀ b ∈ some a, p b := by
  rintro _ ⟨⟩
  exact ha

theorem RepeatedMember.forall_mem_add {σ α : Type} [UnknownFields σ] {place : RepeatedMember σ α}
    {p : α → Prop} {a : α} {m : σ} (ha : p a) (hm : ∀ b ∈ place.get m, p b) :
    ∀ b ∈ place.get (place.add a m), p b := by
  intro b hb
  rw [add, place.get_put] at hb
  rcases List.mem_append.mp hb with hb | hb
  · exact hm b hb
  · rw [List.mem_singleton.mp hb]
    exact ha

theorem RepeatedMember.foldl_add {σ α : Type} [UnknownFields σ] (place : RepeatedMember σ α)
    (as : List α) (m : σ) :
    as.foldl (fun m a => place.add a m) m = place.put (place.get m ++ as) m := by
  induction as generalizing m with
  | nil => rw [List.append_nil, place.put_get, List.foldl_nil]
  | cons a as ih =>
    rw [List.foldl_cons, ih, add, place.get_put, place.put_put, List.append_assoc]
    rfl

/-- A tag is written in one byte or in two. -/
def TagFits (tag tagSize : ℕ) : Prop :=
  tag < 128 ∧ tagSize = 1 ∨ 128 ≤ tag ∧ tag < 256 ∧ tagSize = 2

instance (tag tagSize : ℕ) : Decidable (TagFits tag tagSize) :=
  inferInstanceAs (Decidable (_ ∨ _))

namespace TagFits

variable {rt : Runtime} {tag tagSize : ℕ}

theorem tag_lt (h : TagFits tag tagSize) : tag < 256 := by
  rcases h with ⟨hlt, -⟩ | ⟨-, hlt, -⟩
  · exact hlt.trans (by decide)
  · exact hlt

theorem tagSize_eq (h : TagFits tag tagSize) : tagSize = rt.varintSize tag := by
  rcases h with ⟨hlt, rfl⟩ | ⟨hle, hlt, rfl⟩
  · exact (Codec.varintSize_small rt hlt).symm
  · exact (rt.varintSize_two hle (hlt.trans (by decide))).symm

end TagFits

/-! ## Fields of a table -/

namespace Field

variable {rt : Runtime} {σ α : Type} [UnknownFields σ] (tag tagSize : ℕ) (c : Codec rt α)

/-- An optional field: a value is read into the one that is there. -/
def optional [Inhabited σ] (place : OptionalMember σ α) (h : TagFits tag tagSize) :
    Field rt σ where
  tag := tag
  tagSize := tagSize
  repeated := false
  kind := c.kind
  values s := (place.get s).toList.map c.write
  sizes s := (place.get s).toList.map c.size
  store ctx v m :=
    (c.read ctx v ((place.get m).getD c.initial)).map fun a => place.put (some a) m
  merge s m :=
    match place.get s with
    | none => m
    | some a => place.put (some (c.merge a ((place.get m).getD c.initial))) m
  Sound s := ∀ a ∈ place.get s, c.Sound a
  tag_lt := h.tag_lt
  tagSize_eq := h.tagSize_eq
  repeated_lt := nofun
  sizes_eq s := by
    rw [List.map_map]
    exact List.map_congr_left fun a _ => c.size_eq a
  writable s hs v hv := by
    obtain ⟨a, ha, rfl⟩ := List.mem_map.mp hv
    exact c.writable a (hs _ (List.mem_map_of_mem ha))
  store_context ctx ctx' v m := by rw [c.read_context]
  store_set ctx v us m := by
    rw [place.get_set, Option.map_map]
    congr 1
    ext1 a
    exact place.put_set _ us m
  sound_set us m h := by rwa [place.get_set]
  store_values s hs hsize ctx m := by
    cases ha : place.get s with
    | none => rfl
    | some a =>
      rw [ha] at hs hsize
      have hread := c.read_write a (hs a rfl) (hsize _ List.mem_cons_self) ctx
        ((place.get m).getD c.initial)
      show ((c.read ctx (c.write a) _).map _).bind _ = _
      rw [hread]
      rfl

theorem store_all (c : Codec rt α) (place : RepeatedMember σ α) {as : List α}
    (hs : ∀ a ∈ as, c.Sound a) (hsize : ∀ a ∈ as, c.size a ≤ rt.maxSize) (ctx : ParseContext)
    (m : σ) :
    (as.map c.write).foldlM (fun m v => (c.read ctx v c.initial).map fun a => place.add a m) m =
      some (as.foldl (fun m a => place.add (c.merge a c.initial) m) m) := by
  induction as generalizing m with
  | nil => rfl
  | cons a as ih =>
    have hread := c.read_write a (hs a List.mem_cons_self) (hsize a List.mem_cons_self) ctx
      c.initial
    rw [List.map_cons, List.foldlM_cons, hread]
    exact ih (fun b hb => hs b (List.mem_cons_of_mem a hb))
      (fun b hb => hsize b (List.mem_cons_of_mem a hb)) _

/-- A repeated field: a value is read behind the ones that are there. -/
def repeatedField (place : RepeatedMember σ α) (h : tag < 128 ∧ tagSize = 1) : Field rt σ where
  tag := tag
  tagSize := tagSize
  repeated := true
  kind := c.kind
  values s := (place.get s).map c.write
  sizes s := (place.get s).map c.size
  store ctx v m := (c.read ctx v c.initial).map fun a => place.add a m
  merge s m := (place.get s).foldl (fun m a => place.add (c.merge a c.initial) m) m
  Sound s := ∀ a ∈ place.get s, c.Sound a
  tag_lt := TagFits.tag_lt (.inl h)
  tagSize_eq := TagFits.tagSize_eq (.inl h)
  repeated_lt _ := h.1
  sizes_eq s := by
    rw [List.map_map]
    exact List.map_congr_left fun a _ => c.size_eq a
  writable s hs v hv := by
    obtain ⟨a, ha, rfl⟩ := List.mem_map.mp hv
    exact c.writable a (hs _ (List.mem_map_of_mem ha))
  store_context ctx ctx' v m := by rw [c.read_context]
  store_set ctx v us m := by
    rw [Option.map_map]
    congr 1
    ext1 a
    show place.add a (setUnknown us m) = setUnknown us (place.add a m)
    rw [RepeatedMember.add, place.get_set, place.put_set]
    rfl
  sound_set us m h := by rwa [place.get_set]
  store_values s hs hsize ctx m :=
    store_all c place hs (fun a ha => hsize _ (List.mem_map_of_mem ha)) ctx m

@[simp] theorem sound_optional [Inhabited σ] {tag tagSize : ℕ} {c : Codec rt α}
    {place : OptionalMember σ α} {h : TagFits tag tagSize} {m : σ} :
    (optional tag tagSize c place h).Sound m ↔ ∀ a ∈ place.get m, c.Sound a := Iff.rfl

@[simp] theorem sound_repeatedField {tag tagSize : ℕ} {c : Codec rt α}
    {place : RepeatedMember σ α} {h : tag < 128 ∧ tagSize = 1} {m : σ} :
    (repeatedField tag tagSize c place h).Sound m ↔ ∀ a ∈ place.get m, c.Sound a := Iff.rfl

/-- What an optional field stores keeps a property of messages that a sound value keeps, and that
makes the value that is there sound. -/
theorem optional_stable [Inhabited σ] {tag tagSize : ℕ} {c : Codec rt α}
    {place : OptionalMember σ α} {h : TagFits tag tagSize} {P : σ → Prop}
    (hput : ∀ a m, c.Sound a → P m → P (place.put (some a) m))
    (hget : ∀ m, P m → ∀ a ∈ place.get m, c.Sound a) (ctx : ParseContext) (v : WireValue)
    (m m' : σ) : (optional tag tagSize c place h).store ctx v m = some m' → P m → P m' := by
  intro hstore hm
  obtain ⟨a, hread, rfl⟩ := Option.map_eq_some_iff.mp hstore
  refine hput a m (c.sound_read ?_ hread) hm
  cases hplace : place.get m with
  | none => exact c.sound_initial
  | some b => exact hget m hm b hplace

/-- What a repeated field stores keeps a property of messages that a sound element keeps. -/
theorem repeated_stable {tag tagSize : ℕ} {c : Codec rt α} {place : RepeatedMember σ α}
    {h : tag < 128 ∧ tagSize = 1} {P : σ → Prop}
    (hadd : ∀ a m, c.Sound a → P m → P (place.add a m)) (ctx : ParseContext) (v : WireValue)
    (m m' : σ) : (repeatedField tag tagSize c place h).store ctx v m = some m' → P m → P m' := by
  intro hstore hm
  obtain ⟨a, hread, rfl⟩ := Option.map_eq_some_iff.mp hstore
  exact hadd a m (c.sound_read c.sound_initial hread) hm

end Field

/-! ## Lawful tables -/

namespace MessageType.Lawful

variable {rt : Runtime} {σ : Type} [UnknownFields σ] [Inhabited σ] {T : MessageType rt σ}

/-- A table is lawful when the soundness of its fields is a property `P` that whatever is stored
keeps. -/
theorem of_property (P : σ → Prop) (hP : ∀ m, (∀ f ∈ T.fields, f.Sound m) ↔ P m)
    (hmerge : ∀ s, T.mergeFrom s default = s) (hunknown : unknown (default : σ) = [])
    (hdefault : P default)
    (hstore : ∀ f ∈ T.fields, ∀ ctx v m m', f.store ctx v m = some m' → P m → P m') :
    T.Lawful where
  mergeFrom_default := hmerge
  sound_default := by
    refine ⟨(hP _).mpr hdefault, ?_⟩
    rw [hunknown]
    exact List.forall_mem_nil _
  stable f hf ctx v m m' h hm := (hP m').mpr (hstore f hf ctx v m m' h ((hP m).mp hm))

/-- A table without messages among its fields. -/
theorem of_sound (hsound : ∀ m, ∀ f ∈ T.fields, f.Sound m)
    (hmerge : ∀ s, T.mergeFrom s default = s) (hunknown : unknown (default : σ) = []) :
    T.Lawful :=
  of_property (fun _ => True) (fun m => iff_of_true (hsound m) trivial) hmerge hunknown trivial
    fun _ _ _ _ _ _ _ _ => trivial

end MessageType.Lawful

/-! ## Merging into an empty message -/

section Merge

variable {rt : Runtime} {σ α : Type} [UnknownFields σ] {tag tagSize : ℕ} {c : Codec rt α}
  {fs : List (Field rt σ)} {s m : σ}

theorem foldl_addUnknown (us : List Bytes) (m : σ) :
    us.foldl (fun m u => addUnknown u m) m = setUnknown (unknown m ++ us) m := by
  induction us generalizing m with
  | nil => rw [List.append_nil, set_unknown, List.foldl_nil]
  | cons u us ih =>
    rw [List.foldl_cons, ih, addUnknown, unknown_set, set_set, List.append_assoc]
    rfl

theorem MessageType.mergeFrom_eq (T : MessageType rt σ) (s m : σ) :
    T.mergeFrom s m =
      setUnknown (unknown (T.fields.foldl (fun m f => f.merge s m) m) ++ unknown s)
        (T.fields.foldl (fun m f => f.merge s m) m) :=
  foldl_addUnknown _ _

/-- An absent field takes the value merged into it. -/
theorem foldl_merge_optional [Inhabited σ] {place : OptionalMember σ α}
    {h : TagFits tag tagSize} (hm : place.get m = none) :
    (Field.optional tag tagSize c place h :: fs).foldl (fun m f => f.merge s m) m =
      fs.foldl (fun m f => f.merge s m) (place.put (place.get s) m) := by
  rw [List.foldl_cons]
  congr 1
  show (match place.get s with | none => m | some a => _) = _
  cases place.get s with
  | none =>
    show m = place.put none m
    rw [← hm, place.put_get]
  | some a =>
    dsimp only
    rw [hm, Option.getD_none, c.merge_initial]

/-- An empty repeated field takes the elements merged into it. -/
theorem foldl_merge_repeated {place : RepeatedMember σ α} {h : tag < 128 ∧ tagSize = 1}
    (hm : place.get m = []) :
    (Field.repeatedField tag tagSize c place h :: fs).foldl (fun m f => f.merge s m) m =
      fs.foldl (fun m f => f.merge s m) (place.put (place.get s) m) := by
  rw [List.foldl_cons]
  congr 1
  show (place.get s).foldl (fun m a => place.add (c.merge a c.initial) m) m = _
  simp only [c.merge_initial]
  rw [RepeatedMember.foldl_add, hm, List.nil_append]

end Merge

end WireFormat
