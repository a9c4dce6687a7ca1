import Mathlib.Algebra.Order.BigOperators.Group.List
import Mathlib.Algebra.Order.Ring.Nat
import Mathlib.Data.List.Nodup

/-!
# Tagged message formats

A message of a tagged format is a sequence of fields, each a tag and a value. The functions that
a generator writes for a type of messages are a loop over the input with one case for each field,
a sequence of writes in the order of the fields, the sum of their sizes, and a merge. All of them
are given by the table of the fields. They rest on a runtime library, which reads and writes tags
and values.

The input arrives in buffers. The case of a repeated field goes on to the next element as long as
the buffer shows its tag, so what a case reads depends on the buffers.

## Main definitions

* `Reader`: a function that reads a value off the start of its input
* `Runtime`: the functions of the runtime library, with their laws
* `Field`, `MessageType`: a field and the table of a type of messages
* `MessageType.internalParse`, `MessageType.internalSerialize`, `MessageType.byteSizeLong`,
  `MessageType.mergeFrom`: the generated functions

## Main results

* `Runtime.readValue_write`: a value that is written is read
* `Field.read_shorter`: every case reads at least one byte
* `MessageType.internalParse_eq`: the input is read field by field, to its end
-/

namespace WireFormat

abbrev Bytes := List UInt8

/-! ## Readers and the runtime -/

/-- A function that reads a value off the start of its input. It reads at least one byte, and
looks at no byte that it does not read. -/
structure Reader (α : Type) where
  run : Bytes → Option (α × Bytes)
  shorter : ∀ {bytes a rest}, run bytes = some (a, rest) → rest.length < bytes.length
  append : ∀ {bytes a rest}, run bytes = some (a, rest) →
    ∀ more, run (bytes ++ more) = some (a, rest ++ more)

namespace Reader

/-- The values read by `read`, changed by `f`. -/
def map {α β : Type} (f : α → β) (read : Reader α) : Reader β where
  run bytes := (read.run bytes).map fun p => (f p.1, p.2)
  shorter h := by
    obtain ⟨⟨a, rest⟩, ha, hp⟩ := Option.map_eq_some_iff.mp h
    cases hp
    exact read.shorter ha
  append h more := by
    obtain ⟨⟨a, rest⟩, ha, hp⟩ := Option.map_eq_some_iff.mp h
    cases hp
    rw [read.append ha]
    rfl

/-- Reads a size and as many bytes. -/
def delimited (size : Reader ℕ) : Reader Bytes where
  run bytes := (size.run bytes).bind fun p =>
    if p.1 ≤ p.2.length then some (p.2.take p.1, p.2.drop p.1) else none
  shorter h := by
    obtain ⟨⟨n, tail⟩, hn, hp⟩ := Option.bind_eq_some_iff.mp h
    split at hp
    · cases hp
      have htail : tail.length < _ := size.shorter hn
      rw [List.length_drop]
      exact Nat.lt_of_le_of_lt (Nat.sub_le _ _) htail
    · cases hp
  append h more := by
    obtain ⟨⟨n, tail⟩, hn, hp⟩ := Option.bind_eq_some_iff.mp h
    split at hp
    · next hle =>
      cases hp
      dsimp only at hle
      have hle' : n ≤ (tail ++ more).length := by
        rw [List.length_append]
        omega
      rw [size.append hn, Option.bind_some, if_pos hle', List.take_append_of_le_length hle,
        List.drop_append_of_le_length hle]
    · cases hp

theorem delimited_run {size : Reader ℕ} {bytes pre : Bytes} {rest : Bytes}
    (h : size.run (pre ++ (bytes ++ rest)) = some (bytes.length, bytes ++ rest)) :
    (delimited size).run (pre ++ (bytes ++ rest)) = some (bytes, rest) := by
  show (size.run _).bind _ = _
  rw [h, Option.bind_some, if_pos (by simp)]
  simp

end Reader

/-- The functions of the runtime library. A varint holds 64 bits, a tag 32, and a size is bounded
by `maxSize`. An unknown field is kept as the bytes it is written as; `parseUnknown tag` reads the
field with the tag `tag`, from after the tag. What is kept is read as itself. -/
structure Runtime where
  maxSize : ℕ
  varint : ℕ → Bytes
  varintSize : ℕ → ℕ
  readTag : Reader ℕ
  readVarint : Reader ℕ
  readSize : Reader ℕ
  parseUnknown : ℕ → Reader Bytes
  maxSize_lt : maxSize < 2 ^ 32
  length_varint : ∀ n, (varint n).length = varintSize n
  varint_small : ∀ {n}, n < 128 → varint n = [UInt8.ofNat n]
  varintSize_two : ∀ {n}, 128 ≤ n → n < 16384 → varintSize n = 2
  readTag_lt : ∀ {bytes n rest}, readTag.run bytes = some (n, rest) → n < 2 ^ 32
  readTag_varint : ∀ {n}, n < 2 ^ 32 → ∀ rest, readTag.run (varint n ++ rest) = some (n, rest)
  readVarint_varint : ∀ {n}, n < 2 ^ 64 → ∀ rest, readVarint.run (varint n ++ rest) = some (n, rest)
  readSize_varint : ∀ {n}, n ≤ maxSize → ∀ rest, readSize.run (varint n ++ rest) = some (n, rest)
  unknown_again : ∀ {tag bytes u rest}, tag < 2 ^ 32 →
    (parseUnknown tag).run bytes = some (u, rest) →
      ∃ tail, u = varint tag ++ tail ∧ (parseUnknown tag).run tail = some (u, [])

/-! ## Values -/

/-- A value on the wire: a number, or bytes behind their announced size. -/
inductive WireValue
  | number (n : ℕ)
  | delimited (size : ℕ) (bytes : Bytes)

/-- The kinds of values. -/
inductive Kind
  | varint
  | lengthDelimited
  deriving DecidableEq

namespace Runtime

variable (rt : Runtime)

/-- The bytes of a value. A size is written as a 32-bit number. -/
def write : WireValue → Bytes
  | .number n => rt.varint n
  | .delimited size bytes => rt.varint (size % 2 ^ 32) ++ bytes

/-- `LengthDelimitedSize`. -/
def lengthDelimitedSize (size : ℕ) : ℕ := size + rt.varintSize (size % 2 ^ 32)

/-- The reader of a kind of values. -/
def readValue : Kind → Reader WireValue
  | .varint => rt.readVarint.map .number
  | .lengthDelimited =>
    (Reader.delimited rt.readSize).map fun bytes => .delimited bytes.length bytes

/-- A value that is read back: its number or size is within the bounds of the format, and its size
is announced correctly. -/
def Writable : Kind → WireValue → Prop
  | .varint, .number n => n < 2 ^ 64
  | .lengthDelimited, .delimited size bytes => size = bytes.length ∧ size ≤ rt.maxSize
  | _, _ => False

theorem readValue_write {k : Kind} {v : WireValue} (h : rt.Writable k v) (rest : Bytes) :
    (rt.readValue k).run (rt.write v ++ rest) = some (v, rest) := by
  rcases k with _ | _ <;> rcases v with n | ⟨size, bytes⟩
  · show (rt.readVarint.run (rt.varint n ++ rest)).map _ = _
    rw [rt.readVarint_varint h]
    rfl
  · exact h.elim
  · exact h.elim
  · obtain ⟨rfl, hle⟩ := h
    have hmod : bytes.length % 2 ^ 32 = bytes.length :=
      Nat.mod_eq_of_lt (Nat.lt_of_le_of_lt hle rt.maxSize_lt)
    show ((Reader.delimited _).run (rt.varint (bytes.length % 2 ^ 32) ++ bytes ++ rest)).map _ = _
    rw [hmod, List.append_assoc, Reader.delimited_run (rt.readSize_varint hle _)]
    rfl

end Runtime

/-! ## Messages and fields -/

/-- Messages that keep the fields they do not know. -/
class UnknownFields (σ : Type) where
  unknown : σ → List Bytes
  setUnknown : List Bytes → σ → σ
  unknown_set : ∀ us m, unknown (setUnknown us m) = us
  set_unknown : ∀ m, setUnknown (unknown m) m = m
  set_set : ∀ us vs m, setUnknown us (setUnknown vs m) = setUnknown us m

open UnknownFields

/-- `UnknownFieldSet`: one more unknown field. -/
def addUnknown {σ : Type} [UnknownFields σ] (u : Bytes) (m : σ) : σ :=
  setUnknown (unknown m ++ [u]) m

/-- Where the reader stands: whether the buffer holds a byte when `n` bytes of the whole input are
left, and how many bytes follow the message being read. -/
structure ParseContext where
  buffered : ℕ → Bool
  afterLimit : ℕ

namespace ParseContext

/-- A whole input, with no byte in the buffer. -/
def unbuffered : ParseContext := ⟨fun _ => false, 0⟩

/-- `PushLimit`: the context of a message that `n` bytes of the present one follow. -/
def pushLimit (ctx : ParseContext) (n : ℕ) : ParseContext :=
  { ctx with afterLimit := n + ctx.afterLimit }

/-- `DataAvailable`, with `bytes` left before the limit. -/
def dataAvailable (ctx : ParseContext) (bytes : Bytes) : Bool :=
  !bytes.isEmpty && ctx.buffered (bytes.length + ctx.afterLimit)

end ParseContext

/-- A field of the messages `σ`: its tag, and how many bytes the size of a message counts for it;
whether it is repeated; the values of it that a message holds, with their sizes; how a value is
stored in a message, and how the field is merged from one message into another. A message is
`Sound` for the field when its values are read back as they are. -/
structure Field (rt : Runtime) (σ : Type) [UnknownFields σ] where
  tag : ℕ
  tagSize : ℕ
  repeated : Bool
  kind : Kind
  values : σ → List WireValue
  sizes : σ → List ℕ
  store : ParseContext → WireValue → σ → Option σ
  merge : σ → σ → σ
  Sound : σ → Prop
  tag_lt : tag < 256
  tagSize_eq : tagSize = rt.varintSize tag
  repeated_lt : repeated = true → tag < 128
  sizes_eq : ∀ s, sizes s = (values s).map fun v => (rt.write v).length
  writable : ∀ s, (∀ n ∈ sizes s, n ≤ rt.maxSize) → ∀ v ∈ values s, rt.Writable kind v
  store_context : ∀ ctx ctx' v m, store ctx v m = store ctx' v m
  store_set : ∀ ctx v us m, store ctx v (setUnknown us m) = (store ctx v m).map (setUnknown us)
  sound_set : ∀ us m, Sound m → Sound (setUnknown us m)
  store_values : ∀ s, Sound s → (∀ n ∈ sizes s, n ≤ rt.maxSize) → ∀ ctx m,
    (values s).foldlM (fun m v => store ctx v m) m = some (merge s m)

/-- A type of messages: its fields, with different numbers. -/
structure MessageType (rt : Runtime) (σ : Type) [UnknownFields σ] where
  fields : List (Field rt σ)
  nodup : (fields.map fun f => f.tag / 8).Nodup

variable {rt : Runtime} {σ : Type} [UnknownFields σ]

namespace Field

variable (f : Field rt σ)

/-- Reads one value and stores it. -/
def readOne (ctx : ParseContext) (bytes : Bytes) (m : σ) : Option (σ × Bytes) :=
  ((rt.readValue f.kind).run bytes).bind fun p =>
    (f.store (ctx.pushLimit p.2.length) p.1 m).map fun m' => (m', p.2)

/-- The loop of a repeated field: another value is read while the buffer shows the tag. -/
def readMore (ctx : ParseContext) : ℕ → Bytes → σ → Option (σ × Bytes)
  | 0, bytes, m => f.readOne ctx bytes m
  | n + 1, bytes, m =>
    (f.readOne ctx bytes m).bind fun p =>
      match p.2 with
      | [] => some p
      | b :: rest =>
        if ctx.dataAvailable p.2 && b.toNat == f.tag then readMore ctx n rest p.1 else some p

/-- The case of the field, after its tag. -/
def read (ctx : ParseContext) (bytes : Bytes) (m : σ) : Option (σ × Bytes) :=
  if f.repeated then f.readMore ctx bytes.length bytes m else f.readOne ctx bytes m

/-- The bytes of the field, each value behind the tag. -/
def serialize (s : σ) : Bytes := (f.values s).flatMap fun v => rt.varint f.tag ++ rt.write v

/-- What the size of a message counts for the field. -/
def byteSize (s : σ) : ℕ := ((f.sizes s).map (f.tagSize + ·)).sum

end Field

namespace MessageType

variable (T : MessageType rt σ)

/-- The case of `switch (tag >> 3)` for a tag, if its low byte is the one the case expects. -/
def caseOf (tag : ℕ) : Option (Field rt σ) :=
  (T.fields.find? fun f => f.tag / 8 == tag / 8).filter fun f => tag % 256 == f.tag

/-- The body of the loop, which goes on as `next`. The tag of the end of a group, or zero, stops
the loop and is kept. -/
def body (ctx : ParseContext) (next : Bytes → σ → Option (σ × Option ℕ)) (bytes : Bytes) (m : σ) :
    Option (σ × Option ℕ) :=
  (rt.readTag.run bytes).bind fun p =>
    match T.caseOf p.1 with
    | some f => (f.read ctx p.2 m).bind fun q => next q.2 q.1
    | none =>
      if p.1 % 8 = 4 ∨ p.1 = 0 then some (m, some p.1)
      else ((rt.parseUnknown p.1).run p.2).bind fun q => next q.2 (addUnknown q.1 m)

/-- The first `n` rounds of the loop. -/
def loop (ctx : ParseContext) : ℕ → Bytes → σ → Option (σ × Option ℕ)
  | _, [], m => some (m, none)
  | 0, _ :: _, _ => none
  | n + 1, b :: bytes, m => T.body ctx (loop ctx n) (b :: bytes) m

/-- `_InternalParse`, on the bytes up to the limit: the message, and the tag that stopped the
reading before its end. -/
def internalParse (ctx : ParseContext) (bytes : Bytes) (m : σ) : Option (σ × Option ℕ) :=
  T.loop ctx bytes.length bytes m

/-- `_InternalSerialize`: the fields in order, then the unknown ones. -/
def internalSerialize (s : σ) : Bytes :=
  (T.fields.flatMap fun f => f.serialize s) ++ (unknown s).flatten

/-- `ByteSizeLong`. -/
def byteSizeLong (s : σ) : ℕ :=
  (T.fields.map fun f => f.byteSize s).sum + (unknown s).flatten.length

/-- `MergeFrom`: the fields of `s` are merged into `m`. -/
def mergeFrom (s m : σ) : σ :=
  (unknown s).foldl (fun m u => addUnknown u m) (T.fields.foldl (fun m f => f.merge s m) m)

end MessageType

/-- What a caller of `_InternalParse` accepts: reading ended at the limit. -/
def endedAtLimit {σ : Type} : Option (σ × Option ℕ) → Option σ
  | some (m, none) => some m
  | _ => none

/-! ## The input is read to its end -/

namespace Field

variable {f : Field rt σ} {ctx : ParseContext} {bytes rest : Bytes} {m m' : σ}

theorem readOne_shorter (h : f.readOne ctx bytes m = some (m', rest)) :
    rest.length < bytes.length := by
  obtain ⟨⟨v, tail⟩, hv, hm⟩ := Option.bind_eq_some_iff.mp h
  obtain ⟨m₁, -, hp⟩ := Option.map_eq_some_iff.mp hm
  cases hp
  exact (rt.readValue f.kind).shorter hv

theorem readMore_shorter {n : ℕ} (h : f.readMore ctx n bytes m = some (m', rest)) :
    rest.length < bytes.length := by
  induction n generalizing bytes m with
  | zero => exact readOne_shorter h
  | succ n ih =>
    obtain ⟨⟨m₁, tail⟩, hone, hm⟩ := Option.bind_eq_some_iff.mp h
    have htail := readOne_shorter hone
    dsimp only at hm
    split at hm
    · cases hm
      exact htail
    · split at hm
      · exact (ih hm).trans ((Nat.lt_succ_self _).trans htail)
      · cases hm
        exact htail

theorem read_shorter (h : f.read ctx bytes m = some (m', rest)) : rest.length < bytes.length := by
  rw [read] at h
  split at h
  · exact readMore_shorter h
  · exact readOne_shorter h

theorem readOne_context (ctx ctx' : ParseContext) (bytes : Bytes) (m : σ) :
    f.readOne ctx bytes m = f.readOne ctx' bytes m := by
  unfold readOne
  congr 1
  ext1 p
  rw [f.store_context]

/-- Without a byte in the buffer, a repeated field stops after one value. -/
theorem read_unbuffered (bytes : Bytes) (m : σ) :
    f.read .unbuffered bytes m = f.readOne .unbuffered bytes m := by
  rw [read]
  split
  · cases bytes with
    | nil => rfl
    | cons b bytes =>
      show (f.readOne _ _ _).bind _ = _
      refine (Option.bind_congr fun p _ => ?_).trans (Option.bind_fun_some _)
      rcases p with ⟨m', _ | ⟨c, rest⟩⟩
      · rfl
      · rfl
  · rfl

end Field

namespace MessageType

variable {T : MessageType rt σ} {ctx : ParseContext} {bytes rest : Bytes} {m : σ}

/-- The body depends on how the loop goes on with shorter inputs only. -/
theorem body_congr {next next' : Bytes → σ → Option (σ × Option ℕ)}
    (h : ∀ rest m, rest.length < bytes.length → next rest m = next' rest m) :
    T.body ctx next bytes m = T.body ctx next' bytes m := by
  refine Option.bind_congr fun p hp => ?_
  have htag := rt.readTag.shorter hp
  split
  · refine Option.bind_congr fun q hq => ?_
    exact h q.2 q.1 ((Field.read_shorter hq).trans htag)
  · split
    · rfl
    · refine Option.bind_congr fun q hq => ?_
      exact h q.2 _ (((rt.parseUnknown p.1).shorter hq).trans htag)

/-- As many rounds as there are bytes are enough. -/
theorem loop_eq {n : ℕ} (h : bytes.length ≤ n) :
    T.loop ctx n bytes m = T.loop ctx bytes.length bytes m := by
  induction n using Nat.strongRecOn generalizing bytes m with
  | ind n ih =>
    rcases bytes with _ | ⟨b, bytes⟩
    · cases n <;> rfl
    · obtain ⟨n, rfl⟩ : ∃ k, n = k + 1 := ⟨n - 1, by rw [List.length_cons] at h; omega⟩
      have hle : bytes.length ≤ n := Nat.le_of_succ_le_succ h
      refine body_congr fun rest m' hrest => ?_
      have hlen : rest.length ≤ bytes.length := Nat.le_of_lt_succ hrest
      rw [ih n (Nat.lt_succ_self n) (hlen.trans hle)]
      rcases hle.eq_or_lt with rfl | hlt
      · exact (ih _ (Nat.lt_succ_self _) hlen).symm
      · exact (ih _ (hlt.trans (Nat.lt_succ_self n)) hlen).symm

@[simp] theorem internalParse_nil : T.internalParse ctx [] m = some (m, none) := rfl

/-- **The input is read field by field**, to its end. -/
theorem internalParse_eq (h : bytes ≠ []) :
    T.internalParse ctx bytes m = T.body ctx (T.internalParse ctx) bytes m := by
  obtain ⟨b, bytes, rfl⟩ := List.exists_cons_of_ne_nil h
  refine body_congr fun rest m' hrest => ?_
  exact loop_eq (Nat.le_of_lt_succ hrest)

end MessageType

end WireFormat
