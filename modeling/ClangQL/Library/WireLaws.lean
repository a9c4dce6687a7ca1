import ClangQL.Library.FirstMatch
import ClangQL.Library.WireFormat

/-!
# Laws of tagged message formats

What the functions generated for a type of messages do to each other, for every table of fields.
A message is read one value at a time, however the input is buffered. Reading the bytes of a
message merges it into the message read so far, so that a message is read back from its bytes and
messages written one after the other are read as one. Fields that the table does not have are kept
aside.

## Main definitions

* `MessageType.IsUnknown`: the bytes of a field that the table does not have
* `MessageType.Sound`: a message whose values are read back as they are
* `known`: a message without its unknown fields

## Main results

* `MessageType.internalParse_context`: the buffers do not matter
* `MessageType.internalParse_append`: an accepted input is read off any longer one
* `MessageType.byteSizeLong_eq`: the size is the number of bytes written
* `MessageType.internalParse_serialize`: reading a written message merges it
* `MessageType.internalParse_unknown`: an unknown field does not change the known ones
* `MessageType.Sound.internalParse`: whatever is read is sound
* `MessageType.parse_flatMap`: messages written one after the other are read as one
-/

namespace WireFormat

open UnknownFields

variable {rt : Runtime} {σ : Type} [UnknownFields σ]

namespace MessageType

variable {T : MessageType rt σ} {f : Field rt σ} {ctx : ParseContext} {bytes rest : Bytes} {m : σ}

theorem caseOf_tag (hf : f ∈ T.fields) : T.caseOf f.tag = some f := by
  have hfind : (T.fields.find? fun g => g.tag / 8 == f.tag / 8) = some f :=
    find?_of_nodup (fun g : Field rt σ => g.tag / 8) T.nodup hf
  have hmod : f.tag % 256 = f.tag := Nat.mod_eq_of_lt f.tag_lt
  rw [caseOf, hfind]
  exact Option.filter_some_pos (by simpa using hmod)

theorem mem_of_caseOf {tag : ℕ} (h : T.caseOf tag = some f) : f ∈ T.fields :=
  List.mem_of_find?_eq_some (Option.filter_eq_some_iff.mp h).1

/-! ## Reading one value -/

theorem tag_append_ne_nil {n : ℕ} (h : n < 2 ^ 32) (rest : Bytes) : rt.varint n ++ rest ≠ [] := by
  intro he
  have hread := rt.readTag_varint h rest
  rw [he] at hread
  exact absurd (rt.readTag.shorter hread) (Nat.not_lt_zero _)

/-- **Behind its tag, one value of a field is read.** -/
theorem internalParse_tag (hf : f ∈ T.fields) :
    T.internalParse .unbuffered (rt.varint f.tag ++ rest) m =
      (f.readOne .unbuffered rest m).bind fun q => T.internalParse .unbuffered q.2 q.1 := by
  have htag : f.tag < 2 ^ 32 := f.tag_lt.trans (by decide)
  rw [internalParse_eq (tag_append_ne_nil htag rest), body, rt.readTag_varint htag,
    Option.bind_some, caseOf_tag hf]
  dsimp only
  rw [Field.read_unbuffered]

/-- The loop of a repeated field reads what the outer loop would. -/
theorem readMore_bind (hf : f ∈ T.fields) (hrep : f.repeated = true) (n : ℕ) :
    ((f.readMore ctx n bytes m).bind fun q => T.internalParse .unbuffered q.2 q.1) =
      (f.readOne .unbuffered bytes m).bind fun q => T.internalParse .unbuffered q.2 q.1 := by
  induction n generalizing bytes m with
  | zero => exact congrArg (Option.bind · _) (Field.readOne_context _ _ _ _)
  | succ n ih =>
    rw [Field.readMore, Option.bind_assoc, Field.readOne_context ctx .unbuffered]
    refine Option.bind_congr fun p _ => ?_
    rcases p with ⟨m', _ | ⟨b, rest⟩⟩
    · rfl
    · dsimp only
      split
      · next hmore =>
        have hb : b = UInt8.ofNat f.tag := by
          rw [← eq_of_beq (Bool.and_eq_true_iff.mp hmore).2]
          exact (UInt8.ofNat_toNat).symm
        have hcons : b :: rest = rt.varint f.tag ++ rest := by
          rw [rt.varint_small (f.repeated_lt hrep), hb]
          rfl
        rw [hcons, internalParse_tag hf]
        exact ih
      · rfl

theorem read_bind (hf : f ∈ T.fields) :
    ((f.read ctx bytes m).bind fun q => T.internalParse .unbuffered q.2 q.1) =
      (f.readOne .unbuffered bytes m).bind fun q => T.internalParse .unbuffered q.2 q.1 := by
  rw [Field.read]
  split
  · next hrep => exact readMore_bind hf hrep _
  · rw [Field.readOne_context ctx .unbuffered]

/-- **The buffers do not matter.** -/
theorem internalParse_context (ctx : ParseContext) (bytes : Bytes) (m : σ) :
    T.internalParse ctx bytes m = T.internalParse .unbuffered bytes m := by
  induction h : bytes.length using Nat.strongRecOn generalizing bytes m with
  | ind n ih =>
    by_cases hnil : bytes = []
    · rw [hnil]
      rfl
    · rw [internalParse_eq hnil, internalParse_eq hnil]
      rw [body_congr fun rest m' hrest => ih rest.length (h ▸ hrest) rest m' rfl]
      refine Option.bind_congr fun p _ => ?_
      split
      · next f hf =>
        rw [read_bind (mem_of_caseOf hf), Field.read_unbuffered]
      · rfl

/-! ## An accepted input in a longer one -/

theorem readOne_append {m' : σ} (h : f.readOne .unbuffered bytes m = some (m', rest))
    (more : Bytes) : f.readOne .unbuffered (bytes ++ more) m = some (m', rest ++ more) := by
  obtain ⟨⟨v, tail⟩, hv, hm⟩ := Option.bind_eq_some_iff.mp h
  obtain ⟨m₁, hstore, hp⟩ := Option.map_eq_some_iff.mp hm
  cases hp
  dsimp only at hstore
  rw [Field.readOne, (rt.readValue f.kind).append hv, Option.bind_some,
    f.store_context _ (ParseContext.unbuffered.pushLimit tail.length), hstore]
  rfl

/-- **An accepted input is read off any longer one.** -/
theorem internalParse_append {m' : σ} (h : T.internalParse .unbuffered bytes m = some (m', none))
    (more : Bytes) :
    T.internalParse .unbuffered (bytes ++ more) m = T.internalParse .unbuffered more m' := by
  induction hn : bytes.length using Nat.strongRecOn generalizing bytes m with
  | ind n ih =>
    by_cases hnil : bytes = []
    · rw [hnil] at h ⊢
      cases h
      rfl
    · rw [internalParse_eq hnil] at h
      obtain ⟨⟨tag, tail⟩, htag, hcase⟩ := Option.bind_eq_some_iff.mp h
      have htail : tail.length < n := hn ▸ rt.readTag.shorter htag
      rw [internalParse_eq (by simp [hnil]), body, rt.readTag.append htag, Option.bind_some]
      dsimp only at hcase ⊢
      split at hcase
      · next f hf =>
        obtain ⟨⟨m₁, rest⟩, hread, hnext⟩ := Option.bind_eq_some_iff.mp hcase
        have hrest := Field.read_shorter hread
        rw [Field.read_unbuffered] at hread
        rw [Field.read_unbuffered, readOne_append hread, Option.bind_some]
        exact ih _ (hrest.trans htail) hnext rfl
      · next hf =>
        split at hcase
        · cases hcase
        · next hstop =>
          obtain ⟨⟨u, rest⟩, hu, hnext⟩ := Option.bind_eq_some_iff.mp hcase
          rw [if_neg hstop, (rt.parseUnknown tag).append hu, Option.bind_some]
          exact ih _ (((rt.parseUnknown tag).shorter hu).trans htail) hnext rfl

/-! ## Sizes -/

theorem byteSize_eq (f : Field rt σ) (s : σ) : f.byteSize s = (f.serialize s).length := by
  rw [Field.byteSize, Field.serialize, List.length_flatMap, f.sizes_eq, List.map_map]
  congr 1
  refine List.map_congr_left fun v _ => ?_
  show f.tagSize + _ = (rt.varint f.tag ++ rt.write v).length
  rw [List.length_append, rt.length_varint, f.tagSize_eq]

/-- **The size is the number of bytes written.** -/
theorem byteSizeLong_eq (T : MessageType rt σ) (s : σ) :
    T.byteSizeLong s = (T.internalSerialize s).length := by
  rw [byteSizeLong, internalSerialize, List.length_append, List.length_flatMap]
  congr 2
  exact List.map_congr_left fun f _ => byteSize_eq f s

theorem size_le_byteSizeLong {s : σ} {n : ℕ} (hf : f ∈ T.fields) (hn : n ∈ f.sizes s) :
    n ≤ T.byteSizeLong s := by
  have hfield : n ≤ f.byteSize s :=
    (Nat.le_add_left n f.tagSize).trans (List.single_le_sum (fun _ _ => Nat.zero_le _) _
      (List.mem_map_of_mem hn))
  have hmessage : f.byteSize s ≤ (T.fields.map fun g => g.byteSize s).sum :=
    List.single_le_sum (fun _ _ => Nat.zero_le _) _
      (List.mem_map_of_mem (f := fun g => g.byteSize s) hf)
  exact hfield.trans (hmessage.trans (Nat.le_add_right _ _))

/-! ## A written message is read back -/

/-- The bytes `u` are one field that the table does not have, kept as `w`. -/
def IsUnknown (T : MessageType rt σ) (u w : Bytes) : Prop :=
  ∃ tag tail, rt.readTag.run u = some (tag, tail) ∧ T.caseOf tag = none ∧
    ¬ (tag % 8 = 4 ∨ tag = 0) ∧ (rt.parseUnknown tag).run tail = some (w, [])

/-- A message whose values are read back: its fields are sound, and its unknown fields are bytes
that are kept as they are. -/
def Sound (T : MessageType rt σ) (s : σ) : Prop :=
  (∀ f ∈ T.fields, f.Sound s) ∧ ∀ u ∈ unknown s, T.IsUnknown u u

theorem internalParse_isUnknown {u w : Bytes} (h : T.IsUnknown u w) :
    T.internalParse .unbuffered (u ++ rest) m =
      T.internalParse .unbuffered rest (addUnknown w m) := by
  obtain ⟨tag, tail, htag, hcase, hstop, hu⟩ := h
  have hne : u ≠ [] := by
    rintro rfl
    exact absurd (rt.readTag.shorter htag) (Nat.not_lt_zero _)
  rw [internalParse_eq (by simp [hne]), body, rt.readTag.append htag, Option.bind_some, hcase]
  dsimp only
  rw [if_neg hstop, (rt.parseUnknown tag).append hu, Option.bind_some, List.nil_append]

theorem internalParse_values {vs : List WireValue} {m' : σ} (hf : f ∈ T.fields)
    (hw : ∀ v ∈ vs, rt.Writable f.kind v)
    (hm : vs.foldlM (fun m v => f.store .unbuffered v m) m = some m') :
    T.internalParse .unbuffered
        ((vs.flatMap fun v => rt.varint f.tag ++ rt.write v) ++ rest) m =
      T.internalParse .unbuffered rest m' := by
  induction vs generalizing m with
  | nil =>
    cases hm
    rfl
  | cons v vs ih =>
    rw [List.foldlM_cons] at hm
    obtain ⟨m₁, hstore, hm⟩ := Option.bind_eq_some_iff.mp hm
    rw [List.flatMap_cons, List.append_assoc, List.append_assoc, internalParse_tag hf,
      Field.readOne, rt.readValue_write (hw v List.mem_cons_self), Option.bind_some,
      f.store_context _ .unbuffered, hstore]
    exact ih (fun w hmem => hw w (List.mem_cons_of_mem v hmem)) hm

theorem internalParse_field {s : σ} (hf : f ∈ T.fields) (hs : f.Sound s)
    (hsize : ∀ n ∈ f.sizes s, n ≤ rt.maxSize) :
    T.internalParse .unbuffered (f.serialize s ++ rest) m =
      T.internalParse .unbuffered rest (f.merge s m) :=
  internalParse_values hf (f.writable s hsize) (f.store_values s hs hsize _ m)

theorem internalParse_fields {s : σ} {fs : List (Field rt σ)} (hfs : fs ⊆ T.fields)
    (hs : ∀ f ∈ fs, f.Sound s) (hsize : ∀ f ∈ fs, ∀ n ∈ f.sizes s, n ≤ rt.maxSize) :
    T.internalParse .unbuffered ((fs.flatMap fun f => f.serialize s) ++ rest) m =
      T.internalParse .unbuffered rest (fs.foldl (fun m f => f.merge s m) m) := by
  induction fs generalizing m with
  | nil => rfl
  | cons f fs ih =>
    rw [List.flatMap_cons, List.append_assoc, internalParse_field (hfs List.mem_cons_self)
      (hs f List.mem_cons_self) (hsize f List.mem_cons_self)]
    exact ih (fun g hg => hfs (List.mem_cons_of_mem f hg))
      (fun g hg => hs g (List.mem_cons_of_mem f hg))
      (fun g hg => hsize g (List.mem_cons_of_mem f hg))

theorem internalParse_unknowns {us : List Bytes} (h : ∀ u ∈ us, T.IsUnknown u u) :
    T.internalParse .unbuffered (us.flatten ++ rest) m =
      T.internalParse .unbuffered rest (us.foldl (fun m u => addUnknown u m) m) := by
  induction us generalizing m with
  | nil => rfl
  | cons u us ih =>
    rw [List.flatten_cons, List.append_assoc,
      internalParse_isUnknown (h u List.mem_cons_self)]
    exact ih fun v hv => h v (List.mem_cons_of_mem u hv)

/-- **Reading a written message merges it** into the message read so far. -/
theorem internalParse_serialize {s : σ} (hs : T.Sound s) (hsize : T.byteSizeLong s ≤ rt.maxSize)
    (m : σ) (rest : Bytes) :
    T.internalParse .unbuffered (T.internalSerialize s ++ rest) m =
      T.internalParse .unbuffered rest (T.mergeFrom s m) := by
  have hfields : ∀ f ∈ T.fields, ∀ n ∈ f.sizes s, n ≤ rt.maxSize := by
    intro f hf n hn
    exact (size_le_byteSizeLong hf hn).trans hsize
  rw [internalSerialize, List.append_assoc,
    internalParse_fields (List.Subset.refl _) hs.1 hfields, internalParse_unknowns hs.2]
  rfl

end MessageType

/-! ## Unknown fields -/

/-- A message without its unknown fields. -/
def known (m : σ) : σ := setUnknown [] m

theorem known_addUnknown (u : Bytes) (m : σ) : known (addUnknown u m) = known m :=
  set_set _ _ _

namespace MessageType

variable {T : MessageType rt σ} {bytes : Bytes} {m m' : σ}

/-- What a value is stored in does not depend on the unknown fields, apart from those. -/
theorem readOne_known (f : Field rt σ) (bytes : Bytes) (h : known m = known m') :
    ((f.readOne .unbuffered bytes m).map fun q => (known q.1, q.2)) =
      (f.readOne .unbuffered bytes m').map fun q => (known q.1, q.2) := by
  rw [Field.readOne, Field.readOne, Option.map_bind, Option.map_bind]
  refine Option.bind_congr fun p _ => ?_
  have hstore : ∀ ctx, (f.store ctx p.1 m).map known = (f.store ctx p.1 m').map known := by
    intro ctx
    show (f.store ctx p.1 m).map (setUnknown []) = (f.store ctx p.1 m').map (setUnknown [])
    rw [← f.store_set, ← f.store_set]
    exact congrArg _ h
  show ((f.store _ p.1 m).map _).map _ = ((f.store _ p.1 m').map _).map _
  rw [Option.map_map, Option.map_map]
  have hpair := congrArg (Option.map fun s => (s, p.2))
    (hstore (ParseContext.unbuffered.pushLimit p.2.length))
  rw [Option.map_map, Option.map_map] at hpair
  exact hpair

/-- Reading on from messages with the same known fields gives messages with the same known
fields. -/
theorem internalParse_known (h : known m = known m') :
    ((T.internalParse .unbuffered bytes m).map fun q => (known q.1, q.2)) =
      (T.internalParse .unbuffered bytes m').map fun q => (known q.1, q.2) := by
  induction hn : bytes.length using Nat.strongRecOn generalizing bytes m m' with
  | ind n ih =>
    by_cases hnil : bytes = []
    · rw [hnil]
      exact congrArg (fun s => some (s, none)) h
    · rw [internalParse_eq hnil, internalParse_eq hnil, body, body, Option.map_bind,
        Option.map_bind]
      refine Option.bind_congr fun p hp => ?_
      have hlen : p.2.length < n := hn ▸ rt.readTag.shorter hp
      dsimp only [Function.comp]
      split
      · next f hf =>
        rw [Field.read_unbuffered, Field.read_unbuffered]
        have hread := readOne_known f p.2 h
        cases hone : f.readOne .unbuffered p.2 m with
        | none =>
          rw [hone, Option.map_none, eq_comm, Option.map_eq_none_iff] at hread
          rw [hread]
        | some q =>
          rw [hone, Option.map_some, eq_comm, Option.map_eq_some_iff] at hread
          obtain ⟨q', hq', heq⟩ := hread
          obtain ⟨hm, hrest⟩ := Prod.mk.inj heq
          rw [hq', Option.bind_some, Option.bind_some, hrest]
          exact ih _ ((Field.readOne_shorter hone).trans hlen) hm.symm rfl
      · split
        · exact congrArg (fun s => some (s, some p.1)) h
        · rw [Option.map_bind, Option.map_bind]
          refine Option.bind_congr fun q hq => ?_
          have hadd : known (addUnknown q.1 m) = known (addUnknown q.1 m') := by
            rw [known_addUnknown, known_addUnknown, h]
          exact ih _ (((rt.parseUnknown p.1).shorter hq).trans hlen) hadd rfl

/-- **An unknown field does not change the known ones**, between any two fields. -/
theorem internalParse_unknown {before u w after : Bytes} {s : σ}
    (hbefore : T.internalParse .unbuffered before m = some (s, none)) (hu : T.IsUnknown u w) :
    ((T.internalParse .unbuffered (before ++ (u ++ after)) m).map fun q => (known q.1, q.2)) =
      (T.internalParse .unbuffered (before ++ after) m).map fun q => (known q.1, q.2) := by
  rw [internalParse_append hbefore, internalParse_append hbefore, internalParse_isUnknown hu]
  exact internalParse_known (known_addUnknown w s)

/-! ## What is read is sound -/

/-- What a field stores keeps a message sound for every field of the table. -/
def Stable (T : MessageType rt σ) : Prop :=
  ∀ f ∈ T.fields, ∀ ctx v m m', f.store ctx v m = some m' →
    (∀ g ∈ T.fields, g.Sound m) → ∀ g ∈ T.fields, g.Sound m'

/-- A field stores a value beside the unknown fields. -/
theorem unknown_store {f : Field rt σ} {ctx : ParseContext} {v : WireValue}
    (h : f.store ctx v m = some m') : unknown m' = unknown m := by
  have hset := f.store_set ctx v (unknown m) m
  rw [set_unknown, h, Option.map_some] at hset
  rw [Option.some.inj hset, unknown_set]

theorem Sound.store (hT : T.Stable) {f : Field rt σ} (hf : f ∈ T.fields) {ctx : ParseContext}
    {v : WireValue} (hm : T.Sound m) (h : f.store ctx v m = some m') : T.Sound m' := by
  refine ⟨hT f hf ctx v m m' h hm.1, ?_⟩
  rw [unknown_store h]
  exact hm.2

theorem Sound.addUnknown {u : Bytes} (hm : T.Sound m) (hu : T.IsUnknown u u) :
    T.Sound (addUnknown u m) := by
  refine ⟨fun f hf => f.sound_set _ _ (hm.1 f hf), fun w hw => ?_⟩
  rw [WireFormat.addUnknown, unknown_set] at hw
  rcases List.mem_append.mp hw with hw | hw
  · exact hm.2 w hw
  · rw [List.mem_singleton.mp hw]
    exact hu

/-- An unknown field is kept as bytes that are kept as they are. -/
theorem isUnknown_of_parseUnknown {tag : ℕ} {tail u rest : Bytes}
    (htag : rt.readTag.run bytes = some (tag, tail)) (hcase : T.caseOf tag = none)
    (hstop : ¬ (tag % 8 = 4 ∨ tag = 0)) (hu : (rt.parseUnknown tag).run tail = some (u, rest)) :
    T.IsUnknown u u := by
  have hlt := rt.readTag_lt htag
  obtain ⟨body, rfl, hbody⟩ := rt.unknown_again hlt hu
  exact ⟨tag, body, rt.readTag_varint hlt body, hcase, hstop, hbody⟩

/-- **Whatever is read is sound**, also where reading stops early. -/
theorem Sound.internalParse (hT : T.Stable) (hm : T.Sound m) {stop : Option ℕ}
    (h : T.internalParse .unbuffered bytes m = some (m', stop)) : T.Sound m' := by
  induction hn : bytes.length using Nat.strongRecOn generalizing bytes m with
  | ind n ih =>
    by_cases hnil : bytes = []
    · rw [hnil] at h
      cases h
      exact hm
    · rw [internalParse_eq hnil] at h
      obtain ⟨⟨tag, tail⟩, htag, hcase⟩ := Option.bind_eq_some_iff.mp h
      have htail : tail.length < n := hn ▸ rt.readTag.shorter htag
      dsimp only at hcase
      split at hcase
      · next f hf =>
        obtain ⟨⟨m₁, rest⟩, hread, hnext⟩ := Option.bind_eq_some_iff.mp hcase
        have hrest := Field.read_shorter hread
        rw [Field.read_unbuffered] at hread
        obtain ⟨p, -, hmap⟩ := Option.bind_eq_some_iff.mp hread
        obtain ⟨m₂, hstore, hp⟩ := Option.map_eq_some_iff.mp hmap
        cases hp
        exact ih _ (hrest.trans htail) (hm.store hT (mem_of_caseOf hf) hstore) hnext rfl
      · next hf =>
        split at hcase
        · cases hcase
          exact hm
        · next hstop =>
          obtain ⟨⟨u, rest⟩, hu, hnext⟩ := Option.bind_eq_some_iff.mp hcase
          have hsound := hm.addUnknown (isUnknown_of_parseUnknown htag hf hstop hu)
          exact ih _ (((rt.parseUnknown tag).shorter hu).trans htail) hsound hnext rfl

theorem Sound.endedAtLimit (hT : T.Stable) (hm : T.Sound m)
    (h : WireFormat.endedAtLimit (T.internalParse .unbuffered bytes m) = some m') :
    T.Sound m' := by
  cases hread : T.internalParse .unbuffered bytes m with
  | none =>
    rw [hread] at h
    cases h
  | some q =>
    rcases q with ⟨m₁, _ | tag⟩
    · rw [hread] at h
      cases h
      exact hm.internalParse hT hread
    · rw [hread] at h
      cases h

/-! ## Whole inputs -/

/-- `ParseFromString`: the message is cleared and read up to the end of the input. -/
def parse [Inhabited σ] (T : MessageType rt σ) (ctx : ParseContext) (bytes : Bytes) : Option σ :=
  endedAtLimit (T.internalParse ctx bytes default)

theorem parse_context [Inhabited σ] (ctx : ParseContext) (bytes : Bytes) :
    T.parse ctx bytes = T.parse .unbuffered bytes := by
  rw [parse, parse, internalParse_context]

/-- **Messages written one after the other are read as one**, into which they are merged in
order. -/
theorem parse_flatMap [Inhabited σ] {ss : List σ} (hs : ∀ s ∈ ss, T.Sound s)
    (hsize : ∀ s ∈ ss, T.byteSizeLong s ≤ rt.maxSize) (ctx : ParseContext) :
    T.parse ctx (ss.flatMap T.internalSerialize) =
      some (ss.foldl (fun m s => T.mergeFrom s m) default) := by
  have hread : ∀ m, T.internalParse .unbuffered (ss.flatMap T.internalSerialize) m =
      some (ss.foldl (fun m s => T.mergeFrom s m) m, none) := by
    induction ss with
    | nil => exact fun m => rfl
    | cons s ss ih =>
      intro m
      rw [List.flatMap_cons, internalParse_serialize (hs s List.mem_cons_self)
        (hsize s List.mem_cons_self)]
      exact ih (fun t ht => hs t (List.mem_cons_of_mem s ht))
        (fun t ht => hsize t (List.mem_cons_of_mem s ht)) _
  rw [parse_context, parse, hread]
  rfl

/-- An input is accepted when reading it from the empty message ends at its end. -/
theorem parse_eq_some [Inhabited σ] {ctx : ParseContext} :
    T.parse ctx bytes = some m ↔ T.internalParse .unbuffered bytes default = some (m, none) := by
  rw [parse_context, parse]
  rcases T.internalParse .unbuffered bytes default with _ | ⟨m₁, _ | tag⟩
  · simp [WireFormat.endedAtLimit]
  · simp [WireFormat.endedAtLimit]
  · simp [WireFormat.endedAtLimit]

theorem map_known_parse [Inhabited σ] (ctx : ParseContext) (bytes : Bytes) :
    (T.parse ctx bytes).map known = WireFormat.endedAtLimit
      ((T.internalParse .unbuffered bytes default).map fun q => (known q.1, q.2)) := by
  rw [parse_context, parse]
  rcases T.internalParse .unbuffered bytes default with _ | ⟨m₁, _ | tag⟩ <;> rfl

/-- **An unknown field behind an accepted input** does not change what is known of the message. -/
theorem parse_unknown [Inhabited σ] {ctx : ParseContext} {before u w after : Bytes}
    (hbefore : T.parse ctx before = some m) (hu : T.IsUnknown u w) :
    (T.parse ctx (before ++ (u ++ after))).map known =
      (T.parse ctx (before ++ after)).map known := by
  rw [map_known_parse, map_known_parse, internalParse_unknown (parse_eq_some.mp hbefore) hu]

/-- What the table of a type of messages owes: a message merged into the empty one is copied, and
the messages read are sound. -/
structure Lawful [Inhabited σ] (T : MessageType rt σ) : Prop where
  mergeFrom_default : ∀ s, T.mergeFrom s default = s
  sound_default : T.Sound default
  stable : T.Stable

namespace Lawful

variable [Inhabited σ] (hT : T.Lawful)

include hT in
/-- **A written message is read back.** -/
theorem parse_internalSerialize {s : σ} (hs : T.Sound s) (hsize : T.byteSizeLong s ≤ rt.maxSize)
    (ctx : ParseContext) : T.parse ctx (T.internalSerialize s) = some s := by
  have hread : T.parse ctx ([s].flatMap T.internalSerialize) = _ :=
    parse_flatMap (by simpa using hs) (by simpa using hsize) ctx
  rw [List.flatMap_singleton, List.foldl_cons, List.foldl_nil, hT.mergeFrom_default] at hread
  exact hread

include hT in
theorem sound_of_parse {ctx : ParseContext} (h : T.parse ctx bytes = some m) : T.Sound m := by
  exact hT.sound_default.internalParse hT.stable (parse_eq_some.mp h)

end Lawful

end MessageType

end WireFormat
